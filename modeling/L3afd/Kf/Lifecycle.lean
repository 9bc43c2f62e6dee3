import L3afd.Kf.Start

/-! # The life of an instance

An instance goes through calls of `VerifyAndGetArtifacts`, `Start` and `Stop`, each in its
own environment. Along every such run two things stay as they were built: the program, and
for a program that is not a user program, a `Done` that no config loop receives from, since
only a user program's `Start` makes `b.Done` and starts the loop.

So for a program that is not a user program and has a config loop, every `Stop` of every
state a run reaches blocks on the send on `b.Done` (`reachable_stop_blocks`, in `Instance`,
where the runs of every method carry the same preorder). A fetch and the probe of
`VerifyAndGetArtifacts` agree on the directory of a program (`verifyAndGetArtifacts_after_fetch`).

## Implementation notes

`BPF.Lifecycle` is the preorder that each call keeps. For `Start` the footprint lemmas of its
two ways are used on the side that the branch on `IsUserProgram` takes. -/

namespace L3afd.Kf
open L3afd.Go

/-- From `b` to `b'` along the life of an instance: the program stays the same, and a program
that is not a user program gets no `Done` that a config loop listens on. -/
def BPF.Lifecycle (b b' : BPF) : Prop :=
  b'.program = b.program ∧
    (b.program.isUserProgram = false → b.done ≠ .listening → b'.done ≠ .listening)

instance : IsPreorder BPF BPF.Lifecycle where
  refl _ := ⟨rfl, fun _ h => h⟩
  trans _ _ _ h₁ h₂ := ⟨h₂.1.trans h₁.1, fun hu hd => h₂.2 (h₁.1 ▸ hu) (h₁.2 hu hd)⟩

section Calls

variable {env : Env} {ifaceName direction : GoString} {chain : Bool}

theorem start_lifecycle :
    Keeps (Sys.Within BPF.Lifecycle fun _ => True) (start env ifaceName direction chain) := by
  have hcmd : ∀ b c, BPF.Lifecycle b { b with cmd := c } := fun _ _ => ⟨rfl, fun _ h => h⟩
  refine keeps_bind (startPrepare_within (fun _ => trivial) fun _ => trivial) fun r => ?_
  split
  · exact keeps_pure _
  refine keeps_bind (within_modifyBPF fun b => hcmd b _) fun _ =>
    keeps_bind (startCmd_within hcmd fun _ _ => trivial) fun r => ?_
  split
  · exact keeps_pure _
  refine keeps_getBPF_bind fun s a s' h => ?_
  split at h
  · next hu =>
    obtain ⟨hp, t, ht, -⟩ := startRunning_within (P := BPF.Same BPF.program) (Q := fun _ => True)
      (fun _ _ => rfl) (fun _ _ => rfl) (fun _ => rfl) (fun _ _ => trivial) (fun _ _ _ => trivial) s a s' h
    exact ⟨⟨hp, fun hu' => absurd hu (by rw [hu']; decide)⟩, t, ht, fun _ _ => trivial⟩
  · exact startInstalled_within hcmd (fun _ => trivial) s a s' h

end Calls

/-! ### Runs -/

/-- A call the supervisor makes on an instance. -/
inductive Call where
  | verifyAndGetArtifacts (conf : Config)
  | start (ifaceName direction : GoString) (chain : Bool)
  | stop (ifaceName direction : GoString) (chain : Bool)

/-- The method a call runs. -/
def Call.run (env : Env) : Call → Go (Option GoError)
  | .verifyAndGetArtifacts conf => Kf.verifyAndGetArtifacts env conf
  | .start ifaceName direction chain => Kf.start env ifaceName direction chain
  | .stop ifaceName direction chain => Kf.stop env ifaceName direction chain

/-- The states an instance reaches from `s₀` by calls that return, each in its own
environment. -/
inductive Reachable (s₀ : Sys) : Sys → Prop
  | init : Reachable s₀ s₀
  | step {s s' : Sys} {r : Option GoError} (env : Env) (c : Call) :
      Reachable s₀ s → c.run env s = .ok r s' → Reachable s₀ s'

/-- A receiver whose life began at `NewBpfProgram` of a program that is not a user program
and has a config loop blocks in every `Stop`: no config loop listens on its `Done`. -/
theorem stop_blocks_of_lifecycle {p : BPFProgram} {logDir dataCenter : GoString} {s : Sys}
    (hu : p.isUserProgram = false) (hl : p.hasConfigLoop = true)
    (h : BPF.Lifecycle (newBpfProgram p logDir dataCenter) s.bpf) (env : Env) (ifaceName direction : GoString)
    (chain : Bool) : ∃ s', stop env ifaceName direction chain s = .error .blockedSend s' := by
  obtain ⟨hp, hd⟩ := h
  exact stop_blocks (hp ▸ hu) (hp ▸ hl) (hd hu (by simp [newBpfProgram]))

/-- The directory `VerifyAndGetArtifacts` probes is the `FilePath` that a fetch of the same
program sets. So once a fetch has returned nil, every instance of that program, the fetching
one or a fresh one, in any state and under any environment, takes that directory when it
exists, with no call at all, and fetches exactly when it does not. -/
theorem verifyAndGetArtifacts_after_fetch {env : Env} {conf : Config} {s s' : Sys}
    (h : getArtifacts env conf s = .ok none s') :
    s'.bpf.filePath = join [conf.bpfDir, s.bpf.program.name, s.bpf.program.version,
      splitHead s.bpf.program.artifact 0x2E] ∧
    ∀ (env' : Env) (t : Sys), t.bpf.program = s.bpf.program →
      verifyAndGetArtifacts env' conf t =
        if (t.host.fs s'.bpf.filePath).isSome then
          .ok none { t with bpf := { t.bpf with filePath := s'.bpf.filePath } }
        else getArtifacts env' conf t := by
  have hf : s'.bpf.filePath = join [conf.bpfDir, s.bpf.program.name, s.bpf.program.version,
      splitHead s.bpf.program.artifact 0x2E] := by
    rw [getArtifacts_filePath h, ← join_append_singleton]
    rfl
  refine ⟨hf, fun env' t hp => ?_⟩
  have hpath : join [conf.bpfDir, t.bpf.program.name, t.bpf.program.version,
      splitHead t.bpf.program.artifact 0x2E] = s'.bpf.filePath := by rw [hp, hf]
  simp only [verifyAndGetArtifacts, bind_apply, getBPF_apply, stat_apply, hpath]
  rcases t.host.fs s'.bpf.filePath with _ | x <;> rfl

theorem verifyAndGetArtifacts_after_fetch_nf :
    ∃ s', getArtifacts Env.idle nfConf nfDownload = .ok none s' ∧
      (s'.bpf.filePath = join [ascii "/bpf", ascii "nf", ascii "1", ascii "nf"] ∧
        ∀ (env' : Env) (t : Sys), t.bpf.program = nfDownload.bpf.program →
          verifyAndGetArtifacts env' nfConf t =
            if (t.host.fs s'.bpf.filePath).isSome then
              .ok none { t with bpf := { t.bpf with filePath := s'.bpf.filePath } }
            else getArtifacts env' nfConf t) :=
  let ⟨s', h⟩ : ∃ s', getArtifacts Env.idle nfConf nfDownload = .ok none s' := ⟨_, rfl⟩
  ⟨s', h, verifyAndGetArtifacts_after_fetch h⟩

/-- `nf` with a config loop. -/
def nfConfiguredPackage : BPFProgram :=
  { nfPackage with cmdConfig := ascii "kfconfig", configFilePath := ascii "/etc/nf.json" }

/-- `nf` with a config loop, as built by `NewBpfProgram`, on a host where it is unpacked. -/
def nfConfigured : Sys := { bpf := newBpfProgram nfConfiguredPackage [] [], host := nfInstallHost }

end L3afd.Kf
