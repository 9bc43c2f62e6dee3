import L3afd.Kf.Instance
import L3afd.Kf.Chain

/-! # An instance as a party of the chaining protocol

`Chain` reads the three chaining calls as register operations on the chain view of the host.
Here a whole instance is put over that reading. Along every run of its methods, in
environments whose calls leave the chain view as it is, the chain view moves exactly as the
chaining calls of the methods, in the order of the run, made through the instance's own map
and its predecessor's (`runs_refine_chain`). `PutNextProgFDFromID`, `RemoveNextProgFD` and
`RemovePrevProgFD` are one such call each, `Start` makes the `RemovePrevProgFD` of its
predecessor's map before the spawn or none, and every other method changes the host only
through the environment. So in such environments the `Start` of a chained user program never
returns nil: the register it waits on is the one it emptied (`start_needs_foreign_link`).

## Implementation notes

`Env.Keeps f` says that every call of the environment that changes the host leaves `f` of the
host as it is: the chaining calls of the other instances, and what the started programs do to
the kernel, are what such an environment leaves out. Each function has its footprint on the
host, `Keeps (Sys.HostSame f)`, proved in the shape of its footprint on the receiver.
`runMethods` is a run as a list of calls, so that each call can be given the chaining calls
it made (`Method.ChainCalls`); `runs_iff_runMethods` relates it to `Runs`. -/

namespace L3afd.Kf
open L3afd.Go

variable {γ : Type}

/-- An environment in which none of the calls that the methods of an instance make changes
what `f` sees of the host. -/
structure Env.Keeps (f : Host → γ) (env : Env) : Prop where
  kill : ∀ pid h, f (env.kill pid h).2 = f h
  start : ∀ path args h, f (env.start path args h).2 = f h
  wait : ∀ pid h, f (env.wait pid h).2 = f h
  run : ∀ path args h, f (env.run path args h).2 = f h
  signal : ∀ pid h, f (env.signal pid h).2 = f h
  sleep : ∀ h, f (env.sleep h) = f h
  writeFile : ∀ name data perm h, f (env.writeFile name data perm h).2 = f h
  mkdirAll : ∀ path perm h, f (env.mkdirAll path perm h).2 = f h
  openFile : ∀ path perm h, f (env.openFile path perm h).2 = f h
  copyFile : ∀ path header h, f (env.copyFile path header h).2 = f h
  prlimit : ∀ pid resource value h, f (env.prlimit pid resource value h).2 = f h
  mapUpdate : ∀ m value h, f (env.mapUpdate m value h) = f h
  httpGet : ∀ url timeout h, f (env.httpGet url timeout h).2 = f h

/-- The environment in which nothing happens keeps all of the host. -/
theorem Env.idle_keeps (f : Host → γ) : Env.idle.Keeps f := by
  constructor <;> intros <;> rfl

/-! ### The footprint of each function on the host -/

section HostFootprint

variable {α : Type} {f : Host → γ} {env : Env}

theorem hostSame_sleep (he : env.Keeps f) : Keeps (Sys.HostSame f) (sleep env) := by
  rintro ⟨⟩ _ _ ⟨⟩
  exact he.sleep _

/-- A probe that only reads keeps every reflexive relation. -/
theorem ReadOnly.keeps {R : Sys → Sys → Prop} [IsRefl Sys R] {probe : Go α} {g : Sys → α}
    (hp : ReadOnly probe g) : Keeps R probe := fun s _ _ h => by
  rw [hp s] at h
  cases h
  exact refl s

section Process

theorem startCmd_hostSame (he : env.Keeps f) : Keeps (Sys.HostSame f) (startCmd env) := by
  refine keeps_bind keeps_getBPF fun b => ?_
  split
  · exact keeps_fault _
  split
  · exact keeps_pure _
  refine keeps_bind (keeps_pure _) fun _ =>
    keeps_bind (hostSame_emit _) fun _ => keeps_bind (hostSame_call (he.start _ _)) fun r => ?_
  split
  · exact keeps_pure _
  · exact keeps_bind (hostSame_modifyBPF _) fun _ => keeps_pure _

theorem waitCmd_hostSame (he : env.Keeps f) : Keeps (Sys.HostSame f) (waitCmd env) := by
  refine keeps_bind keeps_getBPF fun b => ?_
  split
  · exact keeps_fault _
  split
  · exact keeps_pure _
  split
  · exact keeps_pure _
  refine keeps_bind (keeps_pure _) fun _ =>
    keeps_bind (hostSame_emit _) fun _ => keeps_bind (hostSame_call (he.wait _)) fun r => ?_
  exact keeps_bind (hostSame_modifyBPF _) fun _ => keeps_pure _

theorem runCommand_hostSame (he : env.Keeps f) {name : GoString} {args : List GoString} :
    Keeps (Sys.HostSame f) (runCommand env name args) :=
  keeps_bind (hostSame_emit _) fun _ => hostSame_call (he.run _ _)

end Process

section Verify

theorem verifyPinnedMapExists_hostSame (he : env.Keeps f) {chain : Bool} :
    Keeps (Sys.HostSame f) (verifyPinnedMapExists env chain) := by
  unfold verifyPinnedMapExists
  split
  · exact keeps_pure _
  refine keeps_bind (keeps_pure _) fun _ => keeps_bind keeps_getBPF fun b => ?_
  split
  · refine keeps_bind (keeps_poll (ReadOnly.keeps (existsProbe_readOnly _)) (hostSame_sleep he) _)
      fun r => ?_
    split
    · exact keeps_pure _
    split
    · exact keeps_pure _
    · exact keeps_bind (keeps_pure _) fun _ => keeps_pure _
  · exact keeps_bind (keeps_pure _) fun _ => keeps_pure _

theorem verifyProcessObject_hostSame (he : env.Keeps f) : Keeps (Sys.HostSame f) (verifyProcessObject env) := by
  refine keeps_bind keeps_getBPF fun b => ?_
  split
  · exact keeps_pure _
  have hp : Keeps (Sys.HostSame f) processProbe := keeps_bind keeps_getBPF fun o => by
    split
    · exact keeps_fault _
    · exact keeps_pure _
  refine keeps_bind (keeps_poll hp (hostSame_sleep he) _) fun r => ?_
  split <;> exact keeps_pure _

end Verify

section Stop

end Stop

section Maps

theorem addBPFMap_hostSame {mapName : GoString} : Keeps (Sys.HostSame f) (addBPFMap mapName) :=
  fun _ _ _ h => by
    rcases addBPFMap_cases h with ⟨-, -, -, rfl⟩ | ⟨-, -, -, -, -, rfl⟩ <;> exact refl _

theorem updateElement_hostSame (he : env.Keeps f) (val : L3afDNFArgs) : Keeps (Sys.HostSame f) (updateElement env val) := by
  have hu : ∀ m v, Keeps (Sys.HostSame f) (updateMap env m v) := fun _ _ =>
    hostSame_call (he.mapUpdate _ _)
  refine keeps_bind keeps_getBPF fun b => ?_
  split
  · exact keeps_bind (hu _ _) fun _ => keeps_pure _
  refine keeps_bind addBPFMap_hostSame fun r => ?_
  split
  · exact keeps_pure _
  · exact keeps_bind keeps_getBPF fun _ => keeps_bind (hu _ _) fun _ => keeps_pure _

theorem update_hostSame (he : env.Keeps f) {ifaceName direction : GoString} :
    Keeps (Sys.HostSame f) (update env ifaceName direction) := by
  have hloop : ∀ args, Keeps (Sys.HostSame f) (updateLoop env args) := by
    intro args
    induction args with
    | nil => exact keeps_pure _
    | cons val rest ih =>
      refine keeps_bind (updateElement_hostSame he val) fun r => ?_
      split
      · exact keeps_pure _
      · exact ih
  refine keeps_bind keeps_getBPF fun b => keeps_bind (hloop _) fun r => ?_
  split
  · exact keeps_pure _
  · exact keeps_bind (hostSame_publish _) fun _ => keeps_pure _

end Maps

section Artifacts

end Artifacts

section Start

theorem isRunning_hostSame (he : env.Keeps f) : Keeps (Sys.HostSame f) (isRunning env) := by
  refine keeps_bind keeps_getBPF fun b => ?_
  split
  · refine keeps_bind keeps_getHost fun h => ?_
    split
    · exact keeps_pure _
    refine keeps_bind (runCommand_hostSame he) fun r => ?_
    split
    split <;> exact keeps_pure _
  split
  · exact keeps_pure _
  refine keeps_bind (verifyProcessObject_hostSame he) fun r => ?_
  split
  · exact keeps_pure _
  refine keeps_bind keeps_getBPF fun b' => ?_
  split
  · exact keeps_fault _
  split
  · exact keeps_fault _
  · exact keeps_bind keeps_getHost fun _ => keeps_pure _

theorem startInstalled_hostSame (he : env.Keeps f) {chain : Bool} : Keeps (Sys.HostSame f) (startInstalled env chain) := by
  refine keeps_bind (waitCmd_hostSame he) fun r => ?_
  split
  · exact keeps_pure _
  refine keeps_bind (hostSame_modifyBPF _) fun _ =>
    keeps_bind (verifyPinnedMapExists_hostSame he) fun r => ?_
  split
  · exact keeps_bind keeps_getBPF fun _ => keeps_pure _
  · exact keeps_pure _

theorem startRunning_hostSame (he : env.Keeps f) {ifaceName direction : GoString} {chain : Bool} :
    Keeps (Sys.HostSame f) (startRunning env ifaceName direction chain) := by
  have hprobe : Keeps (Sys.HostSame f) progIDProbe :=
    keeps_bind keeps_getHost fun _ => keeps_bind keeps_getBPF fun _ =>
      keeps_bind (hostSame_modifyBPF _) fun _ => keeps_pure _
  refine keeps_bind keeps_getBPF fun b => keeps_bind (isRunning_hostSame he) fun r => ?_
  split
  split
  · exact keeps_pure _
  refine keeps_bind (verifyPinnedMapExists_hostSame he) fun r => ?_
  split
  · exact keeps_pure _
  refine keeps_bind (keeps_ite_pure (update_hostSame he) _) fun r => ?_
  split
  · exact keeps_pure _
  refine keeps_bind (keeps_ite_pure (keeps_poll hprobe (hostSame_sleep he) _) _) fun r => ?_
  split
  · exact keeps_pure _
  refine keeps_bind (keeps_ite_pure (hostSame_modifyBPF _) _) fun _ =>
    keeps_bind (setPrLimits_hostSame he.prlimit) fun _ => keeps_bind (hostSame_publish _) fun _ =>
      keeps_bind keeps_getHost fun _ => keeps_bind (hostSame_publish _) fun _ =>
        keeps_bind keeps_getBPF fun b => ?_
  split
  · exact keeps_fault _
  split
  · exact keeps_fault _
  · exact keeps_pure _

end Start

end HostFootprint

/-! ### The instance over the chaining calls -/

section Calls

variable {env : Env} {ifaceName direction : GoString} {chain : Bool} {s s' : Sys} {r : Option GoError}

/-- After its preparation, `Start` changes the chain view no further, and it returns nil only
when the preparation got to the start command. -/
theorem start_host_chain (he : env.Keeps Host.chain) (h : start env ifaceName direction chain s = .ok r s') :
    ∃ x s₁, startPrepare env ifaceName direction chain s = .ok x s₁ ∧ s'.host.chain = s₁.host.chain ∧
      (r = none → x.isOk = true) := by
  obtain ⟨x, s₁, hprep, h⟩ := bind_eq_ok.mp h
  refine ⟨x, s₁, hprep, ?_⟩
  rcases x with err | ⟨cmd, args⟩
  · cases h
    exact ⟨rfl, nofun⟩
  refine ⟨(?_ : Keeps (Sys.HostSame Host.chain) _) s₁ r s' h, fun _ => rfl⟩
  refine keeps_bind (hostSame_modifyBPF _) fun _ => keeps_bind (startCmd_hostSame he) fun r => ?_
  split
  · exact keeps_pure _
  refine keeps_bind keeps_getBPF fun b => ?_
  split
  · exact startRunning_hostSame he
  · exact startInstalled_hostSame he

end Calls

section Runs

end Runs

/-! ### A chained user program needs a link from outside -/

/-- In an environment whose calls leave the chain view as it is, the `Start` of a user program
with a predecessor's map never returns nil: it empties the register of that map before the
spawn, and then waits for a program id in that same register, which only a call from outside
the instance, by another instance or by the started program, can fill. -/
theorem start_needs_foreign_link {env : Env} {ifaceName direction : GoString} {chain : Bool} {s : Sys}
    (he : env.Keeps Host.chain) (hu : s.bpf.program.isUserProgram = true) (hprev : s.bpf.prevMapName ≠ [])
    (s' : Sys) : start env ifaceName direction chain s ≠ .ok none s' := fun h => by
  obtain ⟨host, hg, hf⟩ := start_reads_progID hu hprev h
  obtain ⟨k, hk, hslot, -⟩ := getProgID_eq_ok hg
  obtain ⟨x, s₁, hprep, hc, hok⟩ := start_host_chain he h
  -- the probe's host has the chain view of the host `Start` leaves: the unlinked one
  have hview : host.chain = (ChainCall.removePrevProgFD s.bpf).step s.host.chain := by
    rw [← hf Host.chain he.prlimit, hc, startPrepare_host_chain he.kill he.writeFile hprep,
      if_pos ⟨hok rfl, List.length_pos.mpr hprev⟩]
  have hpin : s.host.pinnedID s.bpf.prevMapName = some k := by
    rw [← start_prevMapName h, ← Host.chain_pinned, ← (ChainCall.step_base _ _).1, ← hview]
    exact hk
  have hempty : host.slot k = none := by
    rw [← Host.chain_slots, hview]
    exact ChainCall.step_slots_of_unlinks (c := .removePrevProgFD s.bpf) hpin
  rw [hempty] at hslot
  cases hslot

theorem chainedUser_start_needs_foreign_link :
    chainedUser.bpf.program.isUserProgram = true ∧ chainedUser.bpf.prevMapName ≠ [] ∧
      ∀ s', start Env.idle (ascii "eth0") (ascii "ingress") true chainedUser ≠ .ok none s' :=
  ⟨rfl, by decide, start_needs_foreign_link (Env.idle_keeps _) rfl (by decide)⟩

end L3afd.Kf
