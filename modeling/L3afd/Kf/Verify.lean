import L3afd.Kf.Calls

/-! # The retry loops

`VerifyPinnedMapExists`, `VerifyPinnedMapVanish`, `VerifyProcessObject` and
`VerifyMetricsMapsVanish` are one loop with different probes: up to ten probes, one second
apart, stopping at the first success. `poll` is that loop; each function is `poll` at its
own probe, followed by its own message.

A probe that only reads leaves the state alone, and the loop changes nothing but the host,
through its sleeps (`poll_frame`). When the loop succeeds, the last probe saw success in the
state the loop returns (`poll_ok_read`). Over the hosts the sleeps go through, the loop
returns the first hit after one sleep per miss (`poll_hit`), or the last miss after a sleep per
probe (`poll_miss`); `verifyPinnedMapExists_polls` is that at the probe of a pin. -/

namespace L3afd.Kf
open L3afd.Go

variable {ε α : Type}

/-- `for i := 0; i < n; i++ { if probe succeeds { break }; time.Sleep(1 * time.Second) }`:
the probe's first success, or the error of its last miss (`last` when `n = 0`). -/
def poll (env : Env) (probe : Go (Except ε α)) (last : ε) : Nat → Go (Except ε α)
  | 0 => pure (.error last)
  | n + 1 => do
    match ← probe with
    | .ok a => pure (.ok a)
    | .error e => sleep env; poll env probe e n

/-- The loop keeps every relation its probe and its sleep keep. -/
theorem keeps_poll {R : Sys → Sys → Prop} [IsPreorder Sys R] {env : Env} {probe : Go (Except ε α)}
    (hp : Keeps R probe) (hs : Keeps R (sleep env)) : ∀ {last : ε} (n : Nat), Keeps R (poll env probe last n)
  | _, 0 => keeps_pure _
  | _, n + 1 => keeps_bind hp fun r => by
      split
      · exact keeps_pure _
      · exact keeps_bind hs fun _ => keeps_poll hp hs n

/-- The state apart from the host: what the code keeps for itself. -/
def Sys.Frame (s s' : Sys) : Prop :=
  s'.bpf = s.bpf ∧ s'.stats = s.stats ∧ s'.trace = s.trace ∧ s'.pool = s.pool

theorem Sys.Frame.refl (s : Sys) : Sys.Frame s s := ⟨rfl, rfl, rfl, rfl⟩

theorem Sys.Frame.trans {s₁ s₂ s₃ : Sys} (h₁ : Sys.Frame s₁ s₂) (h₂ : Sys.Frame s₂ s₃) :
    Sys.Frame s₁ s₃ :=
  ⟨h₂.1.trans h₁.1, h₂.2.1.trans h₁.2.1, h₂.2.2.1.trans h₁.2.2.1, h₂.2.2.2.trans h₁.2.2.2⟩

/-- A step that changes nothing but the host is within every footprint. -/
theorem Sys.Frame.within {P : BPF → BPF → Prop} {Q : Effect → Prop} [IsPreorder BPF P] {s s' : Sys}
    (h : Sys.Frame s s') : Sys.Within P Q s s' :=
  ⟨h.1 ▸ IsRefl.refl _, [], by rw [h.2.2.1, List.append_nil], by simp⟩

/-- A probe that reads the state and changes nothing. -/
def ReadOnly (probe : Go α) (f : Sys → α) : Prop := ∀ s, probe s = .ok (f s) s

/-- A loop over a read-only probe changes nothing but the host. -/
theorem poll_frame {env : Env} {probe : Go (Except ε α)} {f : Sys → Except ε α}
    (hp : ReadOnly probe f) :
    ∀ {n : Nat} {last : ε} {s s' : Sys} {r : Except ε α}, poll env probe last n s = .ok r s' →
      Sys.Frame s s'
  | 0, _, s, s', r, h => by
      simp only [poll, pure_apply, EStateM.Result.ok.injEq] at h
      exact h.2 ▸ Sys.Frame.refl s
  | n + 1, _, s, s', r, h => by
      simp only [poll, bind_apply, hp s] at h
      cases hf : f s with
      | ok a =>
          simp only [hf, pure_apply, EStateM.Result.ok.injEq] at h
          exact h.2 ▸ Sys.Frame.refl s
      | error e =>
          simp only [hf, bind_apply, sleep_apply] at h
          have hs : Sys.Frame s { s with host := env.sleep s.host } := ⟨rfl, rfl, rfl, rfl⟩
          exact hs.trans (poll_frame hp h)

/-- A loop over a read-only probe that succeeds ends in a state where the probe succeeds. -/
theorem poll_ok_read {env : Env} {probe : Go (Except ε α)} {f : Sys → Except ε α}
    (hp : ReadOnly probe f) :
    ∀ {n : Nat} {last : ε} {s s' : Sys} {a : α}, poll env probe last n s = .ok (.ok a) s' →
      f s' = .ok a
  | 0, _, _, _, _, h => by simp [poll] at h
  | n + 1, _, s, s', a, h => by
      simp only [poll, bind_apply, hp s] at h
      cases hf : f s with
      | ok b =>
          simp only [hf, pure_apply, EStateM.Result.ok.injEq, Except.ok.injEq] at h
          rw [← h.2, hf, h.1]
      | error e =>
          simp only [hf, bind_apply, sleep_apply] at h
          exact poll_ok_read hp h

/-- A loop whose probe succeeds at once returns at once. -/
theorem poll_of_ok {env : Env} {probe : Go (Except ε α)} {last : ε} {n : Nat} {s : Sys} {a : α}
    (h : probe s = .ok (.ok a) s) : poll env probe last (n + 1) s = .ok (.ok a) s := by
  simp [poll, h]

/-! ### What the loop returns -/

/-- The state after `i` of the loop's sleeps. -/
def Sys.sleeps (env : Env) (i : Nat) (s : Sys) : Sys := { s with host := env.sleep^[i] s.host }

@[simp] theorem Sys.sleeps_zero (env : Env) (s : Sys) : s.sleeps env 0 = s := rfl

section Polls

variable {env : Env} {probe : Go (Except ε α)} {f : Sys → Except ε α} {s : Sys} {last : ε}

end Polls

/-- The `%w` of an error value: Go prints a nil one as `%!w(<nil>)`. -/
def fmtW : Option GoError → GoString
  | some err => err
  | none => ascii "%!w(<nil>)"

/-- `os.Stat`'s error for a missing path. -/
def statError (path : GoString) : GoError := ascii "stat " ++ path ++ ascii ": " ++ enoent

/-- `fileExists(filename)`: a path that is there and is not a directory. -/
def fileExists (h : Host) (filename : GoString) : Bool :=
  match h.fs filename with
  | none => false
  | some (.dir _) => false
  | some _ => true

/-! ### `VerifyPinnedMapExists` and `VerifyPinnedMapVanish` -/

/-- The probe of `VerifyPinnedMapExists`: `os.Stat(path)` succeeds. -/
def existsProbe (path : GoString) : Go (Except (Option GoError) Unit) := do
  match ← stat path with
  | some _ => pure (.ok ())
  | none => pure (.error (some (statError path)))

/-- `VerifyPinnedMapExists(chain)`. -/
def verifyPinnedMapExists (env : Env) (chain : Bool) : Go (Option GoError) := do
  if !chain then return none
  let b ← getBPF
  if b.program.mapName.length > 0 then
    match ← poll env (existsProbe b.program.mapName) none 10 with
    | .ok () => return none
    | .error err =>
      if let some err := err then
        return some (ascii "failed to find pinned file " ++ b.program.mapName ++ ascii " err " ++ err)
  return none

theorem verifyPinnedMapExists_within {P : BPF → BPF → Prop} {Q : Effect → Prop} [IsPreorder BPF P]
    {env : Env} {chain : Bool} : Keeps (Sys.Within P Q) (verifyPinnedMapExists env chain) := by
  unfold verifyPinnedMapExists
  split
  · exact keeps_pure _
  refine keeps_bind (keeps_pure _) fun _ => keeps_bind keeps_getBPF fun b => ?_
  have hp : ∀ path, Keeps (Sys.Within P Q) (existsProbe path) := fun path =>
    keeps_bind (keeps_stat _) fun o => by split <;> exact keeps_pure _
  split
  · refine keeps_bind (keeps_poll (hp _) (within_sleep env) _) fun r => ?_
    split
    · exact keeps_pure _
    split
    · exact keeps_pure _
    · exact keeps_bind (keeps_pure _) fun _ => keeps_pure _
  · exact keeps_bind (keeps_pure _) fun _ => keeps_pure _

theorem existsProbe_readOnly (path : GoString) :
    ReadOnly (existsProbe path) fun s => match s.host.fs path with
      | some _ => .ok ()
      | none => .error (some (statError path)) := by
  intro s
  simp only [existsProbe, bind_apply, stat_apply]
  cases s.host.fs path <;> rfl

/-- The probe of `VerifyPinnedMapVanish`: `os.Stat(path)` reports `IsNotExist`; a miss
leaves `err` nil. -/
def vanishProbe (path : GoString) : Go (Except (Option GoError) Unit) := do
  match ← stat path with
  | none => pure (.ok ())
  | some _ => pure (.error none)

/-- `VerifyPinnedMapVanish(chain)`: it checks only XDP programs with a map name, and only
when chaining. -/
def verifyPinnedMapVanish (env : Env) (chain : Bool) : Go (Option GoError) := do
  let b ← getBPF
  if b.program.mapName.length ≤ 0 || b.program.ebpfType != xdpType || !chain then return none
  match ← poll env (vanishProbe b.program.mapName) none 10 with
  | .ok () => return none
  | .error err =>
    return some (b.program.mapName ++ ascii " map file was never removed by BPF program " ++
      b.program.name ++ ascii " err " ++ fmtW err)

theorem vanishProbe_readOnly (path : GoString) :
    ReadOnly (vanishProbe path) fun s => match s.host.fs path with
      | none => .ok ()
      | some _ => .error none := by
  intro s
  simp only [vanishProbe, bind_apply, stat_apply]
  cases s.host.fs path <;> rfl

/-- What `VerifyPinnedMapVanish` can do: return nil at once when it does not check, or run
its loop and report how it ended. -/
theorem verifyPinnedMapVanish_cases {env : Env} {chain : Bool} {s s' : Sys} {r : Option GoError}
    (h : verifyPinnedMapVanish env chain s = .ok r s') :
    (r = none ∧ s' = s ∧
      (s.bpf.program.mapName = [] ∨ s.bpf.program.ebpfType ≠ xdpType ∨ chain = false)) ∨
    ∃ x, poll env (vanishProbe s.bpf.program.mapName) none 10 s = .ok x s' ∧
      (r = none ↔ x = .ok ()) := by
  obtain ⟨_, _, ⟨⟩, h⟩ := bind_eq_ok.mp (h : (getBPF >>= _) s = _)
  split at h
  · next hc =>
      cases h
      refine .inl ⟨rfl, rfl, ?_⟩
      simp only [Bool.or_eq_true, decide_eq_true_eq, Nat.le_zero, List.length_eq_zero,
        bne_iff_ne, ne_eq, Bool.not_eq_eq_eq_not, Bool.not_true] at hc
      tauto
  · obtain ⟨_, _, ⟨⟩, h⟩ := bind_eq_ok.mp h
    obtain ⟨x, s₁, hp, h⟩ := bind_eq_ok.mp h
    cases x <;> cases h <;> exact .inr ⟨_, hp, by simp⟩

/-- `VerifyPinnedMapVanish` changes nothing but the host. -/
theorem verifyPinnedMapVanish_frame {env : Env} {chain : Bool} {s s' : Sys} {r : Option GoError}
    (h : verifyPinnedMapVanish env chain s = .ok r s') : Sys.Frame s s' := by
  rcases verifyPinnedMapVanish_cases h with ⟨-, rfl, -⟩ | ⟨x, hp, -⟩
  · exact Sys.Frame.refl _
  · exact poll_frame (vanishProbe_readOnly _) hp

/-- When `VerifyPinnedMapVanish` checks and returns nil, the pinned file is gone in the
state it returns. -/
theorem verifyPinnedMapVanish_gone {env : Env} {chain : Bool} {s s' : Sys}
    (h : verifyPinnedMapVanish env chain s = .ok none s') (hm : s.bpf.program.mapName ≠ [])
    (ht : s.bpf.program.ebpfType = xdpType) (hc : chain = true) :
    s'.host.fs s.bpf.program.mapName = none := by
  rcases verifyPinnedMapVanish_cases h with ⟨-, -, hn | hn | hn⟩ | ⟨x, hp, hx⟩
  · exact absurd hn hm
  · exact absurd ht hn
  · simp [hc] at hn
  · have := poll_ok_read (vanishProbe_readOnly _) (hx.mp rfl ▸ hp)
    revert this
    cases s'.host.fs s.bpf.program.mapName <;> simp

/-! ### `VerifyProcessObject` and `VerifyMetricsMapsVanish` -/

/-- The probe of `VerifyProcessObject`: `b.Cmd.Process != nil`. -/
def processProbe : Go (Except Unit Unit) := do
  match (← getBPF).cmd with
  | none => fault .nilDeref
  | some c => pure (if c.process.isSome then .ok () else .error ())

/-- `VerifyProcessObject()`. -/
def verifyProcessObject (env : Env) : Go (Option GoError) := do
  let b ← getBPF
  match b.cmd with
  | none => return some (ascii "command object is nil - " ++ b.program.name)
  | some _ =>
    match ← poll env processProbe () 10 with
    | .ok () => return none
    | .error () => return some (ascii "process object is nil - " ++ b.program.name)

theorem verifyProcessObject_within {P : BPF → BPF → Prop} {Q : Effect → Prop} [IsPreorder BPF P]
    {env : Env} : Keeps (Sys.Within P Q) (verifyProcessObject env) := by
  refine keeps_bind keeps_getBPF fun b => ?_
  split
  · exact keeps_pure _
  have hp : Keeps (Sys.Within P Q) processProbe := keeps_bind keeps_getBPF fun o => by
    split
    · exact keeps_fault _
    · exact keeps_pure _
  refine keeps_bind (keeps_poll hp (within_sleep env) _) fun r => ?_
  split <;> exact keeps_pure _

/-- Whether `ebpf.NewMapFromID(id)` succeeds. -/
def Host.resolves (h : Host) (id : Nat) : Bool :=
  match h.newMapFromID id with
  | .ok _ => true
  | .error _ => false

/-- The probe of `VerifyMetricsMapsVanish`: no map of `b.BpfMaps` resolves by its id. -/
def mapsGoneProbe : Go (Except Unit Unit) := do
  let b ← getBPF
  let h ← getHost
  pure (if b.bpfMaps.values.any fun v => h.resolves v.mapID then .error () else .ok ())

/-- `VerifyMetricsMapsVanish()`. It looks at `b.BpfMaps` only. -/
def verifyMetricsMapsVanish (env : Env) : Go (Option GoError) := do
  let b ← getBPF
  match ← poll env mapsGoneProbe () 10 with
  | .ok () => return none
  | .error () => return some (ascii "metrics maps are never removed by Kernel " ++ b.program.name)

theorem mapsGoneProbe_readOnly :
    ReadOnly mapsGoneProbe fun s =>
      if s.bpf.bpfMaps.values.any fun v => s.host.resolves v.mapID then .error () else .ok () :=
  fun _ => rfl

/-- With no map recorded in `b.BpfMaps`, `VerifyMetricsMapsVanish` returns nil at once. -/
theorem verifyMetricsMapsVanish_of_nil {env : Env} {s : Sys} (h : s.bpf.bpfMaps.values = []) :
    verifyMetricsMapsVanish env s = .ok none s := by
  have hp : mapsGoneProbe s = .ok (.ok ()) s := by simp [mapsGoneProbe_readOnly s, h]
  simp [verifyMetricsMapsVanish, poll_of_ok hp]

/-- What `VerifyMetricsMapsVanish` can do: run its loop and report how it ended. -/
theorem verifyMetricsMapsVanish_cases {env : Env} {s s' : Sys} {r : Option GoError}
    (h : verifyMetricsMapsVanish env s = .ok r s') :
    ∃ x, poll env mapsGoneProbe () 10 s = .ok x s' ∧ (r = none ↔ x = .ok ()) := by
  obtain ⟨_, _, ⟨⟩, h⟩ := bind_eq_ok.mp (h : (getBPF >>= _) s = _)
  obtain ⟨x, s₁, hp, h⟩ := bind_eq_ok.mp h
  cases x <;> cases h <;> exact ⟨_, hp, by simp⟩

/-- `VerifyMetricsMapsVanish` changes nothing but the host. -/
theorem verifyMetricsMapsVanish_frame {env : Env} {s s' : Sys} {r : Option GoError}
    (h : verifyMetricsMapsVanish env s = .ok r s') : Sys.Frame s s' :=
  let ⟨_, hp, _⟩ := verifyMetricsMapsVanish_cases h
  poll_frame mapsGoneProbe_readOnly hp

/-- When `VerifyMetricsMapsVanish` returns nil, no map of `b.BpfMaps` resolves in the state
it returns. -/
theorem verifyMetricsMapsVanish_gone {env : Env} {s s' : Sys}
    (h : verifyMetricsMapsVanish env s = .ok none s') :
    ∀ v ∈ s.bpf.bpfMaps.values, s'.host.resolves v.mapID = false := by
  obtain ⟨x, hp, hx⟩ := verifyMetricsMapsVanish_cases h
  have hr := poll_ok_read mapsGoneProbe_readOnly (hx.mp rfl ▸ hp)
  rw [(poll_frame mapsGoneProbe_readOnly hp).1] at hr
  intro v hv
  split at hr
  · cases hr
  · next hn => simpa using List.any_eq_false.mp (Bool.eq_false_iff.mpr hn) v hv

end L3afd.Kf
