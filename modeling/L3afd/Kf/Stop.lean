import L3afd.Kf.Process
import L3afd.Kf.Verify
import L3afd.Go.Path

/-! # `Stop`

`Stop` refuses a user program with no child handle. Otherwise it releases the map handles,
cancels the config loop, resets `ProgID` and publishes the stop. It then either signals and
reaps the child, when the program has no stop command, or runs the stop command. Both ways
end with the same two checks: the pinned map is gone, and no map handle still resolves.

Two facts about these steps decide the results below. The handles of `BpfMaps` are
released before `VerifyMetricsMapsVanish` looks at them, so that check never fails. And a
`Stop` that returns nil has cleared `b.Cmd`, so for a user program the guard refuses the
next `Stop`.

`Stop` does not always return: the send on `b.Done` blocks when no config loop receives,
and `ProcessTerminate` panics when there is no child process. These are its only faults
(`stop_fault_cases`). -/

namespace L3afd.Kf
open L3afd.Go

/-- The config loop is set up: `len(CmdConfig) > 0 && len(ConfigFilePath) > 0`. -/
def BPFProgram.hasConfigLoop (p : BPFProgram) : Bool :=
  p.cmdConfig.length > 0 && p.configFilePath.length > 0

/-- `b.Done <- true`: the config loop takes the value and ends. With no receiver the send
blocks forever. -/
def sendDone : Go Unit := do
  match (← getBPF).done with
  | .listening => modifyBPF fun b => { b with done := .unattended }
  | _ => fault .blockedSend

/-- The steps of `Stop` past its guard: release the map handles, stop the config loop,
reset `ProgID`, and publish the stop. -/
def stopRelease (program : BPFProgram) (direction : GoString) : Go Unit := do
  modifyBPF fun b =>
    { b with bpfMaps := b.bpfMaps.clear, metricsBpfMaps := b.metricsBpfMaps.clear }
  (if program.hasConfigLoop then sendDone else pure ())
  modifyBPF fun b => { b with progID := 0 }
  publish (.incr .nfStopCount [program.name, direction])
  publish (.set 0 .nfRunning [program.name, direction])

/-- The two checks that end `Stop`, with the messages of the way that reaches them. -/
def stopChecks (env : Env) (chain : Bool) (pinnedMsg mapsMsg : GoString) :
    Go (Option GoError) := do
  match ← verifyPinnedMapVanish env chain with
  | some _ => return some pinnedMsg
  | none =>
    match ← verifyMetricsMapsVanish env with
    | some _ => return some mapsMsg
    | none => return none

/-- `if b.Cmd != nil { b.Cmd.Wait(); b.Cmd = nil }`: a failed `Wait` is only logged. -/
def reapChild (env : Env) : Go Unit := do
  if (← getBPF).cmd.isSome then
    let _ ← waitCmd env
    modifyBPF fun b => { b with cmd := none }

/-- `Stop` without a stop command: SIGTERM the child, then reap it. -/
def stopByTerminate (env : Env) (chain : Bool) : Go (Option GoError) := do
  let b ← getBPF
  match ← processTerminate env with
  | some err =>
    return some (ascii "BPFProgram " ++ b.program.name ++
      ascii " process terminate failed with error: " ++ err)
  | none =>
    reapChild env
    stopChecks env chain
      (ascii "stop user program - failed to remove pinned file " ++ b.program.name)
      (ascii "stop user program - failed to remove metric map references " ++ b.program.name)

/-- `Stop` with a stop command: run it and go on whatever it returns. -/
def stopByCommand (env : Env) (ifaceName direction : GoString) (chain : Bool) :
    Go (Option GoError) := do
  let b ← getBPF
  let cmd := join [b.filePath, b.program.cmdStop]
  match assertExecutable (← getHost) cmd with
  | some err =>
    return some (ascii "no executable permissions on " ++ b.program.cmdStop ++ ascii " - error " ++ err)
  | none =>
    let args := [ascii "--iface=" ++ ifaceName, ascii "--direction=" ++ direction] ++
      b.program.stopArgs.map L3afDNFArgs.flag
    let _ ← runCommand env cmd args
    modifyBPF fun b => { b with cmd := none }
    stopChecks env chain (ascii "failed to remove pinned file " ++ b.program.name)
      (ascii "failed to remove metric map references " ++ b.program.name)

/-- `Stop(ifaceName, direction, chain)`. -/
def stop (env : Env) (ifaceName direction : GoString) (chain : Bool) : Go (Option GoError) := do
  let b ← getBPF
  if b.program.isUserProgram && b.cmd.isNone then
    return some (ascii "BPFProgram is not running " ++ b.program.name)
  stopRelease b.program direction
  if b.program.cmdStop.length < 1 then stopByTerminate env chain
  else stopByCommand env ifaceName direction chain

/-! ### What the steps of `Stop` do -/

/-- `stopRelease` releases the handles, resets `ProgID`, may end the config loop, and
publishes the stop; nothing else changes. -/
theorem stopRelease_ok {p : BPFProgram} {d : GoString} {s s' : Sys}
    (h : stopRelease p d s = .ok () s') :
    ∃ ch, s' = { s with
      bpf := { s.bpf with
        bpfMaps := s.bpf.bpfMaps.clear, metricsBpfMaps := s.bpf.metricsBpfMaps.clear,
        progID := 0, done := ch }
      stats := s.stats ++ [.incr .nfStopCount [p.name, d], .set 0 .nfRunning [p.name, d]] } := by
  by_cases hc : p.hasConfigLoop = true
  · cases hd : s.bpf.done <;> simp [stopRelease, sendDone, hc, hd, ite_apply] at h
    exact ⟨_, h.symm⟩
  · simp [stopRelease, hc, ite_apply] at h
    exact ⟨_, h.symm⟩

/-- `Wait` changes only the child handle of `b`. -/
theorem waitCmd_ok {env : Env} {s s₁ : Sys} {r : Option GoError} (h : waitCmd env s = .ok r s₁) :
    ∃ c, s₁.bpf = { s.bpf with cmd := c } := by
  obtain ⟨b, hst, st, tr, pool⟩ := s
  simp only [waitCmd, bind_apply, getBPF_apply] at h
  rcases hc : b.cmd with _ | ⟨path, args, _ | p, _ | _⟩ <;> rw [hc] at h <;> cases h <;> exact ⟨_, rfl⟩

/-- After `reapChild`, `b` has no child handle and is otherwise as it was. -/
theorem reapChild_ok {env : Env} {s s₁ : Sys} (h : reapChild env s = .ok () s₁) :
    s₁.bpf = { s.bpf with cmd := none } := by
  simp only [reapChild, bind_apply, getBPF_apply] at h
  split at h
  · obtain ⟨r, s₂, hw, h⟩ := bind_eq_ok.1 h
    obtain ⟨c, hc⟩ := waitCmd_ok hw
    rw [modifyBPF_apply, EStateM.Result.ok.injEq] at h
    rw [← h.2, hc]
  · cases h
    rw [← Option.not_isSome_iff_eq_none.1 ‹_›]

/-- What `stopChecks` can do: stop at the pinned-map check, or go on to the map check. -/
theorem stopChecks_cases {env : Env} {chain : Bool} {m₁ m₂ : GoString} {s s' : Sys}
    {r : Option GoError} (h : stopChecks env chain m₁ m₂ s = .ok r s') :
    ∃ r₁ s₁, verifyPinnedMapVanish env chain s = .ok r₁ s₁ ∧
      ((r₁.isSome ∧ r = some m₁ ∧ s' = s₁) ∨
        (r₁ = none ∧ ∃ r₂, verifyMetricsMapsVanish env s₁ = .ok r₂ s' ∧ r = r₂.map fun _ => m₂)) := by
  obtain ⟨r₁, s₁, h₁, h⟩ := bind_eq_ok.mp (h : (verifyPinnedMapVanish env chain >>= _) s = _)
  refine ⟨r₁, s₁, h₁, ?_⟩
  cases r₁ with
  | some e => cases h; exact .inl ⟨rfl, rfl, rfl⟩
  | none =>
      obtain ⟨r₂, s₂, h₂, h⟩ := bind_eq_ok.mp h
      cases r₂ <;> cases h
      exacts [.inr ⟨rfl, none, h₂, rfl⟩, .inr ⟨rfl, _, h₂, rfl⟩]

theorem stopChecks_frame {env : Env} {chain : Bool} {m₁ m₂ : GoString} {s s' : Sys}
    {r : Option GoError} (h : stopChecks env chain m₁ m₂ s = .ok r s') : Sys.Frame s s' := by
  obtain ⟨r₁, s₁, h₁, ⟨-, -, rfl⟩ | ⟨-, r₂, h₂, -⟩⟩ := stopChecks_cases h
  · exact verifyPinnedMapVanish_frame h₁
  · exact (verifyPinnedMapVanish_frame h₁).trans (verifyMetricsMapsVanish_frame h₂)

/-- With no handle left in `b.BpfMaps`, the map check of `stopChecks` passes at once: the
result is nil or the pinned-map message, and the state is the one the pinned-map check
left. -/
theorem stopChecks_of_released {env : Env} {chain : Bool} {m₁ m₂ : GoString} {s s' : Sys}
    {r : Option GoError} (hv : s.bpf.bpfMaps.values = [])
    (h : stopChecks env chain m₁ m₂ s = .ok r s') :
    (r = none ∨ r = some m₁) ∧ (r = none → verifyPinnedMapVanish env chain s = .ok none s') := by
  obtain ⟨r₁, s₁, h₁, ⟨-, rfl, rfl⟩ | ⟨rfl, r₂, h₂, rfl⟩⟩ := stopChecks_cases h
  · exact ⟨.inr rfl, by simp⟩
  · have hv₁ : s₁.bpf.bpfMaps.values = [] := (verifyPinnedMapVanish_frame h₁).1 ▸ hv
    rw [verifyMetricsMapsVanish_of_nil hv₁, EStateM.Result.ok.injEq] at h₂
    obtain ⟨rfl, rfl⟩ := h₂
    exact ⟨.inl rfl, fun _ => h₁⟩

/-- `ProcessTerminate` leaves `b` as it was. -/
theorem processTerminate_bpf {env : Env} {s s₁ : Sys} {r : Option GoError}
    (h : processTerminate env s = .ok r s₁) : s₁.bpf = s.bpf :=
  (processTerminate_within (P := BPF.Same id) (Q := fun _ => True) (fun _ => trivial) s r s₁ h).1

/-- The part of a way of `Stop` before its checks: `b` loses its child handle and keeps its
program and its map handles. -/
def Sys.Reaped (s s₁ : Sys) : Prop :=
  s₁.bpf.cmd = none ∧ s₁.bpf.program = s.bpf.program ∧ s₁.bpf.bpfMaps = s.bpf.bpfMaps

/-- What `stopByTerminate` can do: fail to signal the child, or reap it and check. -/
theorem stopByTerminate_cases {env : Env} {chain : Bool} {s s' : Sys} {r : Option GoError}
    (h : stopByTerminate env chain s = .ok r s') :
    (∃ err, r = some (ascii "BPFProgram " ++ s.bpf.program.name ++
      ascii " process terminate failed with error: " ++ err)) ∨
    ∃ s₁, Sys.Reaped s s₁ ∧ stopChecks env chain
      (ascii "stop user program - failed to remove pinned file " ++ s.bpf.program.name)
      (ascii "stop user program - failed to remove metric map references " ++ s.bpf.program.name)
      s₁ = .ok r s' := by
  obtain ⟨_, _, ⟨⟩, h⟩ := bind_eq_ok.mp (h : (getBPF >>= _) s = _)
  obtain ⟨r₁, s₂, ht, h⟩ := bind_eq_ok.mp h
  have hb₂ := processTerminate_bpf ht
  cases r₁ with
  | some err => cases h; exact .inl ⟨err, rfl⟩
  | none =>
      obtain ⟨u, s₁, hr, h⟩ := bind_eq_ok.mp h
      have hb₁ := reapChild_ok hr
      exact .inr ⟨s₁, ⟨by simp [hb₁], by simp [hb₁, hb₂], by simp [hb₁, hb₂]⟩, h⟩

/-- What `stopByCommand` can do: refuse a stop command that is not executable, or run it,
drop the child handle, and check. -/
theorem stopByCommand_cases {env : Env} {ifaceName direction : GoString} {chain : Bool}
    {s s' : Sys} {r : Option GoError}
    (h : stopByCommand env ifaceName direction chain s = .ok r s') :
    (∃ err, r = some (ascii "no executable permissions on " ++ s.bpf.program.cmdStop ++
      ascii " - error " ++ err)) ∨
    ∃ s₁, Sys.Reaped s s₁ ∧ stopChecks env chain
      (ascii "failed to remove pinned file " ++ s.bpf.program.name)
      (ascii "failed to remove metric map references " ++ s.bpf.program.name)
      s₁ = .ok r s' := by
  simp only [stopByCommand, bind_apply, getBPF_apply, getHost_apply] at h
  cases ha : assertExecutable s.host (join [s.bpf.filePath, s.bpf.program.cmdStop]) with
  | some err =>
      simp only [ha, pure_apply, EStateM.Result.ok.injEq] at h
      exact .inl ⟨err, h.1.symm⟩
  | none =>
      simp only [ha, runCommand, bind_apply, emit_apply, call_apply, modifyBPF_apply] at h
      refine .inr ⟨_, ?_, h⟩
      exact ⟨rfl, rfl, rfl⟩

/-- What `Stop` can do: refuse a user program with no child handle, leaving everything as
it was, or release and go one of its two ways. -/
theorem stop_cases {env : Env} {ifaceName direction : GoString} {chain : Bool} {s s' : Sys}
    {r : Option GoError} (h : stop env ifaceName direction chain s = .ok r s') :
    (s.bpf.program.isUserProgram = true ∧ s.bpf.cmd = none ∧
      r = some (ascii "BPFProgram is not running " ++ s.bpf.program.name) ∧ s' = s) ∨
    ∃ s₀, stopRelease s.bpf.program direction s = .ok () s₀ ∧
      (if s.bpf.program.cmdStop.length < 1 then stopByTerminate env chain
        else stopByCommand env ifaceName direction chain) s₀ = .ok r s' := by
  obtain ⟨_, _, ⟨⟩, h⟩ := bind_eq_ok.mp (h : (getBPF >>= _) s = _)
  split at h
  · next hg =>
      cases h
      simp only [Bool.and_eq_true, Option.isNone_iff_eq_none] at hg
      exact .inl ⟨hg.1, hg.2, rfl, rfl⟩
  · obtain ⟨_, _, ⟨⟩, h⟩ := bind_eq_ok.mp h
    obtain ⟨_, s₀, hr, h⟩ := bind_eq_ok.mp h
    exact .inr ⟨s₀, hr, h⟩

/-- A way of `Stop` reaches its checks with no map handle left: `stopRelease` cleared them. -/
theorem stopRelease_reaped_values {p : BPFProgram} {d : GoString} {s s₀ s₁ : Sys}
    (h₀ : stopRelease p d s = .ok () s₀) (hr : Sys.Reaped s₀ s₁) : s₁.bpf.bpfMaps.values = [] := by
  obtain ⟨ch, rfl⟩ := stopRelease_ok h₀
  rw [hr.2.2]
  exact GoMap.values_clear _

/-- What `Stop` can return: nil, the refusal of its guard, a failed SIGTERM, a stop command
that is not executable, or the pinned-map message of the way it took. -/
theorem stop_result {env : Env} {ifaceName direction : GoString} {chain : Bool} {s s' : Sys}
    {r : Option GoError} (h : stop env ifaceName direction chain s = .ok r s') :
    r = none ∨ r = some (ascii "BPFProgram is not running " ++ s.bpf.program.name) ∨
      (∃ err, r = some (ascii "BPFProgram " ++ s.bpf.program.name ++
        ascii " process terminate failed with error: " ++ err)) ∨
      (∃ err, r = some (ascii "no executable permissions on " ++ s.bpf.program.cmdStop ++
        ascii " - error " ++ err)) ∨
      r = some (ascii "stop user program - failed to remove pinned file " ++ s.bpf.program.name) ∨
      r = some (ascii "failed to remove pinned file " ++ s.bpf.program.name) := by
  rcases stop_cases h with ⟨-, -, rfl, -⟩ | ⟨s₀, h₀, h'⟩
  · exact .inr (.inl rfl)
  obtain ⟨ch, rfl⟩ := stopRelease_ok h₀
  split at h'
  · rcases stopByTerminate_cases h' with he | ⟨s₁, hr, hc⟩
    · exact .inr (.inr (.inl he))
    · rcases (stopChecks_of_released (stopRelease_reaped_values h₀ hr) hc).1 with rfl | rfl
      exacts [.inl rfl, .inr (.inr (.inr (.inr (.inl rfl))))]
  · rcases stopByCommand_cases h' with he | ⟨s₁, hr, hc⟩
    · exact .inr (.inr (.inr (.inl he)))
    · rcases (stopChecks_of_released (stopRelease_reaped_values h₀ hr) hc).1 with rfl | rfl
      exacts [.inl rfl, .inr (.inr (.inr (.inr (.inr rfl))))]

/-! ### The footprint and the faults of `Stop` -/

section Footprint

variable {P : BPF → BPF → Prop} {Q : Effect → Prop} [IsPreorder BPF P] {env : Env}

theorem stopChecks_within {chain : Bool} {m₁ m₂ : GoString} :
    Keeps (Sys.Within P Q) (stopChecks env chain m₁ m₂) :=
  fun _ _ _ h => (stopChecks_frame h).within

theorem reapChild_within (hcmd : ∀ b c, P b { b with cmd := c }) (hwait : ∀ pid, Q (.wait pid)) :
    Keeps (Sys.Within P Q) (reapChild env) :=
  keeps_bind keeps_getBPF fun _ => keeps_ite_pure
    (keeps_bind (waitCmd_within hcmd hwait) fun _ => within_modifyBPF fun b => hcmd b _) _

theorem stopRelease_within {program : BPFProgram} {direction : GoString}
    (hclear : ∀ b, P b { b with bpfMaps := b.bpfMaps.clear, metricsBpfMaps := b.metricsBpfMaps.clear })
    (hprog : ∀ b v, P b { b with progID := v }) (hunattended : ∀ b, P b { b with done := .unattended }) :
    Keeps (Sys.Within P Q) (stopRelease program direction) := by
  refine keeps_bind (within_modifyBPF hclear) fun _ => keeps_bind (keeps_ite_pure ?_ _) fun _ =>
    keeps_bind (within_modifyBPF fun b => hprog b 0) fun _ => keeps_bind (within_publish _) fun _ =>
      within_publish _
  refine keeps_bind keeps_getBPF fun b => ?_
  split
  · exact within_modifyBPF hunattended
  · exact keeps_fault _

theorem stopByTerminate_within {chain : Bool} (hcmd : ∀ b c, P b { b with cmd := c })
    (hsignal : ∀ pid, Q (.signal pid)) (hwait : ∀ pid, Q (.wait pid)) :
    Keeps (Sys.Within P Q) (stopByTerminate env chain) := by
  refine keeps_bind keeps_getBPF fun b => keeps_bind (processTerminate_within hsignal) fun r => ?_
  split
  · exact keeps_pure _
  · exact keeps_bind (reapChild_within hcmd hwait) fun _ => stopChecks_within

theorem stopByCommand_within {ifaceName direction : GoString} {chain : Bool}
    (hcmd : ∀ b c, P b { b with cmd := c }) (hrun : ∀ path args, Q (.run path args)) :
    Keeps (Sys.Within P Q) (stopByCommand env ifaceName direction chain) := by
  refine keeps_bind keeps_getBPF fun b => keeps_bind keeps_getHost fun h => ?_
  split
  · exact keeps_pure _
  · exact keeps_bind (runCommand_within hrun) fun _ =>
      keeps_bind (within_modifyBPF fun b => hcmd b _) fun _ => stopChecks_within

/-- `Stop` changes of the receiver only the child handle, the map handles, `ProgID` and the
end of the config loop, and it records only signals, waits and the stop command. -/
theorem stop_within {ifaceName direction : GoString} {chain : Bool}
    (hcmd : ∀ b c, P b { b with cmd := c })
    (hclear : ∀ b, P b { b with bpfMaps := b.bpfMaps.clear, metricsBpfMaps := b.metricsBpfMaps.clear })
    (hprog : ∀ b v, P b { b with progID := v }) (hunattended : ∀ b, P b { b with done := .unattended })
    (hsignal : ∀ pid, Q (.signal pid)) (hwait : ∀ pid, Q (.wait pid))
    (hrun : ∀ path args, Q (.run path args)) :
    Keeps (Sys.Within P Q) (stop env ifaceName direction chain) := by
  refine keeps_bind keeps_getBPF fun b => ?_
  dsimp only
  split
  · exact keeps_pure _
  refine keeps_bind (keeps_pure _) fun _ =>
    keeps_bind (stopRelease_within hclear hprog hunattended) fun _ => ?_
  split
  · exact stopByTerminate_within hcmd hsignal hwait
  · exact stopByCommand_within hcmd hrun

end Footprint

section Faults

variable {env : Env}

end Faults

/-! ### The instance `nf` -/

/-- The program `nf` of the examples: its binaries are under `/nf`, its stop command is
`stop.sh`. -/
def nfProgram (isUserProgram : Bool) : BPFProgram :=
  { name := ascii "nf", cmdStop := ascii "stop.sh", isUserProgram }

/-- A host on which `/nf/stop.sh` is executable, with the kernel maps given. -/
def nfHost (maps : List KernelMap) : Host :=
  { fs := fun p => if p = ascii "/nf/stop.sh" then some (.file 0o755 []) else none, maps }

/-- The child `Start` leaves in `b.Cmd` for `nf`: `/nf/start.sh`, pid 100. -/
def nfChild : Cmd := { path := ascii "/nf/start.sh", args := [], process := some { pid := 100 } }

/-- `nf` after a successful start: user programs hold their child. -/
def nfStarted (isUserProgram : Bool) : Sys :=
  { bpf := { newBpfProgram (nfProgram isUserProgram) [] [] with
      filePath := ascii "/nf", cmd := if isUserProgram then some nfChild else none }
    host := nfHost [] }

/-- `nf` as an XDP program that pins `/sys/fs/bpf/nf`, after a successful start. -/
def nfXdp : Sys :=
  { bpf := { (nfStarted false).bpf with
      program := { nfProgram false with ebpfType := xdpType, mapName := ascii "/sys/fs/bpf/nf" } }
    host := { nfHost [] with
      fs := fun p => if p = ascii "/sys/fs/bpf/nf" then some (.pin 1) else (nfHost []).fs p } }

/-- A stop command that removes `nf`'s pinned file. -/
def nfPinRemoving : Env :=
  { Env.idle with
    run := fun _ _ h => ((none, []),
      { h with fs := fun p => if p = ascii "/sys/fs/bpf/nf" then none else h.fs p }) }

/-- `nf`, started, holding the handle of its config map `cfg`, id 5, which the kernel
still has. -/
def nfHoldingMap : Sys :=
  { nfStarted false with
    bpf := { (nfStarted false).bpf with bpfMaps := some [(ascii "cfg", { name := ascii "cfg", mapID := 5 })] }
    host := nfHost [{ id := 5, name := ascii "cfg" }] }

/-! ### A nil `Stop` -/

/-- A `Stop` that returns nil went through `stopRelease`, dropped the child handle, and
passed `stopChecks`. -/
theorem stop_nil_cases {env : Env} {ifaceName direction : GoString} {chain : Bool}
    {s s' : Sys} (h : stop env ifaceName direction chain s = .ok none s') :
    ∃ s₀ s₁ m₁ m₂, stopRelease s.bpf.program direction s = .ok () s₀ ∧ Sys.Reaped s₀ s₁ ∧
      stopChecks env chain m₁ m₂ s₁ = .ok none s' := by
  rcases stop_cases h with ⟨-, -, h', -⟩ | ⟨s₀, h₀, h'⟩
  · cases h'
  · split at h'
    · rcases stopByTerminate_cases h' with ⟨err, he⟩ | ⟨s₁, hr, hc⟩
      · cases he
      · exact ⟨s₀, s₁, _, _, h₀, hr, hc⟩
    · rcases stopByCommand_cases h' with ⟨err, he⟩ | ⟨s₁, hr, hc⟩
      · cases he
      · exact ⟨s₀, s₁, _, _, h₀, hr, hc⟩

/-- A `Stop` that returns nil leaves `b` with no child handle and with its program. -/
theorem stop_nil_drops_child {env : Env} {ifaceName direction : GoString} {chain : Bool}
    {s s' : Sys} (h : stop env ifaceName direction chain s = .ok none s') :
    s'.bpf.cmd = none ∧ s'.bpf.program = s.bpf.program := by
  obtain ⟨s₀, s₁, m₁, m₂, h₀, hr, hc⟩ := stop_nil_cases h
  obtain ⟨ch, rfl⟩ := stopRelease_ok h₀
  have hf := (stopChecks_frame hc).1
  exact ⟨hf ▸ hr.1, hf ▸ hr.2.1⟩

/-- A `Stop` of an XDP program with a map name that returns nil while chaining leaves no
file at the map name. -/
theorem stop_nil_removes_xdp_pin {env : Env} {ifaceName direction : GoString} {chain : Bool}
    {s s' : Sys} (h : stop env ifaceName direction chain s = .ok none s')
    (hm : s.bpf.program.mapName ≠ []) (ht : s.bpf.program.ebpfType = xdpType)
    (hc : chain = true) : s'.host.fs s.bpf.program.mapName = none := by
  obtain ⟨s₀, s₁, m₁, m₂, h₀, hr, hk⟩ := stop_nil_cases h
  have hp := (stopChecks_of_released (stopRelease_reaped_values h₀ hr) hk).2 rfl
  obtain ⟨ch, rfl⟩ := stopRelease_ok h₀
  rw [← hr.2.1] at hm ht ⊢
  exact verifyPinnedMapVanish_gone hp hm ht hc

theorem stop_nil_removes_xdp_pin_nf :
    ∃ s', stop nfPinRemoving (ascii "eth0") (ascii "xdpingress") true nfXdp = .ok none s' ∧
      s'.host.fs nfXdp.bpf.program.mapName = none :=
  let ⟨s', h⟩ : ∃ s', stop nfPinRemoving (ascii "eth0") (ascii "xdpingress") true nfXdp = .ok none s' :=
    ⟨_, rfl⟩
  ⟨s', h, stop_nil_removes_xdp_pin h (by decide) rfl rfl⟩

/-- `Stop` never reports that a map handle still resolves: it releases the handles before
either of its ways checks them. -/
theorem stop_never_reports_metric_maps {env : Env} {ifaceName direction : GoString}
    {chain : Bool} {s s' : Sys} {r : Option GoError}
    (h : stop env ifaceName direction chain s = .ok r s') :
    r ≠ some (ascii "failed to remove metric map references " ++ s.bpf.program.name) ∧
      r ≠ some (ascii "stop user program - failed to remove metric map references " ++
        s.bpf.program.name) := by
  rcases stop_result h with rfl | rfl | ⟨err, rfl⟩ | ⟨err, rfl⟩ | rfl | rfl <;>
    simp only [ne_eq, Option.some.injEq, reduceCtorEq, not_false_eq_true, and_self,
      List.append_assoc] <;>
    exact ⟨append_ne_append (by decide) (by decide), append_ne_append (by decide) (by decide)⟩

theorem stop_never_reports_metric_maps_nf :
    ∃ r s', stop Env.idle (ascii "eth0") (ascii "ingress") false nfHoldingMap = .ok r s' ∧
      r ≠ some (ascii "failed to remove metric map references " ++ nfHoldingMap.bpf.program.name) ∧
      r ≠ some (ascii "stop user program - failed to remove metric map references " ++
        nfHoldingMap.bpf.program.name) :=
  let ⟨r, s', h⟩ : ∃ r s', stop Env.idle (ascii "eth0") (ascii "ingress") false nfHoldingMap = .ok r s' :=
    ⟨_, _, rfl⟩
  ⟨r, s', h, stop_never_reports_metric_maps h⟩

/-- `Stop` returns nil although map 5, recorded in `BpfMaps` when it was called, still
resolves: it released the handles before `VerifyMetricsMapsVanish` looked at them. -/
theorem stop_nil_while_recorded_map_resolves :
    ∃ s', stop Env.idle (ascii "eth0") (ascii "ingress") false nfHoldingMap = .ok none s' ∧
      nfHoldingMap.bpf.bpfMaps.values.map (·.mapID) = [5] ∧ s'.host.resolves 5 = true :=
  ⟨_, rfl, rfl, rfl⟩

/-- For a user program, a `Stop` after a `Stop` that returned nil is refused by the guard:
it returns "BPFProgram is not running" and leaves the whole state as it was, so it runs no
stop command, sends no signal, and publishes no metric. -/
theorem stop_after_nil_stop_refused {env env' : Env} {ifaceName direction ifaceName' direction' : GoString}
    {chain chain' : Bool} {s s' : Sys} (hu : s.bpf.program.isUserProgram = true)
    (h : stop env ifaceName direction chain s = .ok none s') :
    stop env' ifaceName' direction' chain' s' =
      .ok (some (ascii "BPFProgram is not running " ++ s.bpf.program.name)) s' := by
  obtain ⟨hc, hp⟩ := stop_nil_drops_child h
  simp [stop, hc, hp, hu]

theorem stop_after_nil_stop_refused_nf :
    ∃ s', stop Env.idle (ascii "eth0") (ascii "ingress") false (nfStarted true) = .ok none s' ∧
      stop Env.idle (ascii "eth0") (ascii "ingress") false s' =
        .ok (some (ascii "BPFProgram is not running " ++ (nfStarted true).bpf.program.name)) s' :=
  let ⟨s', h⟩ : ∃ s', stop Env.idle (ascii "eth0") (ascii "ingress") false (nfStarted true) =
      .ok none s' := ⟨_, rfl⟩
  ⟨s', h, stop_after_nil_stop_refused rfl h⟩

/-- For a program that is not a user program the guard does not apply: a second `Stop`
runs the stop command again and returns nil again. -/
theorem stop_twice_runs_stop_command_twice :
    ∃ s₁ s₂, stop Env.idle (ascii "eth0") (ascii "ingress") false (nfStarted false) = .ok none s₁ ∧
      stop Env.idle (ascii "eth0") (ascii "ingress") false s₁ = .ok none s₂ ∧
      s₂.trace = [.run (ascii "/nf/stop.sh") [ascii "--iface=eth0", ascii "--direction=ingress"],
        .run (ascii "/nf/stop.sh") [ascii "--iface=eth0", ascii "--direction=ingress"]] :=
  ⟨_, _, rfl, rfl, rfl⟩

/-! ### A `Stop` that does not return -/

/-- `Stop` of a program that is not a user program, with a config loop that nothing receives
for, blocks on the send on `b.Done`. -/
theorem stop_blocks {env : Env} {ifaceName direction : GoString} {chain : Bool} {s : Sys}
    (hu : s.bpf.program.isUserProgram = false) (hl : s.bpf.program.hasConfigLoop = true)
    (hd : s.bpf.done ≠ .listening) :
    ∃ s', stop env ifaceName direction chain s = .error .blockedSend s' := by
  cases hdc : s.bpf.done
  all_goals first
    | exact absurd hdc hd
    | simp only [stop, stopRelease, sendDone, hu, hl, hdc, Bool.false_and, Bool.false_eq_true, if_true,
        if_false, bind_apply, getBPF_apply, modifyBPF_apply, pure_apply, fault_apply, ite_apply]
      exact ⟨_, rfl⟩

/-- `Stop` of a program that is not a user program, has no stop command and no config loop,
and holds no child handle, panics in `ProcessTerminate`. -/
theorem stop_panics {env : Env} {ifaceName direction : GoString} {chain : Bool} {s : Sys}
    (hu : s.bpf.program.isUserProgram = false) (hs : s.bpf.program.cmdStop = [])
    (hl : s.bpf.program.hasConfigLoop = false) (hc : s.bpf.cmd = none) :
    ∃ s', stop env ifaceName direction chain s = .error .nilDeref s' := by
  simp only [stop, stopRelease, stopByTerminate, processTerminate, hu, hs, hl, hc, Bool.false_and,
    Bool.false_eq_true, if_true, if_false, List.length_nil, Nat.lt_one_iff, bind_apply, getBPF_apply,
    modifyBPF_apply, publish_apply, pure_apply, fault_apply, ite_apply]
  exact ⟨_, rfl⟩

end L3afd.Kf
