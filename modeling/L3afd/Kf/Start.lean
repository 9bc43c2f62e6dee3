import L3afd.Kf.Artifacts
import L3afd.Kf.Maps
import L3afd.Kf.Stop

/-! # `Start`

`Start` kills any external instance of the start command, checks that it is executable,
clears slot 0 of the previous program's map, and spawns the start command with its
arguments. A program that is not a user program is waited for and its child handle dropped;
it has started when its pinned map shows up. A user program must be running, show its
pinned map, take its `map_args`, and publish its program id; then the config loop is set
up, the resource limits are set, and the start is published.

## Implementation notes

`Start` is split at the spawn: `startPrepare` computes the command and its arguments, and
the two ways after the spawn are `startInstalled` and `startRunning`. A failure after the
spawn returns at once: nothing in `startRunning` signals or reaps the child it spawned
(`start_failure_keeps_child`), and `startInstalled` drops the child handle of a program
that is not a user program, which the next `Stop` dereferences (`start_then_stop_panics`).

Each step has one footprint lemma (`startRunning_within` and the others), whose hypotheses
are the updates of the receiver and the effects of its code; the frame facts are those
lemmas at one relation.

The argument lists are compared with the lists the specification describes, `specStatusArgs`
and `specStartArgs`: the status command gets a pair with a value as two arguments, and
`Start` passes the predecessor map and the log directory only when they have more than one
byte (`statusArgs_eq_spec_iff`, `startArgs_eq_spec_iff`). -/

namespace L3afd.Kf
open L3afd.Go

/-! ### `isRunning` -/

/-- `bpfStatus`, the output of a status command for a running program. -/
def bpfStatus : GoString := ascii "RUNNING"

/-- ASCII lower case of a byte. -/
def lowerByte (c : UInt8) : UInt8 := if 0x41 ≤ c ∧ c ≤ 0x5A then c + 0x20 else c

/-- `strings.EqualFold(s, t)` for a `t` of ASCII letters other than `K` and `S`, which is how
the code calls it: no other rune folds to such a letter, so the strings are equal under
Unicode case folding exactly when they are equal byte by byte up to ASCII case. -/
def equalFold (s t : GoString) : Bool := s.map lowerByte == t.map lowerByte

/-- The arguments of the status command: `--key`, then `=value` as a separate argument
when the value is not empty. -/
def statusArgs (args : List L3afDNFArgs) : List GoString :=
  args.flatMap fun val =>
    (ascii "--" ++ val.key) :: if val.value.length > 0 then [ascii "=" ++ val.value] else []

/-- `isRunning()`: the status command's output, when it has one; otherwise running for a
program that is not a user program, and the state of its process for a user program. -/
def isRunning (env : Env) : Go (Bool × Option GoError) := do
  let b ← getBPF
  if b.program.cmdStatus.length > 1 then
    let cmd := join [b.filePath, b.program.cmdStatus]
    match assertExecutable (← getHost) cmd with
    | some err =>
      return (false, some (ascii "failed to execute " ++ b.program.cmdStatus ++ ascii " with error: " ++ err))
    | none =>
      let (_, out) ← runCommand env cmd (statusArgs b.program.statusArgs)
      if equalFold out bpfStatus then return (true, none)
      else return (false, some (ascii "l3afd/nf : BPF Program not running " ++ out))
  else if !b.program.isUserProgram then return (true, none)
  else
    match ← verifyProcessObject env with
    | some _ => return (false, some (ascii "no process id found"))
    | none =>
      match (← getBPF).cmd with
      | none => fault .nilDeref
      | some c =>
        match c.process with
        | none => fault .nilDeref
        | some p => return isProcessRunning (← getHost) p.pid b.program.name

/-! ### The steps of `Start` -/

/-- `%v` of a `[]string`. -/
def fmtV (args : List GoString) : GoString := ascii "[" ++ [0x20].intercalate args ++ ascii "]"

/-- The arguments of the start command, given what `createUpdateRulesFile` added. -/
def startArgs (b : BPF) (ifaceName direction : GoString) (chain : Bool)
    (rulesArgs : List GoString) : List GoString :=
  [ascii "--iface=" ++ ifaceName, ascii "--direction=" ++ direction] ++
    (if chain && b.prevMapName.length > 1 then [ascii "--map-name=" ++ b.prevMapName] else []) ++
    (if b.logDir.length > 1 then [ascii "--log-dir=" ++ b.logDir] else []) ++
    rulesArgs ++ b.program.startArgs.map L3afDNFArgs.flag

/-- `Start` up to the spawn: the start command and its arguments. -/
def startPrepare (env : Env) (ifaceName direction : GoString) (chain : Bool) :
    Go (Except GoError (GoString × List GoString)) := do
  let b ← getBPF
  if b.filePath = [] then return .error (ascii "no program binary path found")
  else
    match ← stopExternalRunningProcess env b.program.cmdStart with
    | some err =>
      return .error (ascii "failed to stop external instance of the program " ++ b.program.cmdStart ++
        ascii " with error : " ++ err)
    | none =>
      let cmd := join [b.filePath, b.program.cmdStart]
      match assertExecutable (← getHost) cmd with
      | some err =>
        return .error (ascii "no executable permissions on " ++ b.program.cmdStart ++ ascii " - error " ++ err)
      | none =>
        let _ ← (if b.prevMapName.length > 0 then removePrevProgFD else pure none)
        let rulesArgs ← (if b.program.rulesFile.length > 1 && b.program.rules.length > 1 then do
            match ← createUpdateRulesFile env direction with
            | .ok fileName => pure [ascii "--rules-file=" ++ fileName]
            | .error _ => pure []
          else pure [])
        return .ok (cmd, startArgs b ifaceName direction chain rulesArgs)

/-- After the spawn, for a program that is not a user program: wait for it, drop the child
handle, and look for the pinned map. -/
def startInstalled (env : Env) (chain : Bool) : Go (Option GoError) := do
  match ← waitCmd env with
  | some err => return some (ascii "cmd wait at starting of bpf program returned with error " ++ err)
  | none =>
    modifyBPF fun b => { b with cmd := none }
    match ← verifyPinnedMapExists env chain with
    | some err =>
      return some (ascii "no userprogram and failed to find pinned file " ++
        (← getBPF).program.mapName ++ ascii ", " ++ err)
    | none => return none

/-- The probe of the program-id loop: `b.ProgID, err = b.GetProgID()`. -/
def progIDProbe : Go (Except GoError Int) := do
  let r := getProgID (← getHost) (← getBPF)
  modifyBPF fun b => { b with progID := match r with | .ok v => v | .error _ => 0 }
  return r

/-- After the spawn, for a user program: the checks, then the setup of a running program. -/
def startRunning (env : Env) (ifaceName direction : GoString) (chain : Bool) :
    Go (Option GoError) := do
  let b ← getBPF
  let (running, err) ← isRunning env
  if !running then return some (ascii "bpf program " ++ b.program.name ++ ascii " failed to start " ++ fmtW err)
  else
    match ← verifyPinnedMapExists env chain with
    | some err => return some (ascii "failed to find pinned file " ++ b.program.mapName ++ ascii "  " ++ err)
    | none =>
      match ← if b.program.mapArgs.length > 0 then update env ifaceName direction else pure none with
      | some err => return some (ascii "failed to update network functions BPF maps " ++ err)
      | none =>
        match ← if b.prevMapName.length > 0 then poll env progIDProbe [] 10 else pure (.ok 0) with
        | .error err => return some (ascii "failed to fetch network functions program FD " ++ err)
        | .ok _ =>
          (if b.program.hasConfigLoop then modifyBPF fun b => { b with done := .listening } else pure ())
          let _ ← setPrLimits env
          publish (.incr .nfStartCount [b.program.name, direction])
          publish (.set (← getHost).clock .nfStartTime [b.program.name, direction])
          match (← getBPF).cmd with
          | none => fault .nilDeref
          | some c =>
            match c.process with
            | none => fault .nilDeref
            | some _ => return none

/-- `Start(ifaceName, direction, chain)`. -/
def start (env : Env) (ifaceName direction : GoString) (chain : Bool) : Go (Option GoError) := do
  match ← startPrepare env ifaceName direction chain with
  | .error err => return some err
  | .ok (cmd, args) =>
    modifyBPF fun b => { b with cmd := some (execCommand cmd args) }
    match ← startCmd env with
    | some _ => return some (ascii "failed to start : " ++ cmd ++ ascii " " ++ fmtV args)
    | none =>
      if (← getBPF).program.isUserProgram then startRunning env ifaceName direction chain
      else startInstalled env chain

/-! ### The footprint of `Start` -/

section Footprint

variable {P : BPF → BPF → Prop} {Q : Effect → Prop} [IsPreorder BPF P] {env : Env}

theorem isRunning_within (hrun : ∀ path args, Q (.run path args)) :
    Keeps (Sys.Within P Q) (isRunning env) := by
  refine keeps_bind keeps_getBPF fun b => ?_
  split
  · refine keeps_bind keeps_getHost fun h => ?_
    split
    · exact keeps_pure _
    refine keeps_bind (runCommand_within hrun) fun r => ?_
    split
    split <;> exact keeps_pure _
  split
  · exact keeps_pure _
  refine keeps_bind verifyProcessObject_within fun r => ?_
  split
  · exact keeps_pure _
  refine keeps_bind keeps_getBPF fun b' => ?_
  split
  · exact keeps_fault _
  split
  · exact keeps_fault _
  · exact keeps_bind keeps_getHost fun _ => keeps_pure _

theorem startPrepare_within {ifaceName direction : GoString} {chain : Bool}
    (hkill : ∀ pid, Q (.kill pid)) (hwrite : ∀ path, Q (.writeFile path)) :
    Keeps (Sys.Within P Q) (startPrepare env ifaceName direction chain) := by
  refine keeps_bind keeps_getBPF fun b => ?_
  split
  · exact keeps_pure _
  refine keeps_bind (stopExternalRunningProcess_within hkill) fun r => ?_
  split
  · exact keeps_pure _
  refine keeps_bind keeps_getHost fun h => ?_
  split
  · exact keeps_pure _
  refine keeps_bind (keeps_ite_pure removePrevProgFD_within _) fun _ =>
    keeps_bind (keeps_ite_pure ?_ _) fun _ => keeps_pure _
  refine keeps_bind (createUpdateRulesFile_within hwrite) fun r => ?_
  split <;> exact keeps_pure _

theorem startInstalled_within {chain : Bool} (hcmd : ∀ b c, P b { b with cmd := c })
    (hwait : ∀ pid, Q (.wait pid)) : Keeps (Sys.Within P Q) (startInstalled env chain) := by
  refine keeps_bind (waitCmd_within hcmd hwait) fun r => ?_
  split
  · exact keeps_pure _
  refine keeps_bind (within_modifyBPF fun b => hcmd b _) fun _ =>
    keeps_bind verifyPinnedMapExists_within fun r => ?_
  split
  · exact keeps_bind keeps_getBPF fun _ => keeps_pure _
  · exact keeps_pure _

/-- After the spawn, a user program's `Start` changes of the receiver what `Update` changes,
`ProgID` and `Done`, and records only the status command and the resource limits. -/
theorem startRunning_keeps {ifaceName direction : GoString} {chain : Bool}
    (hupdate : Keeps (Sys.Within P Q) (update env ifaceName direction))
    (hprog : ∀ b v, P b { b with progID := v })
    (hdone : ∀ b, P b { b with done := .listening }) (hrun : ∀ path args, Q (.run path args))
    (hlimit : ∀ pid r v, Q (.prlimit pid r v)) :
    Keeps (Sys.Within P Q) (startRunning env ifaceName direction chain) := by
  have hprobe : Keeps (Sys.Within P Q) progIDProbe :=
    keeps_bind keeps_getHost fun _ => keeps_bind keeps_getBPF fun _ =>
      keeps_bind (within_modifyBPF fun b => hprog b _) fun _ => keeps_pure _
  refine keeps_bind keeps_getBPF fun b => keeps_bind (isRunning_within hrun) fun r => ?_
  split
  split
  · exact keeps_pure _
  refine keeps_bind verifyPinnedMapExists_within fun r => ?_
  split
  · exact keeps_pure _
  refine keeps_bind (keeps_ite_pure hupdate _) fun r => ?_
  split
  · exact keeps_pure _
  refine keeps_bind (keeps_ite_pure (keeps_poll hprobe (within_sleep env) _) _) fun r => ?_
  split
  · exact keeps_pure _
  refine keeps_bind (keeps_ite_pure (within_modifyBPF hdone) _) fun _ =>
    keeps_bind (setPrLimits_within hlimit) fun _ => keeps_bind (within_publish _) fun _ =>
      keeps_bind keeps_getHost fun _ => keeps_bind (within_publish _) fun _ =>
        keeps_bind keeps_getBPF fun b => ?_
  split
  · exact keeps_fault _
  split
  · exact keeps_fault _
  · exact keeps_pure _

/-- After the spawn, a user program's `Start` changes of the receiver only the map handles,
`ProgID` and `Done`, and records only the status command and the resource limits. -/
theorem startRunning_within {ifaceName direction : GoString} {chain : Bool}
    (hmaps : ∀ b es, P b { b with bpfMaps := some es }) (hprog : ∀ b v, P b { b with progID := v })
    (hdone : ∀ b, P b { b with done := .listening }) (hrun : ∀ path args, Q (.run path args))
    (hlimit : ∀ pid r v, Q (.prlimit pid r v)) :
    Keeps (Sys.Within P Q) (startRunning env ifaceName direction chain) :=
  startRunning_keeps (update_within hmaps) hprog hdone hrun hlimit

/-- `Start` changes of the receiver `Cmd`, and after the spawn what `startRunning` changes. -/
theorem start_keeps {ifaceName direction : GoString} {chain : Bool}
    (hcmd : ∀ b c, P b { b with cmd := c }) (hprog : ∀ b v, P b { b with progID := v })
    (hdone : ∀ b, P b { b with done := .listening })
    (hupdate : Keeps (Sys.Within P Q) (update env ifaceName direction))
    (hkill : ∀ pid, Q (.kill pid)) (hwrite : ∀ path, Q (.writeFile path))
    (hspawn : ∀ path args, Q (.spawn path args)) (hwait : ∀ pid, Q (.wait pid))
    (hrun : ∀ path args, Q (.run path args)) (hlimit : ∀ pid r v, Q (.prlimit pid r v)) :
    Keeps (Sys.Within P Q) (start env ifaceName direction chain) := by
  refine keeps_bind (startPrepare_within hkill hwrite) fun r => ?_
  split
  · exact keeps_pure _
  refine keeps_bind (within_modifyBPF fun b => hcmd b _) fun _ =>
    keeps_bind (startCmd_within hcmd hspawn) fun r => ?_
  split
  · exact keeps_pure _
  refine keeps_bind keeps_getBPF fun b => ?_
  split
  · exact startRunning_keeps hupdate hprog hdone hrun hlimit
  · exact startInstalled_within hcmd hwait

end Footprint

/-! ### The program id `Start` records -/

/-- A wait for the program id that succeeds leaves in `ProgID` what `GetProgID` returned in
the state the wait ends in. -/
theorem poll_progIDProbe {env : Env} :
    ∀ {n : Nat} {last : GoError} {s s' : Sys} {v : Int}, poll env progIDProbe last n s = .ok (.ok v) s' →
      s'.bpf.progID = v ∧ getProgID s'.host s'.bpf = .ok v
  | 0, _, _, _, _, h => by cases h
  | n + 1, _, s, s', v, h => by
    simp only [poll, bind_apply, progIDProbe, getHost_apply, getBPF_apply, modifyBPF_apply, pure_apply] at h
    rcases hr : getProgID s.host s.bpf with err | w <;> simp only [hr] at h
    · simp only [bind_apply, sleep_apply] at h
      exact poll_progIDProbe h
    · cases h
      exact ⟨rfl, (getProgID_congr rfl rfl).trans hr⟩

/-- After the spawn, a user program's `Start` that waits for its program id and returns nil
leaves in `ProgID` what `GetProgID` returned on the host of its last probe. From that host on,
`Start` changes the host only by its `prlimit` calls. -/
theorem startRunning_reads_progID {env : Env} {ifaceName direction : GoString} {chain : Bool} {s s' : Sys}
    (hprev : s.bpf.prevMapName ≠ []) (h : startRunning env ifaceName direction chain s = .ok none s') :
    ∃ h : Host, getProgID h s'.bpf = .ok s'.bpf.progID ∧
      ∀ {γ : Type} (f : Host → γ), (∀ pid r v h, f (env.prlimit pid r v h).2 = f h) → f s'.host = f h := by
  obtain ⟨_, _, ⟨⟩, h⟩ := bind_eq_ok.mp h
  obtain ⟨⟨running, err⟩, s₁, -, h⟩ := bind_eq_ok.mp h
  dsimp only at h
  split at h
  · cases h
  obtain ⟨r₂, s₂, -, h⟩ := bind_eq_ok.mp h
  rcases r₂ with _ | err₂
  swap
  · cases h
  obtain ⟨r₃, s₃, -, h⟩ := bind_eq_ok.mp h
  rcases r₃ with _ | err₃
  swap
  · cases h
  obtain ⟨r₄, s₄, hpoll, h⟩ := bind_eq_ok.mp h
  rw [if_pos (List.length_pos.mpr hprev)] at hpoll
  rcases r₄ with err₄ | v
  · simp at h
  obtain ⟨hv, hread⟩ := poll_progIDProbe hpoll
  -- after the last probe: the config loop's `Done`, the limits, the metrics and the checks
  have htail : ∀ {R : Sys → Sys → Prop} [IsPreorder Sys R],
      Keeps R (modifyBPF fun b => { b with done := .listening }) → Keeps R (setPrLimits env) →
        (∀ e, Keeps R (publish e)) → R s₄ s' := fun hm hl hp =>
    (by
      refine keeps_bind (keeps_ite_pure hm _) fun _ => keeps_bind hl fun _ =>
        keeps_bind (hp _) fun _ => keeps_bind keeps_getHost fun _ =>
          keeps_bind (hp _) fun _ => keeps_bind keeps_getBPF fun b => ?_
      split
      · exact keeps_fault _
      split
      · exact keeps_fault _
      · exact keeps_pure _ : Keeps _ _) s₄ none s' h
  -- they keep `PrevMapName`, the name and `ProgID`
  set g : BPF → GoString × GoString × Int := fun b => (b.prevMapName, b.program.name, b.progID)
  have hsame : Sys.Within (BPF.Same g) (fun _ => True) s₄ s' :=
    htail (within_modifyBPF fun _ => rfl) (setPrLimits_within fun _ _ _ => trivial) within_publish
  obtain ⟨hp, hrest⟩ := Prod.mk.inj_iff.mp hsame.1
  obtain ⟨hn, hid⟩ := Prod.mk.inj_iff.mp hrest
  exact ⟨s₄.host, by rw [getProgID_congr hp hn, hid, hread, hv],
    fun f hf => htail (R := Sys.HostSame f) (hostSame_modifyBPF _) (setPrLimits_hostSame hf) hostSame_publish⟩

/-- A user program's `Start` with a predecessor map that returns nil leaves in `ProgID` what
`GetProgID` returned on the host of its last probe, never the zero of a failed read; from that
host on, `Start` changes the host only by its `prlimit` calls. -/
theorem start_reads_progID {env : Env} {ifaceName direction : GoString} {chain : Bool} {s s' : Sys}
    (hu : s.bpf.program.isUserProgram = true) (hprev : s.bpf.prevMapName ≠ [])
    (h : start env ifaceName direction chain s = .ok none s') :
    ∃ h : Host, getProgID h s'.bpf = .ok s'.bpf.progID ∧
      ∀ {γ : Type} (f : Host → γ), (∀ pid r v h, f (env.prlimit pid r v h).2 = f h) → f s'.host = f h := by
  set f : BPF → BPFProgram × GoString := fun b => (b.program, b.prevMapName)
  obtain ⟨r₁, s₁, hprep, h⟩ := bind_eq_ok.mp h
  rcases r₁ with err | ⟨cmd, args⟩
  · simp at h
  obtain ⟨_, s₂, hcmd, h⟩ := bind_eq_ok.mp h
  obtain ⟨r₃, s₃, hspawn, h⟩ := bind_eq_ok.mp h
  rcases r₃ with _ | e
  swap
  · simp at h
  obtain ⟨_, _, ⟨⟩, h⟩ := bind_eq_ok.mp h
  -- the program and `PrevMapName` are those of the start
  have h₁ : BPF.Same f s.bpf s₁.bpf :=
    (startPrepare_within (Q := fun _ => True) (fun _ => trivial) (fun _ => trivial) s _ s₁ hprep).1
  have h₂ : BPF.Same f s₁.bpf s₂.bpf :=
    (within_modifyBPF (P := BPF.Same f) (Q := fun _ => True) (fun _ => by rfl) s₁ _ s₂ hcmd).1
  have h₃ : BPF.Same f s₂.bpf s₃.bpf :=
    (startCmd_within (P := BPF.Same f) (Q := fun _ => True) (fun _ _ => rfl) (fun _ _ => trivial) s₂ _ s₃ hspawn).1
  obtain ⟨hp, hm⟩ := Prod.mk.inj_iff.mp (h₃.trans (h₂.trans h₁))
  rw [hp, if_pos hu] at h
  exact startRunning_reads_progID (hm ▸ hprev) h

/-- `Start` keeps `PrevMapName`. -/
theorem start_prevMapName {env : Env} {ifaceName direction : GoString} {chain : Bool} {s s' : Sys}
    {r : Option GoError} (h : start env ifaceName direction chain s = .ok r s') :
    s'.bpf.prevMapName = s.bpf.prevMapName :=
  (start_keeps (P := BPF.Same BPF.prevMapName) (Q := fun _ => True) (fun _ _ => rfl) (fun _ _ => rfl)
    (fun _ => rfl) (update_within fun _ _ => rfl) (fun _ => trivial) (fun _ => trivial) (fun _ _ => trivial)
    (fun _ => trivial) (fun _ _ => trivial) (fun _ _ _ => trivial) s _ s' h).1

/-! ### The two ways after the spawn -/

section Spawned

variable {env : Env} {ifaceName direction : GoString} {chain : Bool}

/-- `startInstalled` returns nil only after it dropped the child handle. -/
theorem startInstalled_nil {s s' : Sys} (h : startInstalled env chain s = .ok none s') :
    s'.bpf.cmd = none := by
  obtain ⟨r, s₁, -, h⟩ := bind_eq_ok.mp h
  split at h
  · cases h
  rw [bind_apply, modifyBPF_apply] at h
  obtain ⟨r', s₂, h₂, h⟩ := bind_eq_ok.mp h
  have hc := (verifyPinnedMapExists_within (P := BPF.Same BPF.cmd) (Q := fun _ => True) _ _ _ h₂).1
  split at h
  · simp at h
  · cases h
    exact hc

/-- Up to the branch on `IsUserProgram`, `Start` keeps the program. -/
theorem startPrepare_program {s s₁ : Sys} {x : Except GoError (GoString × List GoString)}
    (h : startPrepare env ifaceName direction chain s = .ok x s₁) : s₁.bpf.program = s.bpf.program :=
  (startPrepare_within (P := BPF.Same BPF.program) (Q := fun _ => True)
    (fun _ => trivial) (fun _ => trivial) s x s₁ h).1

theorem startCmd_program {s s₁ : Sys} {r : Option GoError} (h : startCmd env s = .ok r s₁) :
    s₁.bpf.program = s.bpf.program :=
  (startCmd_within (P := BPF.Same BPF.program) (Q := fun _ => True)
    (fun _ _ => rfl) (fun _ _ => trivial) s r s₁ h).1

/-- A `Start` that returns nil for a program that is not a user program leaves no child
handle. -/
theorem start_nil_of_not_user {s s' : Sys} (hu : s.bpf.program.isUserProgram = false)
    (h : start env ifaceName direction chain s = .ok none s') :
    s'.bpf.cmd = none ∧ s'.bpf.program = s.bpf.program := by
  obtain ⟨x, s₁, h₁, h⟩ := bind_eq_ok.mp h
  split at h
  · cases h
  rw [bind_apply, modifyBPF_apply] at h
  obtain ⟨y, s₃, h₃, h⟩ := bind_eq_ok.mp h
  have hp₁ := startPrepare_program h₁
  have hp₃ : s₃.bpf.program = s.bpf.program := (startCmd_program h₃).trans hp₁
  split at h
  · cases h
  simp only [bind_apply, getBPF_apply, hp₃, hu, Bool.false_eq_true, if_false] at h
  have hp := (startInstalled_within (P := BPF.Same BPF.program) (Q := fun _ => True)
    (fun _ _ => rfl) (fun _ => trivial) _ _ _ h).1
  exact ⟨startInstalled_nil h, hp.trans hp₃⟩

/-- Past a successful spawn, `Start` of a user program is `startRunning` from the state the
spawn left. -/
theorem start_of_spawned {s s₁ s₂ : Sys} {cmd : GoString} {args : List GoString}
    (hp : startPrepare env ifaceName direction chain s = .ok (.ok (cmd, args)) s₁)
    (hs : startCmd env { s₁ with bpf := { s₁.bpf with cmd := some (execCommand cmd args) } } = .ok none s₂)
    (hu : s₂.bpf.program.isUserProgram = true) :
    start env ifaceName direction chain s = startRunning env ifaceName direction chain s₂ := by
  simp only [start, bind_apply, hp, modifyBPF_apply, hs, getBPF_apply, hu, if_true]

end Spawned

/-! ### Runs of `NewBpfProgram`, `VerifyAndGetArtifacts`, `Start` and `Stop` -/

/-- A configuration whose artifacts live under `/bpf`. -/
def nfConf : Config := { bpfDir := ascii "/bpf" }

/-- Version 1 of `nf`, packed as `nf.tar.gz`, started by `start.sh`. -/
def nfPackage : BPFProgram :=
  { name := ascii "nf", version := ascii "1", artifact := ascii "nf.tar.gz", cmdStart := ascii "start.sh" }

/-- A host with `nf` unpacked under `/bpf/nf/1/nf` and its process 100 sleeping. -/
def nfInstallHost : Host :=
  { fs := fun p =>
      if p = ascii "/proc" then some (.dir 0o555)
      else if p = ascii "/bpf/nf/1/nf" then some (.dir 0o755)
      else if p = ascii "/bpf/nf/1/nf/start.sh" then some (.file 0o755 [])
      else if p = ascii "/proc/100/stat" then
        some (.file 0o444 (ascii "100 (nf) S 1 100 100 0 -1 4194560\n"))
      else none }

/-- `nf` as a program that is not a user program and has no stop command: `Start` waits for
it and drops the child handle, and the next `Stop` sends SIGTERM through the nil `b.Cmd`. -/
theorem stop_after_installed_start_panics :
    ∃ s₁ s₂ s₃,
      verifyAndGetArtifacts Env.idle nfConf { bpf := newBpfProgram nfPackage [] [], host := nfInstallHost } =
        .ok none s₁ ∧
      start Env.idle (ascii "eth0") (ascii "ingress") false s₁ = .ok none s₂ ∧
      stop Env.idle (ascii "eth0") (ascii "ingress") false s₂ = .error .nilDeref s₃ :=
  ⟨_, _, _, rfl, rfl, rfl⟩

/-- `nf` as a user program whose pinned map never appears: `Start` fails after ten probes and
returns with its child, pid 100, still in `b.Cmd`; the trace shows the spawn and nothing that
signals, kills or reaps the child. -/
theorem start_fails_keeping_child :
    ∃ s₁ err s₂,
      verifyAndGetArtifacts Env.idle nfConf
          { bpf := newBpfProgram { nfPackage with isUserProgram := true, mapName := ascii "/sys/fs/bpf/nf" } [] []
            host := nfInstallHost } = .ok none s₁ ∧
      start Env.idle (ascii "eth0") (ascii "ingress") true s₁ = .ok (some err) s₂ ∧
      (s₂.bpf.cmd.bind (·.process)).map (·.pid) = some 100 ∧
      s₂.trace = [.spawn (ascii "/bpf/nf/1/nf/start.sh") [ascii "--iface=eth0", ascii "--direction=ingress"]] :=
  ⟨_, _, _, rfl, rfl, rfl, rfl⟩

/-- `nf` with its artifacts unpacked under `/bpf/nf/1/nf`, as `VerifyAndGetArtifacts` leaves
it. -/
def nfFetched (program : BPFProgram) : Sys :=
  { bpf := { newBpfProgram program [] [] with filePath := ascii "/bpf/nf/1/nf" }, host := nfInstallHost }

/-- For a program that is not a user program, has no stop command and no config loop, every
`Start` that returns nil is followed by a `Stop` that panics on the nil child handle. -/
theorem start_then_stop_panics {env env' : Env} {ifaceName direction ifaceName' direction' : GoString}
    {chain chain' : Bool} {s s₁ : Sys} (hu : s.bpf.program.isUserProgram = false)
    (hs : s.bpf.program.cmdStop = []) (hl : s.bpf.program.hasConfigLoop = false)
    (h : start env ifaceName direction chain s = .ok none s₁) :
    ∃ s₂, stop env' ifaceName' direction' chain' s₁ = .error .nilDeref s₂ := by
  obtain ⟨hc, hp⟩ := start_nil_of_not_user hu h
  exact stop_panics (hp ▸ hu) (hp ▸ hs) (hp ▸ hl) hc

theorem start_then_stop_panics_nf :
    ∃ s₁, start Env.idle (ascii "eth0") (ascii "ingress") false (nfFetched nfPackage) = .ok none s₁ ∧
      ∃ s₂, stop Env.idle (ascii "eth0") (ascii "ingress") false s₁ = .error .nilDeref s₂ :=
  let ⟨s₁, h⟩ : ∃ s₁, start Env.idle (ascii "eth0") (ascii "ingress") false (nfFetched nfPackage) =
      .ok none s₁ := ⟨_, rfl⟩
  ⟨s₁, h, start_then_stop_panics (s := nfFetched nfPackage) rfl rfl rfl h⟩

/-- An effect that signals, kills or reaps a process. -/
def Effect.signalsProcess : Effect → Bool
  | .kill _ | .signal _ | .wait _ => true
  | _ => false

/-- For a user program, whatever `Start` returns once its spawn succeeded, errors included,
`b.Cmd` is the handle of the process that spawn started, and nothing after the spawn
signalled, killed or reaped a process: a failed `Start` leaves its child running, for a later
`Stop`. -/
theorem start_failure_keeps_child {env : Env} {ifaceName direction : GoString} {chain : Bool}
    {s s₁ s₂ s' : Sys} {cmd : GoString} {args : List GoString} {r : Option GoError}
    (hu : s.bpf.program.isUserProgram = true)
    (hp : startPrepare env ifaceName direction chain s = .ok (.ok (cmd, args)) s₁)
    (hs : startCmd env { s₁ with bpf := { s₁.bpf with cmd := some (execCommand cmd args) } } = .ok none s₂)
    (h : start env ifaceName direction chain s = .ok r s') :
    s'.bpf.cmd = s₂.bpf.cmd ∧ (∃ c p, s₂.bpf.cmd = some c ∧ c.process = some p) ∧
      ∃ t, s'.trace = s₂.trace ++ t ∧ ∀ e ∈ t, e.signalsProcess = false := by
  have hp₁ := startPrepare_program hp
  have hp₂ : s₂.bpf.program = s.bpf.program := (startCmd_program hs).trans hp₁
  rw [start_of_spawned hp hs (hp₂ ▸ hu)] at h
  obtain ⟨hc, t, ht, hq⟩ := startRunning_within (P := BPF.Same fun b => (b.program, b.cmd))
    (Q := fun e => e.signalsProcess = false) (fun _ _ => rfl) (fun _ _ => rfl) (fun _ => rfl)
    (fun _ _ => rfl) (fun _ _ _ => rfl) s₂ r s' h
  exact ⟨congrArg Prod.snd hc, startCmd_spawned hs, t, ht, hq⟩

theorem start_failure_keeps_child_nf :
    ∃ s₁ s₂ r s',
      startPrepare Env.idle (ascii "eth0") (ascii "ingress") true
          (nfFetched { nfPackage with isUserProgram := true, mapName := ascii "/sys/fs/bpf/nf" }) =
        .ok (.ok (ascii "/bpf/nf/1/nf/start.sh", [ascii "--iface=eth0", ascii "--direction=ingress"])) s₁ ∧
      startCmd Env.idle { s₁ with bpf := { s₁.bpf with cmd := some (execCommand (ascii "/bpf/nf/1/nf/start.sh")
          [ascii "--iface=eth0", ascii "--direction=ingress"]) } } = .ok none s₂ ∧
      start Env.idle (ascii "eth0") (ascii "ingress") true
          (nfFetched { nfPackage with isUserProgram := true, mapName := ascii "/sys/fs/bpf/nf" }) = .ok r s' ∧
      r.isSome = true ∧
      s'.bpf.cmd = s₂.bpf.cmd ∧ (∃ c p, s₂.bpf.cmd = some c ∧ c.process = some p) ∧
      ∃ t, s'.trace = s₂.trace ++ t ∧ ∀ e ∈ t, e.signalsProcess = false :=
  ⟨_, _, _, _, rfl, rfl, rfl, rfl, @start_failure_keeps_child Env.idle (ascii "eth0") (ascii "ingress") true
    (nfFetched { nfPackage with isUserProgram := true, mapName := ascii "/sys/fs/bpf/nf" }) _ _ _ _ _ _
    rfl rfl rfl rfl⟩

/-! ### The argument lists against their byte thresholds -/

/-- The status arguments as the specification gives them: one argument per pair, `--key=value`,
or `--key` when the value is empty. -/
def specStatusArgs (args : List L3afDNFArgs) : List GoString :=
  args.map fun val =>
    if val.value = [] then ascii "--" ++ val.key else ascii "--" ++ val.key ++ ascii "=" ++ val.value

/-- The status command gets the specified arguments exactly when no pair has a value: a pair
with a value is passed as two arguments. -/
theorem statusArgs_eq_spec_iff (args : List L3afDNFArgs) :
    statusArgs args = specStatusArgs args ↔ ∀ val ∈ args, val.value = [] := by
  induction args with
  | nil => simp [statusArgs, specStatusArgs]
  | cons val rest ih =>
    by_cases hv : val.value = []
    · simpa [statusArgs, specStatusArgs, hv] using ih
    · have hne : statusArgs (val :: rest) ≠ specStatusArgs (val :: rest) := fun h => by
        have := congrArg List.head? h
        simp [statusArgs, specStatusArgs, hv] at this
      simp only [hne, hv, false_iff, List.forall_mem_cons, false_and, not_false_eq_true]

/-- The start arguments as the specification lists them: the predecessor map with chaining and
the log directory each when it is not empty. The rules argument is what `Start` added. -/
def specStartArgs (b : BPF) (ifaceName direction : GoString) (chain : Bool)
    (rulesArgs : List GoString) : List GoString :=
  [ascii "--iface=" ++ ifaceName, ascii "--direction=" ++ direction] ++
    (if chain ∧ b.prevMapName ≠ [] then [ascii "--map-name=" ++ b.prevMapName] else []) ++
    (if b.logDir ≠ [] then [ascii "--log-dir=" ++ b.logDir] else []) ++
    rulesArgs ++ b.program.startArgs.map L3afDNFArgs.flag

section OptionalArgument

/-! An argument added under a stronger condition is added no more often, and as often only when
the two conditions agree. -/

variable {p q : Prop} [Decidable p] [Decidable q] {x : GoString}

theorem length_opt_le (h : p → q) : (if p then [x] else []).length ≤ (if q then [x] else []).length := by
  by_cases hq : q
  · rw [if_pos hq]
    split <;> simp
  · rw [if_neg hq, if_neg (mt h hq)]

theorem iff_of_length_opt (h : p → q)
    (hl : (if p then [x] else []).length = (if q then [x] else []).length) : p ↔ q := by
  refine ⟨h, fun hq => Decidable.by_contra fun hp => ?_⟩
  rw [if_pos hq, if_neg hp] at hl
  cases hl

end OptionalArgument

/-- The start command gets the specified arguments exactly when neither the predecessor map
name, under chaining, nor the log directory has one byte: `Start` asks for more than one. -/
theorem startArgs_eq_spec_iff (b : BPF) (ifaceName direction : GoString) (chain : Bool)
    (rulesArgs : List GoString) :
    startArgs b ifaceName direction chain rulesArgs = specStartArgs b ifaceName direction chain rulesArgs ↔
      (chain = true → b.prevMapName.length ≠ 1) ∧ b.logDir.length ≠ 1 := by
  -- the source's conditions imply the specification's
  have hm : (chain && decide (b.prevMapName.length > 1)) = true → chain = true ∧ b.prevMapName ≠ [] :=
    fun h => by
      rw [Bool.and_eq_true, decide_eq_true_eq] at h
      exact ⟨h.1, List.ne_nil_of_length_pos (by omega)⟩
  have hl : b.logDir.length > 1 → b.logDir ≠ [] := fun h => List.ne_nil_of_length_pos (by omega)
  constructor
  · intro h
    have hlen := congrArg List.length h
    simp only [startArgs, specStartArgs, List.length_append] at hlen
    have hm' := length_opt_le hm (x := ascii "--map-name=" ++ b.prevMapName)
    have hl' := length_opt_le hl (x := ascii "--log-dir=" ++ b.logDir)
    have em := iff_of_length_opt hm (x := ascii "--map-name=" ++ b.prevMapName) (by omega)
    have el := iff_of_length_opt hl (x := ascii "--log-dir=" ++ b.logDir) (by omega)
    refine ⟨fun hc hp => ?_, fun hd => ?_⟩
    · have := em.mpr ⟨hc, List.ne_nil_of_length_pos (by omega)⟩
      simp [hp] at this
    · have := el.mpr (List.ne_nil_of_length_pos (by omega))
      omega
  · rintro ⟨hp, hd⟩
    have em : (chain && decide (b.prevMapName.length > 1)) = true ↔ chain = true ∧ b.prevMapName ≠ [] :=
      ⟨hm, fun ⟨hc, hne⟩ => by
        have := List.length_pos.mpr hne
        have := hp hc
        simp only [hc, Bool.true_and, decide_eq_true_eq]
        omega⟩
    have el : b.logDir.length > 1 ↔ b.logDir ≠ [] :=
      ⟨hl, fun hne => by have := List.length_pos.mpr hne; omega⟩
    unfold startArgs specStartArgs
    rw [if_congr em rfl rfl, if_congr el rfl rfl]

/-- A host where `nf` is unpacked with an executable status command `status.sh`. -/
def nfStatusHost : Host :=
  { nfInstallHost with
    fs := fun p => if p = ascii "/bpf/nf/1/nf/status.sh" then some (.file 0o755 []) else nfInstallHost.fs p }

/-- `nf` with the status command `status.sh` and the status argument `k=v`. -/
def nfStatusPackage : BPFProgram :=
  { nfPackage with cmdStatus := ascii "status.sh", statusArgs := [⟨ascii "k", ascii "v"⟩] }

/-- A status command that prints `RUNNING` as `echo` does, with a newline. -/
def echoRunning : Env := { Env.idle with run := fun _ _ h => ((none, ascii "RUNNING\n"), h) }

/-- The status argument `k=v` reaches the status command as the two arguments `--k` and `=v`,
and `RUNNING` with `echo`'s newline is read as not running: the output is not trimmed. -/
theorem isRunning_splits_args_and_keeps_newline :
    ∃ s', isRunning echoRunning
        { nfFetched nfStatusPackage with host := nfStatusHost } =
        .ok (false, some (ascii "l3afd/nf : BPF Program not running RUNNING\n")) s' ∧
      s'.trace = [.run (ascii "/bpf/nf/1/nf/status.sh") [ascii "--k", ascii "=v"]] :=
  ⟨_, rfl, rfl⟩

/-- A host where `nf` is unpacked after a program whose map `m` is pinned as map 3, with
slot 0 holding program 42. -/
def chainedHost : Host :=
  { nfInstallHost with
    fs := fun p => if p = ascii "m" then some (.pin 3) else nfInstallHost.fs p
    maps := [{ id := 3, name := ascii "m", slot0 := some 42 }] }

/-- With the one-byte predecessor map name `m` and chaining on, `Start` clears slot 0 of `m`
but spawns the program without `--map-name=m`, and returns nil. -/
theorem start_clears_slot_without_map_name :
    ∃ s', start Env.idle (ascii "eth0") (ascii "ingress") true
        { bpf := { (nfFetched nfPackage).bpf with prevMapName := ascii "m" }, host := chainedHost } =
        .ok none s' ∧
      s'.trace = [.spawn (ascii "/bpf/nf/1/nf/start.sh") [ascii "--iface=eth0", ascii "--direction=ingress"],
        .wait 100] ∧
      s'.host.maps = [{ id := 3, name := ascii "m", slot0 := none }] :=
  ⟨_, rfl, rfl, rfl⟩

/-! ### Where `Start` writes -/

section Writes

variable {env : Env} {ifaceName direction : GoString} {chain : Bool}

/-- Up to the spawn, the one path `Start` writes is the rules file, where the receiver it
starts from puts it. -/
theorem startPrepare_writesAt :
    Keeps (Sys.WithinAt (fun b => join [b.filePath, direction, b.program.rulesFile]) WritesOnly)
      (startPrepare env ifaceName direction chain) := by
  refine keeps_bind keeps_getBPF fun b => ?_
  split
  · exact keeps_pure _
  refine keeps_bind (keeps_withinAt fun _ => stopExternalRunningProcess_within fun _ _ h => by cases h)
    fun r => ?_
  split
  · exact keeps_pure _
  refine keeps_bind keeps_getHost fun h => ?_
  split
  · exact keeps_pure _
  refine keeps_bind (keeps_withinAt fun _ => keeps_ite_pure removePrevProgFD_within _) fun _ =>
    keeps_bind (keeps_ite_pure ?_ _) fun _ => keeps_pure _
  refine keeps_bind createUpdateRulesFile_writesAt fun r => ?_
  split <;> exact keeps_pure _

/-- After the spawn `Start` creates and writes nothing. -/
theorem start_writesAt :
    Keeps (Sys.WithinAt (fun b => join [b.filePath, direction, b.program.rulesFile]) WritesOnly)
      (start env ifaceName direction chain) := by
  refine keeps_bind startPrepare_writesAt fun r => ?_
  split
  · exact keeps_pure _
  refine keeps_withinAt fun _ => keeps_bind (within_modifyBPF fun _ => rfl) fun _ =>
    keeps_bind (startCmd_within (fun _ _ => rfl) fun _ _ _ h => by cases h) fun r => ?_
  split
  · exact keeps_pure _
  refine keeps_bind keeps_getBPF fun b => ?_
  split
  · exact startRunning_within (fun _ _ => rfl) (fun _ _ => rfl) (fun _ => rfl) (fun _ _ _ h => by cases h)
      fun _ _ _ _ h => by cases h
  · exact startInstalled_within (fun _ _ => rfl) fun _ _ h => by cases h

/-- With no binary path `Start` returns at once and changes nothing. -/
theorem start_of_filePath_nil {s s' : Sys} {r : Option GoError} (hfp : s.bpf.filePath = [])
    (h : start env ifaceName direction chain s = .ok r s') : s' = s := by
  simp only [start, startPrepare, bind_apply, getBPF_apply, hfp, if_true, pure_apply] at h
  cases h
  rfl

/-- A `Start` that returns has created or written at most one path, the rules file, and only
with a binary path. -/
theorem start_writes_only_rules_file {s s' : Sys} {r : Option GoError}
    (h : start env ifaceName direction chain s = .ok r s') :
    ∃ t, s'.trace = s.trace ++ t ∧ ∀ e ∈ t, ∀ path, e.writes = some path →
      s.bpf.filePath ≠ [] ∧ path = join [s.bpf.filePath, direction, s.bpf.program.rulesFile] := by
  by_cases hfp : s.bpf.filePath = []
  · obtain rfl := start_of_filePath_nil hfp h
    exact ⟨[], by simp, by simp⟩
  obtain ⟨-, t, ht, hq⟩ := start_writesAt s r s' h
  exact ⟨t, ht, fun e he path hp => ⟨hfp, hq e he path hp⟩⟩

/-- Whatever the environment and the receiver, a `Start` that returns has created or written
at most one path, `Join(FilePath, direction, RulesFile)`. When no element of `direction` or
`RulesFile` is `..`, that path is `Clean(FilePath)` or below it. -/
theorem start_writes_rules_file_under_filePath {s s' : Sys} {r : Option GoError}
    (h : start env ifaceName direction chain s = .ok r s') :
    ∃ t, s'.trace = s.trace ++ t ∧ ∀ e ∈ t, ∀ path, e.writes = some path →
      path = join [s.bpf.filePath, direction, s.bpf.program.rulesFile] ∧
      ((∀ e ∈ direction.splitOn slash, e ≠ dotdot) → (∀ e ∈ s.bpf.program.rulesFile.splitOn slash, e ≠ dotdot) →
        IsUnder (clean s.bpf.filePath) path) := by
  obtain ⟨t, ht, hq⟩ := start_writes_only_rules_file h
  refine ⟨t, ht, fun e he path hp => ?_⟩
  obtain ⟨hfp, rfl⟩ := hq e he path hp
  refine ⟨rfl, fun hdir hrules => join_isUnder_of_plainElems hfp ?_⟩
  simp only [List.mem_cons, List.mem_singleton, List.not_mem_nil, or_false, forall_eq_or_imp, forall_eq]
  exact ⟨hdir, hrules⟩

/-- `nf` with the rules `drop` for the file `rules.txt`. -/
def nfRulesPackage : BPFProgram := { nfPackage with rulesFile := ascii "rules.txt", rules := ascii "drop" }

theorem nfRules_start_writes_under_filePath :
    ∃ r s', start Env.idle (ascii "eth0") (ascii "ingress") false (nfFetched nfRulesPackage) = .ok r s' ∧
      ∃ t, s'.trace = (nfFetched nfRulesPackage).trace ++ t ∧ ∀ e ∈ t, ∀ path, e.writes = some path →
        path = join [ascii "/bpf/nf/1/nf", ascii "ingress", ascii "rules.txt"] ∧
          ((∀ e ∈ (ascii "ingress").splitOn slash, e ≠ dotdot) →
            (∀ e ∈ (ascii "rules.txt").splitOn slash, e ≠ dotdot) → IsUnder (clean (ascii "/bpf/nf/1/nf")) path) :=
  let ⟨r, s', h⟩ : ∃ r s', start Env.idle (ascii "eth0") (ascii "ingress") false (nfFetched nfRulesPackage) =
      .ok r s' := ⟨_, _, rfl⟩
  ⟨r, s', h, start_writes_rules_file_under_filePath h⟩

end Writes

end L3afd.Kf
