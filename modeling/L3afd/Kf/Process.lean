import L3afd.Kf.Calls
import L3afd.Go.Scan

/-! # Processes

`StopExternalRunningProcess`, the calls `kf` makes on the child's `exec.Cmd` and
`os.Process`, `IsProcessRunning`, the resource limits, and the host calls of `kf_unix.go`:
`GetPlatform`, `DisableLRO` and `VerifyNMountBPFFS`.

`StopExternalRunningProcess` kills every process whose executable *contains* the first 15
bytes of the name and whose parent is not the supervisor. It does not compare names for
equality, and it does not spare the supervisor itself when its own name matches: the
`SIGKILL` it sends itself ends its process there.

`IsProcessRunning` takes the third space-separated token of `/proc/<pid>/stat` for the
state. A command name with a space in it shifts that token: a zombie whose name is two words
is reported running, and a process whose name has `Z` for its second word is reported a
zombie, whatever its state. -/

namespace L3afd.Kf
open L3afd.Go

/-- `executePerm`: the execute bits for owner, group and others. -/
def executePerm : Nat := 0o111

/-- The permission bits `os.Stat` reports; a pinned map is a `0600` file. -/
def Inode.mode : Inode → Nat
  | .file mode _ => mode
  | .dir mode => mode
  | .pin _ => 0o600

/-- Modelled from the spec: `assertExecutable` is declared outside the files under src/;
"assert the binary path is executable; otherwise fail with 'no executable permissions'".
The path must exist and carry one of the bits of `executePerm`. -/
def assertExecutable (h : Host) (path : GoString) : Option GoError :=
  match h.fs path with
  | none => some (ascii "could not stat file: " ++ path)
  | some node =>
    if node.mode &&& executePerm = 0 then some (ascii "file: " ++ path ++ ascii ", is not executable")
    else none

/-! ### `StopExternalRunningProcess` -/

/-- The loop of `StopExternalRunningProcess` over the process list. The `SIGKILL` that
`Kill()` sends to the supervisor's own pid ends its process there. -/
def killMatching (env : Env) (psName : GoString) (myPid : Int) :
    List PsProcess → Go (Option GoError)
  | [] => pure none
  | p :: ps => do
    if contains p.executable psName && p.ppid != myPid then
      emit (.kill p.pid)
      if p.pid = myPid then fault .killed
      else
        match ← call (env.kill p.pid) with
        | some err => return some (ascii "external BPFProgram stop failed with error: " ++ err)
        | none => killMatching env psName myPid ps
    else killMatching env psName myPid ps

/-- `StopExternalRunningProcess(processName)`. -/
def stopExternalRunningProcess (env : Env) (processName : GoString) : Go (Option GoError) := do
  if processName.length < 1 then return some (ascii "process name can not be empty")
  let psName := truncateName processName
  let h ← getHost
  match h.processes with
  | .error _ => return some (ascii "failed to fetch processes list")
  | .ok processList => killMatching env psName h.selfPid processList

/-- `(*os.Process).Signal(syscall.SIGTERM)`. -/
def signalProcess (env : Env) (p : Process) : Go (Option GoError) :=
  if p.pid = -1 then pure (some (ascii "os: process already released"))
  else if p.pid = 0 then pure (some (ascii "os: process not initialized"))
  else if p.done then pure (some (ascii "os: process already finished"))
  else do
    emit (.signal p.pid)
    call (env.signal p.pid)

/-- `ProcessTerminate()`: `b.Cmd.Process.Signal(syscall.SIGTERM)`, which panics when `b.Cmd`
or its `Process` is nil. -/
def processTerminate (env : Env) : Go (Option GoError) := do
  let b ← getBPF
  match b.cmd with
  | none => fault .nilDeref
  | some c =>
    match c.process with
    | none => fault .nilDeref
    | some p =>
      match ← signalProcess env p with
      | some err =>
          return some (ascii "BPFProgram " ++ b.program.name ++ ascii " SIGTERM failed with error: " ++ err)
      | none => return none

/-- `b.Cmd.Start()`: on success the child's pid is in `b.Cmd.Process`. -/
def startCmd (env : Env) : Go (Option GoError) := do
  match (← getBPF).cmd with
  | none => fault .nilDeref
  | some c =>
    if c.process.isSome then return some (ascii "exec: already started")
    emit (.spawn c.path c.args)
    match ← call (env.start c.path c.args) with
    | .error err => return some err
    | .ok pid =>
      modifyBPF fun b => { b with cmd := some { c with process := some { pid } } }
      return none

/-- `b.Cmd.Wait()`: reaps the child once. -/
def waitCmd (env : Env) : Go (Option GoError) := do
  match (← getBPF).cmd with
  | none => fault .nilDeref
  | some c =>
    match c.process with
    | none => return some (ascii "exec: not started")
    | some p =>
      if c.finished then return some (ascii "exec: Wait was already called")
      emit (.wait p.pid)
      let err ← call (env.wait p.pid)
      modifyBPF fun b =>
        { b with cmd := some { c with process := some { p with done := true }, finished := true } }
      return err

/-- `execCommand(name, args...).Run()`: the exit error and the captured output. -/
def runCommand (env : Env) (name : GoString) (args : List GoString) :
    Go (Option GoError × GoString) := do
  emit (.run name args)
  call (env.run name args)

/-! ### `IsProcessRunning` -/

/-- `IsProcessRunning(pid, name)`: it only reads `/proc/<pid>/stat`. -/
def isProcessRunning (h : Host) (pid : Int) (name : GoString) : Bool × Option GoError :=
  match h.readFile (ascii "/proc/" ++ itoa pid ++ ascii "/stat") with
  | .error err =>
      (false, some (ascii "BPF Program not running " ++ name ++ ascii " because of error: " ++ err))
  | .ok procState =>
    match sscanf3 procState with
    | .error err => (false, some (ascii "failed to scan proc state with error: " ++ err))
    | .ok (_, _, state) =>
      if state = ascii "Z" then (false, some (ascii "process " ++ itoa pid ++ ascii " in Zombie state"))
      else (true, none)

/-- A host whose process 42 is a zombie named `a b`: its stat line reads `42 (a b) Z …`. -/
def zombieHost : Host :=
  { fs := fun p => if p = ascii "/proc/42/stat" then
      some (.file 0o444 (ascii "42 (a b) Z 1 42 42 0 -1 4194560\n")) else none }

/-- The zombie `a b` is reported running: the third token of its stat line is `b)`. -/
theorem isProcessRunning_zombie_named_with_space :
    isProcessRunning zombieHost 42 (ascii "nf") = (true, none) := by decide

/-- On a stat line that starts with three words, the third is taken for the state. -/
theorem isProcessRunning_words {h : Host} {pid : Int} {name u1 u2 u3 rest : GoString}
    (h1 : isWord u1) (h2 : isWord u2) (h3 : isWord u3)
    (hr : h.readFile (ascii "/proc/" ++ itoa pid ++ ascii "/stat") =
      .ok (u1 ++ ascii " " ++ u2 ++ ascii " " ++ u3 ++ ascii " " ++ rest)) :
    isProcessRunning h pid name =
      if u3 = ascii "Z" then (false, some (ascii "process " ++ itoa pid ++ ascii " in Zombie state"))
      else (true, none) := by
  rw [isProcessRunning, hr]
  simp only [sscanf3_words h1 h2 h3]

/-- A process whose command name is two words joined by one space is reported running,
whatever its state: the token read for the state is the second word and `)`. -/
theorem isProcessRunning_spaced_name {h : Host} {pid : Int}
    {name pidField first second rest : GoString} (hp : isWord pidField)
    (hf : first.all isWordByte) (hs : second.all isWordByte)
    (hr : h.readFile (ascii "/proc/" ++ itoa pid ++ ascii "/stat") =
      .ok (pidField ++ ascii " (" ++ first ++ ascii " " ++ second ++ ascii ") " ++ rest)) :
    isProcessRunning h pid name = (true, none) := by
  have hc : pidField ++ ascii " (" ++ first ++ ascii " " ++ second ++ ascii ") " ++ rest =
      pidField ++ ascii " " ++ (ascii "(" ++ first) ++ ascii " " ++ (second ++ ascii ")") ++
        ascii " " ++ rest := by
    simp only [List.append_assoc]; rfl
  have hz : second ++ ascii ")" ≠ ascii "Z" := fun he => by
    simpa [show ascii ")" = [0x29] from rfl, show ascii "Z" = [0x5A] from rfl] using
      congrArg List.getLast? he
  rw [isProcessRunning_words hp (isWord_append_left (by decide) hf)
    (isWord_append_right hs (by decide)) (hr.trans (congrArg _ hc)), if_neg hz]

theorem isProcessRunning_spaced_name_zombieHost :
    zombieHost.readFile (ascii "/proc/42/stat") = .ok (ascii "42 (a b) Z 1 42 42 0 -1 4194560\n") ∧
      isProcessRunning zombieHost 42 (ascii "nf") = (true, none) :=
  ⟨rfl, @isProcessRunning_spaced_name zombieHost 42 (ascii "nf") (ascii "42") (ascii "a")
    (ascii "b") (ascii "Z 1 42 42 0 -1 4194560\n") (by decide) (by decide) (by decide) rfl⟩

/-- A process whose command name has `Z` for its second word is reported a zombie, whatever
its state. -/
theorem isProcessRunning_z_word_name {h : Host} {pid : Int} {name pidField first rest : GoString}
    (hp : isWord pidField) (hf : first.all isWordByte)
    (hr : h.readFile (ascii "/proc/" ++ itoa pid ++ ascii "/stat") =
      .ok (pidField ++ ascii " (" ++ first ++ ascii " Z " ++ rest)) :
    isProcessRunning h pid name =
      (false, some (ascii "process " ++ itoa pid ++ ascii " in Zombie state")) := by
  have hc : pidField ++ ascii " (" ++ first ++ ascii " Z " ++ rest =
      pidField ++ ascii " " ++ (ascii "(" ++ first) ++ ascii " " ++ ascii "Z" ++ ascii " " ++
        rest := by
    simp only [List.append_assoc]; rfl
  rw [isProcessRunning_words hp (isWord_append_left (by decide) hf) (by decide)
    (hr.trans (congrArg _ hc)), if_pos rfl]

/-- A host whose process 7 is sleeping, named `x Z y`: its stat line reads `7 (x Z y) S …`. -/
def zNamedHost : Host :=
  { fs := fun p => if p = ascii "/proc/7/stat" then
      some (.file 0o444 (ascii "7 (x Z y) S 1 7 7 0 -1 4194560\n")) else none }

theorem isProcessRunning_z_word_name_zNamedHost :
    zNamedHost.readFile (ascii "/proc/7/stat") = .ok (ascii "7 (x Z y) S 1 7 7 0 -1 4194560\n") ∧
      isProcessRunning zNamedHost 7 (ascii "nf") =
        (false, some (ascii "process 7 in Zombie state")) :=
  ⟨rfl, @isProcessRunning_z_word_name zNamedHost 7 (ascii "nf") (ascii "7") (ascii "x")
    (ascii "y) S 1 7 7 0 -1 4194560\n") (by decide) (by decide) rfl⟩

/-! ### Resource limits and host probes -/

/-- `uint64(x)` of a Go `int`: two's complement, modulo `2^64`. -/
def toUint64 (x : Int) : UInt64 := UInt64.ofNat (x % 18446744073709551616).toNat

/-- `unix.RLIMIT_AS` on Linux. -/
def rlimitAS : Nat := 9

/-- `unix.RLIMIT_CPU` on Linux. -/
def rlimitCPU : Nat := 0

/-- `prLimit(pid, resource, &rlimit)` with `rlimit.Cur = rlimit.Max = value`. -/
def prLimit (env : Env) (pid : Int) (resource : Nat) (value : UInt64) : Go (Option GoError) := do
  emit (.prlimit pid resource value)
  let errno ← call (env.prlimit pid resource value)
  return if errno ≠ 0 then some (ascii "failed to set prlimit") else none

/-- One block of `SetPrLimits`: when `value` is not zero, set `resource` of the child to
`uint64(value)`, through `b.Cmd.Process`; a failed `prLimit` is only logged. -/
def setPrLimit (env : Env) (c : Cmd) (resource : Nat) (value : Int) : Go Unit :=
  if value != 0 then
    match c.process with
    | none => fault .nilDeref
    | some p => do
      let _ ← prLimit env p.pid resource (toUint64 value)
      pure ()
  else pure ()

/-- `SetPrLimits()`: the memory block, then the CPU block. -/
def setPrLimits (env : Env) : Go (Option GoError) := do
  let b ← getBPF
  match b.cmd with
  | none => return some (ascii "no Process to set limits")
  | some c =>
    setPrLimit env c rlimitAS b.program.memory
    setPrLimit env c rlimitCPU b.program.cpu
    return none

/-- `GetPlatform()`: the trimmed output of `lsb_release -cs`. -/
def getPlatform (env : Env) : Go (Except GoError GoString) := do
  let (err, out) ← runCommand env (ascii "lsb_release") [ascii "-cs"]
  match err with
  | some err => return .error (ascii "l3afd/nf : Failed to run command with error: " ++ err)
  | none => return .ok (trimSpace out)

/-- `DisableLRO(ifaceName)`: turns `rx-lro` off on the interface. -/
def disableLRO (env : Env) (ifaceName : GoString) : Go (Option GoError) := do
  match env.newEthtool (← getHost) with
  | some err => return some (ascii "ethtool failed to get the handle " ++ err)
  | none =>
    match ← call (env.ethtoolChange ifaceName [(ascii "rx-lro", false)]) with
    | some err => return some (ascii "ethtool failed to disable LRO on " ++ ifaceName ++ ascii " with err " ++ err)
    | none => return none

/-- `VerifyNMountBPFFS()`: mounts `bpffs` at `/sys/fs/bpf` unless `/proc/mounts` names it. -/
def verifyNMountBPFFS (env : Env) : Go (Option GoError) := do
  let dstPath := ascii "/sys/fs/bpf"
  let srcPath := ascii "bpffs"
  match (← getHost).readFile (ascii "/proc/mounts") with
  | .error err => return some (ascii "failed to read procfs: " ++ err)
  | .ok mnts =>
    if !contains mnts dstPath then
      match ← call (env.mount srcPath dstPath (ascii "bpf")) with
      | some err =>
          return some (ascii "unable to mount " ++ srcPath ++ ascii " at " ++ dstPath ++ ascii ": " ++ err)
      | none => pure ()
    return none

/-! ### Footprints and faults

What each function here may do to the receiver and which effects it records, as hypotheses
on `P` and `Q`; and where the child's handles panic. -/

section Footprint

variable {P : BPF → BPF → Prop} {Q : Effect → Prop} [IsPreorder BPF P] {env : Env}

theorem killMatching_within {psName : GoString} {myPid : Int} (hkill : ∀ pid, Q (.kill pid))
    (ps : List PsProcess) : Keeps (Sys.Within P Q) (killMatching env psName myPid ps) := by
  induction ps with
  | nil => exact keeps_pure _
  | cons p ps ih =>
      unfold killMatching
      split
      · refine keeps_bind (within_emit (hkill _)) fun _ => ?_
        split
        · exact keeps_fault _
        refine keeps_bind (within_call _) fun r => ?_
        split
        · exact keeps_pure _
        · exact ih
      · exact ih

theorem stopExternalRunningProcess_within {processName : GoString} (hkill : ∀ pid, Q (.kill pid)) :
    Keeps (Sys.Within P Q) (stopExternalRunningProcess env processName) := by
  unfold stopExternalRunningProcess
  split
  · exact keeps_pure _
  refine keeps_bind (keeps_pure _) fun _ => keeps_bind keeps_getHost fun h => ?_
  split
  · exact keeps_pure _
  · exact killMatching_within hkill _

theorem signalProcess_within {p : Process} (hsignal : ∀ pid, Q (.signal pid)) :
    Keeps (Sys.Within P Q) (signalProcess env p) := by
  unfold signalProcess
  split_ifs
  · exact keeps_pure _
  · exact keeps_pure _
  · exact keeps_pure _
  · exact keeps_bind (within_emit (hsignal _)) fun _ => within_call _

theorem processTerminate_within (hsignal : ∀ pid, Q (.signal pid)) :
    Keeps (Sys.Within P Q) (processTerminate env) := by
  refine keeps_bind keeps_getBPF fun b => ?_
  split
  · exact keeps_fault _
  split
  · exact keeps_fault _
  refine keeps_bind (signalProcess_within hsignal) fun r => ?_
  split <;> exact keeps_pure _

theorem startCmd_within (hcmd : ∀ b c, P b { b with cmd := c })
    (hspawn : ∀ path args, Q (.spawn path args)) : Keeps (Sys.Within P Q) (startCmd env) := by
  refine keeps_bind keeps_getBPF fun b => ?_
  split
  · exact keeps_fault _
  split
  · exact keeps_pure _
  refine keeps_bind (keeps_pure _) fun _ =>
    keeps_bind (within_emit (hspawn _ _)) fun _ => keeps_bind (within_call _) fun r => ?_
  split
  · exact keeps_pure _
  · exact keeps_bind (within_modifyBPF fun b => hcmd b _) fun _ => keeps_pure _

theorem waitCmd_within (hcmd : ∀ b c, P b { b with cmd := c }) (hwait : ∀ pid, Q (.wait pid)) :
    Keeps (Sys.Within P Q) (waitCmd env) := by
  refine keeps_bind keeps_getBPF fun b => ?_
  split
  · exact keeps_fault _
  split
  · exact keeps_pure _
  split
  · exact keeps_pure _
  refine keeps_bind (keeps_pure _) fun _ =>
    keeps_bind (within_emit (hwait _)) fun _ => keeps_bind (within_call _) fun r => ?_
  exact keeps_bind (within_modifyBPF fun b => hcmd b _) fun _ => keeps_pure _

theorem runCommand_within {name : GoString} {args : List GoString}
    (hrun : ∀ path args, Q (.run path args)) : Keeps (Sys.Within P Q) (runCommand env name args) :=
  keeps_bind (within_emit (hrun _ _)) fun _ => within_call _

theorem setPrLimit_within {c : Cmd} {resource : Nat} {value : Int}
    (hlimit : ∀ pid r v, Q (.prlimit pid r v)) :
    Keeps (Sys.Within P Q) (setPrLimit env c resource value) := by
  refine keeps_ite_pure ?_ _
  split
  · exact keeps_fault _
  · exact keeps_bind (keeps_bind (within_emit (hlimit _ _ _)) fun _ =>
      keeps_bind (within_call _) fun _ => keeps_pure _) fun _ => keeps_pure _

theorem setPrLimits_within (hlimit : ∀ pid r v, Q (.prlimit pid r v)) :
    Keeps (Sys.Within P Q) (setPrLimits env) := by
  refine keeps_bind keeps_getBPF fun b => ?_
  split
  · exact keeps_pure _
  · exact keeps_bind (setPrLimit_within hlimit) fun _ =>
      keeps_bind (setPrLimit_within hlimit) fun _ => keeps_pure _

end Footprint

/-! What each function here may do to the host, as hypotheses on the calls it makes. -/

section HostFootprint

variable {γ : Type} {f : Host → γ} {env : Env}

theorem killMatching_hostSame {psName : GoString} {myPid : Int}
    (hkill : ∀ pid h, f (env.kill pid h).2 = f h) (ps : List PsProcess) :
    Keeps (Sys.HostSame f) (killMatching env psName myPid ps) := by
  induction ps with
  | nil => exact keeps_pure _
  | cons p ps ih =>
    unfold killMatching
    split
    · refine keeps_bind (hostSame_emit _) fun _ => ?_
      split
      · exact keeps_fault _
      refine keeps_bind (hostSame_call (hkill _)) fun r => ?_
      split
      · exact keeps_pure _
      · exact ih
    · exact ih

theorem stopExternalRunningProcess_hostSame {processName : GoString}
    (hkill : ∀ pid h, f (env.kill pid h).2 = f h) :
    Keeps (Sys.HostSame f) (stopExternalRunningProcess env processName) := by
  unfold stopExternalRunningProcess
  split
  · exact keeps_pure _
  refine keeps_bind (keeps_pure _) fun _ => keeps_bind keeps_getHost fun h => ?_
  split
  · exact keeps_pure _
  · exact killMatching_hostSame hkill _

theorem setPrLimit_hostSame (hlimit : ∀ pid r v h, f (env.prlimit pid r v h).2 = f h) {c : Cmd}
    {resource : Nat} {value : Int} : Keeps (Sys.HostSame f) (setPrLimit env c resource value) := by
  refine keeps_ite_pure ?_ _
  split
  · exact keeps_fault _
  · exact keeps_bind (keeps_bind (hostSame_emit _) fun _ =>
      keeps_bind (hostSame_call (hlimit _ _ _)) fun _ => keeps_pure _) fun _ => keeps_pure _

theorem setPrLimits_hostSame (hlimit : ∀ pid r v h, f (env.prlimit pid r v h).2 = f h) :
    Keeps (Sys.HostSame f) (setPrLimits env) := by
  refine keeps_bind keeps_getBPF fun b => ?_
  split
  · exact keeps_pure _
  · exact keeps_bind (setPrLimit_hostSame hlimit) fun _ =>
      keeps_bind (setPrLimit_hostSame hlimit) fun _ => keeps_pure _

end HostFootprint

section Faults

variable {env : Env}

/-- A `b.Cmd.Start()` that returns nil leaves a process in `b.Cmd`. -/
theorem startCmd_spawned {s s' : Sys} (h : startCmd env s = .ok none s') :
    ∃ c p, s'.bpf.cmd = some c ∧ c.process = some p := by
  obtain ⟨b, hst, st, tr, pool⟩ := s
  simp only [startCmd, bind_apply, getBPF_apply] at h
  rcases hc : b.cmd with _ | c <;> rw [hc] at h <;> dsimp only at h
  · cases h
  split at h
  · cases h
  rcases hr : env.start c.path c.args hst with ⟨_ | pid, hst'⟩ <;>
    simp only [bind_apply, pure_apply, emit_apply, call_apply, modifyBPF_apply, hr] at h
  · cases h
  · cases h
    exact ⟨_, _, rfl, rfl⟩

end Faults

/-! ### What `SetPrLimits` requests -/

section Limits

variable {env : Env}

end Limits

end L3afd.Kf
