import L3afd.Kf.Start

/-! # `LoadRootProgram`

The root program of a chain is built from the configuration: an XDP root with its own map
name, or a TC root whose map name depends on the direction. Both run one command with
`--cmd=start` and `--cmd=stop`. After fetching the artifacts, a pinned file at the root's
map name is taken for a root left running by a crashed supervisor, and the root is stopped
before it is started.

## Implementation notes

The root gets no `EBPFType`, so its `Stop` never waits for its pinned file to go
(`VerifyPinnedMapVanish` checks XDP programs only), and it holds no child handle when it is
built, so for a user program its `Stop` is refused by the guard of `Stop`. -/

namespace L3afd.Kf
open L3afd.Go

/-- `AddStartArgs`, declared outside `kf`. Modelled from the spec: the argument is appended
to the start arguments. -/
def BPFProgram.addStartArgs (p : BPFProgram) (arg : L3afDNFArgs) : BPFProgram :=
  { p with startArgs := p.startArgs ++ [arg] }

/-- `AddStopArgs`, declared outside `kf`. Modelled from the spec: the argument is appended
to the stop arguments. -/
def BPFProgram.addStopArgs (p : BPFProgram) (arg : L3afDNFArgs) : BPFProgram :=
  { p with stopArgs := p.stopArgs ++ [arg] }

/-- The `switch eBPFType` of `LoadRootProgram` and the default arguments: the root before
its artifacts are fetched. -/
def rootProgram (ifaceName direction eBPFType : GoString) (conf : Config) : Except GoError BPF :=
  let withArgs (p : BPFProgram) : BPF :=
    { program := (p.addStartArgs ⟨ascii "cmd", startType⟩).addStopArgs ⟨ascii "cmd", stopType⟩,
      restartCount := 0, cmd := none, filePath := [], logDir := [], prevMapName := [] }
  if eBPFType = xdpType then
    .ok (withArgs
      { name := conf.xdpRootProgramName, artifact := conf.xdpRootProgramArtifact,
        mapName := conf.xdpRootProgramMapName, version := conf.xdpRootProgramVersion,
        isUserProgram := conf.xdpRootProgramIsUserProgram, cmdStart := conf.xdpRootProgramCommand,
        cmdStop := conf.xdpRootProgramCommand, cmdStatus := [], adminStatus := enabled, seqID := 0 })
  else if eBPFType = tcType then
    .ok (withArgs
      { name := conf.tcRootProgramName, artifact := conf.tcRootProgramArtifact,
        version := conf.tcRootProgramVersion, isUserProgram := conf.tcRootProgramIsUserProgram,
        cmdStart := conf.tcRootProgramCommand, cmdStop := conf.tcRootProgramCommand,
        cmdStatus := [], adminStatus := enabled,
        mapName := if direction = ingressType then conf.tcRootProgramIngressMapName
          else if direction = egressType then conf.tcRootProgramEgressMapName else [] })
  else .error (ascii "unknown direction " ++ direction ++ ascii " for root program in iface " ++ ifaceName)

/-- The last step of `LoadRootProgram`: start the root. -/
def startRoot (env : Env) (ifaceName direction : GoString) (chain : Bool) : Go (Option GoError) := do
  match ← start env ifaceName direction chain with
  | some _ => return some (ascii "failed to start root program on interface " ++ ifaceName)
  | none => return none

/-- The recovery step of `LoadRootProgram`: a pinned file at the root's map name is taken
for a root left running, which is stopped before the root is started. -/
def recoverAndStartRoot (env : Env) (ifaceName direction : GoString) (conf : Config)
    (mapName : GoString) : Go (Option GoError) := do
  if fileExists (← getHost) mapName then
    match ← stop env ifaceName direction conf.bpfChainingEnabled with
    | some _ =>
      return some (ascii "failed to stop root program on iface " ++ ifaceName ++ ascii " name " ++
        (← getBPF).program.name ++ ascii " direction " ++ direction)
    | none => startRoot env ifaceName direction conf.bpfChainingEnabled
  else startRoot env ifaceName direction conf.bpfChainingEnabled

/-- `LoadRootProgram(ifaceName, direction, eBPFType, conf)`: on nil, the root is the
receiver `b` of the final state. -/
def loadRootProgram (env : Env) (ifaceName direction eBPFType : GoString) (conf : Config) :
    Go (Option GoError) := do
  match rootProgram ifaceName direction eBPFType conf with
  | .error err => return some err
  | .ok root =>
    modifyBPF fun _ => root
    match ← verifyAndGetArtifacts env conf with
    | some err => return some err
    | none => recoverAndStartRoot env ifaceName direction conf root.program.mapName

/-! ### A stale XDP root -/

/-- An XDP root `xdp-root`, version 1, run by `xdp_rootd`, pinning
`/sys/fs/bpf/xdp-root`, with chaining on. -/
def xdpRootConf (isUserProgram : Bool) : Config :=
  { bpfDir := ascii "/bpf", bpfChainingEnabled := true,
    xdpRootProgramName := ascii "xdp-root", xdpRootProgramArtifact := ascii "xdp-root.tar.gz",
    xdpRootProgramMapName := ascii "/sys/fs/bpf/xdp-root", xdpRootProgramVersion := ascii "1",
    xdpRootProgramIsUserProgram := isUserProgram, xdpRootProgramCommand := ascii "xdp_rootd" }

/-- The XDP root that `LoadRootProgram` builds from `xdpRootConf`. -/
def xdpRoot (isUserProgram : Bool) : BPF :=
  { program :=
      { name := ascii "xdp-root", artifact := ascii "xdp-root.tar.gz", mapName := ascii "/sys/fs/bpf/xdp-root",
        version := ascii "1", isUserProgram, cmdStart := ascii "xdp_rootd", cmdStop := ascii "xdp_rootd",
        adminStatus := enabled, startArgs := [⟨ascii "cmd", startType⟩],
        stopArgs := [⟨ascii "cmd", stopType⟩] } }

example (u : Bool) : rootProgram (ascii "eth0") (ascii "ingress") xdpType (xdpRootConf u) = .ok (xdpRoot u) :=
  rfl

/-- A host with the root unpacked and its map still pinned by a crashed supervisor's root. -/
def staleRootHost : Host :=
  { fs := fun p =>
      if p = ascii "/proc" then some (.dir 0o555)
      else if p = ascii "/bpf/xdp-root/1/xdp-root" then some (.dir 0o755)
      else if p = ascii "/bpf/xdp-root/1/xdp-root/xdp_rootd" then some (.file 0o755 [])
      else if p = ascii "/sys/fs/bpf/xdp-root" then some (.pin 1)
      else none
    maps := [{ id := 1, name := ascii "xdp-root" }] }

/-- A stop command that removes the root's pinned file. -/
def pinRemovingEnv : Env :=
  { Env.idle with
    run := fun _ _ h => ((none, []),
      { h with fs := fun p => if p = ascii "/sys/fs/bpf/xdp-root" then none else h.fs p }) }

/-! ### The root's `Stop` -/

/-- A root as built holds no child, has no `EBPFType` and no config loop. -/
theorem rootProgram_fresh {ifaceName direction eBPFType : GoString} {conf : Config} {root : BPF}
    (h : rootProgram ifaceName direction eBPFType conf = .ok root) :
    root.cmd = none ∧ root.program.ebpfType = [] ∧ root.program.hasConfigLoop = false := by
  unfold rootProgram at h
  split at h <;> (try split at h) <;> cases h <;> exact ⟨rfl, rfl, rfl⟩

/-- The root's `Stop` returns nil although its pinned file is still there: the root has no
`EBPFType`, so `Stop` does not wait for the file to go. -/
theorem stop_xdp_root_keeps_pin :
    ∃ b s₁ s₂, rootProgram (ascii "eth0") (ascii "ingress") xdpType (xdpRootConf false) = .ok b ∧
      verifyAndGetArtifacts Env.idle (xdpRootConf false) { bpf := b, host := staleRootHost } = .ok none s₁ ∧
      stop Env.idle (ascii "eth0") (ascii "ingress") true s₁ = .ok none s₂ ∧
      s₂.host.fs b.program.mapName = some (.pin 1) :=
  ⟨_, _, _, rfl, rfl, rfl, rfl⟩

/-! ### The stale-root recovery -/

/-- After fetching the artifacts, the root is the one built, with its `FilePath` set. -/
theorem fetched_root {env : Env} {conf : Config} {root : BPF} {s s₁ : Sys}
    (hv : verifyAndGetArtifacts env conf { s with bpf := root } = .ok none s₁) :
    s₁.bpf.program = root.program ∧ s₁.bpf.cmd = root.cmd := by
  have hf := (verifyAndGetArtifacts_fetched env conf _ _ _ hv).1
  have hp := congrArg BPF.program hf
  have hc := congrArg BPF.cmd hf
  exact ⟨hp, hc⟩

/-- `LoadRootProgram` up to the recovery: build the root and fetch its artifacts. -/
theorem loadRootProgram_of_fetched {env : Env} {ifaceName direction eBPFType : GoString}
    {conf : Config} {root : BPF} {s s₁ : Sys}
    (hroot : rootProgram ifaceName direction eBPFType conf = .ok root)
    (hv : verifyAndGetArtifacts env conf { s with bpf := root } = .ok none s₁) :
    loadRootProgram env ifaceName direction eBPFType conf s =
      recoverAndStartRoot env ifaceName direction conf root.program.mapName s₁ := by
  simp only [loadRootProgram, hroot, bind_apply, modifyBPF_apply]
  rw [hv]

/-- A root that is a user program and finds a pinned file at its map name once its
artifacts are in place is never recovered: its `Stop` is refused, since it holds no child,
and `LoadRootProgram` fails with nothing else done. -/
theorem loadRootProgram_user_root_fails {env : Env} {ifaceName direction eBPFType : GoString}
    {conf : Config} {root : BPF} {s s₁ : Sys}
    (hroot : rootProgram ifaceName direction eBPFType conf = .ok root)
    (hu : root.program.isUserProgram = true)
    (hv : verifyAndGetArtifacts env conf { s with bpf := root } = .ok none s₁)
    (hpin : fileExists s₁.host root.program.mapName = true) :
    loadRootProgram env ifaceName direction eBPFType conf s =
      .ok (some (ascii "failed to stop root program on iface " ++ ifaceName ++ ascii " name " ++
        root.program.name ++ ascii " direction " ++ direction)) s₁ := by
  obtain ⟨hcmd, -, -⟩ := rootProgram_fresh hroot
  obtain ⟨hp, hc⟩ := fetched_root hv
  rw [loadRootProgram_of_fetched hroot hv]
  simp only [recoverAndStartRoot, stop, bind_apply, getHost_apply, getBPF_apply, hpin, hp, hc,
    hcmd, hu, Option.isNone_none, Bool.and_self, if_true, pure_apply]

/-- The XDP root as a user program, with its map still pinned: `LoadRootProgram` fails. -/
theorem loadRootProgram_xdp_user_root_fails :
    ∃ s₁, loadRootProgram Env.idle (ascii "eth0") (ascii "ingress") xdpType (xdpRootConf true)
        { bpf := newBpfProgram {} [] [], host := staleRootHost } =
      .ok (some (ascii "failed to stop root program on iface " ++ ascii "eth0" ++ ascii " name " ++
        ascii "xdp-root" ++ ascii " direction " ++ ascii "ingress")) s₁ :=
  have hroot : rootProgram (ascii "eth0") (ascii "ingress") xdpType (xdpRootConf true) = .ok (xdpRoot true) :=
    rfl
  have hv : verifyAndGetArtifacts Env.idle (xdpRootConf true) { bpf := xdpRoot true, host := staleRootHost } =
      .ok none { bpf := { xdpRoot true with filePath := ascii "/bpf/xdp-root/1/xdp-root" }, host := staleRootHost } :=
    rfl
  ⟨_, @loadRootProgram_user_root_fails Env.idle (ascii "eth0") (ascii "ingress") xdpType (xdpRootConf true)
    (xdpRoot true) { bpf := newBpfProgram {} [] [], host := staleRootHost } _ hroot rfl hv rfl⟩

/-- A user-program root cannot be recovered: the freshly built root has no child handle, so
its `Stop` is refused and `LoadRootProgram` fails, even where the stop command would succeed
and remove the pinned file. -/
theorem loadRootProgram_user_root_not_recovered :
    ∃ s', loadRootProgram pinRemovingEnv (ascii "eth0") (ascii "ingress") xdpType (xdpRootConf true)
        { bpf := newBpfProgram {} [] [], host := staleRootHost } =
      .ok (some (ascii "failed to stop root program on iface eth0 name xdp-root direction ingress")) s' :=
  ⟨_, rfl⟩

end L3afd.Kf
