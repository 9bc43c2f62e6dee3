import L3afd.Go.Bytes

/-! # The records of the `kf` package

`models.BPFProgram` and `config.Config` are declared outside `kf`; they keep the fields
that `kf` reads, with Go's zero values as defaults. `BPF` is the run-time record of one
program instance, and the handles it holds mirror `exec.Cmd` and `os.Process` as far as
`kf` uses them.

## Implementation notes

A Go `map[string]V` is `none` when nil and otherwise a list of entries with distinct keys.
Reading or deleting in a nil map is allowed; writing to one panics. -/

namespace L3afd.Kf
open L3afd.Go

/-- `models.L3afDNFArgs`: one `key=value` argument. -/
structure L3afDNFArgs where
  key : GoString
  value : GoString
deriving DecidableEq, Repr

/-- `"--" + val.Key + "=" + val.Value`, the command-line form of a start or stop argument. -/
def L3afDNFArgs.flag (val : L3afDNFArgs) : GoString := ascii "--" ++ val.key ++ ascii "=" ++ val.value

/-- `models.L3afDNFMetricsMap`: a map to sample at an integer key, and its aggregator. -/
structure L3afDNFMetricsMap where
  name : GoString
  key : Int
  aggregator : GoString
deriving DecidableEq, Repr

/-- `models.BPFProgram`, the fields that `kf` reads. -/
structure BPFProgram where
  name : GoString := []
  seqID : Int := 0
  artifact : GoString := []
  mapName : GoString := []
  cmdStart : GoString := []
  cmdStop : GoString := []
  cmdStatus : GoString := []
  cmdConfig : GoString := []
  version : GoString := []
  isUserProgram : Bool := false
  cpu : Int := 0
  memory : Int := 0
  adminStatus : GoString := []
  ebpfType : GoString := []
  rulesFile : GoString := []
  rules : GoString := []
  configFilePath : GoString := []
  startArgs : List L3afDNFArgs := []
  stopArgs : List L3afDNFArgs := []
  statusArgs : List L3afDNFArgs := []
  mapArgs : List L3afDNFArgs := []
  monitorMaps : List L3afDNFMetricsMap := []
deriving DecidableEq, Repr

/-- `models.XDPType`. The constants of `models` are declared outside `kf`; these are their
values there. -/
def xdpType : GoString := ascii "xdp"

/-- `models.TCType`. -/
def tcType : GoString := ascii "tc"

/-- `models.IngressType`. -/
def ingressType : GoString := ascii "ingress"

/-- `models.EgressType`. -/
def egressType : GoString := ascii "egress"

/-- `models.Enabled`. -/
def enabled : GoString := ascii "enabled"

/-- `models.StartType`. -/
def startType : GoString := ascii "start"

/-- `models.StopType`. -/
def stopType : GoString := ascii "stop"

/-- `config.Config`, the fields that `kf` reads. -/
structure Config where
  bpfDir : GoString := []
  kfRepoURL : GoString := []
  httpClientTimeout : Int := 0
  bpfChainingEnabled : Bool := false
  xdpRootProgramName : GoString := []
  xdpRootProgramArtifact : GoString := []
  xdpRootProgramMapName : GoString := []
  xdpRootProgramVersion : GoString := []
  xdpRootProgramIsUserProgram : Bool := false
  xdpRootProgramCommand : GoString := []
  tcRootProgramName : GoString := []
  tcRootProgramArtifact : GoString := []
  tcRootProgramVersion : GoString := []
  tcRootProgramIsUserProgram : Bool := false
  tcRootProgramCommand : GoString := []
  tcRootProgramIngressMapName : GoString := []
  tcRootProgramEgressMapName : GoString := []
deriving DecidableEq, Repr

/-- `*os.Process`: the child's pid, and whether `Wait` has reaped it. -/
structure Process where
  pid : Int
  done : Bool := false
deriving DecidableEq, Repr

/-- `*exec.Cmd`: the binary, its arguments, the process a successful `Start` sets, and
whether `Wait` was called. -/
structure Cmd where
  path : GoString
  args : List GoString
  process : Option Process := none
  finished : Bool := false
deriving DecidableEq, Repr

/-- `exec.Command(name, arg...)`, which `kf` calls through `execCommand`. -/
def execCommand (name : GoString) (args : List GoString) : Cmd := { path := name, args }

/-- `BPFMap`: a kernel map by name, id and type. Its pointer back to the `BPF` is only
logged. -/
structure BPFMap where
  name : GoString := []
  mapID : Nat := 0
  type : Nat := 0
deriving DecidableEq, Repr

/-- `MetricsBPFMap`: a map with the key and aggregator it samples, and its ring of samples. -/
structure MetricsBPFMap where
  bpfMap : BPFMap
  key : Int
  aggregator : GoString
  values : List (Option Int)
deriving DecidableEq, Repr

/-- The `Done` channel of a `BPF`: nil, made by `Start` with the config loop receiving on
it, or made and no longer received from. The loop `RunKFConfigs` is declared outside `kf`;
modelled from the spec: it runs until `Stop` signals its cancellation. -/
inductive Chan where
  | nil
  | listening
  | unattended
deriving DecidableEq, Repr

/-- A Go `map[string]V`: `none` when nil. -/
abbrev GoMap (V : Type) := Option (List (GoString × V))

/-- `m[k]`, with `ok`. -/
def GoMap.get? {V : Type} (m : GoMap V) (k : GoString) : Option V :=
  (m.getD []).lookup k

/-- The values, in the order a `range` may visit them. -/
def GoMap.values {V : Type} (m : GoMap V) : List V := (m.getD []).map (·.2)

/-- `m[k] = v` on a map that is not nil. -/
def GoMap.put {V : Type} (es : List (GoString × V)) (k : GoString) (v : V) :
    List (GoString × V) :=
  (k, v) :: es.filter (·.1 != k)

/-- `for key := range m { delete(m, key) }`. -/
def GoMap.clear {V : Type} (m : GoMap V) : GoMap V := m.map fun _ => []

@[simp] theorem GoMap.values_clear {V : Type} (m : GoMap V) : m.clear.values = [] := by
  cases m <;> rfl

@[simp] theorem GoMap.isSome_clear {V : Type} (m : GoMap V) : m.clear.isSome = m.isSome := by
  cases m <;> rfl

@[simp] theorem GoMap.getD_clear {V : Type} (m : GoMap V) : m.clear.getD [] = [] := by
  cases m <;> rfl

section GoMap

variable {V : Type} {es : List (GoString × V)} {k : GoString} {v : V}

@[simp] theorem GoMap.get?_put_self : GoMap.get? (some (GoMap.put es k v)) k = some v := by
  simp only [GoMap.get?, GoMap.put, Option.getD_some, List.lookup_cons_self]

theorem GoMap.mem_put {e : GoString × V} (he : e ∈ GoMap.put es k v) : e = (k, v) ∨ e ∈ es := by
  simp only [GoMap.put, List.mem_cons, List.mem_filter] at he
  exact he.imp_right And.left

/-- The entry `m[k]` reads is an entry of the map. -/
theorem GoMap.mem_of_get? {m : GoMap V} (h : m.get? k = some v) : (k, v) ∈ m.getD [] := by
  obtain ⟨l₁, l₂, hl, -⟩ := List.lookup_eq_some_iff.mp h
  exact hl ▸ List.mem_append_right _ (List.mem_cons_self _ _)

end GoMap

/-- `BPF`: the run-time record of one program. `Ctx` is only handed to the config loop. -/
structure BPF where
  program : BPFProgram
  cmd : Option Cmd := none
  filePath : GoString := []
  restartCount : Int := 0
  logDir : GoString := []
  prevMapName : GoString := []
  progID : Int := 0
  bpfMaps : GoMap BPFMap := none
  metricsBpfMaps : GoMap MetricsBPFMap := none
  done : Chan := .nil
  dataCenter : GoString := []
deriving DecidableEq, Repr

/-- `NewBpfProgram(ctx, program, logDir, dataCenter)`. -/
def newBpfProgram (program : BPFProgram) (logDir dataCenter : GoString) : BPF :=
  { program, restartCount := 0, cmd := none, filePath := [], logDir,
    bpfMaps := some [], metricsBpfMaps := some [], done := .nil, dataCenter }

end L3afd.Kf
