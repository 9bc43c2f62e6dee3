import L3afd.Kf.Types

/-! # The host, the environment and the Go monad

The code runs in `Go`, a state monad over `Sys`: the instance `*BPF` the methods receive,
the host they observe, and the supervisor's own records (the metrics it published, the
effects it had on other processes, and the free list of `copyBufPool`). A call ends with a
result, or with a `Fault`: a run-time panic, a goroutine that blocks forever, or the end of the
supervisor's own process.

Everything outside the supervisor answers through `Env`: one field for each external call
of the code, as a function of the host. A theorem that quantifies over `Env` and `Host`
holds for every outcome of every call. Files, kernel maps and processes are read directly
from the host.

## Implementation notes

`os.Stat` either finds a path or reports `IsNotExist`; its other errors are not modelled.
The kernel answers `Info()` and `ID()` of every map. -/

namespace L3afd.Kf
open L3afd.Go

/-- A path of the host: a file, a directory, or a map pinned in the BPF file system. -/
inductive Inode where
  | file (mode : Nat) (content : GoString)
  | dir (mode : Nat)
  | pin (mapID : Nat)
deriving DecidableEq, Repr

/-- A kernel map: its id, the name the kernel keeps, its type, and the value at key 0. -/
structure KernelMap where
  id : Nat
  name : GoString
  type : Nat := 0
  slot0 : Option Int := none
deriving DecidableEq, Repr

/-- One entry of `ps.Processes()`. -/
structure PsProcess where
  pid : Int
  ppid : Int
  executable : GoString
deriving DecidableEq, Repr

/-- The host: files by path, kernel maps and programs, processes, the supervisor's pid,
the time in Unix seconds, and the kernel's refusals to put a program into a map. -/
structure Host where
  fs : GoString → Option Inode
  maps : List KernelMap := []
  progs : List Int := []
  procs : List PsProcess := []
  selfPid : Int := 1
  clock : Int := 0
  /-- the errno with which the kernel refuses to store the program of an id in the map of an
  id, for a program the map cannot hold -/
  linkRefused : Nat → Int → Option GoError := fun _ _ => none

/-- The gauges and counters of `stats`. -/
inductive Metric where
  | nfStartCount
  | nfStopCount
  | nfUpdateCount
  | nfStartTime
  | nfRunning
  | nfMointorMap
deriving DecidableEq, Repr

/-- A call of `stats.Incr`, `stats.Set` or `stats.SetValue`. -/
inductive StatEvent where
  | incr (m : Metric) (labels : List GoString)
  | set (v : Int) (m : Metric) (labels : List GoString)
  | setValue (v : Int) (m : Metric) (labels : List GoString)
deriving DecidableEq, Repr

/-- What the supervisor did to other processes and to the files it wrote. -/
inductive Effect where
  | kill (pid : Int)
  | spawn (path : GoString) (args : List GoString)
  | run (path : GoString) (args : List GoString)
  | signal (pid : Int)
  | wait (pid : Int)
  | prlimit (pid : Int) (resource : Nat) (limit : UInt64)
  | mkdirAll (path : GoString)
  | writeFile (path : GoString)
deriving DecidableEq, Repr

/-- A value in `copyBufPool`, by its dynamic type: a `[]byte` or a `*[]byte`. -/
inductive PoolValue where
  | bytes (len : Nat)
  | bytesPtr (len : Nat)
deriving DecidableEq, Repr

/-- A tar header and the data after it. -/
structure TarEntry where
  name : GoString
  isDir : Bool
  mode : Nat
  content : GoString
deriving DecidableEq, Repr

/-- What `tarReader.Next()` yields in turn: the entries, then `io.EOF` (`none`) or an error. -/
structure TarStream where
  entries : List TarEntry
  trailer : Option GoError
deriving DecidableEq, Repr

/-- An HTTP response: its status, its body, and the body opened by `gzip.NewReader`. -/
structure Response where
  statusCode : Int
  body : GoString
  archive : Except GoError TarStream

/-- A parsed `net/url.URL`: the part before the path, and the path. -/
structure URL where
  root : GoString
  path : GoString
deriving DecidableEq, Repr

/-- `URL.String()`. -/
def URL.string (u : URL) : GoString := u.root ++ u.path

/-- How the host answers each external call of the code. -/
structure Env where
  /-- `Kill()` of `os.FindProcess(pid)` -/
  kill : Int → Host → Option GoError × Host
  /-- `(*exec.Cmd).Start()`: the child's pid, or why it did not start -/
  start : GoString → List GoString → Host → Except GoError Int × Host
  /-- `(*os.Process).Wait()` of a started child: its exit error -/
  wait : Int → Host → Option GoError × Host
  /-- `(*exec.Cmd).Run()`: its exit error and what it wrote to the captured streams -/
  run : GoString → List GoString → Host → (Option GoError × GoString) × Host
  /-- `(*os.Process).Signal(syscall.SIGTERM)` -/
  signal : Int → Host → Option GoError × Host
  /-- `time.Sleep(1 * time.Second)`: what the children and the kernel do meanwhile -/
  sleep : Host → Host
  /-- `ioutil.WriteFile(name, data, perm)` -/
  writeFile : GoString → GoString → Nat → Host → Option GoError × Host
  /-- `os.MkdirAll(path, perm)` -/
  mkdirAll : GoString → Nat → Host → Option GoError × Host
  /-- `os.OpenFile(path, os.O_CREATE|os.O_TRUNC|os.O_WRONLY, perm)` -/
  openFile : GoString → Nat → Host → Option GoError × Host
  /-- `io.CopyBuffer` of a tar entry's data into the file opened at the path -/
  copyFile : GoString → TarEntry → Host → Option GoError × Host
  /-- `syscall.Mount(source, target, fstype, 0, "")` -/
  mount : GoString → GoString → GoString → Host → Option GoError × Host
  /-- the `prlimit64` system call: its errno -/
  prlimit : Int → Nat → UInt64 → Host → Nat × Host
  /-- `(BPFMap).Update(value)`, declared outside `kf` -/
  mapUpdate : BPFMap → GoString → Host → Host
  /-- `(*MetricsBPFMap).GetValue()`, declared outside `kf`: the value, and the map with the
  new sample in its ring -/
  getValue : MetricsBPFMap → Host → Int × MetricsBPFMap
  /-- `url.Parse` -/
  parseURL : GoString → Except GoError URL
  /-- `http.Client.Get(url)` with the given timeout in seconds -/
  httpGet : GoString → Int → Host → Except GoError Response × Host
  /-- `http.StatusText` -/
  statusText : Int → GoString
  /-- which value `copyBufPool.Get()` returns: an index into the free list, or one past it
  for a fresh buffer from `New` -/
  poolPick : List PoolValue → Nat
  /-- `ethtool.NewEthtool()` -/
  newEthtool : Host → Option GoError
  /-- `Change(ifaceName, config)` of an ethtool handle -/
  ethtoolChange : GoString → List (GoString × Bool) → Host → Option GoError × Host

/-- The host with nothing on it. -/
def Host.empty : Host := { fs := fun _ => none }

/-- The environment in which every call succeeds and changes nothing: each child gets pid
100 and prints nothing, no time passes, and the files and the kernel stay as they are. -/
def Env.idle : Env where
  kill _ h := (none, h)
  start _ _ h := (.ok 100, h)
  wait _ h := (none, h)
  run _ _ h := ((none, []), h)
  signal _ h := (none, h)
  sleep h := h
  writeFile _ _ _ h := (none, h)
  mkdirAll _ _ h := (none, h)
  openFile _ _ h := (none, h)
  copyFile _ _ h := (none, h)
  mount _ _ _ h := (none, h)
  prlimit _ _ _ h := (0, h)
  mapUpdate _ _ h := h
  getValue m _ := (0, m)
  parseURL u := .ok { root := u, path := [] }
  httpGet _ _ h := (.ok { statusCode := 200, body := [], archive := .ok { entries := [], trailer := none } }, h)
  statusText _ := []
  poolPick pool := pool.length
  newEthtool _ := none
  ethtoolChange _ _ h := (none, h)

/-- How a Go call ends without returning. -/
inductive Fault where
  /-- the run-time panic on a nil pointer dereference -/
  | nilDeref
  /-- the run-time panic of a failed type assertion -/
  | typeAssertion
  /-- the run-time panic on an assignment to an entry of a nil map -/
  | nilMapWrite
  /-- a send on a channel no one receives from: the goroutine blocks forever -/
  | blockedSend
  /-- the `SIGKILL` the supervisor sent to its own pid: the process ends there -/
  | killed
deriving DecidableEq, Repr

/-- Everything the code reads and writes. -/
structure Sys where
  bpf : BPF
  host : Host
  stats : List StatEvent := []
  trace : List Effect := []
  pool : List PoolValue := []

/-- The Go code of `kf`, run on `Sys`. -/
abbrev Go := EStateM Fault Sys

end L3afd.Kf
