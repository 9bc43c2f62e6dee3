import L3afd.Kf.Process
import L3afd.Go.Path

/-! # Artifacts and rules files

`VerifyAndGetArtifacts` uses the unpacked artifact under `BPFDir` when it is there and
otherwise downloads it: `GetArtifacts` fetches the archive for the platform and extracts
its entries under `BPFDir/name/version`. Each regular file is copied through a buffer taken
from `copyBufPool`; the code then puts back a pointer to that buffer, `&buf`, where `Get`
asserts a `[]byte`.

## Implementation notes

`sync.Pool.Get` may return any value put earlier and not taken since, or a fresh one from
`New`; which one is `Env.poolPick`. The pool is the free list `Sys.pool`.

The extraction records each directory it creates and each file it writes in the trace, so
where `GetArtifacts` writes is a statement about the trace: every path it records lies under
`BPFDir/name/version` after `filepath.Clean`, whatever the archive's entry names, and at
every end of the run, a panic included (`getArtifacts_writes_under_tempDir`). -/

namespace L3afd.Kf
open L3afd.Go

/-! ### `copyBufPool` -/

/-- `copyBufPool.Get()`: the value of the free list that the environment picks, which
leaves the list, or `make([]byte, 32*1024)` from `New`. -/
def poolGet (env : Env) : Go PoolValue := fun ⟨b, h, st, tr, pool⟩ =>
  match pool.get? (env.poolPick pool) with
  | some v => .ok v ⟨b, h, st, tr, pool.eraseIdx (env.poolPick pool)⟩
  | none => .ok (.bytes (32 * 1024)) ⟨b, h, st, tr, pool⟩

/-- `copyBufPool.Put(x)`. -/
def poolPut (v : PoolValue) : Go Unit := fun ⟨b, h, st, tr, pool⟩ => .ok () ⟨b, h, st, tr, pool ++ [v]⟩

@[simp] theorem poolPut_apply (v : PoolValue) (s : Sys) :
    poolPut v s = .ok () { s with pool := s.pool ++ [v] } := rfl

/-- `Get` returns a value of the free list or a fresh `[]byte`, and changes only the list,
by taking out at most that value. -/
theorem poolGet_cases {env : Env} {s s' : Sys} {v : PoolValue} (h : poolGet env s = .ok v s') :
    (v ∈ s.pool ∨ v = .bytes (32 * 1024)) ∧ (∀ w ∈ s'.pool, w ∈ s.pool) ∧
      s'.bpf = s.bpf ∧ s'.host = s.host := by
  rcases s with ⟨b, host, st, tr, pool⟩
  cases hv : pool.get? (env.poolPick pool) with
  | some w =>
      simp only [poolGet, hv, EStateM.Result.ok.injEq] at h
      obtain ⟨rfl, rfl⟩ := h
      exact ⟨.inl (List.get?_mem hv), fun w hw => List.mem_of_mem_eraseIdx hw, rfl, rfl⟩
  | none =>
      simp only [poolGet, hv, EStateM.Result.ok.injEq] at h
      obtain ⟨rfl, rfl⟩ := h
      exact ⟨.inr rfl, fun w hw => hw, rfl, rfl⟩

/-! ### `GetArtifacts` -/

/-- One round of the extraction loop of `GetArtifacts`, for the entry `header`, under
`tempDir`: nil goes on to the next entry. -/
def extractEntry (env : Env) (tempDir : GoString) (header : TarEntry) : Go (Option GoError) :=
  if contains header.name (ascii "..") then
    return some (ascii "zipped file contians filepath (" ++ header.name ++ ascii ") that includes (..)")
  else if header.isDir then do
    emit (.mkdirAll (join [tempDir, header.name]))
    match ← call (env.mkdirAll (join [tempDir, header.name]) header.mode) with
    | some err => return some (ascii "untar failed to create directories: " ++ err)
    | none => return none
  else do
    let fPath := join [tempDir, header.name]
    emit (.writeFile fPath)
    match ← call (env.openFile fPath header.mode) with
    | some err => return some (ascii "untar failed to create file: " ++ err)
    | none =>
      match ← poolGet env with
      | .bytesPtr _ => fault .typeAssertion
      | .bytes n =>
        match ← call (env.copyFile fPath header) with
        | some err => return some (ascii "GetArtifacts failed to copy files: " ++ err)
        | none =>
          poolPut (.bytesPtr n)
          return none

/-- The extraction loop of `GetArtifacts` over the entries of the archive. -/
def untar (env : Env) (tempDir : GoString) : List TarEntry → Go (Option GoError)
  | [] => pure none
  | header :: rest => do
    match ← extractEntry env tempDir header with
    | some err => return some err
    | none => untar env tempDir rest

/-- `GetArtifacts(conf)`. -/
def getArtifacts (env : Env) (conf : Config) : Go (Option GoError) := do
  let b ← getBPF
  match env.parseURL conf.kfRepoURL with
  | .error err => return some (ascii "unknown KF repo url format: " ++ err)
  | .ok kfRepoURL =>
    match ← getPlatform env with
    | .error err => return some (ascii "failed to find KF repo download path: " ++ err)
    | .ok platform =>
      let url : URL := { kfRepoURL with
        path := join [kfRepoURL.path, b.program.name, b.program.version, platform, b.program.artifact] }
      match ← call (env.httpGet url.string conf.httpClientTimeout) with
      | .error err => return some (ascii "download failed: " ++ err)
      | .ok resp =>
        if resp.statusCode ≠ 200 then
          return some (ascii "get request returned unexpected status code: " ++ itoa resp.statusCode ++
            ascii " (" ++ env.statusText resp.statusCode ++ ascii "), 200 was expected\n\tResponse Body: " ++
            resp.body)
        else match resp.archive with
        | .error err => return some (ascii "failed to create Gzip reader: " ++ err)
        | .ok stream =>
          let tempDir := join [conf.bpfDir, b.program.name, b.program.version]
          match ← untar env tempDir stream.entries with
          | some err => return some err
          | none =>
            match stream.trailer with
            | some err => return some (ascii "untar failed: " ++ err)
            | none =>
              modifyBPF fun b => { b with filePath := join [tempDir, splitHead b.program.artifact 0x2E] }
              return none

/-- `VerifyAndGetArtifacts(conf)`: the directory `strings.Split(Artifact, ".")[0]` under
`BPFDir/name/version`, downloaded if it is not there. -/
def verifyAndGetArtifacts (env : Env) (conf : Config) : Go (Option GoError) := do
  let b ← getBPF
  let fPath := join [conf.bpfDir, b.program.name, b.program.version, splitHead b.program.artifact 0x2E]
  match ← stat fPath with
  | none => getArtifacts env conf
  | some _ =>
    modifyBPF fun b => { b with filePath := fPath }
    return none

/-- `createUpdateRulesFile(direction)`: writes `Program.Rules` to
`FilePath/direction/RulesFile`. -/
def createUpdateRulesFile (env : Env) (direction : GoString) : Go (Except GoError GoString) := do
  let b ← getBPF
  if b.program.rulesFile.length < 1 then return .error (ascii "RulesFile name is empty")
  else
    let fileName := join [b.filePath, direction, b.program.rulesFile]
    emit (.writeFile fileName)
    match ← call (env.writeFile fileName b.program.rules 0o644) with
    | some err => return .error (ascii "create or Update Rules File failed with error " ++ err)
    | none => return .ok fileName

theorem createUpdateRulesFile_within {P : BPF → BPF → Prop} {Q : Effect → Prop} [IsPreorder BPF P]
    {env : Env} {direction : GoString} (hwrite : ∀ path, Q (.writeFile path)) :
    Keeps (Sys.Within P Q) (createUpdateRulesFile env direction) := by
  refine keeps_bind keeps_getBPF fun b => ?_
  split
  · exact keeps_pure _
  refine keeps_bind (within_emit (hwrite _)) fun _ => keeps_bind (within_call _) fun r => ?_
  split <;> exact keeps_pure _

/-! ### An archive of two files -/

/-- `nf` version 1, packed as `nf.tar.gz`. -/
def nfDownload : Sys :=
  { bpf := newBpfProgram { name := ascii "nf", version := ascii "1", artifact := ascii "nf.tar.gz" } [] []
    host := Host.empty }

/-- An archive of two regular files. -/
def twoFileArchive : TarStream :=
  { entries := [⟨ascii "nf/start.sh", false, 0o755, []⟩, ⟨ascii "nf/stop.sh", false, 0o755, []⟩]
    trailer := none }

/-- A repository that serves `twoFileArchive`, and a pool whose `Get` returns the first
value put in it, as `sync.Pool` may. -/
def twoFileRepo : Env :=
  { Env.idle with
    httpGet := fun _ _ h => (.ok { statusCode := 200, body := [], archive := .ok twoFileArchive }, h)
    poolPick := fun _ => 0 }

/-! ### What fetching changes -/

/-- From `s` to `s'`, fetching changed at most the receiver's `FilePath`, and added to the
pool only `*[]byte` values. -/
def Sys.Fetched (s s' : Sys) : Prop :=
  { s'.bpf with filePath := [] } = { s.bpf with filePath := [] } ∧
    ∀ v ∈ s'.pool, v ∈ s.pool ∨ ∃ n, v = .bytesPtr n

instance : IsPreorder Sys Sys.Fetched where
  refl _ := ⟨rfl, fun _ hv => .inl hv⟩
  trans _ _ _ h₁ h₂ := ⟨h₂.1.trans h₁.1, fun v hv => (h₂.2 v hv).elim (h₁.2 v) .inr⟩

section Fetched

variable {α : Type}

theorem fetched_call (f : Host → α × Host) : Keeps Sys.Fetched (call f) := by
  rintro ⟨⟩ a s' ⟨⟩
  exact ⟨rfl, fun v hv => .inl hv⟩

theorem fetched_emit (e : Effect) : Keeps Sys.Fetched (emit e) := by
  rintro ⟨⟩ a s' ⟨⟩
  exact ⟨rfl, fun v hv => .inl hv⟩

theorem fetched_poolGet (env : Env) : Keeps Sys.Fetched (poolGet env) := by
  intro s a s' h
  obtain ⟨-, hp, hb, -⟩ := poolGet_cases h
  exact ⟨by rw [hb], fun v hv => .inl (hp v hv)⟩

theorem fetched_poolPut (n : Nat) : Keeps Sys.Fetched (poolPut (.bytesPtr n)) := by
  rintro ⟨⟩ a s' ⟨⟩
  exact ⟨rfl, fun v hv => (List.mem_append.mp hv).imp_right fun hv => ⟨n, List.mem_singleton.mp hv⟩⟩

theorem fetched_setFilePath (f : BPF → GoString) :
    Keeps Sys.Fetched (modifyBPF fun b => { b with filePath := f b }) := by
  rintro ⟨⟩ a s' ⟨⟩
  exact ⟨rfl, fun v hv => .inl hv⟩

end Fetched

theorem getPlatform_fetched (env : Env) : Keeps Sys.Fetched (getPlatform env) := by
  refine keeps_bind (keeps_bind (fetched_emit _) fun _ => fetched_call _) fun r => ?_
  split
  split <;> exact keeps_pure _

/-- One entry of the archive changes nothing of the receiver and adds to the pool at most
the pointer it puts back. -/
theorem extractEntry_fetched (env : Env) (tempDir : GoString) (header : TarEntry) :
    Keeps Sys.Fetched (extractEntry env tempDir header) := by
  unfold extractEntry
  split
  · exact keeps_pure _
  split
  · refine keeps_bind (fetched_emit _) fun _ => keeps_bind (fetched_call _) fun o => ?_
    split <;> exact keeps_pure _
  refine keeps_bind (fetched_emit _) fun _ => keeps_bind (fetched_call _) fun o => ?_
  split
  · exact keeps_pure _
  refine keeps_bind (fetched_poolGet env) fun v => ?_
  split
  · exact keeps_fault _
  refine keeps_bind (fetched_call _) fun o => ?_
  split
  · exact keeps_pure _
  exact keeps_bind (fetched_poolPut _) fun _ => keeps_pure _

theorem untar_fetched (env : Env) (tempDir : GoString) (entries : List TarEntry) :
    Keeps Sys.Fetched (untar env tempDir entries) := by
  induction entries with
  | nil => exact keeps_pure _
  | cons header rest ih =>
      refine keeps_bind (extractEntry_fetched env tempDir header) fun r => ?_
      split
      · exact keeps_pure _
      · exact ih

theorem getArtifacts_fetched (env : Env) (conf : Config) : Keeps Sys.Fetched (getArtifacts env conf) := by
  refine keeps_bind keeps_getBPF fun b => ?_
  split
  · exact keeps_pure _
  refine keeps_bind (getPlatform_fetched env) fun r => ?_
  split
  · exact keeps_pure _
  refine keeps_bind (fetched_call _) fun r => ?_
  split
  · exact keeps_pure _
  split
  · exact keeps_pure _
  split
  · exact keeps_pure _
  refine keeps_bind (untar_fetched env _ _) fun r => ?_
  split
  · exact keeps_pure _
  split
  · exact keeps_pure _
  exact keeps_bind (fetched_setFilePath _) fun _ => keeps_pure _

/-- `VerifyAndGetArtifacts` changes at most `FilePath` of the receiver, and adds to the pool
only pointers. -/
theorem verifyAndGetArtifacts_fetched (env : Env) (conf : Config) :
    Keeps Sys.Fetched (verifyAndGetArtifacts env conf) := by
  refine keeps_bind keeps_getBPF fun b => keeps_bind (keeps_stat _) fun o => ?_
  split
  · exact getArtifacts_fetched env conf
  · exact keeps_bind (fetched_setFilePath _) fun _ => keeps_pure _

/-- A fetch that returns nil sets `FilePath` to the directory of the artifact's stem under
`Join(BPFDir, name, version)`. -/
theorem getArtifacts_filePath {env : Env} {conf : Config} {s s' : Sys}
    (h : getArtifacts env conf s = .ok none s') :
    s'.bpf.filePath = join [join [conf.bpfDir, s.bpf.program.name, s.bpf.program.version],
      splitHead s.bpf.program.artifact 0x2E] := by
  have hp := congrArg BPF.program (getArtifacts_fetched env conf s none s' h).1
  obtain ⟨_, _, ⟨⟩, h⟩ := bind_eq_ok.mp (h : (getBPF >>= _) s = _)
  rcases hu : env.parseURL conf.kfRepoURL with e | u <;> rw [hu] at h
  · cases h
  obtain ⟨r₁, _, -, h⟩ := bind_eq_ok.mp h
  rcases r₁ with e | platform
  · cases h
  obtain ⟨r₂, _, -, h⟩ := bind_eq_ok.mp h
  rcases r₂ with e | resp
  · cases h
  dsimp only at h
  split at h
  · cases h
  rcases ha : resp.archive with e | stream <;> rw [ha] at h
  · cases h
  obtain ⟨r₃, _, -, h⟩ := bind_eq_ok.mp h
  rcases r₃ with _ | e
  · rcases ht : stream.trailer with _ | e <;> rw [ht] at h
    · obtain ⟨_, _, ⟨⟩, h⟩ := bind_eq_ok.mp h
      cases h
      simp only at hp ⊢
      rw [hp]
    · cases h
  · cases h

/-- Whatever the archive and the environment, every value in the pool after an extraction
was in it before, or is a `*[]byte` that the extraction put there. -/
theorem untar_pool {env : Env} {tempDir : GoString} {entries : List TarEntry} {s s' : Sys}
    {r : Option GoError} (h : untar env tempDir entries s = .ok r s') :
    ∀ v ∈ s'.pool, v ∈ s.pool ∨ ∃ n, v = .bytesPtr n :=
  (untar_fetched env tempDir entries s r s' h).2

theorem untar_pool_twoFileArchive :
    ∃ r s', untar Env.idle (ascii "/bpf/nf/1") twoFileArchive.entries nfDownload = .ok r s' ∧
      ∀ v ∈ s'.pool, v ∈ nfDownload.pool ∨ ∃ n, v = .bytesPtr n :=
  let ⟨r, s', h⟩ : ∃ r s', untar Env.idle (ascii "/bpf/nf/1") twoFileArchive.entries nfDownload =
      .ok r s' := ⟨_, _, rfl⟩
  ⟨r, s', h, untar_pool h⟩

/-- The second file's `Get` returns the `*[]byte` that the first put back: the type
assertion panics. -/
theorem getArtifacts_second_file_panics :
    ∃ s', getArtifacts twoFileRepo { bpfDir := ascii "/bpf" } nfDownload = .error .typeAssertion s' ∧
      s'.pool = [] :=
  ⟨_, rfl, rfl⟩

/-! ### Where `GetArtifacts` writes -/

/-- The path an effect creates or writes to. -/
def Effect.writes : Effect → Option GoString
  | .mkdirAll path | .writeFile path => some path
  | _ => none

/-- An effect that creates or writes a path does so under the cleaned `dir`. -/
def WritesUnder (dir : GoString) (e : Effect) : Prop :=
  ∀ path, e.writes = some path → IsUnder (clean dir) path

section WritesUnder

variable {P : BPF → BPF → Prop} {Q : Effect → Prop} [IsPreorder BPF P] {env : Env}

theorem poolGet_keepsAll : KeepsAll (Sys.Within P Q) (poolGet env) := by
  rintro ⟨b, h, st, tr, pool⟩
  cases hv : pool.get? (env.poolPick pool) <;> simp only [poolGet, hv, endState] <;>
    exact ⟨refl b, [], by simp, by simp⟩

theorem poolPut_keepsAll (v : PoolValue) : KeepsAll (Sys.Within P Q) (poolPut v) := by
  rintro ⟨b, h, st, tr, pool⟩
  exact ⟨refl b, [], by simp [endState, poolPut], by simp⟩

theorem call_keepsAll {γ : Type} (f : Host → γ × Host) : KeepsAll (Sys.Within P Q) (call f) :=
  keepsAll_of_noFault (within_call f) (noFault_call f)

theorem emit_keepsAll {e : Effect} (he : Q e) : KeepsAll (Sys.Within P Q) (emit e) :=
  keepsAll_of_noFault (within_emit he) (noFault_emit e)

theorem getPlatform_keepsAll (hrun : ∀ path args, Q (.run path args)) :
    KeepsAll (Sys.Within P Q) (getPlatform env) := by
  refine keepsAll_bind (keepsAll_of_noFault (runCommand_within hrun)
    (noFault_bind (noFault_emit _) fun _ => noFault_call _)) fun _ => ?_
  split
  split <;> exact keepsAll_pure _

/-- Each entry the loop does not reject is created at `Join(tempDir, name)`: the loop records
only what `Q` allows there. -/
theorem extractEntry_keepsAll {tempDir : GoString} (header : TarEntry)
    (hq : contains header.name dotdot = false →
      Q (.mkdirAll (join [tempDir, header.name])) ∧ Q (.writeFile (join [tempDir, header.name]))) :
    KeepsAll (Sys.Within P Q) (extractEntry env tempDir header) := by
  unfold extractEntry
  split
  · exact keepsAll_pure _
  next hn =>
  have hw := hq (Bool.eq_false_iff.mpr hn)
  split
  · refine keepsAll_bind (emit_keepsAll hw.1) fun _ => keepsAll_bind (call_keepsAll _) fun r => ?_
    split <;> exact keepsAll_pure _
  refine keepsAll_bind (emit_keepsAll hw.2) fun _ => keepsAll_bind (call_keepsAll _) fun r => ?_
  split
  · exact keepsAll_pure _
  refine keepsAll_bind poolGet_keepsAll fun v => ?_
  split
  · exact keepsAll_fault _
  refine keepsAll_bind (call_keepsAll _) fun r => ?_
  split
  · exact keepsAll_pure _
  · exact keepsAll_bind (poolPut_keepsAll _) fun _ => keepsAll_pure _

theorem untar_keepsAll {tempDir : GoString}
    (hq : ∀ name, contains name dotdot = false →
      Q (.mkdirAll (join [tempDir, name])) ∧ Q (.writeFile (join [tempDir, name])))
    (entries : List TarEntry) : KeepsAll (Sys.Within P Q) (untar env tempDir entries) := by
  induction entries with
  | nil => exact keepsAll_pure _
  | cons header rest ih =>
      refine keepsAll_bind (extractEntry_keepsAll header (hq header.name)) fun r => ?_
      split
      · exact keepsAll_pure _
      · exact ih

/-- The loop creates and writes only under `tempDir`. -/
theorem untar_writesUnder {tempDir : GoString} (ht : tempDir ≠ []) (entries : List TarEntry) :
    KeepsAll (Sys.Within P (WritesUnder tempDir)) (untar env tempDir entries) :=
  untar_keepsAll (fun _ hn =>
    have := join_isUnder ht hn
    ⟨fun _ hp => Option.some.inj hp ▸ this, fun _ hp => Option.some.inj hp ▸ this⟩) entries

/-- Every run of `GetArtifacts`, one that panics included, creates and writes paths only
under `Join(BPFDir, name, version)`. -/
theorem getArtifacts_writesUnder {conf : Config} (hd : conf.bpfDir ≠ [])
    (hP : ∀ b f, P b { b with filePath := f }) (s : Sys) :
    Sys.Within P (WritesUnder (join [conf.bpfDir, s.bpf.program.name, s.bpf.program.version])) s
      (endState (getArtifacts env conf s)) := by
  refine keepsAll_getBPF_bind
    (R := fun b => Sys.Within P (WritesUnder (join [conf.bpfDir, b.program.name, b.program.version])))
    (fun b => ?_) s
  have ht : join [conf.bpfDir, b.program.name, b.program.version] ≠ [] := by
    rw [join_cons_of_ne_nil hd]
    exact clean_ne_nil _
  have hrun : ∀ path args, WritesUnder (join [conf.bpfDir, b.program.name, b.program.version])
      (.run path args) := fun _ _ _ hp => by cases hp
  dsimp only
  split
  · exact keepsAll_pure _
  refine keepsAll_bind (getPlatform_keepsAll hrun) fun r => ?_
  split
  · exact keepsAll_pure _
  refine keepsAll_bind (call_keepsAll _) fun r => ?_
  split
  · exact keepsAll_pure _
  split
  · exact keepsAll_pure _
  split
  · exact keepsAll_pure _
  refine keepsAll_bind (untar_writesUnder ht _) fun r => ?_
  split
  · exact keepsAll_pure _
  split
  · exact keepsAll_pure _
  · exact keepsAll_bind (keepsAll_of_noFault (within_modifyBPF fun b => hP b _)
      (noFault_modifyBPF _)) fun _ => keepsAll_pure _

end WritesUnder

/-- Whatever the archive and the environment, `GetArtifacts` creates directories and files only
at `Clean(tempDir)` or below it, for `tempDir = Join(BPFDir, name, version)` with a `BPFDir`
that is not empty: also for absolute names, repeated separators and `.` elements, and also on
a run that panics. -/
theorem getArtifacts_writes_under_tempDir (env : Env) (conf : Config) (hd : conf.bpfDir ≠ [])
    (s : Sys) :
    ∃ t, (endState (getArtifacts env conf s)).trace = s.trace ++ t ∧
      ∀ e ∈ t, ∀ path, e.writes = some path →
        IsUnder (clean (join [conf.bpfDir, s.bpf.program.name, s.bpf.program.version])) path :=
  (getArtifacts_writesUnder (P := BPF.Same BPF.program) hd (fun _ _ => rfl) s).2

theorem getArtifacts_writes_under_tempDir_twoFileRepo :
    ∃ t, (endState (getArtifacts twoFileRepo { bpfDir := ascii "/var/l3afd/repo" } nfDownload)).trace =
      nfDownload.trace ++ t ∧ ∀ e ∈ t, ∀ path, e.writes = some path →
        IsUnder (clean (join [ascii "/var/l3afd/repo", ascii "nf", ascii "1"])) path :=
  getArtifacts_writes_under_tempDir twoFileRepo { bpfDir := ascii "/var/l3afd/repo" } (by decide)
    nfDownload

/-! ### What an extraction that returns nil did -/

/-- How the loop creates an entry under `tempDir`: a directory by `MkdirAll`, a file by
`OpenFile`. -/
def TarEntry.effect (tempDir : GoString) (e : TarEntry) : Effect :=
  if e.isDir then .mkdirAll (join [tempDir, e.name]) else .writeFile (join [tempDir, e.name])

section Extraction

variable {env : Env} {tempDir : GoString} {s s' : Sys}

/-- An entry that the loop takes without error has no `..` in its name, and the loop created
it and recorded nothing else. -/
theorem extractEntry_nil {header : TarEntry} (h : extractEntry env tempDir header s = .ok none s') :
    contains header.name dotdot = false ∧ s'.trace = s.trace ++ [header.effect tempDir] := by
  unfold extractEntry at h
  split at h
  · cases h
  next hn =>
  refine ⟨Bool.eq_false_iff.mpr hn, ?_⟩
  split at h
  · next hd =>
    obtain ⟨_, s₁, ⟨⟩, h⟩ := bind_eq_ok.mp h
    obtain ⟨_ | err, s₂, hr, h⟩ := bind_eq_ok.mp h
    · cases h
      obtain ⟨-, rfl⟩ := (EStateM.Result.ok.injEq ..).mp hr
      simp only [TarEntry.effect, hd, if_true]
    · cases h
  · next hd =>
    obtain ⟨_, s₁, ⟨⟩, h⟩ := bind_eq_ok.mp h
    obtain ⟨_ | err, s₂, hr, h⟩ := bind_eq_ok.mp h
    swap
    · cases h
    obtain ⟨-, rfl⟩ := (EStateM.Result.ok.injEq ..).mp hr
    obtain ⟨v, s₃, hg, h⟩ := bind_eq_ok.mp h
    have ht : s₃.trace = s.trace ++ [.writeFile (join [tempDir, header.name])] := by
      revert hg
      rcases hp : s.pool.get? (env.poolPick s.pool) <;> simp only [poolGet, hp] <;> rintro ⟨⟩ <;> rfl
    rcases v with n | n
    · obtain ⟨_ | err, s₄, hr, h⟩ := bind_eq_ok.mp h
      · obtain ⟨-, rfl⟩ := (EStateM.Result.ok.injEq ..).mp hr
        obtain ⟨_, s₅, ⟨⟩, h⟩ := bind_eq_ok.mp h
        cases h
        simpa only [TarEntry.effect, hd, Bool.false_eq_true, if_false] using ht
      · cases h
    · cases h

/-- The extraction loop returns nil only when no entry has `..` in its name, and then it has
created every entry, in the order of the archive, and recorded nothing else. -/
theorem untar_nil {entries : List TarEntry} (h : untar env tempDir entries s = .ok none s') :
    (∀ e ∈ entries, contains e.name dotdot = false) ∧
      s'.trace = s.trace ++ entries.map (TarEntry.effect tempDir) := by
  induction entries generalizing s with
  | nil =>
    cases h
    exact ⟨fun _ he => absurd he (List.not_mem_nil _), by simp⟩
  | cons header rest ih =>
    obtain ⟨r, s₁, h₁, h⟩ := bind_eq_ok.mp h
    rcases r with _ | err
    · obtain ⟨hn, ht₁⟩ := extractEntry_nil h₁
      obtain ⟨hrest, ht⟩ := ih h
      exact ⟨List.forall_mem_cons.mpr ⟨hn, hrest⟩, by rw [ht, ht₁, List.map_cons, List.append_assoc]; rfl⟩
    · cases h

/-- A `GetPlatform` that returns a platform ran `lsb_release -cs`, which exited nil, and
returns its output trimmed; the host is the one that command left. -/
theorem getPlatform_ok {platform : GoString} (h : getPlatform env s = .ok (.ok platform) s') :
    ∃ out, (env.run (ascii "lsb_release") [ascii "-cs"] s.host).1 = (none, out) ∧ platform = trimSpace out ∧
      s'.host = (env.run (ascii "lsb_release") [ascii "-cs"] s.host).2 ∧ s'.bpf = s.bpf ∧
      s'.trace = s.trace ++ [.run (ascii "lsb_release") [ascii "-cs"]] := by
  obtain ⟨⟨_ | err, out⟩, s₁, hrun, h⟩ := bind_eq_ok.mp h
  · obtain ⟨_, s₀, ⟨⟩, hrun⟩ := bind_eq_ok.mp hrun
    obtain ⟨hout, rfl⟩ := (EStateM.Result.ok.injEq ..).mp hrun
    cases h
    exact ⟨out, hout, rfl, rfl, rfl, rfl⟩
  · cases h

/-- What a run of `GetArtifacts` that returns did: an error leaves the receiver as it was; nil
comes after the download, from the host `lsb_release -cs` left, of the URL of the repository,
the program and the platform, whose archive ends at `io.EOF`, has no `..` in an entry name and
was extracted entry by entry, and sets `FilePath`. -/
theorem getArtifacts_cases {conf : Config} {r : Option GoError} (h : getArtifacts env conf s = .ok r s') :
    (r ≠ none ∧ s'.bpf = s.bpf) ∨
    (r = none ∧ s'.bpf = { s.bpf with filePath := join [join [conf.bpfDir, s.bpf.program.name,
        s.bpf.program.version], splitHead s.bpf.program.artifact 0x2E] } ∧
      ∃ (u : URL) (out : GoString) (resp : Response) (stream : TarStream),
        env.parseURL conf.kfRepoURL = .ok u ∧
        (env.run (ascii "lsb_release") [ascii "-cs"] s.host).1 = (none, out) ∧
        (env.httpGet ({ u with path := join [u.path, s.bpf.program.name, s.bpf.program.version, trimSpace out,
            s.bpf.program.artifact] } : URL).string conf.httpClientTimeout
          (env.run (ascii "lsb_release") [ascii "-cs"] s.host).2).1 = .ok resp ∧
        resp.statusCode = 200 ∧ resp.archive = .ok stream ∧ stream.trailer = none ∧
        (∀ e ∈ stream.entries, contains e.name dotdot = false) ∧
        s'.trace = s.trace ++ .run (ascii "lsb_release") [ascii "-cs"] ::
          stream.entries.map (TarEntry.effect (join [conf.bpfDir, s.bpf.program.name, s.bpf.program.version]))) := by
  obtain ⟨_, _, ⟨⟩, h⟩ := bind_eq_ok.mp h
  rcases hu : env.parseURL conf.kfRepoURL with err | kfRepoURL <;> simp only [hu] at h
  · cases h
    exact .inl ⟨by simp, rfl⟩
  obtain ⟨r₁, s₁, hplat, h⟩ := bind_eq_ok.mp h
  have h₁ : s₁.bpf = s.bpf :=
    ((getPlatform_keepsAll (P := BPF.Same id) (Q := fun _ => True) fun _ _ => trivial).keeps _ _ _ hplat).1
  rcases r₁ with err | platform
  · cases h
    exact .inl ⟨by simp, h₁⟩
  obtain ⟨out, hout, rfl, hhost, -, htrace₁⟩ := getPlatform_ok hplat
  obtain ⟨_ | resp, s₂, hget, h⟩ := bind_eq_ok.mp h
  · obtain ⟨-, rfl⟩ := (EStateM.Result.ok.injEq ..).mp hget
    cases h
    exact .inl ⟨by simp, h₁⟩
  obtain ⟨hresp, rfl⟩ := (EStateM.Result.ok.injEq ..).mp hget
  dsimp only at h
  split at h
  · cases h
    exact .inl ⟨by simp, h₁⟩
  next hstatus =>
  rcases ha : resp.archive with err | stream <;> simp only [ha] at h
  · cases h
    exact .inl ⟨by simp, h₁⟩
  obtain ⟨r₃, s₃, hun, h⟩ := bind_eq_ok.mp h
  have h₃ : s₃.bpf = s₁.bpf :=
    ((untar_keepsAll (P := BPF.Same id) (Q := fun _ => True) (fun _ _ => ⟨trivial, trivial⟩) _).keeps
      _ _ _ hun).1
  rcases r₃ with _ | err
  swap
  · cases h
    exact .inl ⟨by simp, h₃.trans h₁⟩
  rcases htr : stream.trailer with _ | err <;> simp only [htr] at h
  swap
  · cases h
    exact .inl ⟨by simp, h₃.trans h₁⟩
  obtain ⟨_, s₄, ⟨⟩, h⟩ := bind_eq_ok.mp h
  cases h
  obtain ⟨hnames, htrace⟩ := untar_nil hun
  refine .inr ⟨rfl, by rw [← h₁, ← h₃], kfRepoURL, out, resp, stream, rfl, hout, by rw [← hhost, hresp],
    not_not.mp hstatus, ha, htr, hnames, ?_⟩
  show s₃.trace = _
  rw [htrace]
  show s₁.trace ++ _ = _
  rw [htrace₁, List.append_assoc, List.singleton_append]

/-- Whatever the environment, `GetArtifacts` returns nil only after it parsed the repository
URL and ran `lsb_release -cs`, which exited nil, and only for the archive that the download of
`<repo>/<name>/<version>/<platform>/<artifact>`, from the host that command left, returned
with status 200, when that archive ends at `io.EOF` and has no `..` in any entry name. It has
then created every entry of the archive, in its order, at `Join(tempDir, name)` for
`tempDir = Join(BPFDir, name, version)`, and recorded nothing else. -/
theorem getArtifacts_nil_extracts {conf : Config} (h : getArtifacts env conf s = .ok none s') :
    ∃ (u : URL) (out : GoString) (resp : Response) (stream : TarStream),
      env.parseURL conf.kfRepoURL = .ok u ∧
      (env.run (ascii "lsb_release") [ascii "-cs"] s.host).1 = (none, out) ∧
      (env.httpGet ({ u with path := join [u.path, s.bpf.program.name, s.bpf.program.version, trimSpace out,
          s.bpf.program.artifact] } : URL).string conf.httpClientTimeout
        (env.run (ascii "lsb_release") [ascii "-cs"] s.host).2).1 = .ok resp ∧
      resp.statusCode = 200 ∧ resp.archive = .ok stream ∧ stream.trailer = none ∧
      (∀ e ∈ stream.entries, contains e.name dotdot = false) ∧
      s'.trace = s.trace ++ .run (ascii "lsb_release") [ascii "-cs"] ::
        stream.entries.map (TarEntry.effect (join [conf.bpfDir, s.bpf.program.name, s.bpf.program.version])) := by
  rcases getArtifacts_cases h with ⟨hr, -⟩ | ⟨-, -, hx⟩
  exacts [absurd rfl hr, hx]

/-- An archive of the directory `nf` and the file `nf/start.sh` in it. -/
def dirFileArchive : TarStream :=
  { entries := [⟨ascii "nf", true, 0o755, []⟩, ⟨ascii "nf/start.sh", false, 0o755, []⟩]
    trailer := none }

/-- A repository that serves `dirFileArchive`. -/
def dirFileRepo : Env :=
  { Env.idle with
    httpGet := fun _ _ h => (.ok { statusCode := 200, body := [], archive := .ok dirFileArchive }, h) }

theorem dirFileRepo_getArtifacts_extracts :
    ∃ s', getArtifacts dirFileRepo { bpfDir := ascii "/bpf" } nfDownload = .ok none s' ∧
      ∃ (u : URL) (out : GoString) (resp : Response) (stream : TarStream),
        dirFileRepo.parseURL [] = .ok u ∧
        (dirFileRepo.run (ascii "lsb_release") [ascii "-cs"] nfDownload.host).1 = (none, out) ∧
        (dirFileRepo.httpGet ({ u with path := join [u.path, ascii "nf", ascii "1", trimSpace out,
            nfDownload.bpf.program.artifact] } : URL).string 0
          (dirFileRepo.run (ascii "lsb_release") [ascii "-cs"] nfDownload.host).2).1 = .ok resp ∧
        resp.statusCode = 200 ∧ resp.archive = .ok stream ∧ stream.trailer = none ∧
        (∀ e ∈ stream.entries, contains e.name dotdot = false) ∧
        s'.trace = nfDownload.trace ++ .run (ascii "lsb_release") [ascii "-cs"] ::
          stream.entries.map (TarEntry.effect (join [ascii "/bpf", ascii "nf", ascii "1"])) :=
  let ⟨s', h⟩ : ∃ s', getArtifacts dirFileRepo { bpfDir := ascii "/bpf" } nfDownload = .ok none s' :=
    ⟨_, rfl⟩
  ⟨s', h, getArtifacts_nil_extracts h⟩

end Extraction

/-! ### Where `createUpdateRulesFile` writes -/

/-- An effect that creates or writes a path writes `path`. -/
def WritesOnly (path : GoString) (e : Effect) : Prop :=
  ∀ p, e.writes = some p → p = path

/-- `createUpdateRulesFile(direction)` writes `Join(FilePath, direction, RulesFile)` of the
receiver it starts from, and nothing else. -/
theorem createUpdateRulesFile_writesAt {env : Env} {direction : GoString} :
    Keeps (Sys.WithinAt (fun b => join [b.filePath, direction, b.program.rulesFile]) WritesOnly)
      (createUpdateRulesFile env direction) := by
  refine keeps_withinAt_getBPF_bind fun b => ?_
  split
  · exact keeps_pure _
  refine keeps_bind (within_emit fun _ hp => (Option.some.inj hp).symm) fun _ =>
    keeps_bind (within_call _) fun r => ?_
  split <;> exact keeps_pure _

end L3afd.Kf
