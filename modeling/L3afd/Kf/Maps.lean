import L3afd.Kf.Calls
import Mathlib.Data.List.Nodup

/-! # The maps of a program

`GetBPFMap` finds a map of the program: a TC map by its pinned path, an XDP map by walking
the kernel's map ids for its name. `AddBPFMap` and `AddMetricsBPFMap` cache what it finds in
`BpfMaps` and `MetricsBpfMaps`; `Update` writes the `map_args` through the first, and
`MonitorMaps` publishes one sample of each monitored map through the second. `GetProgID`
and the `ProgFD` functions read and write slot 0 of the chaining maps.

## Implementation notes

`MetricsBpfMaps` holds pointers, and `GetValue` adds a sample to the ring of the map it is
called on, so the model writes the sampled map back under its key. The XDP walk runs on fuel
`h.maps.length + 1`: `MapGetNextID` hands out each id once, in increasing order, so the walk
ends, on a match or on `MapGetNextID` failing, within that many rounds: on a table of distinct
ids above zero it returns the map of least id with the truncated name, or the error exactly
when there is none (`getBPFMap_xdp_first`). The kernel accepts every `Update` of a chaining
map. -/

namespace L3afd.Kf
open L3afd.Go

/-! ### `GetBPFMap` -/

/-- The loop of `GetBPFMap` for an XDP program: the maps after `mpId`, in id order, until
one has the kernel name `mpName`. -/
def findXdpMap (h : Host) (mapName mpName : GoString) : Nat → Nat → Except GoError BPFMap
  | 0, _ => .error (ascii "failed to fetch the map object " ++ enoent)
  | fuel + 1, mpId =>
    match h.mapGetNextID mpId with
    | .error err => .error (ascii "failed to fetch the map object " ++ err)
    | .ok tmpMapId =>
      match h.newMapFromID tmpMapId with
      | .error err => .error (ascii "failed to get NewMapFromID " ++ err)
      | .ok m =>
        if m.name = mpName then .ok { name := mapName, mapID := tmpMapId, type := m.type }
        else findXdpMap h mapName mpName fuel tmpMapId

/-- `GetBPFMap(mapName)`; a program of another type gets the zero `BPFMap`. -/
def getBPFMap (h : Host) (program : BPFProgram) (mapName : GoString) : Except GoError BPFMap :=
  if program.ebpfType = tcType then
    match h.loadPinnedMap mapName with
    | .error err => .error (ascii "ebpf LoadPinnedMap failed " ++ err)
    | .ok m => .ok { name := mapName, mapID := m.id, type := m.type }
  else if program.ebpfType = xdpType then
    findXdpMap h mapName (truncateName mapName) (h.maps.length + 1) 0
  else .ok {}

theorem findXdpMap_name {h : Host} {mapName mpName : GoString} {fuel mpId : Nat} {m : BPFMap}
    (hm : findXdpMap h mapName mpName fuel mpId = .ok m) : m.name = mapName := by
  induction fuel generalizing mpId with
  | zero => cases hm
  | succ fuel ih =>
      unfold findXdpMap at hm
      split at hm
      · cases hm
      · split at hm
        · cases hm
        · split at hm
          · cases hm
            rfl
          · exact ih hm

/-- A map that `GetBPFMap` finds for a TC or XDP program carries the name it was asked for. -/
theorem getBPFMap_name {h : Host} {program : BPFProgram} {mapName : GoString} {m : BPFMap}
    (ht : program.ebpfType = tcType ∨ program.ebpfType = xdpType)
    (hm : getBPFMap h program mapName = .ok m) : m.name = mapName := by
  unfold getBPFMap at hm
  by_cases htc : program.ebpfType = tcType
  · rw [if_pos htc] at hm
    split at hm
    · cases hm
    · cases hm
      rfl
  · rw [if_neg htc, if_pos (ht.resolve_left htc)] at hm
    exact findXdpMap_name hm

/-! ### `AddBPFMap`, `AddMetricsBPFMap` -/

/-- `b.BpfMaps[mapName] = *bpfMap`, or the nil-map panic. -/
def putBpfMap (mapName : GoString) (m : BPFMap) : Go Unit := do
  match (← getBPF).bpfMaps with
  | none => fault .nilMapWrite
  | some es => modifyBPF fun b => { b with bpfMaps := some (GoMap.put es mapName m) }

/-- `AddBPFMap(mapName)`. -/
def addBPFMap (mapName : GoString) : Go (Option GoError) := do
  let b ← getBPF
  match getBPFMap (← getHost) b.program mapName with
  | .error err => return some err
  | .ok m =>
    putBpfMap mapName m
    return none

/-- `AddBPFMap` either returns `GetBPFMap`'s error and changes nothing, or files the handle
`GetBPFMap` found under the map's name. -/
theorem addBPFMap_cases {mapName : GoString} {s s' : Sys} {r : Option GoError}
    (h : addBPFMap mapName s = .ok r s') :
    (∃ err, getBPFMap s.host s.bpf.program mapName = .error err ∧ r = some err ∧ s' = s) ∨
      ∃ es m, getBPFMap s.host s.bpf.program mapName = .ok m ∧ s.bpf.bpfMaps = some es ∧ r = none ∧
        s' = { s with bpf := { s.bpf with bpfMaps := some (GoMap.put es mapName m) } } := by
  simp only [addBPFMap, bind_apply, getBPF_apply, getHost_apply] at h
  rcases hg : getBPFMap s.host s.bpf.program mapName with err | m <;> rw [hg] at h
  · cases h
    exact .inl ⟨err, rfl, rfl, rfl⟩
  · simp only [putBpfMap, bind_apply, getBPF_apply] at h
    rcases hb : s.bpf.bpfMaps with _ | es <;> rw [hb] at h
    · cases h
    · cases h
      exact .inr ⟨es, m, rfl, rfl, rfl, rfl⟩

/-- `AddBPFMap` panics only on a nil `BpfMaps`. -/
theorem addBPFMap_fault {mapName : GoString} {s s' : Sys} {e : Fault}
    (h : addBPFMap mapName s = .error e s') : s.bpf.bpfMaps = none := by
  simp only [addBPFMap, bind_apply, getBPF_apply, getHost_apply] at h
  rcases hg : getBPFMap s.host s.bpf.program mapName with err | m <;> rw [hg] at h
  · cases h
  · simp only [putBpfMap, bind_apply, getBPF_apply] at h
    rcases hb : s.bpf.bpfMaps with _ | es
    · rfl
    · rw [hb] at h
      cases h

/-- `mapName + strconv.Itoa(key) + aggregator`, the key of `MetricsBpfMaps`. -/
def metricsKey (mapName : GoString) (key : Int) (aggregator : GoString) : GoString :=
  mapName ++ itoa key ++ aggregator

/-- `b.MetricsBpfMaps[mapKey] = m`, or the nil-map panic. -/
def putMetricsBpfMap (mapKey : GoString) (m : MetricsBPFMap) : Go Unit := do
  match (← getBPF).metricsBpfMaps with
  | none => fault .nilMapWrite
  | some es => modifyBPF fun b => { b with metricsBpfMaps := some (GoMap.put es mapKey m) }

/-- `AddMetricsBPFMap(mapName, aggregator, key, samplesLength)`: the samples ring has
`samplesLength` empty slots, none when it is not positive. -/
def addMetricsBPFMap (mapName aggregator : GoString) (key samplesLength : Int) :
    Go (Option GoError) := do
  let b ← getBPF
  match getBPFMap (← getHost) b.program mapName with
  | .error err => return some err
  | .ok m =>
    putMetricsBpfMap (metricsKey mapName key aggregator)
      { bpfMap := m, key, aggregator, values := List.replicate samplesLength.toNat none }
    return none

/-- `AddMetricsBPFMap` either returns `GetBPFMap`'s error and changes nothing, or files the
handle with its key, aggregator and an empty ring under `metricsKey`. -/
theorem addMetricsBPFMap_cases {mapName aggregator : GoString} {key samplesLength : Int}
    {s s' : Sys} {r : Option GoError} (h : addMetricsBPFMap mapName aggregator key samplesLength s = .ok r s') :
    (∃ err, getBPFMap s.host s.bpf.program mapName = .error err ∧ r = some err ∧ s' = s) ∨
      ∃ es m, getBPFMap s.host s.bpf.program mapName = .ok m ∧ s.bpf.metricsBpfMaps = some es ∧
        r = none ∧ s' = { s with bpf := { s.bpf with metricsBpfMaps := some (GoMap.put es
          (metricsKey mapName key aggregator)
          { bpfMap := m, key, aggregator, values := List.replicate samplesLength.toNat none }) } } := by
  simp only [addMetricsBPFMap, bind_apply, getBPF_apply, getHost_apply] at h
  rcases hg : getBPFMap s.host s.bpf.program mapName with err | m <;> rw [hg] at h
  · cases h
    exact .inl ⟨err, rfl, rfl, rfl⟩
  · simp only [putMetricsBpfMap, bind_apply, getBPF_apply] at h
    rcases hb : s.bpf.metricsBpfMaps with _ | es <;> rw [hb] at h
    · cases h
    · cases h
      exact .inr ⟨es, m, rfl, rfl, rfl, rfl⟩

/-- `AddMetricsBPFMap` panics only on a nil `MetricsBpfMaps`. -/
theorem addMetricsBPFMap_fault {mapName aggregator : GoString} {key samplesLength : Int}
    {s s' : Sys} {e : Fault} (h : addMetricsBPFMap mapName aggregator key samplesLength s = .error e s') :
    s.bpf.metricsBpfMaps = none := by
  simp only [addMetricsBPFMap, bind_apply, getBPF_apply, getHost_apply] at h
  rcases hg : getBPFMap s.host s.bpf.program mapName with err | m <;> rw [hg] at h
  · cases h
  · simp only [putMetricsBpfMap, bind_apply, getBPF_apply] at h
    rcases hb : s.bpf.metricsBpfMaps with _ | es
    · rfl
    · rw [hb] at h
      cases h

/-! ### `MonitorMaps` -/

/-- `bpfMap.GetValue()` on the entry under `mapKey`, and `stats.SetValue` of the result. -/
def sampleMetricsMap (env : Env) (programName mapKey metricName : GoString) : Go Unit := do
  match (← getBPF).metricsBpfMaps.get? mapKey with
  | none => fault .nilDeref
  | some m =>
    let (v, m') := env.getValue m (← getHost)
    modifyBPF fun b => { b with metricsBpfMaps := b.metricsBpfMaps.map (GoMap.put · mapKey m') }
    publish (.setValue v .nfMointorMap [programName, metricName])

/-- A sample reads the entry under `mapKey`, writes back what `GetValue` returns and publishes
the value. -/
theorem sampleMetricsMap_cases {env : Env} {programName mapKey metricName : GoString} {s s' : Sys}
    (h : sampleMetricsMap env programName mapKey metricName s = .ok () s') :
    ∃ m, s.bpf.metricsBpfMaps.get? mapKey = some m ∧
      s' = { s with
        bpf := { s.bpf with
          metricsBpfMaps := s.bpf.metricsBpfMaps.map (GoMap.put · mapKey (env.getValue m s.host).2) }
        stats := s.stats ++ [.setValue (env.getValue m s.host).1 .nfMointorMap [programName, metricName]] } := by
  simp only [sampleMetricsMap, bind_apply, getBPF_apply] at h
  rcases hm : s.bpf.metricsBpfMaps.get? mapKey with _ | m <;> rw [hm] at h
  · cases h
  · simp only [bind_apply, getHost_apply, modifyBPF_apply, publish_apply] at h
    cases h
    exact ⟨m, rfl, rfl⟩

/-- After a sample, an entry of `MetricsBpfMaps` is an entry from before, or the sample of an
entry from before written back under that entry's key. -/
theorem sampleMetricsMap_mem {env : Env} {programName mapKey metricName : GoString} {s s' : Sys}
    (h : sampleMetricsMap env programName mapKey metricName s = .ok () s')
    {x : GoString × MetricsBPFMap} (hx : x ∈ s'.bpf.metricsBpfMaps.getD []) :
    x ∈ s.bpf.metricsBpfMaps.getD [] ∨
      ∃ m, (x.1, m) ∈ s.bpf.metricsBpfMaps.getD [] ∧ x.2 = (env.getValue m s.host).2 := by
  obtain ⟨m, hm, rfl⟩ := sampleMetricsMap_cases h
  have hmem := GoMap.mem_of_get? hm
  dsimp only at hx
  rcases hb : s.bpf.metricsBpfMaps with _ | es
  · rw [hb] at hx
    cases hx
  rw [hb] at hx hmem
  rcases GoMap.mem_put hx with rfl | hx
  · exact .inr ⟨m, hmem, rfl⟩
  · exact .inl hx

/-- A sample panics only when no entry is filed under `mapKey`. -/
theorem sampleMetricsMap_fault {env : Env} {programName mapKey metricName : GoString} {s s' : Sys}
    {e : Fault} (h : sampleMetricsMap env programName mapKey metricName s = .error e s') :
    s.bpf.metricsBpfMaps.get? mapKey = none := by
  simp only [sampleMetricsMap, bind_apply, getBPF_apply] at h
  rcases hm : s.bpf.metricsBpfMaps.get? mapKey with _ | m
  · rfl
  · rw [hm] at h
    simp only [bind_apply, getHost_apply, modifyBPF_apply, publish_apply] at h
    cases h

/-- One round of `MonitorMaps`: cache the map of the element if its key is new, then
sample the entry under its key. -/
def monitorElement (env : Env) (intervals : Int) (element : L3afDNFMetricsMap) :
    Go (Option GoError) := do
  let b ← getBPF
  let mapKey := metricsKey element.name element.key element.aggregator
  let added ← match b.metricsBpfMaps.get? mapKey with
    | some _ => pure none
    | none => addMetricsBPFMap element.name element.aggregator element.key intervals
  match added with
  | some _ =>
    return some (ascii "not able to fetch map " ++ element.name ++ ascii " key " ++
      itoa element.key ++ ascii " aggregator " ++ element.aggregator)
  | none =>
    sampleMetricsMap env b.program.name mapKey
      (element.name ++ ascii "_" ++ itoa element.key ++ ascii "_" ++ element.aggregator)
    return none

/-- A round of `MonitorMaps` panics only on a nil `MetricsBpfMaps`: once the entry of its
key is added, the sample finds it. -/
theorem monitorElement_fault {env : Env} {intervals : Int} {element : L3afDNFMetricsMap}
    {s s' : Sys} {e : Fault} (h : monitorElement env intervals element s = .error e s') :
    s.bpf.metricsBpfMaps = none := by
  rcases bind_eq_error.mp h with h | ⟨_, _, ⟨⟩, h⟩
  · cases h
  dsimp only at h
  rcases hm : s.bpf.metricsBpfMaps.get? (metricsKey element.name element.key element.aggregator)
    with _ | m <;> rw [hm] at h
  · rcases bind_eq_error.mp h with h | ⟨r, s₁, ha, h⟩
    · exact addMetricsBPFMap_fault h
    rcases r with _ | err
    · rcases bind_eq_error.mp h with h | ⟨_, _, -, h⟩
      · have := sampleMetricsMap_fault h
        rcases addMetricsBPFMap_cases ha with ⟨_, _, ⟨⟩, -⟩ | ⟨es, _, _, _, -, rfl⟩
        simp at this
      · cases h
    · cases h
  · rcases bind_eq_error.mp h with h | ⟨_, _, ⟨⟩, h⟩
    · cases h
    rcases bind_eq_error.mp h with h | ⟨_, _, -, h⟩
    · rw [sampleMetricsMap_fault h] at hm
      cases hm
    · cases h

/-- The loop of `MonitorMaps` over `Program.MonitorMaps`. -/
def monitorLoop (env : Env) (intervals : Int) : List L3afDNFMetricsMap → Go (Option GoError)
  | [] => pure none
  | element :: rest => do
    match ← monitorElement env intervals element with
    | some err => return some err
    | none => monitorLoop env intervals rest

/-- `MonitorMaps(ifaceName, intervals)`. -/
def monitorMaps (env : Env) (ifaceName : GoString) (intervals : Int) : Go (Option GoError) := do
  monitorLoop env intervals (← getBPF).program.monitorMaps

/-- A TC program `nf` monitoring map `a1` at key 2 and map `a` at key 12, both summed. -/
def collidingProgram : BPFProgram :=
  { name := ascii "nf", ebpfType := tcType,
    monitorMaps := [⟨ascii "a1", 2, ascii "sum"⟩, ⟨ascii "a", 12, ascii "sum"⟩] }

/-- A host with `a1` pinned as map 1 and `a` pinned as map 2. -/
def collidingHost : Host :=
  { fs := fun p => if p = ascii "a1" then some (.pin 1) else if p = ascii "a" then some (.pin 2)
      else none
    maps := [{ id := 1, name := ascii "a1" }, { id := 2, name := ascii "a" }] }

/-- Sampling that answers with the key the sampled map was added for. -/
def keyEnv : Env := { Env.idle with getValue := fun m _ => (m.key, m) }

/-- Both elements have the cache key `a12sum`: the second element's sample is read through
the map added for the first, `a1` at key 2. -/
theorem monitorMaps_reads_a1_for_a :
    metricsKey (ascii "a1") 2 (ascii "sum") = metricsKey (ascii "a") 12 (ascii "sum") ∧
    ∃ s', monitorMaps keyEnv (ascii "eth0") 3
        { bpf := newBpfProgram collidingProgram [] [], host := collidingHost } = .ok none s' ∧
      s'.stats = [.setValue 2 .nfMointorMap [ascii "nf", ascii "a1_2_sum"],
        .setValue 2 .nfMointorMap [ascii "nf", ascii "a_12_sum"]] :=
  ⟨rfl, _, rfl, rfl⟩

/-! ### The XDP walk

The number of maps above the walk's cursor drops every round, so `h.maps.length + 1` rounds
are enough. -/

theorem Host.mapGetNextID_eq_error {h : Host} {id : Nat} {e : GoError}
    (he : h.mapGetNextID id = .error e) : e = enoent ∧ ∀ m ∈ h.maps, m.id ≤ id := by
  unfold Host.mapGetNextID at he
  split at he
  · cases he
  · rename_i hn
    cases he
    refine ⟨rfl, fun m hm => Nat.not_lt.mp fun hlt => ?_⟩
    simp [List.min?_eq_none_iff, List.filter_eq_nil_iff] at hn
    exact absurd hlt (Nat.not_lt.mpr (hn m hm))

theorem Host.mapGetNextID_eq_ok {h : Host} {id next : Nat} (he : h.mapGetNextID id = .ok next) :
    (∃ m ∈ h.maps, m.id = next) ∧ id < next ∧ ∀ m ∈ h.maps, id < m.id → next ≤ m.id := by
  unfold Host.mapGetNextID at he
  split at he
  · rename_i hn
    cases he
    obtain ⟨hmem, hle⟩ := List.min?_eq_some_iff'.mp hn
    simp only [List.mem_filter, List.mem_map, decide_eq_true_eq] at hmem hle
    exact ⟨hmem.1, hmem.2, fun m hm hlt => hle _ ⟨⟨m, hm, rfl⟩, hlt⟩⟩
  · cases he

theorem Host.newMapFromID_of_mem {h : Host} (hid : (h.maps.map (·.id)).Nodup) {m : KernelMap}
    (hm : m ∈ h.maps) : h.newMapFromID m.id = .ok m := by
  unfold Host.newMapFromID
  cases hf : h.maps.find? (·.id == m.id) with
  | none => exact absurd (beq_self_eq_true m.id) (List.find?_eq_none.mp hf m hm)
  | some m' =>
    have := List.inj_on_of_nodup_map hid (List.mem_of_find?_eq_some hf) hm
      (by simpa using List.find?_some hf)
    rw [this]

/-- `m` is where the walk of `GetBPFMap` from `mpId` should stop: the map of least id above
`mpId` among those named `mpName`. -/
def IsFirstNamed (h : Host) (mpName : GoString) (mpId : Nat) (m : KernelMap) : Prop :=
  m ∈ h.maps ∧ mpId < m.id ∧ m.name = mpName ∧
    ∀ m' ∈ h.maps, mpId < m'.id → m'.name = mpName → m.id ≤ m'.id

/-- A map above the cursor leaves fewer maps above it. -/
theorem length_filter_id_lt {maps : List KernelMap} {mpId : Nat} {m : KernelMap} (hm : m ∈ maps)
    (hlt : mpId < m.id) :
    (maps.filter (m.id < ·.id)).length < (maps.filter (mpId < ·.id)).length := by
  have hsub : maps.filter (m.id < ·.id) = (maps.filter (mpId < ·.id)).filter (m.id < ·.id) := by
    rw [List.filter_filter]
    exact List.filter_congr fun x _ => by by_cases hx : m.id < x.id <;> simp [hx, Nat.lt_trans hlt]
  rw [hsub]
  exact List.length_filter_lt_length_iff_exists.mpr
    ⟨m, List.mem_filter.mpr ⟨hm, decide_eq_true hlt⟩, by simp⟩

/-- The walk from `mpId` with more rounds than maps above `mpId` stops at the first map
named `mpName`, or fails when there is none. -/
theorem findXdpMap_first {h : Host} (hid : (h.maps.map (·.id)).Nodup) {mapName mpName : GoString}
    {fuel mpId : Nat} (hf : (h.maps.filter (mpId < ·.id)).length < fuel) :
    (∃ m, IsFirstNamed h mpName mpId m ∧
        findXdpMap h mapName mpName fuel mpId = .ok { name := mapName, mapID := m.id, type := m.type }) ∨
      ((∀ m ∈ h.maps, mpId < m.id → m.name ≠ mpName) ∧
        findXdpMap h mapName mpName fuel mpId = .error (ascii "failed to fetch the map object " ++ enoent)) := by
  induction fuel generalizing mpId with
  | zero => exact absurd hf (Nat.not_lt_zero _)
  | succ fuel ih =>
    rcases hn : h.mapGetNextID mpId with e | next
    · obtain ⟨rfl, hle⟩ := Host.mapGetNextID_eq_error hn
      refine .inr ⟨fun m hm hlt => absurd (hle m hm) (Nat.not_le.mpr hlt), ?_⟩
      simp only [findXdpMap, hn]
    · obtain ⟨⟨m, hm, rfl⟩, hlt, hleast⟩ := Host.mapGetNextID_eq_ok hn
      have hfind := Host.newMapFromID_of_mem hid hm
      by_cases hname : m.name = mpName
      · refine .inl ⟨m, ⟨hm, hlt, hname, fun m' hm' h' _ => hleast m' hm' h'⟩, ?_⟩
        simp only [findXdpMap, hn, hfind, if_pos hname]
      · have hstep : findXdpMap h mapName mpName (fuel + 1) mpId =
            findXdpMap h mapName mpName fuel m.id := by
          simp only [findXdpMap, hn, hfind, if_neg hname]
        -- a map above `mpId` with the name is above `m`
        have habove : ∀ m' ∈ h.maps, mpId < m'.id → m'.name = mpName → m.id < m'.id :=
          fun m' hm' h' hn' => Nat.lt_of_le_of_ne (hleast m' hm' h') fun he =>
            hname (List.inj_on_of_nodup_map hid hm hm' he ▸ hn')
        have hf' : (h.maps.filter (m.id < ·.id)).length < fuel := by
          have := length_filter_id_lt hm hlt
          omega
        rw [hstep]
        rcases ih hf' with ⟨m₁, ⟨hm₁, hlt₁, hname₁, hleast₁⟩, hres⟩ | ⟨hnone, hres⟩
        · exact .inl ⟨m₁, ⟨hm₁, Nat.lt_trans hlt hlt₁, hname₁, fun m' hm' h' hn' =>
            hleast₁ m' hm' (habove m' hm' h' hn') hn'⟩, hres⟩
        · exact .inr ⟨fun m' hm' h' hn' => hnone m' hm' (habove m' hm' h' hn') hn', hres⟩

/-- For an XDP program the walk of `GetBPFMap` ends within its fuel on every table of distinct
ids above zero: it returns the map of least id among those with the truncated name, and fails
with `MapGetNextID`'s error exactly when there is none. -/
theorem getBPFMap_xdp_first {h : Host} (hid : (h.maps.map (·.id)).Nodup)
    (hpos : ∀ m ∈ h.maps, 0 < m.id) {program : BPFProgram} (hx : program.ebpfType = xdpType)
    (mapName : GoString) :
    (∃ m, IsFirstNamed h (truncateName mapName) 0 m ∧
        getBPFMap h program mapName = .ok { name := mapName, mapID := m.id, type := m.type }) ∨
      ((∀ m ∈ h.maps, m.name ≠ truncateName mapName) ∧
        getBPFMap h program mapName = .error (ascii "failed to fetch the map object " ++ enoent)) := by
  have hne : program.ebpfType ≠ tcType := by rw [hx]; decide
  have hf : (h.maps.filter (0 < ·.id)).length < h.maps.length + 1 :=
    Nat.lt_succ_of_le (List.length_filter_le _ _)
  rw [getBPFMap, if_neg hne, if_pos hx]
  rcases findXdpMap_first hid hf with hl | ⟨hnone, hres⟩
  · exact .inl hl
  · exact .inr ⟨fun m hm => hnone m hm (hpos m hm), hres⟩

theorem getBPFMap_xdp_first_collidingHost :
    (∃ m, IsFirstNamed collidingHost (truncateName (ascii "a")) 0 m ∧
        getBPFMap collidingHost { ebpfType := xdpType } (ascii "a") =
          .ok { name := ascii "a", mapID := m.id, type := m.type }) ∨
      ((∀ m ∈ collidingHost.maps, m.name ≠ truncateName (ascii "a")) ∧
        getBPFMap collidingHost { ebpfType := xdpType } (ascii "a") =
          .error (ascii "failed to fetch the map object " ++ enoent)) :=
  @getBPFMap_xdp_first collidingHost (by decide) (by decide) { ebpfType := xdpType } rfl (ascii "a")

/-- A program whose type is neither TC nor XDP, here unset, gets the zero map with no error:
not the map it asked for, and no map of the kernel. -/
theorem getBPFMap_unset_type_zero_map :
    getBPFMap collidingHost { name := ascii "nf" } (ascii "a") = .ok {} ∧
      ({} : BPFMap).name ≠ ascii "a" ∧ ({} : BPFMap).mapID ∉ collidingHost.maps.map (·.id) :=
  ⟨rfl, by decide, by decide⟩

/-! ### `Update` -/

/-- `bpfMap.Update(value)`, declared outside `kf`. -/
def updateMap (env : Env) (m : BPFMap) (value : GoString) : Go Unit :=
  call fun h => ((), env.mapUpdate m value h)

/-- One round of `Update`: cache the map of `val.Key` if it is new, then write `val.Value`
through the cached entry. -/
def updateElement (env : Env) (val : L3afDNFArgs) : Go (Option GoError) := do
  match (← getBPF).bpfMaps.get? val.key with
  | some m =>
    updateMap env m val.value
    return none
  | none =>
    match ← addBPFMap val.key with
    | some err => return some err
    | none =>
      updateMap env (((← getBPF).bpfMaps.get? val.key).getD {}) val.value
      return none

/-- A round of `Update` panics only on a nil `BpfMaps`. -/
theorem updateElement_fault {env : Env} {val : L3afDNFArgs} {s s' : Sys} {e : Fault}
    (h : updateElement env val s = .error e s') : s.bpf.bpfMaps = none := by
  rcases bind_eq_error.mp h with h | ⟨_, _, ⟨⟩, h⟩
  · cases h
  rcases hm : s.bpf.bpfMaps.get? val.key with _ | m <;> rw [hm] at h
  · rcases bind_eq_error.mp h with h | ⟨r, s₁, -, h⟩
    · exact addBPFMap_fault h
    rcases r with _ | err
    · rcases bind_eq_error.mp h with h | ⟨_, _, ⟨⟩, h⟩
      · cases h
      rcases bind_eq_error.mp h with h | ⟨_, _, ⟨⟩, h⟩ <;> cases h
    · cases h
  · rcases bind_eq_error.mp h with h | ⟨_, _, ⟨⟩, h⟩ <;> cases h

/-- The loop of `Update` over `Program.MapArgs`. -/
def updateLoop (env : Env) : List L3afDNFArgs → Go (Option GoError)
  | [] => pure none
  | val :: rest => do
    match ← updateElement env val with
    | some err => return some err
    | none => updateLoop env rest

/-- `Update(ifaceName, direction)`. -/
def update (env : Env) (ifaceName direction : GoString) : Go (Option GoError) := do
  let b ← getBPF
  match ← updateLoop env b.program.mapArgs with
  | some err => return some err
  | none =>
    publish (.incr .nfUpdateCount [b.program.name, direction])
    return none

/-! ### The chaining maps -/

/-- `ebpf.ProgramID(value)`: the conversion to `uint32`, modulo `2^32`. -/
def programID (value : Int) : Int := value % 4294967296

/-- `GetProgID()`: the program id in slot 0 of the map pinned at `PrevMapName`, if the
kernel has that program. -/
def getProgID (h : Host) (b : BPF) : Except GoError Int :=
  match h.loadPinnedMap b.prevMapName with
  | .error err => .error (ascii "unable to access pinned prog map " ++ b.prevMapName ++ ascii " " ++ err)
  | .ok m =>
    match m.lookup0 with
    | .error err => .error (ascii "unable to lookup prog map " ++ err)
    | .ok value =>
      match h.newProgramFromID (programID value) with
      | some err =>
        .error (ascii "failed to verify program ID " ++ b.program.name ++ ascii " " ++ err)
      | none => .ok value

/-- `GetProgID` reads of the receiver only `PrevMapName`, and the name in its messages. -/
theorem getProgID_congr {h : Host} {b b' : BPF} (hp : b'.prevMapName = b.prevMapName)
    (hn : b'.program.name = b.program.name) : getProgID h b' = getProgID h b := by
  simp only [getProgID, hp, hn]

/-- `RemovePrevProgFD()`: a failed delete of slot 0 is only logged. -/
def removePrevProgFD : Go (Option GoError) := do
  let b ← getBPF
  match (← getHost).loadPinnedMap b.prevMapName with
  | .error err =>
    return some (ascii "unable to access pinned prev prog map " ++ b.prevMapName ++ ascii " " ++ err)
  | .ok m =>
    let _ ← call fun h => h.delete0 m
    return none

/-- `PutNextProgFDFromID(progID)`: the fd written is that of the program with id
`ebpf.ProgramID(progID)`, so slot 0 then holds that id, unless the kernel refuses the update. -/
def putNextProgFDFromID (progID : Int) : Go (Option GoError) := do
  let b ← getBPF
  if b.program.mapName.length = 0 then return none
  let h ← getHost
  match h.loadPinnedMap b.program.mapName with
  | .error err =>
    return some (ascii "unable to access pinned next prog map " ++ b.program.mapName ++ ascii " " ++ err)
  | .ok m =>
    match h.newProgramFromID (programID progID) with
    | some err =>
      return some (ascii "failed to get next prog FD from ID for program " ++ b.program.name ++
        ascii " " ++ err)
    | none =>
      match ← call fun h => h.update0 m (programID progID) with
      | some err => return some (ascii "unable to update prog next map " ++ b.program.mapName ++ ascii " " ++ err)
      | none => return none

/-- `RemoveNextProgFD()`. -/
def removeNextProgFD : Go (Option GoError) := do
  let b ← getBPF
  if b.program.mapName.length = 0 then return none
  match (← getHost).loadPinnedMap b.program.mapName with
  | .error err =>
    return some (ascii "unable to access pinned next prog map " ++ b.program.mapName ++ ascii " " ++ err)
  | .ok m =>
    match ← call fun h => h.delete0 m with
    | some _ => return some (ascii "failed to delete prog fd entry")
    | none => return none

/-! ### Footprints

`Update` changes the receiver only by caching map handles in `BpfMaps`, and records no
effect; `RemovePrevProgFD` changes only the kernel. -/

section Footprint

variable {P : BPF → BPF → Prop} {Q : Effect → Prop} [IsPreorder BPF P] {env : Env}

theorem addBPFMap_within {mapName : GoString} (hmaps : ∀ b es, P b { b with bpfMaps := some es }) :
    Keeps (Sys.Within P Q) (addBPFMap mapName) := by
  refine keeps_bind keeps_getBPF fun b => keeps_bind keeps_getHost fun h => ?_
  split
  · exact keeps_pure _
  refine keeps_bind (keeps_bind keeps_getBPF fun o => ?_) fun _ => keeps_pure _
  split
  · exact keeps_fault _
  · exact within_modifyBPF fun b => hmaps b _

theorem addMetricsBPFMap_within {mapName aggregator : GoString} {key samplesLength : Int}
    (hmetrics : ∀ b es, P b { b with metricsBpfMaps := some es }) :
    Keeps (Sys.Within P Q) (addMetricsBPFMap mapName aggregator key samplesLength) := by
  intro s r s' h
  rcases addMetricsBPFMap_cases h with ⟨-, -, -, rfl⟩ | ⟨es, m, -, -, -, rfl⟩
  · exact refl _
  · exact Sys.Within.of_bpf (hmetrics _ _)

omit [IsPreorder BPF P] in
theorem sampleMetricsMap_within {programName mapKey metricName : GoString}
    (hmetrics : ∀ b es, P b { b with metricsBpfMaps := some es }) :
    Keeps (Sys.Within P Q) (sampleMetricsMap env programName mapKey metricName) := by
  intro s r s' h
  obtain ⟨m, hm, rfl⟩ := sampleMetricsMap_cases h
  rcases hb : s.bpf.metricsBpfMaps with _ | es
  · rw [GoMap.get?, hb] at hm
    cases hm
  · refine ⟨?_, [], by simp, by simp⟩
    simpa only [hb] using hmetrics s.bpf _

/-- One round of `Update` changes what its `AddBPFMap` call changes, and the kernel. -/
theorem updateElement_keeps (hadd : ∀ k, Keeps (Sys.Within P Q) (addBPFMap k)) (val : L3afDNFArgs) :
    Keeps (Sys.Within P Q) (updateElement env val) := by
  have hu : ∀ m v, Keeps (Sys.Within P Q) (updateMap env m v) := fun _ _ => within_call _
  refine keeps_bind keeps_getBPF fun b => ?_
  split
  · exact keeps_bind (hu _ _) fun _ => keeps_pure _
  refine keeps_bind (hadd _) fun r => ?_
  split
  · exact keeps_pure _
  · exact keeps_bind keeps_getBPF fun _ => keeps_bind (hu _ _) fun _ => keeps_pure _

theorem updateLoop_keeps (hadd : ∀ k, Keeps (Sys.Within P Q) (addBPFMap k)) (args : List L3afDNFArgs) :
    Keeps (Sys.Within P Q) (updateLoop env args) := by
  induction args with
  | nil => exact keeps_pure _
  | cons val rest ih =>
      refine keeps_bind (updateElement_keeps hadd val) fun r => ?_
      split
      · exact keeps_pure _
      · exact ih

theorem update_keeps {ifaceName direction : GoString}
    (hadd : ∀ k, Keeps (Sys.Within P Q) (addBPFMap k)) :
    Keeps (Sys.Within P Q) (update env ifaceName direction) := by
  refine keeps_bind keeps_getBPF fun b => keeps_bind (updateLoop_keeps hadd _) fun r => ?_
  split
  · exact keeps_pure _
  · exact keeps_bind (within_publish _) fun _ => keeps_pure _

theorem update_within {ifaceName direction : GoString}
    (hmaps : ∀ b es, P b { b with bpfMaps := some es }) :
    Keeps (Sys.Within P Q) (update env ifaceName direction) :=
  update_keeps fun _ => addBPFMap_within hmaps

/-- One round of `MonitorMaps` changes what its `AddMetricsBPFMap` call and its sample
change. -/
theorem monitorElement_keeps {intervals : Int}
    (hadd : ∀ n a k, Keeps (Sys.Within P Q) (addMetricsBPFMap n a k intervals))
    (hsample : ∀ p k n, Keeps (Sys.Within P Q) (sampleMetricsMap env p k n))
    (element : L3afDNFMetricsMap) : Keeps (Sys.Within P Q) (monitorElement env intervals element) := by
  refine keeps_bind keeps_getBPF fun b => ?_
  dsimp only
  split
  · refine keeps_bind (keeps_pure _) fun r => ?_
    split
    · exact keeps_pure _
    · exact keeps_bind (hsample _ _ _) fun _ => keeps_pure _
  · refine keeps_bind (hadd _ _ _) fun r => ?_
    split
    · exact keeps_pure _
    · exact keeps_bind (hsample _ _ _) fun _ => keeps_pure _

theorem monitorLoop_keeps {intervals : Int}
    (hadd : ∀ n a k, Keeps (Sys.Within P Q) (addMetricsBPFMap n a k intervals))
    (hsample : ∀ p k n, Keeps (Sys.Within P Q) (sampleMetricsMap env p k n))
    (elements : List L3afDNFMetricsMap) :
    Keeps (Sys.Within P Q) (monitorLoop env intervals elements) := by
  induction elements with
  | nil => exact keeps_pure _
  | cons element rest ih =>
      refine keeps_bind (monitorElement_keeps hadd hsample element) fun r => ?_
      split
      · exact keeps_pure _
      · exact ih

theorem monitorMaps_keeps {ifaceName : GoString} {intervals : Int}
    (hadd : ∀ n a k, Keeps (Sys.Within P Q) (addMetricsBPFMap n a k intervals))
    (hsample : ∀ p k n, Keeps (Sys.Within P Q) (sampleMetricsMap env p k n)) :
    Keeps (Sys.Within P Q) (monitorMaps env ifaceName intervals) :=
  keeps_bind keeps_getBPF fun _ => monitorLoop_keeps hadd hsample _

theorem removePrevProgFD_within : Keeps (Sys.Within P Q) removePrevProgFD := by
  refine keeps_bind keeps_getBPF fun b => keeps_bind keeps_getHost fun h => ?_
  split
  · exact keeps_pure _
  · exact keeps_bind (within_call _) fun _ => keeps_pure _

theorem putNextProgFDFromID_within {progID : Int} :
    Keeps (Sys.Within P Q) (putNextProgFDFromID progID) := by
  refine keeps_bind keeps_getBPF fun b => ?_
  split
  · exact keeps_pure _
  refine keeps_bind (keeps_pure _) fun _ => keeps_bind keeps_getHost fun h => ?_
  split
  · exact keeps_pure _
  split
  · exact keeps_pure _
  refine keeps_bind (within_call _) fun r => ?_
  split <;> exact keeps_pure _

theorem removeNextProgFD_within : Keeps (Sys.Within P Q) removeNextProgFD := by
  refine keeps_bind keeps_getBPF fun b => ?_
  split
  · exact keeps_pure _
  refine keeps_bind (keeps_pure _) fun _ => keeps_bind keeps_getHost fun h => ?_
  split
  · exact keeps_pure _
  refine keeps_bind (within_call _) fun r => ?_
  split <;> exact keeps_pure _

end Footprint

end L3afd.Kf
