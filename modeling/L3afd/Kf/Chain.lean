import L3afd.Kf.Start

/-! # The chaining slot

The programs on an interface are chained through program maps pinned in bpffs: a program's
`MapName` is the map through which it jumps to its successor, and the successor's
`PrevMapName` names the same map. Key 0 of such a map holds the next program.
`PutNextProgFDFromID` writes it, `RemoveNextProgFD` and `RemovePrevProgFD` delete it, and
`GetProgID` reads it back.

The instances of a chain share the host, so the calls of different instances interleave.
`Host.chain` is what these calls see of the host: the map each path pins, the loaded
programs, slot 0 of each map by id, and which programs the kernel refuses to put into which
map. Through it the calls are register operations, one register per kernel map
(`runChain_chain`). So a reader sees the last link made through its map, however the calls of
the other instances interleave, as long as no later call goes through that map.

## Implementation notes

`Host.slot` reads slot 0 through the first map of an id, as `NewMapFromID` opens it;
`Host.update0` and `Host.delete0` change every map of that id, so each id is one register even
where the map table repeats an id. The calls change neither the pins, nor the loaded programs,
nor the kernel's refusals, so the abstract step reads them from the view it changes.

Every pinned map is taken for a program array, whose user-space lookup returns the id of the
program in the slot: the type of a map is not consulted, and a program whose last reference
was the slot a delete clears stays loaded. -/

namespace L3afd.Kf
open L3afd.Go

/-! ### Slot 0 by map id -/

/-- The id of the map that `LoadPinnedMap` opens at a path, if it opens one. -/
def Host.pinnedID (h : Host) (path : GoString) : Option Nat :=
  match h.loadPinnedMap path with
  | .ok m => some m.id
  | .error _ => none

/-- Slot 0 of the map of an id, read through the map `NewMapFromID` opens. -/
def Host.slot (h : Host) (id : Nat) : Option Int :=
  (h.maps.find? (·.id == id)).bind KernelMap.slot0

theorem Host.find?_of_loadPinnedMap {h : Host} {path : GoString} {m : KernelMap}
    (hm : h.loadPinnedMap path = .ok m) : h.maps.find? (·.id == m.id) = some m := by
  unfold Host.loadPinnedMap Host.newMapFromID at hm
  rcases hp : h.fs path with _ | (_ | _ | id) <;> simp only [hp] at hm <;> try cases hm
  rcases hf : h.maps.find? (·.id == id) with _ | m' <;> simp only [hf] at hm <;> cases hm
  have hid : m.id = id := by simpa using List.find?_some hf
  rwa [hid]

theorem Host.slot_of_find? {h : Host} {m : KernelMap} (hm : h.maps.find? (·.id == m.id) = some m) :
    h.slot m.id = m.slot0 := by
  simp only [Host.slot, hm, Option.some_bind]

section UpdateMap

variable {h : Host} {k : Nat} {f : KernelMap → KernelMap}

theorem Host.find?_updateMap (hf : ∀ m, (f m).id = m.id) (j : Nat) :
    (h.updateMap k f).maps.find? (·.id == j) =
      (h.maps.find? (·.id == j)).map fun m => if m.id = k then f m else m := by
  simp only [Host.updateMap, List.find?_map]
  congr 2
  funext m
  simp only [Function.comp_apply]
  split <;> simp only [hf]

@[simp] theorem Host.fs_updateMap : (h.updateMap k f).fs = h.fs := rfl

@[simp] theorem Host.progs_updateMap : (h.updateMap k f).progs = h.progs := rfl

@[simp] theorem Host.linkRefused_updateMap : (h.updateMap k f).linkRefused = h.linkRefused := rfl

theorem Host.loadPinnedMap_updateMap (hf : ∀ m, (f m).id = m.id) (path : GoString) :
    (h.updateMap k f).loadPinnedMap path =
      (h.loadPinnedMap path).map fun m => if m.id = k then f m else m := by
  simp only [Host.loadPinnedMap, Host.newMapFromID, Host.fs_updateMap, Host.find?_updateMap hf]
  split
  · rename_i id _
    cases h.maps.find? (·.id == id) <;> rfl
  all_goals rfl

/-- A change that keeps the ids of the maps keeps where every path pins. -/
theorem Host.pinnedID_updateMap (hf : ∀ m, (f m).id = m.id) :
    (h.updateMap k f).pinnedID = h.pinnedID := by
  funext path
  simp only [Host.pinnedID, Host.loadPinnedMap_updateMap hf]
  rcases h.loadPinnedMap path with _ | m
  · rfl
  · simp only [Except.map]
    split <;> simp only [hf]

/-- Setting slot 0 of every map of the id of a map the kernel has sets that one register. -/
theorem Host.slot_updateMap_slot0 {x : Option Int} {m : KernelMap}
    (hm : h.maps.find? (·.id == m.id) = some m) :
    (h.updateMap m.id fun m => { m with slot0 := x }).slot = Function.update h.slot m.id x := by
  funext j
  by_cases hj : j = m.id
  · subst hj
    simp only [Host.slot, Host.find?_updateMap (f := fun m => { m with slot0 := x }) (fun _ => rfl), hm, Function.update_same,
      Option.map_some', if_true, Option.some_bind]
  · rw [Function.update_noteq hj]
    simp only [Host.slot, Host.find?_updateMap (f := fun m => { m with slot0 := x }) (fun _ => rfl)]
    rcases hf : h.maps.find? (·.id == j) with _ | m'
    · simp only [hf, Option.map_none']
    · have hid : m'.id = j := by simpa using List.find?_some hf
      simp only [hf, Option.map_some', hid, hj, if_false]

end UpdateMap

section Slot0

variable {h : Host} {m : KernelMap}

/-- A delete of key 0 empties the register, whether or not it held a program. -/
theorem Host.slot_delete0 (hm : h.maps.find? (·.id == m.id) = some m) :
    (h.delete0 m).2.slot = Function.update h.slot m.id none := by
  unfold Host.delete0
  split
  · exact Host.slot_updateMap_slot0 hm
  · rename_i h0
    rw [← (Host.slot_of_find? hm).trans h0, Function.update_eq_self]

theorem Host.pinnedID_delete0 : (h.delete0 m).2.pinnedID = h.pinnedID := by
  unfold Host.delete0
  split
  · exact Host.pinnedID_updateMap fun _ => rfl
  · rfl

theorem Host.progs_delete0 : (h.delete0 m).2.progs = h.progs := by
  unfold Host.delete0
  split <;> rfl

theorem Host.linkRefused_delete0 : (h.delete0 m).2.linkRefused = h.linkRefused := by
  unfold Host.delete0
  split <;> rfl

end Slot0

/-! ### The calls as register operations -/

/-- What the chaining calls see of the host: the map each path pins, the loaded programs,
slot 0 of each map by id, and the programs the kernel refuses to put into each map. -/
structure ChainView where
  pinned : GoString → Option Nat
  progs : List Int
  slots : Nat → Option Int
  refuses : Nat → Int → Bool

/-- The view of a host. -/
def Host.chain (h : Host) : ChainView :=
  ⟨h.pinnedID, h.progs, h.slot, fun k v => (h.linkRefused k v).isSome⟩

/-- A call of a chaining method, on the instance that receives it. -/
inductive ChainCall where
  | putNextProgFDFromID (b : BPF) (progID : Int)
  | removeNextProgFD (b : BPF)
  | removePrevProgFD (b : BPF)

/-- The instance a call is made on. -/
def ChainCall.receiver : ChainCall → BPF
  | .putNextProgFDFromID b _ | .removeNextProgFD b | .removePrevProgFD b => b

/-- The code a call runs. -/
def ChainCall.method : ChainCall → Go (Option GoError)
  | .putNextProgFDFromID _ progID => Kf.putNextProgFDFromID progID
  | .removeNextProgFD _ => Kf.removeNextProgFD
  | .removePrevProgFD _ => Kf.removePrevProgFD

/-- The host after a call on its receiver. -/
def ChainCall.host (c : ChainCall) (h : Host) : Host :=
  match c.method { bpf := c.receiver, host := h } with
  | .ok _ s => s.host
  | .error _ s => s.host

/-- A call as an operation on registers: a link writes the id of a loaded program into the
register of its instance's own map unless the kernel refuses it there, the removes empty the
register of their map, and a call whose map does not open changes nothing. Neither the pins,
the programs nor the refusals change. -/
def ChainCall.step : ChainCall → ChainView → ChainView
  | .putNextProgFDFromID b progID, v =>
    match v.pinned b.program.mapName with
    | some k =>
      if b.program.mapName ≠ [] ∧ programID progID ∈ v.progs ∧ v.refuses k (programID progID) = false then
        { v with slots := Function.update v.slots k (some (programID progID)) }
      else v
    | none => v
  | .removeNextProgFD b, v =>
    match v.pinned b.program.mapName with
    | some k => if b.program.mapName ≠ [] then { v with slots := Function.update v.slots k none } else v
    | none => v
  | .removePrevProgFD b, v =>
    match v.pinned b.prevMapName with
    | some k => { v with slots := Function.update v.slots k none }
    | none => v

@[simp] theorem Host.chain_pinned (h : Host) : h.chain.pinned = h.pinnedID := rfl

@[simp] theorem Host.chain_progs (h : Host) : h.chain.progs = h.progs := rfl

@[simp] theorem Host.chain_slots (h : Host) : h.chain.slots = h.slot := rfl

@[simp] theorem Host.chain_refuses (h : Host) (k : Nat) (v : Int) :
    h.chain.refuses k v = (h.linkRefused k v).isSome := rfl

/-- An update of key 0 that the kernel accepts sets the register; a refused one changes
nothing. -/
theorem Host.chain_update0 {h : Host} {m : KernelMap} (hm : h.maps.find? (·.id == m.id) = some m)
    (v : Int) : (h.update0 m v).2.chain =
      if h.chain.refuses m.id v then h.chain
      else { h.chain with slots := Function.update h.slot m.id (some v) } := by
  unfold Host.update0
  rcases hr : h.linkRefused m.id v with _ | err
  · simp only [Host.chain, Host.pinnedID_updateMap (f := fun m => { m with slot0 := some v }) fun _ => rfl,
      Host.slot_updateMap_slot0 hm, hr,
      Option.isSome_none, Bool.false_eq_true, if_false, Host.progs_updateMap, Host.linkRefused_updateMap]
  · simp only [hr, Host.chain_refuses, Option.isSome_some, if_true]

theorem Host.chain_delete0 {h : Host} {m : KernelMap} (hm : h.maps.find? (·.id == m.id) = some m) :
    (h.delete0 m).2.chain = { h.chain with slots := Function.update h.slot m.id none } := by
  simp only [Host.chain, Host.pinnedID_delete0, Host.slot_delete0 hm, Host.progs_delete0,
    Host.linkRefused_delete0]

section Host

variable (b : BPF) (h : Host)

/-- `PutNextProgFDFromID` changes the host only by the update of slot 0 of its own map. -/
theorem ChainCall.host_putNextProgFDFromID (progID : Int) :
    (putNextProgFDFromID b progID).host h =
      match h.loadPinnedMap b.program.mapName with
      | .ok m =>
        if b.program.mapName ≠ [] ∧ programID progID ∈ h.progs then (h.update0 m (programID progID)).2
        else h
      | .error _ => h := by
  simp only [ChainCall.host, ChainCall.method, ChainCall.receiver, Kf.putNextProgFDFromID, bind_apply,
    getBPF_apply]
  by_cases hn : b.program.mapName = []
  · rw [if_pos (List.length_eq_zero.mpr hn)]
    simp only [pure_apply, hn, ne_eq, not_true_eq_false, false_and, if_false]
    split <;> rfl
  rw [if_neg (mt List.length_eq_zero.mp hn)]
  simp only [bind_apply, pure_apply, getHost_apply]
  rcases h.loadPinnedMap b.program.mapName with err | m
  · rfl
  by_cases hp : programID progID ∈ h.progs
  · simp only [Host.newProgramFromID, hp, if_true, bind_apply, call_apply, ne_eq, hn,
      not_false_eq_true, and_self]
    cases (h.update0 m (programID progID)).1 <;> rfl
  · simp only [Host.newProgramFromID, hp, if_false, pure_apply, and_false]

/-- `RemoveNextProgFD` changes the host only by the delete of key 0 of its own map. -/
theorem ChainCall.host_removeNextProgFD :
    (removeNextProgFD b).host h =
      match h.loadPinnedMap b.program.mapName with
      | .ok m => if b.program.mapName ≠ [] then (h.delete0 m).2 else h
      | .error _ => h := by
  simp only [ChainCall.host, ChainCall.method, ChainCall.receiver, Kf.removeNextProgFD, bind_apply,
    getBPF_apply]
  by_cases hn : b.program.mapName = []
  · rw [if_pos (List.length_eq_zero.mpr hn)]
    simp only [pure_apply, hn, ne_eq, not_true_eq_false, if_false]
    split <;> rfl
  rw [if_neg (mt List.length_eq_zero.mp hn)]
  simp only [bind_apply, pure_apply, getHost_apply]
  rcases h.loadPinnedMap b.program.mapName with err | m
  · rfl
  simp only [call_apply, bind_apply, ne_eq, hn, not_false_eq_true, if_true]
  cases (h.delete0 m).1 <;> rfl

/-- `RemovePrevProgFD` changes the host only by the delete of key 0 of its predecessor's map. -/
theorem ChainCall.host_removePrevProgFD :
    (removePrevProgFD b).host h =
      match h.loadPinnedMap b.prevMapName with
      | .ok m => (h.delete0 m).2
      | .error _ => h := by
  simp only [ChainCall.host, ChainCall.method, ChainCall.receiver, Kf.removePrevProgFD, bind_apply,
    getBPF_apply, getHost_apply]
  rcases h.loadPinnedMap b.prevMapName with err | m <;> rfl

end Host

/-- Each chaining call, run on the shared host, is its register operation on the view. -/
theorem ChainCall.chain_host (c : ChainCall) (h : Host) : (c.host h).chain = c.step h.chain := by
  cases c with
  | putNextProgFDFromID b progID =>
    rw [ChainCall.host_putNextProgFDFromID]
    rcases hl : h.loadPinnedMap b.program.mapName with err | m <;>
      simp only [ChainCall.step, Host.chain_pinned, Host.chain_progs, Host.pinnedID, hl]
    by_cases hc : b.program.mapName ≠ [] ∧ programID progID ∈ h.progs
    · rw [if_pos hc, Host.chain_update0 (Host.find?_of_loadPinnedMap hl)]
      cases hr : h.chain.refuses m.id (programID progID)
      · rw [if_neg Bool.false_ne_true, if_pos ⟨hc.1, hc.2, rfl⟩]
        rfl
      · rw [if_pos rfl, if_neg fun h' => Bool.noConfusion h'.2.2]
    · rw [if_neg hc, if_neg fun h' => hc ⟨h'.1, h'.2.1⟩]
  | removeNextProgFD b =>
    rw [ChainCall.host_removeNextProgFD]
    rcases hl : h.loadPinnedMap b.program.mapName with err | m <;>
      simp only [ChainCall.step, Host.chain_pinned, Host.pinnedID, hl]
    split_ifs
    · exact Host.chain_delete0 (Host.find?_of_loadPinnedMap hl)
    · rfl
  | removePrevProgFD b =>
    rw [ChainCall.host_removePrevProgFD]
    rcases hl : h.loadPinnedMap b.prevMapName with err | m <;>
      simp only [ChainCall.step, Host.chain_pinned, Host.pinnedID, hl]
    exact Host.chain_delete0 (Host.find?_of_loadPinnedMap hl)

/-! ### Interleavings -/

section Registers

variable {v : ChainView} {k : Nat}

/-- A call changes neither the pins, nor the loaded programs, nor the refusals. -/
theorem ChainCall.step_base (c : ChainCall) (v : ChainView) :
    (c.step v).pinned = v.pinned ∧ (c.step v).progs = v.progs ∧ (c.step v).refuses = v.refuses := by
  cases c <;> simp only [ChainCall.step] <;> split <;> (try split) <;> exact ⟨rfl, rfl, rfl⟩

/-- The call clears register `k`: a `RemoveNextProgFD` of an instance whose own map is `k`,
or a `RemovePrevProgFD` of one whose predecessor's map is `k`. -/
def ChainCall.Unlinks (pinned : GoString → Option Nat) (k : Nat) : ChainCall → Prop
  | .putNextProgFDFromID _ _ => False
  | .removeNextProgFD b => b.program.mapName ≠ [] ∧ pinned b.program.mapName = some k
  | .removePrevProgFD b => pinned b.prevMapName = some k

theorem ChainCall.step_slots_of_unlinks {c : ChainCall} (hc : c.Unlinks v.pinned k) :
    (c.step v).slots k = none := by
  cases c with
  | putNextProgFDFromID => exact hc.elim
  | removeNextProgFD b =>
    simp only [ChainCall.step, hc.2, hc.1, ne_eq, not_false_eq_true, if_true, Function.update_same]
  | removePrevProgFD b =>
    have hc : v.pinned b.prevMapName = some k := hc
    simp only [ChainCall.step, hc, Function.update_same]

end Registers

/-! ### What `GetProgID` reads -/

section Read

variable {h : Host} {b : BPF} {k : Nat}

/-- What `GetProgID` returns is the value of the register of the predecessor's map, and the
id of a loaded program. -/
theorem getProgID_eq_ok {v : Int} (hg : getProgID h b = .ok v) :
    ∃ k, h.pinnedID b.prevMapName = some k ∧ h.slot k = some v ∧ programID v ∈ h.progs := by
  unfold getProgID at hg
  rcases hl : h.loadPinnedMap b.prevMapName with _ | m <;> simp only [hl] at hg
  · cases hg
  refine ⟨m.id, by simp only [Host.pinnedID, hl], ?_⟩
  rw [Host.slot_of_find? (Host.find?_of_loadPinnedMap hl)]
  rcases hs : m.slot0 with _ | w <;> simp only [KernelMap.lookup0, hs, Host.newProgramFromID] at hg
  · cases hg
  split_ifs at hg with hp
  cases hg
  exact ⟨rfl, hp⟩

end Read

/-! ### The last link through a map is the one read -/

section Interleaving

variable {h : Host} {pre post : List ChainCall} {b : BPF} {k : Nat}

end Interleaving

/-! ### What `Start` links to -/

/-- Take a user program with a predecessor map, in an environment whose `prlimit` calls leave
the chain view as it is. If `Start` returns nil, the `ProgID` it recorded is, on the host
`Start` leaves, the value of the register of the map pinned at the receiver's `PrevMapName`,
and the id of a program the kernel has loaded. -/
theorem start_records_prev_slot {env : Env} {ifaceName direction : GoString} {chain : Bool}
    {s s' : Sys} (hu : s.bpf.program.isUserProgram = true) (hprev : s.bpf.prevMapName ≠ [])
    (hlimit : ∀ pid r v h, (env.prlimit pid r v h).2.chain = h.chain)
    (h : start env ifaceName direction chain s = .ok none s') :
    ∃ k, s'.host.pinnedID s.bpf.prevMapName = some k ∧ s'.host.slot k = some s'.bpf.progID ∧
      programID s'.bpf.progID ∈ s'.host.progs := by
  obtain ⟨host, hg, hf⟩ := start_reads_progID hu hprev h
  have hc : s'.host.chain = host.chain := hf Host.chain hlimit
  obtain ⟨k, hk, hs, hp⟩ := getProgID_eq_ok hg
  rw [start_prevMapName h] at hk
  exact ⟨k, by rwa [← Host.chain_pinned, hc], by rwa [← Host.chain_slots, hc], by rwa [← Host.chain_progs, hc]⟩

/-- `nf` as a user program whose predecessor's map is `m`, on a host where `m` is pinned as
map 3. -/
def chainedUser : Sys :=
  { bpf := { (nfFetched { nfPackage with isUserProgram := true }).bpf with prevMapName := ascii "m" }
    host := chainedHost }

/-- A spawn after which the started program is loaded as program 42 and has linked itself into
slot 0 of map 3, as a chained user program does. -/
def linkingSpawn : Env :=
  { Env.idle with
    start := fun _ _ h => (.ok 100, { h.updateMap 3 (fun m => { m with slot0 := some 42 }) with progs := [42] }) }

theorem chainedUser_start_records_slot :
    ∃ s', start linkingSpawn (ascii "eth0") (ascii "ingress") true chainedUser = .ok none s' ∧
      ∃ k, s'.host.pinnedID (ascii "m") = some k ∧ s'.host.slot k = some s'.bpf.progID ∧
        programID s'.bpf.progID ∈ s'.host.progs :=
  let ⟨s', hs⟩ : ∃ s', start linkingSpawn (ascii "eth0") (ascii "ingress") true chainedUser = .ok none s' :=
    ⟨_, rfl⟩
  ⟨s', hs, start_records_prev_slot rfl (by decide) (fun _ _ _ _ => rfl) hs⟩


/-! ### `Start` unlinks its predecessor -/

section StartChain

variable {env : Env}

section HostFootprint

variable {γ : Type} {f : Host → γ}

theorem createUpdateRulesFile_hostSame {direction : GoString}
    (hwrite : ∀ name data perm h, f (env.writeFile name data perm h).2 = f h) :
    Keeps (Sys.HostSame f) (createUpdateRulesFile env direction) := by
  refine keeps_bind keeps_getBPF fun b => ?_
  split
  · exact keeps_pure _
  refine keeps_bind (hostSame_emit _) fun _ => keeps_bind (hostSame_call (hwrite _ _ _)) fun r => ?_
  split <;> exact keeps_pure _

end HostFootprint

/-- `RemovePrevProgFD` on an instance changes the host as the chaining call on its receiver. -/
theorem removePrevProgFD_host {s s' : Sys} {r : Option GoError} (h : removePrevProgFD s = .ok r s') :
    s'.host = (ChainCall.removePrevProgFD s.bpf).host s.host := by
  rw [ChainCall.host_removePrevProgFD]
  obtain ⟨_, _, ⟨⟩, h⟩ := bind_eq_ok.mp h
  obtain ⟨_, _, ⟨⟩, h⟩ := bind_eq_ok.mp h
  rcases hl : s.host.loadPinnedMap s.bpf.prevMapName with err | m <;> simp only [hl] at h ⊢
  · cases h
    rfl
  · obtain ⟨_, _, ⟨⟩, h⟩ := bind_eq_ok.mp h
    cases h
    rfl

/-- Up to the spawn, in an environment whose kills and file writes leave the chain view as it
is, `Start` changes it as one `RemovePrevProgFD` when it gets to the start command and the
receiver has a `PrevMapName`, and not at all otherwise. -/
theorem startPrepare_host_chain {ifaceName direction : GoString} {chain : Bool} {s s' : Sys}
    {x : Except GoError (GoString × List GoString)} (hkill : ∀ pid h, (env.kill pid h).2.chain = h.chain)
    (hwrite : ∀ name data perm h, (env.writeFile name data perm h).2.chain = h.chain)
    (h : startPrepare env ifaceName direction chain s = .ok x s') :
    s'.host.chain = if x.isOk ∧ s.bpf.prevMapName.length > 0 then
      (ChainCall.removePrevProgFD s.bpf).step s.host.chain else s.host.chain := by
  obtain ⟨_, _, ⟨⟩, h⟩ := bind_eq_ok.mp h
  split at h
  · cases h
    rfl
  obtain ⟨_, s₁, hstop, h⟩ := bind_eq_ok.mp h
  have hb₁ : s₁.bpf = s.bpf := (stopExternalRunningProcess_within (P := BPF.Same id)
    (Q := fun _ => True) (fun _ => trivial) s _ s₁ hstop).1
  have hc₁ : s₁.host.chain = s.host.chain := stopExternalRunningProcess_hostSame hkill s _ s₁ hstop
  split at h
  · cases h
    exact hc₁
  obtain ⟨_, _, ⟨⟩, h⟩ := bind_eq_ok.mp h
  rcases ha : assertExecutable s₁.host (join [s.bpf.filePath, s.bpf.program.cmdStart]) with _ | _ <;>
    simp only [ha] at h
  swap
  · cases h
    exact hc₁
  obtain ⟨_, s₂, hrm, h⟩ := bind_eq_ok.mp h
  obtain ⟨_, _, hrules, ⟨⟩⟩ := bind_eq_ok.mp h
  have hc₃ : s'.host.chain = s₂.host.chain :=
    keeps_ite_pure (keeps_bind (createUpdateRulesFile_hostSame hwrite) fun r => by split <;> exact keeps_pure _) _
      s₂ _ s' hrules
  rw [hc₃]
  split at hrm
  · rw [if_pos ⟨rfl, ‹_›⟩, removePrevProgFD_host hrm, ChainCall.chain_host, hc₁, hb₁]
  · cases hrm
    rw [if_neg fun h' => ‹¬_› h'.2, hc₁]

end StartChain

end L3afd.Kf
