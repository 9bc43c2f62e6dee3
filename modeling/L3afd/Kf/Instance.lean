import L3afd.Kf.Lifecycle

/-! # The methods of an instance

The supervisor keeps one `BPF` per program and calls its exported methods in any order, each
in its own environment: it fetches the artifacts, starts and stops the program, updates its
maps, samples its metrics maps, and links it into the chain of programs on an interface.
`Runs` is the set of states those calls reach; the runs of `Lifecycle` are among them, and
what those runs keep, every method keeps (`Runs.lifecycle`).

Two caches live in an instance: `BpfMaps`, filled by `AddBPFMap` and read by `Update`, and
`MetricsBpfMaps`, filled by `AddMetricsBPFMap` and read by `MonitorMaps`. `NewBpfProgram`
makes both maps and no method makes either nil again. For a program whose maps resolve by
name, each handle of `BpfMaps` is filed under the name it was resolved for, and each entry
of `MetricsBpfMaps` under the key of its own map, key and aggregator.

## Implementation notes

`Method.run_bpf_of_start` is the footprint of every method at once, for a preorder on
receivers, the writes each method makes and the footprint of `Start`; `AddBPFMap`, `AddMetricsBPFMap` and the sample enter through
their own footprints, so each cache invariant is one instance of it. `GetBPFMap` and
`GetProgID` only read, and are left out of `Method`. The entries of `MetricsBpfMaps` keep
their key only if `GetValue`, declared outside `kf`, leaves the map, key and aggregator of
the entry it samples as they are (`Env.SamplesInPlace`). -/

namespace L3afd.Kf
open L3afd.Go

/-! ### Methods and runs -/

/-- An exported method of `BPF` that may change the instance or the host. -/
inductive Method where
  | verifyAndGetArtifacts (conf : Config)
  | getArtifacts (conf : Config)
  | start (ifaceName direction : GoString) (chain : Bool)
  | stop (ifaceName direction : GoString) (chain : Bool)
  | update (ifaceName direction : GoString)
  | addBPFMap (mapName : GoString)
  | addMetricsBPFMap (mapName aggregator : GoString) (key samplesLength : Int)
  | monitorMaps (ifaceName : GoString) (intervals : Int)
  | putNextProgFDFromID (progID : Int)
  | removeNextProgFD
  | removePrevProgFD
  | verifyPinnedMapExists (chain : Bool)
  | verifyPinnedMapVanish (chain : Bool)
  | verifyProcessObject
  | verifyMetricsMapsVanish
  | setPrLimits
  | processTerminate

/-- The code a method runs. -/
def Method.run (env : Env) : Method → Go (Option GoError)
  | .verifyAndGetArtifacts conf => Kf.verifyAndGetArtifacts env conf
  | .getArtifacts conf => Kf.getArtifacts env conf
  | .start ifaceName direction chain => Kf.start env ifaceName direction chain
  | .stop ifaceName direction chain => Kf.stop env ifaceName direction chain
  | .update ifaceName direction => Kf.update env ifaceName direction
  | .addBPFMap mapName => Kf.addBPFMap mapName
  | .addMetricsBPFMap mapName aggregator key samplesLength =>
      Kf.addMetricsBPFMap mapName aggregator key samplesLength
  | .monitorMaps ifaceName intervals => Kf.monitorMaps env ifaceName intervals
  | .putNextProgFDFromID progID => Kf.putNextProgFDFromID progID
  | .removeNextProgFD => Kf.removeNextProgFD
  | .removePrevProgFD => Kf.removePrevProgFD
  | .verifyPinnedMapExists chain => Kf.verifyPinnedMapExists env chain
  | .verifyPinnedMapVanish chain => Kf.verifyPinnedMapVanish env chain
  | .verifyProcessObject => Kf.verifyProcessObject env
  | .verifyMetricsMapsVanish => Kf.verifyMetricsMapsVanish env
  | .setPrLimits => Kf.setPrLimits env
  | .processTerminate => Kf.processTerminate env

/-- The states an instance reaches from `s₀` by calls of its methods that return, each in an
environment that `E` admits. -/
inductive Runs (E : Env → Prop) (s₀ : Sys) : Sys → Prop
  | init : Runs E s₀ s₀
  | step {s s' : Sys} {r : Option GoError} {env : Env} (m : Method) :
      Runs E s₀ s → E env → m.run env s = .ok r s' → Runs E s₀ s'

/-- Calls of the methods of an instance, in order, each in its own environment; what each
returns is dropped, as in `Runs`. -/
def runMethods : List (Env × Method) → Go Unit
  | [] => pure ()
  | (env, m) :: calls => do
    let _ ← m.run env
    runMethods calls

theorem runMethods_append_ok :
    ∀ {calls : List (Env × Method)} {s₀ s s' : Sys} {env : Env} {m : Method} {r : Option GoError},
      runMethods calls s₀ = .ok () s → m.run env s = .ok r s' → runMethods (calls ++ [(env, m)]) s₀ = .ok () s'
  | [], _, _, _, _, _, _, h, hm => by
    cases h
    simp only [List.nil_append, runMethods, bind_apply, hm]
    rfl
  | (env₁, m₁) :: calls, s₀, s, s', env, m, r, h, hm => by
    obtain ⟨r₁, s₁, h₁, h⟩ := bind_eq_ok.mp h
    simp only [List.cons_append, runMethods, bind_apply, h₁]
    exact runMethods_append_ok h hm

/-- A call that returns, followed by a run. -/
theorem Runs.head {E : Env → Prop} {s₀ s₁ s : Sys} {env : Env} {m : Method} {r : Option GoError}
    (he : E env) (hm : m.run env s₀ = .ok r s₁) (h : Runs E s₁ s) : Runs E s₀ s := by
  induction h with
  | init => exact .step m .init he hm
  | step m' _ he' hm' ih => exact .step m' ih he' hm'

/-- The states of `Runs` are those that runs of calls in environments `E` admits reach. -/
theorem runs_iff_runMethods {E : Env → Prop} {s₀ s : Sys} :
    Runs E s₀ s ↔ ∃ calls : List (Env × Method), (∀ c ∈ calls, E c.1) ∧ runMethods calls s₀ = .ok () s := by
  constructor
  · intro h
    induction h with
    | init => exact ⟨[], ⟨(fun _ h => nomatch h), rfl⟩⟩
    | step m _ he hm ih =>
      obtain ⟨calls, hE, hrun⟩ := ih
      exact ⟨calls ++ [(_, m)], fun c hc => (List.mem_append.mp hc).elim (hE c)
        fun hc => (List.mem_singleton.mp hc) ▸ he, runMethods_append_ok hrun hm⟩
  · rintro ⟨calls, hE, hrun⟩
    induction calls generalizing s₀ with
    | nil =>
      cases hrun
      exact .init
    | cons c calls ih =>
      obtain ⟨_, s₁, h₁, hrun⟩ := bind_eq_ok.mp hrun
      exact Runs.head (hE c (List.mem_cons_self _ _)) h₁
        (ih (fun c' hc' => hE c' (List.mem_cons_of_mem _ hc')) hrun)

/-- A call of the lifecycle as a method. -/
def Call.toMethod : Call → Method
  | .verifyAndGetArtifacts conf => .verifyAndGetArtifacts conf
  | .start ifaceName direction chain => .start ifaceName direction chain
  | .stop ifaceName direction chain => .stop ifaceName direction chain

theorem Call.run_toMethod (env : Env) (c : Call) : c.toMethod.run env = c.run env := by
  cases c <;> rfl

/-- Every run of the lifecycle is a run of the methods. -/
theorem Reachable.runs {s₀ s : Sys} (h : Reachable s₀ s) : Runs (fun _ => True) s₀ s := by
  induction h with
  | init => exact .init
  | step env c _ hc ih => exact .step c.toMethod ih trivial ((Call.run_toMethod env c).symm ▸ hc)

/-- A relation on receivers that every method keeps under the environments `E` relates the
first and the last receiver of every run. -/
theorem Runs.bpf {E : Env → Prop} {R : BPF → BPF → Prop} [IsPreorder BPF R]
    (hkeep : ∀ (env : Env) (m : Method) (s : Sys) (r : Option GoError) (s' : Sys), E env →
      m.run env s = .ok r s' → R s.bpf s'.bpf) {s₀ s : Sys}
    (h : Runs E s₀ s) : R s₀.bpf s.bpf := by
  induction h with
  | init => exact refl _
  | step m _ he hm ih => exact IsTrans.trans _ _ _ ih (hkeep _ m _ _ _ he hm)

/-! ### The footprint of every method -/

/-- A fetch that may set `FilePath` changes the receiver as `P` allows. -/
theorem Sys.Fetched.bpf {P : BPF → BPF → Prop} (hfile : ∀ b f, P b { b with filePath := f })
    {s s' : Sys} (h : Sys.Fetched s s') : P s.bpf s'.bpf := by
  have hb : s'.bpf = { s.bpf with filePath := s'.bpf.filePath } :=
    congrArg (fun b => { b with filePath := s'.bpf.filePath }) h.1
  exact hb ▸ hfile _ _

section Footprint

variable {P : BPF → BPF → Prop} [IsPreorder BPF P] {env : Env}

/-- Every method changes the receiver as `P` allows, given how `P` takes each write of a field
and the footprints of `Start` and of the calls that fill the caches. -/
theorem Method.run_bpf_of_start (m : Method)
    (hcmd : ∀ b c, P b { b with cmd := c }) (hprog : ∀ b v, P b { b with progID := v })
    (hunattended : ∀ b, P b { b with done := .unattended })
    (hfile : ∀ b f, P b { b with filePath := f })
    (hclear : ∀ b, P b { b with bpfMaps := b.bpfMaps.clear, metricsBpfMaps := b.metricsBpfMaps.clear })
    (hadd : ∀ k, Keeps (Sys.Within P fun _ => True) (Kf.addBPFMap k))
    (haddMetrics : ∀ n a k l, Keeps (Sys.Within P fun _ => True) (Kf.addMetricsBPFMap n a k l))
    (hsample : ∀ p k n, Keeps (Sys.Within P fun _ => True) (sampleMetricsMap env p k n))
    (hstart : ∀ i d c, Keeps (Sys.Within P fun _ => True) (Kf.start env i d c))
    {s s' : Sys} {r : Option GoError} (h : m.run env s = .ok r s') : P s.bpf s'.bpf := by
  cases m with
  | verifyAndGetArtifacts conf =>
      exact Sys.Fetched.bpf hfile (verifyAndGetArtifacts_fetched env conf s r s' h)
  | getArtifacts conf => exact Sys.Fetched.bpf hfile (getArtifacts_fetched env conf s r s' h)
  | start => exact (hstart _ _ _ s r s' h).1
  | stop => exact (stop_within (Q := fun _ => True) hcmd hclear hprog hunattended (fun _ => trivial) (fun _ => trivial)
      (fun _ _ => trivial) s r s' h).1
  | update i d => exact (@update_keeps _ _ _ env i d hadd s r s' h).1
  | addBPFMap => exact (hadd _ s r s' h).1
  | addMetricsBPFMap => exact (haddMetrics _ _ _ _ s r s' h).1
  | monitorMaps i n =>
      exact (@monitorMaps_keeps _ _ _ env i n (fun _ _ _ => haddMetrics _ _ _ _) hsample s r s' h).1
  | putNextProgFDFromID progID =>
      exact (@putNextProgFDFromID_within _ (fun _ => True) _ progID s r s' h).1
  | removeNextProgFD => exact (removeNextProgFD_within (Q := fun _ => True) s r s' h).1
  | removePrevProgFD => exact (removePrevProgFD_within (Q := fun _ => True) s r s' h).1
  | verifyPinnedMapExists chain =>
      exact (@verifyPinnedMapExists_within _ (fun _ => True) _ env chain s r s' h).1
  | verifyPinnedMapVanish => exact (verifyPinnedMapVanish_frame h).1 ▸ refl _
  | verifyProcessObject => exact (verifyProcessObject_within (Q := fun _ => True) s r s' h).1
  | verifyMetricsMapsVanish => exact (verifyMetricsMapsVanish_frame h).1 ▸ refl _
  | setPrLimits => exact (setPrLimits_within (Q := fun _ => True) (fun _ _ _ => trivial) s r s' h).1
  | processTerminate => exact (processTerminate_within (Q := fun _ => True) (fun _ => trivial) s r s' h).1

/-- Every method changes the receiver as `P` allows, given how `P` takes each write of a field,
`Done` made listening by `Start` included, and the footprints of the calls that fill the
caches. -/
theorem Method.run_bpf (m : Method)
    (hcmd : ∀ b c, P b { b with cmd := c }) (hprog : ∀ b v, P b { b with progID := v })
    (hdone : ∀ b, P b { b with done := .listening })
    (hunattended : ∀ b, P b { b with done := .unattended })
    (hfile : ∀ b f, P b { b with filePath := f })
    (hclear : ∀ b, P b { b with bpfMaps := b.bpfMaps.clear, metricsBpfMaps := b.metricsBpfMaps.clear })
    (hadd : ∀ k, Keeps (Sys.Within P fun _ => True) (Kf.addBPFMap k))
    (haddMetrics : ∀ n a k l, Keeps (Sys.Within P fun _ => True) (Kf.addMetricsBPFMap n a k l))
    (hsample : ∀ p k n, Keeps (Sys.Within P fun _ => True) (sampleMetricsMap env p k n))
    {s s' : Sys} {r : Option GoError} (h : m.run env s = .ok r s') : P s.bpf s'.bpf :=
  m.run_bpf_of_start hcmd hprog hunattended hfile hclear hadd haddMetrics hsample
    (fun _ _ _ => start_keeps hcmd hprog hdone (update_keeps hadd) (fun _ => trivial) (fun _ => trivial)
      (fun _ _ => trivial) (fun _ => trivial) (fun _ _ => trivial) (fun _ _ _ => trivial)) h

end Footprint

/-! ### The caches -/

/-- A program whose maps `GetBPFMap` resolves by name: a TC map by the path it is pinned at,
an XDP map by its kernel name. -/
def ResolvesByName (p : BPFProgram) : Prop := p.ebpfType = tcType ∨ p.ebpfType = xdpType

/-- Both caches are made, and for a program whose maps resolve by name each handle of
`BpfMaps` is filed under the name it was resolved for. -/
def BPF.MapsReady (b : BPF) : Prop :=
  b.bpfMaps.isSome ∧ b.metricsBpfMaps.isSome ∧
    (ResolvesByName b.program → ∀ e ∈ b.bpfMaps.getD [], e.2.name = e.1)

/-- For a program whose maps resolve by name, each entry of `MetricsBpfMaps` is filed under the
key of its own map name, key and aggregator. -/
def BPF.MetricsKeyed (b : BPF) : Prop :=
  ResolvesByName b.program →
    ∀ e ∈ b.metricsBpfMaps.getD [], e.1 = metricsKey e.2.bpfMap.name e.2.key e.2.aggregator

/-- `GetValue` adds a sample to the ring of the entry it reads and leaves its map, key and
aggregator as they are. -/
def Env.SamplesInPlace (env : Env) : Prop :=
  ∀ m h, (env.getValue m h).2.bpfMap = m.bpfMap ∧ (env.getValue m h).2.key = m.key ∧
    (env.getValue m h).2.aggregator = m.aggregator

/-- From `b` to `b'`: the program stays, and `I` of `b` gives `I` of `b'`. -/
def BPF.Keeping (I : BPF → Prop) (b b' : BPF) : Prop := b'.program = b.program ∧ (I b → I b')

instance (I : BPF → Prop) : IsPreorder BPF (BPF.Keeping I) where
  refl _ := ⟨rfl, id⟩
  trans _ _ _ h₁ h₂ := ⟨h₂.1.trans h₁.1, h₂.2 ∘ h₁.2⟩

theorem newBpfProgram_mapsReady (p : BPFProgram) (logDir dataCenter : GoString) :
    (newBpfProgram p logDir dataCenter).MapsReady :=
  ⟨rfl, rfl, fun _ _ he => nomatch he⟩

theorem newBpfProgram_metricsKeyed (p : BPFProgram) (logDir dataCenter : GoString) :
    (newBpfProgram p logDir dataCenter).MetricsKeyed :=
  fun _ _ he => nomatch he

section Cache

variable {Q : Effect → Prop} {env : Env}

theorem addBPFMap_mapsReady (mapName : GoString) :
    Keeps (Sys.Within (BPF.Keeping BPF.MapsReady) Q) (addBPFMap mapName) := by
  intro s r s' h
  rcases addBPFMap_cases h with ⟨-, -, -, rfl⟩ | ⟨es, m, hg, hb, -, rfl⟩
  · exact refl _
  refine Sys.Within.of_bpf ⟨rfl, fun ⟨_, hm, hn⟩ => ⟨rfl, hm, fun hr e he => ?_⟩⟩
  rcases GoMap.mem_put he with rfl | he
  · exact getBPFMap_name hr hg
  · exact hn hr e (by rwa [hb])

theorem addMetricsBPFMap_mapsReady (mapName aggregator : GoString) (key samplesLength : Int) :
    Keeps (Sys.Within (BPF.Keeping BPF.MapsReady) Q)
      (addMetricsBPFMap mapName aggregator key samplesLength) := by
  intro s r s' h
  rcases addMetricsBPFMap_cases h with ⟨-, -, -, rfl⟩ | ⟨es, m, -, -, -, rfl⟩
  · exact refl _
  · exact Sys.Within.of_bpf ⟨rfl, fun ⟨hb, _, hn⟩ => ⟨hb, rfl, hn⟩⟩

theorem sampleMetricsMap_mapsReady (programName mapKey metricName : GoString) :
    Keeps (Sys.Within (BPF.Keeping BPF.MapsReady) Q)
      (sampleMetricsMap env programName mapKey metricName) := by
  intro s r s' h
  obtain ⟨m, -, rfl⟩ := sampleMetricsMap_cases h
  refine ⟨⟨rfl, fun ⟨hb, hm, hn⟩ => ⟨hb, by simpa using hm, hn⟩⟩, [], by simp, by simp⟩

theorem addBPFMap_metricsKeyed (mapName : GoString) :
    Keeps (Sys.Within (BPF.Keeping BPF.MetricsKeyed) Q) (addBPFMap mapName) := by
  intro s r s' h
  rcases addBPFMap_cases h with ⟨-, -, -, rfl⟩ | ⟨es, m, -, -, -, rfl⟩
  · exact refl _
  · exact Sys.Within.of_bpf ⟨rfl, id⟩

theorem addMetricsBPFMap_metricsKeyed (mapName aggregator : GoString) (key samplesLength : Int) :
    Keeps (Sys.Within (BPF.Keeping BPF.MetricsKeyed) Q)
      (addMetricsBPFMap mapName aggregator key samplesLength) := by
  intro s r s' h
  rcases addMetricsBPFMap_cases h with ⟨-, -, -, rfl⟩ | ⟨es, m, hg, hb, -, rfl⟩
  · exact refl _
  refine Sys.Within.of_bpf ⟨rfl, fun hk hr e he => ?_⟩
  rcases GoMap.mem_put he with rfl | he
  · exact congrArg (metricsKey · key aggregator) (getBPFMap_name hr hg).symm
  · exact hk hr e (by rwa [hb])

theorem sampleMetricsMap_metricsKeyed (henv : env.SamplesInPlace)
    (programName mapKey metricName : GoString) :
    Keeps (Sys.Within (BPF.Keeping BPF.MetricsKeyed) Q)
      (sampleMetricsMap env programName mapKey metricName) := by
  intro s r s' h
  have hmem := @sampleMetricsMap_mem _ _ _ _ _ _ h
  obtain ⟨m, -, rfl⟩ := sampleMetricsMap_cases h
  refine ⟨⟨rfl, fun hk hr e he => ?_⟩, [], by simp, by simp⟩
  rcases hmem he with he | ⟨m, hm, he⟩
  · exact hk hr e he
  · obtain ⟨h₁, h₂, h₃⟩ := henv m s.host
    rw [he, h₁, h₂, h₃]
    exact hk hr _ hm

end Cache

/-! ### Along every run -/

section Runs

variable {env : Env} {s s' : Sys} {r : Option GoError}

/-- Every method keeps the program and the made, named `BpfMaps`. -/
theorem Method.run_mapsReady (m : Method) (h : m.run env s = .ok r s') :
    BPF.Keeping BPF.MapsReady s.bpf s'.bpf :=
  m.run_bpf (fun _ _ => ⟨rfl, id⟩) (fun _ _ => ⟨rfl, id⟩) (fun _ => ⟨rfl, id⟩) (fun _ => ⟨rfl, id⟩)
    (fun _ _ => ⟨rfl, id⟩)
    (fun _ => ⟨rfl, fun ⟨hb, hm, _⟩ => ⟨by rwa [GoMap.isSome_clear], by rwa [GoMap.isSome_clear],
      fun _ e he => by rw [GoMap.getD_clear] at he; cases he⟩⟩)
    addBPFMap_mapsReady addMetricsBPFMap_mapsReady sampleMetricsMap_mapsReady h

/-- Every method keeps the program and the keys of `MetricsBpfMaps`, when `GetValue` samples
in place. -/
theorem Method.run_metricsKeyed (henv : env.SamplesInPlace) (m : Method)
    (h : m.run env s = .ok r s') : BPF.Keeping BPF.MetricsKeyed s.bpf s'.bpf :=
  m.run_bpf (fun _ _ => ⟨rfl, id⟩) (fun _ _ => ⟨rfl, id⟩) (fun _ => ⟨rfl, id⟩) (fun _ => ⟨rfl, id⟩)
    (fun _ _ => ⟨rfl, id⟩) (fun _ => ⟨rfl, fun _ _ e he => by rw [GoMap.getD_clear] at he; cases he⟩)
    addBPFMap_metricsKeyed addMetricsBPFMap_metricsKeyed (sampleMetricsMap_metricsKeyed henv) h

theorem Runs.mapsReady {E : Env → Prop} {s₀ : Sys} (h : Runs E s₀ s) :
    BPF.Keeping BPF.MapsReady s₀.bpf s.bpf :=
  h.bpf fun _ m _ _ _ _ hm => m.run_mapsReady hm

theorem Runs.metricsKeyed {E : Env → Prop} (hE : ∀ env, E env → env.SamplesInPlace) {s₀ : Sys}
    (h : Runs E s₀ s) : BPF.Keeping BPF.MetricsKeyed s₀.bpf s.bpf :=
  h.bpf fun _ m _ _ _ he hm => m.run_metricsKeyed (hE _ he) hm

end Runs

/-! ### The life of an instance, under every method -/

/-- Every method keeps the program, and gives a program that is not a user program no `Done`
that a config loop listens on. -/
theorem Method.run_lifecycle {env : Env} {s s' : Sys} {r : Option GoError} (m : Method)
    (h : m.run env s = .ok r s') : BPF.Lifecycle s.bpf s'.bpf :=
  m.run_bpf_of_start (fun _ _ => ⟨rfl, fun _ h => h⟩) (fun _ _ => ⟨rfl, fun _ h => h⟩)
    (fun _ => ⟨rfl, fun _ _ => by simp⟩) (fun _ _ => ⟨rfl, fun _ h => h⟩) (fun _ => ⟨rfl, fun _ h => h⟩)
    (fun _ => addBPFMap_within fun _ _ => ⟨rfl, fun _ h => h⟩)
    (fun _ _ _ _ => addMetricsBPFMap_within fun _ _ => ⟨rfl, fun _ h => h⟩)
    (fun _ _ _ => sampleMetricsMap_within fun _ _ => ⟨rfl, fun _ h => h⟩) (fun _ _ _ => start_lifecycle) h

theorem Runs.lifecycle {E : Env → Prop} {s₀ s : Sys} (h : Runs E s₀ s) : BPF.Lifecycle s₀.bpf s.bpf :=
  h.bpf fun _ m _ _ _ _ hm => m.run_lifecycle hm

/-- For an instance built by `NewBpfProgram` of a program that is not a user program and has
a config loop, in every state that calls of its methods reach, in any order and under any
environments, every `Stop` blocks forever on the send on `b.Done`: besides a user program's
`Start`, no method makes `b.Done`. -/
theorem runs_stop_blocks {E : Env → Prop} {p : BPFProgram} {logDir dataCenter : GoString} {s₀ s : Sys}
    (h₀ : s₀.bpf = newBpfProgram p logDir dataCenter) (hu : p.isUserProgram = false)
    (hl : p.hasConfigLoop = true) (h : Runs E s₀ s) (env : Env) (ifaceName direction : GoString)
    (chain : Bool) : ∃ s', stop env ifaceName direction chain s = .error .blockedSend s' :=
  stop_blocks_of_lifecycle hu hl (h₀ ▸ h.lifecycle) env ifaceName direction chain

theorem nfConfigured_runs_stop_blocks :
    ∃ s, Runs (fun _ => True) nfConfigured s ∧
      ∃ s', stop Env.idle (ascii "eth0") (ascii "ingress") false s = .error .blockedSend s' :=
  let h₁ : Runs (fun _ => True) nfConfigured _ := .step (Method.verifyAndGetArtifacts nfConf) .init trivial
    (rfl : (Method.verifyAndGetArtifacts nfConf).run Env.idle nfConfigured = _)
  let h₂ := Runs.step (Method.update (ascii "eth0") (ascii "ingress")) h₁ trivial
    (rfl : (Method.update (ascii "eth0") (ascii "ingress")).run Env.idle _ = _)
  ⟨_, h₂, runs_stop_blocks (p := nfConfiguredPackage) rfl rfl rfl h₂ Env.idle _ _ _⟩

/-- For an instance built by `NewBpfProgram` of a program that is not a user program and has
a config loop, in every state that calls of `VerifyAndGetArtifacts`, `Start` and `Stop`
reach, under any environments, every `Stop` blocks forever on the send on `b.Done`. -/
theorem reachable_stop_blocks {p : BPFProgram} {logDir dataCenter : GoString} {s₀ s : Sys}
    (h₀ : s₀.bpf = newBpfProgram p logDir dataCenter) (hu : p.isUserProgram = false)
    (hl : p.hasConfigLoop = true) (h : Reachable s₀ s) (env : Env) (ifaceName direction : GoString)
    (chain : Bool) : ∃ s', stop env ifaceName direction chain s = .error .blockedSend s' :=
  stop_blocks_of_lifecycle hu hl (h₀ ▸ h.runs.lifecycle) env ifaceName direction chain

theorem reachable_stop_blocks_nfConfigured :
    ∃ s, Reachable nfConfigured s ∧
      ∃ s', stop Env.idle (ascii "eth0") (ascii "ingress") false s = .error .blockedSend s' :=
  let hr := Reachable.step Env.idle (.start (ascii "eth0") (ascii "ingress") false)
    (Reachable.step Env.idle (.verifyAndGetArtifacts nfConf)
      (Reachable.init : Reachable nfConfigured nfConfigured) rfl) rfl
  ⟨_, hr, reachable_stop_blocks (p := nfConfiguredPackage) rfl rfl rfl hr Env.idle _ _ _⟩

/-! ### The methods that fill the caches never panic -/

/-- The methods that write `BpfMaps` or `MetricsBpfMaps`. -/
def Method.writesCache : Method → Bool
  | .update _ _ | .addBPFMap _ | .addMetricsBPFMap _ _ _ _ | .monitorMaps _ _ => true
  | _ => false

section NoNilMap

variable {env : Env}

theorem updateLoop_noFault {args : List L3afDNFArgs} :
    ∀ {s : Sys}, s.bpf.MapsReady → ∀ e s', updateLoop env args s ≠ .error e s' := by
  induction args with
  | nil => exact fun _ _ _ h => by cases h
  | cons val rest ih =>
    intro s hs e s' h
    rcases bind_eq_error.mp h with h | ⟨r, s₁, h₁, h⟩
    · exact absurd hs.1 (by rw [updateElement_fault h]; decide)
    rcases r with _ | err
    · exact ih ((updateElement_keeps (Q := fun _ => True) addBPFMap_mapsReady val s none s₁ h₁).1.2 hs) e s' h
    · cases h

theorem monitorLoop_noFault {intervals : Int} {elements : List L3afDNFMetricsMap} :
    ∀ {s : Sys}, s.bpf.MapsReady → ∀ e s', monitorLoop env intervals elements s ≠ .error e s' := by
  induction elements with
  | nil => exact fun _ _ _ h => by cases h
  | cons element rest ih =>
    intro s hs e s' h
    rcases bind_eq_error.mp h with h | ⟨r, s₁, h₁, h⟩
    · exact absurd hs.2.1 (by rw [monitorElement_fault h]; decide)
    rcases r with _ | err
    · exact ih ((monitorElement_keeps (Q := fun _ => True) (fun n a k => addMetricsBPFMap_mapsReady n a k _)
        sampleMetricsMap_mapsReady element s none s₁ h₁).1.2 hs) e s' h
    · cases h

/-- From a state whose caches are made, the methods that write them never panic. -/
theorem Method.run_noFault_of_mapsReady {m : Method} (hm : m.writesCache = true) {s : Sys}
    (hs : s.bpf.MapsReady) (e : Fault) (s' : Sys) : m.run env s ≠ .error e s' := by
  intro h
  cases m with
  | update =>
    rcases bind_eq_error.mp h with h | ⟨_, _, ⟨⟩, h⟩
    · cases h
    rcases bind_eq_error.mp h with h | ⟨r, _, -, h⟩
    · exact updateLoop_noFault hs e s' h
    rcases r with _ | err
    · rcases bind_eq_error.mp h with h | ⟨_, _, ⟨⟩, h⟩ <;> cases h
    · cases h
  | addBPFMap => exact absurd hs.1 (by rw [addBPFMap_fault h]; decide)
  | addMetricsBPFMap => exact absurd hs.2.1 (by rw [addMetricsBPFMap_fault h]; decide)
  | monitorMaps =>
    rcases bind_eq_error.mp h with h | ⟨_, _, ⟨⟩, h⟩
    · cases h
    exact monitorLoop_noFault hs e s' h
  | _ => cases hm

end NoNilMap

/-- A TC program `nf` that writes `7` to map `a`, and samples map `a1` at key 2 summed and map
`a` at key 3 by its maximum. -/
def keyedProgram : BPFProgram :=
  { name := ascii "nf", ebpfType := tcType, mapArgs := [⟨ascii "a", ascii "7"⟩],
    monitorMaps := [⟨ascii "a1", 2, ascii "sum"⟩, ⟨ascii "a", 3, ascii "max"⟩] }

/-- `keyedProgram` as `NewBpfProgram` makes it, on a host with `a1` and `a` pinned. -/
def keyedSys : Sys := { bpf := newBpfProgram keyedProgram [] [], host := collidingHost }

/-- In every state that calls of its methods reach from `NewBpfProgram`, under any
environments, `Update`, `AddBPFMap`, `AddMetricsBPFMap` and `MonitorMaps` never panic: no
method makes a cache nil again, and `MonitorMaps` samples only entries it has filed. -/
theorem runs_cache_methods_never_fault {E : Env → Prop} {p : BPFProgram}
    {logDir dataCenter : GoString} {s₀ s : Sys} (h₀ : s₀.bpf = newBpfProgram p logDir dataCenter)
    (h : Runs E s₀ s) (env : Env) {m : Method} (hm : m.writesCache = true) (e : Fault) (s' : Sys) :
    m.run env s ≠ .error e s' :=
  Method.run_noFault_of_mapsReady hm (h.mapsReady.2 (h₀ ▸ newBpfProgram_mapsReady p logDir dataCenter))
    e s'

/-- After an `Update` has cached the handle of `a`, a second `Update` takes the cached path. -/
theorem keyedSys_update_never_faults :
    ∃ s, Runs (fun _ => True) keyedSys s ∧ ∀ e s', (Method.update [] []).run Env.idle s ≠ .error e s' :=
  let h₁ : Runs (fun _ => True) keyedSys _ := .step (Method.update [] []) .init trivial
    (rfl : (Method.update [] []).run Env.idle keyedSys = _)
  ⟨_, h₁, runs_cache_methods_never_fault rfl h₁ Env.idle (m := .update [] []) rfl⟩

/-! ### What `Update` writes -/

section Update

variable {env : Env}

/-- A round of `Update` that returns nil writes the value through a handle named by its key:
the cached one, or the one `AddBPFMap` just filed. -/
theorem updateElement_writes {val : L3afDNFArgs} {s s' : Sys} (hs : s.bpf.MapsReady)
    (hr : ResolvesByName s.bpf.program) (h : updateElement env val s = .ok none s') :
    ∃ m : BPFMap, m.name = val.key ∧ s'.host = env.mapUpdate m val.value s.host := by
  obtain ⟨_, _, ⟨⟩, h⟩ := bind_eq_ok.mp h
  rcases hm : s.bpf.bpfMaps.get? val.key with _ | m <;> rw [hm] at h
  · obtain ⟨r, s₁, ha, h⟩ := bind_eq_ok.mp h
    rcases addBPFMap_cases ha with ⟨err, -, rfl, -⟩ | ⟨es, m, hg, -, rfl, rfl⟩
    · cases h
    simp only [bind_apply, getBPF_apply, GoMap.get?_put_self, Option.getD_some, updateMap,
      call_apply, pure_apply] at h
    cases h
    exact ⟨m, getBPFMap_name hr hg, rfl⟩
  · simp only [updateMap, bind_apply, call_apply, pure_apply] at h
    cases h
    exact ⟨m, hs.2.2 hr _ (GoMap.mem_of_get? hm), rfl⟩

/-- `Update`'s loop that returns nil writes each value, in order, through a handle named by
its key. -/
theorem updateLoop_writes {args : List L3afDNFArgs} :
    ∀ {s s' : Sys}, s.bpf.MapsReady → ResolvesByName s.bpf.program →
      updateLoop env args s = .ok none s' →
      ∃ ws : List (BPFMap × GoString),
        List.Forall₂ (fun val w => w.1.name = val.key ∧ w.2 = val.value) args ws ∧
        s'.host = ws.foldl (fun h w => env.mapUpdate w.1 w.2 h) s.host := by
  induction args with
  | nil =>
    intro s s' _ _ h
    cases h
    exact ⟨[], .nil, rfl⟩
  | cons val rest ih =>
    intro s s' hs hr h
    obtain ⟨r, s₁, h₁, h⟩ := bind_eq_ok.mp h
    rcases r with _ | err
    · obtain ⟨m, hm, hh⟩ := updateElement_writes hs hr h₁
      obtain ⟨hp, hs₁⟩ := (updateElement_keeps (Q := fun _ => True) addBPFMap_mapsReady val s none s₁ h₁).1
      obtain ⟨ws, hws, hh'⟩ := ih (hs₁ hs) (hp ▸ hr) h
      exact ⟨(m, val.value) :: ws, .cons ⟨hm, rfl⟩ hws, by rw [hh', hh, List.foldl_cons]⟩
    · cases h

end Update

/-- Take an instance made by `NewBpfProgram` of a TC or XDP program. In every state that calls
of its methods reach, under any environments, an `Update` that returns nil has written each
value of `MapArgs`, in order, through a handle whose name is the value's key, and made no
other change to the host. -/
theorem runs_update_writes_by_key {E : Env → Prop} {p : BPFProgram} {logDir dataCenter : GoString}
    {s₀ s : Sys} (h₀ : s₀.bpf = newBpfProgram p logDir dataCenter) (hp : ResolvesByName p)
    (h : Runs E s₀ s) {env : Env} {ifaceName direction : GoString} {s' : Sys}
    (hu : update env ifaceName direction s = .ok none s') :
    ∃ ws : List (BPFMap × GoString),
      List.Forall₂ (fun val w => w.1.name = val.key ∧ w.2 = val.value) p.mapArgs ws ∧
      s'.host = ws.foldl (fun h w => env.mapUpdate w.1 w.2 h) s.host := by
  obtain ⟨hprog, hready⟩ := h.mapsReady
  have hprog : s.bpf.program = p := hprog.trans (congrArg BPF.program h₀)
  obtain ⟨_, _, ⟨⟩, hu⟩ := bind_eq_ok.mp hu
  obtain ⟨r, s₁, hl, hu⟩ := bind_eq_ok.mp hu
  rcases r with _ | err
  · obtain ⟨ws, hws, hh⟩ := updateLoop_writes (hready (h₀ ▸ newBpfProgram_mapsReady p logDir dataCenter))
      (hprog ▸ hp) hl
    simp only [bind_apply, publish_apply, pure_apply] at hu
    cases hu
    exact ⟨ws, hprog ▸ hws, hh⟩
  · cases hu

theorem keyedSys_update_writes_by_key :
    ∃ s, Runs (fun _ => True) keyedSys s ∧ ∃ s', update Env.idle [] [] s = .ok none s' ∧
      ∃ ws : List (BPFMap × GoString),
        List.Forall₂ (fun val w => w.1.name = val.key ∧ w.2 = val.value) keyedProgram.mapArgs ws ∧
        s'.host = ws.foldl (fun h w => Env.idle.mapUpdate w.1 w.2 h) s.host :=
  let h₁ : Runs (fun _ => True) keyedSys _ := .step (Method.update [] []) .init trivial
    (rfl : (Method.update [] []).run Env.idle keyedSys = _)
  ⟨_, h₁, _, rfl, runs_update_writes_by_key rfl (Or.inl rfl) h₁ (rfl : update Env.idle [] [] _ = _)⟩

/-! ### What `MonitorMaps` samples -/

/-- The map name, key and aggregator an entry of `MetricsBpfMaps` samples. -/
def MetricsBPFMap.source (m : MetricsBPFMap) : GoString × Int × GoString :=
  (m.bpfMap.name, m.key, m.aggregator)

/-- The map name, key and aggregator an element of `MonitorMaps` asks for. -/
def L3afDNFMetricsMap.source (e : L3afDNFMetricsMap) : GoString × Int × GoString :=
  (e.name, e.key, e.aggregator)

/-- No two of the sources have the same key in `MetricsBpfMaps`. -/
def KeysDistinct (ts : List (GoString × Int × GoString)) : Prop :=
  ∀ t ∈ ts, ∀ t' ∈ ts, metricsKey t.1 t.2.1 t.2.2 = metricsKey t'.1 t'.2.1 t'.2.2 → t = t'

instance (ts : List (GoString × Int × GoString)) : Decidable (KeysDistinct ts) :=
  inferInstanceAs (Decidable (∀ t ∈ ts, ∀ t' ∈ ts, _ → _))

section Monitor

variable {env : Env} {ts : List (GoString × Int × GoString)}

/-- A sample writes back an entry of the source it read. -/
theorem sampleMetricsMap_sources (henv : env.SamplesInPlace) {programName mapKey metricName : GoString}
    {s s' : Sys} (h : sampleMetricsMap env programName mapKey metricName s = .ok () s')
    (hts : ∀ x ∈ s.bpf.metricsBpfMaps.getD [], x.2.source ∈ ts) :
    ∀ x ∈ s'.bpf.metricsBpfMaps.getD [], x.2.source ∈ ts := by
  intro x hx
  rcases sampleMetricsMap_mem h hx with hx | ⟨m, hm, he⟩
  · exact hts x hx
  · obtain ⟨h₁, h₂, h₃⟩ := henv m s.host
    simpa only [MetricsBPFMap.source, he, h₁, h₂, h₃] using hts _ hm

/-- A round of `MonitorMaps` that returns nil publishes one sample, read through an entry of the
element's own source when no two sources share a key; it adds to the cache only that source. -/
theorem monitorElement_samples (hinj : KeysDistinct ts) {intervals : Int}
    {element : L3afDNFMetricsMap} {s s' : Sys} (hk : s.bpf.MetricsKeyed)
    (hr : ResolvesByName s.bpf.program) (henv : env.SamplesInPlace)
    (hts : ∀ x ∈ s.bpf.metricsBpfMaps.getD [], x.2.source ∈ ts) (he : element.source ∈ ts)
    (h : monitorElement env intervals element s = .ok none s') :
    (∃ m : MetricsBPFMap, m.source = element.source ∧
      s'.stats = s.stats ++ [.setValue (env.getValue m s.host).1 .nfMointorMap
        [s.bpf.program.name, element.name ++ ascii "_" ++ itoa element.key ++ ascii "_" ++
          element.aggregator]]) ∧
      s'.host = s.host ∧ ∀ x ∈ s'.bpf.metricsBpfMaps.getD [], x.2.source ∈ ts := by
  obtain ⟨_, _, ⟨⟩, h⟩ := bind_eq_ok.mp h
  dsimp only at h
  rcases hm : s.bpf.metricsBpfMaps.get? (metricsKey element.name element.key element.aggregator)
    with _ | m <;> rw [hm] at h
  · obtain ⟨r, s₁, ha, h⟩ := bind_eq_ok.mp h
    rcases addMetricsBPFMap_cases ha with ⟨err, -, rfl, -⟩ | ⟨es, bm, hg, hb, rfl, rfl⟩
    · cases h
    obtain ⟨_, s₂, hsmp, h⟩ := bind_eq_ok.mp h
    cases h
    have hts₁ : ∀ x ∈ GoMap.put es (metricsKey element.name element.key element.aggregator)
        { bpfMap := bm, key := element.key, aggregator := element.aggregator,
          values := List.replicate intervals.toNat none }, x.2.source ∈ ts := by
      intro x hx
      rcases GoMap.mem_put hx with rfl | hx
      · simpa only [MetricsBPFMap.source, getBPFMap_name hr hg] using he
      · exact hts x (by rwa [hb])
    refine ⟨?_, ?_, sampleMetricsMap_sources henv hsmp hts₁⟩
    all_goals obtain ⟨m', hm', rfl⟩ := sampleMetricsMap_cases hsmp
    · simp only [GoMap.get?_put_self, Option.some.injEq] at hm'
      subst hm'
      exact ⟨_, by simp only [MetricsBPFMap.source, getBPFMap_name hr hg, L3afDNFMetricsMap.source], rfl⟩
    · rfl
  · obtain ⟨_, _, ⟨⟩, h⟩ := bind_eq_ok.mp h
    obtain ⟨_, s₂, hsmp, h⟩ := bind_eq_ok.mp h
    cases h
    refine ⟨?_, ?_, sampleMetricsMap_sources henv hsmp hts⟩
    all_goals obtain ⟨m', hm', rfl⟩ := sampleMetricsMap_cases hsmp
    · rw [hm] at hm'
      cases hm'
      -- the cached entry is filed under its own key, which is the element's
      have hmem := GoMap.mem_of_get? hm
      have hkey := hk hr _ hmem
      exact ⟨m, hinj _ (hts _ hmem) _ he hkey.symm, rfl⟩
    · rfl

/-- `MonitorMaps`'s loop that returns nil publishes, element after element, a sample read
through an entry of the element's own source, and leaves the host as it is. -/
theorem monitorLoop_samples (hinj : KeysDistinct ts) (henv : env.SamplesInPlace) {intervals : Int}
    {elements : List L3afDNFMetricsMap} :
    ∀ {s s' : Sys}, s.bpf.MetricsKeyed → ResolvesByName s.bpf.program →
      (∀ x ∈ s.bpf.metricsBpfMaps.getD [], x.2.source ∈ ts) → (∀ e ∈ elements, e.source ∈ ts) →
      monitorLoop env intervals elements s = .ok none s' →
      s'.host = s.host ∧ ∃ t, s'.stats = s.stats ++ t ∧
        List.Forall₂ (fun e st => ∃ m : MetricsBPFMap, m.source = e.source ∧
          st = .setValue (env.getValue m s.host).1 .nfMointorMap
            [s.bpf.program.name, e.name ++ ascii "_" ++ itoa e.key ++ ascii "_" ++ e.aggregator])
          elements t := by
  induction elements with
  | nil =>
    intro s s' _ _ _ _ h
    cases h
    exact ⟨rfl, [], (List.append_nil _).symm, .nil⟩
  | cons element rest ih =>
    intro s s' hk hr hts hel h
    obtain ⟨r, s₁, h₁, h⟩ := bind_eq_ok.mp h
    rcases r with _ | err
    · obtain ⟨⟨m, hm, hst⟩, hh, hts₁⟩ :=
        monitorElement_samples hinj hk hr henv hts (hel _ (List.mem_cons_self _ _)) h₁
      obtain ⟨hp, hk₁⟩ := (monitorElement_keeps (Q := fun _ => True)
        (fun n a k => addMetricsBPFMap_metricsKeyed n a k _) (sampleMetricsMap_metricsKeyed henv)
        element s none s₁ h₁).1
      obtain ⟨hh', t, ht, hf⟩ :=
        ih (hk₁ hk) (hp ▸ hr) hts₁ (fun e he => hel e (List.mem_cons_of_mem _ he)) h
      rw [hh, hp] at hf
      exact ⟨hh'.trans hh, _ :: t, by rw [ht, hst, List.append_assoc]; rfl, .cons ⟨m, hm, rfl⟩ hf⟩
    · cases h

end Monitor

/-- Take an instance made by `NewBpfProgram` of a TC or XDP program, in environments whose
`GetValue` samples in place. In every state that calls of its methods reach, if no two of the
elements of `MonitorMaps` and the entries already cached share a key, a `MonitorMaps` that
returns nil has published, for each element in order, one sample read through an entry of the
element's own map, key and aggregator, and has left the host as it is. -/
theorem runs_monitorMaps_samples_own_map {E : Env → Prop} {p : BPFProgram}
    {logDir dataCenter : GoString} {s₀ s : Sys} (h₀ : s₀.bpf = newBpfProgram p logDir dataCenter)
    (hp : ResolvesByName p) (hE : ∀ env, E env → env.SamplesInPlace) (h : Runs E s₀ s)
    {env : Env} (henv : env.SamplesInPlace) {ifaceName : GoString} {intervals : Int} {s' : Sys}
    (hinj : KeysDistinct (p.monitorMaps.map L3afDNFMetricsMap.source ++
      s.bpf.metricsBpfMaps.values.map MetricsBPFMap.source))
    (hm : monitorMaps env ifaceName intervals s = .ok none s') :
    s'.host = s.host ∧ ∃ t, s'.stats = s.stats ++ t ∧
      List.Forall₂ (fun e st => ∃ m : MetricsBPFMap, m.source = e.source ∧
        st = .setValue (env.getValue m s.host).1 .nfMointorMap
          [p.name, e.name ++ ascii "_" ++ itoa e.key ++ ascii "_" ++ e.aggregator])
        p.monitorMaps t := by
  obtain ⟨hprog, hkeyed⟩ := h.metricsKeyed hE
  have hprog : s.bpf.program = p := hprog.trans (congrArg BPF.program h₀)
  obtain ⟨_, _, ⟨⟩, hm⟩ := bind_eq_ok.mp hm
  have hts : ∀ x ∈ s.bpf.metricsBpfMaps.getD [], x.2.source ∈
      p.monitorMaps.map L3afDNFMetricsMap.source ++ s.bpf.metricsBpfMaps.values.map MetricsBPFMap.source :=
    fun x hx => List.mem_append_right _ (List.mem_map_of_mem _ (List.mem_map_of_mem _ hx))
  have hel : ∀ e ∈ s.bpf.program.monitorMaps, e.source ∈
      p.monitorMaps.map L3afDNFMetricsMap.source ++ s.bpf.metricsBpfMaps.values.map MetricsBPFMap.source :=
    fun e he => List.mem_append_left _ (List.mem_map_of_mem _ (hprog ▸ he))
  have := monitorLoop_samples hinj henv
    (hkeyed (h₀ ▸ newBpfProgram_metricsKeyed p logDir dataCenter)) (hprog ▸ hp) hts hel hm
  rwa [hprog] at this

/-- After a first `MonitorMaps` has filed an entry for each element, a second one samples
through the cached entries. -/
theorem keyedSys_monitorMaps_samples_own_map :
    ∃ s, Runs Env.SamplesInPlace keyedSys s ∧ ∃ s', monitorMaps keyEnv [] 0 s = .ok none s' ∧
      s'.host = s.host ∧ ∃ t, s'.stats = s.stats ++ t ∧
        List.Forall₂ (fun e st => ∃ m : MetricsBPFMap, m.source = e.source ∧
          st = .setValue (keyEnv.getValue m s.host).1 .nfMointorMap
            [keyedProgram.name, e.name ++ ascii "_" ++ itoa e.key ++ ascii "_" ++ e.aggregator])
          keyedProgram.monitorMaps t :=
  let h₁ : Runs Env.SamplesInPlace keyedSys _ := .step (Method.monitorMaps [] 0) .init
    (fun _ _ => ⟨rfl, rfl, rfl⟩) (rfl : (Method.monitorMaps [] 0).run keyEnv keyedSys = _)
  ⟨_, h₁, _, rfl, runs_monitorMaps_samples_own_map rfl (Or.inl rfl) (fun _ h => h) h₁
    (fun _ _ => ⟨rfl, rfl, rfl⟩) (by decide) (rfl : monitorMaps keyEnv [] 0 _ = _)⟩

end L3afd.Kf
