import L3afd.Kf.Instance

/-! # Where an instance writes

An instance creates and writes files in two places. `GetArtifacts`, which
`VerifyAndGetArtifacts` calls when the program is not there yet, extracts the archive under
`Join(BPFDir, name, version)`; `Start` writes the rules file at
`Join(FilePath, direction, RulesFile)`. No other method creates or writes a file, and only the
two fetches set `FilePath`, to a directory in the same tree. So along every run of the methods
every path an instance creates or writes is under `Clean(Join(BPFDir, name, version))`, as long
as no name that goes into these paths has a `..`: the program's name, version, artifact stem
and rules file, and the directions `Start` is given (`runsIn_writesUnder`).

## Implementation notes

`BPF.FilesUnder B` is the invariant on the receiver: no `FilePath` yet, or one under
`Clean(B)`, for `B = Join(D, name, version)`. Each method runs within
`BPF.Keeping (BPF.FilesUnder B)` and records only writes under `Clean(B)`
(`Method.run_writesUnder`); a run composes the steps, along which the program, and so `B`,
stays the same. -/

namespace L3afd.Kf
open L3afd.Go

/-- The names of a program that go into the paths an instance writes have no `..`: its name
and version, the stem of its artifact and its rules file. -/
def BPFProgram.PlainNames (p : BPFProgram) : Prop :=
  contains p.name dotdot = false ∧ contains p.version dotdot = false ∧
    contains (splitHead p.artifact 0x2E) dotdot = false ∧ contains p.rulesFile dotdot = false

/-- No `FilePath` yet, or one under `Clean(D)`. -/
def BPF.FilesUnder (D : GoString) (b : BPF) : Prop :=
  b.filePath = [] ∨ IsUnder (clean D) b.filePath

/-- A call that fetches with `BPFDir = D`, or starts with a direction that has no `..`; the
other calls take no path. -/
def Method.InDir (D : GoString) : Method → Prop
  | .verifyAndGetArtifacts conf | .getArtifacts conf => conf.bpfDir = D
  | .start _ direction _ => contains direction dotdot = false
  | _ => True

/-- The states an instance reaches from `s₀` by calls that `M` admits, each in any
environment. -/
inductive RunsIn (M : Method → Prop) (s₀ : Sys) : Sys → Prop
  | init : RunsIn M s₀ s₀
  | step {s s' : Sys} {r : Option GoError} {env : Env} (m : Method) :
      RunsIn M s₀ s → M m → m.run env s = .ok r s' → RunsIn M s₀ s'

theorem WritesUnder.mono {d d' : GoString} (h : IsUnder (clean d) (clean d')) {e : Effect}
    (he : WritesUnder d' e) : WritesUnder d e :=
  fun path hp => h.trans (he path hp)

theorem writesUnder_of_writes_none {D : GoString} {e : Effect} (he : e.writes = none) :
    WritesUnder D e :=
  fun _ hp => by rw [he] at hp; cases hp

section Step

variable {D : GoString} {env : Env} {s s' : Sys} {r : Option GoError}

/-- The fetch writes under `Join(D, name, version)`, and sets `FilePath` to a directory in it
or, on an error, leaves it. -/
theorem getArtifacts_writesIn {conf : Config} (hD : D ≠ []) (hc : conf.bpfDir = D)
    (hp : s.bpf.program.PlainNames) (h : getArtifacts env conf s = .ok r s') :
    Sys.Within (BPF.Keeping (BPF.FilesUnder (join [D, s.bpf.program.name, s.bpf.program.version])))
      (WritesUnder (join [D, s.bpf.program.name, s.bpf.program.version])) s s' := by
  subst hc
  have hw : Sys.Within (BPF.Same BPF.program)
      (WritesUnder (join [conf.bpfDir, s.bpf.program.name, s.bpf.program.version])) s
      (endState (getArtifacts env conf s)) := getArtifacts_writesUnder (P := BPF.Same BPF.program) hD (fun _ _ => rfl) s
  rw [h] at hw
  obtain ⟨hprog, t, ht, hq⟩ := hw
  refine ⟨⟨hprog, fun hf => ?_⟩, t, ht, hq⟩
  rcases getArtifacts_cases h with ⟨-, hb⟩ | ⟨-, hb, -⟩
  · exact hb ▸ hf
  · exact .inr (hb ▸ join_isUnder (join_cons_ne_nil hD _) hp.2.2.1)

theorem verifyAndGetArtifacts_writesIn {conf : Config} (hD : D ≠ []) (hc : conf.bpfDir = D)
    (hp : s.bpf.program.PlainNames) (h : verifyAndGetArtifacts env conf s = .ok r s') :
    Sys.Within (BPF.Keeping (BPF.FilesUnder (join [D, s.bpf.program.name, s.bpf.program.version])))
      (WritesUnder (join [D, s.bpf.program.name, s.bpf.program.version])) s s' := by
  obtain ⟨_, _, ⟨⟩, h⟩ := bind_eq_ok.mp h
  obtain ⟨o, s₁, hs, h⟩ := bind_eq_ok.mp h
  obtain ⟨-, rfl⟩ := (EStateM.Result.ok.injEq ..).mp hs
  rcases o with _ | inode
  · exact getArtifacts_writesIn hD hc hp h
  · obtain ⟨_, _, ⟨⟩, h⟩ := bind_eq_ok.mp h
    cases h
    subst hc
    refine Sys.Within.of_bpf ⟨rfl, fun _ => .inr ?_⟩
    show IsUnder _ (join ([conf.bpfDir, s.bpf.program.name, s.bpf.program.version] ++ [_]))
    rw [join_append_singleton]
    exact join_isUnder (join_cons_ne_nil hD _) hp.2.2.1

/-- `Start` keeps `FilePath`, and writes only the rules file, under `FilePath`. -/
theorem start_writesIn {B ifaceName direction : GoString} {chain : Bool} (hf : s.bpf.FilesUnder B)
    (hdir : contains direction dotdot = false) (hrules : contains s.bpf.program.rulesFile dotdot = false)
    (h : start env ifaceName direction chain s = .ok r s') :
    Sys.Within (BPF.Keeping (BPF.FilesUnder B)) (WritesUnder B) s s' := by
  have hsame : BPF.Same (fun b => (b.program, b.filePath)) s.bpf s'.bpf :=
    (start_keeps (P := BPF.Same fun b => (b.program, b.filePath)) (Q := fun _ => True) (fun _ _ => rfl)
      (fun _ _ => rfl) (fun _ => rfl) (update_within fun _ _ => rfl) (fun _ => trivial) (fun _ => trivial)
      (fun _ _ => trivial) (fun _ => trivial) (fun _ _ => trivial) (fun _ _ _ => trivial) s _ s' h).1
  obtain ⟨hprog, hfile⟩ := Prod.mk.inj_iff.mp hsame
  obtain ⟨t, ht, hq⟩ := start_writes_only_rules_file h
  refine ⟨⟨hprog, fun hf' => by rwa [BPF.FilesUnder, hfile]⟩, t, ht, fun e he path hp => ?_⟩
  obtain ⟨hfp, rfl⟩ := hq e he path hp
  have hunder : IsUnder (clean s.bpf.filePath) (join [s.bpf.filePath, direction, s.bpf.program.rulesFile]) :=
    join_isUnder_of_plain hfp (by simp [hdir, hrules])
  exact (hf.resolve_left hfp).clean_right.trans hunder

/-- One call of any method keeps `FilePath` under `Clean(Join(D, name, version))` and writes
only under it. -/
theorem Method.run_writesUnder (m : Method) (hD : D ≠ []) (hp : s.bpf.program.PlainNames)
    (hf : s.bpf.FilesUnder (join [D, s.bpf.program.name, s.bpf.program.version])) (hm : m.InDir D)
    (h : m.run env s = .ok r s') :
    Sys.Within (BPF.Keeping (BPF.FilesUnder (join [D, s.bpf.program.name, s.bpf.program.version])))
      (WritesUnder (join [D, s.bpf.program.name, s.bpf.program.version])) s s' := by
  have hkeep : ∀ {B : GoString} {b b' : BPF}, b'.filePath = b.filePath → b'.program = b.program →
      BPF.Keeping (BPF.FilesUnder B) b b' := fun hfile hprog => ⟨hprog, fun hf' => by rwa [BPF.FilesUnder, hfile]⟩
  have hnw : ∀ {B : GoString} {e : Effect}, e.writes = none → WritesUnder B e := writesUnder_of_writes_none
  cases m with
  | verifyAndGetArtifacts conf => exact verifyAndGetArtifacts_writesIn hD hm hp h
  | getArtifacts conf => exact getArtifacts_writesIn hD hm hp h
  | start => exact start_writesIn hf hm hp.2.2.2 h
  | stop =>
    exact stop_within (fun _ _ => hkeep rfl rfl) (fun _ => hkeep rfl rfl) (fun _ _ => hkeep rfl rfl)
      (fun _ => hkeep rfl rfl) (fun _ => hnw rfl) (fun _ => hnw rfl) (fun _ _ => hnw rfl) s r s' h
  | update i d => exact @update_within _ _ _ env i d (fun _ _ => hkeep rfl rfl) s r s' h
  | addBPFMap => exact addBPFMap_within (fun _ _ => hkeep rfl rfl) s r s' h
  | addMetricsBPFMap => exact addMetricsBPFMap_within (fun _ _ => hkeep rfl rfl) s r s' h
  | monitorMaps i n =>
    exact @monitorMaps_keeps (BPF.Keeping (BPF.FilesUnder (join [D, s.bpf.program.name, s.bpf.program.version])))
      _ _ env i n (fun _ _ _ => addMetricsBPFMap_within fun _ _ => hkeep rfl rfl)
      (fun _ _ _ => sampleMetricsMap_within fun _ _ => hkeep rfl rfl) s r s' h
  | putNextProgFDFromID => exact putNextProgFDFromID_within s r s' h
  | removeNextProgFD => exact removeNextProgFD_within s r s' h
  | removePrevProgFD => exact removePrevProgFD_within s r s' h
  | verifyPinnedMapExists => exact verifyPinnedMapExists_within s r s' h
  | verifyPinnedMapVanish =>
    obtain ⟨hb, -, ht, -⟩ := verifyPinnedMapVanish_frame h
    exact ⟨by rw [hb]; exact refl _, [], by rw [ht, List.append_nil], by simp⟩
  | verifyProcessObject => exact verifyProcessObject_within s r s' h
  | verifyMetricsMapsVanish =>
    obtain ⟨hb, -, ht, -⟩ := verifyMetricsMapsVanish_frame h
    exact ⟨by rw [hb]; exact refl _, [], by rw [ht, List.append_nil], by simp⟩
  | setPrLimits => exact setPrLimits_within (fun _ _ _ => hnw rfl) s r s' h
  | processTerminate => exact processTerminate_within (fun _ => hnw rfl) s r s' h

end Step

/-- Take an instance whose program has no `..` in its name, version, artifact stem or rules
file, and that has no `FilePath` yet, as `NewBpfProgram` makes it, or one under
`Clean(Join(D, name, version))`. Along every run of its methods in any environments, in which
every fetch has `BPFDir = D` and every `Start` a direction with no `..`, `FilePath` stays
empty or under `Clean(Join(D, name, version))`, and every path the instance creates or writes
is under that directory. -/
theorem runsIn_writesUnder {D : GoString} {s₀ s : Sys} (hD : D ≠ []) (hp : s₀.bpf.program.PlainNames)
    (hf : s₀.bpf.FilesUnder (join [D, s₀.bpf.program.name, s₀.bpf.program.version]))
    (h : RunsIn (Method.InDir D) s₀ s) :
    s.bpf.FilesUnder (join [D, s₀.bpf.program.name, s₀.bpf.program.version]) ∧
      ∃ t, s.trace = s₀.trace ++ t ∧ ∀ e ∈ t, ∀ path, e.writes = some path →
        IsUnder (clean (join [D, s₀.bpf.program.name, s₀.bpf.program.version])) path := by
  have hrun : Sys.Within (BPF.Keeping (BPF.FilesUnder (join [D, s₀.bpf.program.name, s₀.bpf.program.version])))
      (WritesUnder (join [D, s₀.bpf.program.name, s₀.bpf.program.version])) s₀ s := by
    induction h with
    | init => exact refl _
    | step m _ hm hstep ih =>
      have hprog := ih.1.1
      refine IsTrans.trans _ _ _ ih ?_
      have := m.run_writesUnder hD (hprog ▸ hp) (hprog ▸ ih.1.2 hf) hm hstep
      rwa [hprog] at this
  exact ⟨hrun.1.2 hf, hrun.2⟩

/-- `nf` with a rules file, as `NewBpfProgram` makes it, on a host where it can start. -/
def nfRulesNew : Sys := { bpf := newBpfProgram nfRulesPackage [] [], host := nfInstallHost }

theorem nfRulesNew_runsIn_writesUnder :
    ∃ s, RunsIn (Method.InDir (ascii "/bpf")) nfRulesNew s ∧
      s.bpf.FilesUnder (join [ascii "/bpf", ascii "nf", ascii "1"]) ∧
      ∃ t, s.trace = nfRulesNew.trace ++ t ∧ ∀ e ∈ t, ∀ path, e.writes = some path →
        IsUnder (clean (join [ascii "/bpf", ascii "nf", ascii "1"])) path :=
  let ⟨_, _, h₁, h₂⟩ : ∃ s₁ s₂,
      (Method.getArtifacts { bpfDir := ascii "/bpf" }).run dirFileRepo nfRulesNew = .ok none s₁ ∧
      (Method.start (ascii "eth0") (ascii "ingress") false).run Env.idle s₁ = .ok none s₂ :=
    ⟨_, _, rfl, rfl⟩
  have hrun : RunsIn (Method.InDir (ascii "/bpf")) nfRulesNew _ :=
    .step (.start (ascii "eth0") (ascii "ingress") false) (.step (.getArtifacts { bpfDir := ascii "/bpf" }) .init rfl h₁) rfl h₂
  ⟨_, hrun, @runsIn_writesUnder (ascii "/bpf") nfRulesNew _ (by decide) ⟨rfl, rfl, rfl, rfl⟩ (.inl rfl) hrun⟩

end L3afd.Kf
