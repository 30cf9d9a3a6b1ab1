import PatternFactory.Generation.Run
import PatternFactory.Proofs.List

/-!
# Courses of runs

An emitter is taken as a program on a state.  `RunPlan.Runs` says what a run does, as one rule for
each way in which it goes on or ends: it settles when no declaration is new, it exhausts its rounds,
a round fails, or a round is done and the run goes on with the units of that round.
`RunPlan.runs_iff` states that `RunPlan.courseFrom` follows these rules and nothing else.

`Emitter.logged` writes down what an emitter is given.
-/

namespace PatternFactory

variable {σ : Type}

/-! ### Emitting units -/

theorem run_bind_of_eq {α β : Type} {x : StateM σ α} {f : α → StateM σ β} {s s' : σ} {a : α}
    (h : x.run s = (a, s')) : (x >>= f).run s = (f a).run s' := by
  change (f (x.run s).1).run (x.run s).2 = _
  rw [h]

section

variable {emit : Emitter (StateM σ)} {s : σ}

theorem emitAll_nil : (emitAll emit []).run s = (.ok (), s) := rfl

theorem emitAll_cons_of_ok {u : GeneratedUnit} {rest : List GeneratedUnit} {s' : σ}
    (h : (emit u.name u.text).run s = (.ok (), s')) :
    (emitAll emit (u :: rest)).run s = (emitAll emit rest).run s' := by
  rw [emitAll, run_bind_of_eq h]

theorem emitAll_cons_of_error {u : GeneratedUnit} {rest : List GeneratedUnit} {s' : σ}
    {cause : FileError} (h : (emit u.name u.text).run s = (.error cause, s')) :
    (emitAll emit (u :: rest)).run s = (.error (.emission u.name cause), s') := by
  rw [emitAll, run_bind_of_eq h]
  rfl

end

namespace Generator

variable {g : Generator} {emit : Emitter (StateM σ)} {found : List MarkedDeclaration} {s : σ}

theorem runRound_of_error {failure : Failure} (h : g.collect found = .error failure) :
    (g.runRound emit found).run s = (⟨[], .error failure⟩, s) := by
  rw [runRound, h]
  rfl

theorem runRound_of_ok {c : Collection} (h : g.collect found = .ok c) :
    (g.runRound emit found).run s =
      (⟨c.diagnostics, ((emitAll emit c.units).run s).1.map fun _ => c.units⟩,
        ((emitAll emit c.units).run s).2) := by
  rw [runRound, h]
  obtain ⟨⟨result, s'⟩, he⟩ : ∃ x, (emitAll emit c.units).run s = x := ⟨_, rfl⟩
  simp only [run_bind_of_eq he, he]
  cases result <;> rfl

/-- A round that does not fail has emitted the units that it collected. -/
theorem collect_of_runRound {units : List GeneratedUnit}
    (h : ((g.runRound emit found).run s).1.result = .ok units) :
    ∃ c, g.collect found = .ok c ∧ c.units = units := by
  cases hc : g.collect found with
  | error failure =>
    rw [runRound_of_error hc] at h
    cases h
  | ok c =>
    refine ⟨c, rfl, ?_⟩
    rw [runRound_of_ok hc] at h
    cases he : ((emitAll emit c.units).run s).1 with
    | error failure =>
      rw [he] at h
      cases h
    | ok _ =>
      rw [he] at h
      cases h
      rfl

end Generator

/-! ### What a run does -/

namespace RunPlan

/-- The declarations of the sources that are new. -/
def fresh (p : RunPlan) (seen : List String) (sources : List SourceFile) :
    List MarkedDeclaration :=
  unseen seen (p.discover sources)

/-- A run over `sources` with `left` more rounds, after the identities `seen`, takes this course and
brings the emitter from one state into another. -/
inductive Runs (p : RunPlan) (emit : Emitter (StateM σ)) :
    Nat → List String → List SourceFile → σ → Course → σ → Prop
  /-- Nothing is new. -/
  | settled {left seen sources s} (hfresh : p.fresh seen sources = []) :
      Runs p emit left seen sources s ⟨[], p.markerDiagnostics sources, .ok ()⟩ s
  /-- Something is new, but no round is left. -/
  | exhausted {seen sources s} (hfresh : p.fresh seen sources ≠ []) :
      Runs p emit 0 seen sources s
        ⟨[], p.markerDiagnostics sources, .error (.roundLimit p.rounds p.marker)⟩ s
  /-- The round fails, or one of its units cannot be read. -/
  | failed {left seen sources s own r failure s'} (hfound : r.found = p.fresh seen sources)
      (hne : r.found ≠ [])
      (hround : (p.generator.runRound emit r.found).run s = (⟨own, r.result⟩, s'))
      (hnext : r.next = .error failure) :
      Runs p emit (left + 1) seen sources s
        ⟨[r], p.markerDiagnostics sources ++ own, .error failure⟩ s'
  /-- The round is done, and the run goes on with its units. -/
  | round {left seen sources s own r next s' c s''} (hfound : r.found = p.fresh seen sources)
      (hne : r.found ≠ [])
      (hround : (p.generator.runRound emit r.found).run s = (⟨own, r.result⟩, s'))
      (hnext : r.next = .ok next) (hrest : Runs p emit left (seen ++ r.identities) next s' c s'') :
      Runs p emit (left + 1) seen sources s (c.behind r (p.markerDiagnostics sources ++ own)) s''

variable {p : RunPlan} {emit : Emitter (StateM σ)} {left : Nat} {seen : List String}
  {sources : List SourceFile} {s : σ}

theorem courseFrom_of_settled (h : p.fresh seen sources = []) :
    (p.courseFrom emit left seen sources).run s =
      (⟨[], p.markerDiagnostics sources, .ok ()⟩, s) := by
  rw [fresh] at h
  unfold courseFrom
  rw [h]
  rfl

theorem courseFrom_zero (h : p.fresh seen sources ≠ []) :
    (p.courseFrom emit 0 seen sources).run s =
      (⟨[], p.markerDiagnostics sources, .error (.roundLimit p.rounds p.marker)⟩, s) := by
  rw [fresh, ← List.isEmpty_eq_false_iff] at h
  unfold courseFrom
  simp only [h]
  rfl

theorem courseFrom_succ (h : p.fresh seen sources ≠ []) {r : Round} {own : List Diagnostic} {s' : σ}
    (hfound : r.found = p.fresh seen sources)
    (hround : (p.generator.runRound emit r.found).run s = (⟨own, r.result⟩, s')) :
    (p.courseFrom emit (left + 1) seen sources).run s =
      match r.next with
      | .error failure => (⟨[r], p.markerDiagnostics sources ++ own, .error failure⟩, s')
      | .ok next =>
        let rest := (p.courseFrom emit left (seen ++ r.identities) next).run s'
        (rest.1.behind r (p.markerDiagnostics sources ++ own), rest.2) := by
  obtain ⟨found, result⟩ := r
  obtain rfl : found = p.fresh seen sources := hfound
  rw [fresh, ← List.isEmpty_eq_false_iff] at h
  rw [courseFrom]
  simp only [h, Bool.false_eq_true, ↓reduceIte]
  rw [← fresh, run_bind_of_eq hround]
  cases (Round.mk (p.fresh seen sources) result).next <;> rfl

/-- A run does what the rules say. -/
theorem runs_courseFrom : Runs p emit left seen sources s
    ((p.courseFrom emit left seen sources).run s).1
    ((p.courseFrom emit left seen sources).run s).2 := by
  induction left generalizing seen sources s with
  | zero =>
    by_cases h : p.fresh seen sources = []
    · rw [courseFrom_of_settled h]
      exact .settled h
    · rw [courseFrom_zero h]
      exact .exhausted h
  | succ left ih =>
    by_cases h : p.fresh seen sources = []
    · rw [courseFrom_of_settled h]
      exact .settled h
    · obtain ⟨⟨⟨own, result⟩, s'⟩, hround⟩ :
          ∃ x, (p.generator.runRound emit (p.fresh seen sources)).run s = x := ⟨_, rfl⟩
      let r : Round := ⟨p.fresh seen sources, result⟩
      rw [courseFrom_succ h (r := r) rfl hround]
      cases hnext : r.next with
      | error failure => exact .failed rfl h hround hnext
      | ok next => exact .round rfl h hround hnext ih

/-- The rules leave a run no choice. -/
theorem Runs.courseFrom_eq {c : Course} {s' : σ} (h : Runs p emit left seen sources s c s') :
    (p.courseFrom emit left seen sources).run s = (c, s') := by
  induction h with
  | settled hfresh => exact courseFrom_of_settled hfresh
  | exhausted hfresh => exact courseFrom_zero hfresh
  | failed hfound hne hround hnext => rw [courseFrom_succ (hfound ▸ hne) hfound hround, hnext]
  | round hfound hne hround hnext _ ih =>
    rw [courseFrom_succ (hfound ▸ hne) hfound hround, hnext]
    simp only [ih]

/-- **A run takes the course that the rules give, and no other.** -/
theorem runs_iff {c : Course} {s' : σ} : Runs p emit left seen sources s c s' ↔
    (p.courseFrom emit left seen sources).run s = (c, s') := by
  refine ⟨Runs.courseFrom_eq, fun h => ?_⟩
  have hruns : Runs p emit left seen sources s _ _ := runs_courseFrom
  rwa [h] at hruns

theorem Runs.unique {c c' : Course} {s' s'' : σ} (h : Runs p emit left seen sources s c s')
    (h' : Runs p emit left seen sources s c' s'') : c = c' ∧ s' = s'' :=
  Prod.mk.inj (h.courseFrom_eq.symm.trans h'.courseFrom_eq)

theorem Runs.run_eq {c : Course} {s' : σ} (h : Runs p emit p.rounds [] sources s c s') :
    (p.run emit sources).run s = (c.reported, s') := by
  change (((p.course emit sources).run s).1.reported, ((p.course emit sources).run s).2) = _
  rw [course, h.courseFrom_eq]

end RunPlan

theorem Course.reported_eq_error_iff {c : Course} {failure : Failure} :
    c.reported.result = .error failure ↔ c.result = .error failure := by
  rw [reported]
  cases c.result <;> simp [Except.map]

theorem Round.of_next_eq_ok {r : Round} {next : List SourceFile} (h : r.next = .ok next) :
    r.result = .ok r.units ∧ r.units.mapM GeneratedUnit.source = .ok next := by
  obtain ⟨found, result⟩ := r
  cases result with
  | error failure => cases h
  | ok units => exact ⟨rfl, h⟩

/-! ### Reading sources -/

theorem readSource_eq_ok {path : PathName} {ns : Namespace} {text : String} {s : SourceFile}
    (h : readSource path ns text = .ok s) : SourceFile.parse path ns text = .ok s := by
  unfold readSource at h
  cases hparse : SourceFile.parse path ns text with
  | error e =>
    rw [hparse] at h
    cases h
  | ok s =>
    rw [hparse] at h
    cases h
    rfl

theorem readSource_eq_error {path : PathName} {ns : Namespace} {text : String} {failure : Failure}
    (h : readSource path ns text = .error failure) :
    ∃ e, SourceFile.parse path ns text = .error e ∧ failure = .badSource path e := by
  unfold readSource at h
  cases hparse : SourceFile.parse path ns text with
  | error e =>
    rw [hparse] at h
    cases h
    exact ⟨e, rfl, rfl⟩
  | ok s =>
    rw [hparse] at h
    cases h

/-! ### Writing down what is emitted -/

/-- The emitter that also writes down what it is given. -/
def Emitter.logged (emit : Emitter (StateM σ)) : Emitter (StateM (σ × List GeneratedUnit)) :=
  fun name text (s, log) =>
    let (r, s) := (emit name text).run s
    (r, s, log ++ [⟨name, text⟩])

section

variable {emit : Emitter (StateM σ)} {s s' : σ}

theorem emit_logged {u : GeneratedUnit} {result : Except FileError Unit}
    (h : (emit u.name u.text).run s = (result, s')) (log : List GeneratedUnit) :
    (emit.logged u.name u.text).run (s, log) = (result, s', log ++ [u]) := by
  change (((emit u.name u.text).run s).1, ((emit u.name u.text).run s).2, log ++ [u]) = _
  rw [h]

end

end PatternFactory
