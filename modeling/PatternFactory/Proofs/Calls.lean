import PatternFactory.Generation.Store
import PatternFactory.Proofs.Collecting
import PatternFactory.Proofs.Course

/-!
# What a run asks of its emitter

`Emits` says what comes of handing units to an emitter: which of them it is called with, and how
that ends.  The calls are the first of the units, and all of them if none is refused.

A run makes its calls round by round.  `RunPlan.Runs.exists_calls` gives the calls of each round:
they are the first of the units that are collected in it, in the order of their names, and all of
them if the round does not fail.
-/

namespace PatternFactory

variable {σ : Type}

/-! ### Handing over units -/

/-- Units are handed to an emitter one after the other.  It is called with some of them, and from
one state it comes into another. -/
inductive Emits (emit : Emitter (StateM σ)) :
    List GeneratedUnit → σ → List GeneratedUnit → Except Failure Unit → σ → Prop
  /-- No unit is left. -/
  | done {s} : Emits emit [] s [] (.ok ()) s
  /-- A unit is refused, and no other is handed over. -/
  | refused {u rest s cause s'} (hu : (emit u.name u.text).run s = (.error cause, s')) :
      Emits emit (u :: rest) s [u] (.error (.emission u.name cause)) s'
  /-- A unit is taken, and the rest follows. -/
  | taken {u rest s s' calls result s''} (hu : (emit u.name u.text).run s = (.ok (), s'))
      (hrest : Emits emit rest s' calls result s'') :
      Emits emit (u :: rest) s (u :: calls) result s''

section

variable {emit : Emitter (StateM σ)} {units calls : List GeneratedUnit} {s s' : σ}
  {result : Except Failure Unit}

theorem Emits.emitAll_eq (h : Emits emit units s calls result s') :
    (emitAll emit units).run s = (result, s') := by
  induction h with
  | done => exact emitAll_nil
  | refused hu => exact emitAll_cons_of_error hu
  | taken hu _ ih => rw [emitAll_cons_of_ok hu, ih]

/-- Whatever comes of handing over units, there are the calls that lead there. -/
theorem exists_emits (h : (emitAll emit units).run s = (result, s')) :
    ∃ calls, Emits emit units s calls result s' := by
  induction units generalizing s with
  | nil =>
    obtain ⟨rfl, rfl⟩ := Prod.mk.inj (emitAll_nil.symm.trans h)
    exact ⟨[], .done⟩
  | cons u rest ih =>
    obtain ⟨⟨answer, s₁⟩, hu⟩ : ∃ x, (emit u.name u.text).run s = x := ⟨_, rfl⟩
    cases answer with
    | error cause =>
      rw [emitAll_cons_of_error hu] at h
      obtain ⟨rfl, rfl⟩ := Prod.mk.inj h
      exact ⟨[u], .refused hu⟩
    | ok _ =>
      rw [emitAll_cons_of_ok hu] at h
      obtain ⟨calls, hcalls⟩ := ih h
      exact ⟨u :: calls, .taken hu hcalls⟩

theorem Emits.calls_prefix (h : Emits emit units s calls result s') : calls <+: units := by
  induction h with
  | done => exact List.prefix_refl _
  | refused => exact ⟨_, rfl⟩
  | taken _ _ ih => exact List.cons_prefix_cons.2 ⟨rfl, ih⟩

theorem Emits.calls_eq (h : Emits emit units s calls (.ok ()) s') : calls = units := by
  generalize hok : Except.ok () = result at h
  induction h with
  | done => rfl
  | refused => cases hok
  | taken _ _ ih => rw [ih hok]

theorem Emits.failure (h : Emits emit units s calls result s') {failure : Failure}
    (herror : result = .error failure) : ∃ name cause, failure = .emission name cause := by
  induction h with
  | done => cases herror
  | refused =>
    cases herror
    exact ⟨_, _, rfl⟩
  | taken _ _ ih => exact ih herror

/-- Writing down the calls changes nothing. -/
theorem Emits.logged (h : Emits emit units s calls result s') (log : List GeneratedUnit) :
    Emits emit.logged units (s, log) calls result (s', log ++ calls) := by
  induction h generalizing log with
  | done =>
    rw [List.append_nil]
    exact .done
  | refused hu => exact .refused (emit_logged hu log)
  | @taken u _ _ _ calls _ _ hu _ ih =>
    rw [List.append_cons log u calls]
    exact .taken (emit_logged hu log) (ih (log ++ [u]))

/-- Units that are all taken can be handed over in two parts. -/
theorem Emits.append {more : List GeneratedUnit} {s'' : σ}
    (h : Emits emit units s units (.ok ()) s')
    (h' : Emits emit more s' more (.ok ()) s'') :
    Emits emit (units ++ more) s (units ++ more) (.ok ()) s'' := by
  induction units generalizing s with
  | nil =>
    cases h
    exact h'
  | cons u rest ih =>
    cases h with
    | taken hu hrest => exact .taken hu (ih hrest)

end

/-! ### Units in memory -/

namespace UnitStore

variable {st st' : UnitStore} {u : GeneratedUnit}

theorem run_emitter_of_new (h : st.contains u.name = false) :
    ((UnitStore.emitter : Emitter (StateM UnitStore)) u.name u.text).run st =
      (.ok (), ⟨st.arrived ++ [u]⟩) := by
  change UnitStore.emitter (m := Id) u.name u.text st = _
  rw [emitter, insert, h]
  rfl

theorem run_emitter_of_contains (h : st.contains u.name = true) :
    ((UnitStore.emitter : Emitter (StateM UnitStore)) u.name u.text).run st =
      (.error (.alreadyEmitted u.name), st) := by
  change UnitStore.emitter (m := Id) u.name u.text st = _
  rw [emitter, insert, h]
  rfl

theorem contains_eq_false_iff {q : QualifiedName} :
    st.contains q = false ↔ q ∉ st.arrived.map GeneratedUnit.name := by
  simp [contains]

/-- What it comes to that a store takes a unit. -/
theorem of_run_emitter
    (h : ((UnitStore.emitter : Emitter (StateM UnitStore)) u.name u.text).run st = (.ok (), st')) :
    u.name ∉ st.arrived.map GeneratedUnit.name ∧ st' = ⟨st.arrived ++ [u]⟩ := by
  cases hc : st.contains u.name with
  | false =>
    rw [run_emitter_of_new hc] at h
    exact ⟨contains_eq_false_iff.1 hc, (Prod.mk.inj h).2.symm⟩
  | true =>
    rw [run_emitter_of_contains hc] at h
    cases (Prod.mk.inj h).1

/-- The store holds what it took, in the order of the calls. -/
theorem arrived_of_emits {units : List GeneratedUnit}
    (h : Emits (UnitStore.emitter : Emitter (StateM UnitStore)) units st units (.ok ()) st') :
    st'.arrived = st.arrived ++ units := by
  induction units generalizing st with
  | nil =>
    cases h
    rw [List.append_nil]
  | cons u rest ih =>
    cases h with
    | taken hu hrest =>
      obtain ⟨-, rfl⟩ := of_run_emitter hu
      rw [ih hrest, List.append_assoc]
      rfl

end UnitStore

/-! ### The calls of a round -/

namespace Generator

variable {g : Generator} {found : List MarkedDeclaration}

/-- The units that are collected, if the collection does not fail. -/
def collected (g : Generator) (found : List MarkedDeclaration) : List GeneratedUnit :=
  match g.collect found with
  | .ok c => c.units
  | .error _ => []

theorem collected_of_ok {c : Collection} (h : g.collect found = .ok c) :
    g.collected found = c.units := by
  rw [collected, h]

theorem pairwise_collected :
    ((g.collected found).map GeneratedUnit.name).Pairwise fun a b => compare a b = .lt := by
  cases h : g.collect found with
  | error failure => simp [collected, h]
  | ok c =>
    rw [collected_of_ok h]
    exact pairwise_units h

theorem collect_failure {failure : Failure} (h : g.collect found = .error failure) :
    ∃ name, failure = .unrenderable name := by
  obtain ⟨q, -, hq⟩ := collect_eq_error_iff.1 h
  exact ⟨q, hq⟩

end Generator

namespace Round

/-- The emitter is called with these units in the round: with the first of those that are collected,
and with all of them if the round does not fail. -/
structure Calls (g : Generator) (r : Round) (calls : List GeneratedUnit) : Prop where
  collected : calls <+: g.collected r.found
  complete : ∀ units, r.result = .ok units → calls = units

theorem Calls.pairwise {g : Generator} {r : Round} {calls : List GeneratedUnit}
    (h : r.Calls g calls) :
    (calls.map GeneratedUnit.name).Pairwise fun a b => compare a b = .lt :=
  Generator.pairwise_collected.sublist (h.collected.sublist.map _)

/-- The units of a round are collected in it. -/
theorem Calls.units_subset {g : Generator} {r : Round} {calls : List GeneratedUnit}
    (h : r.Calls g calls) : r.units ⊆ g.collected r.found := by
  obtain ⟨found, result⟩ := r
  cases result with
  | error failure => exact List.nil_subset _
  | ok units => exact h.complete units rfl ▸ h.collected.subset

/-- What a round does with an emitter: the calls that it makes, its diagnostics, and the state in
which it leaves the emitter. -/
inductive Makes (g : Generator) (emit : Emitter (StateM σ)) (r : Round) (s : σ) :
    List GeneratedUnit → List Diagnostic → σ → Prop
  /-- The units cannot be collected. -/
  | uncollected {failure} (hc : g.collect r.found = .error failure)
      (hr : r.result = .error failure) : Makes g emit r s [] [] s
  /-- They are collected and handed over. -/
  | handed {c calls answer s'} (hc : g.collect r.found = .ok c)
      (he : Emits emit c.units s calls answer s') (hr : r.result = answer.map fun _ => c.units) :
      Makes g emit r s calls c.diagnostics s'

section

variable {g : Generator} {emit : Emitter (StateM σ)} {r : Round} {s s' : σ}
  {own : List Diagnostic} {calls : List GeneratedUnit} {failure : Failure}

theorem exists_makes (h : (g.runRound emit r.found).run s = (⟨own, r.result⟩, s')) :
    ∃ calls, r.Makes g emit s calls own s' := by
  obtain ⟨found, result⟩ := r
  cases hc : g.collect found with
  | error failure =>
    rw [Generator.runRound_of_error hc] at h
    cases h
    exact ⟨[], .uncollected hc rfl⟩
  | ok c =>
    obtain ⟨⟨answer, s₁⟩, he⟩ : ∃ x, (emitAll emit c.units).run s = x := ⟨_, rfl⟩
    rw [Generator.runRound_of_ok hc, he] at h
    cases h
    obtain ⟨calls, hcalls⟩ := exists_emits he
    exact ⟨calls, .handed hc hcalls rfl⟩

theorem Makes.run_eq (h : r.Makes g emit s calls own s') :
    (g.runRound emit r.found).run s = (⟨own, r.result⟩, s') := by
  cases h with
  | uncollected hc hr => rw [Generator.runRound_of_error hc, hr]
  | handed hc he hr => rw [Generator.runRound_of_ok hc, he.emitAll_eq, hr]

theorem Makes.toCalls (h : r.Makes g emit s calls own s') : r.Calls g calls := by
  cases h with
  | uncollected hc hr => exact ⟨List.nil_prefix, by rw [hr]; nofun⟩
  | @handed _ _ answer _ hc he hr =>
    refine ⟨Generator.collected_of_ok hc ▸ he.calls_prefix, fun units hunits => ?_⟩
    rw [hr] at hunits
    cases answer with
    | error _ => cases hunits
    | ok _ =>
      cases hunits
      exact he.calls_eq

/-- Writing down the calls of a round changes nothing. -/
theorem Makes.logged (h : r.Makes g emit s calls own s') (log : List GeneratedUnit) :
    r.Makes g emit.logged (s, log) calls own (s', log ++ calls) := by
  cases h with
  | uncollected hc hr =>
    rw [List.append_nil]
    exact .uncollected hc hr
  | handed hc he hr => exact .handed hc (he.logged log) hr

/-- Why a round may fail, or why its units cannot be the sources of another. -/
theorem failure_cases (hround : (g.runRound emit r.found).run s = (⟨own, r.result⟩, s'))
    (hnext : r.next = .error failure) :
    (∃ name, failure = .unrenderable name) ∨ (∃ name cause, failure = .emission name cause) ∨
      ∃ path e, failure = .badSource path e := by
  cases hr : r.result with
  | ok units =>
    rw [next, hr] at hnext
    obtain ⟨u, -, hu⟩ := exists_of_mapM_eq_error hnext
    obtain ⟨e, -, rfl⟩ := readSource_eq_error hu
    exact .inr (.inr ⟨_, _, rfl⟩)
  | error e =>
    rw [next, hr] at hnext
    cases hnext
    obtain ⟨calls, hmakes⟩ := exists_makes hround
    cases hmakes with
    | uncollected hc hresult =>
      rw [hr] at hresult
      cases hresult
      exact .inl (Generator.collect_failure hc)
    | @handed _ _ answer _ _ he hresult =>
      rw [hr] at hresult
      cases answer with
      | ok _ => cases hresult
      | error _ =>
        cases hresult
        exact .inr (.inl (he.failure rfl))

/-- A round does not fail because no round is left. -/
theorem failure_ne_roundLimit
    (hround : (g.runRound emit r.found).run s = (⟨own, r.result⟩, s'))
    (hnext : r.next = .error failure) (rounds : Nat) (marker : String) :
    failure ≠ .roundLimit rounds marker := by
  rintro rfl
  rcases failure_cases hround hnext with ⟨_, h⟩ | ⟨_, _, h⟩ | ⟨_, _, h⟩ <;> cases h

/-- A round that does not fail has handed over its units, and all of them were taken. -/
theorem emits_units {next : List SourceFile}
    (hround : (g.runRound emit r.found).run s = (⟨own, r.result⟩, s')) (hnext : r.next = .ok next) :
    Emits emit r.units s r.units (.ok ()) s' := by
  have hr := (of_next_eq_ok hnext).1
  obtain ⟨calls, hmakes⟩ := exists_makes hround
  cases hmakes with
  | uncollected _ hresult =>
    rw [hr] at hresult
    cases hresult
  | @handed c _ answer _ _ he hresult =>
    rw [hr] at hresult
    cases answer with
    | error _ => cases hresult
    | ok _ =>
      have hunits : r.units = c.units := Except.ok.inj hresult
      obtain rfl := he.calls_eq
      rwa [hunits]

end

/-- The calls of rounds that do not fail are their units, and those of the rounds behind follow. -/
theorem flatten_calls {g : Generator} {rounds more : List Round}
    {parts : List (List GeneratedUnit)} (h : List.Forall₂ (Round.Calls g) (rounds ++ more) parts)
    (hok : ∀ r ∈ rounds, r.result = .ok r.units) :
    ∃ rest, List.Forall₂ (Round.Calls g) more rest ∧
      parts.flatten = rounds.flatMap Round.units ++ rest.flatten := by
  induction rounds generalizing parts with
  | nil => exact ⟨parts, h, rfl⟩
  | cons r rounds ih =>
    obtain ⟨hr, hrounds⟩ := List.forall_mem_cons.1 hok
    cases h with
    | cons hcalls hparts =>
      obtain ⟨rest, hrest, hflatten⟩ := ih hparts hrounds
      refine ⟨rest, hrest, ?_⟩
      rw [List.flatten_cons, List.flatMap_cons, hcalls.complete _ hr, hflatten, List.append_assoc]

theorem flatten_calls_of_done {g : Generator} {rounds : List Round}
    {parts : List (List GeneratedUnit)} (h : List.Forall₂ (Round.Calls g) rounds parts)
    (hok : ∀ r ∈ rounds, r.result = .ok r.units) :
    parts.flatten = rounds.flatMap Round.units := by
  rw [← List.append_nil rounds] at h
  obtain ⟨rest, hrest, hflatten⟩ := flatten_calls h hok
  cases hrest
  simpa using hflatten

end Round

/-! ### The calls of a run -/

namespace RunPlan

variable {p : RunPlan} {emit : Emitter (StateM σ)} {left : Nat} {seen : List String}
  {sources : List SourceFile} {s s' : σ} {c : Course}

/-- **The calls of a run**, round by round; writing them down changes nothing for the run. -/
theorem Runs.exists_calls (h : p.Runs emit left seen sources s c s') :
    ∃ parts, List.Forall₂ (Round.Calls p.generator) c.rounds parts ∧
      ∀ log, p.Runs emit.logged left seen sources (s, log) c (s', log ++ parts.flatten) := by
  induction h with
  | settled hfresh => exact ⟨[], .nil, fun log => by simpa using .settled hfresh⟩
  | exhausted hfresh => exact ⟨[], .nil, fun log => by simpa using .exhausted hfresh⟩
  | failed hfound hne hround hnext =>
    obtain ⟨calls, hmakes⟩ := Round.exists_makes hround
    refine ⟨[calls], .cons hmakes.toCalls .nil, fun log => ?_⟩
    rw [List.flatten_singleton]
    exact .failed hfound hne (hmakes.logged log).run_eq hnext
  | round hfound hne hround hnext _ ih =>
    obtain ⟨calls, hmakes⟩ := Round.exists_makes hround
    obtain ⟨parts, hparts, hrest⟩ := ih
    refine ⟨calls :: parts, .cons hmakes.toCalls hparts, fun log => ?_⟩
    rw [List.flatten_cons, ← List.append_assoc]
    exact .round hfound hne (hmakes.logged log).run_eq hnext (hrest _)

/-- What a plan does, together with its calls. -/
theorem exists_run (p : RunPlan) (emit : Emitter (StateM σ)) (sources : List SourceFile) (s : σ) :
    ∃ c s' parts, p.Runs emit p.rounds [] sources s c s' ∧
      p.Runs emit.logged p.rounds [] sources (s, []) c (s', parts.flatten) ∧
      (p.run emit sources).run s = (c.reported, s') ∧
      ((p.course emit sources).run s).1.rounds = c.rounds ∧
      ((p.run emit.logged sources).run (s, [])).2.2 = parts.flatten ∧
      List.Forall₂ (Round.Calls p.generator) c.rounds parts := by
  obtain ⟨⟨c, s'⟩, hc⟩ : ∃ x, (p.course emit sources).run s = x := ⟨_, rfl⟩
  have hruns : p.Runs emit p.rounds [] sources s c s' := runs_iff.2 hc
  obtain ⟨parts, hparts, hlogged⟩ := hruns.exists_calls
  have hlogged := hlogged []
  rw [List.nil_append] at hlogged
  exact ⟨c, s', parts, hruns, hlogged, hruns.run_eq, by rw [hc], congrArg (·.2.2) hlogged.run_eq,
    hparts⟩

theorem exists_rounds_eq (p : RunPlan) : ∃ left, p.rounds = left + 1 :=
  Nat.exists_eq_add_one.2 (Nat.le_max_left 1 p.roundLimit)

/-- If the units of the first round cannot be collected, nothing else happens. -/
theorem Runs.of_collect_eq_error {failure : Failure}
    (h : p.generator.collect (p.fresh [] sources) = .error failure) :
    p.Runs emit p.rounds [] sources s ⟨[⟨p.fresh [] sources, .error failure⟩],
      p.markerDiagnostics sources, .error failure⟩ s := by
  have hne : p.fresh [] sources ≠ [] := fun hnil => by
    obtain ⟨q, ⟨⟨d, ⟨before, after, hfound, -⟩, -⟩, -⟩, -⟩ := Generator.collect_eq_error_iff.1 h
    simp [hnil] at hfound
  let r : Round := ⟨p.fresh [] sources, .error failure⟩
  have hmakes : r.Makes p.generator emit s [] [] s := .uncollected h rfl
  have hruns : p.Runs emit (p.exists_rounds_eq.choose + 1) [] sources s
      ⟨[r], p.markerDiagnostics sources ++ [], .error failure⟩ s :=
    .failed rfl hne hmakes.run_eq rfl
  rwa [← p.exists_rounds_eq.choose_spec, List.append_nil] at hruns

/-- A run either ends with the failure of its last round, or all its rounds are done. -/
theorem Runs.rounds_done (h : p.Runs emit left seen sources s c s')
    (hc : c.result = .ok () ∨ c.result = .error (.roundLimit p.rounds p.marker)) :
    (∀ r ∈ c.rounds, r.result = .ok r.units) ∧
      Emits emit (c.rounds.flatMap Round.units) s (c.rounds.flatMap Round.units) (.ok ()) s' := by
  induction h with
  | settled => exact ⟨nofun, .done⟩
  | exhausted => exact ⟨nofun, .done⟩
  | failed _ _ hround hnext =>
    -- the failure of a round is neither of the two ends
    rcases hc with hc | hc
    · cases hc
    · exact absurd (Except.error.inj hc) (Round.failure_ne_roundLimit hround hnext _ _)
  | round _ _ hround hnext _ ih =>
    obtain ⟨hrest, hemits⟩ := ih hc
    exact ⟨List.forall_mem_cons.2 ⟨(Round.of_next_eq_ok hnext).1, hrest⟩,
      (Round.emits_units hround hnext).append hemits⟩

/-- **Writing down what is emitted changes nothing for a run**, and after a run that ends well the
units of its rounds are what was written down. -/
theorem runs_logged (h : p.Runs emit left seen sources s c s') (log : List GeneratedUnit) :
    ∃ calls, p.Runs emit.logged left seen sources (s, log) c (s', log ++ calls) ∧
      (c.result = .ok () → calls = c.rounds.flatMap Round.units) := by
  obtain ⟨parts, hparts, hlogged⟩ := h.exists_calls
  exact ⟨parts.flatten, hlogged log, fun hok =>
    Round.flatten_calls_of_done hparts (h.rounds_done (.inl hok)).1⟩

end RunPlan

end PatternFactory
