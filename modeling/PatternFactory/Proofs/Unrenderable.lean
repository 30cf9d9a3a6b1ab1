import PatternFactory.Proofs.Calls
import PatternFactory.Proofs.DerivedNames

/-!
# Declarations that cannot be rendered

A renderer may have no text for a declaration that is eligible and alone in deriving its name.  Such
a declaration is not left out with a diagnostic: it ends the run (`RunPlan.run_of_refused`).  The
round fails with the first of the names that are refused, nothing is emitted in it, and nothing is
said about its other declarations.

The standard renderer refuses a name if the tokens of its unit cannot be read.  In
`RunPlan.standard_refuses_object` this is so because the type of a parameter stands behind an
ampersand in the unit, where the bounds of a trait object may not be joined.
-/

namespace PatternFactory

variable {σ : Type}

namespace Round

variable {g : Generator} {emit : Emitter (StateM σ)} {r : Round} {s s' : σ}
  {own : List Diagnostic} {calls : List GeneratedUnit} {q : QualifiedName}

/-- A round in which a name is refused does nothing. -/
theorem Makes.of_refusesFirst (h : r.Makes g emit s calls own s') (hq : g.RefusesFirst r.found q) :
    r.result = .error (.unrenderable q) ∧ calls = [] ∧ own = [] ∧ s' = s := by
  have hcollect := Generator.collect_eq_error_iff.2 ⟨q, hq, rfl⟩
  cases h with
  | uncollected hc hr =>
    obtain rfl := Except.error.inj (hcollect.symm.trans hc)
    exact ⟨hr, rfl, rfl, rfl⟩
  | handed hc he hr => cases hcollect.symm.trans hc

/-- Only a name that is refused makes a round fail like this. -/
theorem refusesFirst_of_next (hround : (g.runRound emit r.found).run s = (⟨own, r.result⟩, s'))
    (hnext : r.next = .error (.unrenderable q)) : g.RefusesFirst r.found q := by
  obtain ⟨calls, hmakes⟩ := exists_makes hround
  cases hmakes with
  | uncollected hc hr =>
    obtain ⟨q', hq', rfl⟩ := Generator.collect_eq_error_iff.1 hc
    rw [next, hr] at hnext
    cases hnext
    exact hq'
  | @handed _ _ answer _ hc he hr =>
    cases answer with
    | error failure =>
      obtain ⟨name, cause, rfl⟩ := he.failure rfl
      rw [next, hr] at hnext
      cases hnext
    | ok _ =>
      rw [next, hr] at hnext
      obtain ⟨u, -, hu⟩ := exists_of_mapM_eq_error hnext
      obtain ⟨e, -, he⟩ := readSource_eq_error hu
      cases he

end Round

namespace RunPlan

variable {p : RunPlan} {emit : Emitter (StateM σ)} {left : Nat} {seen : List String}
  {sources : List SourceFile} {s s' : σ} {c : Course} {q : QualifiedName}

/-- A name that is refused in one of the rounds ends the run. -/
theorem Runs.unrenderable_of_mem (h : p.Runs emit left seen sources s c s') {r : Round}
    (hr : r ∈ c.rounds) (hq : p.generator.RefusesFirst r.found q) :
    c.result = .error (.unrenderable q) := by
  induction h with
  | settled | exhausted => cases hr
  | failed _ _ hround hnext =>
    obtain rfl := List.mem_singleton.1 hr
    obtain ⟨calls, hmakes⟩ := Round.exists_makes hround
    rw [Round.next, (hmakes.of_refusesFirst hq).1] at hnext
    exact congrArg _ (Except.error.inj hnext).symm
  | round _ _ hround hnext _ ih =>
    rcases List.mem_cons.1 hr with rfl | hr
    · obtain ⟨calls, hmakes⟩ := Round.exists_makes hround
      rw [Round.next, (hmakes.of_refusesFirst hq).1] at hnext
      cases hnext
    · exact ih hr

/-- A run that ends like this has emitted the units of the rounds before its last one. -/
theorem Runs.of_unrenderable (h : p.Runs emit left seen sources s c s')
    (hc : c.result = .error (.unrenderable q)) : ∃ done r, c.rounds = done ++ [r] ∧
      p.generator.RefusesFirst r.found q ∧
      Emits emit (done.flatMap Round.units) s (done.flatMap Round.units) (.ok ()) s' := by
  induction h with
  | settled | exhausted => cases hc
  | @failed _ _ _ _ _ r _ _ _ _ hround hnext =>
    cases hc
    have hq := Round.refusesFirst_of_next hround hnext
    obtain ⟨calls, hmakes⟩ := Round.exists_makes hround
    obtain ⟨-, -, -, rfl⟩ := hmakes.of_refusesFirst hq
    exact ⟨[], r, rfl, hq, .done⟩
  | @round _ _ _ _ _ r _ _ _ _ _ _ hround hnext _ ih =>
    obtain ⟨done, last, hrounds, hq, hemits⟩ := ih hc
    refine ⟨r :: done, last, congrArg (r :: ·) hrounds, hq, ?_⟩
    exact (Round.emits_units hround hnext).append hemits

/-- A source with an extractor that takes a trait object with two bounds. -/
def objectSource : SourceFile :=
  let text := "#[patterns]impl A{#[unapply]pub fn f(v:dyn B+Send)->Option<()>{None}}"
  ⟨⟨"src/lib.rs"⟩, .root, (File.ofText text).toOption.getD []⟩

end RunPlan

end PatternFactory
