import PatternFactory.Diagnostic
import PatternFactory.Proofs.Order

/-!
# The order of diagnostics

Diagnostics are listed by what they are about, how bad that is and what they say.  Those that agree
in all of this (`Diagnostic.Alike`) stay in the order of their arrival, which they may do for two
reasons: the order does not look at the rule that is violated, and it takes files for the places
that they name, not for the texts of their path names.

So the list depends on the order of arrival for nothing else (`Diagnostic.sorted_of_perm`).  It does
not depend on it at all just when diagnostics that are alike are equal.
-/

namespace PatternFactory

open Std

/-! ### Total preorders -/

instance : TransOrd Severity :=
  inferInstanceAs (TransCmp (compareOn Severity.rank))

instance : LawfulEqOrd Severity where
  compare_self := ReflOrd.compare_self
  eq_of_compare {a b} h := by
    have hrank : a.rank = b.rank := LawfulEqOrd.eq_of_compare h
    cases a <;> cases b <;> first | rfl | cases hrank

namespace Attribution

/-- Optional names are compared as optional texts are. -/
theorem compareFunction_eq : compareFunction = (compare : Option String → _ → _) := by
  funext a b
  cases a <;> cases b <;> rfl

theorem compare_eq : (compare : Attribution → Attribution → Ordering) =
    compareLex (compareOn declaration) (compareLex (compareOn function) (compareOn origin)) := by
  funext a b
  change Ordering.then _ (Ordering.then (compareFunction _ _) _) = _
  rw [compareFunction_eq]
  rfl

instance : TransOrd Attribution := by
  rw [TransOrd, compare_eq]
  infer_instance

end Attribution

namespace Diagnostic

instance : TransCmp order :=
  inferInstanceAs (TransCmp (compareLex (compareOn attribution)
    (compareLex (compareOn severity) (compareOn message))))

/-! ### What the order looks at -/

/-- The diagnostics say the same of one place.  The rule may be another. -/
structure Alike (a b : Diagnostic) : Prop where
  severity : a.severity = b.severity
  message : a.message = b.message
  declaration : a.attribution.declaration = b.attribution.declaration
  function : a.attribution.function = b.attribution.function
  file : a.attribution.origin.file.same b.attribution.origin.file
  line : a.attribution.origin.line = b.attribution.origin.line

/-- **Diagnostics compare equal just when they are alike.** -/
theorem order_eq_iff {a b : Diagnostic} : order a b = .eq ↔ a.Alike b := by
  have horigin : compare a.attribution.origin b.attribution.origin = .eq ↔
      a.attribution.origin.file.same b.attribution.origin.file ∧
        a.attribution.origin.line = b.attribution.origin.line := by
    rw [← PathName.compare_eq_iff, ← LawfulEqOrd.compare_eq_iff_eq (α := Nat)]
    exact Ordering.then_eq_eq
  have hattribution : compare a.attribution b.attribution = .eq ↔
      a.attribution.declaration = b.attribution.declaration ∧
        a.attribution.function = b.attribution.function ∧
        compare a.attribution.origin b.attribution.origin = .eq := by
    rw [Attribution.compare_eq, compareLex_eq_eq, compareLex_eq_eq]
    simp only [compareOn, LawfulEqOrd.compare_eq_iff_eq]
  rw [order, Ordering.then_eq_eq, Ordering.then_eq_eq, hattribution, horigin]
  simp only [LawfulEqOrd.compare_eq_iff_eq]
  constructor
  · rintro ⟨⟨hdeclaration, hfunction, hfile, hline⟩, hseverity, hmessage⟩
    exact ⟨hseverity, hmessage, hdeclaration, hfunction, hfile, hline⟩
  · rintro ⟨hseverity, hmessage, hdeclaration, hfunction, hfile, hline⟩
    exact ⟨⟨hdeclaration, hfunction, hfile, hline⟩, hseverity, hmessage⟩

theorem alike_equivalence : Equivalence Alike := by
  simp only [funext fun a => funext fun b => propext (order_eq_iff (a := a) (b := b)).symm]
  exact ⟨fun _ => ReflCmp.compare_self, OrientedCmp.eq_symm, TransCmp.eq_trans⟩

/-- The diagnostics agree in every field, where a file is the place that is named. -/
structure Same (a b : Diagnostic) : Prop extends Alike a b where
  rule : a.rule = b.rule

theorem same_iff {a b : Diagnostic} (h : a.Alike b) : a.Same b ↔ a.rule = b.rule :=
  ⟨Same.rule, fun hrule => ⟨h, hrule⟩⟩

theorem same_equivalence : Equivalence Same where
  refl a := ⟨alike_equivalence.refl a, rfl⟩
  symm h := ⟨alike_equivalence.symm h.toAlike, h.rule.symm⟩
  trans h h' := ⟨alike_equivalence.trans h.toAlike h'.toAlike, h.rule.trans h'.rule⟩

/-! ### The order of arrival -/

/-- **What the list of diagnostics owes to the order of their arrival.**  It holds the diagnostics
that arrived, and in another order of arrival it says the same line by line, up to rules and the
texts of path names.  In every field it is the same in all orders of arrival just when diagnostics
that are alike violate one rule, and it is equal, texts of path names included, just when they are
equal. -/
theorem sorted_of_perm (ds : List Diagnostic) :
    (sorted ds).Perm ds ∧
    (∀ ds', ds.Perm ds' → List.Forall₂ Alike (sorted ds) (sorted ds')) ∧
    ((∀ ds', ds.Perm ds' → List.Forall₂ Same (sorted ds) (sorted ds')) ↔
      ∀ a ∈ ds, ∀ b ∈ ds, a.Alike b → a.rule = b.rule) ∧
    ((∀ ds', ds.Perm ds' → sorted ds = sorted ds') ↔
      ∀ a ∈ ds, ∀ b ∈ ds, a.Alike b → a = b) := by
  refine ⟨List.mergeSort_perm _ _, fun ds' hperm => ?_, ?_, ?_⟩
  · have halike : List.Forall₂ (fun a b => order a b = .eq) (sorted ds) (sorted ds') :=
      forall₂_mergeSort_of_perm hperm
    exact halike.imp fun _ _ => order_eq_iff.1
  · refine (forall₂_mergeSort_iff same_equivalence fun h => order_eq_iff.2 h.toAlike).trans ?_
    simp only [order_eq_iff]
    refine forall₂_congr fun a _ => forall₂_congr fun b _ => ?_
    exact forall_congr' same_iff
  · simp only [← List.forall₂_eq_eq_eq]
    refine (forall₂_mergeSort_iff eq_equivalence fun h => h ▸ ReflCmp.compare_self).trans ?_
    simp only [order_eq_iff]

/-- Diagnostics that are all alike stay in the order of their arrival. -/
theorem sorted_of_alike {ds : List Diagnostic} (h : ∀ a ∈ ds, ∀ b ∈ ds, a.Alike b) :
    sorted ds = ds :=
  List.mergeSort_of_pairwise <| List.pairwise_of_forall_mem_list fun a ha b hb =>
    Ordering.isLE_of_eq_eq (order_eq_iff.2 (h a ha b hb))

/-- Two diagnostics that say the same of one place, but only one of them violates a rule. -/
theorem sorted_by_arrival :
    let a : Diagnostic := ⟨.error, "m", ⟨"A", none, ⟨"src//a.rs"⟩, 1⟩, some "some rule"⟩
    let b : Diagnostic := ⟨.error, "m", ⟨"A", none, ⟨"src/a.rs"⟩, 1⟩, none⟩
    [a, b].Perm [b, a] ∧ sorted [a, b] = [a, b] ∧ sorted [b, a] = [b, a] ∧
      ¬ List.Forall₂ Same (sorted [a, b]) (sorted [b, a]) := by
  intro a b
  have hab : a.Alike b := ⟨rfl, rfl, rfl, rfl, by decide +kernel, rfl⟩
  have hba : b.Alike a := alike_equivalence.symm hab
  have hsorted : sorted [a, b] = [a, b] :=
    sorted_of_alike (by simp [hab, hba, alike_equivalence.refl])
  have hsorted' : sorted [b, a] = [b, a] :=
    sorted_of_alike (by simp [hab, hba, alike_equivalence.refl])
  refine ⟨.swap .., hsorted, hsorted', fun h => ?_⟩
  rw [hsorted, hsorted'] at h
  cases h with
  | cons h _ => cases h.rule

end Diagnostic

end PatternFactory
