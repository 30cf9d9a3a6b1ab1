import PatternFactory.Generation.Round
import PatternFactory.Proofs.List

/-!
# Orders of names and places

The orders of the library are total preorders (`Std.TransOrd`): namespaces and qualified names are
ordered by their names, path names and origins by components.  Qualified names that compare equal
are equal; path names that compare equal have the same components, though perhaps not the same
text.
-/

namespace PatternFactory

open Std

/-! ### Names -/

instance : TransOrd Namespace :=
  inferInstanceAs (TransCmp (compareOn Namespace.segments))

instance : LawfulEqOrd Namespace where
  compare_self := ReflOrd.compare_self (α := List String)
  eq_of_compare {a b} h := by
    have hs : a.segments = b.segments := LawfulEqOrd.eq_of_compare h
    cases a; cases b; cases hs; rfl

instance : TransOrd QualifiedName :=
  inferInstanceAs (TransCmp (compareLex (compareOn QualifiedName.namespace)
    (compareOn QualifiedName.name)))

instance : LawfulEqOrd QualifiedName where
  compare_self := ReflOrd.compare_self
  eq_of_compare {a b} h := by
    obtain ⟨hns, hname⟩ := Ordering.then_eq_eq.1 h
    have h1 : a.namespace = b.namespace := LawfulEqOrd.eq_of_compare hns
    have h2 : a.name = b.name := LawfulEqOrd.eq_of_compare hname
    cases a; cases b; cases h1; cases h2; rfl

/-! ### Places -/

/-- Components are ordered by kind, and plain names among themselves by their text. -/
theorem PathPart.compare_eq :
    (compare : PathPart → PathPart → Ordering) =
      compareLex (compareOn PathPart.rank) (compareOn PathPart.text) := by
  funext a b
  cases a <;> cases b <;> rfl

instance : TransOrd PathPart := by
  rw [TransOrd, PathPart.compare_eq]
  infer_instance

instance : LawfulEqOrd PathPart where
  compare_self := ReflOrd.compare_self
  eq_of_compare {a b} h := by
    rw [PathPart.compare_eq, compareLex_eq_eq] at h
    have hrank : a.rank = b.rank := LawfulEqOrd.eq_of_compare h.1
    have htext : a.text = b.text := LawfulEqOrd.eq_of_compare h.2
    cases a <;> cases b <;> simp_all [PathPart.rank, PathPart.text]

instance : TransOrd PathName :=
  inferInstanceAs (TransCmp (compareOn PathName.components))

theorem PathName.same_iff {a b : PathName} : a.same b ↔ a.components = b.components :=
  beq_iff_eq

/-- Path names compare equal exactly when they name the same place. -/
theorem PathName.compare_eq_iff {a b : PathName} : compare a b = .eq ↔ a.same b := by
  change compare a.components b.components = .eq ↔ _
  rw [LawfulEqOrd.compare_eq_iff_eq, same_iff]

instance : TransOrd Origin :=
  inferInstanceAs (TransCmp (compareLex (compareOn Origin.file) (compareOn Origin.line)))

/-- Origins that compare equal are in one file. -/
theorem Origin.same_file_of_compare {a b : Origin} (h : compare a b = .eq) :
    a.file.same b.file :=
  PathName.compare_eq_iff.1 (Ordering.then_eq_eq.1 h).1

/-! ### Distinct names -/

theorem mem_distinctNames {q : QualifiedName} {names : List QualifiedName} :
    q ∈ distinctNames names ↔ q ∈ names := by
  rw [distinctNames, List.mem_mergeSort, List.mem_eraseDups]

/-- Distinct names are strictly increasing. -/
theorem pairwise_distinctNames (names : List QualifiedName) :
    (distinctNames names).Pairwise fun a b => compare a b = .lt := by
  have hne : (distinctNames names).Nodup :=
    (List.mergeSort_perm names.eraseDups _).nodup_iff.2 (nodup_eraseDups names)
  exact pairwise_lt (pairwise_mergeSort _)
    (hne.imp fun hne heq => hne (LawfulEqOrd.eq_of_compare heq))

/-- Only the names themselves matter for the distinct ones, not their order or number. -/
theorem distinctNames_congr {names names' : List QualifiedName}
    (h : ∀ q, q ∈ names ↔ q ∈ names') : distinctNames names = distinctNames names' := by
  refine mergeSort_eq_of_perm ?_
  refine (List.perm_ext_iff_of_nodup (nodup_eraseDups _) (nodup_eraseDups _)).2 fun q => ?_
  rw [List.mem_eraseDups, List.mem_eraseDups, h]

end PatternFactory
