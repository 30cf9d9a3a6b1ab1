import Mathlib.Data.List.Basic
import Mathlib.Tactic.SplitIfs
import PatternFactory.Name.Qualified

/-!
# The parts of names

Splitting a name drops the separators and nothing else (`flatMap_splitName`), and its parts are not
empty and hold no separators (`of_mem_splitName`).  Texts with separators between them are split one
by one (`splitName_append`, `splitName_intercalate`), so a name adds its parts to the segments of a
namespace (`Namespace.segments_child`).  The name of a unit is put together from such parts
(`deriveName_eq`).
-/

namespace PatternFactory

theorem isSeparator_eq_false {c : Char} : isSeparator c = false ↔ c ≠ ':' ∧ c ≠ '.' := by
  simp [isSeparator]

theorem of_mem_splitName_go {s : String} {piece cs : List Char}
    (hpiece : ∀ c ∈ piece, isSeparator c = false) (h : s ∈ splitName.go piece cs) :
    s ≠ "" ∧ ∀ c ∈ s.toList, isSeparator c = false := by
  have hflush : ∀ {piece : List Char}, (∀ c ∈ piece, isSeparator c = false) →
      s ∈ splitName.flush piece → s ≠ "" ∧ ∀ c ∈ s.toList, isSeparator c = false := by
    intro piece hpiece hs
    rw [splitName.flush] at hs
    split_ifs at hs with hempty
    · cases hs
    · obtain rfl := List.mem_singleton.1 hs
      refine ⟨fun h => hempty ?_, fun c hc => hpiece c (by simpa using hc)⟩
      simpa using congrArg String.toList h
  induction cs generalizing piece with
  | nil => exact hflush hpiece h
  | cons c cs ih =>
    rw [splitName.go] at h
    split_ifs at h with hc
    · rcases List.mem_append.1 h with h | h
      · exact hflush hpiece h
      · exact ih (by simp) h
    · refine ih (List.forall_mem_cons.2 ⟨?_, hpiece⟩) h
      simpa using hc

/-- A part is not empty and holds no separator. -/
theorem of_mem_splitName {name s : String} (h : s ∈ splitName name) :
    s ≠ "" ∧ ∀ c ∈ s.toList, isSeparator c = false := of_mem_splitName_go (by simp) h

/-- A segment is not empty and holds no separator. -/
theorem Namespace.of_mem_segments {names : List String} {s : String}
    (h : s ∈ (Namespace.ofSegments names).segments) :
    s ≠ "" ∧ ∀ c ∈ s.toList, isSeparator c = false := by
  obtain ⟨name, -, hs⟩ := List.mem_flatMap.1 h
  exact of_mem_splitName hs

theorem flatMap_flush (piece : List Char) :
    (splitName.flush piece).flatMap String.toList = piece.reverse := by
  unfold splitName.flush
  split
  next h => simp [List.isEmpty_iff.1 h]
  next => simp

theorem flatMap_splitName_go (piece cs : List Char) :
    (splitName.go piece cs).flatMap String.toList =
      piece.reverse ++ cs.filter fun c => !isSeparator c := by
  induction cs generalizing piece with
  | nil => simpa [splitName.go] using flatMap_flush piece
  | cons c cs ih =>
    rw [splitName.go]
    cases hc : isSeparator c with
    | true => simp [hc, ih, flatMap_flush]
    | false => simp [hc, ih]

/-- Splitting a name drops the separators and nothing else. -/
theorem flatMap_splitName (name : String) : (splitName name).flatMap String.toList =
    name.toList.filter fun c => !isSeparator c := flatMap_splitName_go [] _

/-! ### Names between separators -/

/-- The text can stand between names: it consists of separators. -/
structure Separates (sep : String) : Prop where
  nonempty : sep ≠ ""
  all : ∀ c ∈ sep.toList, isSeparator c = true

theorem separates_colons : Separates "::" := ⟨by simp, by simp [isSeparator]⟩

theorem separates_dot : Separates "." := ⟨by simp, by simp [isSeparator]⟩

theorem splitName_go_append (piece before : List Char) {c : Char} (hc : isSeparator c = true)
    (behind : List Char) : splitName.go piece (before ++ c :: behind) =
      splitName.go piece before ++ splitName.go [] behind := by
  induction before generalizing piece with
  | nil =>
    rw [List.nil_append]
    exact if_pos hc
  | cons d before ih =>
    rw [List.cons_append, splitName.go, splitName.go]
    split_ifs
    · rw [ih, List.append_assoc]
    · exact ih _

/-- Texts with separators between them are split one by one. -/
theorem splitName_append {sep : String} (h : Separates sep) (a b : String) :
    splitName (a ++ sep ++ b) = splitName a ++ splitName b := by
  -- the first of the separators ends a piece, and the others end empty ones
  have hskip : ∀ {cs : List Char}, (∀ c ∈ cs, isSeparator c = true) →
      splitName.go [] (cs ++ b.toList) = splitName.go [] b.toList := by
    intro cs hcs
    induction cs with
    | nil => rfl
    | cons c cs ih =>
      obtain ⟨hc, hcs⟩ := List.forall_mem_cons.1 hcs
      rw [List.cons_append, splitName.go, if_pos hc, ih hcs]
      rfl
  obtain ⟨c, cs, hsep⟩ := List.exists_cons_of_ne_nil (l := sep.toList) (by simpa using h.nonempty)
  obtain ⟨hc, hcs⟩ := List.forall_mem_cons.1 (hsep ▸ h.all)
  rw [splitName, String.toList_append, String.toList_append, hsep, List.append_assoc,
    List.cons_append, splitName_go_append [] _ hc, hskip hcs]
  rfl

theorem splitName_intercalate {sep : String} (h : Separates sep) (names : List String) :
    splitName (sep.intercalate names) = names.flatMap splitName := by
  induction names with
  | nil => rfl
  | cons n names ih =>
    cases names with
    | nil => simp
    | cons m names =>
      rw [String.intercalate_cons_of_ne_nil (List.cons_ne_nil _ _), splitName_append h, ih]
      rfl

/-- A text without separators goes on with the piece that was begun. -/
theorem splitName_go_of_part {piece cs : List Char} (h : ∀ c ∈ cs, isSeparator c = false) :
    splitName.go piece cs = splitName.flush (cs.reverse ++ piece) := by
  induction cs generalizing piece with
  | nil => rfl
  | cons c cs ih =>
    obtain ⟨hc, hcs⟩ := List.forall_mem_cons.1 h
    rw [splitName.go, hc, if_neg Bool.false_ne_true, ih hcs]
    simp

/-- A part is a part of its own. -/
theorem splitName_of_part {s : String} (h : s ≠ "" ∧ ∀ c ∈ s.toList, isSeparator c = false) :
    splitName s = [s] := by
  rw [splitName, splitName_go_of_part h.2]
  simp [splitName.flush, h.1]

theorem flatMap_splitName_of_parts {names : List String} (h : ∀ n ∈ names, splitName n = [n]) :
    names.flatMap splitName = names :=
  (List.flatMap_congr h).trans (List.flatMap_singleton' _)

namespace Namespace

theorem splitName_of_mem_segments {names : List String} {s : String}
    (h : s ∈ (ofSegments names).segments) : splitName s = [s] :=
  splitName_of_part (of_mem_segments h)

/-- A name adds its parts to the segments.  All segments are split again then, but those that were
there cannot be split. -/
theorem segments_child {ns : Namespace} (hns : ∀ s ∈ ns.segments, splitName s = [s])
    (name : String) : (ns.child name).segments = ns.segments ++ splitName name := by
  change (ns.segments ++ [name]).flatMap splitName = _
  rw [List.flatMap_append, flatMap_splitName_of_parts hns]
  simp

theorem segments_child_of_part {ns : Namespace} (hns : ∀ s ∈ ns.segments, splitName s = [s])
    {name : String} (h : name ≠ "" ∧ ∀ c ∈ name.toList, isSeparator c = false) :
    (ns.child name).segments = ns.segments ++ [name] := by
  rw [segments_child hns, splitName_of_part h]

end Namespace

/-- The parts from which the name of a unit is made, besides the suffix. -/
def nameParts (declared : String) : List String :=
  if declared = placeholderName then [] else splitName declared

/-- The name of a unit is put together from the parts and the suffix. -/
theorem deriveName_eq {declared suffix : String}
    (h : declared = placeholderName ∨ placeholderName ∉ splitName declared) :
    deriveName declared suffix = String.join (nameParts declared ++ [suffix]) := by
  have hsplit := flatMap_splitName declared
  unfold deriveName nameParts
  rcases h with rfl | h
  · rfl
  · have hdeclared : declared ≠ placeholderName := by
      rintro rfl
      exact h (by decide)
    have hbase : String.ofList (declared.toList.filter fun c => !isSeparator c) ≠
        placeholderName := by
      intro hbase
      have hlist : (splitName declared).flatMap String.toList = ['$'] := by
        rw [hsplit, ← String.toList_ofList (l := declared.toList.filter _), hbase]
        rfl
      -- One of the parts holds the placeholder, and so is all that is left.
      obtain ⟨p, hp, hmem⟩ := List.mem_flatMap.1 (hlist ▸ List.mem_singleton_self '$')
      have hsub : p.toList.Sublist ['$'] := by
        refine .trans (List.sublist_flatten_of_mem (List.mem_map_of_mem hp)) ?_
        exact hlist ▸ List.Sublist.refl _
      rcases List.sublist_singleton.1 hsub with hnil | hone
      · rw [hnil] at hmem
        cases hmem
      · obtain rfl : p = placeholderName := String.toList_inj.1 hone
        exact h hp
    simp only [hbase, hdeclared, if_false]
    rw [← String.toList_inj, ← hsplit]
    simp [List.flatMap]

end PatternFactory
