import Mathlib.Data.List.Basic
import Mathlib.Data.List.Forall2
import Mathlib.Data.List.Nodup
import Mathlib.Data.List.Perm.Subperm

/-!
# Lists

Facts about lists on which the theory of rounds rests: what a traversal that may fail collects, what
goes entry by entry with a list, when parts may change places, what is found for a key, and what
sorting keeps.  Sorting is stable (`filter_mergeSort`), so lists that differ only in how entries of
different rank are interleaved sort alike (`mergeSort_congr`).  Permuted lists sort alike up to
entries that compare equal (`forall₂_mergeSort_of_perm`).
-/

namespace PatternFactory

open Std

/-! ### Traversals that may fail -/

theorem exists_of_bind_eq_ok {ε α β : Type} {x : Except ε α} {f : α → Except ε β} {b : β}
    (h : x.bind f = .ok b) : ∃ a, x = .ok a ∧ f a = .ok b := by
  cases x with
  | error e => cases h
  | ok a => exact ⟨a, rfl, h⟩

theorem exists_of_any_toOption {ε α : Type} {x : Except ε α} {p : α → Bool}
    (h : x.toOption.any p) : ∃ a, x = .ok a ∧ p a := by
  cases x with
  | error e => cases h
  | ok a => exact ⟨a, rfl, h⟩

theorem map_eq_ok_iff {ε α β : Type} {r : Except ε α} {f : α → β} {b : β} :
    r.map f = .ok b ↔ ∃ a, r = .ok a ∧ f a = b := by
  cases r <;> simp [Except.map]

section

variable {ε α β γ : Type} {f : α → Except ε β}

theorem mapM_cons_eq_ok_iff {a : α} {l : List α} {r : List β} :
    (a :: l).mapM f = .ok r ↔ ∃ b r', f a = .ok b ∧ l.mapM f = .ok r' ∧ r = b :: r' := by
  rw [List.mapM_cons]
  cases ha : f a with
  | error e => simp [bind, Except.bind]
  | ok b =>
    cases hl : l.mapM f with
    | error e => simp [bind, Except.bind]
    | ok r' => simp [bind, Except.bind, pure, Except.pure, eq_comm]

theorem mapM_congr {g : α → Except ε β} {l : List α} (h : ∀ a ∈ l, f a = g a) :
    l.mapM f = l.mapM g := by
  induction l with
  | nil => rfl
  | cons a l ih =>
    obtain ⟨ha, hl⟩ := List.forall_mem_cons.1 h
    rw [List.mapM_cons, List.mapM_cons, ha, ih hl]

theorem mem_of_mapM_eq_ok {l : List α} {r : List β} (h : l.mapM f = .ok r) {b : β} :
    b ∈ r ↔ ∃ a ∈ l, f a = .ok b := by
  induction l generalizing r with
  | nil =>
    obtain rfl : [] = r := by simpa [pure, Except.pure] using h
    simp
  | cons a l ih =>
    obtain ⟨c, r', hc, hl, rfl⟩ := mapM_cons_eq_ok_iff.1 h
    simp only [List.mem_cons, ih hl, exists_eq_or_imp, hc, Except.ok.injEq, eq_comm (a := c)]

theorem exists_mapM_eq_ok_iff {l : List α} :
    (∃ r, l.mapM f = .ok r) ↔ ∀ a ∈ l, ∃ b, f a = .ok b := by
  induction l with
  | nil => simp [pure, Except.pure]
  | cons a l ih =>
    simp only [mapM_cons_eq_ok_iff, List.forall_mem_cons, ← ih]
    constructor
    · rintro ⟨_, b, r', hb, hr, -⟩
      exact ⟨⟨b, hb⟩, r', hr⟩
    · rintro ⟨⟨b, hb⟩, r', hr⟩
      exact ⟨_, b, r', hb, hr, rfl⟩

/-- A traversal that fails does so at the first entry for which the function fails. -/
theorem exists_split_of_mapM_eq_error {l : List α} {e : ε} (h : l.mapM f = .error e) :
    ∃ before a after, l = before ++ a :: after ∧ f a = .error e ∧
      ∀ b ∈ before, ∃ c, f b = .ok c := by
  induction l with
  | nil => cases h
  | cons a l ih =>
    rw [List.mapM_cons] at h
    cases ha : f a with
    | error e' =>
      rw [ha] at h
      cases h
      exact ⟨[], a, l, rfl, ha, nofun⟩
    | ok b =>
      cases hl : l.mapM f with
      | error e' =>
        rw [ha, hl] at h
        cases h
        obtain ⟨before, a', after, rfl, he, hbefore⟩ := ih hl
        exact ⟨a :: before, a', after, rfl, he, List.forall_mem_cons.2 ⟨⟨b, ha⟩, hbefore⟩⟩
      | ok r =>
        rw [ha, hl] at h
        cases h

theorem exists_of_mapM_eq_error {l : List α} {e : ε} (h : l.mapM f = .error e) :
    ∃ a ∈ l, f a = .error e := by
  obtain ⟨before, a, after, rfl, ha, -⟩ := exists_split_of_mapM_eq_error h
  exact ⟨a, by simp, ha⟩

/-- What is found under some keys, in the order of the keys. -/
theorem sublist_of_mapM_eq_ok {f : α → Except ε (Option γ)} {key : γ → α}
    (hkey : ∀ a c, f a = .ok (some c) → key c = a) {l : List α} {r : List (Option γ)}
    (h : l.mapM f = .ok r) : ((r.filterMap id).map key).Sublist l := by
  induction l generalizing r with
  | nil =>
    obtain rfl : [] = r := by simpa [pure, Except.pure] using h
    simp
  | cons a l ih =>
    obtain ⟨o, r', ho, hl, rfl⟩ := mapM_cons_eq_ok_iff.1 h
    cases o with
    | none => exact (ih hl).cons a
    | some c =>
      simp only [List.filterMap_cons, id_eq, List.map_cons, hkey a c ho]
      exact (ih hl).cons_cons a

end

/-! ### Entry by entry -/

/-- What is made of some entries of a list goes entry by entry with the entries it is made of. -/
theorem forall₂_filterMap_filterMap {α β γ : Type} {f : α → Option β} {g : α → Option γ}
    {r : γ → β → Prop} {l : List α} (h : ∀ a ∈ l, Option.Rel r (g a) (f a)) :
    List.Forall₂ r (l.filterMap g) (l.filterMap f) := by
  induction l with
  | nil => exact .nil
  | cons a l ih =>
    obtain ⟨ha, hl⟩ := List.forall_mem_cons.1 h
    rw [List.filterMap_cons, List.filterMap_cons]
    cases hg : g a <;> cases hf : f a <;> rw [hg, hf] at ha <;> cases ha
    · exact ih hl
    · exact .cons ‹_› (ih hl)

/-- A list of which no entry is left out goes entry by entry with what is made of it. -/
theorem forall₂_filterMap {α β : Type} {f : α → Option β} {r : α → β → Prop} {l : List α}
    (h : ∀ a ∈ l, ∃ b, f a = some b ∧ r a b) : List.Forall₂ r l (l.filterMap f) := by
  have hrel : ∀ a ∈ l, Option.Rel r (some a) (f a) := by
    intro a ha
    obtain ⟨b, hb, hab⟩ := h a ha
    rw [hb]
    exact .some hab
  simpa only [List.filterMap_some] using forall₂_filterMap_filterMap hrel

/-! ### Distinct entries -/

theorem nodup_eraseDups {α : Type} [BEq α] [LawfulBEq α] :
    ∀ l : List α, l.eraseDups.Nodup
  | [] => by simp
  | a :: l => by
    rw [List.eraseDups_cons, List.nodup_cons]
    refine ⟨fun h => ?_, nodup_eraseDups _⟩
    have := List.mem_eraseDups.1 h
    simp at this
termination_by l => l.length
decreasing_by exact Nat.lt_succ_of_le (List.length_filter_le ..)

/-! ### Parts in another order -/

/-- The order of the parts does not matter where all but one are empty. -/
theorem flatMap_eq_of_perm {α β : Type} {f : α → List β} {l l' : List α} (h : l.Perm l')
    (hf : l.Pairwise fun a b => f a = [] ∨ f b = []) : l.flatMap f = l'.flatMap f := by
  induction h with
  | nil => rfl
  | cons a _ ih => rw [List.flatMap_cons, List.flatMap_cons, ih (List.pairwise_cons.1 hf).2]
  | swap a b l =>
    have hab := (List.pairwise_cons.1 hf).1 a List.mem_cons_self
    simp only [List.flatMap_cons]
    rcases hab with h | h <;> simp only [h, List.nil_append]
  | trans h _ ih ih' => rw [ih hf, ih' (h.pairwise hf Or.symm)]

/-- Where no two entries have one key, an entry is what is found for its key. -/
theorem find?_key_eq_some_iff {α κ : Type} [DecidableEq κ] {key : α → κ} {l : List α}
    (h : (l.map key).Nodup) {k : κ} {a : α} :
    (l.find? fun b => key b = k) = some a ↔ a ∈ l ∧ key a = k := by
  constructor
  · exact fun hfind => ⟨List.mem_of_find?_eq_some hfind, by simpa using List.find?_some hfind⟩
  · rintro ⟨ha, rfl⟩
    cases hfind : l.find? fun b => key b = key a with
    | none => simpa using List.find?_eq_none.1 hfind a ha
    | some b =>
      have hkey : key b = key a := by simpa using List.find?_some hfind
      rw [List.inj_on_of_nodup_map h (List.mem_of_find?_eq_some hfind) ha hkey]

/-! ### Stable sorting -/

section

variable {α : Type} {cmp : α → α → Ordering}

theorem pairwise_lt {l : List α} (hle : l.Pairwise fun a b => (cmp a b).isLE)
    (hne : l.Pairwise fun a b => cmp a b ≠ .eq) : l.Pairwise fun a b => cmp a b = .lt :=
  (hle.and hne).imp fun h => (Ordering.isLE_iff_eq_lt_or_eq_eq.1 h.1).resolve_right h.2

variable [TransCmp cmp]

theorem isLE_total (a b : α) : (cmp a b).isLE || (cmp b a).isLE := by
  rw [Bool.or_eq_true]
  by_cases h : (cmp a b).isLE
  · exact .inl h
  · exact .inr (Ordering.isLE_of_eq_lt (OrientedCmp.lt_of_not_isLE h))

theorem pairwise_mergeSort (l : List α) :
    (l.mergeSort fun a b => (cmp a b).isLE).Pairwise fun a b => (cmp a b).isLE :=
  List.pairwise_mergeSort (fun _ _ _ => TransCmp.isLE_trans) isLE_total l

/-- **Sorting is stable**: the entries that compare equal to `x` stay in their order. -/
theorem filter_mergeSort (x : α) (l : List α) :
    (l.mergeSort fun a b => (cmp a b).isLE).filter (fun a => cmp x a = .eq) =
      l.filter fun a => cmp x a = .eq := by
  -- these entries are sorted as they stand, so they survive as a sublist
  have hsorted : (l.filter fun a => cmp x a = .eq).Pairwise fun a b => (cmp a b).isLE := by
    refine List.pairwise_of_forall_mem_list fun a ha b hb => ?_
    have ha' : cmp x a = .eq := by simpa using (List.mem_filter.1 ha).2
    have hb' : cmp x b = .eq := by simpa using (List.mem_filter.1 hb).2
    exact Ordering.isLE_of_eq_eq (TransCmp.eq_trans (OrientedCmp.eq_symm ha') hb')
  have hsub := (List.sublist_mergeSort (fun _ _ _ => TransCmp.isLE_trans) isLE_total hsorted
    List.filter_sublist).filter fun a => cmp x a = .eq
  have hlen := ((List.mergeSort_perm l fun a b => (cmp a b).isLE).filter
    fun a => cmp x a = .eq).length_eq
  simp only [List.filter_filter, Bool.and_self] at hsub
  exact (hsub.eq_of_length hlen.symm).symm

theorem mem_iff_of_filter_eq {l l' : List α}
    (h : ∀ x, l.filter (fun a => cmp x a = .eq) = l'.filter fun a => cmp x a = .eq) (x : α) :
    x ∈ l ↔ x ∈ l' := by
  have := congrArg (x ∈ ·) (h x)
  simpa [ReflCmp.compare_self] using this

/-- The first entries of sorted lists compare equal if each list has an entry of either rank. -/
theorem eq_of_sorted_cons {a b : α} {t t' : List α}
    (hl : (a :: t).Pairwise fun a b => (cmp a b).isLE)
    (hl' : (b :: t').Pairwise fun a b => (cmp a b).isLE) (ha : ∃ c ∈ b :: t', cmp a c = .eq)
    (hb : ∃ c ∈ a :: t, cmp b c = .eq) : cmp a b = .eq := by
  have hfirst : ∀ {x y : α} {s : List α}, (x :: s).Pairwise (fun a b => (cmp a b).isLE) →
      (∃ c ∈ x :: s, cmp y c = .eq) → (cmp x y).isLE := by
    rintro x y s hs ⟨c, hc, hyc⟩
    rw [TransCmp.congr_right hyc]
    rcases List.mem_cons.1 hc with rfl | hc
    · exact ReflCmp.isLE_rfl
    · exact (List.pairwise_cons.1 hs).1 c hc
  exact OrientedCmp.isLE_antisymm (hfirst hl hb) (hfirst hl' ha)

/-- Two sorted lists are equal if they agree on the entries of each rank. -/
theorem eq_of_filter_eq {l l' : List α} (hl : l.Pairwise fun a b => (cmp a b).isLE)
    (hl' : l'.Pairwise fun a b => (cmp a b).isLE)
    (h : ∀ x, l.filter (fun a => cmp x a = .eq) = l'.filter fun a => cmp x a = .eq) :
    l = l' := by
  have hmem := mem_iff_of_filter_eq h
  induction l generalizing l' with
  | nil =>
    cases l' with
    | nil => rfl
    | cons b t' => exact absurd ((hmem b).2 List.mem_cons_self) List.not_mem_nil
  | cons a t ih =>
    cases l' with
    | nil => exact absurd ((hmem a).1 List.mem_cons_self) List.not_mem_nil
    | cons b t' =>
      -- the first entries compare equal, so they are the first ones of one rank
      have hab : cmp a b = .eq := eq_of_sorted_cons hl hl'
        ⟨a, (hmem a).1 List.mem_cons_self, ReflCmp.compare_self⟩
        ⟨b, (hmem b).2 List.mem_cons_self, ReflCmp.compare_self⟩
      have hfirst := h a
      simp only [List.filter_cons, ReflCmp.compare_self, hab, decide_true, ↓reduceIte,
        List.cons.injEq] at hfirst
      obtain rfl : a = b := hfirst.1
      have htail : ∀ x, t.filter (fun c => cmp x c = .eq) = t'.filter fun c => cmp x c = .eq := by
        intro x
        have hx := h x
        by_cases hxa : cmp x a = .eq
        · simpa [hxa] using hx
        · simpa [hxa] using hx
      rw [ih (List.pairwise_cons.1 hl).2 (List.pairwise_cons.1 hl').2 htail
        (mem_iff_of_filter_eq htail)]

/-- Lists that agree on the entries of each rank sort alike. -/
theorem mergeSort_congr {l l' : List α}
    (h : ∀ x, l.filter (fun a => cmp x a = .eq) = l'.filter fun a => cmp x a = .eq) :
    (l.mergeSort fun a b => (cmp a b).isLE) = l'.mergeSort fun a b => (cmp a b).isLE :=
  eq_of_filter_eq (pairwise_mergeSort l) (pairwise_mergeSort l') fun x => by
    rw [filter_mergeSort, filter_mergeSort, h]

/-- Entries that are picked out of a list sort as the list does. -/
theorem mergeSort_filter (p : α → Bool) (l : List α) :
    ((l.filter p).mergeSort fun a b => (cmp a b).isLE) =
      (l.mergeSort fun a b => (cmp a b).isLE).filter p :=
  eq_of_filter_eq (pairwise_mergeSort _) ((pairwise_mergeSort l).filter p) fun x => by
    rw [filter_mergeSort, List.filter_comm, ← filter_mergeSort x l, List.filter_comm]

theorem perm_of_filter_eq {l l' : List α}
    (h : ∀ x, l.filter (fun a => cmp x a = .eq) = l'.filter fun a => cmp x a = .eq) :
    l.Perm l' := by
  have hsort := List.mergeSort_perm l fun a b => (cmp a b).isLE
  rw [mergeSort_congr h] at hsort
  exact hsort.symm.trans (List.mergeSort_perm l' _)

/-- Where only equal entries compare equal, permuted lists sort alike. -/
theorem mergeSort_eq_of_perm [LawfulEqCmp cmp] {l l' : List α} (h : l.Perm l') :
    (l.mergeSort fun a b => (cmp a b).isLE) = l'.mergeSort fun a b => (cmp a b).isLE := by
  have hperm : (l.mergeSort fun a b => (cmp a b).isLE).Perm
      (l'.mergeSort fun a b => (cmp a b).isLE) :=
    (List.mergeSort_perm l _).trans (h.trans (List.mergeSort_perm l' _).symm)
  refine hperm.eq_of_pairwise (fun a b _ _ hab hba => ?_) (pairwise_mergeSort l)
    (pairwise_mergeSort l')
  exact LawfulEqCmp.eq_of_compare (OrientedCmp.isLE_antisymm hab hba)

/-- Sorted lists with equally many entries of each rank go entry by entry with entries that compare
equal. -/
theorem forall₂_of_countP_eq {l l' : List α} (hl : l.Pairwise fun a b => (cmp a b).isLE)
    (hl' : l'.Pairwise fun a b => (cmp a b).isLE)
    (h : ∀ x, l.countP (fun a => cmp x a = .eq) = l'.countP fun a => cmp x a = .eq) :
    List.Forall₂ (fun a b => cmp a b = .eq) l l' := by
  induction l generalizing l' with
  | nil =>
    cases l' with
    | nil => exact .nil
    | cons b t' => simpa [ReflCmp.compare_self] using h b
  | cons a t ih =>
    cases l' with
    | nil => simpa [ReflCmp.compare_self] using h a
    | cons b t' =>
      have hcount : ∀ {x : α} {s : List α}, 0 < s.countP (fun a => cmp x a = .eq) ↔
          ∃ c ∈ s, cmp x c = .eq := by simp [List.countP_pos_iff]
      have hab : cmp a b = .eq := by
        refine eq_of_sorted_cons hl hl' (hcount.1 (h a ▸ ?_)) (hcount.1 (h b ▸ ?_)) <;>
          simp [ReflCmp.compare_self]
      refine .cons hab (ih (List.pairwise_cons.1 hl).2 (List.pairwise_cons.1 hl').2 fun x => ?_)
      have hx := h x
      simpa only [List.countP_cons, TransCmp.congr_right hab, Nat.add_right_cancel_iff] using hx

/-- Permuted lists sort alike up to entries that compare equal. -/
theorem forall₂_mergeSort_of_perm {l l' : List α} (h : l.Perm l') :
    List.Forall₂ (fun a b => cmp a b = .eq) (l.mergeSort fun a b => (cmp a b).isLE)
      (l'.mergeSort fun a b => (cmp a b).isLE) := by
  refine forall₂_of_countP_eq (pairwise_mergeSort l) (pairwise_mergeSort l') fun x => ?_
  rw [(List.mergeSort_perm l _).countP_eq, (List.mergeSort_perm l' _).countP_eq, h.countP_eq]

/-- **When the order of the entries does not matter for sorting**, up to a relation that is finer
than comparing equal: just when the relation holds of all entries that compare equal. -/
theorem forall₂_mergeSort_iff {r : α → α → Prop} (hr : Equivalence r)
    (hfine : ∀ {a b}, r a b → cmp a b = .eq) {l : List α} :
    (∀ l', l.Perm l' → List.Forall₂ r (l.mergeSort fun a b => (cmp a b).isLE)
      (l'.mergeSort fun a b => (cmp a b).isLE)) ↔
    ∀ a ∈ l, ∀ b ∈ l, cmp a b = .eq → r a b := by
  classical
  constructor
  · intro h a ha b hb hab
    -- whichever of the entries of one rank arrives first is the first of them behind the sort
    have hfirst : ∀ c ∈ l, cmp a c = .eq → ∃ first rest,
        l.filter (fun x => cmp a x = .eq) = first :: rest ∧ r first c := by
      intro c hc hac
      have hclass := List.rel_filter (p := fun x => cmp a x = .eq) (q := fun x => cmp a x = .eq)
        (fun x y hxy => by simp only [TransCmp.congr_right (hfine hxy)])
        (h _ (List.perm_cons_erase hc))
      rw [filter_mergeSort, filter_mergeSort, List.filter_cons_of_pos (by simpa using hac)] at hclass
      obtain ⟨first, rest, hrel, -, hl⟩ := List.forall₂_cons_right_iff.1 hclass
      exact ⟨first, rest, hl, hrel⟩
    obtain ⟨first, rest, hl, hfa⟩ := hfirst a ha ReflCmp.compare_self
    obtain ⟨first', rest', hl', hfb⟩ := hfirst b hb hab
    obtain ⟨rfl, -⟩ := List.cons.inj (hl.symm.trans hl')
    exact hr.trans (hr.symm hfa) hfb
  · intro h l' hperm
    have halike : List.Forall₂ (fun a b => cmp a b = .eq) _ _ := forall₂_mergeSort_of_perm hperm
    obtain ⟨hlength, hzip⟩ := List.forall₂_iff_zip.1 halike
    refine List.forall₂_iff_zip.2 ⟨hlength, fun hab => h _ ?_ _ ?_ (hzip hab)⟩
    · exact List.mem_mergeSort.1 (List.of_mem_zip hab).1
    · exact hperm.mem_iff.2 (List.mem_mergeSort.1 (List.of_mem_zip hab).2)

end

end PatternFactory
