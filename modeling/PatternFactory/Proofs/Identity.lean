import PatternFactory.Generation.Run
import PatternFactory.Proofs.Discovered
import Mathlib.Data.List.Basic
import Std.Data.String.ToNat

/-!
# Identities of declarations

A run tells declarations apart by their identity, a text made of the key, the file and the line.

* In one file, identities are equal exactly if keys and lines are (`identity_eq_iff_of_file_eq`).
  So two declarations on one line with one key are one to the run.
* Across files whose path names have no `@`, equal identities mean equal files
  (`file_eq_of_identity_eq`).
* `unseen` keeps the first declaration of each new identity: its identities are distinct
  (`nodup_unseen`) and are the new ones (`mem_identities_unseen`).
-/

namespace PatternFactory

/-! ### Texts with a last separator -/

/-- A text is cut in one way only at its last `c`. -/
theorem append_cons_inj_of_notMem {α : Type} {c : α} {a b a' b' : List α} (hb : c ∉ b)
    (hb' : c ∉ b') : a ++ c :: b = a' ++ c :: b' ↔ a = a' ∧ b = b' := by
  refine ⟨fun h => ?_, by rintro ⟨rfl, rfl⟩; rfl⟩
  rcases List.append_eq_append_iff.1 h with ⟨t, ha, ht⟩ | ⟨t, ha, ht⟩
  · cases t with
    | nil => simpa [eq_comm] using And.intro ha ht
    | cons x t =>
      obtain ⟨rfl, rfl⟩ := List.cons.inj ht
      exact absurd (by simp) hb
  · cases t with
    | nil => simpa [eq_comm] using And.intro ha ht
    | cons x t =>
      obtain ⟨rfl, rfl⟩ := List.cons.inj ht
      exact absurd (by simp) hb'

theorem notMem_repr {c : Char} (hc : c.isDigit = false) (n : Nat) : c ∉ n.repr.toList := by
  rw [Nat.toList_repr]
  intro h
  have := Nat.isDigit_of_mem_toDigits (by decide) (by decide) h
  rw [hc] at this
  cases this

namespace Origin

theorem toList_text (o : Origin) :
    o.text.toList = o.file.text.toList ++ ':' :: o.line.repr.toList := by
  simp only [text, String.toList_append, List.append_assoc]
  rfl

/-- The written form of an origin shows its file and its line. -/
theorem text_inj {o o' : Origin} :
    o.text = o'.text ↔ o.file.text = o'.file.text ∧ o.line = o'.line := by
  rw [← String.toList_inj, toList_text, toList_text,
    append_cons_inj_of_notMem (notMem_repr (by decide) _) (notMem_repr (by decide) _),
    String.toList_inj, String.toList_inj, Nat.repr_inj]

end Origin

namespace MarkedDeclaration

theorem toList_identity (d : MarkedDeclaration) :
    d.identity.toList = d.key.toList ++ '@' :: d.origin.text.toList := by
  simp only [identity, String.toList_append, List.append_assoc]
  rfl

/-- **In one file, identity means key and line.** -/
theorem identity_eq_iff_of_file_eq {d e : MarkedDeclaration} (h : d.origin.file = e.origin.file) :
    d.identity = e.identity ↔ d.key = e.key ∧ d.origin.line = e.origin.line := by
  rw [← String.toList_inj, toList_identity, toList_identity, Origin.toList_text,
    Origin.toList_text, h, ← List.cons_append, ← List.append_assoc, ← List.cons_append,
    ← List.append_assoc,
    append_cons_inj_of_notMem (notMem_repr (by decide) _) (notMem_repr (by decide) _),
    List.append_left_inj, String.toList_inj, String.toList_inj, Nat.repr_inj]

/-- **Identities of different files differ**, if the path names have no `@`. -/
theorem file_eq_of_identity_eq {d e : MarkedDeclaration} (hd : '@' ∉ d.origin.file.text.toList)
    (he : '@' ∉ e.origin.file.text.toList) (h : d.identity = e.identity) :
    d.origin.file = e.origin.file := by
  have hnot : ∀ o : Origin, '@' ∉ o.file.text.toList → '@' ∉ o.text.toList := fun o ho => by
    rw [Origin.toList_text, List.mem_append, List.mem_cons]
    rintro (hf | hc | hl)
    · exact ho hf
    · cases hc
    · exact notMem_repr (by decide) _ hl
  rw [← String.toList_inj, toList_identity, toList_identity,
    append_cons_inj_of_notMem (hnot _ hd) (hnot _ he), String.toList_inj, String.toList_inj,
    Origin.text_inj] at h
  cases hf : d.origin.file
  cases hf' : e.origin.file
  have := h.2.1
  rw [hf, hf'] at this
  exact congrArg PathName.mk this

end MarkedDeclaration

/-! ### Declarations that are new -/

section

variable {seen seen' : List String} {ds : List MarkedDeclaration}

theorem unseen_cons {d : MarkedDeclaration} : unseen seen (d :: ds) =
    if d.identity ∈ seen then unseen seen ds else d :: unseen (d.identity :: seen) ds := by
  simp only [unseen, List.contains_iff_mem]

theorem unseen_sublist : (unseen seen ds).Sublist ds := by
  induction ds generalizing seen with
  | nil => exact .slnil
  | cons d ds ih =>
    rw [unseen_cons]
    split
    · exact ih.cons d
    · exact ih.cons_cons d

/-- Only which of the identities were seen matters. -/
theorem unseen_congr (h : ∀ d ∈ ds, d.identity ∈ seen ↔ d.identity ∈ seen') :
    unseen seen ds = unseen seen' ds := by
  induction ds generalizing seen seen' with
  | nil => rfl
  | cons d ds ih =>
    obtain ⟨hd, hds⟩ := List.forall_mem_cons.1 h
    have hcons : ∀ e ∈ ds, e.identity ∈ d.identity :: seen ↔ e.identity ∈ d.identity :: seen' :=
      fun e he => by rw [List.mem_cons, List.mem_cons, hds e he]
    rw [unseen_cons, unseen_cons, ih hds, ih hcons]
    simp only [hd]

/-- The identities that are kept are those that are new. -/
theorem mem_identities_unseen {x : String} :
    x ∈ (unseen seen ds).map MarkedDeclaration.identity ↔
      x ∉ seen ∧ x ∈ ds.map MarkedDeclaration.identity := by
  induction ds generalizing seen with
  | nil => simp [unseen]
  | cons d ds ih =>
    rw [unseen_cons]
    split
    next hd =>
      rw [ih, List.map_cons, List.mem_cons]
      refine and_congr_right fun hx => (or_iff_right ?_).symm
      rintro rfl
      exact hx hd
    next hd =>
      rw [List.map_cons, List.mem_cons, ih, List.mem_cons, List.map_cons, List.mem_cons]
      by_cases hx : x = d.identity
      · simp [hx, hd]
      · simp [hx]

theorem nodup_unseen : ((unseen seen ds).map MarkedDeclaration.identity).Nodup := by
  induction ds generalizing seen with
  | nil => exact List.nodup_nil
  | cons d ds ih =>
    rw [unseen_cons]
    split
    · exact ih
    · rw [List.map_cons, List.nodup_cons]
      exact ⟨fun h => (mem_identities_unseen.1 h).1 List.mem_cons_self, ih⟩

/-- All declarations are kept exactly if their identities are new and distinct. -/
theorem unseen_eq_self_iff : unseen [] ds = ds ↔ (ds.map MarkedDeclaration.identity).Nodup := by
  -- what is kept is seen from then on, so the induction needs any `seen`
  have key : ∀ seen, (∀ d ∈ ds, d.identity ∉ seen) →
      (ds.map MarkedDeclaration.identity).Nodup → unseen seen ds = ds := by
    induction ds with
    | nil => intros; rfl
    | cons d ds ih =>
      intro seen hseen hnodup
      obtain ⟨hd, hrest⟩ := List.nodup_cons.1 hnodup
      rw [unseen_cons, if_neg (hseen d List.mem_cons_self), ih _ (fun e he => ?_) hrest]
      rw [List.mem_cons, not_or]
      refine ⟨fun heq => hd ?_, hseen e (List.mem_cons_of_mem _ he)⟩
      exact heq ▸ List.mem_map_of_mem he
  exact ⟨fun h => h ▸ nodup_unseen, fun h => key [] (by simp) h⟩

theorem unseen_append {es : List MarkedDeclaration} : unseen seen (ds ++ es) =
    unseen seen ds ++ unseen (seen ++ ds.map MarkedDeclaration.identity) es := by
  induction ds generalizing seen with
  | nil => simp [unseen]
  | cons d ds ih =>
    rw [List.cons_append, unseen_cons, unseen_cons]
    split
    next hd =>
      rw [ih]
      refine congrArg _ (unseen_congr fun e _ => ?_)
      simp only [List.map_cons, List.mem_append, List.mem_cons]
      by_cases he : e.identity = d.identity
      · simp [he, hd]
      · simp [he]
    next hd =>
      rw [ih, List.cons_append]
      refine congrArg _ (congrArg _ (unseen_congr fun e _ => ?_))
      simp only [List.map_cons, List.mem_append, List.mem_cons]
      tauto

/-- Parts that share no identity do not hide each other's declarations. -/
theorem unseen_flatMap {α : Type} {f : α → List MarkedDeclaration} {l : List α}
    (h : l.Pairwise fun a b => ∀ d ∈ f a, ∀ e ∈ f b, d.identity ≠ e.identity) :
    unseen [] (l.flatMap f) = l.flatMap fun a => unseen [] (f a) := by
  induction l with
  | nil => rfl
  | cons a l ih =>
    obtain ⟨ha, hl⟩ := List.pairwise_cons.1 h
    rw [List.flatMap_cons, List.flatMap_cons, unseen_append, ← ih hl]
    refine congrArg _ (unseen_congr fun e he => iff_of_false ?_ List.not_mem_nil)
    obtain ⟨b, hb, he⟩ := List.mem_flatMap.1 he
    rintro hd
    obtain ⟨d, hd, heq⟩ := List.mem_map.1 hd
    exact ha b hb d hd e he heq

end

end PatternFactory
