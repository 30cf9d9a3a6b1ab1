import PatternFactory.Proofs.Ways

/-!
# Trees that grow

Making directories never removes anything.  `FileTree.Grown` says that a tree is another one with
more directories, each of them at one of some places where nothing was.  Whatever comes of making a
directory and its missing parents, the tree has grown, and all new directories are on the way of the
path name (`OnlyGrows.makeParents`).

A path name that leads somewhere leads to the same place as long as all directories stay
(`FileTree.locate_of_keeps`).
-/

namespace PatternFactory

/-! ### Ways -/

namespace Way

variable {x y z z' : Place} {ps qs : List String} {passed passed' : List Place}

theorem unique (h : Way x ps passed z) (h' : Way x ps passed' z') : passed = passed' ∧ z = z' := by
  induction h generalizing passed' with
  | here =>
    cases h'
    exact ⟨rfl, rfl⟩
  | on hturn _ ih =>
    cases h' with
    | on hturn' hrest =>
      obtain rfl := Option.some.inj (hturn.symm.trans hturn')
      obtain ⟨rfl, rfl⟩ := ih hrest
      exact ⟨rfl, rfl⟩

theorem of_append (h : Way x (ps ++ qs) passed z) :
    ∃ before y behind, Way x ps before y ∧ Way y qs behind z ∧ passed = before ++ behind := by
  induction ps generalizing x passed with
  | nil => exact ⟨[], x, passed, .here, h, rfl⟩
  | cons p ps ih =>
    cases h with
    | on hturn hrest =>
      obtain ⟨before, y, behind, hps, hqs, rfl⟩ := ih hrest
      exact ⟨x :: before, y, behind, .on hturn hps, hqs, rfl⟩

theorem first_mem (h : Way x ps passed z) : x ∈ passed ++ [z] := by
  cases h <;> simp

/-- A way that is a part of another ends at one of the places of that. -/
theorem mem_of_isPrefix (h : Way x ps passed z) (hq : Way x qs passed' y) (hbeginning : qs <+: ps) :
    y ∈ passed ++ [z] := by
  obtain ⟨rest, rfl⟩ := hbeginning
  obtain ⟨before, y', behind, hqs, hrest, rfl⟩ := h.of_append
  obtain rfl := (hqs.unique hq).2
  rw [List.append_assoc]
  exact List.mem_append_right _ hrest.first_mem

/-- A way that is a part of another passes places of that. -/
theorem passed_subset_of_isPrefix (h : Way x ps passed z) (hq : Way x qs passed' y)
    (hbeginning : qs <+: ps) : passed' ⊆ passed := by
  obtain ⟨rest, rfl⟩ := hbeginning
  obtain ⟨before, y', behind, hqs, hrest, rfl⟩ := h.of_append
  obtain rfl := (hqs.unique hq).1
  exact List.subset_append_left _ _

end Way

/-! ### Parents -/

namespace PathName

/-- Some of the first pieces of a text, put together again, are a beginning of it. -/
theorem intercalate_trimmed_isPrefix {cs : List Char} {before : List String}
    (h : before <+: pieces cs) : ("/".intercalate (trimmed before)).toList <+: cs ∧
      parts ⟨"/".intercalate (trimmed before)⟩ <+: (pieces cs).filter isPart := by
  obtain ⟨-, hparts⟩ := tidy_intercalate_trimmed fun q hq => notMem_of_mem_pieces (h.mem hq)
  refine ⟨isPrefix_of_pieces rfl ((isPrefix_trimmed before).trans h), ?_⟩
  rw [hparts]
  exact h.filter _

/-- The same behind a `.` at the beginning. -/
theorem dot_intercalate_trimmed_isPrefix {cs : List Char} {before : List String}
    (h : before <+: pieces cs) :
    ("." ++ "/".intercalate (trimmed ("" :: before))).toList <+: '.' :: '/' :: cs ∧
      parts ⟨"." ++ "/".intercalate (trimmed ("" :: before))⟩ <+:
        (pieces ('.' :: '/' :: cs)).filter isPart := by
  obtain ⟨-, hparts, htext⟩ :=
    tidy_dot_intercalate_trimmed fun q hq => notMem_of_mem_pieces (h.mem hq)
  obtain ⟨rest, hrest⟩ := h
  have hdot : pieces ('.' :: '/' :: cs) = "." :: pieces cs := pieces_append ['.'] cs
  refine ⟨htext rest cs hrest.symm, ?_⟩
  rw [hparts, hdot, ← hrest]
  simp

/-- **The parent** of a path name that is not absolute has a beginning of its text and of its
parts. -/
theorem of_parent {p q : PathName} (hp : p.isAbsolute = false) (h : p.parent? = some q) :
    q.text.toList <+: p.text.toList ∧ q.parts <+: p.parts := by
  have hcs := not_prefix_of_relative hp
  unfold parent? lead at h
  rw [parts.eq_1 p]
  generalize p.text.toList = cs at h hcs ⊢
  split at h
  next front body hlead =>
  split at hlead
  · exact absurd ⟨_, rfl⟩ hcs
  · -- a lone `.`
    obtain ⟨rfl, rfl⟩ := Prod.mk.inj hlead
    cases h
    exact ⟨List.nil_prefix, List.nil_prefix⟩
  · -- a `.` at the beginning, which the parent keeps
    next rest =>
    obtain ⟨rfl, rfl⟩ := Prod.mk.inj hlead
    have hpieces : pieces ('/' :: rest) = "" :: pieces rest := rfl
    rcases trimmed_cases ("" :: pieces rest) with hnil | ⟨before, last, heq, hlast⟩
    · simp only [hpieces, hnil] at h
      cases h
      exact ⟨List.nil_prefix, List.nil_prefix⟩
    · have hbeginning := isPrefix_trimmed ("" :: pieces rest)
      rw [heq] at hbeginning
      cases before with
      | nil =>
        obtain ⟨rfl, -⟩ := List.cons_prefix_cons.1 hbeginning
        cases hlast
      | cons first behind =>
        obtain ⟨rfl, hbehind⟩ := List.cons_prefix_cons.1 hbeginning
        obtain rfl : PathName.mk ("." ++ "/".intercalate (trimmed ("" :: behind))) = q := by
          simpa [hpieces, heq, PathPart.text, String.join] using h
        exact dot_intercalate_trimmed_isPrefix ((List.prefix_append _ _).trans hbehind)
  · obtain ⟨rfl, rfl⟩ := Prod.mk.inj hlead
    rcases trimmed_cases (pieces cs) with hnil | ⟨before, last, heq, hlast⟩
    · simp [hnil] at h
    · have hbeginning := isPrefix_trimmed (pieces cs)
      rw [heq] at hbeginning
      obtain rfl : PathName.mk ("/".intercalate (trimmed before)) = q := by
        simpa [heq, String.join] using h
      exact intercalate_trimmed_isPrefix ((List.prefix_append _ _).trans hbeginning)

theorem relative_of_isPrefix {p q : PathName} (hp : p.isAbsolute = false)
    (h : q.text.toList <+: p.text.toList) : q.isAbsolute = false := by
  rw [isAbsolute, ← Bool.not_eq_true, startsWith_slash_iff]
  exact fun habsolute => not_prefix_of_relative hp (habsolute.trans h)

/-- Path names of directories above are beginnings of a path name. -/
theorem of_mem_ancestors {p q : PathName} (hp : p.isAbsolute = false) {n : ℕ}
    (h : q ∈ p.ancestors n) : q.text.toList <+: p.text.toList ∧ q.parts <+: p.parts := by
  induction n generalizing p with
  | zero => cases h
  | succ n ih =>
    rw [ancestors] at h
    rcases List.mem_cons.1 h with rfl | h
    · exact ⟨List.prefix_refl _, List.prefix_refl _⟩
    · cases hparent : p.parent? with
      | none =>
        rw [hparent] at h
        cases h
      | some r =>
        rw [hparent] at h
        obtain ⟨htext, hparts⟩ := of_parent hp hparent
        obtain ⟨htext', hparts'⟩ := ih (relative_of_isPrefix hp htext) h
        exact ⟨htext'.trans htext, hparts'.trans hparts⟩

end PathName

/-! ### Directories that stay -/

namespace FileTree

variable {t t' t'' : FileTree} {x y z : Place} {p : PathName} {places : Place → Prop}

/-- Each directory of the first tree is one of the second. -/
def Keeps (t t' : FileTree) : Prop :=
  ∀ y, t.entry? y = some .directory → t'.entry? y = some .directory

theorem descend_of_keeps (h : t.Keeps t') {piece : String} (hp : t.descend x piece = .ok y) :
    t'.descend x piece = .ok y := by
  have hx := (of_descend_eq_ok hp).1
  rw [descend, checkDirectory, hx] at hp
  rw [descend, checkDirectory, h x hx]
  exact hp

theorem foldlM_descend_of_keeps (h : t.Keeps t') {pieces : List String}
    (hp : pieces.foldlM t.descend x = .ok y) : pieces.foldlM t'.descend x = .ok y := by
  induction pieces generalizing x with
  | nil => exact hp
  | cons piece pieces ih =>
    rw [List.foldlM_cons] at hp
    obtain ⟨w, hw, hrest⟩ := exists_of_bind_eq_ok hp
    rw [List.foldlM_cons, descend_of_keeps h hw]
    exact ih hrest

/-- **While all directories stay, path names lead where they led.** -/
theorem locate_of_keeps (h : t.Keeps t') (hp : t.locate p = .ok y) : t'.locate p = .ok y := by
  obtain ⟨pieces, hpieces, hfollow⟩ := exists_of_bind_eq_ok hp
  rw [locate, hpieces]
  exact foldlM_descend_of_keeps h hfollow

theorem read_eq_ok_iff {text : String} : t.read p = .ok text ↔
    ∃ y, t.locate p = .ok y ∧ t.entry? y = some (.file (.text text)) := by
  rw [read]
  cases hlocate : t.locate p with
  | error e => simp [bind, Except.bind]
  | ok y =>
    simp only [bind, Except.bind, Except.ok.injEq, exists_eq_left']
    rcases t.entry? y with _ | _ | _ | _ <;> simp

/-! ### What can be located -/

theorem size_le_of_descend {piece : String} (h : t.descend x piece = .ok y)
    (hpart : PathName.isPart piece = true) : piece.utf8ByteSize ≤ nameLimit := by
  obtain ⟨-, -, hpiece⟩ := exists_of_bind_eq_ok h
  by_cases hparent : piece = ".."
  · subst hparent
    decide
  · rw [PathName.ofPiece?_of_isPart hpart hparent] at hpiece
    by_contra hlong
    rw [Nat.not_le] at hlong
    simp [PathPart.text, hlong] at hpiece

theorem size_le_of_foldlM {pieces : List String} (h : pieces.foldlM t.descend x = .ok y) :
    ∀ piece ∈ pieces, PathName.isPart piece = true → piece.utf8ByteSize ≤ nameLimit := by
  induction pieces generalizing x with
  | nil => exact nofun
  | cons piece pieces ih =>
    rw [List.foldlM_cons] at h
    obtain ⟨w, hw, hrest⟩ := exists_of_bind_eq_ok h
    exact List.forall_mem_cons.2 ⟨size_le_of_descend hw, ih hrest⟩

/-- Nothing keeps a path name from being followed that leads somewhere. -/
theorem sound_of_locate (h : t.locate p = .ok y) : Sound p := by
  obtain ⟨pieces, hpieces, hfollow⟩ := exists_of_bind_eq_ok h
  obtain ⟨hnul, hrelative, rfl⟩ := of_piecesOf_eq_ok hpieces
  refine ⟨hnul, hrelative, ?_, fun part hpart => ?_⟩
  · rw [piecesOf] at hpieces
    split_ifs at hpieces with _ _ hlong
    exact Nat.not_lt.1 hlong
  · obtain ⟨hmem, hpart⟩ := List.mem_filter.1 hpart
    exact size_le_of_foldlM hfollow part hmem hpart

/-! ### The files of a tree -/

/-- The places of the regular files below a place, as they are listed. -/
def filesUnder (t : FileTree) (root : Place) : List Place :=
  t.entries.filterMap fun
    | (place, .file _) => if root.isPrefixOf place then some place else none
    | _ => none

theorem filesBelow_eq (t : FileTree) (p : PathName) : t.filesBelow p =
    (t.locate p).map fun root =>
      (t.filesUnder root).map fun place => p.joinAll (place.drop root.length) := by
  rw [filesBelow]
  cases t.locate p with
  | error e => rfl
  | ok root =>
    simp only [bind, Except.bind, Except.map, pure, Except.pure, filesUnder, List.map_filterMap]
    congr 2
    funext e
    rcases e with ⟨place, _ | c⟩
    · rfl
    · by_cases h : root.isPrefixOf place = true <;> simp [h]

theorem filesUnder_erase {root : Place} (h : ¬ root <+: x) :
    FileTree.filesUnder (t.erase x) root = t.filesUnder root := by
  rw [filesUnder, filesUnder, erase, List.filterMap_filter]
  refine List.filterMap_congr fun e _ => ?_
  rcases e with ⟨place, _ | c⟩
  · simp
  · by_cases hplace : place = x
    · subst hplace
      simp [List.isPrefixOf_iff_prefix, h]
    · simp [hplace]

theorem filesUnder_insert {root : Place} (h : ¬ root <+: x) (e : Entry) :
    FileTree.filesUnder (t.insert x e) root = t.filesUnder root := by
  have herase := filesUnder_erase (t := t) h
  rw [filesUnder] at herase
  rw [filesUnder, insert, List.filterMap_append, herase]
  cases e <;> simp [List.isPrefixOf_iff_prefix, h]

/-- A directory is no file. -/
theorem filesUnder_insert_directory (hx : t.entry? x = none) (root : Place) :
    FileTree.filesUnder (t.insert x .directory) root = t.filesUnder root := by
  have hne : x ≠ [] := by
    rintro rfl
    cases hx
  rw [entry?_of_ne_nil hne, Option.map_eq_none_iff, List.find?_eq_none] at hx
  have herase : t.erase x = t := by
    rw [erase, List.filter_eq_self.2 fun e he => by simpa using hx e he]
  rw [filesUnder, insert, herase, List.filterMap_append, filesUnder]
  simp

/-! ### Growing -/

/-- The second tree is the first with more directories, each at one of the places, where nothing
was. -/
structure Grown (t : FileTree) (places : Place → Prop) (t' : FileTree) : Prop where
  entry : ∀ y, t'.entry? y = t.entry? y ∨
    places y ∧ t.entry? y = none ∧ t'.entry? y = some .directory
  files : ∀ root, t'.filesUnder root = t.filesUnder root

theorem Grown.refl (t : FileTree) (places : Place → Prop) : t.Grown places t :=
  ⟨fun _ => .inl rfl, fun _ => rfl⟩

theorem Grown.trans (h : t.Grown places t') (h' : t'.Grown places t'') : t.Grown places t'' := by
  refine ⟨fun y => ?_, fun root => (h'.files root).trans (h.files root)⟩
  rcases h.entry y with hsame | ⟨hy, hnone, hdirectory⟩
  · rw [← hsame]
    exact h'.entry y
  · rcases h'.entry y with hsame' | ⟨-, hnone', -⟩
    · exact .inr ⟨hy, hnone, hsame'.trans hdirectory⟩
    · cases hnone'.symm.trans hdirectory

theorem Grown.keeps (h : t.Grown places t') : t.Keeps t' := by
  intro y hy
  rcases h.entry y with hsame | ⟨-, hnone, -⟩
  · exact hsame.trans hy
  · cases hnone.symm.trans hy

theorem Grown.insert (hy : t.entry? y = none) (hplaces : places y) :
    t.Grown places (t.insert y .directory) := by
  have hne : y ≠ [] := by
    rintro rfl
    cases hy
  refine ⟨fun w => ?_, filesUnder_insert_directory hy⟩
  rw [entry?_insert hne]
  by_cases hw : w = y
  · subst hw
    exact .inr ⟨hplaces, hy, if_pos rfl⟩
  · exact .inl (if_neg hw)

theorem filter_dropWhile_empty (pieces : List String) :
    (pieces.dropWhile fun piece => piece = "").filter PathName.isPart =
      pieces.filter PathName.isPart := by
  induction pieces with
  | nil => rfl
  | cons piece pieces ih =>
    by_cases h : piece = ""
    · simp [h, ih]
    · simp [h]

theorem exists_way_of_locateNew (h : t.locateNew p = .ok z) :
    ∃ passed, Way [] p.parts passed z := by
  obtain ⟨pieces, hpieces, hfollow⟩ := exists_of_bind_eq_ok h
  obtain ⟨-, -, rfl⟩ := of_piecesOf_eq_ok hpieces
  obtain ⟨passed, hway, -⟩ := exists_way_of_foldlM hfollow
  rw [List.filter_reverse, filter_dropWhile_empty, List.filter_reverse,
    List.reverse_reverse] at hway
  exact ⟨passed, hway⟩

theorem grown_of_makeDirectory (hplaces : ∀ passed y, Way [] p.parts passed y → places y)
    (h : t.makeDirectory p = .ok t') : t.Grown places t' := by
  obtain ⟨y, hy, hinsert⟩ := exists_of_bind_eq_ok h
  obtain ⟨passed, hway⟩ := exists_way_of_locateNew hy
  cases hentry : t.entry? y with
  | some e =>
    rw [hentry] at hinsert
    cases hinsert
  | none =>
    rw [hentry] at hinsert
    cases hinsert
    exact .insert hentry (hplaces passed y hway)

end FileTree

/-- Whatever comes of the program, the tree has only grown. -/
def OnlyGrows {α : Type} (places : Place → Prop) (x : StateM Disk α) : Prop :=
  ∀ t, ∃ a t', x.run (.ofTree t) = (a, .ofTree t') ∧ t.Grown places t'

namespace OnlyGrows

variable {α β : Type} {places : Place → Prop} {p : PathName}

theorem pure (a : α) : OnlyGrows places (Pure.pure a) := fun t => ⟨a, t, rfl, .refl t places⟩

theorem bind {x : StateM Disk α} {f : α → StateM Disk β} (hx : OnlyGrows places x)
    (hf : ∀ a, OnlyGrows places (f a)) : OnlyGrows places (x >>= f) := by
  intro t
  obtain ⟨a, t₁, hrun, hgrown⟩ := hx t
  obtain ⟨b, t₂, hrun', hgrown'⟩ := hf a t₁
  exact ⟨b, t₂, (run_bind_of_eq hrun).trans hrun', hgrown.trans hgrown'⟩

theorem isDirectory : OnlyGrows places (FileSystem.isDirectory p) := fun t =>
  ⟨t.isDirectory p, t, rfl, .refl t places⟩

theorem makeDirectory (h : ∀ passed y, Way [] p.parts passed y → places y) :
    OnlyGrows places (FileSystem.makeDirectory p) := by
  intro t
  have hrun := run_makeDirectory (t := t) (p := p)
  cases hmake : t.makeDirectory p with
  | ok t' =>
    rw [hmake] at hrun
    exact ⟨_, t', hrun, FileTree.grown_of_makeDirectory h hmake⟩
  | error e =>
    rw [hmake] at hrun
    exact ⟨_, t, hrun, .refl t places⟩

theorem ensureDirectory (h : ∀ passed y, Way [] p.parts passed y → places y) :
    OnlyGrows places (PatternFactory.ensureDirectory p) := by
  refine (makeDirectory h).bind fun r => ?_
  cases r with
  | ok _ => exact .pure _
  | error e =>
    refine isDirectory.bind fun found => ?_
    cases found <;> exact .pure _

theorem makeLineage {ps : List PathName}
    (h : ∀ p ∈ ps, ∀ passed y, Way [] p.parts passed y → places y) :
    OnlyGrows places (PatternFactory.makeLineage ps) := by
  induction ps with
  | nil => exact .pure _
  | cons p parents ih =>
    obtain ⟨hp, hparents⟩ := List.forall_mem_cons.1 h
    rw [PatternFactory.makeLineage]
    -- whichever branch is taken, only directories of the lineage are made
    split
    · exact .pure _
    · refine (makeDirectory hp).bind fun r => ?_
      split
      · exact .pure _
      · refine (ih hparents).bind fun r' => ?_
        cases r' with
        | error e => exact .pure _
        | ok _ => exact ensureDirectory hp
      · refine isDirectory.bind fun found => ?_
        cases found <;> exact .pure _

/-- **Making the directory of a file only makes directories on the way to it.** -/
theorem makeParents {name : String} {passed : List Place} {z : Place}
    (hname : PathName.IsName name) (hrelative : (p.join name).isAbsolute = false)
    (hway : Way [] p.parts passed z) :
    OnlyGrows (· ∈ passed ++ [z]) (PatternFactory.makeParents (p.join name)) := by
  obtain ⟨before, hpieces, hbefore⟩ := PathName.exists_pieces_join hname p
  obtain ⟨q, hq, -, hparts, hbeginning⟩ := PathName.exists_parent hrelative hpieces hname.isPart
  rw [PatternFactory.makeParents, hq]
  refine makeLineage fun r hr passed' y hy => ?_
  -- the parts of a directory above are the first parts of this one
  have hr := (PathName.of_mem_ancestors (PathName.relative_of_isPrefix hrelative hbeginning) hr).2
  rw [hparts, hbefore] at hr
  exact hway.mem_of_isPrefix hy hr

end OnlyGrows

end PatternFactory
