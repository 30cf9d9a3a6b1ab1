import PatternFactory.Proofs.Course
import PatternFactory.Proofs.PathParts

/-!
# Ways through file trees

The parts of a path name lead over some places to a last one, whether or not these places hold
anything: `Way`.  In a tree the path name can be followed if all the places before the last are
directories (`FileTree.foldlM_descend_of_way`).

A directory and its missing parents can be made if no place on the way holds a regular file.  Then
all of them are directories and nothing else has changed (`run_makeDirectories`).
-/

namespace PatternFactory

/-! ### What is at a place -/

namespace FileTree

variable {t : FileTree} {x y z : Place}

@[simp] theorem entry?_nil (t : FileTree) : t.entry? [] = some .directory := rfl

theorem entry?_of_ne_nil (hx : x ≠ []) :
    t.entry? x = (t.entries.find? fun e => e.1 = x).map Prod.snd := by
  rw [ entry?, if_neg hx]

theorem entry?_erase (hx : x ≠ []) :
    FileTree.entry? (t.erase x) y = if y = x then none else t.entry? y := by
  by_cases hy : y = []
  · subst hy
    simp [Ne.symm hx]
  · rw [entry?_of_ne_nil hy, entry?_of_ne_nil hy, erase, List.find?_filter]
    split_ifs with h
    · subst h
      rw [List.find?_eq_none.2 (by simp), Option.map_none]
    · congr 2
      funext e
      by_cases he : e.1 = y <;> simp [he, h]

theorem entry?_insert (hx : x ≠ []) (e : Entry) :
    FileTree.entry? (t.insert x e) y = if y = x then some e else t.entry? y := by
  by_cases hy : y = []
  · subst hy
    simp [Ne.symm hx]
  · have herase := entry?_erase hx (t := t) (y := y)
    rw [entry?_of_ne_nil hy] at herase
    rw [entry?_of_ne_nil hy, insert, List.find?_append]
    split_ifs with h
    · subst h
      rw [if_pos rfl, Option.map_eq_none_iff] at herase
      simp [herase]
    · rw [if_neg h] at herase
      rw [← herase]
      simp [Ne.symm h]

theorem content?_eq_none_iff {t : FileTree} :
    t.content? x = none ↔ t.entry? x = none ∨ t.entry? x = some .directory := by
  rw [content?]
  rcases t.entry? x with _ | _ | c <;> simp

end FileTree

/-! ### Following a way -/

/-- The place that a part leads to. -/
def turn (x : Place) (part : String) : Option Place :=
  if part = ".." then if x = [] then none else some x.dropLast else some (x ++ [part])

/-- From a place, parts lead over some places to another. -/
inductive Way : Place → List String → List Place → Place → Prop
  | here {x} : Way x [] [] x
  | on {x part y parts passed z} (h : turn x part = some y) (hrest : Way y parts passed z) :
      Way x (part :: parts) (x :: passed) z

namespace Way

variable {x y z : Place} {ps qs : List String} {passed passed' : List Place}

theorem append (h : Way x ps passed y) (h' : Way y qs passed' z) :
    Way x (ps ++ qs) (passed ++ passed') z := by
  induction h with
  | here => exact h'
  | on hturn _ ih => exact .on hturn (ih h')

/-- Before its last part a way leads to the place where that part is followed. -/
theorem of_snoc {part : String} (h : Way x (ps ++ [part]) passed z) :
    ∃ passed₁ y, Way x ps passed₁ y ∧ passed = passed₁ ++ [y] ∧ turn y part = some z := by
  induction ps generalizing x passed with
  | nil =>
    cases h with
    | on hturn hrest =>
      cases hrest
      exact ⟨[], x, .here, rfl, hturn⟩
  | cons p ps ih =>
    cases h with
    | on hturn hrest =>
      obtain ⟨passed₁, y, hway, rfl, hlast⟩ := ih hrest
      exact ⟨x :: passed₁, y, .on hturn hway, rfl, hlast⟩

/-- A file is in the directory to which the way before its name leads. -/
theorem of_snoc_plain {name : String} (h : Way x (ps ++ [name]) passed z) (hname : name ≠ "..") :
    ∃ passed₁ y, Way x ps passed₁ y ∧ passed = passed₁ ++ [y] ∧ z = y ++ [name] := by
  obtain ⟨passed₁, y, hway, rfl, hturn⟩ := h.of_snoc
  rw [turn, if_neg hname] at hturn
  exact ⟨passed₁, y, hway, rfl, (Option.some.inj hturn).symm⟩

end Way

namespace FileTree

variable {t : FileTree} {x y z : Place} {part : String} {ps : List String} {passed : List Place}

theorem descend_of_check_eq_error {e : FileError} (h : t.checkDirectory x = .error e) :
    t.descend x part = .error e := by
  rw [descend, h]
  rfl

theorem descend_of_check_eq_ok (h : t.checkDirectory x = .ok ())
    (hpart : PathName.isPart part = false) :
    t.descend x part = .ok x := by
  have hpart : PathName.ofPiece? part = none := by simpa [PathName.isPart] using hpart
  rw [descend, h, hpart]
  rfl

theorem descend_of_turn (hx : t.entry? x = some .directory) (hpart : PathName.isPart part = true)
    (hfits : part.utf8ByteSize ≤ nameLimit) (hturn : turn x part = some y) :
    t.descend x part = .ok y := by
  obtain ⟨hempty, hdot⟩ := PathName.isPart_iff.1 hpart
  have hcheck : t.checkDirectory x = .ok () := by rw [checkDirectory, hx]
  rw [turn] at hturn
  rw [descend, hcheck]
  by_cases hparent : part = ".."
  · subst hparent
    rw [if_pos rfl] at hturn
    split_ifs at hturn with hx
    obtain rfl := Option.some.inj hturn
    simp [PathName.ofPiece?, bind, Except.bind, hx]
  · rw [if_neg hparent] at hturn
    obtain rfl := Option.some.inj hturn
    simp [PathName.ofPiece?, bind, Except.bind, hempty, hdot, hparent, PathPart.text,
      Nat.not_lt.2 hfits]

/-- Pieces that do not count ask only whether a place is a directory, and the next one asks
again. -/
theorem foldlM_descend_filter {before : List String} {last : String} :
    (before ++ [last]).foldlM t.descend x =
      (before.filter PathName.isPart ++ [last]).foldlM t.descend x := by
  induction before generalizing x with
  | nil => rfl
  | cons piece before ih =>
    rw [List.cons_append, List.foldlM_cons]
    cases hpiece : PathName.isPart piece with
    | true =>
      rw [List.filter_cons_of_pos hpiece, List.cons_append, List.foldlM_cons]
      simp only [ih]
    | false =>
      rw [List.filter_cons_of_neg (by simp [hpiece])]
      cases hcheck : t.checkDirectory x with
      | ok _ =>
        rw [descend_of_check_eq_ok hcheck hpiece, ← ih]
        rfl
      | error e =>
        obtain ⟨first, rest, hfirst⟩ : ∃ first rest,
            before.filter PathName.isPart ++ [last] = first :: rest :=
          List.exists_cons_of_ne_nil (by simp)
        rw [hfirst, List.foldlM_cons, descend_of_check_eq_error hcheck,
          descend_of_check_eq_error hcheck]
        rfl

/-- **If the places before the last are directories, the way can be followed.** -/
theorem foldlM_descend_of_way (h : Way x ps passed z) (hpart : ∀ p ∈ ps, PathName.isPart p = true)
    (hfits : ∀ p ∈ ps, p.utf8ByteSize ≤ nameLimit)
    (hpassed : ∀ y ∈ passed, t.entry? y = some .directory) : ps.foldlM t.descend x = .ok z := by
  induction h with
  | here => rfl
  | on hturn _ ih =>
    obtain ⟨hx, hpassed⟩ := List.forall_mem_cons.1 hpassed
    obtain ⟨hp, hpart⟩ := List.forall_mem_cons.1 hpart
    obtain ⟨hsize, hfits⟩ := List.forall_mem_cons.1 hfits
    rw [List.foldlM_cons, descend_of_turn hx hp hsize hturn]
    exact ih hpart hfits hpassed

/-- If they are not, and none is a file, something is not found. -/
theorem foldlM_descend_of_missing (h : Way x ps passed z)
    (hpart : ∀ p ∈ ps, PathName.isPart p = true) (hfits : ∀ p ∈ ps, p.utf8ByteSize ≤ nameLimit)
    (hpassed : ∀ y ∈ passed, t.content? y = none) (hmissing : ∃ y ∈ passed, t.entry? y = none) :
    ps.foldlM t.descend x = .error .notFound := by
  induction h with
  | here =>
    obtain ⟨_, hy, -⟩ := hmissing
    cases hy
  | @on x _ _ _ _ _ hturn _ ih =>
    obtain ⟨hx, hpassed⟩ := List.forall_mem_cons.1 hpassed
    obtain ⟨hp, hpart⟩ := List.forall_mem_cons.1 hpart
    obtain ⟨hsize, hfits⟩ := List.forall_mem_cons.1 hfits
    rw [List.foldlM_cons]
    rcases content?_eq_none_iff.1 hx with hnone | hdir
    · have hcheck : t.checkDirectory x = .error .notFound := by rw [checkDirectory, hnone]
      rw [descend_of_check_eq_error hcheck]
      rfl
    · rw [descend_of_turn hdir hp hsize hturn]
      refine ih hpart hfits hpassed ?_
      obtain ⟨y, hy, hyn⟩ := hmissing
      rcases List.mem_cons.1 hy with rfl | hy
      · rw [hdir] at hyn
        cases hyn
      · exact ⟨y, hy, hyn⟩

theorem of_descend_eq_ok (h : t.descend x part = .ok y) :
    t.entry? x = some .directory ∧
      if PathName.isPart part = true then turn x part = some y else y = x := by
  have hcheck : t.checkDirectory x = .ok () := by
    cases hcheck : t.checkDirectory x with
    | ok _ => rfl
    | error e =>
      rw [descend_of_check_eq_error hcheck] at h
      cases h
  refine ⟨?_, ?_⟩
  · rw [checkDirectory] at hcheck
    split at hcheck <;> first | assumption | cases hcheck
  · rw [descend, hcheck] at h
    rw [PathName.isPart]
    cases hpiece : PathName.ofPiece? part with
    | none =>
      rw [hpiece] at h
      cases h
      simp
    | some p =>
      rw [hpiece] at h
      have hturn : turn x part = some y := by
        simp only [PathName.ofPiece?] at hpiece
        rw [turn]
        split_ifs at hpiece with hempty hparent <;> cases hpiece
        · change (if x = [] then Except.error FileError.notFound else .ok x.dropLast) = .ok y at h
          rw [if_pos hparent]
          split_ifs at h ⊢
          cases h
          rfl
        · change (if nameLimit < part.utf8ByteSize then Except.error FileError.nameTooLong
            else .ok (x ++ [part])) = Except.ok y at h
          rw [if_neg hparent]
          split_ifs at h
          cases h
          rfl
      simpa using hturn

/-- What can be followed is a way over directories. -/
theorem exists_way_of_foldlM (h : ps.foldlM t.descend x = .ok z) :
    ∃ passed, Way x (ps.filter PathName.isPart) passed z ∧
      ∀ y ∈ passed, t.entry? y = some .directory := by
  induction ps generalizing x with
  | nil =>
    cases h
    exact ⟨[], .here, nofun⟩
  | cons piece ps ih =>
    rw [List.foldlM_cons] at h
    cases hpiece : t.descend x piece with
    | error e =>
      rw [hpiece] at h
      cases h
    | ok y =>
      rw [hpiece] at h
      obtain ⟨hx, hturn⟩ := of_descend_eq_ok hpiece
      obtain ⟨passed, hway, hpassed⟩ := ih h
      rw [List.filter_cons]
      split_ifs at hturn ⊢ with hpart
      · exact ⟨x :: passed, .on hturn hway, List.forall_mem_cons.2 ⟨hx, hpassed⟩⟩
      · subst hturn
        exact ⟨passed, hway, hpassed⟩

/-! ### Locating -/

/-- Nothing about the text of the path name keeps it from being followed. -/
structure Sound (p : PathName) : Prop where
  noNul : '\x00' ∉ p.text.toList
  relative : p.isAbsolute = false
  short : p.text.utf8ByteSize ≤ pathLimit
  names : ∀ part ∈ p.parts, part.utf8ByteSize ≤ nameLimit

/-- A beginning of a sound path name is sound, if its parts are parts of that. -/
theorem Sound.of_prefix {p q : PathName} (h : Sound p) (hq : q.text.toList <+: p.text.toList)
    (hparts : ∀ part ∈ q.parts, part ∈ p.parts) : Sound q := by
  refine ⟨fun hnul => h.noNul (hq.mem hnul), ?_, ?_,
    fun part hpart => h.names part (hparts part hpart)⟩
  · rw [PathName.isAbsolute, ← Bool.not_eq_true, PathName.startsWith_slash_iff]
    exact fun habsolute => PathName.not_prefix_of_relative h.relative (habsolute.trans hq)
  · obtain ⟨rest, hrest⟩ := hq
    have htext : p.text = q.text ++ String.ofList rest := by
      rw [← String.toList_inj, String.toList_append, String.toList_ofList, hrest]
    have hshort := h.short
    rw [htext, String.utf8ByteSize_append] at hshort
    exact Nat.le_of_add_right_le hshort

theorem piecesOf_eq {p : PathName} (h : Sound p) (hne : p.text ≠ "") :
    piecesOf p = .ok (PathName.pieces p.text.toList) := by
  rw [piecesOf, List.contains_eq_mem, decide_eq_false h.noNul, h.relative]
  have hempty : p.text.isEmpty = false := by
    rw [← Bool.not_eq_true, String.isEmpty_iff]
    exact hne
  simp [hempty, Nat.not_lt.2 h.short]

theorem of_piecesOf_eq_ok {p : PathName} {ps : List String} (h : piecesOf p = .ok ps) :
    '\x00' ∉ p.text.toList ∧ p.isAbsolute = false ∧ ps = PathName.pieces p.text.toList := by
  rw [piecesOf, List.contains_eq_mem] at h
  split_ifs at h with hnul hempty hlong
  have hrelative : p.isAbsolute = false := by simp_all
  exact ⟨by simpa using hnul, hrelative, (Except.ok.inj h).symm⟩

variable {p : PathName}

/-- A path name that leads somewhere leads there over directories. -/
theorem exists_way_of_locate (h : t.locate p = .ok z) :
    '\x00' ∉ p.text.toList ∧ p.isAbsolute = false ∧
      ∃ passed, Way [] p.parts passed z ∧ ∀ y ∈ passed, t.entry? y = some .directory := by
  rw [locate] at h
  cases hpieces : piecesOf p with
  | error e =>
    rw [hpieces] at h
    cases h
  | ok ps =>
    rw [hpieces] at h
    obtain ⟨hnul, hrelative, rfl⟩ := of_piecesOf_eq_ok hpieces
    exact ⟨hnul, hrelative, exists_way_of_foldlM h⟩

/-- A tidy path name leads where its parts lead. -/
theorem locate_eq (h : Sound p) (htidy : p.Tidy) (hne : p.text ≠ "") :
    t.locate p = p.parts.foldlM t.descend [] ∧ t.locateNew p = p.parts.foldlM t.descend [] := by
  rw [locate, locateNew, piecesOf_eq h hne]
  cases htidy with
  | bare hbare =>
    have hdot := hbare.resolve_left hne
    rw [PathName.parts_of_bare hbare, hdot]
    exact ⟨rfl, rfl⟩
  | @ends before last hpieces hlast =>
    have hempty := (PathName.isPart_iff.1 hlast).1
    rw [PathName.parts_of_pieces hpieces hlast, ← foldlM_descend_filter]
    simp only [bind, Except.bind, follow, hpieces]
    simp [hempty]

/-- What making a directory comes to if the places before it are directories. -/
theorem makeDirectory_of_way (h : Sound p) (htidy : p.Tidy) (hne : p.text ≠ "")
    (hway : Way [] p.parts passed z) (hpassed : ∀ y ∈ passed, t.entry? y = some .directory) :
    t.isDirectory p = decide ( t.entry? z = some .directory) ∧
      t.makeDirectory p = if t.entry? z = none then .ok (t.insert z .directory)
        else .error .alreadyExists := by
  have hfollow := foldlM_descend_of_way hway p.isPart_of_mem_parts h.names hpassed
  obtain ⟨hlocate, hlocateNew⟩ := locate_eq (t := t) h htidy hne
  rw [isDirectory, makeDirectory, hlocate, hlocateNew, hfollow]
  refine ⟨by simp, ?_⟩
  cases hz : t.entry? z <;> simp [bind, Except.bind, hz]

theorem makeDirectory_of_missing (h : Sound p) (htidy : p.Tidy) (hne : p.text ≠ "")
    (hway : Way [] p.parts passed z) (hpassed : ∀ y ∈ passed, t.content? y = none)
    (hmissing : ∃ y ∈ passed, t.entry? y = none) : t.makeDirectory p = .error .notFound := by
  have hfollow := foldlM_descend_of_missing hway p.isPart_of_mem_parts h.names hpassed hmissing
  rw [makeDirectory, (locate_eq h htidy hne).2, hfollow]
  rfl

end FileTree

/-! ### Making directories -/

section

variable {t : FileTree} {p : PathName} {z : Place} {passed : List Place}

theorem run_makeDirectory : (FileSystem.makeDirectory p : StateM Disk _).run (.ofTree t) =
    match t.makeDirectory p with
    | .ok t' => (.ok (), .ofTree t')
    | .error e => (.error e, .ofTree t) := by
  change Disk.keep (t.makeDirectory p) (.ofTree t) = _
  cases t.makeDirectory p <;> rfl

theorem run_isDirectory : (FileSystem.isDirectory p : StateM Disk Bool).run (.ofTree t) =
    (t.isDirectory p, .ofTree t) := rfl

/-- The second tree is the first with directories at some places. -/
structure FileTree.WithDirectories (t : FileTree) (places : List Place) (t' : FileTree) :
    Prop where
  directory : ∀ y ∈ places, t'.entry? y = some .directory
  other : ∀ y, y ∉ places → t'.entry? y = t.entry? y

theorem FileTree.WithDirectories.refl {places : List Place}
    (h : ∀ y ∈ places, t.entry? y = some .directory) : t.WithDirectories places t :=
  ⟨h, fun _ _ => rfl⟩

theorem FileTree.WithDirectories.trans {xs ys : List Place} {t' t'' : FileTree}
    (h : t.WithDirectories xs t') (h' : t'.WithDirectories ys t'') :
    t.WithDirectories (xs ++ ys) t'' := by
  refine ⟨fun y hy => ?_, fun y hy => ?_⟩
  · by_cases hys : y ∈ ys
    · exact h'.directory y hys
    · rw [h'.other y hys]
      exact h.directory y ((List.mem_append.1 hy).resolve_right hys)
  · rw [List.mem_append, not_or] at hy
    exact (h'.other y hy.2).trans (h.other y hy.1)

/-- A directory is there when it has been made sure of. -/
theorem run_ensureDirectory (h : FileTree.Sound p) (htidy : p.Tidy) (hne : p.text ≠ "")
    (hway : Way [] p.parts passed z) (hpassed : ∀ y ∈ passed, t.entry? y = some .directory)
    (hz : t.content? z = none) :
    ∃ t', (ensureDirectory p : StateM Disk _).run (.ofTree t) = (.ok (), .ofTree t') ∧
      t.WithDirectories [z] t' := by
  obtain ⟨hisDirectory, hmake⟩ := FileTree.makeDirectory_of_way h htidy hne hway hpassed
  rcases FileTree.content?_eq_none_iff.1 hz with hnone | hdir
  · rw [if_pos hnone] at hmake
    refine ⟨t.insert z .directory, ?_, ?_⟩
    · have hrun := run_makeDirectory (t := t) (p := p)
      rw [hmake] at hrun
      rw [ensureDirectory, run_bind_of_eq hrun]
      rfl
    · have hz : z ≠ [] := fun hz => by
        rw [hz] at hnone
        cases hnone
      refine ⟨fun y hy => ?_, fun y hy => ?_⟩
      · rw [FileTree.entry?_insert hz, if_pos (List.mem_singleton.1 hy)]
      · rw [FileTree.entry?_insert hz, if_neg (mt List.mem_singleton.2 hy)]
  · have hexists : t.entry? z ≠ none := by simp [hdir]
    rw [if_neg hexists] at hmake
    refine ⟨t, ?_, .refl (by simpa using hdir)⟩
    have hrun := run_makeDirectory (t := t) (p := p)
    rw [hmake] at hrun
    have hyes : t.isDirectory p = true := hisDirectory.trans (decide_eq_true hdir)
    rw [ensureDirectory, run_bind_of_eq hrun]
    dsimp only
    rw [run_bind_of_eq run_isDirectory, hyes]
    rfl

/-- Only if something is not found does making a directory begin with its parents. -/
theorem run_makeLineage_cons (hne : p.text ≠ "") (parents : List PathName)
    (hfound : t.makeDirectory p ≠ .error .notFound) :
    (makeLineage (p :: parents) : StateM Disk _).run (.ofTree t) =
      (ensureDirectory p : StateM Disk _).run (.ofTree t) := by
  have hempty : p.text.isEmpty = false := by
    rw [← Bool.not_eq_true, String.isEmpty_iff]
    exact hne
  have hrun := run_makeDirectory (t := t) (p := p)
  rw [makeLineage, hempty, ensureDirectory]
  simp only [Bool.false_eq_true, ↓reduceIte]
  cases hmake : t.makeDirectory p with
  | ok t' =>
    rw [hmake] at hrun
    rw [run_bind_of_eq hrun, run_bind_of_eq hrun]
  | error e =>
    rw [hmake] at hrun
    rw [run_bind_of_eq hrun, run_bind_of_eq hrun]
    have he : e ≠ .notFound := fun he => hfound (he ▸ hmake)
    cases e <;> first | rfl | exact absurd rfl he

theorem run_makeLineage_of_missing (hne : p.text ≠ "") {parents : List PathName} {t' : FileTree}
    (hmissing : t.makeDirectory p = .error .notFound)
    (hparents : (makeLineage parents : StateM Disk _).run (.ofTree t) = (.ok (), .ofTree t')) :
    (makeLineage (p :: parents) : StateM Disk _).run (.ofTree t) =
      (ensureDirectory p : StateM Disk _).run (.ofTree t') := by
  have hempty : p.text.isEmpty = false := by
    rw [← Bool.not_eq_true, String.isEmpty_iff]
    exact hne
  have hrun := run_makeDirectory (t := t) (p := p)
  rw [hmissing] at hrun
  rw [makeLineage, hempty]
  simp only [Bool.false_eq_true, ↓reduceIte]
  rw [run_bind_of_eq hrun]
  dsimp only
  rw [run_bind_of_eq hparents]

/-- The parent of a tidy path name is tidy and shorter, and the way to it is a part of the way: all
of it but the last place, unless that is the only one. -/
theorem PathName.Tidy.exists_parent (htidy : p.Tidy) (h : FileTree.Sound p) (hne : p.text ≠ "")
    (hway : Way [] p.parts passed z) :
    ∃ q passed' y, p.parent? = some q ∧ q.Tidy ∧ FileTree.Sound q ∧
      q.text.length < p.text.length ∧ Way [] q.parts passed' y ∧
      passed' ++ [y] ⊆ passed ++ [z] ∧ (passed ≠ [] → passed = passed' ++ [y]) := by
  cases htidy with
  | bare hbare =>
    obtain rfl : p = ⟨"."⟩ := congrArg PathName.mk (hbare.resolve_left hne)
    cases hway
    refine ⟨⟨""⟩, [], [], rfl, .bare (.inl rfl), ?_, by decide, .here, by simp,
      fun hpassed => absurd rfl hpassed⟩
    exact h.of_prefix List.nil_prefix nofun
  | @ends before last hpieces hlast =>
    obtain ⟨q, hq, hqtidy, hqparts, hqtext⟩ := PathName.exists_parent h.relative hpieces hlast
    have hparts : p.parts = q.parts ++ [last] := by
      rw [PathName.parts_of_pieces hpieces hlast, hqparts]
    have hqsound : FileTree.Sound q := h.of_prefix hqtext fun part hpart =>
      hparts ▸ List.mem_append_left _ hpart
    have hshorter : q.text.length < p.text.length := by
      rw [← String.length_toList, ← String.length_toList]
      refine Nat.lt_of_le_of_ne hqtext.length_le fun hlength => ?_
      have htext : q = p := congrArg PathName.mk
        (String.toList_inj.1 (hqtext.eq_of_length hlength))
      rw [htext] at hparts
      simp at hparts
    rw [hparts] at hway
    obtain ⟨passed', y, hqway, rfl, -⟩ := hway.of_snoc
    exact ⟨q, passed', y, hq, hqtidy, hqsound, hshorter, hqway, List.subset_append_left _ _,
      fun _ => rfl⟩

/-- **A directory and its missing parents can be made** if no regular file stands on the way. -/
theorem run_makeLineage {n : Nat} (h : FileTree.Sound p) (htidy : p.Tidy)
    (hway : Way [] p.parts passed z) (hfree : ∀ y ∈ passed ++ [z], t.content? y = none)
    (hn : p.text.length < n) :
    ∃ t', (makeLineage (p.ancestors n) : StateM Disk _).run (.ofTree t) = (.ok (), .ofTree t') ∧
      t.WithDirectories (passed ++ [z]) t' := by
  induction n generalizing p z passed with
  | zero => exact absurd hn (Nat.not_lt_zero _)
  | succ n ih =>
    obtain ⟨parents, hparents⟩ : ∃ parents, p.ancestors (n + 1) = p :: parents := ⟨_, rfl⟩
    obtain ⟨hpassed, hz⟩ := List.forall_mem_append.1 hfree
    have hz := hz z (List.mem_singleton_self z)
    by_cases hempty : p.text = ""
    · -- the empty path name is where every lineage may end
      rw [PathName.parts_of_bare (.inl hempty)] at hway
      cases hway
      refine ⟨t, ?_, .refl (by simp)⟩
      rw [hparents, makeLineage, String.isEmpty_iff.2 hempty]
      rfl
    by_cases hdirs : ∀ y ∈ passed, t.entry? y = some .directory
    · obtain ⟨-, hmake⟩ := FileTree.makeDirectory_of_way h htidy hempty hway hdirs
      have hfound : t.makeDirectory p ≠ .error .notFound := by
        rw [hmake]
        split_ifs <;> nofun
      obtain ⟨t', hrun, hwith⟩ := run_ensureDirectory h htidy hempty hway hdirs hz
      exact ⟨t', by rw [hparents, run_makeLineage_cons hempty parents hfound, hrun],
        (FileTree.WithDirectories.refl hdirs).trans hwith⟩
    · have hmissing : ∃ y ∈ passed, t.entry? y = none := by
        push Not at hdirs
        obtain ⟨y, hy, hne⟩ := hdirs
        exact ⟨y, hy, (FileTree.content?_eq_none_iff.1 (hpassed y hy)).resolve_right hne⟩
      have hnotFound := FileTree.makeDirectory_of_missing h htidy hempty hway hpassed hmissing
      obtain ⟨q, before, y, hq, hqtidy, hqsound, hshorter, hqway, -, hbefore⟩ :=
        htidy.exists_parent h hempty hway
      obtain rfl : passed = before ++ [y] := hbefore (by rintro rfl; simp at hmissing)
      have hlength : q.text.length < n := Nat.lt_of_lt_of_le hshorter (Nat.le_of_lt_succ hn)
      obtain ⟨t₁, hparentsRun, hwith⟩ := ih hqsound hqtidy hqway hpassed hlength
      have hz₁ : t₁.content? z = none := by
        rw [FileTree.content?_eq_none_iff]
        by_cases hzpassed : z ∈ before ++ [y]
        · exact .inr (hwith.directory z hzpassed)
        · rw [hwith.other z hzpassed]
          exact FileTree.content?_eq_none_iff.1 hz
      obtain ⟨t', hrun, hwith'⟩ := run_ensureDirectory h htidy hempty hway hwith.directory hz₁
      refine ⟨t', ?_, hwith.trans hwith'⟩
      rw [PathName.ancestors, hq, run_makeLineage_of_missing hempty hnotFound hparentsRun, hrun]

theorem run_makeDirectories (h : FileTree.Sound p) (htidy : p.Tidy) (hway : Way [] p.parts passed z)
    (hfree : ∀ y ∈ passed ++ [z], t.content? y = none) :
    ∃ t', (makeDirectories p : StateM Disk _).run (.ofTree t) = (.ok (), .ofTree t') ∧
      t.WithDirectories (passed ++ [z]) t' :=
  run_makeLineage h htidy hway hfree (Nat.lt_succ_self _)

/-- The directory can be made that a file is to be in. -/
theorem run_makeParents {name : String} (h : FileTree.Sound (p.join name))
    (hname : PathName.IsName name) (hway : Way [] p.parts passed z)
    (hfree : ∀ y ∈ passed ++ [z], t.content? y = none) :
    ∃ t', (makeParents (p.join name) : StateM Disk _).run (.ofTree t) = (.ok (), .ofTree t') ∧
      t.WithDirectories (passed ++ [z]) t' := by
  obtain ⟨before, hpieces, hbefore⟩ := PathName.exists_pieces_join hname p
  obtain ⟨q, hq, htidy, hparts, hprefix⟩ :=
    PathName.exists_parent h.relative hpieces hname.isPart
  have hparts : q.parts = p.parts := hparts.trans hbefore
  have hsound : FileTree.Sound q := h.of_prefix hprefix fun part hpart => by
    rw [PathName.parts_join hname, ← hparts]
    exact List.mem_append_left _ hpart
  rw [makeParents, hq]
  exact run_makeDirectories hsound htidy (hparts ▸ hway) hfree

end

end PatternFactory
