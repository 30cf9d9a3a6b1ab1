import PatternFactory.Proofs.Storing

/-!
# Emitting a unit is all or nothing

Anything may go wrong while the file of a unit is written, on any tree.  If a step fails
(`WriteFails`), then the emission fails with the error of that step, the name can be emitted again,
and the tree is spared (`FileTree.Spared`): what is new are directories, and nothing is left of the
temporary file.  Else the text is in its place (`FileTree.Replaced`).

A file that was not there may have a directory in its place afterwards, if its path name goes out of
a directory by `..`, since the missing directories on the way are made first.
-/

namespace PatternFactory

/-! ### Operations that may go wrong -/

namespace Disk

variable {d d' : Disk} {p q : PathName} {answer : Except FileError Unit}

/-- An operation is done, or an error is reported and the tree is the same or spoilt. -/
theorem of_attempt {op : FileTree → Except FileError FileTree}
    {spoilt : Mishap → FileTree → FileTree} (h : (attempt op spoilt).run d = (answer, d')) :
    (answer = .ok () ∧ op d.tree = .ok d'.tree) ∨
      ∃ e, answer = .error e ∧ (d'.tree = d.tree ∨ ∃ m, d'.tree = spoilt m d.tree) := by
  have hkeep {rest : List (Option Mishap)}
      (h : keep (op d.tree) ⟨d.tree, rest⟩ = (answer, d')) :
      (answer = .ok () ∧ op d.tree = .ok d'.tree) ∨
        ∃ e, answer = .error e ∧ (d'.tree = d.tree ∨ ∃ m, d'.tree = spoilt m d.tree) := by
    cases hop : op d.tree with
    | ok t =>
      rw [hop] at h
      cases h
      exact .inl ⟨rfl, rfl⟩
    | error e =>
      rw [hop] at h
      cases h
      exact .inr ⟨e, rfl, .inl rfl⟩
  obtain ⟨t, mishaps⟩ := d
  match mishaps with
  | [] => exact hkeep h
  | none :: rest => exact hkeep h
  | some m :: rest =>
    cases h
    exact .inr ⟨m.error, rfl, .inr ⟨m, rfl⟩⟩

/-- An operation that spoils nothing. -/
theorem of_attempt_unspoilt {op : FileTree → Except FileError FileTree}
    (h : (attempt op fun _ t => t).run d = (answer, d')) :
    (answer = .ok () ∧ op d.tree = .ok d'.tree) ∨ ∃ e, answer = .error e ∧ d'.tree = d.tree :=
  (of_attempt h).imp_right fun ⟨e, he, htree⟩ => ⟨e, he, htree.elim id fun ⟨_, hm⟩ => hm⟩

theorem of_makeDirectory
    (h : (FileSystem.makeDirectory p : StateM Disk _).run d = (answer, d')) :
    (answer = .ok () ∧ d.tree.makeDirectory p = .ok d'.tree) ∨
      ∃ e, answer = .error e ∧ d'.tree = d.tree := of_attempt_unspoilt h

/-- If a file cannot be written, then it may hold anything. -/
theorem of_write {text : String}
    (h : (FileSystem.write p text : StateM Disk _).run d = (answer, d')) :
    (answer = .ok () ∧ d.tree.put p (.text text) = .ok d'.tree) ∨
      ∃ e, answer = .error e ∧ (d'.tree = d.tree ∨ ∃ c, d.tree.put p c = .ok d'.tree) := by
  refine (of_attempt h).imp_right fun ⟨e, he, htree⟩ => ⟨e, he, ?_⟩
  refine htree.elim .inl fun ⟨m, hm⟩ => ?_
  rw [spoilFile] at hm
  split at hm
  · exact .inl hm
  · next c _ =>
    cases hput : d.tree.put p c with
    | error _ =>
      rw [hput] at hm
      exact .inl hm
    | ok t =>
      rw [hput] at hm
      exact .inr ⟨c, by rw [hput, hm]; rfl⟩

theorem of_rename (h : (FileSystem.rename p q : StateM Disk _).run d = (answer, d')) :
    (answer = .ok () ∧ d.tree.rename p q = .ok d'.tree) ∨
      ∃ e, answer = .error e ∧ d'.tree = d.tree := of_attempt_unspoilt h

theorem of_remove (h : (FileSystem.remove p : StateM Disk _).run d = (answer, d')) :
    d.tree.remove p = .ok d'.tree ∨ (∃ e, d.tree.remove p = .error e) ∧ d'.tree = d.tree := by
  change d.keep (d.tree.remove p) = _ at h
  cases hremove : d.tree.remove p with
  | ok t =>
    rw [hremove] at h
    cases h
    exact .inl rfl
  | error e =>
    rw [hremove] at h
    cases h
    exact .inr ⟨⟨e, rfl⟩, rfl⟩

end Disk

/-! ### Making directories -/

section

variable {d d' : Disk} {p : PathName} {parents ps : List PathName} {z : Place}
  {passed : List Place} {answer : Except FileError Unit}

/-- A directory is made sure of, or it is not there. -/
theorem of_ensureDirectory (h : (ensureDirectory p : StateM Disk _).run d = (answer, d')) :
    (∃ made, (FileSystem.makeDirectory p : StateM Disk _).run d = (made, d')) ∧
      (answer = .ok () ∨ d'.tree.isDirectory p = false) := by
  obtain ⟨⟨made, d₁⟩, hmake⟩ :
      ∃ r, (FileSystem.makeDirectory p : StateM Disk _).run d = r := ⟨_, rfl⟩
  rw [ensureDirectory, run_bind_of_eq hmake] at h
  cases made with
  | ok _ =>
    cases h
    exact ⟨⟨_, hmake⟩, .inl rfl⟩
  | error e =>
    have hfound : (FileSystem.isDirectory p : StateM Disk Bool).run d₁ =
      (d₁.tree.isDirectory p, d₁) := rfl
    dsimp only at h
    rw [run_bind_of_eq hfound] at h
    cases hdirectory : d₁.tree.isDirectory p with
    | true =>
      rw [hdirectory] at h
      cases h
      exact ⟨⟨_, hmake⟩, .inl rfl⟩
    | false =>
      rw [hdirectory] at h
      cases h
      exact ⟨⟨_, hmake⟩, .inr hdirectory⟩

/-- To make a directory and its missing parents is to make it; or to make the parents, if something
is not found, and then the directory. -/
theorem of_makeLineage_cons (hne : p.text ≠ "")
    (h : (makeLineage (p :: parents) : StateM Disk _).run d = (answer, d')) :
    (ensureDirectory p : StateM Disk _).run d = (answer, d') ∨
      ∃ made d₁, (FileSystem.makeDirectory p : StateM Disk _).run d = (made, d₁) ∧
        ((∃ e, answer = .error e ∧
            (makeLineage parents : StateM Disk _).run d₁ = (.error e, d')) ∨
          ∃ d₂, (makeLineage parents : StateM Disk _).run d₁ = (.ok (), d₂) ∧
            (ensureDirectory p : StateM Disk _).run d₂ = (answer, d')) := by
  have hempty : p.text.isEmpty = false := by
    rw [← Bool.not_eq_true, String.isEmpty_iff]
    exact hne
  obtain ⟨⟨made, d₁⟩, hmake⟩ :
      ∃ r, (FileSystem.makeDirectory p : StateM Disk _).run d = r := ⟨_, rfl⟩
  rw [makeLineage, hempty] at h
  simp only [Bool.false_eq_true, ↓reduceIte] at h
  rw [run_bind_of_eq hmake] at h
  rw [ensureDirectory, run_bind_of_eq hmake]
  cases made with
  | ok _ => exact .inl h
  | error e =>
    by_cases he : e = .notFound
    · subst he
      obtain ⟨⟨madeParents, d₂⟩, hparents⟩ :
          ∃ r, (makeLineage parents : StateM Disk _).run d₁ = r := ⟨_, rfl⟩
      dsimp only at h
      rw [run_bind_of_eq hparents] at h
      cases madeParents with
      | error e =>
        cases h
        exact .inr ⟨_, d₁, hmake, .inl ⟨e, rfl, hparents⟩⟩
      | ok _ => exact .inr ⟨_, d₁, hmake, .inr ⟨d₂, hparents, h⟩⟩
    · refine .inl ?_
      cases e <;> first | exact h | exact absurd rfl he

/-- Whatever comes of making a directory, the tree has only grown. -/
theorem grown_of_run_makeDirectory {places : Place → Prop}
    (hplaces : ∀ passed y, Way [] p.parts passed y → places y)
    (h : (FileSystem.makeDirectory p : StateM Disk _).run d = (answer, d')) :
    d.tree.Grown places d'.tree := by
  obtain ⟨-, hmake⟩ | ⟨e, -, htree⟩ := Disk.of_makeDirectory h
  · exact FileTree.grown_of_makeDirectory hplaces hmake
  · rw [htree]
    exact .refl _ _

theorem grown_of_ensureDirectory {places : Place → Prop}
    (hplaces : ∀ passed y, Way [] p.parts passed y → places y)
    (h : (ensureDirectory p : StateM Disk _).run d = (answer, d')) :
    d.tree.Grown places d'.tree := by
  obtain ⟨⟨_, hmake⟩, -⟩ := of_ensureDirectory h
  exact grown_of_run_makeDirectory hplaces hmake

/-- **Whatever goes wrong when directories are made, the tree has only grown.** -/
theorem grown_of_makeLineage {places : Place → Prop}
    (hplaces : ∀ p ∈ ps, ∀ passed y, Way [] p.parts passed y → places y)
    (h : (makeLineage ps : StateM Disk _).run d = (answer, d')) :
    d.tree.Grown places d'.tree := by
  induction ps generalizing d d' answer with
  | nil =>
    cases h
    exact .refl _ _
  | cons p parents ih =>
    obtain ⟨hp, hparents⟩ := List.forall_mem_cons.1 hplaces
    by_cases hne : p.text = ""
    · rw [makeLineage, String.isEmpty_iff.2 hne] at h
      cases h
      exact .refl _ _
    · obtain hensure | ⟨made, d₁, hmake, ⟨e, -, hfailed⟩ | ⟨d₂, hmade, hensure⟩⟩ :=
        of_makeLineage_cons hne h
      · exact grown_of_ensureDirectory hp hensure
      · exact (grown_of_run_makeDirectory hp hmake).trans (ih hparents hfailed)
      · exact ((grown_of_run_makeDirectory hp hmake).trans (ih hparents hmade)).trans
          (grown_of_ensureDirectory hp hensure)

/-- **If directories cannot be made, then one is missing** on the way to the last of them. -/
theorem missing_of_makeLineage {n : Nat} {e : FileError} (hn : p.text.length < n)
    (hsound : FileTree.Sound p) (htidy : p.Tidy) (hway : Way [] p.parts passed z)
    (h : (makeLineage (p.ancestors n) : StateM Disk _).run d = (.error e, d')) :
    ¬ ∀ y ∈ passed ++ [z], d'.tree.entry? y = some .directory := by
  induction n generalizing p passed z d d' e with
  | zero => exact absurd hn (Nat.not_lt_zero _)
  | succ n ih =>
    by_cases hne : p.text = ""
    · rw [PathName.ancestors, makeLineage, String.isEmpty_iff.2 hne] at h
      cases h
    have hmissing {answer : Except FileError Unit} {d : Disk}
        (hensure : (ensureDirectory p : StateM Disk _).run d = (answer, d'))
        (hanswer : answer = .error e) :
        ¬ ∀ y ∈ passed ++ [z], d'.tree.entry? y = some .directory := by
      intro hdirectories
      obtain ⟨hpassed, hz⟩ := List.forall_mem_append.1 hdirectories
      have hfound := (FileTree.makeDirectory_of_way hsound htidy hne hway hpassed).1
      rw [hz z (List.mem_singleton_self z)] at hfound
      obtain hok | hnone := (of_ensureDirectory hensure).2
      · cases hanswer.symm.trans hok
      · rw [hnone] at hfound
        cases hfound
    obtain ⟨q, passed', y, hq, hqtidy, hqsound, hshorter, hqway, hsub, -⟩ :=
      htidy.exists_parent hsound hne hway
    rw [PathName.ancestors, hq] at h
    obtain hensure | ⟨made, d₁, -, ⟨e', -, hfailed⟩ | ⟨d₂, -, hensure⟩⟩ :=
      of_makeLineage_cons hne h
    · exact hmissing hensure rfl
    · -- a parent is missing, so the directory is
      have hlength : q.text.length < n := Nat.lt_of_lt_of_le hshorter (Nat.le_of_lt_succ hn)
      intro hdirectories
      exact ih hlength hqsound hqtidy hqway hfailed fun w hw => hdirectories w (hsub hw)
    · exact hmissing hensure rfl

end

/-! ### A file and its temporary file -/

/-- The path name is that of a file in a directory, and that of its temporary file has a longer last
name that begins as the name of the file does. -/
structure PathName.Beside (p dir : PathName) (name tmp : String) : Prop where
  eq : p = dir.join name
  temporary : p.temporary = dir.join tmp
  isName : PathName.IsName name
  isNameTmp : PathName.IsName tmp
  plain : name ≠ ".."
  plainTmp : tmp ≠ ".."
  begins : name.toList <+: tmp.toList
  ne : tmp ≠ name

namespace PathName

/-- What is behind the last slash of a text is a name of its own. -/
theorem exists_join_eq (text : String) :
    ∃ dir stem, '/' ∉ stem.toList ∧ (⟨text ++ ".rs"⟩ : PathName) = join dir (stem ++ ".rs") := by
  let behind := (text.toList.reverse.takeWhile (· ≠ '/')).reverse
  let before := (text.toList.reverse.dropWhile (· ≠ '/')).reverse
  have hsplit : before ++ behind = text.toList := by
    rw [← List.reverse_append, List.takeWhile_append_dropWhile, List.reverse_reverse]
  have hslash : '/' ∉ behind := by
    intro hmem
    have := List.mem_takeWhile_imp (List.mem_reverse.1 hmem)
    simp at this
  refine ⟨⟨String.ofList before⟩, String.ofList behind, by simpa using hslash, ?_⟩
  have hname : IsName (String.ofList behind ++ ".rs") :=
    isName_append (by simpa using hslash) (by decide) (by decide)
  have hfront : front ⟨String.ofList before⟩ = String.ofList before := by
    have hbefore : before = (text.toList.reverse.dropWhile (· ≠ '/')).reverse := rfl
    have hc := List.head?_dropWhile_not (· ≠ '/') text.toList.reverse
    cases hdrop : text.toList.reverse.dropWhile (· ≠ '/') with
    | nil =>
      rw [hbefore, hdrop]
      rfl
    | cons c rest =>
      rw [hdrop] at hbefore hc
      obtain rfl : c = '/' := by simpa using hc
      have hend : (String.ofList before).endsWith "/" = true :=
        endsWith_slash_iff.2 ⟨rest.reverse, by rw [hbefore]; simp⟩
      rw [front, hend, Bool.or_true, if_pos rfl]
  rw [join_eq hname, hfront, ← String.append_assoc, ← String.ofList_append, hsplit,
    String.ofList_toList]

/-- The temporary file is beside the file, whatever is in front of the ending `.rs`. -/
theorem exists_beside {stem : String} (hslash : '/' ∉ stem.toList) (dir : PathName) :
    ∃ tmp, (dir.join (stem ++ ".rs")).Beside dir (stem ++ ".rs") tmp := by
  have hname : IsName (stem ++ ".rs") := isName_append hslash (by decide) (by decide)
  by_cases hne : stem = ""
  · -- a dot at the beginning is no part of an extension
    subst hne
    have hdot : IsName ".rs" := ⟨by decide, by decide⟩
    have htmp : IsName ".rs.rs.tmp" := ⟨by decide, by decide⟩
    have htemporary : (dir.join ".rs").temporary = dir.join ".rs.rs.tmp" := by
      have hsplit : splitExtension ".rs" = (".rs", none) := by decide
      rw [temporary, withExtension, fileName?_join hdot (by decide)]
      simp only [hsplit, take_join hdot, String.ofList_toList]
      rw [join_eq htmp, temporaryExtension, String.append_assoc, String.append_assoc]
      rfl
    exact ⟨".rs.rs.tmp", rfl, htemporary, hdot, htmp, by decide, by decide, by decide, by decide⟩
  · refine ⟨stem ++ ".rs.tmp", rfl, temporary_join hne hslash, hname,
      isName_append hslash (by decide) (by decide), append_ne_of_length (by decide),
      append_ne_of_length (by decide), ?_, fun heq => ?_⟩
    · rw [String.toList_append, String.toList_append]
      exact (List.prefix_append_right_inj _).2 (by decide)
    have hlength := congrArg String.length heq
    rw [String.length_append, String.length_append] at hlength
    exact absurd (Nat.add_left_cancel hlength) (by decide)

end PathName

/-- The path name of a unit's file, whatever the name of the unit. -/
theorem exists_beside_unitPath (root : PathName) (q : QualifiedName) :
    ∃ dir name tmp, (unitPath root q).Beside dir name tmp := by
  let front := root.joinAll q.namespace.segments
  obtain ⟨text, htext⟩ : ∃ text, unitPath root q = ⟨text ++ ".rs"⟩ := by
    rw [unitPath_eq, QualifiedName.fileName, PathName.join]
    split_ifs
    · exact ⟨q.name, rfl⟩
    · exact ⟨_, by rw [← String.append_assoc]⟩
    · exact ⟨_, by rw [← String.append_assoc]⟩
  obtain ⟨dir, stem, hslash, hjoin⟩ := PathName.exists_join_eq text
  obtain ⟨tmp, hbeside⟩ := PathName.exists_beside hslash dir
  exact ⟨dir, _, tmp, by rwa [htext, hjoin]⟩

section

variable {t : FileTree} {p dir : PathName} {name tmp : String} {y z : Place}

/-- Where a path name leads whose last name is plain, over directories. -/
theorem FileTree.of_locate_join (hname : PathName.IsName name) (hplain : name ≠ "..")
    (h : t.locate (dir.join name) = .ok z) :
    ∃ passed y, Way [] dir.parts passed y ∧ z = y ++ [name] ∧
      ∀ w ∈ passed ++ [y], t.entry? w = some .directory := by
  obtain ⟨-, -, along, hway, halong⟩ := FileTree.exists_way_of_locate h
  rw [PathName.parts_join hname] at hway
  obtain ⟨passed, y, hdirectory, rfl, rfl⟩ := hway.of_snoc_plain hplain
  exact ⟨passed, y, hdirectory, rfl, halong⟩

/-- The two files are not in one place. -/
theorem PathName.Beside.place_ne (h : p.Beside dir name tmp) {t' : FileTree}
    (hfile : t.locate p = .ok z) (htemporary : t'.locate p.temporary = .ok y) : z ≠ y := by
  rw [h.eq] at hfile
  rw [h.temporary] at htemporary
  obtain ⟨passed, x, -, rfl, -⟩ := FileTree.of_locate_join h.isName h.plain hfile
  obtain ⟨passed', x', -, rfl, -⟩ := FileTree.of_locate_join h.isNameTmp h.plainTmp htemporary
  intro heq
  exact h.ne (List.singleton_inj.1 (List.append_inj' heq rfl).2).symm

end

/-! ### Writing -/

/-- The place is one that the parts lead over or to, as far as they lead. -/
def OnWay (ps : List String) (y : Place) : Prop :=
  ∃ before passed, before <+: ps ∧ Way [] before passed y

section

variable {d d' : Disk} {p dir : PathName} {name tmp text : String} {e : FileError}
  {answer : Except FileError Unit}

/-- Making the directory of a file only makes directories on the way to it. -/
theorem PathName.Beside.grown_of_makeParents (hp : p.Beside dir name tmp)
    (h : (makeParents p : StateM Disk _).run d = (answer, d')) :
    d.tree.Grown (fun y => p.isAbsolute = false → OnWay dir.parts y) d'.tree := by
  rw [hp.eq] at h ⊢
  obtain ⟨before, hpieces, hbefore⟩ := PathName.exists_pieces_join hp.isName dir
  cases hparent : (dir.join name).parent? with
  | none =>
    rw [makeParents, hparent] at h
    cases h
    exact .refl _ _
  | some q =>
    rw [makeParents, hparent] at h
    refine grown_of_makeLineage (fun r hr passed y hway hrelative => ?_) h
    obtain ⟨q', hq', -, hparts, htext⟩ :=
      PathName.exists_parent hrelative hpieces hp.isName.isPart
    obtain rfl : q = q' := Option.some.inj (hparent.symm.trans hq')
    have hr := (PathName.of_mem_ancestors (PathName.relative_of_isPrefix hrelative htext) hr).2
    rw [hparts, hbefore] at hr
    exact ⟨r.parts, passed, hr, hway⟩

/-- If the directory of a file cannot be made, then there is no temporary file. -/
theorem PathName.Beside.locate_temporary_ne (hp : p.Beside dir name tmp)
    (h : (makeParents p : StateM Disk _).run d = (.error e, d')) (y : Place) :
    d'.tree.locate p.temporary ≠ .ok y := by
  intro hy
  rw [hp.temporary] at hy
  have hsound := FileTree.sound_of_locate hy
  obtain ⟨passed, x, hway, -, hdirectories⟩ :=
    FileTree.of_locate_join hp.isNameTmp hp.plainTmp hy
  -- The text of the path name is a beginning of that of the temporary file's.
  have hbegins : (dir.join name).text.toList <+: (dir.join tmp).text.toList := by
    rw [PathName.join_eq hp.isName, PathName.join_eq hp.isNameTmp, String.toList_append,
      String.toList_append]
    exact (List.prefix_append_right_inj _).2 hp.begins
  obtain ⟨before, hpieces, hbefore⟩ := PathName.exists_pieces_join hp.isName dir
  obtain ⟨q, hq, htidy, hparts, htext⟩ := PathName.exists_parent
    (PathName.relative_of_isPrefix hsound.relative hbegins) hpieces hp.isName.isPart
  rw [hbefore] at hparts
  have hqsound : FileTree.Sound q := hsound.of_prefix (htext.trans hbegins) fun part hpart => by
    rw [PathName.parts_join hp.isNameTmp]
    exact List.mem_append_left _ (hparts ▸ hpart)
  rw [hp.eq, makeParents, hq] at h
  exact missing_of_makeLineage (Nat.lt_succ_self _) hqsound htidy (hparts ▸ hway) h hdirectories

/-- A step of writing a file fails: its directory cannot be made, its temporary file cannot be
written, or that cannot be moved to its place. -/
inductive WriteFails (p : PathName) (text : String) (d : Disk) (e : FileError) : Prop
  | parents {d₁} (h : (makeParents p : StateM Disk _).run d = (.error e, d₁))
  | write {d₁ d₂} (hparents : (makeParents p : StateM Disk _).run d = (.ok (), d₁))
      (h : (FileSystem.write p.temporary text : StateM Disk _).run d₁ = (.error e, d₂))
  | rename {d₁ d₂ d₃} (hparents : (makeParents p : StateM Disk _).run d = (.ok (), d₁))
      (hwrite : (FileSystem.write p.temporary text : StateM Disk _).run d₁ = (.ok (), d₂))
      (h : (FileSystem.rename p.temporary p : StateM Disk _).run d₂ = (.error e, d₃))

/-- The temporary file cannot be written, or it is written and then moved or not. -/
theorem of_run_replaceFile_cases (h : (replaceFile p text : StateM Disk _).run d = (answer, d')) :
    (∃ e, answer = .error e ∧
      (FileSystem.write p.temporary text : StateM Disk _).run d = (.error e, d')) ∨
      ∃ d₁, (FileSystem.write p.temporary text : StateM Disk _).run d = (.ok (), d₁) ∧
        (FileSystem.rename p.temporary p : StateM Disk _).run d₁ = (answer, d') := by
  obtain ⟨⟨written, d₁⟩, hwrite⟩ :
      ∃ r, (FileSystem.write p.temporary text : StateM Disk _).run d = r := ⟨_, rfl⟩
  rw [replaceFile, run_bind_of_eq hwrite] at h
  cases written with
  | error e =>
    cases h
    exact .inl ⟨e, rfl, hwrite⟩
  | ok _ => exact .inr ⟨d₁, hwrite, h⟩

/-- The directory cannot be made; or the file is replaced; or it is not, and its temporary file is
removed. -/
theorem of_run_writeUnit_cases (h : (writeUnit p text : StateM Disk _).run d = (answer, d')) :
    (∃ e, answer = .error e ∧ (makeParents p : StateM Disk _).run d = (.error e, d')) ∨
      ∃ d₁, (makeParents p : StateM Disk _).run d = (.ok (), d₁) ∧
        ((answer = .ok () ∧ (replaceFile p text : StateM Disk _).run d₁ = (.ok (), d')) ∨
          ∃ e d₂ removed, answer = .error e ∧
            (replaceFile p text : StateM Disk _).run d₁ = (.error e, d₂) ∧
            (FileSystem.remove p.temporary : StateM Disk _).run d₂ = (removed, d')) := by
  obtain ⟨⟨made, d₁⟩, hparents⟩ : ∃ r, (makeParents p : StateM Disk _).run d = r := ⟨_, rfl⟩
  rw [writeUnit, run_bind_of_eq hparents] at h
  cases made with
  | error e =>
    cases h
    exact .inl ⟨e, rfl, hparents⟩
  | ok _ =>
    refine .inr ⟨d₁, hparents, ?_⟩
    obtain ⟨⟨replaced, d₂⟩, hreplace⟩ :
        ∃ r, (replaceFile p text : StateM Disk _).run d₁ = r := ⟨_, rfl⟩
    dsimp only at h
    rw [run_bind_of_eq hreplace] at h
    cases replaced with
    | ok _ =>
      cases h
      exact .inl ⟨rfl, hreplace⟩
    | error e =>
      obtain ⟨⟨removed, d₃⟩, hremove⟩ :
          ∃ r, (FileSystem.remove p.temporary : StateM Disk _).run d₂ = r := ⟨_, rfl⟩
      dsimp only at h
      rw [run_bind_of_eq hremove] at h
      cases h
      exact .inr ⟨e, d₂, removed, rfl, hreplace, hremove⟩

/-- If the file cannot be replaced, then it is not written, whatever comes of removing its temporary
file. -/
theorem run_writeUnit_of_replaceFile_eq_error {d₁ d₂ : Disk}
    (hparents : (makeParents p : StateM Disk _).run d = (.ok (), d₁))
    (hreplace : (replaceFile p text : StateM Disk _).run d₁ = (.error e, d₂)) :
    ((writeUnit p text : StateM Disk _).run d).1 = .error e := by
  rw [writeUnit, run_bind_of_eq hparents]
  dsimp only
  rw [run_bind_of_eq hreplace]
  rfl

/-- **Writing a file fails just when a step of it does**, and with the error of that step. -/
theorem writeFails_iff :
    WriteFails p text d e ↔ ((writeUnit p text : StateM Disk _).run d).1 = .error e := by
  constructor
  · intro hfails
    cases hfails with
    | parents hparents =>
      rw [writeUnit, run_bind_of_eq hparents]
      rfl
    | @write d₁ d₂ hparents hwrite =>
      have hreplace : (replaceFile p text : StateM Disk _).run d₁ = (.error e, d₂) := by
        rw [replaceFile, run_bind_of_eq hwrite]
        rfl
      exact run_writeUnit_of_replaceFile_eq_error hparents hreplace
    | @rename d₁ _ d₃ hparents hwrite hrename =>
      have hreplace : (replaceFile p text : StateM Disk _).run d₁ = (.error e, d₃) := by
        rw [replaceFile, run_bind_of_eq hwrite]
        exact hrename
      exact run_writeUnit_of_replaceFile_eq_error hparents hreplace
  · obtain ⟨⟨answer, d'⟩, hrun⟩ : ∃ s, (writeUnit p text : StateM Disk _).run d = s := ⟨_, rfl⟩
    rw [hrun]
    rintro rfl
    obtain ⟨_, he, hparents⟩ | ⟨d₁, hparents, ⟨hok, -⟩ | ⟨_, d₂, removed, he, hreplace, -⟩⟩ :=
      of_run_writeUnit_cases hrun
    · cases he
      exact .parents hparents
    · cases hok
    · cases he
      obtain ⟨_, he, hwrite⟩ | ⟨d₃, hwrite, hrename⟩ := of_run_replaceFile_cases hreplace
      · cases he
        exact .write hparents hwrite
      · exact .rename hparents hwrite hrename

end

/-! ### What is left of a tree -/

namespace FileTree

/-- What is at the place that a path name leads to. -/
def lookup? (t : FileTree) (p : PathName) : Option Entry :=
  match t.locate p with
  | .ok y => t.entry? y
  | .error _ => none

/-- What holds something is in a directory. -/
def IsClosed (t : FileTree) : Prop :=
  ∀ y e, t.entry? y = some e → t.entry? y.dropLast = some .directory

/-- The second tree is the first with more directories, but for the temporary file of a file, of
which nothing is left.  The file is as it was; only if its path name goes out of a directory, and
led nowhere, may it now lead somewhere else, or to a directory where there was nothing. -/
structure Spared (t t' : FileTree) (p : PathName) : Prop where
  other : ∀ y, t'.locate p.temporary ≠ .ok y →
    t'.entry? y = t.entry? y ∨ t.entry? y = none ∧ t'.entry? y = some .directory
  temporary : ∀ y, t'.locate p.temporary = .ok y → t'.content? y = none
  located : ∀ z, t.locate p = .ok z → t'.locate p = .ok z ∧ t'.entry? z = t.entry? z
  place : ∀ z, t'.locate p = .ok z → t'.entry? z = t.entry? z ∨
    ".." ∈ p.parts ∧ t.entry? z = none ∧ t'.entry? z = some .directory
  file : t.IsClosed → ".." ∉ p.parts → t'.lookup? p = t.lookup? p

/-- The second tree is the first with the text in a file and with more directories, and without the
temporary file. -/
structure Replaced (t t' : FileTree) (p : PathName) (text : String) : Prop where
  file : t'.lookup? p = some (.file (.text text))
  temporary : ∃ y, t'.locate p.temporary = .ok y ∧ t'.entry? y = none
  other : ∀ y, t'.locate p ≠ .ok y → t'.locate p.temporary ≠ .ok y →
    t'.entry? y = t.entry? y ∨ t.entry? y = none ∧ t'.entry? y = some .directory

/-- The second tree is the first but for the file that a path name leads to. -/
structure SameBut (t t' : FileTree) (q : PathName) : Prop where
  keeps : t.Keeps t'
  other : ∀ y, t'.locate q ≠ .ok y → t'.entry? y = t.entry? y

variable {t t₁ t' t'' : FileTree} {p q dir : PathName} {name tmp : String}

theorem lookup?_of_locate {y : Place} (h : t.locate p = .ok y) : t.lookup? p = t.entry? y := by
  rw [lookup?, h]

theorem SameBut.refl (t : FileTree) (q : PathName) : t.SameBut t q :=
  ⟨fun _ hy => hy, fun _ _ => rfl⟩

theorem SameBut.trans (h : t.SameBut t' q) (h' : t'.SameBut t'' q) : t.SameBut t'' q :=
  ⟨h.keeps.trans h'.keeps, fun y hy =>
    (h'.other y hy).trans (h.other y fun hlocate => hy (locate_of_keeps h'.keeps hlocate))⟩

theorem sameBut_of_put {c : Content} (h : t.put q c = .ok t') : t.SameBut t' q := by
  obtain ⟨x, hx, hentry, rfl⟩ := of_put_eq_ok h
  have hkeeps := keeps_insert hentry (.file c)
  refine ⟨hkeeps, fun y hy => ?_⟩
  rw [entry?_insert (ne_nil_of_entry hentry), if_neg]
  rintro rfl
  exact hy (locate_of_keeps hkeeps hx)

/-- After a file is removed there is nothing in its place. -/
theorem sameBut_of_remove (h : t.remove q = .ok t') :
    t.SameBut t' q ∧ ∀ y, t'.locate q = .ok y → t'.content? y = none := by
  obtain ⟨x, hx, hremove⟩ := exists_of_bind_eq_ok h
  cases hentry : t.entry? x with
  | none => simp [hentry] at hremove
  | some entry =>
    cases entry with
    | directory => simp [hentry] at hremove
    | file c =>
      simp only [hentry] at hremove
      obtain rfl := Except.ok.inj hremove
      have hne : t.entry? x ≠ some .directory := by simp [hentry]
      have hkeeps := keeps_erase hne
      have hlocate := locate_of_keeps hkeeps hx
      refine ⟨⟨hkeeps, fun y hy => ?_⟩, fun y hy => ?_⟩
      · rw [entry?_erase (ne_nil_of_entry hne), if_neg]
        rintro rfl
        exact hy hlocate
      · obtain rfl := Except.ok.inj (hlocate.symm.trans hy)
        rw [content?, entry?_erase (ne_nil_of_entry hne), if_pos rfl]

/-- What cannot be removed is no file. -/
theorem content?_of_remove_eq_error {e : FileError} (h : t.remove q = .error e) {y : Place}
    (hy : t.locate q = .ok y) : t.content? y = none := by
  rw [content?_eq_none_iff]
  rw [remove, hy] at h
  cases hentry : t.entry? y with
  | none => exact .inl rfl
  | some entry =>
    cases entry with
    | directory => exact .inr rfl
    | file c => simp [hentry, bind, Except.bind] at h

theorem isClosed_of_entries (h : ∀ e ∈ t.entries, t.entry? e.1.dropLast = some .directory) :
    t.IsClosed := by
  intro y e hentry
  by_cases hy : y = []
  · rw [hy]
    rfl
  · rw [entry?_of_ne_nil hy] at hentry
    obtain ⟨listed, hfound, -⟩ := Option.map_eq_some_iff.1 hentry
    obtain rfl : listed.1 = y := by simpa using List.find?_some hfound
    exact h listed (List.mem_of_find?_eq_some hfound)

theorem way_plain {x z : Place} {ps : List String} {passed : List Place} (h : Way x ps passed z)
    (hplain : ".." ∉ ps) : z = x ++ ps ∧ passed = trail x ps :=
  (h.unique (way_trail fun _ hn heq => hplain (heq ▸ hn))).symm

theorem IsClosed.directory_of_prefix (h : t.IsClosed) {y rel : Place} {e : Entry}
    (hentry : t.entry? (y ++ rel) = some e) (hne : rel ≠ []) : t.entry? y = some .directory := by
  induction rel using List.reverseRecOn generalizing e with
  | nil => exact absurd rfl hne
  | append_singleton rel last ih =>
    have hparent := h _ _ hentry
    rw [← List.append_assoc, List.dropLast_concat] at hparent
    by_cases hrel : rel = []
    · rwa [hrel, List.append_nil] at hparent
    · exact ih hparent hrel

/-- A path name that does not go out of a directory leads to what there is, if it can lead to it
at all. -/
theorem IsClosed.locate_join (h : t.IsClosed) (hname : PathName.IsName name)
    (hplain : ".." ∉ dir.parts ++ [name]) {z : Place} (hz : t'.locate (dir.join name) = .ok z)
    {e : Entry} (hentry : t.entry? z = some e) : t.locate (dir.join name) = .ok z := by
  have hne : name ≠ ".." := fun heq => hplain (by simp [heq])
  obtain ⟨passed, y, hway, rfl, -⟩ := of_locate_join hname hne hz
  obtain ⟨rfl, rfl⟩ := way_plain hway fun hmem => hplain (List.mem_append_left _ hmem)
  refine FileTree.locate_join ⟨hname, hne, sound_of_locate hz⟩ hway fun w hw => ?_
  obtain ⟨rel, ⟨rest, hrest⟩, rfl⟩ : ∃ rel, rel <+: dir.parts ∧ w = rel := by
    rcases List.mem_append.1 hw with hmem | hmem
    · simpa using of_mem_trail hmem
    · exact ⟨dir.parts, List.prefix_refl _, by simpa using hmem⟩
  rw [List.nil_append, ← hrest, List.append_assoc] at hentry
  exact h.directory_of_prefix hentry (by simp)

end FileTree

/-! ### Atomicity -/

section

variable {t t₁ t' : FileTree} {d d' : Disk} {p dir : PathName} {name tmp text : String} {z : Place}
  {answer : Except FileError Unit}

theorem PathName.Beside.parts_eq (hp : p.Beside dir name tmp) : p.parts = dir.parts ++ [name] := by
  rw [hp.eq, PathName.parts_join hp.isName]

/-- A file is not on the way to itself, unless the way goes out of a directory. -/
theorem PathName.Beside.parent_mem_of_onWay (hp : p.Beside dir name tmp)
    (hz : t.locate p = .ok z) (hway : OnWay dir.parts z) : ".." ∈ p.parts := by
  by_contra hplain
  obtain ⟨before, passed, hbefore, hz'⟩ := hway
  rw [hp.eq] at hz
  obtain ⟨passed', y, hy, rfl, -⟩ := FileTree.of_locate_join hp.isName hp.plain hz
  rw [hp.parts_eq] at hplain
  have hdir : ".." ∉ dir.parts := fun hmem => hplain (List.mem_append_left _ hmem)
  obtain ⟨rfl, -⟩ := FileTree.way_plain hy hdir
  have heq := (FileTree.way_plain hz' fun hmem => hdir (hbefore.mem hmem)).1
  have hlength := hbefore.length_le
  rw [← List.nil_append before, ← heq] at hlength
  simp at hlength

/-- All of the way is there to a path name that leads somewhere. -/
theorem PathName.Beside.directory_of_onWay (hp : p.Beside dir name tmp) (hz : t.locate p = .ok z)
    {w : Place} (hway : OnWay dir.parts w) : t.entry? w = some .directory := by
  obtain ⟨before, passed, hbefore, hway⟩ := hway
  rw [hp.eq] at hz
  obtain ⟨passed', y, hy, -, hdirectories⟩ := FileTree.of_locate_join hp.isName hp.plain hz
  exact hdirectories w (hy.mem_of_isPrefix hway hbefore)

/-- What a path name leads to now and did not before, without `..`, was not there. -/
theorem PathName.Beside.entry?_eq_none (hp : p.Beside dir name tmp) (hclosed : t.IsClosed)
    (hplain : ".." ∉ p.parts) {e : FileError} (hbefore : t.locate p = .error e)
    (hz : t'.locate p = .ok z) : t.entry? z = none := by
  by_contra hne
  obtain ⟨e', he'⟩ := Option.ne_none_iff_exists'.1 hne
  rw [hp.parts_eq] at hplain
  rw [hp.eq] at hbefore hz
  cases hbefore.symm.trans (hclosed.locate_join hp.isName hplain hz he')

/-- **What does not come to anything spares the tree**: directories are made on the way to a file,
and then only the temporary file is dealt with. -/
theorem PathName.Beside.spared (hp : p.Beside dir name tmp)
    (hgrown : t.Grown (fun y => p.isAbsolute = false → OnWay dir.parts y) t₁)
    (hsame : t₁.SameBut t' p.temporary)
    (htemporary : ∀ y, t'.locate p.temporary = .ok y → t'.content? y = none) :
    t.Spared t' p := by
  have hentry {z : Place} (hz : t'.locate p = .ok z) : t'.entry? z = t₁.entry? z :=
    hsame.other z fun hy => hp.place_ne hz hy rfl
  have hplace {z : Place} (hz : t'.locate p = .ok z) : t'.entry? z = t.entry? z ∨
      ".." ∈ p.parts ∧ t.entry? z = none ∧ t'.entry? z = some .directory := by
    rw [hentry hz]
    refine (hgrown.entry z).imp id fun ⟨hway, hmade⟩ => ⟨?_, hmade⟩
    exact hp.parent_mem_of_onWay hz (hway (FileTree.sound_of_locate hz).relative)
  have hlocated {z : Place} (hz : t.locate p = .ok z) :
      t'.locate p = .ok z ∧ t'.entry? z = t.entry? z := by
    have hz' := FileTree.locate_of_keeps (hgrown.keeps.trans hsame.keeps) hz
    refine ⟨hz', ?_⟩
    rw [hentry hz']
    refine (hgrown.entry z).resolve_right fun ⟨hway, hnone, _⟩ => ?_
    cases hnone.symm.trans
      (hp.directory_of_onWay hz (hway (FileTree.sound_of_locate hz).relative))
  refine ⟨fun y hy => ?_, htemporary, fun z => hlocated, fun z => hplace, fun hclosed hplain => ?_⟩
  · rw [hsame.other y hy]
    exact (hgrown.entry y).imp id And.right
  · cases hlocate : t.locate p with
    | ok z =>
      obtain ⟨hz', hsame⟩ := hlocated hlocate
      rw [FileTree.lookup?_of_locate hlocate, FileTree.lookup?_of_locate hz', hsame]
    | error e =>
      have hbefore : t.lookup? p = none := by rw [FileTree.lookup?, hlocate]
      rw [hbefore]
      cases hlocate' : t'.locate p with
      | error e => rw [FileTree.lookup?, hlocate']
      | ok z =>
        rw [FileTree.lookup?_of_locate hlocate',
          (hplace hlocate').resolve_right fun hparent => hplain hparent.1,
          hp.entry?_eq_none hclosed hplain hlocate hlocate']

/-- Whatever comes of writing a file, nothing else has changed. -/
theorem sameBut_of_run_write {q : PathName}
    (h : (FileSystem.write q text : StateM Disk _).run d = (answer, d')) :
    d.tree.SameBut d'.tree q := by
  obtain ⟨-, hput⟩ | ⟨e, -, hsame | ⟨c, hput⟩⟩ := Disk.of_write h
  · exact FileTree.sameBut_of_put hput
  · rw [hsame]
    exact .refl _ _
  · exact FileTree.sameBut_of_put hput

/-- When removing a file is over, there is none. -/
theorem sameBut_of_run_remove {q : PathName}
    (h : (FileSystem.remove q : StateM Disk _).run d = (answer, d')) :
    d.tree.SameBut d'.tree q ∧ ∀ y, d'.tree.locate q = .ok y → d'.tree.content? y = none := by
  obtain hremove | ⟨⟨e, hremove⟩, hsame⟩ := Disk.of_remove h
  · exact FileTree.sameBut_of_remove hremove
  · rw [hsame]
    exact ⟨.refl _ _, fun y => FileTree.content?_of_remove_eq_error hremove⟩

/-- Where a file cannot be replaced, the temporary file only has changed. -/
theorem sameBut_of_run_replaceFile {e : FileError}
    (h : (replaceFile p text : StateM Disk _).run d = (.error e, d')) :
    d.tree.SameBut d'.tree p.temporary := by
  obtain ⟨e', -, hwrite⟩ | ⟨d₁, hwrite, hrename⟩ := of_run_replaceFile_cases h
  · exact sameBut_of_run_write hwrite
  · obtain ⟨hok, -⟩ | ⟨e', -, hsame⟩ := Disk.of_rename hrename
    · cases hok
    · rw [hsame]
      exact sameBut_of_run_write hwrite

/-- **A file that cannot be written spares the tree.** -/
theorem PathName.Beside.spared_of_writeUnit (hp : p.Beside dir name tmp) {e : FileError}
    (h : (writeUnit p text : StateM Disk _).run d = (.error e, d')) :
    d.tree.Spared d'.tree p := by
  obtain ⟨e', -, hparents⟩ | ⟨d₁, hparents, ⟨hok, -⟩ | ⟨e', d₂, removed, -, hreplace, hremove⟩⟩ :=
    of_run_writeUnit_cases h
  · exact hp.spared (hp.grown_of_makeParents hparents) (.refl _ _) fun y hy =>
      absurd hy (hp.locate_temporary_ne hparents y)
  · cases hok
  · obtain ⟨hsame, hnone⟩ := sameBut_of_run_remove hremove
    exact hp.spared (hp.grown_of_makeParents hparents)
      ((sameBut_of_run_replaceFile hreplace).trans hsame) hnone

/-- **A file that is written holds the text.** -/
theorem PathName.Beside.replaced_of_writeUnit (hp : p.Beside dir name tmp)
    (h : (writeUnit p text : StateM Disk _).run d = (.ok (), d')) :
    d.tree.Replaced d'.tree p text := by
  obtain ⟨_, hok, -⟩ | ⟨d₁, hparents, ⟨-, hreplace⟩ | ⟨_, _, _, hok, -, -⟩⟩ :=
    of_run_writeUnit_cases h
  · cases hok
  · obtain ⟨_, hok, -⟩ | ⟨d₂, hwrite, hrename⟩ := of_run_replaceFile_cases hreplace
    · cases hok
    obtain ⟨-, hput⟩ | ⟨_, hok, -⟩ := Disk.of_write hwrite
    case inr => cases hok
    obtain ⟨-, hmove⟩ | ⟨_, hok, -⟩ := Disk.of_rename hrename
    case inr => cases hok
    obtain ⟨x, y, -, hx, hy, hentry, -⟩ := FileTree.of_put_rename hput hmove
    have hne : y ≠ x := hp.place_ne hy hx
    have hgrown := hp.grown_of_makeParents hparents
    refine ⟨?_, ⟨x, hx, ?_⟩, fun w hw hw' => ?_⟩
    · rw [FileTree.lookup?_of_locate hy, hentry, if_pos rfl]
    · rw [hentry, if_neg hne.symm, if_pos rfl]
    · have hwy : w ≠ y := fun heq => hw (heq ▸ hy)
      have hwx : w ≠ x := fun heq => hw' (heq ▸ hx)
      rw [hentry, if_neg hwy, if_neg hwx]
      exact (hgrown.entry w).imp id And.right
  · cases hok

end

section

variable {root : PathName} {u : GeneratedUnit} {done : List QualifiedName} {d d' : Disk}

/-- To emit one unit is to write its file, unless its name is emitted already. -/
theorem run_emitAll_singleton (hnew : u.name ∉ done) {answer : Except FileError Unit}
    (h : (writeUnit (unitPath root u.name) u.text : StateM Disk _).run d = (answer, d')) :
    ((emitAll (Disk.emitter root) [u]).run done).run d = match answer with
      | .ok () => ((.ok (), done ++ [u.name]), d')
      | .error e => ((.error (.emission u.name e), done), d') := by
  rw [emitAll, run_run_bind_of_eq (run_fileEmitter_of_notMem hnew h)]
  cases answer <;> rfl

end

end PatternFactory
