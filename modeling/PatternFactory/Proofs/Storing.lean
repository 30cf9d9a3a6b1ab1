import PatternFactory.Proofs.Growth
import PatternFactory.Proofs.Transfer

/-!
# What emitting into files leaves behind

If all of some units are emitted into files below a root, whatever stood there before, then the tree
holds them, and it is the tree of before in all other places, except for new directories on the way
to them and for the places of their temporary files, where nothing is left (`FileTree.Stored`).
`exists_stored_of_emits` derives this from the emissions alone.

Each unit adds to the tree what it needs (`exists_stored_of_writeUnit`), and takes nothing away from
the units before (`FileTree.Stored.append`): no two units have a place in common, and no unit has a
directory in the place of another's file.
-/

namespace PatternFactory

/-! ### Replacing a file -/

namespace FileTree

variable {t t' t'' : FileTree} {p q : PathName} {x : Place}

theorem of_put_eq_ok {c : Content} (h : t.put p c = .ok t') :
    ∃ x, t.locate p = .ok x ∧ t.entry? x ≠ some .directory ∧ t' = t.insert x (.file c) := by
  obtain ⟨x, hx, hput⟩ := exists_of_bind_eq_ok h
  refine ⟨x, hx, ?_⟩
  split at hput
  · cases hput
  next hne => exact ⟨fun hdirectory => hne hdirectory, (Except.ok.inj hput).symm⟩

theorem of_rename_eq_ok (h : t.rename p q = .ok t') :
    ∃ x y c, t.locate p = .ok x ∧ t.locate q = .ok y ∧ t.entry? x = some (.file c) ∧
      t.entry? y ≠ some .directory ∧ t' = (t.erase x).insert y (.file c) := by
  obtain ⟨x, hx, h⟩ := exists_of_bind_eq_ok h
  obtain ⟨y, hy, h⟩ := exists_of_bind_eq_ok h
  split at h
  · cases h
  · cases h
  · cases h
  next c hentry hne =>
    exact ⟨x, y, c, hx, hy, hentry, hne, (Except.ok.inj h).symm⟩

theorem ne_nil_of_entry (h : t.entry? x ≠ some .directory) : x ≠ [] := by
  rintro rfl
  exact h rfl

theorem Keeps.trans (h : t.Keeps t') (h' : t'.Keeps t'') : t.Keeps t'' := fun y hy => h' y (h y hy)

theorem keeps_insert (h : t.entry? x ≠ some .directory) (e : Entry) : t.Keeps (t.insert x e) := by
  intro y hy
  have hne : y ≠ x := fun heq => h (heq ▸ hy)
  rw [entry?_insert (ne_nil_of_entry h), if_neg hne, hy]

theorem keeps_erase (h : t.entry? x ≠ some .directory) : t.Keeps (t.erase x) := by
  intro y hy
  have hne : y ≠ x := fun heq => h (heq ▸ hy)
  rw [entry?_erase (ne_nil_of_entry h), if_neg hne, hy]

/-- What it comes to that a file is put somewhere and moved from there, whatever was in the two
places. -/
theorem of_put_rename {text : String} (hput : t.put p (.text text) = .ok t')
    (hrename : t'.rename p q = .ok t'') :
    ∃ x y, t.Keeps t'' ∧ t''.locate p = .ok x ∧ t''.locate q = .ok y ∧
      (∀ w, t''.entry? w =
        if w = y then some (.file (.text text)) else if w = x then none else t.entry? w) ∧
      ∀ root, ¬ root <+: x → ¬ root <+: y → t''.filesUnder root = t.filesUnder root := by
  obtain ⟨x, hx, hxentry, rfl⟩ := of_put_eq_ok hput
  obtain ⟨x', y, c, hx', hy, hc, hyentry, rfl⟩ := of_rename_eq_ok hrename
  have hxne := ne_nil_of_entry hxentry
  have hyne := ne_nil_of_entry hyentry
  have hkeeps := keeps_insert hxentry (.file (.text text))
  obtain rfl : x = x' := Except.ok.inj ((locate_of_keeps hkeeps hx).symm.trans hx')
  rw [entry?_insert hxne, if_pos rfl] at hc
  obtain rfl : Content.text text = c := Entry.file.inj (Option.some.inj hc)
  have herased : FileTree.entry? (t.insert x (.file (.text text))) x ≠ some .directory := by
    rw [entry?_insert hxne, if_pos rfl]
    nofun
  have hreplaced : FileTree.entry? ((t.insert x (.file (.text text))).erase x) y ≠
      some .directory := by
    rw [entry?_erase hxne]
    split
    · nofun
    · exact hyentry
  have hkeeps' := (keeps_erase herased).trans (keeps_insert hreplaced (.file (.text text)))
  refine ⟨x, y, hkeeps.trans hkeeps', locate_of_keeps hkeeps' hx', locate_of_keeps hkeeps' hy,
    entry?_moved hxne hyne _, fun root hrootx hrooty => ?_⟩
  rw [filesUnder_insert hrooty, filesUnder_erase hrootx, filesUnder_insert hrootx]

end FileTree

/-- **What replacing a file comes to if it succeeds**, whatever was in the place of the file and of
the temporary file. -/
theorem of_run_replaceFile {t : FileTree} {p : PathName} {text : String} {d' : Disk}
    (h : (replaceFile p text : StateM Disk _).run (.ofTree t) = (.ok (), d')) :
    ∃ x y t', d' = .ofTree t' ∧ t.Keeps t' ∧ t'.locate p.temporary = .ok x ∧
      t'.locate p = .ok y ∧ (∀ w, t'.entry? w =
        if w = y then some (.file (.text text)) else if w = x then none else t.entry? w) ∧
      ∀ root, ¬ root <+: x → ¬ root <+: y → t'.filesUnder root = t.filesUnder root := by
  have hwrite : (FileSystem.write p.temporary text : StateM Disk _).run (.ofTree t) = _ :=
    run_write
  cases hput : t.put p.temporary (.text text) with
  | error e =>
    rw [hput] at hwrite
    rw [replaceFile, run_bind_of_eq hwrite] at h
    cases h
  | ok t₁ =>
    rw [hput] at hwrite
    rw [replaceFile, run_bind_of_eq hwrite] at h
    change (FileSystem.rename p.temporary p : StateM Disk _).run (.ofTree t₁) = _ at h
    rw [run_rename] at h
    cases hrename : t₁.rename p.temporary p with
    | error e =>
      rw [hrename] at h
      cases h
    | ok t' =>
      rw [hrename] at h
      cases h
      obtain ⟨x, y, hreplaced⟩ := FileTree.of_put_rename hput hrename
      exact ⟨x, y, t', rfl, hreplaced⟩

/-- Before the file is replaced its directory has been made. -/
theorem of_run_writeUnit {t : FileTree} {p : PathName} {text : String} {d' : Disk}
    (h : (writeUnit p text : StateM Disk _).run (.ofTree t) = (.ok (), d')) :
    ∃ t₁, (makeParents p : StateM Disk _).run (.ofTree t) = (.ok (), .ofTree t₁) ∧
      (replaceFile p text : StateM Disk _).run (.ofTree t₁) = (.ok (), d') := by
  have hgrows : OnlyGrows (fun _ => True) (makeParents p) := by
    unfold makeParents
    cases p.parent? with
    | none => exact .pure _
    | some parent => exact .makeLineage fun _ _ _ _ _ => trivial
  obtain ⟨a, t₁, hparents, -⟩ := hgrows t
  rw [writeUnit, run_bind_of_eq hparents] at h
  cases a with
  | error e => cases h
  | ok _ =>
    refine ⟨t₁, hparents, ?_⟩
    obtain ⟨⟨b, d₁⟩, hreplace⟩ : ∃ r, (replaceFile p text : StateM Disk _).run (.ofTree t₁) = r :=
      ⟨_, rfl⟩
    dsimp only at h
    rw [run_bind_of_eq hreplace] at h
    cases b with
    | ok _ => exact hreplace.trans h
    | error e => cases congrArg Prod.fst h

/-! ### The places of units -/

section

variable {t : FileTree} {root : PathName} {passed : List Place} {y place : Place}
  {q : QualifiedName}

/-- The way to the directory of a unit goes on from the root. -/
theorem QualifiedName.Proper.way_directory (h : q.Proper) (hway : Way [] root.parts passed place) :
    Way [] (root.joinAll q.namespace.segments).parts (passed ++ trail place q.namespace.segments)
      (place ++ q.namespace.segments) := by
  rw [PathName.parts_joinAll fun s hs => (h.namespace s hs).1]
  exact hway.append (way_trail fun s hs => (h.namespace s hs).2)

/-- Where a file beside a unit is, and what there is on the way. -/
theorem QualifiedName.Proper.of_locate (h : q.Proper) {name : String} (hname : PathName.IsName name)
    (hplain : name ≠ "..")
    (hlocate : t.locate ((root.joinAll q.namespace.segments).join name) = .ok y) :
    ∃ passed place, Way [] root.parts passed place ∧ y = place ++ q.namespace.segments ++ [name] ∧
      ∀ w ∈ q.directories passed place, t.entry? w = some .directory := by
  obtain ⟨-, -, along, hway, halong⟩ := FileTree.exists_way_of_locate hlocate
  rw [PathName.parts_join hname, PathName.parts_joinAll fun s hs => (h.namespace s hs).1] at hway
  obtain ⟨along', directory, hdirectory, rfl, rfl⟩ := hway.of_snoc_plain hplain
  obtain ⟨passed, place, behind, hroot, hbehind, rfl⟩ := hdirectory.of_append
  obtain ⟨rfl, rfl⟩ := hbehind.unique (way_trail fun s hs => (h.namespace s hs).2)
  exact ⟨passed, place, hroot, rfl, halong⟩

theorem QualifiedName.Proper.isName_fileName (h : q.Proper) :
    PathName.IsName q.fileName ∧ q.fileName ≠ ".." :=
  ⟨PathName.isName_append h.name.notMem_slash (by decide) (by decide),
    PathName.append_ne_of_length (by decide)⟩

theorem QualifiedName.Proper.isName_temporaryName (h : q.Proper) :
    PathName.IsName q.temporaryName ∧ q.temporaryName ≠ ".." :=
  ⟨PathName.isName_append h.name.notMem_slash (by decide) (by decide),
    PathName.append_ne_of_length (by decide)⟩

end

/-! ### Trees that hold units -/

/-- The tree holds the units below the root, nothing is left of their temporary files, and it is the
first tree otherwise, with more directories. -/
structure FileTree.Stored (base t : FileTree) (root : PathName) (passed : List Place)
    (place : Place) (us : List GeneratedUnit) : Prop where
  keeps : base.Keeps t
  directory : ∀ u ∈ us, ∀ y ∈ u.name.directories passed place, t.entry? y = some .directory
  file : ∀ u ∈ us, t.locate (unitPath root u.name) = .ok (u.name.filePlace place) ∧
    t.entry? (u.name.filePlace place) = some (.file (.text u.text))
  temporary : ∀ u ∈ us,
    t.locate (unitPath root u.name).temporary = .ok (u.name.temporaryPlace place) ∧
      t.entry? (u.name.temporaryPlace place) = none
  other : ∀ y, t.entry? y = base.entry? y ∨
    (∃ u ∈ us, y ∈ u.name.directories passed place) ∧ base.entry? y = none ∧
      t.entry? y = some .directory ∨
    ∃ u ∈ us, y = u.name.filePlace place ∨ y = u.name.temporaryPlace place
  files : ∀ x, (∀ u ∈ us, ∀ y, y = u.name.filePlace place ∨ y = u.name.temporaryPlace place →
    ¬ x <+: y) → t.filesUnder x = base.filesUnder x

section

variable {base t t' : FileTree} {root : PathName} {passed : List Place} {place : Place}
  {us vs : List GeneratedUnit}

/-- **A unit that is written is stored.** -/
theorem exists_stored_of_writeUnit {u : GeneratedUnit} (hu : u.name.Proper) {d' : Disk}
    (h : (writeUnit (unitPath root u.name) u.text : StateM Disk _).run (.ofTree t) = (.ok (), d')) :
    ∃ t' passed place, d' = .ofTree t' ∧ Way [] root.parts passed place ∧
      t.Stored t' root passed place [u] := by
  obtain ⟨t₁, hparents, hreplace⟩ := of_run_writeUnit h
  obtain ⟨x, y, t', rfl, hkeeps, htmp, hfile, hentry, hfiles⟩ := of_run_replaceFile hreplace
  obtain ⟨hname, hplain⟩ := hu.isName_fileName
  obtain ⟨hnameTmp, hplainTmp⟩ := hu.isName_temporaryName
  have htmpEq := temporary_unitPath root hu.name.ne_empty hu.name.notMem_slash
  obtain ⟨passed, place, hway, rfl, hdirectories⟩ :=
    hu.of_locate hname hplain (unitPath_eq root u.name ▸ hfile)
  obtain ⟨passed', place', hway', rfl, -⟩ := hu.of_locate hnameTmp hplainTmp (htmpEq ▸ htmp)
  -- the two files are beside each other, since there is only one way to the root
  obtain ⟨rfl, rfl⟩ := hway'.unique hway
  have hgrown : t.Grown (· ∈ u.name.directories passed' place') t₁ := by
    have hrelative := (FileTree.exists_way_of_locate hfile).2.1
    rw [unitPath_eq] at hrelative hparents
    obtain ⟨a, t₂, hrun, hgrown⟩ :=
      OnlyGrows.makeParents hname hrelative (hu.way_directory hway) t
    cases hparents.symm.trans hrun
    exact hgrown
  have hne : u.name.temporaryPlace place' ≠ u.name.filePlace place' :=
    QualifiedName.temporaryPlace_ne_filePlace
  have hentry : ∀ w, t'.entry? w = if w = u.name.filePlace place' then some (.file (.text u.text))
      else if w = u.name.temporaryPlace place' then none else t₁.entry? w := hentry
  refine ⟨t', passed', place', rfl, hway, fun y hy => hkeeps y (hgrown.keeps y hy), ?_, ?_, ?_,
    fun y => ?_, fun x hx => ?_⟩
  · simpa using hdirectories
  · simpa using ⟨hfile, by rw [hentry, if_pos rfl]⟩
  · simpa using ⟨htmp, by rw [hentry, if_neg hne, if_pos rfl]⟩
  · by_cases hy : y = u.name.filePlace place' ∨ y = u.name.temporaryPlace place'
    · exact .inr (.inr ⟨u, by simp, hy⟩)
    · rw [not_or] at hy
      rw [hentry, if_neg hy.1, if_neg hy.2]
      rcases hgrown.entry y with hsame | ⟨hmem, hnone, hdirectory⟩
      · exact .inl hsame
      · exact .inr (.inl ⟨⟨u, by simp, hmem⟩, hnone, hdirectory⟩)
  · have hx := hx u (by simp)
    exact (hfiles x (hx _ (.inr rfl)) (hx _ (.inl rfl))).trans (hgrown.files x)

namespace FileTree

theorem Stored.refl (t : FileTree) (root : PathName) (passed : List Place) (place : Place) :
    t.Stored t root passed place [] :=
  ⟨fun _ hy => hy, nofun, nofun, nofun, fun _ => .inl rfl, fun _ _ => rfl⟩

/-- Where a unit has its file or its temporary file, no other unit puts anything. -/
theorem Stored.entry?_of_kept (h : t.Stored t' root passed place vs)
    (hvs : ∀ v ∈ vs, v.name.Regular) {q : QualifiedName} (hne : ∀ v ∈ vs, q ≠ v.name)
    (hdirectories : ∀ y ∈ q.directories passed place, t.entry? y = some .directory) {y : Place}
    (hy : y = q.filePlace place ∨ y = q.temporaryPlace place)
    (hentry : t.entry? y ≠ some .directory) : t'.entry? y = t.entry? y := by
  rcases h.other y with hsame | ⟨⟨v, hv, hmem⟩, hnone, hdirectory⟩ | ⟨v, hv, hplace⟩
  · exact hsame
  · -- directories of namespaces have no dot in their names, but files have
    have hpassed : y ∉ passed := fun hmem =>
      hentry (hdirectories y (List.mem_append_left _ (List.mem_append_left _ hmem)))
    rcases hy with rfl | rfl
    · exact absurd hmem (QualifiedName.notMem_directories (hvs v hv).built
        (by simp [QualifiedName.fileName]) hpassed)
    · exact absurd hmem (QualifiedName.notMem_directories (hvs v hv).built
        (by simp [QualifiedName.temporaryName]) hpassed)
  · exfalso
    rcases hy with rfl | rfl <;> rcases hplace with hplace | hplace
    · exact hne v hv (QualifiedName.filePlace_inj.1 hplace)
    · exact QualifiedName.temporaryPlace_ne_filePlace hplace.symm
    · exact QualifiedName.temporaryPlace_ne_filePlace hplace
    · exact hne v hv (QualifiedName.temporaryPlace_inj.1 hplace)

/-- **Units that are stored one after the other are stored together.** -/
theorem Stored.append (h : base.Stored t root passed place us)
    (h' : t.Stored t' root passed place vs) (hvs : ∀ v ∈ vs, v.name.Regular)
    (hne : ∀ u ∈ us, ∀ v ∈ vs, u.name ≠ v.name) :
    base.Stored t' root passed place (us ++ vs) := by
  refine ⟨fun y hy => h'.keeps y (h.keeps y hy), ?_, ?_, ?_, fun y => ?_, fun x hx => ?_⟩
  · exact List.forall_mem_append.2
      ⟨fun u hu y hy => h'.keeps y (h.directory u hu y hy), h'.directory⟩
  · refine List.forall_mem_append.2 ⟨fun u hu => ?_, h'.file⟩
    obtain ⟨hlocate, hentry⟩ := h.file u hu
    refine ⟨locate_of_keeps h'.keeps hlocate, ?_⟩
    rw [h'.entry?_of_kept hvs (hne u hu) (h.directory u hu) (.inl rfl) (by simp [hentry]), hentry]
  · refine List.forall_mem_append.2 ⟨fun u hu => ?_, h'.temporary⟩
    obtain ⟨hlocate, hentry⟩ := h.temporary u hu
    refine ⟨locate_of_keeps h'.keeps hlocate, ?_⟩
    rw [h'.entry?_of_kept hvs (hne u hu) (h.directory u hu) (.inr rfl) (by simp [hentry]), hentry]
  · rcases h'.other y with hsame' | ⟨⟨v, hv, hmem⟩, hnone, hdirectory⟩ | ⟨v, hv, hplace⟩
    · rw [hsame']
      rcases h.other y with hsame | ⟨⟨u, hu, hmem⟩, hmade⟩ | ⟨u, hu, hplace⟩
      · exact .inl hsame
      · exact .inr (.inl ⟨⟨u, List.mem_append_left _ hu, hmem⟩, hmade⟩)
      · exact .inr (.inr ⟨u, List.mem_append_left _ hu, hplace⟩)
    · rcases h.other y with hsame | ⟨-, -, hdirectory'⟩ | ⟨u, hu, hplace⟩
      · exact .inr (.inl ⟨⟨v, List.mem_append_right _ hv, hmem⟩, hsame ▸ hnone, hdirectory⟩)
      · cases hnone.symm.trans hdirectory'
      · exact .inr (.inr ⟨u, List.mem_append_left _ hu, hplace⟩)
    · exact .inr (.inr ⟨v, List.mem_append_right _ hv, hplace⟩)
  · obtain ⟨hxus, hxvs⟩ := List.forall_mem_append.1 hx
    exact (h'.files x hxvs).trans (h.files x hxus)

end FileTree

/-! ### Emitting -/

/-- Emits units into files on a disk. -/
abbrev Disk.emitter (root : PathName) : Emitter (StateT (List QualifiedName) (StateM Disk)) :=
  fileEmitter root

theorem of_run_fileEmitter {u : GeneratedUnit} {done : List QualifiedName} {d : Disk}
    {s' : List QualifiedName × Disk}
    (h : ((Disk.emitter root).packed u.name u.text).run (done, d) = (.ok (), s')) :
    u.name ∉ done ∧ s'.1 = done ++ [u.name] ∧
      (writeUnit (unitPath root u.name) u.text : StateM Disk _).run d = (.ok (), s'.2) := by
  obtain ⟨done', d'⟩ := s'
  have hrun := run_packed.1 h
  by_cases hmem : u.name ∈ done
  · rw [run_fileEmitter_of_mem hmem] at hrun
    cases hrun
  · obtain ⟨⟨answer, d₁⟩, hwrite⟩ :
        ∃ r, (writeUnit (unitPath root u.name) u.text : StateM Disk _).run d = r := ⟨_, rfl⟩
    rw [run_fileEmitter_of_notMem hmem hwrite] at hrun
    cases answer with
    | error e => cases hrun
    | ok _ =>
      cases hrun
      exact ⟨hmem, rfl, hwrite⟩

/-- **Units that are all emitted are stored**, and no two of them have one name. -/
theorem exists_stored_of_emits {done : List QualifiedName} {s' : List QualifiedName × Disk}
    (hus : ∀ u ∈ us, u.name.Regular)
    (h : Emits (Disk.emitter root).packed us (done, .ofTree t) us (.ok ()) s') :
    (us.map GeneratedUnit.name).Nodup ∧ (∀ u ∈ us, u.name ∉ done) ∧ ∃ t' passed place,
      s' = (done ++ us.map GeneratedUnit.name, .ofTree t') ∧
      (us ≠ [] → Way [] root.parts passed place) ∧ t.Stored t' root passed place us := by
  induction us generalizing t done with
  | nil =>
    cases h
    exact ⟨.nil, nofun, t, [], [], by simp, fun hne => absurd rfl hne, .refl t root [] []⟩
  | cons u rest ih =>
    obtain ⟨hu, hrest⟩ := List.forall_mem_cons.1 hus
    cases h with
    | @taken _ _ _ s₁ _ _ _ htaken hemits =>
      obtain ⟨hnew, hdone, hwrite⟩ := of_run_fileEmitter htaken
      obtain ⟨t₁, passed, place, hd₁, hway, hstored⟩ := exists_stored_of_writeUnit hu.proper hwrite
      obtain rfl : s₁ = (done ++ [u.name], .ofTree t₁) := Prod.ext hdone hd₁
      obtain ⟨hnodup, hothers, t', passed', place', rfl, hway', hstored'⟩ := ih hrest hemits
      have hne : ∀ v ∈ rest, u.name ≠ v.name := fun v hv heq =>
        hothers v hv (List.mem_append_right _ (by simp [heq]))
      -- the other units are below the same place; if there are none, then any place will do
      have hboth : t₁.Stored t' root passed place rest := by
        by_cases hnil : rest = []
        · subst hnil
          exact ⟨hstored'.keeps, nofun, nofun, nofun, by simpa using hstored'.other,
            fun x _ => hstored'.files x nofun⟩
        · obtain ⟨rfl, rfl⟩ := (hway' hnil).unique hway
          exact hstored'
      refine ⟨List.nodup_cons.2 ⟨by simpa [eq_comm] using hne, hnodup⟩,
        List.forall_mem_cons.2 ⟨hnew, fun v hv hmem => hothers v hv (List.mem_append_left _ hmem)⟩,
        t', passed, place, by simp, fun _ => hway, ?_⟩
      exact hstored.append hboth hrest (by simpa using hne)

end

end PatternFactory
