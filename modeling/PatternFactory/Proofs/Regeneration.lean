import PatternFactory.Proofs.Preview

/-!
# Generating twice is generating once

A second run finds all units in their places.  If no unit is put where a command reads, then the
second run reads what the first one read (`FileTree.Stored.prepares`), makes no directory, and
writes each unit over itself (`FileTree.Stored.exists_emits`).  So it has the same outcome and
leaves the tree as it is (`generate_again`).

What could be read anew are configuration files: they are looked for in the directories at and above
the source root, which were all there before, and no unit has the name of such a file
(`FileTree.Stored.read_candidate_iff`).
-/

namespace PatternFactory

/-- A command reads at the place: it is below the source root, or that of a file that is found
there, or that of the configuration file that is named.  Files that are found are below the root as
well where names are plain (`FileTree.isInput_iff`). -/
inductive FileTree.IsInput (t : FileTree) (src : PathName) (o : Options) (y : Place) : Prop
  | below {root} (hroot : t.locate src = .ok root) (hy : root <+: y)
  | found {files f} (hfiles : t.filesBelow src = .ok files) (hf : f ∈ files)
      (hy : t.locate f = .ok y)
  | config {f} (hf : o.configFile = some f) (hy : t.locate f = .ok y)

namespace FileTree

variable {t t' : FileTree} {src root p : PathName} {o : Options} {passed : List Place}
  {place y : Place} {us : List GeneratedUnit}

theorem isDirectory_iff : t.isDirectory p = true ↔
    ∃ y, t.locate p = .ok y ∧ t.entry? y = some .directory := by
  rw [isDirectory]
  cases t.locate p <;> simp

/-- Where the tree has plain names, all files that are found are below the source root. -/
theorem isInput_iff (hnames : ∀ e ∈ t.entries, ∀ n ∈ e.1, PathName.IsName n ∧ n ≠ "..") :
    t.IsInput src o y ↔ (∃ x, t.locate src = .ok x ∧ x <+: y) ∨
      ∃ f, o.configFile = some f ∧ t.locate f = .ok y := by
  constructor
  · rintro (⟨hroot, hy⟩ | ⟨hfiles, hf, hy⟩ | ⟨hf, hy⟩)
    · exact .inl ⟨_, hroot, hy⟩
    · rw [filesBelow_eq] at hfiles
      obtain ⟨x, hx, rfl⟩ := map_eq_ok_iff.1 hfiles
      obtain ⟨file, hfile, rfl⟩ := List.mem_map.1 hf
      obtain ⟨e, he, hlisted⟩ := List.mem_filterMap.1 hfile
      have hrel : ∀ n ∈ file.drop x.length, PathName.IsName n ∧ n ≠ ".." := by
        rcases e with ⟨spot, _ | c⟩
        · cases hlisted
        · obtain ⟨-, heq⟩ : x.isPrefixOf spot = true ∧ spot = file := by simpa using hlisted
          exact fun n hn => hnames _ he n (heq ▸ List.mem_of_mem_drop hn)
      obtain ⟨-, -, along, hway, -⟩ := exists_way_of_locate hx
      obtain ⟨-, -, along', hway', -⟩ := exists_way_of_locate hy
      rw [PathName.parts_joinAll fun n hn => (hrel n hn).1] at hway'
      obtain ⟨before, z, behind, hsrc, hbehind, -⟩ := hway'.of_append
      obtain rfl := (hsrc.unique hway).2
      obtain rfl := (hbehind.unique (way_trail fun n hn => (hrel n hn).2)).2
      exact .inl ⟨z, hx, List.prefix_append _ _⟩
    · exact .inr ⟨_, hf, hy⟩
  · rintro (⟨x, hx, hy⟩ | ⟨f, hf, hy⟩)
    · exact .below hx hy
    · exact .config hf hy

/-- The units are put apart from what a command reads. -/
def Apart (t : FileTree) (src : PathName) (o : Options) (place : Place) (us : List GeneratedUnit) :
    Prop :=
  ∀ u ∈ us, ∀ y, y = u.name.filePlace place ∨ y = u.name.temporaryPlace place →
    ¬ t.IsInput src o y

/-! ### What the second run reads -/

theorem Stored.read_of_input (h : t.Stored t' root passed place us)
    (hapart : t'.Apart src o place us) (hinput : ∀ y, t'.locate p = .ok y → t'.IsInput src o y)
    {text : String} (hread : t.read p = .ok text) : t'.read p = .ok text := by
  obtain ⟨y, hy, hentry⟩ := read_eq_ok_iff.1 hread
  have hy' := locate_of_keeps h.keeps hy
  refine read_eq_ok_iff.2 ⟨y, hy', ?_⟩
  rcases h.other y with hsame | ⟨-, hnone, -⟩ | ⟨u, hu, hplace⟩
  · rw [hsame, hentry]
  · cases hnone.symm.trans hentry
  · exact absurd (hinput y hy') (hapart u hu y hplace)

theorem Stored.filesBelow_eq (h : t.Stored t' root passed place us)
    (hapart : t'.Apart src o place us) (hsrc : t.isDirectory src = true) :
    t'.filesBelow src = t.filesBelow src := by
  obtain ⟨x, hx, -⟩ := isDirectory_iff.1 hsrc
  have hx' := locate_of_keeps h.keeps hx
  have hfiles : t'.filesUnder x = t.filesUnder x :=
    h.files x fun u hu y hy hunder => hapart u hu y hy (.below hx' hunder)
  rw [FileTree.filesBelow_eq, FileTree.filesBelow_eq, hx, hx', Except.map, Except.map, hfiles]

/-- A file in a directory at or above the source root can be located without what is new. -/
theorem locate_of_ancestor (hsrc : t.isDirectory src = true) {r : PathName} {n : ℕ}
    (hr : r ∈ src.ancestors n) {name : String} (hname : PathName.IsName name) (hplain : name ≠ "..")
    (hy : t'.locate (r.join name) = .ok y) :
    t.locate (r.join name) = .ok y ∧ ∃ x, y = x ++ [name] := by
  obtain ⟨x, hx, hdirectory⟩ := isDirectory_iff.1 hsrc
  obtain ⟨-, hrelative, along, halong, hdirectories⟩ := exists_way_of_locate hx
  obtain ⟨-, hparts⟩ := PathName.of_mem_ancestors hrelative hr
  obtain ⟨-, -, along', halong', -⟩ := exists_way_of_locate hy
  rw [PathName.parts_join hname] at halong'
  obtain ⟨before, z, hway, rfl, rfl⟩ := halong'.of_snoc_plain hplain
  -- the way to the directory is a part of the way to the source root, which was there before
  have hz : ∀ w ∈ before ++ [z], t.entry? w = some .directory := by
    refine List.forall_mem_append.2 ⟨fun w hw => hdirectories w
      (halong.passed_subset_of_isPrefix hway hparts hw), ?_⟩
    rw [List.forall_mem_singleton]
    rcases List.mem_append.1 (halong.mem_of_isPrefix hway hparts) with hmem | hmem
    · exact hdirectories z hmem
    · rw [List.mem_singleton.1 hmem, hdirectory]
  exact ⟨locate_join ⟨hname, hplain, sound_of_locate hy⟩ hway hz, z, rfl⟩

/-- **No configuration file is new**, and none is lost. -/
theorem Stored.read_candidate_iff (h : t.Stored t' root passed place us)
    (hsrc : t.isDirectory src = true) (hp : p ∈ Config.candidates src) {text : String} :
    t'.read p = .ok text ↔ t.read p = .ok text := by
  obtain ⟨r, hr, rfl⟩ := List.mem_map.1 hp
  have hname : PathName.IsName configFileName := ⟨by decide, by decide⟩
  have hplain : configFileName ≠ ".." := by decide
  have hlocate : ∀ y, t'.locate (r.join configFileName) = .ok y ↔
      t.locate (r.join configFileName) = .ok y := fun y =>
    ⟨fun hy => (locate_of_ancestor hsrc hr hname hplain hy).1, locate_of_keeps h.keeps⟩
  rw [read_eq_ok_iff, read_eq_ok_iff]
  simp only [hlocate]
  refine exists_congr fun y => and_congr_right fun hy => ?_
  obtain ⟨-, x, rfl⟩ := locate_of_ancestor hsrc hr hname hplain hy
  rcases h.other (x ++ [configFileName]) with hsame | ⟨-, hnone, hdirectory⟩ | ⟨u, hu, hplace⟩
  · rw [hsame]
  · simp [hnone, hdirectory]
  · -- the names of units and of their temporary files end otherwise
    exfalso
    rcases hplace with hplace | hplace
    · have hfile : configFileName = u.name.name ++ ".rs" :=
        List.head_eq_of_cons_eq (List.append_inj' hplace rfl).2
      have hlast := congrArg (fun s => s.toList.getLast?) hfile
      simp [configFileName] at hlast
    · have hfile : configFileName = u.name.name ++ ".rs.tmp" :=
        List.head_eq_of_cons_eq (List.append_inj' hplace rfl).2
      have hlast := congrArg (fun s => s.toList.getLast?) hfile
      simp [configFileName] at hlast

theorem Stored.startsFrom (h : t.Stored t' root passed place us) (hapart : t'.Apart src o place us)
    (hsrc : t.isDirectory src = true) {c : Config} (hc : t.reading.StartsFrom src o c) :
    t'.reading.StartsFrom src o c := by
  have hcandidate : ∀ p ∈ Config.candidates src, ∀ text, t'.read p = .ok text ↔
      t.read p = .ok text := fun p hp _ => h.read_candidate_iff hsrc hp
  cases hc with
  | standard ho hnone =>
    exact .standard ho fun p hp text => mt (hcandidate p hp text).1 (hnone p hp text)
  | file hf hparse =>
    cases hf with
    | named ho hread =>
      have hread' := h.read_of_input hapart (fun y hy => .config ho hy) hread
      exact .file (.named ho hread') hparse
    | @found before _ _ _ ho hsplit hbefore hread =>
      have hbefore' : ∀ p ∈ before, ∀ text, t'.read p ≠ .ok text := fun p hp text =>
        mt (hcandidate p (by simp [hsplit, hp]) text).1 (hbefore p hp text)
      have hread' := (hcandidate _ (by simp [hsplit]) _).2 hread
      exact .file (.found ho hsplit hbefore' hread') hparse

/-- **The second run is prepared as the first one.** -/
theorem Stored.prepares (h : t.Stored t' root passed place us) (hapart : t'.Apart src o place us)
    {plan : RunPlan} {sources : List SourceFile} (hp : t.reading.Prepares src o plan sources) :
    t'.reading.Prepares src o plan sources := by
  obtain ⟨hc, hvalid, hglobs, hsrc, hfiles, htexts, hsources, hplan⟩ := hp
  obtain ⟨x, hx, hdirectory⟩ := isDirectory_iff.1 hsrc
  have hsrc' : t'.isDirectory src = true :=
    isDirectory_iff.2 ⟨x, locate_of_keeps h.keeps hx, h.keeps x hdirectory⟩
  have hfiles' := (h.filesBelow_eq hapart hsrc).trans hfiles
  refine ⟨h.startsFrom hapart hsrc hc, hvalid, hglobs, hsrc', hfiles', ?_, hsources, hplan⟩
  -- each source is a file that is found below the root, and so it is still what it was
  rw [← htexts]
  refine mapM_congr fun path hpath => ?_
  obtain ⟨entry, hentry⟩ := exists_mapM_eq_ok_iff.1 ⟨_, htexts⟩ path hpath
  obtain ⟨text, htext, -⟩ := map_eq_ok_iff.1 hentry
  have hread := Reading.text_eq_ok_iff.1 htext
  have hlisted := (Reading.mem_selectSources.1 hpath).1
  have hread' := h.read_of_input hapart (fun y hy => .found hfiles' hlisted hy) hread
  rw [htext, Reading.text_eq_ok_iff.2 hread']

/-! ### What the second run writes -/

/-- **A unit is written over itself.** -/
theorem Stored.run_writeUnit (h : t.Stored t' root passed place us)
    (hway : Way [] root.parts passed place) {u : GeneratedUnit} (hu : u ∈ us)
    (hproper : u.name.Proper) {t₁ : FileTree} (hsame : ∀ y, t₁.entry? y = t'.entry? y) :
    ∃ t₂, (writeUnit (unitPath root u.name) u.text : StateM Disk _).run (.ofTree t₁) =
        (.ok (), .ofTree t₂) ∧ ∀ y, t₂.entry? y = t'.entry? y := by
  obtain ⟨hlocate, hentry⟩ := h.file u hu
  obtain ⟨hlocateTmp, hentryTmp⟩ := h.temporary u hu
  rw [temporary_unitPath root hproper.name.ne_empty hproper.name.notMem_slash] at hlocateTmp
  rw [unitPath_eq] at hlocate
  have hfile : Holds (root.joinAll u.name.namespace.segments) u.name.fileName :=
    ⟨hproper.isName_fileName.1, hproper.isName_fileName.2, sound_of_locate hlocate⟩
  have htmp : Holds (root.joinAll u.name.namespace.segments) u.name.temporaryName :=
    ⟨hproper.isName_temporaryName.1, hproper.isName_temporaryName.2, sound_of_locate hlocateTmp⟩
  -- the unit's file is not in the place of a directory, as it is there
  have hclear : ∀ y, y = u.name.filePlace place ∨ y = u.name.temporaryPlace place →
      y ∉ u.name.directories passed place := by
    intro y hy hmem
    have hdirectory := h.directory u hu y hmem
    rcases hy with rfl | rfl
    · cases hentry.symm.trans hdirectory
    · cases hentryTmp.symm.trans hdirectory
  have hdirectories : ∀ y ∈ u.name.directories passed place, t₁.entry? y = some .directory :=
    fun y hy => (hsame y).trans (h.directory u hu y hy)
  have hreplaced : t₁.entry? (u.name.filePlace place) ≠ some .directory := by
    rw [hsame, hentry]
    nofun
  have hnone : t₁.entry? (u.name.temporaryPlace place) = none := by rw [hsame, hentryTmp]
  obtain ⟨t₂, t₃, hwith, hwrite, hentry₃⟩ := exists_run_writeUnit hproper.name.ne_empty
    hproper.name.notMem_slash hfile htmp (hproper.way_directory hway)
    (fun y hy => content?_eq_none_iff.2 (.inr (hdirectories y hy))) hclear hreplaced hnone u.text
  refine ⟨t₃, hwrite, fun y => ?_⟩
  rw [hentry₃]
  by_cases hy : y = u.name.filePlace place
  · rw [if_pos hy, hy, hentry]
  · rw [if_neg hy]
    by_cases hmem : y ∈ u.name.directories passed place
    · rw [hwith.directory y hmem, h.directory u hu y hmem]
    · rw [hwith.other y hmem, hsame]

/-- **All units are emitted again**, and this changes nothing. -/
theorem Stored.exists_emits (h : t.Stored t' root passed place us)
    (hway : us ≠ [] → Way [] root.parts passed place) (hus : ∀ u ∈ us, u.name.Regular)
    {vs : List GeneratedUnit} (hvs : ∀ v ∈ vs, v ∈ us) {done : List QualifiedName}
    (hnodup : (done ++ vs.map GeneratedUnit.name).Nodup) {t₁ : FileTree}
    (hsame : ∀ y, t₁.entry? y = t'.entry? y) :
    ∃ t₂, Emits (Disk.emitter root).packed vs (done, .ofTree t₁) vs (.ok ())
        (done ++ vs.map GeneratedUnit.name, .ofTree t₂) ∧
      ∀ y, t₂.entry? y = t'.entry? y := by
  induction vs generalizing done t₁ with
  | nil =>
    rw [List.map_nil, List.append_nil]
    exact ⟨t₁, .done, hsame⟩
  | cons v vs ih =>
    obtain ⟨hv, hvs⟩ := List.forall_mem_cons.1 hvs
    have hnew : v.name ∉ done := fun hmem =>
      (List.nodup_append.1 hnodup).2.2 _ hmem _ List.mem_cons_self rfl
    obtain ⟨t₂, hwrite, hsame₂⟩ :=
      h.run_writeUnit (hway (List.ne_nil_of_mem hv)) hv (hus v hv).proper hsame
    have hemit : ((Disk.emitter root).packed v.name v.text).run (done, .ofTree t₁) =
        (.ok (), done ++ [v.name], .ofTree t₂) :=
      run_packed.2 (run_fileEmitter_of_notMem hnew hwrite)
    rw [List.map_cons, List.append_cons] at hnodup ⊢
    obtain ⟨t₃, hemits, hsame₃⟩ := ih hvs hnodup hsame₂
    exact ⟨t₃, .taken hemit hemits, hsame₃⟩

end FileTree

end PatternFactory
