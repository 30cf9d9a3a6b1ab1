import PatternFactory.Proofs.Growth
import PatternFactory.Proofs.ModulePaths

/-!
# Which sources are found

In a tree that lists each place once and has plain names only, the sources below a directory are its
regular files with the extension `rs` that no glob matches, each once, in the order of their
components (`findSources_exact`).  A file is told from all others by what lies between the directory
and it: joined to the path of the directory this gives the path of the file, and the joining can be
undone (`PathName.joinAll_injective`).

More globs leave fewer files, in the same order: sorting what is picked out of a list is picking
from the sorted list (`mergeSort_filter`).  So two lists of globs together leave what both of them
leave.
-/

namespace PatternFactory

/-! ### Extensions -/

namespace PathName

/-- A name has the extension `rs` if `.rs` stands behind something. -/
theorem splitExtension_eq_rs_iff {name : String} : (splitExtension name).2 = some "rs" ↔
    ∃ stem, stem ≠ "" ∧ name = stem ++ ".rs" := by
  constructor
  · intro h
    have hname := List.prefix_iff_eq_append.1
      (List.takeWhile_prefix (l := name.toList.reverse) fun c => decide (c ≠ '.'))
    unfold splitExtension at h
    dsimp only at h
    split at h
    next stem hdrop =>
      split_ifs at h with hstem
      have hext : (name.toList.reverse.takeWhile fun c => decide (c ≠ '.')).reverse =
          ['r', 's'] := by
        simpa using congrArg String.toList (Option.some.inj h)
      refine ⟨String.ofList stem.reverse, by simpa using hstem, String.toList_inj.1 ?_⟩
      rw [hdrop] at hname
      rw [← List.reverse_reverse name.toList, ← hname, List.reverse_append, hext]
      simp
    next => cases h
  · rintro ⟨stem, hne, rfl⟩
    rw [splitExtension_rs hne]

/-- A file has the extension `rs` if its name has. -/
theorem extension?_joinAll_eq_rs_iff {rel : List String}
    (hrel : ∀ n ∈ rel, IsName n ∧ n ≠ "..") (hne : rel ≠ []) (root : PathName) :
    (root.joinAll rel).extension? = some "rs" ↔
      ∃ dirs stem, stem ≠ "" ∧ rel = dirs ++ [stem ++ ".rs"] := by
  obtain ⟨dirs, name, rfl⟩ := (List.eq_nil_or_concat' rel).resolve_left hne
  obtain ⟨hname, hplain⟩ := hrel name (by simp)
  rw [joinAll_append, extension?, fileName?_join hname hplain, Option.bind_some,
    splitExtension_eq_rs_iff]
  constructor
  · rintro ⟨stem, hstem, rfl⟩
    exact ⟨dirs, stem, hstem, rfl⟩
  · rintro ⟨dirs', stem, hstem, heq⟩
    exact ⟨stem, hstem, List.singleton_inj.1 (List.append_inj' heq rfl).2⟩

theorem joinAll_injective {rel rel' : List String} (hrel : ∀ n ∈ rel, IsName n ∧ n ≠ "..")
    (hrel' : ∀ n ∈ rel', IsName n ∧ n ≠ "..") {root : PathName}
    (h : (root.joinAll rel).components = (root.joinAll rel').components) : rel = rel' := by
  rw [components_joinAll hrel, components_joinAll hrel'] at h
  exact List.map_injective_iff.2 (fun _ _ => PathPart.name.inj) (List.append_cancel_left h)

end PathName

/-! ### The files of a tree -/

/-- The tree lists each place once, without its root, and its names can stand in path names. -/
structure FileTree.Proper (t : FileTree) : Prop where
  nodup : (t.entries.map Prod.fst).Nodup
  names : ∀ e ∈ t.entries, ∀ n ∈ e.1, PathName.IsName n ∧ n ≠ ".."
  root : ∀ e ∈ t.entries, e.1 ≠ []

instance : DecidablePred FileTree.Proper := fun t =>
  decidable_of_iff ((t.entries.map Prod.fst).Nodup ∧
      (∀ e ∈ t.entries, ∀ n ∈ e.1, PathName.IsName n ∧ n ≠ "..") ∧ ∀ e ∈ t.entries, e.1 ≠ [])
    ⟨fun h => ⟨h.1, h.2.1, h.2.2⟩, fun h => ⟨h.nodup, h.names, h.root⟩⟩

namespace FileTree

variable {t : FileTree} {place x : Place} {root : PathName} {globs : List Glob}

theorem content?_eq_some_iff {c : Content} :
    t.content? x = some c ↔ t.entry? x = some (.file c) := by
  rw [content?]
  rcases t.entry? x with _ | _ | c' <;> simp

theorem Proper.mem_entries_iff (h : t.Proper) {e : Entry} (hx : x ≠ []) :
    (x, e) ∈ t.entries ↔ t.entry? x = some e := by
  rw [entry?_of_ne_nil hx, Option.map_eq_some_iff]
  simp [find?_key_eq_some_iff h.nodup]

theorem Proper.mem_filesUnder (h : t.Proper) :
    x ∈ t.filesUnder place ↔ place <+: x ∧ ∃ c, t.content? x = some c := by
  simp only [content?_eq_some_iff]
  constructor
  · intro hx
    obtain ⟨⟨y, _ | c⟩, hmem, hlisted⟩ := List.mem_filterMap.1 hx
    · cases hlisted
    · obtain ⟨hbelow, rfl⟩ : place.isPrefixOf y = true ∧ y = x := by simpa using hlisted
      exact ⟨List.isPrefixOf_iff_prefix.1 hbelow, c,
        (h.mem_entries_iff (h.root _ hmem)).1 hmem⟩
  · rintro ⟨hbelow, c, hentry⟩
    have hne : x ≠ [] := by
      rintro rfl
      cases hentry
    refine List.mem_filterMap.2 ⟨(x, .file c), (h.mem_entries_iff hne).2 hentry, ?_⟩
    simp [List.isPrefixOf_iff_prefix, hbelow]

theorem filesUnder_sublist (t : FileTree) (place : Place) :
    (t.filesUnder place).Sublist (t.entries.map Prod.fst) := by
  unfold filesUnder
  induction t.entries with
  | nil => exact .slnil
  | cons e entries ih =>
    rw [List.filterMap_cons, List.map_cons]
    rcases e with ⟨y, _ | c⟩
    · exact ih.cons y
    · by_cases hbelow : place.isPrefixOf y = true
      · simpa [hbelow] using ih
      · simpa [hbelow] using ih.cons y

/-- What lies between a place and the regular files below it. -/
def relativeFiles (t : FileTree) (place : Place) : List Place :=
  (t.filesUnder place).map fun x => x.drop place.length

theorem Proper.mem_relativeFiles (h : t.Proper) :
    x ∈ t.relativeFiles place ↔ ∃ c, t.content? (place ++ x) = some c := by
  simp only [relativeFiles, List.mem_map, h.mem_filesUnder]
  constructor
  · rintro ⟨_, ⟨⟨rest, rfl⟩, hc⟩, rfl⟩
    rwa [List.drop_left]
  · exact fun hc => ⟨_, ⟨List.prefix_append _ _, hc⟩, List.drop_left⟩

theorem Proper.nodup_relativeFiles (h : t.Proper) (place : Place) :
    (t.relativeFiles place).Nodup := by
  refine ((t.filesUnder_sublist place).nodup h.nodup).map_on fun x hx y hy hdrop => ?_
  obtain ⟨⟨_, rfl⟩, -⟩ := h.mem_filesUnder.1 hx
  obtain ⟨⟨_, rfl⟩, -⟩ := h.mem_filesUnder.1 hy
  rw [List.drop_left, List.drop_left] at hdrop
  rw [hdrop]

/-- What lies between a directory and a file in it are plain names. -/
theorem Proper.names_of_mem_relativeFiles (h : t.Proper) (hx : x ∈ t.relativeFiles place) :
    ∀ n ∈ x, PathName.IsName n ∧ n ≠ ".." := by
  obtain ⟨c, hc⟩ := h.mem_relativeFiles.1 hx
  intro n hn
  have hne : place ++ x ≠ [] := List.append_ne_nil_of_right_ne_nil _ (List.ne_nil_of_mem hn)
  have hmem := (h.mem_entries_iff hne).2 (content?_eq_some_iff.1 hc)
  exact h.names _ hmem n (List.mem_append_right _ hn)

end FileTree

/-! ### Selecting -/

section

variable {root path : PathName} {globs globs' : List Glob} {files : List PathName}

theorem isSource_append : isSource root (globs ++ globs') path =
    (isSource root globs path && isSource root globs' path) := by
  simp only [isSource, List.any_append, Bool.not_or]
  cases decide (path.extension? = some sourceExtension) <;> simp

theorem selectSources_append : selectSources root (globs ++ globs') files =
    (selectSources root globs files).filter (isSource root globs') := by
  rw [selectSources, selectSources, ← mergeSort_filter, List.filter_filter]
  congr 2
  funext path
  rw [isSource_append, Bool.and_comm]

theorem selectSources_append_comm :
    selectSources root (globs ++ globs') files = selectSources root (globs' ++ globs) files := by
  rw [selectSources, selectSources]
  congr 2
  funext path
  rw [isSource_append, isSource_append, Bool.and_comm]

/-- **More globs leave fewer files, in the same order**: what both lists of globs leave. -/
theorem selectSources_append_eq_filter : selectSources root (globs ++ globs') files =
    (selectSources root globs files).filter (· ∈ selectSources root globs' files) := by
  rw [selectSources_append]
  refine List.filter_congr fun path hpath => ?_
  obtain ⟨hfile, -⟩ := Reading.mem_selectSources.1 hpath
  rw [Bool.eq_iff_iff, decide_eq_true_iff, Reading.mem_selectSources]
  exact (and_iff_right hfile).symm

/-- What is selected among files below the root can be selected by what lies between. -/
theorem selectSources_map (files : List Place) : selectSources root globs (files.map root.joinAll) =
    ((files.filter fun rel => isSource root globs (root.joinAll rel)).mergeSort fun a b =>
      (compare (root.joinAll a) (root.joinAll b)).isLE).map root.joinAll := by
  rw [selectSources, List.filter_map]
  refine Eq.symm (List.map_mergeSort ?_)
  exact fun _ _ _ _ => rfl

/-- What lies between a directory, which is at a place and has a path, and a source below it that no
glob matches. -/
structure FileTree.IsSource (t : FileTree) (place : Place) (root : PathName) (globs : List Glob)
    (rel : Place) : Prop where
  file : ∃ c, t.content? (place ++ rel) = some c
  extension : ∃ dirs stem, stem ≠ "" ∧ rel = dirs ++ [stem ++ ".rs"]
  relative : ∀ g ∈ globs, g.matches ⟨"/".intercalate rel⟩ = false
  joined : ∀ g ∈ globs, g.matches (root.joinAll rel) = false

theorem isSource_joinAll_iff {rel : List String} (hrel : ∀ n ∈ rel, PathName.IsName n ∧ n ≠ "..")
    (hne : rel ≠ []) : isSource root globs (root.joinAll rel) = true ↔
      (∃ dirs stem, stem ≠ "" ∧ rel = dirs ++ [stem ++ ".rs"]) ∧
        (∀ g ∈ globs, g.matches ⟨"/".intercalate rel⟩ = false) ∧
        ∀ g ∈ globs, g.matches (root.joinAll rel) = false := by
  rw [isSource, PathName.below?_joinAll hrel, Option.getD_some,
    PathName.joinAll_empty fun n hn => (hrel n hn).1, Bool.and_eq_true, decide_eq_true_iff,
    sourceExtension, PathName.extension?_joinAll_eq_rs_iff hrel hne]
  simp [forall_and]

/-- **What is selected among the files of a tree**: the sources below the directory, each once, in
the order of their components. -/
theorem FileTree.Proper.exists_selected {t : FileTree} (h : t.Proper) {place : Place}
    (hplace : t.entry? place = some .directory) (root : PathName) (globs : List Glob) :
    ∃ files : List Place, files.Nodup ∧ (∀ rel, rel ∈ files ↔ t.IsSource place root globs rel) ∧
      selectSources root globs ((t.relativeFiles place).map root.joinAll) =
        files.map root.joinAll ∧
      (files.map root.joinAll).Pairwise fun a b => compare a.components b.components = .lt := by
  let files := ((t.relativeFiles place).filter fun rel =>
    isSource root globs (root.joinAll rel)).mergeSort fun a b =>
      (compare (root.joinAll a) (root.joinAll b)).isLE
  have hselect : selectSources root globs ((t.relativeFiles place).map root.joinAll) =
      files.map root.joinAll := selectSources_map _
  have hmem : ∀ rel, rel ∈ files ↔
      rel ∈ t.relativeFiles place ∧ isSource root globs (root.joinAll rel) = true := by
    simp [files]
  have hnames : ∀ {rel}, rel ∈ files → ∀ n ∈ rel, PathName.IsName n ∧ n ≠ ".." :=
    fun hrel => h.names_of_mem_relativeFiles ((hmem _).1 hrel).1
  have hnodup : files.Nodup :=
    (List.mergeSort_perm _ _).nodup_iff.2 ((h.nodup_relativeFiles place).filter _)
  have hsorted : (files.map root.joinAll).Pairwise fun a b => (compare a b).isLE := by
    rw [← hselect]
    exact pairwise_mergeSort _
  have hapart : (files.map root.joinAll).Pairwise fun a b => compare a b ≠ .eq := by
    refine List.pairwise_map.2 (hnodup.imp_of_mem fun {a b} ha hb hne heq => hne ?_)
    exact PathName.joinAll_injective (hnames ha) (hnames hb)
      (PathName.same_iff.1 (PathName.compare_eq_iff.1 heq))
  have hlt : (files.map root.joinAll).Pairwise fun a b => compare a b = .lt :=
    pairwise_lt hsorted hapart
  refine ⟨files, hnodup, fun rel => ?_, hselect, hlt⟩
  -- the directory is not a file itself
  have hne : ∀ {rel}, (∃ c, t.content? (place ++ rel) = some c) → rel ≠ [] := by
    rintro _ ⟨c, hc⟩ rfl
    rw [List.append_nil, content?_eq_some_iff, hplace] at hc
    cases hc
  rw [hmem, h.mem_relativeFiles]
  constructor
  · rintro ⟨hfile, hsource⟩
    have hrel := h.names_of_mem_relativeFiles (h.mem_relativeFiles.2 hfile)
    obtain ⟨hextension, hrelative, hjoined⟩ := (isSource_joinAll_iff hrel (hne hfile)).1 hsource
    exact ⟨hfile, hextension, hrelative, hjoined⟩
  · rintro ⟨hfile, hextension, hrelative, hjoined⟩
    have hrel := h.names_of_mem_relativeFiles (h.mem_relativeFiles.2 hfile)
    exact ⟨hfile, (isSource_joinAll_iff hrel (hne hfile)).2 ⟨hextension, hrelative, hjoined⟩⟩

end

/-! ### Finding -/

theorem Config.readGlobs_append {texts texts' : List String} {globs globs' : List Glob}
    (h : readGlobs texts = .ok globs) (h' : readGlobs texts' = .ok globs') :
    readGlobs (texts ++ texts') = .ok (globs ++ globs') := by
  unfold readGlobs at *
  rw [List.mapM_append, h, h']
  rfl

/-- In a directory that is there the sources are found. -/
theorem run_findSources_of_directory {d : Disk} {root : PathName} {place : Place}
    (hlocate : d.tree.locate root = .ok place) (hplace : d.tree.entry? place = some .directory)
    {exclude : List String} {globs : List Glob} (h : Config.readGlobs exclude = .ok globs) :
    (findSources root exclude : StateM Disk _).run d =
      (.ok (selectSources root globs ((d.tree.relativeFiles place).map root.joinAll)), d) := by
  have hdirectory : d.tree.isDirectory root = true := by
    rw [FileTree.isDirectory, hlocate]
    simp [hplace]
  have hfiles : d.tree.filesBelow root = .ok ((d.tree.relativeFiles place).map root.joinAll) := by
    rw [FileTree.filesBelow_eq, hlocate, FileTree.relativeFiles, List.map_map]
    rfl
  rw [Disk.shows.run_findSources, Reading.findSources_eq h]
  change (if d.tree.isDirectory root = true then
    ((d.tree.filesBelow root).mapError _).map _ else _, d) = _
  rw [if_pos hdirectory, hfiles]
  rfl

/-- A disk with sources, and with files that are none. -/
def scanDisk : Disk :=
  .ofTree ⟨[(["src"], .directory), (["src", ".rs"], .file (.text "")), (["src", "a"], .directory),
    (["src", "a", "b.rs"], .file (.text "")), (["src", "a.md"], .file (.text "")),
    (["src", "a.rs"], .file (.text "")), (["src", "gen"], .directory),
    (["src", "gen", "c.rs"], .file (.text ""))]⟩

end PatternFactory
