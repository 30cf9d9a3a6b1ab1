import PatternFactory.Proofs.Reading
import PatternFactory.Proofs.UnitFiles
import PatternFactory.SourceTree

/-!
# Units in source trees

The file of a unit lies over one directory for each segment of the namespace, and a file of a source
tree holds the module that its directories and its name say.  So the file of a unit, looked at from
the root that it was put under, holds the module of the unit's own name (`modulePath_unitPath`):
whatever the root is, its components are followed by plain names only, and these are read back one
by one.

Names that have a meaning of their own for files are left out: `mod`, and `lib` and `main` at the
top.
-/

namespace PatternFactory

namespace PathName

/-! ### Relative path names -/

/-- A slash comes between a name that was joined to a path name and the next one. -/
theorem front_join {name : String} (h : IsName name) (p : PathName) :
    (p.join name).front = (p.join name).text ++ "/" := by
  have hne : name.toList ≠ [] := fun hnil =>
    (isPart_iff.1 h.isPart).1 (String.toList_eq_nil_iff.1 hnil)
  have hempty : (p.join name).text.isEmpty = false := by
    rw [join_eq h, ← Bool.not_eq_true, String.isEmpty_iff, ← String.toList_eq_nil_iff]
    simp [hne]
  have hend : (p.join name).text.endsWith "/" = false := by
    rw [join_eq h, ← Bool.not_eq_true, endsWith_slash_iff, String.toList_append]
    intro hslash
    have hlast : ['/'] <:+ name.toList := List.suffix_of_suffix_length_le hslash
      (List.suffix_append _ _) (List.length_pos_of_ne_nil hne)
    exact h.noSlash (hlast.mem List.mem_cons_self)
  rw [front, hempty, hend]
  rfl

theorem text_joinAll {p : PathName} (hp : p.front = p.text ++ "/") {names : List String}
    (h : ∀ name ∈ names, IsName name) :
    (p.joinAll names).text = "/".intercalate (p.text :: names) := by
  induction names generalizing p with
  | nil => simp [joinAll]
  | cons name names ih =>
    obtain ⟨hname, hnames⟩ := List.forall_mem_cons.1 h
    refine (ih (front_join hname p) hnames).trans ?_
    rw [join_eq hname, hp]
    cases names with
    | nil => simp
    | cons next names =>
      simp [String.intercalate_cons_of_ne_nil, String.append_assoc]

/-- Plain names behind nothing are these names with slashes between them. -/
theorem joinAll_empty {names : List String} (h : ∀ name ∈ names, IsName name) :
    (⟨""⟩ : PathName).joinAll names = ⟨"/".intercalate names⟩ := by
  cases names with
  | nil => rfl
  | cons name names =>
    obtain ⟨hname, hnames⟩ := List.forall_mem_cons.1 h
    have hfirst : (⟨""⟩ : PathName).join name = ⟨name⟩ := by
      rw [join_eq hname]
      simp [front]
    have htext := text_joinAll (front_join hname ⟨""⟩) hnames
    rw [hfirst] at htext
    rw [joinAll, List.foldl_cons, hfirst, ← htext]
    rfl

/-- What follows a path name is what was joined to it. -/
theorem below?_joinAll {names : List String} (h : ∀ name ∈ names, IsName name ∧ name ≠ "..")
    (p : PathName) : (p.joinAll names).below? p = some ((⟨""⟩ : PathName).joinAll names) := by
  have hparts : ofParts (names.map .name) = ⟨"/".intercalate names⟩ := by
    cases names with
    | nil => rfl
    | cons name names => simp [ofParts, Function.comp_def, PathPart.text]
  rw [joinAll_empty fun name hname => (h name hname).1, below?, components_joinAll h]
  simp [hparts]

/-- The text of a component that is a plain name. -/
def plainName? : PathPart → Option String
  | .name n => some n
  | _ => none

theorem names_eq_filterMap (p : PathName) : p.names = p.components.filterMap plainName? := by
  refine List.filterMap_congr fun part _ => ?_
  cases part <;> rfl

theorem bind_plainName? (piece : String) : (ofPiece? piece).bind plainName? =
    if isPart piece && piece ≠ ".." then some piece else none := by
  rw [isPart, ofPiece?]
  split_ifs <;> simp_all [plainName?]

/-- The plain names among the components are the parts other than `..`. -/
theorem names_eq (p : PathName) : p.names = p.parts.filter (· ≠ "..") := by
  have hpieces : ∀ ps : List String, (ps.filterMap ofPiece?).filterMap plainName? =
      (ps.filter isPart).filter (· ≠ "..") := fun ps => by
    rw [List.filterMap_filterMap, List.filter_filter, ← List.filterMap_eq_filter]
    refine List.filterMap_congr fun piece _ => ?_
    rw [bind_plainName?, Option.guard, Bool.and_comm]
  rw [names_eq_filterMap, components_eq, List.filterMap_append, hpieces, parts]
  fun_cases lead p.text.toList with
  | case1 rest => simp [pieces, plainName?]
  | case2 => simp [pieces, plainName?]
  | case3 rest => simp [pieces, plainName?]
  | case4 => simp

/-- The directories of a file. -/
theorem names_parent_join {p : PathName} (hp : p.isAbsolute = false) {name : String}
    (h : IsName name) : ((p.join name).parent?.map PathName.names).getD [] = p.names := by
  obtain ⟨before, hpieces, hparts⟩ := exists_pieces_join h p
  obtain ⟨q, hq, -, hqparts, -⟩ := exists_parent (relative_join h hp) hpieces h.isPart
  rw [hq, Option.map_some, Option.getD_some, names_eq, names_eq, hqparts, hparts]

theorem stem?_join {name : String} (hne : name ≠ "") (hslash : '/' ∉ name.toList) (p : PathName) :
    (p.join (name ++ ".rs")).stem? = some name := by
  have hfile : IsName (name ++ ".rs") := isName_append hslash (by decide) (by decide)
  have hplain : name ++ ".rs" ≠ ".." := append_ne_of_length (by decide)
  simp [stem?, fileName?_join hfile hplain, splitExtension_rs hne]

end PathName

/-! ### The module of a unit -/

/-- The module that a file holds, by its directories and its name. -/
theorem modulePath_of_below {root path dir : PathName} {name : String}
    (h : path.below? root = some (dir.join (name ++ ".rs"))) (hdir : dir.isAbsolute = false)
    (hne : name ≠ "") (hslash : '/' ∉ name.toList) : modulePath root path =
      .ofSegments (if name = "mod" || (dir.names.isEmpty && (name = "lib" || name = "main"))
        then dir.names else dir.names ++ [name]) := by
  have hfile : PathName.IsName (name ++ ".rs") :=
    PathName.isName_append hslash (by decide) (by decide)
  rw [modulePath, h]
  simp only [Option.getD_some, PathName.names_parent_join hdir hfile,
    PathName.stem?_join hne hslash]

/-- The name of a unit that can be found as a module of a source tree. -/
structure QualifiedName.IsModuleName (q : QualifiedName) : Prop where
  built : ∃ names, q.namespace = Namespace.ofSegments names
  segments : ∀ s ∈ q.namespace.segments, '/' ∉ s.toList
  nonempty : q.name ≠ ""
  plain : ∀ c ∈ q.name.toList, c ≠ '/' ∧ c ≠ '.' ∧ c ≠ ':'
  notDirectory : q.name ≠ "mod"
  notRoot : q.namespace.isRoot → q.name ≠ "lib" ∧ q.name ≠ "main"

namespace QualifiedName.IsModuleName

variable {q q' : QualifiedName}

theorem isName (h : q.IsModuleName) : ∀ s ∈ q.namespace.segments, PathName.IsName s ∧ s ≠ ".." :=
  fun s hs => isName_of_mem_segments h.built hs (h.segments s hs)

theorem noSlash (h : q.IsModuleName) : '/' ∉ q.name.toList := fun hslash =>
  (h.plain '/' hslash).1 rfl

theorem isName_fileName (h : q.IsModuleName) :
    PathName.IsName q.fileName ∧ q.fileName ≠ ".." :=
  ⟨PathName.isName_append h.noSlash (by decide) (by decide),
    PathName.append_ne_of_length (by decide)⟩

theorem isName_file (h : q.IsModuleName) :
    ∀ n ∈ q.namespace.segments ++ [q.fileName], PathName.IsName n ∧ n ≠ ".." :=
  List.forall_mem_append.2 ⟨h.isName, by simpa using h.isName_fileName⟩

theorem segments_child (h : q.IsModuleName) :
    (q.namespace.child q.name).segments = q.namespace.segments ++ [q.name] := by
  obtain ⟨names, hnames⟩ := h.built
  refine Namespace.segments_child_of_part
    (fun s hs => Namespace.splitName_of_mem_segments (hnames ▸ hs)) ⟨h.nonempty, fun c hc => ?_⟩
  obtain ⟨-, hdot, hcolon⟩ := h.plain c hc
  exact isSeparator_eq_false.2 ⟨hcolon, hdot⟩

/-- What the path name of a unit has behind its root. -/
theorem below?_unitPath (h : q.IsModuleName) (out : PathName) : (unitPath out q).below? out =
    some (((⟨""⟩ : PathName).joinAll q.namespace.segments).join q.fileName) := by
  rw [← PathName.joinAll_append, unitPath]
  exact PathName.below?_joinAll h.isName_file out

/-- **The file of a unit holds the module of the unit's name.** -/
theorem modulePath_eq (h : q.IsModuleName) (out : PathName) :
    modulePath out (unitPath out q) = q.namespace.child q.name := by
  have hnames : ∀ s ∈ q.namespace.segments, PathName.IsName s := fun s hs => (h.isName s hs).1
  have hdirectories : ((⟨""⟩ : PathName).joinAll q.namespace.segments).names =
      q.namespace.segments := by
    rw [PathName.names_eq, PathName.parts_joinAll hnames, PathName.parts_of_bare (.inl rfl)]
    simpa using fun s hs => (h.isName s hs).2
  rw [modulePath_of_below (h.below?_unitPath out) (PathName.relative_joinAll hnames rfl) h.nonempty
    h.noSlash, hdirectories, if_neg]
  · rfl
  · have hroot : q.namespace.segments = [] → q.name ≠ "lib" ∧ q.name ≠ "main" := fun hnil =>
      h.notRoot (by simp [Namespace.isRoot, hnil])
    simpa [h.notDirectory] using hroot

/-- Different units have files in different places. -/
theorem eq_of_same (h : q.IsModuleName) (h' : q'.IsModuleName) {out : PathName}
    (hsame : (unitPath out q).same (unitPath out q')) : q = q' := by
  rw [PathName.same_iff, unitPath, unitPath, PathName.components_joinAll h.isName_file,
    PathName.components_joinAll h'.isName_file, List.append_cancel_left_eq] at hsame
  have hfiles : q.namespace.segments ++ [q.fileName] = q'.namespace.segments ++ [q'.fileName] :=
    List.map_injective_iff.2 (fun _ _ => PathPart.name.inj) hsame
  have hplace : q.filePlace [] = q'.filePlace [] := hfiles
  exact QualifiedName.filePlace_inj.1 hplace

end QualifiedName.IsModuleName

/-- What is read of a file as a source is its text, as the text of the module that the file
holds. -/
theorem run_loadSource {d : Disk} {root path : PathName} {text : String}
    (h : d.tree.read path = .ok text) : (loadSource root path : StateM Disk _).run d =
      (readSource path (modulePath root path) text, d) := by
  have hread : (FileSystem.read path : StateM Disk _).run d = (.ok text, d) :=
    (Disk.shows.read path d).trans (congrArg (·, d) h)
  have htext : (readText? path : StateM Disk _).run d = (.ok text, d) := by
    rw [readText?, run_bind_of_eq hread]
    rfl
  rw [loadSource, run_bind_of_eq htext]
  rfl

/-- **Paths of units are read back.**  Let a unit have a name that is no name of its own for files.
Then its file, under any root, holds the module that the unit's name says: the segments of the
namespace and the name.  Two such units do not share a file.  And when the file is read as a source
of a tree at that root, its text is that of the module of this name. -/
theorem modulePath_unitPath (out : PathName) (q : QualifiedName) (h : q.IsModuleName) :
    modulePath out (unitPath out q) = q.namespace.child q.name ∧
    (q.namespace.child q.name).segments = q.namespace.segments ++ [q.name] ∧
    (∀ q' : QualifiedName, q'.IsModuleName → (unitPath out q).same (unitPath out q') → q = q') ∧
    ∀ (d : Disk) (text : String), d.tree.read (unitPath out q) = .ok text →
      (loadSource out (unitPath out q) : StateM Disk _).run d =
        (readSource (unitPath out q) (q.namespace.child q.name) text, d) := by
  refine ⟨h.modulePath_eq out, h.segments_child, fun q' h' => h.eq_of_same h',
    fun d text hread => ?_⟩
  rw [run_loadSource hread, h.modulePath_eq]

/-- Under a root that is written in a roundabout way. -/
theorem modulePath_unitPath_roundabout :
    let out : PathName := ⟨"./gen//."⟩
    let q : QualifiedName := ⟨.ofSegments ["a::b"], "FooPatterns"⟩
    let d : Disk := .ofTree ⟨[(["gen"], .directory), (["gen", "a"], .directory),
      (["gen", "a", "b"], .directory), (["gen", "a", "b", "FooPatterns.rs"], .file (.text "x"))]⟩
    q.IsModuleName ∧ modulePath out (unitPath out q) = q.namespace.child q.name ∧
      (q.namespace.child q.name).segments = ["a", "b", "FooPatterns"] ∧
      (loadSource out (unitPath out q) : StateM Disk _).run d =
        (readSource (unitPath out q) (q.namespace.child q.name) "x", d) := by
  intro out q d
  have hsegments : q.namespace.segments = ["a", "b"] := by decide +kernel
  have hname : q.name = "FooPatterns" := rfl
  have hq : q.IsModuleName :=
    { built := ⟨["a::b"], rfl⟩
      segments := by simp [hsegments]
      nonempty := by simp [hname]
      plain := by simp [hname]
      notDirectory := by simp [hname]
      notRoot := by simp [hname] }
  obtain ⟨hpath, -, -, hload⟩ := modulePath_unitPath out q hq
  exact ⟨hq, hpath, by decide +kernel, hload d "x" (by decide +kernel)⟩

end PatternFactory
