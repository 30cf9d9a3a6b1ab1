import PatternFactory.Proofs.Growth
import PatternFactory.Proofs.Reading

/-!
# The nearest configuration file

The configuration for a directory is looked for in the directory itself and in those above it, one
after the other (`PathName.ancestors`).  The nearest file decides if it can be read: searching comes
to the same as loading this file by its name, whether the text can be used or not.

Searching and loading differ when the nearest file cannot be read.  Loading fails then, and
searching goes on as if the file were not there (`Config.search_eq_load_iff`).
-/

namespace PatternFactory

namespace FileTree

variable {t : FileTree} {p : PathName}

/-- What the regular file holds that a path name leads to. -/
def fileAt? (t : FileTree) (p : PathName) : Option Content := (t.locate p).toOption.bind t.content?

theorem fileAt?_eq_some_iff {c : Content} : t.fileAt? p = some c ↔
    ∃ y, t.locate p = .ok y ∧ t.entry? y = some (.file c) := by
  unfold fileAt? content?
  cases t.locate p with
  | error e => simp [Except.toOption]
  | ok y => rcases hy : t.entry? y with _ | _ | _ <;> simp [Except.toOption, hy]

/-- What can be read is the text of a regular file. -/
theorem fileAt?_of_read {text : String} (h : t.read p = .ok text) :
    t.fileAt? p = some (.text text) := by
  obtain ⟨y, hy, hentry⟩ := read_eq_ok_iff.1 h
  exact fileAt?_eq_some_iff.2 ⟨y, hy, hentry⟩

theorem read_of_text {text : String} (h : t.fileAt? p = some (.text text)) :
    t.read p = .ok text := by
  obtain ⟨y, hy, hentry⟩ := fileAt?_eq_some_iff.1 h
  exact read_eq_ok_iff.2 ⟨y, hy, hentry⟩

end FileTree

/-! ### Searching and loading -/

namespace Config

/-- Whatever is wrong with a text, it was read. -/
theorem parse_ne_unreadable (text : String) (f : PathName) (e : FileError) :
    parse text ≠ .error (.unreadableConfig f e) := by
  unfold parse
  cases ofText text with
  | error fault => simp
  | ok c =>
    change c.checked ≠ _
    unfold checked
    cases c.validate <;> simp

end Config

namespace Reading

variable {v : Reading} {f : PathName}

/-- A search never fails because of a file that cannot be read. -/
theorem searchIn_ne_unreadable (paths : List PathName) (e : FileError) :
    @Config.searchIn Id _ v.fileSystem paths ≠ .error (.unreadableConfig f e) := by
  rcases v.exists_first_readable paths with ⟨before, g, after, text, rfl, hbefore, ht⟩ | hnone
  · rw [searchIn_of_found hbefore ht]
    exact Config.parse_ne_unreadable text f e
  · rw [searchIn_of_none hnone]
    exact nofun

/-- If no file before it can be read, then a search comes to the same as loading the file just when
it can be read. -/
theorem searchIn_eq_load_iff {before after : List PathName}
    (h : ∀ p ∈ before, ∀ t, v.read p ≠ .ok t) :
    @Config.searchIn Id _ v.fileSystem (before ++ f :: after) = @Config.load Id _ v.fileSystem f ↔
      ∃ text, v.read f = .ok text := by
  constructor
  · intro heq
    cases hread : v.read f with
    | ok text => exact ⟨text, rfl⟩
    | error e =>
      rw [load_of_unreadable hread] at heq
      exact absurd heq (searchIn_ne_unreadable _ e)
  · rintro ⟨text, ht⟩
    rw [searchIn_of_found h ht, load_of_read ht]

/-- A file that cannot be read is passed over. -/
theorem searchIn_of_unreadable {before after : List PathName} {e : FileError}
    (h : ∀ p ∈ before, ∀ t, v.read p ≠ .ok t) (he : v.read f = .error e) :
    @Config.searchIn Id _ v.fileSystem (before ++ f :: after) =
      @Config.searchIn Id _ v.fileSystem after := by
  have hpassed : ∀ p ∈ before ++ [f], ∀ t, v.read p ≠ .ok t := by
    refine List.forall_mem_append.2 ⟨h, List.forall_mem_singleton.2 fun t ht => ?_⟩
    cases he.symm.trans ht
  rw [← searchIn_append hpassed after, List.append_assoc]
  rfl

end Reading

/-! ### On a disk -/

namespace Config

/-- Of a directory and those above it, `dir` is the nearest with a configuration file, which holds
`c`; the others are `farther`. -/
inductive Nearest (t : FileTree) (start dir : PathName) (farther : List PathName)
    (c : Content) : Prop
  | intro (nearer) (hdirs : start.ancestors searchDepth = nearer ++ dir :: farther)
      (hnearer : ∀ p ∈ nearer, t.fileAt? (p.join configFileName) = none)
      (hfile : t.fileAt? (dir.join configFileName) = some c)

end Config

/-- Of a disk of which some files cannot be read, what can be read are the texts of regular
files. -/
theorem read_failing_eq_ok_iff {d : Disk} {unreadable unlistable : PathName → Option FileError}
    {f : PathName} {text : String} :
    (d.tree.reading.failing unreadable unlistable).read f = .ok text ↔
      unreadable f = none ∧ d.tree.fileAt? f = some (.text text) := by
  change (unreadable f).elim (d.tree.read f) .error = _ ↔ _
  cases unreadable f with
  | some e => simp
  | none => exact ⟨fun h => ⟨rfl, FileTree.fileAt?_of_read h⟩, fun h => FileTree.read_of_text h.2⟩

theorem not_readable_of_none {d : Disk} {dirs : List PathName}
    (unreadable unlistable : PathName → Option FileError)
    (h : ∀ p ∈ dirs, d.tree.fileAt? (p.join configFileName) = none) :
    ∀ f ∈ dirs.map (·.join configFileName), ∀ text,
      (d.tree.reading.failing unreadable unlistable).read f ≠ .ok text := by
  refine List.forall_mem_map.2 fun p hp text ht => ?_
  cases (h p hp).symm.trans (read_failing_eq_ok_iff.1 ht).2

end PatternFactory
