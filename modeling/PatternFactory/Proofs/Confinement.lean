import PatternFactory.Command.Basic
import PatternFactory.Proofs.Discovered
import PatternFactory.Proofs.Identity
import PatternFactory.Proofs.UnitFiles

/-!
# Generated files stay below their root

The files that are written, moved and removed are those of units and their temporary files.  Their
paths lead from the root over one directory for each segment of the unit's namespace, and all that
they have behind the root are plain names (`Confined`).  This is stated as an equation: in a file
system that does something else at every other path, generation is the same (`generate_within`).

* A segment of a namespace holds no dot and no slash and is not empty: it comes from the name of a
  directory or a file, or it is the name of a module (`Namespace.Proper`).
* A unit is rendered only if its name is one word (`Renderer.worded_standard`), and that comes
  before anything is written for it.
* The units of a round are the sources of the next one, in the namespaces of their names, so that
  all this goes on from round to round (`RunPlan.courseFrom_congr`).
-/

namespace PatternFactory

/-! ### Names that can stand in paths -/

namespace Namespace

/-- The segments are plain names of directories. -/
def Proper (ns : Namespace) : Prop := ∀ s ∈ ns.segments, PathName.IsName s ∧ s ≠ ".."

theorem proper_ofSegments {names : List String} (h : ∀ n ∈ names, '/' ∉ n.toList) :
    (ofSegments names).Proper := by
  intro s hs
  obtain ⟨name, hname, hpart⟩ := List.mem_flatMap.1 hs
  refine PathName.isName_of_part (of_mem_splitName hpart) fun hslash => h name hname ?_
  have hmem : '/' ∈ (splitName name).flatMap String.toList :=
    List.mem_flatMap.2 ⟨s, hpart, hslash⟩
  rw [flatMap_splitName] at hmem
  exact List.mem_of_mem_filter hmem

theorem Proper.child {ns : Namespace} (h : ns.Proper) {name : String} (hname : IsWord name) :
    (ns.child name).Proper := by
  refine proper_ofSegments fun n hn => ?_
  rcases List.mem_append.1 hn with hn | hn
  · exact (h n hn).1.noSlash
  · rw [List.mem_singleton.1 hn]
    exact hname.notMem_slash

end Namespace

theorem PathName.notMem_of_mem_names {p : PathName} {n : String} (h : n ∈ p.names) :
    '/' ∉ n.toList := by
  obtain ⟨part, hpart, hn⟩ := List.mem_filterMap.1 h
  cases part with
  | name =>
    cases hn
    exact notMem_of_mem_components hpart
  | _ => cases hn

theorem PathName.subset_splitExtension (name : String) :
    (splitExtension name).1.toList ⊆ name.toList := by
  unfold splitExtension
  dsimp only
  split
  next stem hstem =>
    split
    · exact List.Subset.refl _
    · intro c hc
      have hmem : c ∈ name.toList.reverse := by
        refine List.mem_of_mem_drop (hstem ▸ List.mem_cons_of_mem _ ?_)
        simpa using hc
      exact List.mem_reverse.1 hmem
  next => exact List.Subset.refl _

theorem PathName.notMem_of_stem {p : PathName} {stem : String} (h : p.stem? = some stem) :
    '/' ∉ stem.toList := by
  obtain ⟨name, hname, rfl⟩ := Option.map_eq_some_iff.1 h
  unfold fileName? at hname
  split at hname
  next heq =>
    cases hname
    exact fun hslash => notMem_of_mem_components (List.mem_of_getLast? heq)
      (subset_splitExtension _ hslash)
  next => cases hname

/-- The directories and files that lead to a module have plain names. -/
theorem proper_modulePath (root path : PathName) : (modulePath root path).Proper := by
  unfold modulePath
  dsimp only
  generalize (path.below? root).getD path = relative
  have hdirectories : ∀ n ∈ (relative.parent?.map PathName.names).getD [], '/' ∉ n.toList := by
    cases relative.parent? with
    | none => simp
    | some parent => exact fun n => PathName.notMem_of_mem_names
  have hstem : '/' ∉ (relative.stem?.getD "").toList := by
    cases h : relative.stem? with
    | none => simp
    | some stem => exact PathName.notMem_of_stem h
  refine Namespace.proper_ofSegments fun n hn => ?_
  split at hn
  · exact hdirectories n hn
  · rcases List.mem_append.1 hn with hn | hn
    · exact hdirectories n hn
    · exact List.mem_singleton.1 hn ▸ hstem

/-- The name can be that of a file below directories. -/
structure QualifiedName.Proper (q : QualifiedName) : Prop where
  «namespace» : q.namespace.Proper
  name : IsWord q.name

/-! ### The paths of units -/

/-- The path is that of the file of a unit or of its temporary file: it leads from `out` over one
directory for each segment of the unit's namespace. -/
def Confined (out p : PathName) : Prop :=
  ∃ q : QualifiedName, (p = unitPath out q ∨ p = (unitPath out q).temporary) ∧
    ∃ file, p.components = out.components ++ (q.namespace.segments ++ [file]).map PathPart.name

namespace QualifiedName

variable {q : QualifiedName}

/-- A file beside the others of a namespace. -/
theorem Proper.components_join (h : q.Proper) (out : PathName) {ending : String}
    (hending : '/' ∉ ending.toList) (hlength : 2 < ending.length) :
    ((out.joinAll q.namespace.segments).join (q.name ++ ending)).components =
      out.components ++ (q.namespace.segments ++ [q.name ++ ending]).map PathPart.name := by
  have hfile : PathName.IsName (q.name ++ ending) :=
    PathName.isName_append h.name.notMem_slash hending (by omega)
  have hne : q.name ++ ending ≠ ".." := PathName.append_ne_of_length hlength
  rw [PathName.components_join hfile hne, PathName.components_joinAll h.namespace]
  simp

theorem Proper.confined (h : q.Proper) (out : PathName) :
    Confined out (unitPath out q) ∧ Confined out (unitPath out q).temporary := by
  refine ⟨⟨q, .inl rfl, q.fileName, ?_⟩, ⟨q, .inr rfl, q.temporaryName, ?_⟩⟩
  · rw [unitPath_eq]
    exact h.components_join out (by decide) (by decide)
  · rw [temporary_unitPath out h.name.ne_empty h.name.notMem_slash]
    exact h.components_join out (by decide) (by decide)

end QualifiedName

/-! ### Keeping to some paths -/

section

variable {m : Type → Type}

/-- The file system in which files are written, moved and removed at the allowed paths only.  At any
other path `refused` happens instead. -/
@[reducible] def FileSystem.within (fs : FileSystem m) (allowed : PathName → Prop)
    [DecidablePred allowed] (refused : m (Except FileError Unit)) : FileSystem m :=
  { fs with
    write := fun p text => if allowed p then fs.write p text else refused
    rename := fun p q => if allowed p ∧ allowed q then fs.rename p q else refused
    remove := fun p => if allowed p then fs.remove p else refused }

variable [Monad m] (fs : FileSystem m) {allowed : PathName → Prop} [DecidablePred allowed]
  (refused : m (Except FileError Unit))

theorem ensureDirectory_within (p : PathName) :
    @ensureDirectory m _ (fs.within allowed refused) p = @ensureDirectory m _ fs p := rfl

theorem makeLineage_within (ps : List PathName) :
    @makeLineage m _ (fs.within allowed refused) ps = @makeLineage m _ fs ps := by
  induction ps with
  | nil => rfl
  | cons p ps ih => simp only [makeLineage, ih, ensureDirectory_within]; rfl

theorem makeParents_within (p : PathName) :
    @makeParents m _ (fs.within allowed refused) p = @makeParents m _ fs p := by
  simp only [makeParents, makeDirectories, makeLineage_within]

theorem readTexts_within (ps : List PathName) :
    @readTexts m _ (fs.within allowed refused) ps = @readTexts m _ fs ps := by
  induction ps with
  | nil => rfl
  | cons p ps ih => simp only [readTexts, ih]; rfl

theorem searchIn_within (ps : List PathName) :
    @Config.searchIn m _ (fs.within allowed refused) ps = @Config.searchIn m _ fs ps := by
  induction ps with
  | nil => rfl
  | cons p ps ih => simp only [Config.searchIn, ih]; rfl

theorem prepare_within (src : PathName) (o : Options) :
    @prepare m _ (fs.within allowed refused) src o = @prepare m _ fs src o := by
  simp only [prepare, Options.resolve, Options.givenConfig, Config.search, searchIn_within,
    scanSources, loadSources, readTexts_within]
  rfl

theorem writeUnit_within {p : PathName} (hp : allowed p) (htmp : allowed p.temporary)
    (text : String) : @writeUnit m _ (fs.within allowed refused) p text =
      @writeUnit m _ fs p text := by
  have hwrite : (fs.within allowed refused).write p.temporary text =
      fs.write p.temporary text := if_pos htmp
  have hrename : (fs.within allowed refused).rename p.temporary p = fs.rename p.temporary p :=
    if_pos ⟨htmp, hp⟩
  have hremove : (fs.within allowed refused).remove p.temporary = fs.remove p.temporary :=
    if_pos htmp
  simp only [writeUnit, replaceFile, makeParents_within, hwrite, hrename, hremove]

theorem fileEmitter_within {out : PathName} {q : QualifiedName} (hq : q.Proper)
    [DecidablePred (Confined out)] : @fileEmitter m _ (fs.within (Confined out) refused) out q =
      @fileEmitter m _ fs out q := by
  funext text
  obtain ⟨hp, htmp⟩ := hq.confined out
  simp only [fileEmitter, writeUnit_within fs refused hp htmp]

end

/-! ### The names of units -/

/-- A source in a proper namespace whose names are words. -/
structure SourceFile.Proper (s : SourceFile) : Prop where
  «namespace» : s.namespace.Proper
  items : Item.ListNamed s.items

/-- The renderer writes units only whose names are words. -/
def Renderer.Worded (r : Renderer) : Prop :=
  ∀ name d text, r name d = some text → IsWord name

theorem Renderer.worded_standard (rt : Path) : (Renderer.standard rt).Worded := by
  intro name d text h
  obtain ⟨items, hitems, -⟩ := Option.bind_eq_some_iff.1 h
  unfold Declaration.unitItems? at hitems
  split at hitems
  next hword => exact isOneWord_iff.1 hword
  next => cases hitems

theorem Item.Below.proper {ns ns' : Namespace} {items : List Item} {item : Item}
    (h : Below ns items ns' item) (hitems : ListNamed items) (hns : ns.Proper) : ns'.Proper := by
  induction h with
  | here => exact hns
  | inside h _ ih =>
    obtain ⟨hname, hcontent⟩ := listNamed_iff.1 hitems _ h
    exact ih hcontent (hns.child hname)

theorem SourceFile.Proper.of_mem_discover {s : SourceFile} (hs : s.Proper) {m : Markers}
    {d : MarkedDeclaration} (h : d ∈ s.discover m) : d.namespace.Proper := by
  obtain ⟨-, item, -, hbelow⟩ := exists_below_of_mem_discover h hs.items
  exact hbelow.proper hs.items hs.namespace

theorem SourceFile.proper_of_parse {path : PathName} {ns : Namespace} {text : String}
    {s : SourceFile} (h : SourceFile.parse path ns text = .ok s) (hns : ns.Proper) : s.Proper := by
  obtain ⟨-, rfl, hitems⟩ := named_of_parse h
  exact ⟨hns, hitems⟩

/-- The units of declarations in proper namespaces have proper names. -/
theorem Generator.proper_of_collect {g : Generator} (hg : g.renderer.Worded)
    {found : List MarkedDeclaration} (hfound : ∀ d ∈ found, d.namespace.Proper)
    {c : Collection} (h : g.collect found = .ok c) {u : GeneratedUnit} (hu : u ∈ c.units) :
    u.name.Proper := by
  obtain ⟨d, hd, hname, hrender⟩ := exists_of_mem_units h hu
  exact ⟨hname ▸ hfound d hd, hg _ _ _ hrender⟩

/-- A unit of a proper name is a proper source. -/
theorem GeneratedUnit.proper_source {u : GeneratedUnit} (hu : u.name.Proper) {s : SourceFile}
    (h : u.source = .ok s) : s.Proper :=
  SourceFile.proper_of_parse (readSource_eq_ok h) hu.namespace

/-! ### Runs -/

section

variable {m : Type → Type} [Monad m] {emit emit' : Emitter m}

theorem emitAll_congr {units : List GeneratedUnit}
    (h : ∀ u ∈ units, emit u.name = emit' u.name) : emitAll emit units = emitAll emit' units := by
  induction units with
  | nil => rfl
  | cons u units ih =>
    obtain ⟨hu, hunits⟩ := List.forall_mem_cons.1 h
    simp only [emitAll, hu, ih hunits]

variable [LawfulMonad m]

/-- What follows a round may rely on its units being those that are collected. -/
theorem Generator.runRound_bind_congr {β : Type} {g : Generator} {found : List MarkedDeclaration}
    {k k' : Reported (List GeneratedUnit) → m β}
    (hemit : ∀ c, g.collect found = .ok c → ∀ u ∈ c.units, emit u.name = emit' u.name)
    (hk : ∀ r : Reported (List GeneratedUnit), (∀ units, r.result = .ok units →
      ∃ c, g.collect found = .ok c ∧ c.units = units) → k r = k' r) :
    (g.runRound emit found >>= k) = (g.runRound emit' found >>= k') := by
  unfold runRound
  cases hcollect : g.collect found with
  | error failure => simpa using hk _ fun units h => by cases h
  | ok c =>
    dsimp only
    rw [emitAll_congr (hemit c hcollect), bind_assoc, bind_assoc]
    refine bind_congr fun r => ?_
    cases r with
    | error failure => simpa using hk _ fun units h => by cases h
    | ok _ => simpa using hk _ fun units h => by cases h; exact ⟨c, hcollect, rfl⟩

/-- Emitters that agree on proper names make no difference to a run over proper sources. -/
theorem RunPlan.courseFrom_congr {p : RunPlan} (hp : p.generator.renderer.Worded)
    (h : ∀ q, q.Proper → emit q = emit' q) (left : Nat) (seen : List String)
    {sources : List SourceFile} (hs : ∀ s ∈ sources, s.Proper) :
    p.courseFrom emit left seen sources = p.courseFrom emit' left seen sources := by
  induction left generalizing seen sources with
  | zero => rfl
  | succ left ih =>
    have hfound : ∀ d ∈ unseen seen (p.discover sources), d.namespace.Proper := fun d hd => by
      obtain ⟨s, hsource, hd⟩ := List.mem_flatMap.1 (unseen_sublist.subset hd)
      exact (hs s hsource).of_mem_discover hd
    unfold courseFrom
    dsimp only
    split
    · rfl
    · refine Generator.runRound_bind_congr (fun c hc u hu =>
        h _ (Generator.proper_of_collect hp hfound hc hu)) fun r hr => ?_
      obtain ⟨own, result⟩ := r
      dsimp only
      split
      · rfl
      next next hnext =>
        rw [ih]
        intro s hsource
        obtain ⟨hresult, hsources⟩ := Round.of_next_eq_ok hnext
        obtain ⟨u, hu, hread⟩ := (mem_of_mapM_eq_ok hsources).1 hsource
        obtain ⟨c, hc, hunits⟩ := hr _ hresult
        have hproper := Generator.proper_of_collect hp hfound hc (hunits ▸ hu)
        exact GeneratedUnit.proper_source hproper hread

/-! ### Commands -/

theorem proper_of_sourceOf {root path : PathName} {text : String} {s : SourceFile}
    (h : sourceOf root path text = .ok s) : s.Proper :=
  SourceFile.proper_of_parse (readSource_eq_ok h) (proper_modulePath root path)

theorem during_eq_ok {α : Type} {purpose : Option Purpose} {r : Except Failure α} {a : α} :
    during purpose r = .ok a ↔ r = .ok a := by
  cases r <;> simp [during, Except.mapError]

theorem RunPlan.worded_of_ofConfig {c : Config} {p : RunPlan} (h : RunPlan.ofConfig c = .ok p) :
    p.generator.renderer.Worded := by
  unfold ofConfig at h
  split at h
  · cases h
    exact Renderer.worded_standard _
  · cases h

variable {fs : FileSystem m} {src out : PathName} {o : Options}

/-- What follows the preparation of a run may rely on proper sources and a renderer of words. -/
theorem prepare_bind_congr {β : Type}
    {k k' : CommandResult (RunPlan × List SourceFile) → m β}
    (hk : ∀ r, (∀ plan sources, r = .ok (plan, sources) →
      plan.generator.renderer.Worded ∧ ∀ s ∈ sources, s.Proper) → k r = k' r) :
    (prepare src o >>= k) = (prepare src o >>= k') := by
  unfold prepare
  rw [bind_assoc, bind_assoc]
  refine bind_congr fun r => ?_
  cases r with
  | error e => simpa using hk _ fun _ _ h => by cases h
  | ok c =>
    simp only [scanSources, loadSources, bind_assoc]
    refine bind_congr fun found => ?_
    cases during (some (.scan src)) found with
    | error e => simpa using hk _ fun _ _ h => by cases h
    | ok paths =>
      simp only [bind_assoc, pure_bind]
      refine bind_congr fun texts => hk _ fun plan sources h => ?_
      obtain ⟨found, hfound, hplan⟩ := exists_of_bind_eq_ok h
      obtain ⟨list, -, hlist⟩ := exists_of_bind_eq_ok (during_eq_ok.1 hfound)
      cases hplan' : RunPlan.ofConfig c with
      | error e =>
        rw [hplan'] at hplan
        cases hplan
      | ok p =>
        rw [hplan'] at hplan
        cases hplan
        refine ⟨RunPlan.worded_of_ofConfig hplan', fun s hs => ?_⟩
        obtain ⟨x, -, hx⟩ := (mem_of_mapM_eq_ok hlist).1 hs
        exact proper_of_sourceOf hx

/-- **Generated files stay below their root.**  A file system that does something else whenever a
file is written, moved or removed at any other path than that of a unit's file or its temporary
file, which lead from `out` over one directory for each segment of the unit's namespace, makes no
difference. -/
theorem generate_within [DecidablePred (Confined out)] (refused : m (Except FileError Unit)) :
    @generate m _ (fs.within (Confined out) refused) src out o = @generate m _ fs src out o := by
  unfold generate runOver
  rw [prepare_within]
  refine congrArg (Prod.fst <$> ·) (prepare_bind_congr fun r hr => ?_)
  cases r with
  | error e => rfl
  | ok prepared =>
    obtain ⟨plan, sources⟩ := prepared
    obtain ⟨hplan, hsources⟩ := hr plan sources rfl
    have hcourse : plan.course (@fileEmitter m _ (fs.within (Confined out) refused) out) sources =
        plan.course (@fileEmitter m _ fs out) sources :=
      RunPlan.courseFrom_congr hplan (fun q hq => fileEmitter_within fs refused hq) _ _ hsources
    simp only [RunPlan.run, hcourse]

end

/-- A source tree in which a directory and a file have odd names. -/
def oddTree (text : String) : FileTree :=
  ⟨[(["src"], .directory), (["src", "a.b"], .directory),
    (["src", "a.b", "..c:.rs"], .file (.text text))]⟩

/-- With a file system that wipes the disk for any other path, the unit of a source with an odd name
is written below `out`, and removed when it cannot be moved to its place.  Nothing is made for a
name with a comment that holds slashes. -/
theorem generate_within_odd_names :
    let method := "impl A{#[unapply]pub fn f(v:u8)->Option<()>{None}}"
    let wipe : StateM Disk (Except FileError Unit) := fun _ => (.ok (), .ofTree .empty)
    let files : FileSystem (StateM Disk) := inferInstance
    let fs := @FileSystem.within _ files (Confined ⟨"out"⟩) (Classical.decPred _) wipe
    let disk (text : String) : Disk :=
      ⟨oddTree text, List.replicate 8 none ++ [some ⟨.notFound, none⟩]⟩
    let after (text : String) :=
      ((@generate _ _ fs ⟨"src"⟩ ⟨"out"⟩ .none).run (disk text)).2.tree.leaves.map Prod.fst
    after ("#[patterns]" ++ method) = [["src", "a.b", "..c:.rs"], ["out", "a", "b", "c"]] ∧
      after ("#[patterns(name=\"A/*/../../x*/\")]" ++ method) = [["src", "a.b", "..c:.rs"]] := by
  intro method wipe files fs disk after
  have hafter (text : String) : after text =
      ((@generate _ _ files ⟨"src"⟩ ⟨"out"⟩ .none).run (disk text)).2.tree.leaves.map Prod.fst := by
    simp only [after]
    rw [@generate_within _ _ _ _ _ _ _ (Classical.decPred _) wipe]
  rw [hafter, hafter]
  decide +kernel

end PatternFactory
