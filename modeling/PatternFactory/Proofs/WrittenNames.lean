import PatternFactory.Proofs.Fixpoint
import PatternFactory.Proofs.Preview

/-!
# Names as they are written

However a namespace is made, it can be read back from what is written, with `::` or with dots
(`Namespace.Reachable.canonical`).  A qualified name is read back as a namespace, the last segment
of which is the name (`QualifiedName.parse_joined`).

Names that derive from declarations have one ending in common, the suffix, and separators stand in
it only or in the namespace.  Such names are written alike only if they are equal
(`QualifiedName.Derived.eq_of_joined`), since what stands between the last separator before the
suffix and the suffix belongs to the name.  All names of a run are of this kind, whatever sources it
starts from (`RunPlan.Runs.derived`).
-/

namespace PatternFactory

/-! ### Namespaces -/

namespace Namespace

variable {ns : Namespace} {sep : String}

/-- The namespace is made from texts. -/
inductive Reachable : Namespace → Prop
  | root : Reachable .root
  | ofSegments (names : List String) : Reachable (.ofSegments names)
  | parse (path : String) : Reachable (.parse path)
  | child {ns : Namespace} (h : Reachable ns) (name : String) : Reachable (ns.child name)

theorem reachable_iff : ns.Reachable ↔ ∃ names, ns = .ofSegments names := by
  constructor
  · intro h
    cases h with
    | root => exact ⟨[], rfl⟩
    | ofSegments names => exact ⟨names, rfl⟩
    | parse path => exact ⟨[path], rfl⟩
    | @child ns _ name => exact ⟨ns.segments ++ [name], rfl⟩
  · rintro ⟨names, rfl⟩
    exact .ofSegments names

theorem Reachable.splitName_eq (h : ns.Reachable) : ∀ s ∈ ns.segments, splitName s = [s] := by
  obtain ⟨names, rfl⟩ := reachable_iff.1 h
  exact fun s => splitName_of_mem_segments

theorem parse_eq (path : String) : parse path = ⟨splitName path⟩ := by
  rw [parse, ofSegments, List.flatMap_singleton]

theorem parse_join (h : ns.Reachable) (hsep : Separates sep) : parse (ns.join sep) = ns := by
  rw [parse_eq, join, splitName_intercalate hsep, flatMap_splitName_of_parts h.splitName_eq]

/-- The segments cannot be split, the namespace is what its written forms are read as, and a name
adds to the segments what it would be read as. -/
structure Canonical (ns : Namespace) : Prop where
  segments : ∀ s ∈ ns.segments, s ≠ "" ∧ ∀ c ∈ s.toList, c ≠ ':' ∧ c ≠ '.'
  parse_text : parse ns.text = ns
  parse_dotted : parse (ns.join ".") = ns
  child : ∀ name, (ns.child name).segments = ns.segments ++ (parse name).segments

/-- **A namespace that is made from texts is canonical.** -/
theorem Reachable.canonical (h : ns.Reachable) : ns.Canonical where
  segments s hs := by
    obtain ⟨names, rfl⟩ := reachable_iff.1 h
    obtain ⟨hne, hplain⟩ := of_mem_segments hs
    exact ⟨hne, fun c hc => isSeparator_eq_false.1 (hplain c hc)⟩
  parse_text := parse_join h separates_colons
  parse_dotted := parse_join h separates_dot
  child name := by rw [segments_child h.splitName_eq, parse_eq]

/-- What is written before a name in the namespace. -/
def front (ns : Namespace) (sep : String) : String := if ns.isRoot then "" else ns.join sep ++ sep

theorem splitName_front (hsep : Separates sep) (ns : Namespace) (name : String) :
    splitName (ns.front sep ++ name) = ns.segments.flatMap splitName ++ splitName name := by
  unfold front
  split_ifs with hroot
  · rw [List.isEmpty_iff.1 hroot, String.empty_append]
    rfl
  · rw [splitName_append hsep, join, splitName_intercalate hsep]

/-- Behind the last separator stands what was added behind the front. -/
theorem takeWhile_front (hsep : Separates sep) (ns : Namespace) {stem : String}
    (hstem : ∀ c ∈ stem.toList, isSeparator c = false) :
    ((ns.front sep ++ stem).toList.reverse.takeWhile fun c => !isSeparator c) =
      stem.toList.reverse := by
  -- the front is empty or ends with a separator
  have hfront : ((ns.front sep).toList.reverse.takeWhile fun c => !isSeparator c) = [] := by
    unfold front
    split_ifs
    · rfl
    · obtain ⟨c, cs, hcs⟩ := List.exists_cons_of_ne_nil (l := sep.toList.reverse)
        (by simpa using hsep.nonempty)
      have hc : isSeparator c = true := hsep.all c (List.mem_reverse.1 (by simp [hcs]))
      rw [String.toList_append, List.reverse_append, hcs, List.cons_append,
        List.takeWhile_cons_of_neg (by simp [hc])]
  rw [String.toList_append, List.reverse_append,
    List.takeWhile_append_of_pos (by simpa using hstem), hfront, List.append_nil]

end Namespace

/-! ### Qualified names -/

namespace QualifiedName

variable {q q' : QualifiedName} {sep suffix : String}

theorem joined_eq (q : QualifiedName) (sep : String) :
    q.joined sep = q.namespace.front sep ++ q.name := by
  unfold joined Namespace.front
  split_ifs
  · rw [String.empty_append]
  · rfl

/-- **What is written for a name is read as the namespace with the name in it.** -/
theorem parse_joined (hsep : Separates sep) (q : QualifiedName) :
    Namespace.parse (q.joined sep) = q.namespace.child q.name := by
  rw [Namespace.parse_eq, joined_eq, Namespace.splitName_front hsep, Namespace.child,
    Namespace.ofSegments, List.flatMap_append, List.flatMap_singleton]

/-- A name as it derives with a suffix.  The suffix may hold separators, but what stands before it
in the name does not. -/
structure Derived (suffix : String) (q : QualifiedName) : Prop where
  reachable : q.namespace.Reachable
  stem : ∃ stem, (∀ c ∈ stem.toList, isSeparator c = false) ∧ q.name = stem ++ suffix

/-- **Derived names that are written alike are equal.** -/
theorem Derived.eq_of_joined (hsep : Separates sep) (h : q.Derived suffix)
    (h' : q'.Derived suffix) (heq : q.joined sep = q'.joined sep) : q = q' := by
  obtain ⟨stem, hstem, hname⟩ := h.stem
  obtain ⟨stem', hstem', hname'⟩ := h'.stem
  have hwritten : q.namespace.front sep ++ stem = q'.namespace.front sep ++ stem' := by
    rw [joined_eq, joined_eq, hname, hname', ← String.append_assoc, ← String.append_assoc] at heq
    exact (String.append_left_inj suffix).1 heq
  -- the stem stands behind the last separator, and the segments stand before the stem
  have hstems : stem = stem' := by
    have hlast := Namespace.takeWhile_front hsep q.namespace hstem
    rw [hwritten, Namespace.takeWhile_front hsep q'.namespace hstem'] at hlast
    exact String.toList_inj.1 (List.reverse_injective hlast.symm)
  have hsegments : q.namespace.segments = q'.namespace.segments := by
    have hsplit := congrArg splitName hwritten
    rw [Namespace.splitName_front hsep, Namespace.splitName_front hsep, hstems,
      flatMap_splitName_of_parts h.reachable.splitName_eq,
      flatMap_splitName_of_parts h'.reachable.splitName_eq] at hsplit
    exact List.append_cancel_right hsplit
  obtain ⟨⟨segments⟩, name⟩ := q
  obtain ⟨⟨segments'⟩, name'⟩ := q'
  obtain rfl : segments = segments' := hsegments
  obtain rfl : name = name' := hname.trans (hstems ▸ hname'.symm)
  rfl

/-- Each of the names is written unlike the others, both as source text refers to it and as it is
listed. -/
def WrittenApart (names : List QualifiedName) : Prop :=
  ∀ q ∈ names, ∀ q' ∈ names, q.text = q'.text ∨ q.dotted = q'.dotted → q = q'

theorem writtenApart_of_derived {names : List QualifiedName} (h : ∀ q ∈ names, q.Derived suffix) :
    WrittenApart names := by
  rintro q hq q' hq' (heq | heq)
  · exact (h q hq).eq_of_joined separates_colons (h q' hq') heq
  · exact (h q hq).eq_of_joined separates_dot (h q' hq') heq

theorem WrittenApart.nodup {names some : List QualifiedName} (h : WrittenApart names)
    (hsome : some ⊆ names) (hnodup : some.Nodup) :
    (some.map text).Nodup ∧ (some.map dotted).Nodup :=
  ⟨hnodup.map_on fun q hq q' hq' heq => h q (hsome hq) q' (hsome hq') (.inl heq),
    hnodup.map_on fun q hq q' hq' heq => h q (hsome hq) q' (hsome hq') (.inr heq)⟩

/-- A name that is one segment, in a namespace that is made from texts. -/
structure IsSimple (q : QualifiedName) : Prop where
  reachable : q.namespace.Reachable
  nonempty : q.name ≠ ""
  plain : ∀ c ∈ q.name.toList, c ≠ ':' ∧ c ≠ '.'

theorem IsSimple.part (h : q.IsSimple) :
    q.name ≠ "" ∧ ∀ c ∈ q.name.toList, isSeparator c = false :=
  ⟨h.nonempty, fun c hc => isSeparator_eq_false.2 (h.plain c hc)⟩

theorem IsSimple.derived (h : q.IsSimple) : q.Derived "" :=
  ⟨h.reachable, q.name, h.part.2, String.append_empty.symm⟩

end QualifiedName

/-- Nothing that holds separators stands before the suffix. -/
theorem exists_stem_deriveName (declared suffix : String) :
    ∃ stem, (∀ c ∈ stem.toList, isSeparator c = false) ∧
      deriveName declared suffix = stem ++ suffix := by
  unfold deriveName
  dsimp only
  split_ifs
  · exact ⟨"", nofun, String.empty_append.symm⟩
  · exact ⟨_, by simp, rfl⟩

/-! ### The names of a run -/

section

variable {σ : Type} {emit : Emitter (StateM σ)} {s s' : σ}

/-- The names that the declarations of some rounds derive. -/
def Generator.namesIn (g : Generator) (rounds : List Round) : List QualifiedName :=
  rounds.flatMap fun r => (g.declarations r.found).map g.unitName

theorem Generator.mem_namesIn {g : Generator} {rounds : List Round} {q : QualifiedName} :
    q ∈ g.namesIn rounds ↔
      ∃ r ∈ rounds, ∃ d ∈ r.found, (d.declaration g.markers).unitName g.suffix = q := by
  simp [namesIn, declarations, unitName]

/-- The units of a round have names that its declarations derive. -/
theorem Generator.name_mem_namesIn {g : Generator} {rounds : List Round} {r : Round}
    (hr : r ∈ rounds) {u : GeneratedUnit} (hu : u ∈ g.collected r.found) :
    u.name ∈ g.namesIn rounds := by
  cases hcollect : g.collect r.found with
  | error failure => simp [collected, hcollect] at hu
  | ok c =>
    rw [collected_of_ok hcollect] at hu
    obtain ⟨d, hd, hname, -⟩ := exists_of_mem_units hcollect hu
    exact mem_namesIn.2 ⟨r, hr, d, hd, hname⟩

theorem SourceFile.reachable_of_mem_discover {f : SourceFile} (hf : f.namespace.Reachable)
    {m : Markers} {d : MarkedDeclaration} (h : d ∈ f.discover m) : d.namespace.Reachable := by
  obtain ⟨item, -, hbelow⟩ := exists_item_of_mem_discover h
  exact Namespace.reachable_iff.2 (hbelow.built (Namespace.reachable_iff.1 hf))

/-- A unit is read in the namespace of its name. -/
theorem GeneratedUnit.namespace_of_source {u : GeneratedUnit} {f : SourceFile}
    (h : u.source = .ok f) : f.namespace = u.name.namespace :=
  (SourceFile.of_parse_eq_ok (readSource_eq_ok h)).2.2

/-- The sources of the next round stand in namespaces of the declarations of this one. -/
theorem Round.exists_namespace_of_next {g : Generator} {r : Round} {own : List Diagnostic}
    {next : List SourceFile} (hround : (g.runRound emit r.found).run s = (⟨own, r.result⟩, s'))
    (hnext : r.next = .ok next) {f : SourceFile} (hf : f ∈ next) :
    ∃ d ∈ r.found, d.namespace = f.namespace := by
  obtain ⟨hresult, hsources⟩ := of_next_eq_ok hnext
  obtain ⟨c, hcollect, hunits⟩ := Generator.collect_of_runRound (by rw [hround, hresult])
  obtain ⟨u, hu, hread⟩ := (mem_of_mapM_eq_ok hsources).1 hf
  obtain ⟨d, hd, hname, -⟩ := Generator.exists_of_mem_units hcollect (hunits ▸ hu)
  rw [GeneratedUnit.namespace_of_source hread, ← hname]
  exact ⟨d, hd, rfl⟩

namespace RunPlan

variable {p : RunPlan} {left : Nat} {seen : List String} {sources : List SourceFile} {c : Course}

/-- **Rounds deal with declarations in reachable namespaces only.** -/
theorem Runs.reachable (h : p.Runs emit left seen sources s c s')
    (hs : ∀ f ∈ sources, f.namespace.Reachable) :
    ∀ r ∈ c.rounds, ∀ d ∈ r.found, d.namespace.Reachable := by
  have hfresh : ∀ {seen : List String} {sources : List SourceFile} {found : List MarkedDeclaration},
      (∀ f ∈ sources, f.namespace.Reachable) → found = p.fresh seen sources →
        ∀ d ∈ found, d.namespace.Reachable := by
    rintro seen sources _ hs rfl d hd
    obtain ⟨f, hf, hd⟩ := List.mem_flatMap.1 (unseen_sublist.subset hd)
    exact SourceFile.reachable_of_mem_discover (hs f hf) hd
  induction h with
  | settled => exact nofun
  | exhausted => exact nofun
  | failed hfound => simpa using hfresh hs hfound
  | round hfound _ hround hnext _ ih =>
    have hown := hfresh hs hfound
    refine List.forall_mem_cons.2 ⟨hown, ih fun f hf => ?_⟩
    obtain ⟨d, hd, hns⟩ := Round.exists_namespace_of_next hround hnext hf
    exact hns ▸ hown d hd

/-- The units of a run have names that its declarations derive. -/
theorem Runs.units_subset (h : p.Runs emit left seen sources s c s') :
    c.units.map GeneratedUnit.name ⊆ p.generator.namesIn c.rounds := by
  obtain ⟨parts, hparts, -⟩ := h.exists_calls
  have hunits : ∀ r ∈ c.rounds, r.units ⊆ p.generator.collected r.found :=
    ((List.forall₂_and_left _ _).1
      (hparts.imp fun r calls hcalls => ⟨hcalls.units_subset, hcalls⟩)).1
  intro q hq
  obtain ⟨u, hu, rfl⟩ := List.mem_map.1 hq
  obtain ⟨r, hr, hu⟩ := List.mem_flatMap.1 hu
  exact Generator.name_mem_namesIn hr (hunits r hr hu)

/-- **The names of a run derive with its suffix.** -/
theorem Runs.derived (h : p.Runs emit left seen sources s c s')
    (hs : ∀ f ∈ sources, f.namespace.Reachable) :
    ∀ q ∈ p.generator.namesIn c.rounds, q.Derived p.generator.suffix := by
  intro q hq
  obtain ⟨r, hr, d, hd, rfl⟩ := Generator.mem_namesIn.1 hq
  exact ⟨h.reachable hs r hr d hd, exists_stem_deriveName ..⟩

end RunPlan

/-! ### Names that are taken -/

/-- The emitter refuses a name that it has taken; `done` gives the names that were taken. -/
structure Emitter.Remembers (emit : Emitter (StateM σ)) (done : σ → List QualifiedName) : Prop where
  new : ∀ {u : GeneratedUnit} {s s' : σ},
    (emit u.name u.text).run s = (.ok (), s') → u.name ∉ done s
  kept : ∀ {u : GeneratedUnit} {s s' : σ},
    (emit u.name u.text).run s = (.ok (), s') → u.name :: done s ⊆ done s'

theorem Emitter.Remembers.nodup {done : σ → List QualifiedName} (h : emit.Remembers done)
    {units : List GeneratedUnit} (hemits : Emits emit units s units (.ok ()) s') :
    (units.map GeneratedUnit.name).Nodup ∧ ∀ u ∈ units, u.name ∉ done s := by
  induction units generalizing s with
  | nil => exact ⟨.nil, nofun⟩
  | cons u rest ih =>
    cases hemits with
    | taken hu hrest =>
      obtain ⟨hnodup, hothers⟩ := ih hrest
      -- what is taken first is remembered while the others are taken
      have hkept := h.kept hu
      have hne : u.name ∉ rest.map GeneratedUnit.name := fun hmem => by
        obtain ⟨v, hv, hname⟩ := List.mem_map.1 hmem
        exact hothers v hv (hname ▸ hkept List.mem_cons_self)
      exact ⟨List.nodup_cons.2 ⟨hne, hnodup⟩, List.forall_mem_cons.2
        ⟨h.new hu, fun v hv hmem => hothers v hv (hkept (List.mem_cons_of_mem _ hmem))⟩⟩

theorem UnitStore.remembers : (UnitStore.emitter : Emitter (StateM UnitStore)).Remembers
    fun st => st.arrived.map GeneratedUnit.name where
  new h := (of_run_emitter h).1
  kept h := by
    obtain ⟨-, rfl⟩ := of_run_emitter h
    simp

theorem Disk.remembers (root : PathName) : (Disk.emitter root).packed.Remembers Prod.fst where
  new h := (of_run_fileEmitter h).1
  kept h := by
    rw [(of_run_fileEmitter h).2.1]
    simp

/-- A run that ends well reports the names of its units. -/
theorem RunPlan.Runs.emittedNames_eq {p : RunPlan} {sources : List SourceFile} {c : Course}
    (h : p.Runs emit p.rounds [] sources s c s') {reports : List RoundReport}
    (hreports : ((p.run emit sources).run s).1.result = .ok reports) :
    c.result = .ok () ∧ emittedNames reports = c.units.map GeneratedUnit.name := by
  rw [h.run_eq] at hreports
  obtain ⟨u, hresult, rfl⟩ := map_eq_ok_iff.1 hreports
  exact ⟨hresult, Course.emittedNames_mapIdx c.rounds 1⟩

/-- **What is written tells names apart.**  Namespaces that are made from texts are canonical.  What
is written for a qualified name is read as the namespace with the name in it, and if the name is one
segment, then no other such name is written in this way.

In a run over any sources, no two of the names that declarations derive are written alike, and units
have no other names.  So if the emitter refuses a name that it has taken, then a run that ends well
reports no two units under one written name.  A store and the emitter that fills files refuse
such names. -/
theorem written_names_faithful :
    (∀ ns : Namespace, ns.Reachable → ns.Canonical) ∧
    (∀ q : QualifiedName, Namespace.parse q.text = q.namespace.child q.name ∧
      Namespace.parse q.dotted = q.namespace.child q.name) ∧
    (∀ q q' : QualifiedName, q.IsSimple → q'.IsSimple →
      (q.namespace.child q.name).segments = q.namespace.segments ++ [q.name] ∧
      (q.text = q'.text ∨ q.dotted = q'.dotted → q = q')) ∧
    (∀ {σ : Type} (p : RunPlan) (emit : Emitter (StateM σ)) (sources : List SourceFile) (s : σ),
      (∀ f ∈ sources, f.namespace.Reachable) →
      let rounds := ((p.course emit sources).run s).1.rounds
      let names := p.generator.namesIn rounds
      QualifiedName.WrittenApart names ∧
      (∀ r ∈ rounds, ∀ u ∈ p.generator.collected r.found, u.name ∈ names) ∧
      ∀ done, emit.Remembers done → ∀ reports, ((p.run emit sources).run s).1.result = .ok reports →
        ((emittedNames reports).map QualifiedName.text).Nodup ∧
        ((emittedNames reports).map QualifiedName.dotted).Nodup) ∧
    (UnitStore.emitter : Emitter (StateM UnitStore)).Remembers
      (fun st => st.arrived.map GeneratedUnit.name) ∧
    ∀ root, (Disk.emitter root).packed.Remembers Prod.fst := by
  refine ⟨fun ns hns => hns.canonical, fun q => ⟨q.parse_joined separates_colons,
    q.parse_joined separates_dot⟩, fun q q' hq hq' => ⟨?_, ?_⟩, ?_, UnitStore.remembers,
    Disk.remembers⟩
  · exact Namespace.segments_child_of_part hq.reachable.splitName_eq hq.part
  · have hapart : QualifiedName.WrittenApart [q, q'] :=
      QualifiedName.writtenApart_of_derived (by simpa using ⟨hq.derived, hq'.derived⟩)
    exact hapart q (by simp) q' (by simp)
  · intro σ p emit sources s hsources
    obtain ⟨⟨c, s'⟩, hc⟩ : ∃ x, (p.course emit sources).run s = x := ⟨_, rfl⟩
    have hruns : p.Runs emit p.rounds [] sources s c s' := RunPlan.runs_iff.2 hc
    simp only [hc]
    have hapart := QualifiedName.writtenApart_of_derived (hruns.derived hsources)
    refine ⟨hapart, fun r hr u hu => Generator.name_mem_namesIn hr hu,
      fun done hdone reports hreports => ?_⟩
    obtain ⟨hresult, hemitted⟩ := hruns.emittedNames_eq hreports
    rw [hemitted]
    exact hapart.nodup hruns.units_subset (hdone.nodup (hruns.rounds_done (.inl hresult)).2).1

end

namespace RunPlan

/-- A plan under which a unit at the outermost level declares a module in another one. -/
def nestingPlan : RunPlan where
  generator := ⟨⟨"p", "u"⟩, "S", 8, fun _ d => some <|
    if d.namespace.isRoot then "mod x{#[p]mod A{#[u]pub fn f(v:u8)->Option<()>{}}}" else ""⟩
  roundLimit := 2
  marker := "p"

theorem written_names_faithful_nested :
    let ns := (Namespace.root.child "::a..b").child ":c."
    let q : QualifiedName := ⟨ns, "D"⟩
    let emit : Emitter (StateM UnitStore) := UnitStore.emitter
    let names := nestingPlan.generator.namesIn
      ((nestingPlan.course emit [chainSource]).run .empty).1.rounds
    let reports : List RoundReport :=
      [⟨1, 1, [⟨.root, "AS"⟩]⟩, ⟨2, 1, [⟨⟨["x"]⟩, "AS"⟩]⟩]
    ns.Canonical ∧ ns.segments = ["a", "b", "c"] ∧
      Namespace.parse q.dotted = ⟨["a", "b", "c", "D"]⟩ ∧
      ((nestingPlan.run emit [chainSource]).run .empty).1.result = .ok reports ∧
      QualifiedName.WrittenApart names ∧
      ((emittedNames reports).map QualifiedName.text).Nodup := by
  intro ns q emit names reports
  obtain ⟨hcanonical, hread, -, hrun, hstore, -⟩ := written_names_faithful
  have hns : ns.Reachable := (Namespace.Reachable.root.child "::a..b").child ":c."
  have hsources : ∀ f ∈ [chainSource], f.namespace.Reachable :=
    List.forall_mem_singleton.2 .root
  have hreports : ((nestingPlan.run emit [chainSource]).run .empty).1.result = .ok reports := by
    decide +kernel
  obtain ⟨hapart, -, hnodup⟩ := hrun nestingPlan emit [chainSource] .empty hsources
  exact ⟨hcanonical ns hns, by decide +kernel, (hread q).2.trans (by decide +kernel), hreports,
    hapart, (hnodup _ hstore reports hreports).1⟩

end RunPlan

end PatternFactory
