import PatternFactory.Proofs.DerivedNames
import PatternFactory.Proofs.List

/-!
# Discovery accounts for every marked item

`Item.visits` lists the items of a source in the order in which they stand, the content of an inline
module behind the module itself, each with the names of the modules around it.  A visited item that
carries the marker of declarations is accounted for by exactly one finding, and no other item has
one (`SourceFile.discover_accounts`).

* What has to come of a marked item is said by `Finding.Accounts`, one rule for each way.
* Looking through the items hands down the namespace, which is the one that is built from the names
  of the modules around (`Item.listFindings_eq`).
* These names are words, so that each of them is one segment (`Namespace.segments_within`).
-/

namespace PatternFactory

/-! ### Visiting -/

/-- An item, and the names of the inline modules around it, the outermost first. -/
structure Visit where
  outer : List String
  item : Item

mutual

/-- The item, and behind it what is inside of it if it is an inline module. -/
def Item.visits (outer : List String) : Item → List Visit
  | .module head content =>
    ⟨outer, .module head content⟩ :: Item.listVisits (outer ++ [head.name]) content
  | item => [⟨outer, item⟩]

/-- The items in their order, each with what is inside of it. -/
def Item.listVisits (outer : List String) : List Item → List Visit
  | [] => []
  | item :: rest => item.visits outer ++ Item.listVisits outer rest

end

namespace Item

/-- The attributes of an item among which the marker of declarations is looked for. -/
def markable? : Item → Option (List Attr)
  | .impl i => some i.attrs
  | .module head _ => some head.attrs
  | .moduleFile head => some head.attrs
  | .fn f => some f.attrs
  | .data _ attrs _ => some attrs
  | .other _ => none

/-- The marker of declarations on an item. -/
def marker? (m : Markers) (item : Item) : Option Attr := item.markable?.bind m.onDeclaration?

/-- What an item can declare: an inherent impl block, or an inline module. -/
def declares? : Item → Option DeclarationItem
  | .impl i => if i.ofTrait.isSome then none else some (.impl i)
  | .module head content => some (.module head.name content)
  | _ => none

end Item

/-- The visited items that carry the marker, with the marker. -/
def markedVisits (m : Markers) (items : List Item) : List (Visit × Attr) :=
  (Item.listVisits [] items).filterMap fun v => (v.item.marker? m).map fun attr => (v, attr)

/-! ### What comes of a marked item -/

/-- The item has a name of its own: it is a module, or a block for a path. -/
def DeclarationItem.IsNamed : DeclarationItem → Prop
  | .impl i => i.selfTy.isPath = true
  | .module .. => True

/-- The diagnostic is about an item of a file in a namespace. -/
structure Diagnostic.IsAbout (d : Diagnostic) (file : PathName) (ns : Namespace) : Prop where
  declaration : d.attribution.declaration = ns.text
  function : d.attribution.function = none
  file : d.attribution.origin.file = file

/-- What comes of an item of a file in a namespace that carries the marker `attr`. -/
inductive Finding.Accounts (file : PathName) (ns : Namespace) (item : Item) (attr : Attr) :
    Finding → Prop
  /-- The arguments of the marker are accepted, and the item has a name or is given one. -/
  | declared {what given line} (hitem : item.declares? = some what)
      (harguments : nameOverride attr = .ok given) (hnamed : given = none → what.IsNamed) :
      Accounts file ns item attr (.declared ⟨ns, what, ⟨file, line⟩, given⟩)
  /-- The item cannot be declared. -/
  | misplaced {d} (hitem : item.declares? = none) (habout : d.IsAbout file ns)
      (hseverity : d.severity = .warning) : Accounts file ns item attr (.reported d)
  /-- The arguments of the marker are at fault. -/
  | badArguments {what fault d} (hitem : item.declares? = some what)
      (harguments : nameOverride attr = .error fault) (habout : d.IsAbout file ns)
      (hseverity : d.severity = .error) (hrule : d.rule = some "marker arguments") :
      Accounts file ns item attr (.reported d)
  /-- The item has no name and is given none. -/
  | unnamed {what d} (hitem : item.declares? = some what)
      (harguments : nameOverride attr = .ok none) (hnamed : ¬ what.IsNamed)
      (habout : d.IsAbout file ns) (hseverity : d.severity = .error)
      (hrule : d.rule = some "unnamed self type") : Accounts file ns item attr (.reported d)

section

variable {m : Markers} {file : PathName} {ns : Namespace} {item : Item} {attr : Attr}

theorem Discovery.accounts_misplaced (marker what : String) (line : Nat)
    (h : item.declares? = none) :
    Finding.Accounts file ns item attr (misplaced marker what ns ⟨file, line⟩) :=
  .misplaced h ⟨rfl, rfl, rfl⟩ rfl

theorem Discovery.accounts_declare (marker : String) (line : Nat) {what : DeclarationItem}
    (h : item.declares? = some what) :
    Finding.Accounts file ns item attr (declare marker attr ns what ⟨file, line⟩) := by
  unfold declare
  split
  next fault hfault => exact .badArguments h hfault ⟨rfl, rfl, rfl⟩ rfl rfl
  next given hgiven =>
    split
    next i =>
      split
      next hpath => exact .declared h hgiven fun _ => hpath
      next hpath => exact .unnamed h hgiven hpath ⟨rfl, rfl, rfl⟩ rfl rfl
    next hnot =>
      refine .declared h hgiven fun hnone => ?_
      cases what with
      | impl i => exact absurd hnone (hnot i rfl)
      | module => exact trivial

/-- An item by itself has a finding if it carries the marker, and that accounts for it. -/
theorem Item.finding?_accounts (m : Markers) (file : PathName) (ns : Namespace) (item : Item) :
    match item.marker? m with
    | none => item.finding? m file ns = none
    | some attr =>
      ∃ f, item.finding? m file ns = some f ∧ Finding.Accounts file ns item attr f := by
  cases item with
  | impl i =>
    simp only [marker?, markable?, Option.bind_some, finding?]
    cases m.onDeclaration? i.attrs with
    | none => rfl
    | some attr =>
      refine ⟨_, rfl, ?_⟩
      split_ifs with htrait
      · exact Discovery.accounts_misplaced _ _ _ (if_pos htrait)
      · exact Discovery.accounts_declare _ _ (if_neg htrait)
  | module head content =>
    simp only [marker?, markable?, Option.bind_some, finding?]
    cases m.onDeclaration? head.attrs with
    | none => rfl
    | some attr => exact ⟨_, rfl, Discovery.accounts_declare _ _ rfl⟩
  | other code => rfl
  | moduleFile head =>
    simp only [marker?, markable?, Option.bind_some, finding?]
    cases m.onDeclaration? head.attrs with
    | none => rfl
    | some attr => exact ⟨_, rfl, Discovery.accounts_misplaced _ _ _ rfl⟩
  | fn f =>
    simp only [marker?, markable?, Option.bind_some, finding?]
    cases m.onDeclaration? f.attrs with
    | none => rfl
    | some attr => exact ⟨_, rfl, Discovery.accounts_misplaced _ _ _ rfl⟩
  | data kind attrs code =>
    simp only [marker?, markable?, Option.bind_some, finding?]
    cases m.onDeclaration? attrs with
    | none => rfl
    | some attr => exact ⟨_, rfl, Discovery.accounts_misplaced _ _ _ rfl⟩

end

/-! ### Namespaces of visited items -/

namespace Namespace

/-- The namespace inside of modules with the given names. -/
def within (ns : Namespace) (names : List String) : Namespace := names.foldl child ns

theorem within_append (ns : Namespace) (names : List String) (name : String) :
    ns.within (names ++ [name]) = (ns.within names).child name := by
  simp only [within, List.foldl_append, List.foldl_cons, List.foldl_nil]

/-- Modules whose names are words add a segment each. -/
theorem segments_within {names : List String} (hnames : ∀ n ∈ names, IsWord n) {ns : Namespace}
    (hns : ∀ s ∈ ns.segments, splitName s = [s]) :
    (ns.within names).segments = ns.segments ++ names := by
  induction names generalizing ns with
  | nil => simp [within]
  | cons name names ih =>
    obtain ⟨hname, hnames⟩ := List.forall_mem_cons.1 hnames
    have hsplit : ∀ s ∈ ns.segments ++ [name], splitName s = [s] :=
      List.forall_mem_append.2 ⟨hns, by simpa using hname.splitName_eq⟩
    have hchild : (ns.child name).segments = ns.segments ++ [name] := by
      rw [segments_child_of_part hns hname.isPart]
    have hwithin : ((ns.child name).within names).segments =
        (ns.child name).segments ++ names := ih hnames (hchild ▸ hsplit)
    rw [hchild, List.append_assoc] at hwithin
    exact hwithin

end Namespace

namespace Item

/-! ### Findings of visited items -/

mutual

theorem findings_eq (m : Markers) (file : PathName) (base : Namespace) (outer : List String)
    (item : Item) : item.findings m file (base.within outer) =
      (item.visits outer).filterMap fun v => v.item.finding? m file (base.within v.outer) := by
  cases item with
  | module head content =>
    rw [findings, visits, List.filterMap_cons, ← Namespace.within_append,
      listFindings_eq m file base _ content]
    -- what is inside is looked through whatever comes of the module itself
    cases (Item.module head content).finding? m file (base.within outer) <;> rfl
  | _ =>
    rw [findings, visits, List.filterMap_cons, List.filterMap_nil]
    · split <;> simp [*]
    all_goals nofun

/-- The findings are those of the visited items, each in its namespace. -/
theorem listFindings_eq (m : Markers) (file : PathName) (base : Namespace) (outer : List String)
    (items : List Item) : Item.listFindings m file (base.within outer) items =
      (Item.listVisits outer items).filterMap fun v =>
        v.item.finding? m file (base.within v.outer) := by
  cases items with
  | nil => rfl
  | cons item rest =>
    rw [listFindings, listVisits, List.filterMap_append, findings_eq m file base outer item,
      listFindings_eq m file base outer rest]

end

mutual

theorem isWord_of_mem_visits {outer : List String} (houter : ∀ n ∈ outer, IsWord n) (item : Item)
    (hitem : item.Named) : ∀ v ∈ item.visits outer, ∀ n ∈ v.outer, IsWord n := by
  intro v hv
  cases item with
  | module head content =>
    obtain ⟨hname, hcontent⟩ := hitem
    rw [visits] at hv
    rcases List.mem_cons.1 hv with rfl | hv
    · exact houter
    · exact isWord_of_mem_listVisits
        (List.forall_mem_append.2 ⟨houter, by simpa using hname⟩) content hcontent v hv
  | _ =>
    rw [visits] at hv
    · obtain rfl := List.mem_singleton.1 hv
      exact houter
    all_goals nofun

/-- The names of the modules around a visited item are words. -/
theorem isWord_of_mem_listVisits {outer : List String} (houter : ∀ n ∈ outer, IsWord n)
    (items : List Item) (hitems : ListNamed items) :
    ∀ v ∈ Item.listVisits outer items, ∀ n ∈ v.outer, IsWord n := by
  intro v hv
  cases items with
  | nil =>
    rw [listVisits] at hv
    cases hv
  | cons item rest =>
    rw [listVisits] at hv
    rcases List.mem_append.1 hv with hv | hv
    · exact isWord_of_mem_visits houter item hitems.1 v hv
    · exact isWord_of_mem_listVisits houter rest hitems.2 v hv

end

end Item

/-! ### The account -/

/-- **Discovery accounts for every marked item**, and for nothing else.  The items of a source are
visited in the order in which they stand, the content of a module behind the module, whatever comes
of the module itself.  Each visited item that carries the marker has exactly one finding: it is a
declaration, or a diagnostic says why not.  Declarations and diagnostics come in this order, in the
namespace of the file extended by the names of the modules around the item. -/
theorem SourceFile.discover_accounts (m : Markers) {path : PathName} {names : List String}
    {text : String} {s : SourceFile}
    (hs : SourceFile.parse path (.ofSegments names) text = .ok s) :
    ∃ findings : List Finding,
      List.Forall₂ (fun v f => Finding.Accounts path
        ⟨(Namespace.ofSegments names).segments ++ v.1.outer⟩ v.1.item v.2 f)
        (markedVisits m s.items) findings ∧
      s.discover m = findings.filterMap Finding.declaration? ∧
      s.markerDiagnostics m = findings.filterMap Finding.diagnostic? := by
  obtain ⟨hpath, hns, hitems⟩ := named_of_parse hs
  refine ⟨s.findings m, ?_, rfl, rfl⟩
  have hfindings := Item.listFindings_eq m s.path s.namespace [] s.items
  change s.findings m = _ at hfindings
  rw [hfindings, markedVisits]
  refine forall₂_filterMap_filterMap fun v hv => ?_
  -- modules are named by words, so the namespace has the names around the item as segments
  have hwords := Item.isWord_of_mem_listVisits (by simp) s.items hitems v hv
  have hwithin : s.namespace.within v.outer =
      ⟨(Namespace.ofSegments names).segments ++ v.outer⟩ := by
    rw [hns, ← Namespace.segments_within hwords fun _ => Namespace.splitName_of_mem_segments]
  have hfinding := Item.finding?_accounts m path (s.namespace.within v.outer) v.item
  rw [hwithin] at hfinding
  rw [hpath, hwithin]
  cases hmarker : v.item.marker? m with
  | none =>
    rw [hmarker] at hfinding
    rw [hfinding]
    exact .none
  | some attr =>
    rw [hmarker] at hfinding
    obtain ⟨f, hf, haccounts⟩ := hfinding
    rw [hf]
    exact .some haccounts

/-- The marker of the first module is refused, and what is inside of it is visited all the same. -/
def nestedText : String :=
  "#[patterns=1]mod a{#[patterns]impl A{}mod b{#[patterns]struct S;}}#[patterns]impl[u8]{}"

/-- An error about the module, a declaration inside of it, a warning further inside, and an error
about the last item, in this order. -/
theorem discover_accounts_nested :
    ∃ s, SourceFile.parse ⟨"x.rs"⟩ (.ofSegments ["x"]) nestedText = .ok s ∧
      let m := Config.standard.markers
      (markedVisits m s.items).map (fun v => v.1.outer) = [[], ["a"], ["a", "b"], []] ∧
      (s.discover m).map (fun d => d.namespace.segments) = [["x", "a"]] ∧
      (s.markerDiagnostics m).map (fun d => (d.severity, d.attribution.declaration)) =
        [(.error, "x"), (.warning, "x::a::b"), (.error, "x")] ∧
      ∃ findings : List Finding,
        List.Forall₂ (fun v f => Finding.Accounts ⟨"x.rs"⟩ ⟨["x"] ++ v.1.outer⟩ v.1.item v.2 f)
          (markedVisits m s.items) findings ∧
        s.discover m = findings.filterMap Finding.declaration? ∧
        s.markerDiagnostics m = findings.filterMap Finding.diagnostic? := by
  have hdata : (SourceFile.parse ⟨"x.rs"⟩ (.ofSegments ["x"]) nestedText).toOption.any fun s =>
      let m := Config.standard.markers
      (markedVisits m s.items).map (fun v => v.1.outer) = [[], ["a"], ["a", "b"], []] ∧
      (s.discover m).map (fun d => d.namespace.segments) = [["x", "a"]] ∧
      (s.markerDiagnostics m).map (fun d => (d.severity, d.attribution.declaration)) =
        [(.error, "x"), (.warning, "x::a::b"), (.error, "x")] := by decide +kernel
  obtain ⟨s, hs, hs'⟩ := exists_of_any_toOption hdata
  obtain ⟨houter, hfound, hreported⟩ := of_decide_eq_true hs'
  exact ⟨s, hs, houter, hfound, hreported, SourceFile.discover_accounts _ hs⟩

end PatternFactory
