import PatternFactory.Proofs.ItemNames

/-!
# Where declarations are found

A finding is the finding of one item by itself, which stands among the given items or in the content
of a module (`Item.exists_below_of_mem_listFindings`).  So what holds of the items and is handed
down to the content of a module holds of every declaration that is found
(`SourceFile.exists_item_of_mem_discover`), and its origin is in the file
(`SourceFile.origin_file_of_mem_discover`).
-/

namespace PatternFactory

/-- The item stands in the namespace `ns'`, if `items` stand in the namespace `ns`. -/
inductive Item.Below : Namespace → List Item → Namespace → Item → Prop
  | here {ns : Namespace} {items : List Item} {item : Item} (h : item ∈ items) :
      Below ns items ns item
  | inside {ns ns' : Namespace} {items content : List Item} {head : ModuleHead} {item : Item}
      (h : .module head content ∈ items) (hinside : Below (ns.child head.name) content ns' item) :
      Below ns items ns' item

namespace Item

variable {ns ns' : Namespace} {items : List Item} {item : Item}

theorem Below.mono {more : List Item} (h : Below ns items ns' item)
    (hsub : ∀ i ∈ items, i ∈ more) : Below ns more ns' item := by
  cases h with
  | here h => exact .here (hsub _ h)
  | inside h hinside => exact .inside (hsub _ h) hinside

mutual

theorem exists_below_of_mem_findings {m : Markers} {file : PathName} {ns : Namespace}
    (item : Item) : ∀ f ∈ item.findings m file ns,
      ∃ ns' item', Below ns [item] ns' item' ∧ item'.finding? m file ns' = some f := by
  intro f hf
  cases item with
  | module head content =>
    rw [findings, List.mem_append, Option.mem_toList] at hf
    rcases hf with hf | hf
    · exact ⟨ns, _, .here (List.mem_singleton_self _), hf⟩
    · obtain ⟨ns', item', hbelow, hfinding⟩ := exists_below_of_mem_listFindings content f hf
      exact ⟨ns', item', .inside (List.mem_singleton_self _) hbelow, hfinding⟩
  | _ =>
    simp only [findings, Option.mem_toList] at hf
    exact ⟨ns, _, .here (List.mem_singleton_self _), hf⟩

/-- **A finding is that of one item by itself.** -/
theorem exists_below_of_mem_listFindings {m : Markers} {file : PathName} {ns : Namespace}
    (items : List Item) : ∀ f ∈ Item.listFindings m file ns items,
      ∃ ns' item, Below ns items ns' item ∧ item.finding? m file ns' = some f := by
  intro f hf
  cases items with
  | nil =>
    rw [listFindings] at hf
    cases hf
  | cons item rest =>
    rw [listFindings, List.mem_append] at hf
    rcases hf with hf | hf
    · obtain ⟨ns', item', hbelow, hfinding⟩ := exists_below_of_mem_findings item f hf
      exact ⟨ns', item', hbelow.mono (by simp), hfinding⟩
    · obtain ⟨ns', item', hbelow, hfinding⟩ := exists_below_of_mem_listFindings rest f hf
      exact ⟨ns', item', hbelow.mono fun _ => List.mem_cons_of_mem _, hfinding⟩

end

theorem Below.named (h : Below ns items ns' item) (hitems : ListNamed items) : item.Named := by
  induction h with
  | here h => exact listNamed_iff.1 hitems _ h
  | inside h _ ih => exact ih (listNamed_iff.1 hitems _ h).2

end Item

/-! ### Declarations -/

/-- A name that is given was accepted. -/
theorem isBaseName_of_nameOverride {attr : Attr} {name : String}
    (h : nameOverride attr = .ok (some name)) : isBaseName name = true := by
  unfold nameOverride at h
  split at h
  · cases h
  · split at h
    · cases h
    · cases h
    · split at h
      next hname => cases h; exact hname
      next => cases h
    · cases h
  · cases h

/-- The names from which the item gets its own are words. -/
def DeclarationItem.Named : DeclarationItem → Prop
  | .impl i => i.selfTy.Named
  | .module name _ => IsWord name

/-- What is known of the name of a declaration: one that is given was accepted, and otherwise the
item has one of its own. -/
structure MarkedDeclaration.Named (d : MarkedDeclaration) : Prop where
  given : ∀ name, d.nameOverride = some name → isBaseName name = true
  isPath : ∀ i, d.item = .impl i → d.nameOverride = none → i.selfTy.isPath = true
  item : d.item.Named

theorem Discovery.of_declare {marker : String} {attr : Attr} {ns : Namespace}
    {item : DeclarationItem} {origin : Origin} {d : MarkedDeclaration}
    (h : declare marker attr ns item origin = .declared d) :
    d.namespace = ns ∧ d.item = item ∧ d.origin = origin ∧
      (∀ name, d.nameOverride = some name → isBaseName name = true) ∧
      ∀ i, item = .impl i → d.nameOverride = none → i.selfTy.isPath = true := by
  unfold declare at h
  split at h
  · cases h
  next name hname =>
    have hgiven : ∀ n, name = some n → isBaseName n = true := fun n hn =>
      isBaseName_of_nameOverride (hn ▸ hname)
    split at h
    next i =>
      split at h
      next hpath =>
        cases h
        exact ⟨rfl, rfl, rfl, hgiven, fun j hj _ => by cases hj; exact hpath⟩
      next => cases h
    next hnot =>
      cases h
      exact ⟨rfl, rfl, rfl, hgiven, fun i hi hnone => absurd hnone (hnot i hi)⟩

/-- The declaration of an item by itself. -/
theorem Item.of_finding? {m : Markers} {file : PathName} {ns : Namespace} {item : Item}
    {d : MarkedDeclaration} (h : item.finding? m file ns = some (.declared d)) :
    d.namespace = ns ∧ d.origin.file = file ∧ (item.Named → d.Named) := by
  cases item with
  | impl i =>
    obtain ⟨attr, -, hd⟩ := Option.map_eq_some_iff.1 h
    split at hd
    · cases hd
    · obtain ⟨hns, hi, horigin, hgiven, hpath⟩ := Discovery.of_declare hd
      exact ⟨hns, congrArg Origin.file horigin, fun hitem => ⟨hgiven, fun j hj => hpath j (hi ▸ hj), hi ▸ hitem⟩⟩
  | module head content =>
    obtain ⟨attr, -, hd⟩ := Option.map_eq_some_iff.1 h
    obtain ⟨hns, hi, horigin, hgiven, hpath⟩ := Discovery.of_declare hd
    exact ⟨hns, congrArg Origin.file horigin, fun hitem => ⟨hgiven, fun j hj => hpath j (hi ▸ hj), hi ▸ hitem.1⟩⟩
  | other _ => cases h
  | _ =>
    obtain ⟨attr, -, hd⟩ := Option.map_eq_some_iff.1 h
    cases hd

namespace SourceFile

variable {m : Markers} {s : SourceFile} {d : MarkedDeclaration} {path : PathName} {ns : Namespace}
  {text : String}

/-- A declaration is that of an item in its namespace, which is one below that of the source. -/
theorem exists_item_of_mem_discover (h : d ∈ s.discover m) :
    ∃ item : Item, item.finding? m s.path d.namespace = some (.declared d) ∧
      Item.Below s.namespace s.items d.namespace item := by
  obtain ⟨f, hf, hd⟩ := List.mem_filterMap.1 h
  obtain ⟨ns, item, hbelow, hfinding⟩ := Item.exists_below_of_mem_listFindings s.items f hf
  cases f with
  | reported => cases hd
  | declared d' =>
    cases hd
    obtain ⟨rfl, -⟩ := Item.of_finding? hfinding
    exact ⟨item, hfinding, hbelow⟩

/-- **A declaration that is found in a source file has its origin there.** -/
theorem origin_file_of_mem_discover (h : d ∈ s.discover m) : d.origin.file = s.path := by
  obtain ⟨_, hfinding, -⟩ := exists_item_of_mem_discover h
  exact (Item.of_finding? hfinding).2.1

/-- The declarations of a source have names if the items have names. -/
theorem exists_below_of_mem_discover (h : d ∈ s.discover m) (hs : Item.ListNamed s.items) :
    d.Named ∧ ∃ item, item.Named ∧ Item.Below s.namespace s.items d.namespace item := by
  obtain ⟨item, hfinding, hbelow⟩ := exists_item_of_mem_discover h
  have hitem := hbelow.named hs
  exact ⟨(Item.of_finding? hfinding).2.2 hitem, item, hitem, hbelow⟩

theorem of_parse_eq_ok (h : SourceFile.parse path ns text = .ok s) :
    File.ofText text = .ok s.items ∧ s.path = path ∧ s.namespace = ns := by
  unfold SourceFile.parse at h
  cases hitems : File.ofText text with
  | error e =>
    rw [hitems] at h
    cases h
  | ok items =>
    rw [hitems] at h
    cases h
    exact ⟨rfl, rfl, rfl⟩

theorem of_parse_eq_error {e : SyntaxError} (h : SourceFile.parse path ns text = .error e) :
    File.ofText text = .error e := by
  unfold SourceFile.parse at h
  cases hitems : File.ofText text with
  | error e =>
    rw [hitems] at h
    cases h
    rfl
  | ok items =>
    rw [hitems] at h
    cases h

/-- The names in a source that is read are words. -/
theorem named_of_parse (h : SourceFile.parse path ns text = .ok s) :
    s.path = path ∧ s.namespace = ns ∧ Item.ListNamed s.items := by
  obtain ⟨hitems, hpath, hns⟩ := of_parse_eq_ok h
  exact ⟨hpath, hns, File.named_of_ofText hitems⟩

end SourceFile

end PatternFactory
