import PatternFactory.Factory.Renderer
import PatternFactory.Proofs.Discovered

/-!
# The items of a unit

The outline of an item is what discovery goes by, apart from the content of modules.  An item of a
plain outline is no declaration, whatever the markers are (`SourceFile.discover_eq_nil_of_plain`).

The tokens of a unit, if they can be read, are a struct and an impl block without attributes, which
may be kept as tokens.  So the items of a unit have plain outlines
(`Declaration.plain_of_unitItems`): the attribute that the renderer writes stands on the struct, and
what is spliced in stands inside of the block.
-/

namespace PatternFactory

/-! ### Outlines -/

/-- The kinds of items that discovery tells apart. -/
inductive ItemKind where
  | impl (isForTrait : Bool)
  | module
  | moduleFile
  | fn
  | data (kind : DataKind)
  | other
  deriving DecidableEq

/-- What discovery goes by: the kind of an item, and the names of its attributes. -/
structure Outline where
  kind : ItemKind
  attrs : List SimplePath
  deriving DecidableEq

namespace Item

/-- The names of some attributes. -/
def attrNames (attrs : List Attr) : List SimplePath := attrs.map fun a => a.meta.name

/-- The outline of an item. -/
def outline : Item → Outline
  | impl i => ⟨.impl i.ofTrait.isSome, attrNames i.attrs⟩
  | module head _ => ⟨.module, attrNames head.attrs⟩
  | moduleFile head => ⟨.moduleFile, attrNames head.attrs⟩
  | fn f => ⟨.fn, attrNames f.attrs⟩
  | data kind attrs _ => ⟨.data kind, attrNames attrs⟩
  | other _ => ⟨.other, []⟩

end Item

/-- An item of this outline is no declaration under any marker, and there are none inside of it. -/
def Outline.Plain (o : Outline) : Prop :=
  match o.kind with
  | .module => False
  | .impl _ => o.attrs = []
  | _ => True

/-- The item has a plain outline. -/
def Item.Plain (item : Item) : Prop := item.outline.Plain

theorem Item.plain_impl {i : ImplItem} (h : i.attrs = []) : (impl i).Plain := by
  rw [Plain, outline, h]
  rfl

theorem Item.finding?_ne_declared_of_plain {m : Markers} {file : PathName} {ns : Namespace}
    {item : Item} (h : item.Plain) (d : MarkedDeclaration) :
    item.finding? m file ns ≠ some (.declared d) := by
  intro hfinding
  cases item with
  | impl i =>
    have hattrs : i.attrs = [] := List.map_eq_nil_iff.1 h
    simp [finding?, Markers.onDeclaration?, findMarker, hattrs] at hfinding
  | module => exact h
  | other => cases hfinding
  | _ =>
    obtain ⟨attr, -, hd⟩ := Option.map_eq_some_iff.1 hfinding
    cases hd

/-- There are no declarations among items of plain outlines. -/
theorem SourceFile.discover_eq_nil_of_plain {m : Markers} {s : SourceFile}
    (h : ∀ i ∈ s.items, i.Plain) : s.discover m = [] := by
  refine List.eq_nil_iff_forall_not_mem.2 fun d hd => ?_
  obtain ⟨item, hfinding, hbelow⟩ := exists_item_of_mem_discover hd
  generalize d.namespace = ns at hfinding hbelow
  cases hbelow with
  | inside hmem _ => exact h _ hmem
  | here hmem => exact Item.finding?_ne_declared_of_plain (h _ hmem) d hfinding

open Reader

/-! ### A struct and an impl block -/

namespace Grammar

variable {g : Grammar} {name : String} {body : List Token}

theorem rest_of_ident {v a : String} {p : Pos} {ts : List Token} {closing : Pos}
    {leftover : Option (Pos × Delimiter)} {s' : ReadState}
    (h : ident ⟨.word v p :: ts, closing, leftover⟩ = .ok (a, s')) :
    s' = ⟨ts, closing, leftover⟩ := by
  unfold ident at h
  obtain ⟨_, _, hrest, h⟩ := bind_eq_ok h
  cases hrest
  cases hv : isIdentifierWord v with
  | true =>
    simp only [hv] at h
    cases h
    rfl
  | false =>
    simp only [hv] at h
    cases h

/-- Tokens with no `!` in the second place do not begin with an inner attribute. -/
theorem leads_innerAttrs {ts : List Token} (h : (Mark.op "!").leads (Tokens.skip ts) = false) :
    Leads (· = ts) (fun attrs ts' => attrs = [] ∧ ts' = ts) g.innerAttrs where
  holds {s attrs s'} hp hs := by
    have hstep : (do
        if (← seesOp "#") && (← seesSecond (.op "!")) then some <$> g.innerAttr else return none :
        Reader (Option Attr)) s = .ok (none, s) := by
      change (if ((Mark.op "#").leads s.rest && (Mark.op "!").leads (Tokens.skip s.rest)) = true
        then some <$> g.innerAttr else return none : Reader (Option Attr)) s = _
      rw [hs, h, Bool.and_false]
      rfl
    unfold innerAttrs at hp
    rw [many_of_eq_none hstep] at hp
    cases hp
    exact ⟨rfl, hs⟩

/-- The tokens of a struct without fields, with a comment. -/
def structTokens (comment name : String) : List Token :=
  commentTokens comment ++ [.ofWord "pub", .ofWord "struct", .ofWord name] ++ Token.ofOperator ";"

/-- The tokens of an impl block for a name. -/
def blockTokens (name : String) (body : List Token) : List Token :=
  [.ofWord "impl", .ofWord name, .ofGroup .brace body]

/-- A struct without fields is read as such, up to the block behind it. -/
theorem leads_structTokens (comment : String) :
    Leads (· = structTokens comment name ++ blockTokens name body)
      (fun item ts => item.Plain ∧ ts = blockTokens name body) g.readItem where
  holds {s item s'} hp hs := by
    obtain ⟨_, closing, leftover⟩ := s
    obtain rfl : _ = _ := hs
    -- The comment is an attribute, and the words behind it say that a struct comes.
    obtain ⟨attrs, hitem⟩ : ∃ attrs, g.readItem ⟨structTokens comment name ++ blockTokens name body,
        closing, leftover⟩ = g.structItem attrs ⟨[.ofWord "pub", .ofWord "struct", .ofWord name]
          ++ (Token.ofOperator ";" ++ blockTokens name body), closing, leftover <|> none⟩ :=
      ⟨_, rfl⟩
    rw [hitem, structItem] at hp
    obtain ⟨_, _, hvis, hp⟩ := bind_eq_ok hp
    cases hvis
    obtain ⟨_, _, hword, hp⟩ := bind_eq_ok hp
    cases hword
    obtain ⟨_, _, hname, hp⟩ := bind_eq_ok hp
    obtain rfl := rest_of_ident hname
    cases hp
    exact ⟨trivial, rfl⟩

/-- What stands inside of the braces gives an impl block no attributes, and nothing follows it. -/
theorem leads_implItem [g.Keeps (· <:+ blockTokens name body)] (before : List Token)
    (hbody : (Mark.op "!").leads (Tokens.skip body) = false) :
    Leads (· <:+ blockTokens name body) (fun item ts => item.Plain ∧ ts = [])
      (g.implItem before []) := by
  have hgroup : Leads (· <:+ blockTokens name body)
      (fun (r : List Attr × List ImplMember) ts => r.1 = [] ∧ ts = [])
      (group .brace do return (← g.innerAttrs, ← manyToEnd g.implMember)) := by
    refine .group fun {body' after _ _} hts => ?_
    -- The braces stand at the end, so what is left is `body` and nothing behind it.
    obtain ⟨rfl, rfl⟩ : body' = body ∧ after = [] := by
      obtain ⟨front, hfront⟩ := hts
      match front with
      | [] => cases hfront
      | [_] => cases hfront
      | [_, _] => cases hfront; exact ⟨rfl, rfl⟩
      | _ :: _ :: _ :: front => cases front <;> cases hfront
    refine .bind (leads_innerAttrs hbody) fun inner => ?_
    exact .bind (Leads.const.mono fun _ h => h.1) fun _ => .pure fun _ h => ⟨h, rfl⟩
  unfold implItem
  refine .keep fun vis => .keep fun isDefault => .keep fun isUnsafe => ?_
  refine .keep fun pos => .keep fun _ => ?_
  -- Generic parameters, a negation and its mark may each be there or not.
  refine .ite ?_ ?_ <;>
  refine .keep fun params => .keep fun isConst => .keep fun _ => .keep fun _ => .ite ?_ ?_ <;>
  refine .keep fun negation => .ite (.keep fun _ => ?_) ?_
  all_goals
    refine .keep fun target => .keep fun predicates => .bind hgroup fun ⟨inner, members⟩ => ?_
    have hother : Leads (fun ts => inner = [] ∧ ts = []) (fun item ts => item.Plain ∧ ts = [])
        (do return Item.other (← verbatimSince before)) :=
      .keep fun _ => .pure fun _ h => ⟨trivial, h.2⟩
    refine .ite hother ?_
    match target with
    | .type _ => exact .pure fun _ h => ⟨Item.plain_impl h.1, h.2⟩
    | .trait (some _) _ => exact .pure fun _ h => ⟨Item.plain_impl h.1, h.2⟩
    | .trait none _ => exact hother

/-- A struct with a block behind it gives items of plain outlines. -/
theorem leads_items (comment : String) (hbody : (Mark.op "!").leads (Tokens.skip body) = false)
    (n : Nat) :
    Leads (· = structTokens comment name ++ blockTokens name body)
      (fun items _ => ∀ i ∈ items, i.Plain) (File.items (ofDepth n)) := by
  -- The places at which an item may begin: the struct, the block and the end.
  let Place (ts : List Token) : Prop :=
    ts = structTokens comment name ++ blockTokens name body ∨ ts = blockTokens name body ∨ ts = []
  have hitem : Leads (fun ts => Place ts ∧ ts ≠ []) (fun item ts => item.Plain ∧ Place ts)
      (ofDepth n).item := by
    cases n with
    | zero => exact .fails fun _ => rfl
    | succ n =>
      refine ⟨fun {s item s'} hp hs => ?_⟩
      obtain ⟨hstruct | hblock | hend, hne⟩ := hs
      · obtain ⟨hplain, hrest⟩ := (leads_structTokens comment).holds hp hstruct
        exact ⟨hplain, .inr (.inl hrest)⟩
      · obtain ⟨_, closing, leftover⟩ := s
        obtain rfl : _ = _ := hblock
        have hread : (ofDepth (n + 1)).item ⟨blockTokens name body, closing, leftover⟩ =
            (ofDepth n).implItem (blockTokens name body) []
              ⟨blockTokens name body, closing, leftover⟩ := rfl
        rw [hread] at hp
        obtain ⟨hplain, hrest⟩ := (leads_implItem _ hbody).holds hp List.suffix_rfl
        exact ⟨hplain, .inr (.inr hrest)⟩
      · exact absurd hend hne
  unfold File.items
  exact .bind (leads_innerAttrs rfl) fun _ => (Leads.manyToEnd hitem).mono fun _ h => .inl h.2

end Grammar

/-! ### Units -/

theorem Factory.leads_second (rt : Path) (fs : List Factory) :
    (Mark.op "!").leads (Tokens.skip (fs.flatMap (Factory.tokens rt))) = false := by
  cases fs <;> rfl

/-- **The items of a unit are no declarations**, whatever the renderer splices in and whatever the
markers are. -/
theorem Declaration.plain_of_unitItems {rt : Path} {name : String} {d : Declaration}
    {items : List Item} (h : d.unitItems? rt name = some items) : ∀ i ∈ items, i.Plain := by
  unfold unitItems? at h
  split at h
  · cases hread : Tokens.read (d.unitTokens rt name) File.items with
    | error e =>
      rw [hread] at h
      cases h
    | ok read =>
      rw [hread] at h
      cases h
      obtain ⟨s, hs, -, -⟩ := exists_of_run_eq_ok hread
      exact (Grammar.leads_items _ (Factory.leads_second rt d.factories) _).holds hs rfl
  · cases h

end PatternFactory
