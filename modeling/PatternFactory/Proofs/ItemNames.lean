import PatternFactory.Declaration.Basic
import PatternFactory.Proofs.GrammarKeeping

/-!
# The names of items are words

The names of modules and of the segments of self types are words of the text from which the items
are read (`File.named_of_ofText`): every reader that makes such a name takes it from a word token.
-/

namespace PatternFactory

/-- The names of the segments are words, if the type is a path. -/
def Ty.Named (t : Ty) : Prop := ∀ names, t.segmentNames? = some names → ∀ n ∈ names, IsWord n

/-- The names of the segments are words. -/
def Path.Named (p : Path) : Prop := ∀ s ∈ p.segments, IsWord s.name

mutual

/-- The names from which declarations in the item get theirs are words. -/
def Item.Named : Item → Prop
  | .impl i => i.selfTy.Named
  | .module head content => IsWord head.name ∧ Item.ListNamed content
  | _ => True

/-- The names from which declarations in the items get theirs are words. -/
def Item.ListNamed : List Item → Prop
  | [] => True
  | i :: rest => i.Named ∧ Item.ListNamed rest

end

theorem Item.listNamed_iff {items : List Item} :
    Item.ListNamed items ↔ ∀ i ∈ items, i.Named := by
  induction items with
  | nil => simp [Item.ListNamed]
  | cons i items ih => simp [Item.ListNamed, ih]

namespace Ty

theorem named_of_eq_none {t : Ty} (h : t.segmentNames? = none) : t.Named := by
  intro names hnames
  rw [h] at hnames
  cases hnames

theorem named_path {p : Path} (h : p.Named) : (path p).Named := by
  intro names hnames
  cases hnames
  simpa [Path.Named] using h

theorem named_qualified {self : Ty} {asTrait : Option Path} {segments : List Segment}
    (htrait : ∀ p ∈ asTrait, p.Named) (hsegments : ∀ s ∈ segments, IsWord s.name) :
    (qualified self asTrait segments).Named := by
  intro names hnames
  cases hnames
  intro n hn
  obtain ⟨s, hs, rfl⟩ := List.mem_map.1 hn
  rcases List.mem_append.1 hs with hs | hs
  · cases asTrait with
    | none => cases hs
    | some p => exact htrait p rfl s hs
  · exact hsegments s hs

/-- The type has no segments of its own. -/
class Nameless (t : Ty) : Prop where
  eq_none : t.segmentNames? = none

instance (elem : Ty) (len : Code) : Nameless (.array elem len) := ⟨rfl⟩
instance (binder : Option Binder) (isUnsafe : Bool) (abi : Option Abi) (inputs : List BareArg)
    (trailing : Bool) (variadic : Option BareVariadic) (output : Option Ty) :
    Nameless (.bareFn binder isUnsafe abi inputs trailing variadic output) := ⟨rfl⟩
instance (bounds : List Bound) (trailing : Bool) : Nameless (.implTrait bounds trailing) := ⟨rfl⟩
instance : Nameless .infer := ⟨rfl⟩
instance (path : SimplePath) (delim : Delimiter) (body : List Token) :
    Nameless (.macroCall path delim body) := ⟨rfl⟩
instance : Nameless .never := ⟨rfl⟩
instance (elem : Ty) : Nameless (.paren elem) := ⟨rfl⟩
instance (isMut : Bool) (elem : Ty) : Nameless (.ptr isMut elem) := ⟨rfl⟩
instance (lifetime : Option String) (isMut : Bool) (elem : Ty) :
    Nameless (.reference lifetime isMut elem) := ⟨rfl⟩
instance (elem : Ty) : Nameless (.slice elem) := ⟨rfl⟩
instance (hasDyn : Bool) (bounds : List Bound) (trailing : Bool) :
    Nameless (.traitObject hasDyn bounds trailing) := ⟨rfl⟩
instance (elems : List Ty) (trailing : Bool) : Nameless (.tuple elems trailing) := ⟨rfl⟩
instance (tokens : List Token) : Nameless (.verbatim tokens) := ⟨rfl⟩

end Ty

open Reader

-- A long reader gives a long proof.
set_option synthInstance.maxSize 1000000000
set_option synthInstance.maxHeartbeats 400000

/-! ### Words -/

theorem Reader.yields_ident : Yields IsWord ident := by
  unfold ident
  refine .rest_bind fun ts hts => ?_
  split
  next v pos ts =>
    have hword : IsWord v := hts.holds.1
    have := hts.tail
    have : Yields IsWord (setRest ts >>= fun _ => pure v) := .bind .of_keeps fun _ _ => .pure hword
    infer_instance
  next => infer_instance

theorem Reader.yields_anyWord : Yields IsWord anyWord := by
  unfold anyWord
  refine .rest_bind fun ts hts => ?_
  split
  next v pos ts =>
    have hword : IsWord v := hts.holds.1
    have := hts.tail
    exact .bind .of_keeps fun _ _ => .pure hword
  next => infer_instance

namespace Grammar

/-- The readers of the grammar keep to their tokens, and the names that they yield are words. -/
class Naming (g : Grammar) : Prop extends Keeps Tokens.Lexed g where
  namedTy : ∀ allowPlus, Yields Ty.Named (g.ty allowPlus)
  namedItem : Yields Item.Named g.item

attribute [instance] Naming.namedTy Naming.namedItem

variable (g : Grammar) [g.Naming]

/-! ### Paths -/

theorem yields_segment (style : PathStyle) :
    Yields (fun s => IsWord s.name) (g.segment style) := by
  unfold segment
  refine .bind .of_keeps fun _ _ => .ite (.bind yields_anyWord fun w hw => .pure hw) ?_
  dsimp only
  refine .bind .of_keeps fun _ _ => .ite (.bind yields_anyWord fun name hname => ?_)
    (.bind yields_ident fun name hname => ?_)
  all_goals
    have hmk (args : Args) : Yields (fun s => IsWord s.name) (pure (Segment.mk name args)) :=
      .pure hname
    infer_instance

theorem yields_moreSegments (style : PathStyle) :
    Yields (fun segments => ∀ s ∈ segments, IsWord s.name) (g.moreSegments style) := by
  unfold moreSegments
  refine .many ?_
  have hsome : Yields (fun r => ∀ s ∈ r, IsWord s.name) (some <$> g.segment style) :=
    .map (g.yields_segment style) (by simp)
  have hnone : Yields (fun r => ∀ s ∈ r, IsWord s.name) (pure none : Reader (Option Segment)) :=
    .pure (by simp)
  infer_instance

theorem yields_path (style : PathStyle) : Yields Path.Named (g.path style) := by
  unfold path
  refine .bind .of_keeps fun leading _ => .bind (g.yields_segment style) fun first hfirst => ?_
  refine .bind (g.yields_moreSegments style) fun more hmore => .pure fun s hs => ?_
  rcases List.mem_cons.1 hs with rfl | hs
  · exact hfirst
  · exact hmore s hs

theorem yields_qualifiedPath (style : PathStyle) : Yields Ty.Named (g.qualifiedPath style) := by
  unfold qualifiedPath
  have hpath : Yields Ty.Named (Ty.path <$> g.path style) :=
    .map (g.yields_path style) fun _ => Ty.named_path
  have hbehind (self : Ty) (asTrait : Option Path) (h : ∀ p ∈ asTrait, p.Named) :
      Yields Ty.Named (do
        op ">"
        op "::"
        let found ← joined "::" (pure false) (g.segment style)
        return .qualified self asTrait found.1) :=
    .bind .of_keeps fun _ _ => .bind .of_keeps fun _ _ =>
      .bind (.joined (g.yields_segment style)) fun _ hsegments =>
        .pure (Ty.named_qualified h hsegments)
  refine .bind .of_keeps fun _ _ => .ite (.bind .of_keeps fun self _ => ?_) hpath
  dsimp only
  refine .bind .of_keeps fun _ _ => .ite ?_ ?_
  · exact .bind (.map (g.yields_path .type) (Q := fun p => ∀ q ∈ p, q.Named) (by simp)) fun p hp =>
      hbehind self p hp
  · exact .bind (.pure (P := fun p => p = none) rfl) fun p hp => hbehind self p (by simp [hp])

/-! ### Types -/

instance (t : Ty) [h : t.Nameless] : Yields Ty.Named (pure t : Reader Ty) :=
  .pure (Ty.named_of_eq_none h.eq_none)

instance (allowPlus : Bool) (binder : Option Binder) :
    Yields Ty.Named (g.pathType allowPlus binder) := by
  unfold pathType objectFrom
  refine .bind (g.yields_qualifiedPath .type) fun ty hty => ?_
  have hpure : Yields Ty.Named (pure ty : Reader Ty) := .pure hty
  cases ty <;> infer_instance

/-- The type is named, if the inside of parentheses gives one by itself. -/
def ParenContent.Named : ParenContent → Prop
  | .done ty => ty.Named
  | .maybeBound _ => True
  | .single _ => True

instance (t : Ty) [h : t.Nameless] : Yields ParenContent.Named (pure (.done t)) :=
  .pure (Ty.named_of_eq_none h.eq_none)
instance (b : Bound) : Yields ParenContent.Named (pure (.maybeBound b)) := .pure trivial
instance (t : Ty) : Yields ParenContent.Named (pure (.single t)) := .pure trivial

instance : Yields ParenContent.Named g.parenContent := by unfold parenContent; infer_instance

instance (allowPlus : Bool) : Yields Ty.Named (g.parenType allowPlus) := by
  unfold parenType
  have hcontent : Yields ParenContent.Named g.parenContent := inferInstance
  refine .groupWith (fun hrun hs => (hcontent.holds hrun hs).1) fun content hnamed => ?_
  cases content with
  | done ty => exact .pure hnamed
  | maybeBound => infer_instance
  | single ty =>
    have hparen : Yields Ty.Named (pure (.paren ty) : Reader Ty) := inferInstance
    refine .bind .of_keeps fun _ _ => .ite ?_ hparen
    split
    · infer_instance
    · exact hparen

instance (binder : Option Binder) : Yields Ty.Named (g.bareFn binder) := by
  unfold bareFn; infer_instance

instance : Yields Ty.Named g.bracketType := by
  unfold bracketType
  exact .group inferInstance

instance : Yields Ty.Named g.pointerType := by unfold pointerType; infer_instance
instance : Yields Ty.Named g.referenceType := by unfold referenceType; infer_instance
instance (allowPlus : Bool) : Yields Ty.Named (g.opaqueType allowPlus) := by
  unfold opaqueType; infer_instance
instance (allowPlus : Bool) : Yields Ty.Named (g.dynType allowPlus) := by
  unfold dynType; infer_instance

instance (allowPlus : Bool) : Yields Ty.Named (g.readTy allowPlus) := by
  unfold readTy; infer_instance

/-! ### Impl blocks -/

/-- The names of the type that an impl block is for are words. -/
def ImplTarget.Named : ImplTarget → Prop
  | .type selfTy => selfTy.Named
  | .trait _ selfTy => selfTy.Named

instance (negation : Option Pos) : Yields ImplTarget.Named (g.implTarget negation) := by
  unfold implTarget
  refine .bind (Naming.namedTy true) fun first hfirst => .bind .of_keeps fun isFor _ => ?_
  have hfor (path : Option Path) : Yields ImplTarget.Named (do
      return .trait path (← g.ty true)) :=
    .bind (Naming.namedTy true) fun _ hself => .pure hself
  split
  · infer_instance
  · split
    · infer_instance
    · exact .pure hfirst

instance (c : Code) : Yields Item.Named (pure (.other c)) := .pure trivial
instance (kind : DataKind) (attrs : List Attr) (c : Code) :
    Yields Item.Named (pure (.data kind attrs c)) := .pure trivial
instance (f : FnItem) : Yields Item.Named (pure (.fn f)) := .pure trivial
instance (p : Reader Code) [Reader.Keeps Tokens.Lexed p] : Yields Item.Named (Item.other <$> p) :=
  .map .of_keeps fun _ _ => trivial

instance (before : List Token) (attrs : List Attr) :
    Yields Item.Named (g.implItem before attrs) := by
  have htarget (negation : Option Pos) : Yields ImplTarget.Named (g.implTarget negation) :=
    inferInstance
  unfold implItem
  refine .bind .of_keeps fun vis _ => .bind .of_keeps fun _ _ => .bind .of_keeps fun _ _ => ?_
  refine .bind .of_keeps fun pos _ => .bind .of_keeps fun _ _ => ?_
  -- Generic parameters, a negation and its mark may each be there or not.
  refine .ite ?_ ?_ <;>
  refine .bind .of_keeps fun params _ => .bind .of_keeps fun isConst _ =>
    .bind .of_keeps fun _ _ => .bind .of_keeps fun _ _ => .ite ?_ ?_ <;>
  refine .bind .of_keeps fun negation _ => .ite (.bind .of_keeps fun _ _ => ?_) ?_
  all_goals
    refine .bind (htarget negation) fun target htarget => ?_
    refine .bind .of_keeps fun predicates _ => .bind .of_keeps fun content _ => ?_
    refine .ite inferInstance ?_
    match target, htarget with
    | .type _, hself => exact .pure hself
    | .trait (some _) _, hself => exact .pure hself
    | .trait none _, _ => infer_instance

/-! ### Items -/

theorem yields_content : Yields Item.ListNamed (manyToEnd g.item) :=
  (Yields.manyToEnd Naming.namedItem).mono fun _ => Item.listNamed_iff.2

instance (attrs : List Attr) : Yields Item.Named (g.moduleItem attrs) := by
  have hcontent : Yields (fun r : List Attr × List Item => Item.ListNamed r.2) (do
      return (← g.innerAttrs, ← manyToEnd g.item)) :=
    .bind .of_keeps fun _ _ => .bind g.yields_content fun _ h => .pure h
  unfold moduleItem
  refine .bind .of_keeps fun _ _ => .bind .of_keeps fun _ _ => .bind .of_keeps fun _ _ => ?_
  refine .bind .of_keeps fun _ _ => .ite (.bind yields_anyWord fun name hname => ?_)
    (.bind yields_ident fun name hname => ?_)
  all_goals
    refine .bind .of_keeps fun _ _ => .ite (.pure trivial) (.bind .of_keeps fun _ _ => .ite ?_ ?_)
    · exact .bind (.group hcontent) fun _ h => .pure ⟨hname, h⟩
    · infer_instance

instance (before : List Token) (attrs : List Attr) :
    Yields Item.Named (g.functionItem before attrs) := by
  unfold functionItem; infer_instance
instance (attrs : List Attr) : Yields Item.Named (g.structItem attrs) := by
  unfold structItem; infer_instance
instance (attrs : List Attr) : Yields Item.Named (g.enumItem attrs) := by
  unfold enumItem; infer_instance
instance (attrs : List Attr) : Yields Item.Named (g.unionItem attrs) := by
  unfold unionItem; infer_instance
instance (attrs : List Attr) (front : List Part) :
    Yields Item.Named (g.traitRest attrs front) := by
  unfold traitRest; infer_instance
instance (attrs : List Attr) (front : List Part) :
    Yields Item.Named (g.traitAliasRest attrs front) := by
  unfold traitAliasRest; infer_instance
instance (attrs : List Attr) (allowAlias : Bool) :
    Yields Item.Named (g.traitItem attrs allowAlias) := by
  unfold traitItem; infer_instance
instance (before : List Token) (attrs : List Attr) (start : List Token) [Known Tokens.Lexed start] :
    Yields Item.Named (g.unsafeItem before attrs start) := by
  unfold unsafeItem; infer_instance

instance : Yields Item.Named g.readItem := by
  unfold readItem
  refine .bind .of_keeps fun before _ => .bind .of_keeps fun attrs _ => ?_
  refine .rest_bind fun start hstart => ?_
  infer_instance

/-! ### The grammar -/

instance : Naming exhausted where
  namedTy _ := inferInstanceAs (Yields Ty.Named (fail _))
  namedItem := inferInstanceAs (Yields Item.Named (fail _))

instance (inner : Unit → Grammar) [(inner ()).Naming] : Naming (above inner) where
  namedTy allowPlus := inferInstanceAs (Yields Ty.Named ((inner ()).readTy allowPlus))
  namedItem := inferInstanceAs (Yields Item.Named (inner ()).readItem)

instance (depth : Nat) : Naming (ofDepth depth) := by
  induction depth with
  | zero => exact inferInstanceAs (Naming exhausted)
  | succ depth ih => exact inferInstanceAs (Naming (above fun _ => ofDepth depth))

instance (tokens : List Token) : Naming (forTokens tokens) :=
  inferInstanceAs (Naming (ofDepth _))

end Grammar

/-! ### Files -/

/-- What is read from tokens that are lexed has the property that its reader yields. -/
theorem Reader.Yields.of_run {α : Type} {P : α → Prop} {p : Reader α} {tokens : List Token}
    {closing : Pos} {a : α} (hp : Yields P p) (hlexed : Tokens.Lexed tokens)
    (h : p.run tokens closing = .ok a) : P a := by
  obtain ⟨s, hs, -, -⟩ := exists_of_run_eq_ok h
  exact (hp.holds hs hlexed).1

/-- The names of the items of a text are words. -/
theorem File.named_of_ofText {text : String} {items : List Item}
    (h : File.ofText text = .ok items) : Item.ListNamed items := by
  unfold File.ofText readText at h
  split at h
  next tokens htokens =>
    have hitems : Yields Item.ListNamed (File.items (Grammar.forTokens tokens)) :=
      .bind .of_keeps fun _ _ => Grammar.yields_content _
    exact hitems.of_run (Tokens.lexed_ofText htokens) h
  next => cases h

end PatternFactory
