import PatternFactory.Proofs.Keeping

/-!
# The readers of the syntactic classes keep to their tokens

One instance for each reader that does not only stand inside of groups, in the order of the
grammar.  Most are found by instance search through the code of the reader; where the code looks
into a result, the cases are split by hand.
-/

namespace PatternFactory

namespace Grammar

open Reader

/-- The readers of the grammar keep to their tokens. -/
class Keeps (R : List Token → Prop) (g : Grammar) : Prop where
  ty : ∀ allowPlus, Reader.Keeps R (g.ty allowPlus)
  bound : ∀ rule, Reader.Keeps R (g.bound rule)
  expr : ∀ braces, Reader.Keeps R (g.expr braces)
  operand : ∀ braces, Reader.Keeps R (g.operand braces)
  operators : ∀ braces prec left, Reader.Keeps R (g.operators braces prec left)
  pattern : Reader.Keeps R g.pattern
  namedFields : Reader.Keeps R g.namedFields
  item : Reader.Keeps R g.item

attribute [instance] Keeps.ty Keeps.bound Keeps.expr Keeps.operand Keeps.operators Keeps.pattern
  Keeps.namedFields Keeps.item

-- A long reader gives a long proof.
set_option synthInstance.maxSize 1000000000
set_option synthInstance.maxHeartbeats 400000

variable {R : List Token → Prop} [hR : Tokens.Closed R] (g : Grammar) [g.Keeps R]

/-! ### Attributes -/

instance (before : List Token) : Reader.Keeps R (tokensSince before) := by
  unfold tokensSince; infer_instance
instance : Reader.Keeps R simplePath := by unfold simplePath; infer_instance
instance : Reader.Keeps R g.outerAttr := by unfold outerAttr; infer_instance
instance : Reader.Keeps R g.innerAttr := by unfold innerAttr; infer_instance
instance : Reader.Keeps R g.outerAttrs := by unfold outerAttrs; infer_instance
instance : Reader.Keeps R g.innerAttrs := by unfold innerAttrs; infer_instance
instance (ms : List Mark) : Reader.Keeps R (parensBeginWith ms) := by
  unfold parensBeginWith; infer_instance
instance : Reader.Keeps R restriction := by
  unfold restriction
  refine .bind inferInstance fun _ => .ite (.bind inferInstance fun found => ?_) inferInstance
  split <;> infer_instance
instance : Reader.Keeps R visibility := by unfold visibility; infer_instance

/-! ### Paths and generic parameters -/

instance : Reader.Keeps R g.blockArgument := by unfold blockArgument; infer_instance
instance : Reader.Keeps R g.constArgument := by unfold constArgument; infer_instance
instance : Reader.Keeps R g.plainOutput := by unfold plainOutput; infer_instance
instance : Reader.Keeps R g.parenArgs := by unfold parenArgs; infer_instance
instance : Reader.Keeps R g.genericArg := by
  unfold genericArg
  refine .bind inferInstance fun _ => .bind inferInstance fun _ => .ite inferInstance ?_
  refine .bind inferInstance fun _ => .ite inferInstance (.bind inferInstance fun ty => ?_)
  split
  · split <;> infer_instance
  · infer_instance
instance (turbofish : Bool) : Reader.Keeps R (g.angleArgs turbofish) := by
  unfold angleArgs; infer_instance
instance (style : PathStyle) : Reader.Keeps R (g.segment style) := by unfold segment; infer_instance
instance (style : PathStyle) : Reader.Keeps R (g.moreSegments style) := by
  unfold moreSegments; infer_instance
instance (style : PathStyle) : Reader.Keeps R (g.path style) := by unfold path; infer_instance
instance : Reader.Keeps R seesParenArgs := by unfold seesParenArgs; infer_instance
instance : Reader.Keeps R g.traitPath := by
  unfold traitPath
  refine .bind inferInstance fun path => ?_
  cases path
  infer_instance
instance (style : PathStyle) : Reader.Keeps R (g.qualifiedPath style) := by
  unfold qualifiedPath; infer_instance
instance (attrs : List Attr) : Reader.Keeps R (lifetimeParam attrs) := by
  unfold lifetimeParam; infer_instance
instance (attrs : List Attr) : Reader.Keeps R (g.typeParam attrs) := by
  unfold typeParam; infer_instance
instance (attrs : List Attr) : Reader.Keeps R (g.constParam attrs) := by
  unfold constParam; infer_instance
instance : Reader.Keeps R g.boundParam := by unfold boundParam; infer_instance
instance : Reader.Keeps R g.binder? := by unfold binder?; infer_instance
instance : Reader.Keeps R captures := by unfold captures; infer_instance
instance (rule : BoundRule) : Reader.Keeps R (constMark? rule) := by
  unfold constMark?; infer_instance
instance (rule : BoundRule) (parens : Bool) : Reader.Keeps R (g.traitBound? rule parens) := by
  unfold traitBound?; infer_instance
instance (rule : BoundRule) : Reader.Keeps R (g.readBound rule) := by
  unfold readBound; infer_instance
instance (allowPlus : Bool) (rule : BoundRule) : Reader.Keeps R (g.bounds allowPlus rule) := by
  unfold bounds; infer_instance

/-! ### Types -/

instance (allowPlus : Bool) : Reader.Keeps R (g.objectBounds allowPlus) := by
  unfold objectBounds; infer_instance
instance : Reader.Keeps R g.boundsBehindPlus := by unfold boundsBehindPlus; infer_instance
instance (first : Bound) : Reader.Keeps R (g.objectFrom first) := by
  unfold objectFrom; infer_instance
instance : Reader.Keeps R g.parenContent := by unfold parenContent; infer_instance
instance (allowPlus : Bool) : Reader.Keeps R (g.parenType allowPlus) := by
  unfold parenType
  refine .groupWith fun content => ?_
  cases content with
  | done | maybeBound => infer_instance
  | single ty =>
    refine .bind inferInstance fun _ => .ite ?_ inferInstance
    split <;> infer_instance
instance : Reader.Keeps R abi? := by unfold abi?; infer_instance
instance (binder : Option Binder) : Reader.Keeps R (g.bareFn binder) := by
  unfold bareFn; infer_instance
instance : Reader.Keeps R seesBuiltin := by unfold seesBuiltin; infer_instance
instance : Reader.Keeps R builtin := by unfold builtin; infer_instance
instance (allowPlus : Bool) (binder : Option Binder) :
    Reader.Keeps R (g.pathType allowPlus binder) := by
  unfold pathType
  refine .bind inferInstance fun ty => ?_
  cases ty <;> infer_instance
instance : Reader.Keeps R g.bracketType := by unfold bracketType; infer_instance
instance : Reader.Keeps R g.pointerType := by unfold pointerType; infer_instance
instance : Reader.Keeps R g.referenceType := by unfold referenceType; infer_instance
instance (allowPlus : Bool) : Reader.Keeps R (g.opaqueType allowPlus) := by
  unfold opaqueType; infer_instance
instance (allowPlus : Bool) : Reader.Keeps R (g.dynType allowPlus) := by
  unfold dynType; infer_instance
instance (allowPlus : Bool) : Reader.Keeps R (g.readTy allowPlus) := by
  unfold readTy; infer_instance

/-! ### Patterns -/

instance (allowOld : Bool) : Reader.Keeps R (limits allowOld) := by unfold limits; infer_instance
instance : Reader.Keeps R g.rangeBound := by unfold rangeBound; infer_instance
instance (start : Code) : Reader.Keeps R (g.rangeFrom start) := by unfold rangeFrom; infer_instance
instance : Reader.Keeps R g.alternatives := by unfold alternatives; infer_instance
instance (pos : Pos) (text : String) : Reader.Keeps R (position pos text) := by
  unfold position
  split <;> infer_instance
instance : Reader.Keeps R member := by unfold member; infer_instance
instance : Reader.Keeps R g.pathPattern := by unfold pathPattern; infer_instance
instance : Reader.Keeps R g.identPattern := by unfold identPattern; infer_instance
instance : Reader.Keeps R g.parenPattern := by
  unfold parenPattern
  refine .bind inferInstance fun elems => ?_
  dsimp only
  split <;> infer_instance
instance (p : Code) (before : List Token) : Reader.Keeps R (dotsPos p before) := by
  unfold dotsPos
  refine .bind inferInstance fun tokens => ?_
  dsimp only
  split <;> infer_instance
instance : Reader.Keeps R g.slicePattern := by unfold slicePattern; infer_instance
instance : Reader.Keeps R g.openPattern := by unfold openPattern; infer_instance
instance : Reader.Keeps R seesPathPattern := by unfold seesPathPattern; infer_instance
instance : Reader.Keeps R g.readPattern := by unfold readPattern; infer_instance

/-! ### Expressions -/

instance : Reader.Keeps R binaryOp? := by unfold binaryOp?; infer_instance
instance : Reader.Keeps R seesAssign := by unfold seesAssign; infer_instance
instance : Reader.Keeps R nextPrecedence := by unfold nextPrecedence; infer_instance
instance (braces : BraceRule) (prec : Precedence) :
    Reader.Keeps R (g.rightOperand braces prec) := by
  unfold rightOperand; infer_instance
instance (braces : BraceRule) (limit : String) : Reader.Keeps R (g.rangeEnd braces limit) := by
  unfold rangeEnd; infer_instance
instance : Reader.Keeps R checkCast := by unfold checkCast; infer_instance
instance (braces : BraceRule) (base : Precedence) (start : Code) :
    Reader.Keeps R (g.readOperators braces base start) := by
  unfold readOperators; infer_instance
instance : Reader.Keeps R g.blockParts := by unfold blockParts; infer_instance
instance : Reader.Keeps R g.innerBlock := by unfold innerBlock; infer_instance
instance : Reader.Keeps R g.block := by unfold block; infer_instance
instance : Reader.Keeps R g.callArgs := by unfold callArgs; infer_instance
instance (base : Code) : Reader.Keeps R (g.namedSuffix base) := by
  unfold namedSuffix; infer_instance
instance (base : Code) : Reader.Keeps R (g.dotSuffix base) := by unfold dotSuffix; infer_instance
instance (atom : Code) : Reader.Keeps R (g.suffixes atom) := by unfold suffixes; infer_instance
instance : Reader.Keeps R g.parenExpr := by
  unfold parenExpr
  refine .bind inferInstance fun elems => ?_
  dsimp only
  split <;> infer_instance
instance : Reader.Keeps R g.bracketExpr := by unfold bracketExpr; infer_instance
instance (braces : BraceRule) : Reader.Keeps R (g.pathExpr braces) := by
  unfold pathExpr; infer_instance
instance : Reader.Keeps R g.closureParam := by unfold closureParam; infer_instance
instance (braces : BraceRule) : Reader.Keeps R (g.closure braces) := by
  unfold closure; infer_instance
instance : Reader.Keeps R seesExpr := by unfold seesExpr; infer_instance
instance : Reader.Keeps R g.optionalValue := by unfold optionalValue; infer_instance
instance (braces : BraceRule) : Reader.Keeps R (g.breakExpr braces) := by
  unfold breakExpr; infer_instance
instance : Reader.Keeps R g.ifExpr := by
  unfold ifExpr
  refine .bind inferInstance fun first => .bind inferInstance fun branches => ?_
  dsimp only
  split <;> infer_instance
instance (label : List Part) : Reader.Keeps R (g.loopExpr label) := by
  unfold loopExpr; infer_instance
instance : Reader.Keeps R g.labelledExpr := by unfold labelledExpr; infer_instance
instance : Reader.Keeps R g.matchExpr := by unfold matchExpr; infer_instance
instance (braces : BraceRule) : Reader.Keeps R (g.letExpr braces) := by
  unfold letExpr; infer_instance
instance : Reader.Keeps R seesClosureBinder := by unfold seesClosureBinder; infer_instance
instance : Reader.Keeps R seesClosure := by unfold seesClosure; infer_instance
instance : Reader.Keeps R seesAsyncBlock := by unfold seesAsyncBlock; infer_instance
instance : Reader.Keeps R seesPath := by unfold seesPath; infer_instance
instance (kind : CodeKind) (keyword : String) (body : Reader Code) [Reader.Keeps R body] :
    Reader.Keeps R (keywordBlock kind keyword body) := by
  unfold keywordBlock; infer_instance
instance (braces : BraceRule) : Reader.Keeps R (g.wordExpr? braces) := by
  unfold wordExpr?; infer_instance
instance (braces : BraceRule) : Reader.Keeps R (g.atom braces) := by unfold atom; infer_instance
instance (braces : BraceRule) : Reader.Keeps R (g.readOperand braces) := by
  unfold readOperand; infer_instance
instance (braces : BraceRule) : Reader.Keeps R (g.readExpr braces) := by
  unfold readExpr; infer_instance

/-! ### Signatures -/

instance : Reader.Keeps R g.itemParam := by unfold itemParam; infer_instance
instance : Reader.Keeps R g.genericParams? := by unfold genericParams?; infer_instance
instance : Reader.Keeps R seesGenerics := by unfold seesGenerics; infer_instance
instance : Reader.Keeps R predicatesEnd := by unfold predicatesEnd; infer_instance
instance : Reader.Keeps R g.wherePredicate := by unfold wherePredicate; infer_instance
instance : Reader.Keeps R g.whereClause? := by unfold whereClause?; infer_instance
instance : Reader.Keeps R g.output := by unfold output; infer_instance
instance (allowSafe : Bool) : Reader.Keeps R (g.signature allowSafe) := by
  unfold signature; infer_instance
instance (allowSafe : Bool) : Reader.Keeps R (seesSignature allowSafe) := by
  unfold seesSignature; infer_instance

/-! ### Parts of items -/

instance (ms : List Mark) : Reader.Keeps R (oneOf ms) := by unfold oneOf; infer_instance
instance (before : List Token) : Reader.Keeps R (verbatimSince before) := by
  unfold verbatimSince; infer_instance
instance : Reader.Keeps R g.functionBody := by unfold functionBody; infer_instance
instance (attrs : List Attr) (named : Bool) : Reader.Keeps R (macroItem attrs named) := by
  unfold macroItem; infer_instance
instance (before : List Token) (front : List Part) (needsValue : Bool) :
    Reader.Keeps R (g.constItem before front needsValue) := by
  unfold constItem; infer_instance
instance (allowDefault : Bool) (place : WherePlace) :
    Reader.Keeps R (g.typeEntry allowDefault place) := by
  unfold typeEntry; infer_instance
instance (before : List Token) (attrs : List Attr) : Reader.Keeps R (g.aliasItem before attrs) := by
  unfold aliasItem; infer_instance

/-! ### Structs, enums and unions -/

instance : Reader.Keeps R g.readNamedFields := by unfold readNamedFields; infer_instance
instance : Reader.Keeps R g.unnamedFields := by unfold unnamedFields; infer_instance
instance : Reader.Keeps R g.structRest := by unfold structRest; infer_instance
instance (attrs : List Attr) : Reader.Keeps R (g.structItem attrs) := by
  unfold structItem; infer_instance
instance (attrs : List Attr) : Reader.Keeps R (g.enumItem attrs) := by
  unfold enumItem; infer_instance
instance (attrs : List Attr) : Reader.Keeps R (g.unionItem attrs) := by
  unfold unionItem; infer_instance

/-! ### Foreign blocks -/

instance (attrs : List Attr) : Reader.Keeps R (g.foreignItem attrs) := by
  unfold foreignItem; infer_instance

/-! ### Impl blocks -/

instance (negation : Option Pos) : Reader.Keeps R (g.implTarget negation) := by
  unfold implTarget
  refine .bind inferInstance fun first => .bind inferInstance fun _ => ?_
  split
  · infer_instance
  · split <;> infer_instance
instance : Reader.Keeps R implConst := by unfold implConst; infer_instance
instance {α : Type} {p : Reader ImplTarget} {f : ImplTarget → Reader α} [Reader.Keeps R p]
    [∀ t, Reader.Keeps R (f (.type t))] [∀ t, Reader.Keeps R (f (.trait none t))]
    [∀ path t, Reader.Keeps R (f (.trait (some path) t))] : Reader.Keeps R (p >>= f) :=
  .bind inferInstance fun
    | .type _ => inferInstance
    | .trait none _ => inferInstance
    | .trait (some _) _ => inferInstance

instance (before : List Token) (attrs : List Attr) : Reader.Keeps R (g.implItem before attrs) := by
  unfold implItem; infer_instance

/-! ### Imports -/

instance (depth : Nat) (allowRoot : Bool) : Reader.Keeps R (useTree? allowRoot depth) := by
  induction depth generalizing allowRoot with
  | zero => unfold useTree?; infer_instance
  | succ depth ih => unfold useTree?; infer_instance

instance (before : List Token) (attrs : List Attr) : Reader.Keeps R (useItem before attrs) := by
  unfold useItem; infer_instance
instance (attrs : List Attr) : Reader.Keeps R (externCrate attrs) := by
  unfold externCrate; infer_instance

/-! ### Traits -/

instance (stop : Mark) : Reader.Keeps R (g.supertraits stop) := by
  unfold supertraits; infer_instance
instance (attrs : List Attr) (front : List Part) : Reader.Keeps R (g.traitRest attrs front) := by
  unfold traitRest; infer_instance
instance (attrs : List Attr) (front : List Part) :
    Reader.Keeps R (g.traitAliasRest attrs front) := by
  unfold traitAliasRest; infer_instance
instance (attrs : List Attr) (allowAlias : Bool) :
    Reader.Keeps R (g.traitItem attrs allowAlias) := by
  unfold traitItem; infer_instance

/-! ### Items -/

instance (before : List Token) (attrs : List Attr) :
    Reader.Keeps R (g.staticItem before attrs) := by
  unfold staticItem; infer_instance
instance (attrs : List Attr) : Reader.Keeps R (g.moduleItem attrs) := by
  unfold moduleItem; infer_instance
instance (before : List Token) : Reader.Keeps R (macroDefinition before) := by
  unfold macroDefinition; infer_instance
instance (before : List Token) (attrs : List Attr) :
    Reader.Keeps R (g.functionItem before attrs) := by
  unfold functionItem; infer_instance
instance (attrs : List Attr) (start : List Token) [Known R start] :
    Reader.Keeps R (g.externItem attrs start) := by
  unfold externItem; infer_instance
instance (before : List Token) (attrs : List Attr) (start : List Token) [Known R start] :
    Reader.Keeps R (g.unsafeItem before attrs start) := by
  unfold unsafeItem; infer_instance
instance : Reader.Keeps R g.readItem := by
  unfold readItem
  refine .bind inferInstance fun before => .bind inferInstance fun attrs => ?_
  refine .rest_bind fun start hstart => ?_
  infer_instance

/-! ### The grammar -/

instance : Keeps R exhausted where
  ty _ := inferInstanceAs (Reader.Keeps R (fail _))
  bound _ := inferInstanceAs (Reader.Keeps R (fail _))
  expr _ := inferInstanceAs (Reader.Keeps R (fail _))
  operand _ := inferInstanceAs (Reader.Keeps R (fail _))
  operators _ _ _ := inferInstanceAs (Reader.Keeps R (fail _))
  pattern := inferInstanceAs (Reader.Keeps R (fail _))
  namedFields := inferInstanceAs (Reader.Keeps R (fail _))
  item := inferInstanceAs (Reader.Keeps R (fail _))

instance (inner : Unit → Grammar) [(inner ()).Keeps R] : Keeps R (above inner) where
  ty allowPlus := inferInstanceAs (Reader.Keeps R ((inner ()).readTy allowPlus))
  bound rule := inferInstanceAs (Reader.Keeps R ((inner ()).readBound rule))
  expr braces := inferInstanceAs (Reader.Keeps R ((inner ()).readExpr braces))
  operand braces := inferInstanceAs (Reader.Keeps R ((inner ()).readOperand braces))
  operators braces prec left :=
    inferInstanceAs (Reader.Keeps R ((inner ()).readOperators braces prec left))
  pattern := inferInstanceAs (Reader.Keeps R (inner ()).readPattern)
  namedFields := inferInstanceAs (Reader.Keeps R (inner ()).readNamedFields)
  item := inferInstanceAs (Reader.Keeps R (inner ()).readItem)

instance (depth : Nat) : Keeps R (ofDepth depth) := by
  induction depth with
  | zero => exact inferInstanceAs (Keeps R exhausted)
  | succ depth ih => exact inferInstanceAs (Keeps R (above fun _ => ofDepth depth))

instance (tokens : List Token) : Keeps R (forTokens tokens) := inferInstanceAs (Keeps R (ofDepth _))

end Grammar

end PatternFactory
