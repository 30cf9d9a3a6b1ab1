import PatternFactory.Grammar.Attribute

/-!
# Paths and generic parameters

In a type the generic arguments follow the name directly; in an expression, where `<` compares,
they need the turbofish `::<`.
-/

namespace PatternFactory

/-- Where a path stands. -/
inductive PathStyle where
  | type
  | expr
  deriving DecidableEq

namespace Path

/-- The path as plain words, if it has no arguments. -/
def simple? (p : Path) : Option SimplePath := do
  let words ← p.segments.mapM fun
    | .mk name .none => some name
    | _ => none
  return ⟨p.leading, words⟩

/-- The single segment of a path that has only one and does not begin with `::`. -/
def single? : Path → Option Segment
  | .mk false [s] => some s
  | _ => none

end Path

namespace Args

/-- Are there no arguments, be it in empty angle brackets? -/
def isEmpty : Args → Bool
  | none => true
  | angle _ args _ => args.isEmpty
  | paren .. => false

end Args

namespace Grammar

open Reader

/-! ### Generic arguments -/

/-- A block as a generic argument. -/
def blockArgument (g : Grammar) : Reader Code := do
  let parts ← group .brace do return (← g.innerAttrs).map Part.attr ++ (← g.statements)
  return .tree .block [.group .brace parts]

/-- A constant as a generic argument: a literal, a name or a block. -/
def constArgument (g : Grammar) : Reader Code := do
  if ← sees .literal then return .tree .literal [.literal (← literal)]
  else if ← sees .ident then
    return .tree .path [.path (.mk false [.mk (← ident) .none])]
  else if ← sees (.group .brace) then g.blockArgument
  else expectedAll []

/-- The return type behind the inputs of a function trait or a function type. -/
def plainOutput (g : Grammar) : Reader (Option Ty) := do
  if ← op? "->" then some <$> g.ty false else return none

/-- Parenthesized arguments, as function traits have them. -/
def parenArgs (g : Grammar) : Reader Args := do
  let (inputs, trailing) ← group .paren (commaList (g.ty true))
  return .paren inputs trailing (← g.plainOutput)

/-- One generic argument.  A single name followed by `=` or `:` is an associated item. -/
def genericArg (g : Grammar) : Reader GenericArg := do
  if (← sees .lifetime) && !(← seesSecond (.op "+")) then return .lifetime (← lifetime)
  if ← seesAny [.literal, .group .brace] then return .const (← g.constArgument)
  let ty ← g.ty true
  match ty with
  | .path p =>
    match p.single? with
    | some (.mk _ (.paren ..)) => return .type ty
    | some (.mk name args) =>
      if ← op? "=" then
        if ← seesAny [.literal, .group .brace] then
          return .assocConst name args (← g.constArgument)
        else return .assocType name args (← g.ty true)
      else if ← op? ":" then
        let (bounds, trailing) ← joined "+" (seesAny [.op ",", .op ">"]) (g.bound ⟨false, true⟩)
        return .constraint name args bounds trailing
      else return .type ty
    | none => return .type ty
  | _ => return .type ty

/-- Arguments in angle brackets. -/
def angleArgs (g : Grammar) (turbofish : Bool) : Reader Args := do
  op "<"
  let (args, trailing) ← separated "," (seesOp ">") g.genericArg
  op ">"
  return .angle turbofish args trailing

/-! ### Paths -/

/-- One segment of a path. -/
def segment (g : Grammar) (style : PathStyle) : Reader Segment := do
  if ← seesAny [.word "super", .word "self", .word "crate", .word "try"] then
    return .mk (← anyWord) .none
  let name ← if ← seesWord "Self" then anyWord else ident
  if style == .type && (← seesOp "<") && !(← seesOp "<=") then
    return .mk name (← g.angleArgs false)
  else if (← seesOp "::") && (← seesThird (.op "<")) then
    op "::"
    return .mk name (← g.angleArgs true)
  else return .mk name .none

/-- The segments behind a first one, each behind `::`. -/
def moreSegments (g : Grammar) (style : PathStyle) : Reader (List Segment) :=
  many do
    if (← seesOp "::") && !(← seesThird (.group .paren)) then
      op "::"
      some <$> g.segment style
    else return none

/-- A path. -/
def path (g : Grammar) (style : PathStyle) : Reader Path := do
  let leading ← op? "::"
  let first ← g.segment style
  return .mk leading (first :: (← g.moreSegments style))

/-- Does a group of parenthesized arguments follow, be it behind `::`? -/
def seesParenArgs : Reader Bool := do
  return (← sees (.group .paren)) || ((← seesOp "::") && (← seesThird (.group .paren)))

/-- Replaces the arguments of the last segment. -/
def setLastArgs (args : Args) : List Segment → List Segment
  | [] => []
  | [.mk name _] => [.mk name args]
  | s :: rest => s :: setLastArgs args rest

/-- Has the last segment no arguments? -/
def lastArgsEmpty (segments : List Segment) : Bool :=
  match segments.getLast? with
  | some s => s.args.isEmpty
  | none => false

/-- The path of a trait in a bound, with the arguments of a function trait. -/
def traitPath (g : Grammar) : Reader Path := do
  let .mk leading segments ← g.path .type
  if lastArgsEmpty segments && (← seesParenArgs) then
    let _ ← op? "::"
    return .mk leading (setLastArgs (← g.parenArgs) segments)
  else return .mk leading segments

/-- A path that may begin with a type in angle brackets, `<T as Trait>::name`. -/
def qualifiedPath (g : Grammar) (style : PathStyle) : Reader Ty := do
  if ← op? "<" then
    let self ← g.ty true
    let asTrait ← if ← word? "as" then some <$> g.path .type else pure none
    op ">"
    op "::"
    let (segments, _) ← joined "::" (pure false) (g.segment style)
    return .qualified self asTrait segments
  else return .path (← g.path style)

/-! ### Generic parameters -/

/-- A lifetime parameter whose attributes are read. -/
def lifetimeParam (attrs : List Attr) : Reader LifetimeParam := do
  let name ← lifetime
  let (bounds, trailing) ← if ← op? ":" then
      joined "+" (return (← atEnd) || (← seesAny [.op ",", .op ">"])) lifetime
    else pure ([], false)
  return ⟨attrs, name, bounds, trailing⟩

/-- A type parameter whose attributes are read. -/
def typeParam (g : Grammar) (attrs : List Attr) : Reader GenericParam := do
  let name ← ident
  let (bounds, trailing) ← if ← op? ":" then
      joined "+" (return (← atEnd) || (← seesAny [.op ",", .op ">", .op "="]))
        (g.bound ⟨false, true⟩)
    else pure ([], false)
  let default ← if ← op? "=" then some <$> g.ty true else pure none
  return .type attrs name bounds trailing default

/-- A constant parameter whose attributes are read. -/
def constParam (g : Grammar) (attrs : List Attr) : Reader GenericParam := do
  let _ ← word "const"
  let name ← ident
  op ":"
  let ty ← g.ty true
  let default ← if ← op? "=" then some <$> g.constArgument else pure none
  return .const attrs name ty default

/-- A generic parameter behind `for`. -/
def boundParam (g : Grammar) : Reader GenericParam := do
  let attrs ← g.outerAttrs
  if ← sees .ident then g.typeParam attrs
  else if ← sees .lifetime then return .lifetime (← lifetimeParam attrs)
  else if ← seesWord "const" then g.constParam attrs
  else expected [.ident, .lifetime, .word "const"]

/-- What `for<…>` introduces, if it comes next. -/
def binder? (g : Grammar) : Reader (Option Binder) := do
  if !(← word? "for") then return none
  op "<"
  let (params, trailing) ← separated "," (seesOp ">") g.boundParam
  op ">"
  return some (.mk params trailing)

/-! ### Bounds -/

/-- The captured parameters of an opaque type, behind `use`. -/
def captures : Reader Bound := do
  op "<"
  let (params, trailing, _) ← iterate (fun (acc, _, done) => do
    if done then return none
    if ← seesOp ">" then return none
    let param ←
      if ← sees .lifetime then (return "'" ++ (← lifetime))
      else if ← seesAny [.ident, .word "Self"] then anyWord
      else expected [.lifetime, .ident, .op ">"]
    if ← op? "," then return some (acc ++ [param], true, false)
    if ← seesOp ">" then return some (acc ++ [param], false, true)
    expected [.op ",", .op ">"]) (([] : List String), false, false)
  op ">"
  return .captures params trailing

/-- The mark `const` or `[const]` in front of a trait, if it comes next. -/
def constMark? (rule : BoundRule) : Reader Bool := do
  let pos ← here
  if ← sees (.group .bracket) then
    group .bracket do let _ ← word "const"
    if !rule.const then failAt pos "`[const]` is not allowed here"
    return true
  else if ← word? "const" then
    if !rule.const then failAt pos "`const` is not allowed here"
    return true
  else return false

/-- The inside of a trait bound; none if the trait is marked `const`. -/
def traitBound? (g : Grammar) (rule : BoundRule) (parens : Bool) : Reader (Option Bound) := do
  let outer ← g.binder?
  let isConst ← constMark? rule
  let pos ← here
  let isMaybe ← op? "?"
  let inner ← if isMaybe && outer.isNone then g.binder? else pure none
  let path ← g.traitPath
  if isMaybe && (outer.isSome || inner.isSome) then
    failAt pos "`for<...>` binder not allowed with `?` trait polarity modifier"
  return if isConst then none else some (.trait parens isMaybe (outer <|> inner) path)

/-- One bound.  A trait marked `const` is kept as tokens. -/
def readBound (g : Grammar) (rule : BoundRule) : Reader Bound := do
  if ← sees .lifetime then return .lifetime (← lifetime)
  if ← seesWord "use" then
    let pos ← word "use"
    let bound ← captures
    if !rule.captures then failAt pos "`use<...>` precise capturing syntax is not allowed here"
    return bound
  let before ← rest
  let found ←
    if ← sees (.group .paren) then group .paren (g.traitBound? rule true)
    else g.traitBound? rule false
  match found with
  | some bound => return bound
  | none => return .verbatim (← tokensSince before)

/-- The marks with one of which another bound may begin behind a `+`. -/
def boundStarts (rule : BoundRule) : List Mark :=
  [.anyIdent, .op "::", .op "?", .lifetime, .group .paren]
    ++ if rule.const then [.group .bracket, .word "const"] else []

/-- Bounds joined by `+`, at least one; `allowPlus` says whether there may be several. -/
def bounds (g : Grammar) (allowPlus : Bool) (rule : BoundRule) : Reader (List Bound × Bool) := do
  let (found, trailing, _) ← iterate (fun (acc, _, go) => do
    if !go then return none
    let b ← g.bound rule
    if allowPlus && (← seesOp "+") then
      op "+"
      return some (acc ++ [b], true, ← seesAny (boundStarts rule))
    else return some (acc ++ [b], false, false)) (([] : List Bound), false, true)
  return (found, trailing)

end Grammar

end PatternFactory
