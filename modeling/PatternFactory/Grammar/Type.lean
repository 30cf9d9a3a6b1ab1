import PatternFactory.Grammar.Path

/-!
# Types

A type is recognised by its first token.  Where bounds may be joined by `+`, a path or a
parenthesized trait that is followed by `+` begins a trait object.
-/

namespace PatternFactory

namespace Grammar

open Reader

/-- The bounds of trait objects: traits and lifetimes only. -/
def objectRule : BoundRule := ⟨false, false⟩

/-- Is the bound a trait? -/
def isTraitBound : Bound → Bool
  | .trait .. => true
  | .verbatim _ => true
  | _ => false

/-- The bounds of a trait object, of which one has to be a trait. -/
def objectBounds (g : Grammar) (allowPlus : Bool) : Reader (List Bound × Bool) := do
  let pos ← here
  let found ← g.bounds allowPlus objectRule
  if !found.1.any isTraitBound then
    failAt pos "at least one trait is required for an object type"
  return found

/-- Further bounds, each behind a `+`. -/
def boundsBehindPlus (g : Grammar) : Reader (List Bound) :=
  many do if ← op? "+" then some <$> g.bound objectRule else return none

/-- A trait object that begins with a bound which is read; another bound is expected behind each
`+`, except at a token that begins none. -/
def objectFrom (g : Grammar) (first : Bound) : Reader Ty := do
  let (found, trailing, _) ← iterate (fun (acc, _, go) => do
    if !go then return none
    if ← op? "+" then
      if ← seesAny (boundStarts objectRule) then
        return some (acc ++ [← g.bound objectRule], false, true)
      else return some (acc, true, false)
    else return none) ([first], false, true)
  return .traitObject false found trailing

/-- The bound that a parenthesized type stands for in front of a `+`. -/
def parenthesizedBound? : Ty → Option Bound
  | .path p => some (.trait true false none p)
  | .traitObject false [.trait _ isMaybe binder path] false =>
    some (.trait true isMaybe binder path)
  | .traitObject false [other] false => some other
  | _ => none

/-- The inside of a parenthesized type. -/
inductive ParenContent where
  | done (ty : Ty)
  | maybeBound (bound : Bound)
  | single (ty : Ty)

/-- A tuple, a trait bound that begins with `?`, or a single type. -/
def parenContent (g : Grammar) : Reader ParenContent := do
  if ← atEnd then return .done (.tuple [] false)
  if ← sees .lifetime then
    let (bounds, trailing) ← g.objectBounds true
    return .done (.paren (.traitObject false bounds trailing))
  if ← seesOp "?" then
    match ← g.traitBound? objectRule true with
    | some b => return .maybeBound b
    | none => expectedAll []
  let first ← g.ty true
  if ← op? "," then
    let (more, trailing) ← commaList (g.ty true)
    return .done (.tuple (first :: more) (more.isEmpty || trailing))
  else return .single first

/-- A type in parentheses. -/
def parenType (g : Grammar) (allowPlus : Bool) : Reader Ty :=
  groupWith .paren g.parenContent fun
  | .done ty => return ty
  | .maybeBound b => do
    return .traitObject false (b :: (← g.boundsBehindPlus)) false
  | .single ty => do
    if allowPlus && (← seesOp "+") then
      match parenthesizedBound? ty with
      | some b => return .traitObject false (b :: (← g.boundsBehindPlus)) false
      | none => return .paren ty
    else return .paren ty

/-! ### Function types -/

/-- The calling convention, if one is given. -/
def abi? : Reader (Option Abi) := do
  if !(← word? "extern") then return none
  if ← sees .stringLiteral then return some ⟨some (← stringLiteral)⟩ else return some ⟨none⟩

/-- A parameter of a function type; a receiver, which only the first may be, is kept as tokens. -/
def bareArg (g : Grammar) (attrs : List Attr) (allowSelf : Bool) : Reader BareArg := do
  let before ← rest
  let mutSelf := allowSelf && (← seesWord "mut") && (← seesSecond (.word "self"))
  if mutSelf then
    let _ ← word "mut"
  let isSelf := allowSelf && (← seesWord "self")
  let named := ((← seesAny [.ident, .word "_"]) || isSelf)
    && (← seesSecond (.op ":")) && !(← seesSecond (.op "::"))
  let name ← if named then
      let name ← anyWord
      op ":"
      pure (some name)
    else pure none
  let bareMutSelf := allowSelf && !(named && isSelf) && (← seesWord "mut")
    && (← seesSecond (.word "self"))
  let ty? ← if bareMutSelf then
      let _ ← word "mut"
      let _ ← word "self"
      pure none
    else if mutSelf && name.isNone then
      let _ ← word "self"
      pure none
    else some <$> g.ty true
  match ty? with
  | some ty =>
    if mutSelf then return .mk attrs none (.verbatim (← tokensSince before))
    else return .mk attrs name ty
  | none => return .mk attrs none (.verbatim (← tokensSince before))

/-- The dots that leave the parameters of a function type open. -/
def bareVariadic (attrs : List Attr) : Reader BareVariadic := do
  let name ← if ← seesAny [.ident, .word "_"] then
      let name ← anyWord
      op ":"
      pure (some name)
    else pure none
  op "..."
  let comma ← op? ","
  return ⟨attrs, name, comma⟩

/-- Do the dots of a variadic function type come next? -/
def seesVariadic : Reader Bool := do
  return (← seesOp "...") || ((← seesAny [.ident, .word "_"]) && (← seesSecond (.op ":"))
    && (← seesThird (.op "...")))

/-- The parameters of a function type. -/
def bareArgs (g : Grammar) : Reader (List BareArg × Bool × Option BareVariadic) := do
  let (args, trailing, variadic, _) ← iterate (fun (acc, trailing, _, go) => do
    if !go || (← atEnd) then return none
    let attrs ← g.outerAttrs
    if (acc.isEmpty || trailing) && (← seesVariadic) then
      return some (acc, trailing, some (← bareVariadic attrs), false)
    let arg ← g.bareArg attrs acc.isEmpty
    if ← atEnd then return some (acc ++ [arg], false, none, false)
    op ","
    return some (acc ++ [arg], true, none, true)) (([] : List BareArg), false, none, true)
  return (args, trailing, variadic)

/-- A function type whose binder is read. -/
def bareFn (g : Grammar) (binder : Option Binder) : Reader Ty := do
  let isUnsafe ← word? "unsafe"
  let abi ← abi?
  let _ ← word "fn"
  groupWith .paren g.bareArgs fun (inputs, trailing, variadic) => do
    return .bareFn binder isUnsafe abi inputs trailing variadic (← g.plainOutput)

/-- Does a construct of the compiler's own come next? -/
def seesBuiltin : Reader Bool := return (← seesWord "builtin") && (← seesSecond (.op "#"))

/-- A construct of the compiler's own: a name with tokens in parentheses. -/
def builtin : Reader Unit := do
  let _ ← word "builtin"
  op "#"
  let _ ← ident
  let _ ← group .paren remaining

/-! ### The other types -/

/-- A type that begins with a path: a macro call, a trait object, or the path alone. -/
def pathType (g : Grammar) (allowPlus : Bool) (binder : Option Binder) : Reader Ty := do
  match ← g.qualifiedPath .type with
  | .path p =>
    if (← seesOp "!") && !(← seesOp "!=") && p.simple?.isSome then
      op "!"
      let (delim, _, body) ← anyGroup
      return .macroCall (p.simple?.getD ⟨false, []⟩) delim body
    else if binder.isSome || (allowPlus && (← seesOp "+")) then
      let first := Bound.trait false false binder p
      if allowPlus then g.objectFrom first else return .traitObject false [first] false
    else return .path p
  | ty => return ty

/-- An array or a slice. -/
def bracketType (g : Grammar) : Reader Ty :=
  group .bracket do
    let elem ← g.ty true
    if ← op? ";" then return .array elem (← g.expr .allowStruct) else return .slice elem

/-- A pointer. -/
def pointerType (g : Grammar) : Reader Ty := do
  op "*"
  if ← word? "const" then return .ptr false (← g.ty false)
  else if ← word? "mut" then return .ptr true (← g.ty false)
  else expected [.word "const", .word "mut"]

/-- A reference. -/
def referenceType (g : Grammar) : Reader Ty := do
  op "&"
  let lifetime ← lifetime?
  let isMut ← word? "mut"
  return .reference lifetime isMut (← g.ty false)

/-- An opaque type. -/
def opaqueType (g : Grammar) (allowPlus : Bool) : Reader Ty := do
  let pos ← word "impl"
  let (bounds, trailing) ← g.bounds allowPlus ⟨true, true⟩
  if !bounds.any isTraitBound then failAt pos "at least one trait must be specified"
  return .implTrait bounds trailing

/-- A trait object with the word `dyn`. -/
def dynType (g : Grammar) (allowPlus : Bool) : Reader Ty := do
  let before ← rest
  let pos ← word "dyn"
  let star ← op? "*"
  let (bounds, trailing) ← g.bounds allowPlus objectRule
  if !bounds.any isTraitBound then
    failAt pos "at least one trait is required for an object type"
  if star then return .verbatim (← tokensSince before)
  else return .traitObject true bounds trailing

/-- The marks with which a type behind a binder may begin. -/
def boundTypeStarts : List Mark :=
  [.ident, .word "fn", .word "unsafe", .word "extern", .word "super", .word "self", .word "Self",
    .word "crate"]

/-- The marks with which a type may begin. -/
def typeStarts : List Mark :=
  [.word "for", .group .paren, .word "fn", .word "unsafe", .word "extern", .ident, .op "::",
    .op "<", .word "dyn", .group .bracket, .op "*", .op "&", .op "!", .word "impl", .word "_",
    .lifetime]

/-- A type. -/
def readTy (g : Grammar) (allowPlus : Bool) : Reader Ty := do
  let before ← rest
  let binder ← g.binder?
  if binder.isSome && (!(← seesAny boundTypeStarts) || (← seesWord "dyn")) then
    expected boundTypeStarts
  if ← sees (.group .paren) then g.parenType allowPlus
  else if ← seesAny [.word "fn", .word "unsafe", .word "extern"] then g.bareFn binder
  else if ← seesBuiltin then
    builtin
    return .verbatim (← tokensSince before)
  else if ← seesAny [.ident, .word "super", .word "self", .word "Self", .word "crate", .op "::",
      .op "<"] then g.pathType allowPlus binder
  else if ← seesWord "dyn" then g.dynType allowPlus
  else if ← sees (.group .bracket) then g.bracketType
  else if ← seesOp "*" then g.pointerType
  else if ← seesOp "&" then g.referenceType
  else if (← seesOp "!") && !(← seesOp "=") then
    op "!"
    return .never
  else if ← seesWord "impl" then g.opaqueType allowPlus
  else if ← word? "_" then return .infer
  else if ← sees .lifetime then
    let (bounds, trailing) ← g.objectBounds true
    return .traitObject false bounds trailing
  else expected typeStarts

end Grammar

end PatternFactory
