import PatternFactory.Grammar.Type

/-!
# Generics and signatures

A signature consists of qualifiers, a name, generic parameters, parameters, a return type and a
where clause, in this order.
-/

namespace PatternFactory

namespace Grammar

open Reader

/-! ### Generic parameters and conditions -/

/-- One parameter between the angle brackets of an item. -/
def itemParam (g : Grammar) : Reader GenericParam := do
  let attrs ← g.outerAttrs
  if ← sees .lifetime then return .lifetime (← lifetimeParam attrs)
  else if ← sees .ident then g.typeParam attrs
  else if ← seesWord "const" then g.constParam attrs
  else if ← seesWord "_" then return .type attrs (← anyWord) [] false none
  else expected [.lifetime, .ident, .word "const"]

/-- The generic parameters of an item, if they come next, and whether a comma follows the last. -/
def genericParams? (g : Grammar) : Reader (Option (List GenericParam × Bool)) := do
  if !(← seesOp "<") then return none
  op "<"
  let found ← separated "," (seesOp ">") g.itemParam
  op ">"
  return some found

/-- Do generic parameters come next, and not a type in angle brackets? -/
def seesGenerics : Reader Bool := do
  let named := (← seesSecond .lifetime) || (← seesSecond .ident)
  let behind := (← seesThird (.op ">")) || (← seesThird (.op ",")) || (← seesThird (.op "="))
    || ((← seesThird (.op ":")) && !(← seesThird (.op "::")))
  return (← seesOp "<")
    && ((← seesSecond (.op ">")) || (← seesSecond (.op "#")) || (← seesSecond (.word "const"))
      || (named && behind))

/-- Do the conditions, or the bounds of a condition, end here?  A lone `:` ends them too. -/
def predicatesEnd : Reader Bool := do
  return (← atEnd) || (← seesAny [.group .brace, .op ",", .op ";", .op "="])
    || ((← seesOp ":") && !(← seesOp "::"))

/-- A condition of a where clause. -/
def wherePredicate (g : Grammar) : Reader WherePredicate := do
  if (← sees .lifetime) && (← seesSecond (.op ":")) then
    let name ← lifetime
    op ":"
    let (bounds, trailing) ← joined "+" (return (← predicatesEnd) || (← seesOp ":")) lifetime
    return .lifetime name bounds trailing
  else
    let binder ← g.binder?
    let ty ← g.ty true
    op ":"
    let (bounds, trailing) ← joined "+" predicatesEnd (g.bound ⟨false, true⟩)
    return .type binder ty bounds trailing

/-- A where clause, if it comes next, and whether a comma follows the last condition. -/
def whereClause? (g : Grammar) : Reader (Option (List WherePredicate × Bool)) := do
  if !(← word? "where") then return none
  if ← seesGenerics then
    fail "generic parameters on `where` clauses are reserved for future use"
  some <$> joined "," predicatesEnd g.wherePredicate

/-- Generic parameters and conditions, each of which may be missing. -/
def genericsOf (params : Option (List GenericParam × Bool))
    (predicates : Option (List WherePredicate × Bool)) : Generics :=
  let (params, paramsTrailing) := params.getD ([], false)
  let (predicates, predicatesTrailing) := predicates.getD ([], false)
  ⟨params, paramsTrailing, predicates, predicatesTrailing⟩

/-! ### Parameters -/

/-- The marks of a reference: the ampersand and a lifetime. -/
def referenceParts? : Reader (Option (List Part)) := do
  if ← op? "&" then
    return some (.mark "&" :: ((← lifetime?).map Part.lifetime).toList)
  else return none

/-- A receiver behind its attributes, and the place of `self`.  A reference has no type written
behind it. -/
def receiver (g : Grammar) (attrs : List Attr) : Reader (Code × Pos) := do
  let reference ← referenceParts?
  let isMut ← word? "mut"
  let pos ← word "self"
  let typed ← if reference.isSome then pure []
    else if ← op? ":" then (return [Part.mark ":", .ty (← g.ty true)])
    else pure []
  return (.tree .receiver (attrs.map Part.attr ++ reference.getD [] ++ markIf isMut "mut"
    ++ .mark "self" :: typed), pos)

/-- What may stand between the parentheses of a function. -/
inductive ParamEntry where
  | receiver (code : Code) (pos : Pos)
  | typed (pat : Code) (ty : Ty)
  | variadic (name : List Part)

/-- One parameter behind its attributes. -/
def paramEntry (g : Grammar) (attrs : List Attr) : Reader ParamEntry := do
  if ← op? "..." then return .variadic []
  if let some (code, pos) ← attempt (g.receiver attrs) then return .receiver code pos
  if (← sees .ident) && (← seesSecond (.op "<")) then
    return .typed (.tree .patWild [.mark "_"]) (← g.ty true)
  let pat ← g.pattern
  op ":"
  if ← op? "..." then return .variadic [.code pat, .mark ":"]
  return .typed pat (← g.ty true)

/-- The parameters of a function. -/
structure ParamList where
  params : List FnParam
  trailing : Bool
  variadic : Option Code

/-- The parameters of a function.  A receiver stands first, and the dots of an open end last. -/
def params (g : Grammar) : Reader ParamList := do
  let (found, _) ← iterate (fun (acc, go) => do
    if !go || (← atEnd) then return none
    let attrs ← g.outerAttrs
    match ← g.paramEntry attrs with
    | .variadic name =>
      let comma ← if ← atEnd then pure false else
        op ","
        pure true
      let code := Code.tree .variadic
        (attrs.map Part.attr ++ name ++ .mark "..." :: markIf comma ",")
      return some ({ acc with variadic := some code }, false)
    | .receiver code pos =>
      if acc.params.any (· matches .receiver _) then
        failAt pos "unexpected second method receiver"
      if !acc.params.isEmpty then failAt pos "unexpected method receiver"
      nextParam acc (.receiver code)
    | .typed pat ty => nextParam acc (.typed attrs pat ty)) ((⟨[], false, none⟩ : ParamList), true)
  return found
where
  /-- Goes on behind a parameter. -/
  nextParam (acc : ParamList) (p : FnParam) : Reader (Option (ParamList × Bool)) := do
    let longer := acc.params ++ [p]
    if ← atEnd then return some ({ acc with params := longer, trailing := false }, false)
    op ","
    return some ({ acc with params := longer, trailing := true }, true)

/-! ### Signatures -/

/-- The return type of a function. -/
def output (g : Grammar) : Reader (Option Ty) := do
  if ← op? "->" then some <$> g.ty true else return none

/-- A signature, and whether it has the qualifier `safe`, which `allowSafe` admits in place of
`unsafe`. -/
def signature (g : Grammar) (allowSafe : Bool) : Reader (Signature × Bool) := do
  let isConst ← word? "const"
  let isAsync ← word? "async"
  let isSafe ← if allowSafe then word? "safe" else pure false
  let isUnsafe ← if isSafe then pure false else word? "unsafe"
  let abi ← abi?
  let _ ← word "fn"
  let pos ← here
  let name ← ident
  let generics ← g.genericParams?
  groupWith .paren g.params fun list => do
    let output ← g.output
    let predicates ← g.whereClause?
    let sig : Signature :=
      { isConst, isAsync, isUnsafe, abi, name, line := pos.line
        generics := genericsOf generics predicates
        params := list.params, trailing := list.trailing, variadic := list.variadic, output }
    return (sig, isSafe)

/-- Does a signature come next?  `allowSafe` admits the qualifier `safe`. -/
def seesSignature (allowSafe : Bool) : Reader Bool := do
  let found ← ahead do
    let _ ← word? "const"
    let _ ← word? "async"
    let safe ← if allowSafe then word? "safe" else pure false
    if !safe then
      let _ ← word? "unsafe"
    let _ ← abi?
    seesWord "fn"
  return found == some true

end Grammar

end PatternFactory
