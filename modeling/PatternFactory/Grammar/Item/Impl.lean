import PatternFactory.Grammar.Item.Basic

/-!
# Impl blocks

An impl block holds functions, constants, types and macro calls.  A block with a visibility, one
that is marked `const`, and one for a type behind something that is no trait are accepted and kept
as tokens.
-/

namespace PatternFactory

namespace Grammar

open Reader

/-! ### Members -/

/-- A function of an impl block; one without a body is kept as tokens. -/
def implFunction (g : Grammar) (before : List Token) (attrs : List Attr) : Reader ImplMember := do
  let vis ← visibility
  let isDefault ← word? "default"
  let (sig, _) ← g.signature false
  if ← op? ";" then return .other (← verbatimSince before)
  let (inner, statements) ← g.functionBody
  return .fn ⟨attrs ++ inner, vis, isDefault, sig, statements⟩

/-- A member of an impl block. -/
def implMember (g : Grammar) : Reader ImplMember := do
  let before ← rest
  let attrs ← g.outerAttrs
  let start ← rest
  let vis ← visibility
  let isDefault ← do
    if (← seesWord "default") && !(← seesSecond (.op "!")) then word? "default" else pure false
  if (← seesWord "fn") || (← seesSignature false) then
    setRest start
    g.implFunction before attrs
  else if ← seesWord "const" then
    let front := attrs.map Part.attr ++ visParts vis ++ markIf isDefault "default"
    .other <$> g.constItem before front true
  else if ← seesWord "type" then
    setRest start
    .other <$> g.implType before attrs
  else if vis = .inherited && !isDefault && (← seesAny macroPathStarts) then
    .other <$> macroItem attrs false
  else
    expected (markIfNot isDefault ++ [.word "fn", .word "const", .word "type"]
      ++ if vis = .inherited && !isDefault then macroPathStarts else [])
where
  /-- The word `default` may stand only once. -/
  markIfNot (isDefault : Bool) : List Mark := if isDefault then [] else [.word "default"]

/-! ### Blocks -/

/-- What an impl block is for: a type, or a trait and a type; the trait is missing if what stands in
front of `for` is none. -/
inductive ImplTarget where
  | type (selfTy : Ty)
  | trait (path : Option Path) (selfTy : Ty)

/-- What an impl block is for. -/
def implTarget (g : Grammar) (negation : Option Pos) : Reader ImplTarget := do
  let first ← g.ty true
  if ← word? "for" then
    let path : Option Path := match first with
      | .path p => some p
      | _ => none
    return .trait path (← g.ty true)
  match negation with
  | some pos => failAt pos "inherent impls cannot be negative"
  | none => return .type first

/-- The mark `const` or `?const` of an impl block. -/
def implConst : Reader Bool := do
  if (← seesOp "?") && (← seesSecond (.word "const")) then op "?"
  word? "const"

/-- An impl block. -/
def implItem (g : Grammar) (before : List Token) (attrs : List Attr) : Reader Item := do
  let vis ← visibility
  let isDefault ← word? "default"
  let isUnsafe ← word? "unsafe"
  let pos ← word "impl"
  let params ← if ← seesGenerics then g.genericParams? else pure none
  let isConst ← implConst
  let negation ← if (← seesOp "!") && !(← seesSecond (.group .brace)) then some <$> here
    else pure none
  if negation.isSome then op "!"
  let target ← g.implTarget negation
  let predicates ← g.whereClause?
  let (inner, members) ← group .brace do return (← g.innerAttrs, ← manyToEnd g.implMember)
  let block (ofTrait : Option Path) (selfTy : Ty) : ImplItem :=
    { attrs := attrs ++ inner, isDefault, isUnsafe, line := pos.line
      generics := genericsOf params predicates, isNegative := negation.isSome
      ofTrait, selfTy, members }
  if vis ≠ .inherited || isConst then return .other (← verbatimSince before)
  match target with
  | .type selfTy => return .impl (block none selfTy)
  | .trait (some path) selfTy => return .impl (block (some path) selfTy)
  | .trait none _ => return .other (← verbatimSince before)

end Grammar

end PatternFactory
