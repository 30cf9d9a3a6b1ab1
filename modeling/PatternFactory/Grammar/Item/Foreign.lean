import PatternFactory.Grammar.Item.Basic

/-!
# Foreign blocks

A foreign block declares functions, global variables and types that are defined elsewhere.  A member
with a body or a value, or with the qualifier `safe`, is accepted and kept as tokens.
-/

namespace PatternFactory

namespace Grammar

open Reader

/-- A foreign function. -/
def foreignFunction (g : Grammar) (before : List Token) (attrs : List Attr) : Reader Code := do
  let vis ← visibility
  let (sig, isSafe) ← g.signature true
  let hasBody ← sees (.group .brace)
  if hasBody then
    let _ ← g.functionBody
  else op ";"
  if isSafe || hasBody then verbatimSince before
  else
    return .tree .fnItem (attrs.map Part.attr ++ visParts vis ++ sig.parts ++ [.mark ";"])

/-- A foreign variable. -/
def foreignStatic (g : Grammar) (before : List Token) (attrs : List Attr) : Reader Code := do
  let vis ← visibility
  let isUnsafe ← word? "unsafe"
  let isSafe ← if isUnsafe then pure false else word? "safe"
  let _ ← word "static"
  let isMut ← word? "mut"
  let name ← ident
  op ":"
  let ty ← g.ty true
  let hasValue ← op? "="
  if hasValue then
    let _ ← g.expr .allowStruct
  op ";"
  if isUnsafe || isSafe || hasValue then verbatimSince before
  else
    return .tree .staticItem (attrs.map Part.attr ++ visParts vis ++ .mark "static"
      :: markIf isMut "mut" ++ [.word name, .mark ":", .ty ty, .mark ";"])

/-- A member of a foreign block. -/
def foreignMember (g : Grammar) : Reader Code := do
  let before ← rest
  let attrs ← g.outerAttrs
  let start ← rest
  let vis ← visibility
  let restart (p : Reader Code) : Reader Code := do
    setRest start
    p
  if (← seesWord "fn") || (← seesSignature true) then restart (g.foreignFunction before attrs)
  else if (← seesWord "static")
      || ((← seesAny [.word "unsafe", .word "safe"]) && (← seesSecond (.word "static"))) then
    restart (g.foreignStatic before attrs)
  else if ← seesWord "type" then restart (g.foreignType before attrs)
  else if vis = .inherited && (← seesAny macroPathStarts) then macroItem attrs false
  else
    expected ([.word "fn", .word "static", .word "type"]
      ++ if vis = .inherited then macroPathStarts else [])

/-- A foreign block. -/
def foreignItem (g : Grammar) (attrs : List Attr) : Reader Code := do
  let isUnsafe ← word? "unsafe"
  if !(← seesWord "extern") then expected [.word "extern"]
  let abi ← abi?
  let (inner, members) ← group .brace do
    return (← g.innerAttrs, ← manyToEnd g.foreignMember)
  return .tree .foreignItem (attrs.map Part.attr ++ markIf isUnsafe "unsafe"
    ++ (abi.map Part.abi).toList
    ++ [.group .brace (inner.map Part.attr ++ members.map Part.code)])

end Grammar

end PatternFactory
