import PatternFactory.Grammar.Item.Data
import PatternFactory.Grammar.Item.Foreign
import PatternFactory.Grammar.Item.Impl
import PatternFactory.Grammar.Item.Import
import PatternFactory.Grammar.Item.Trait

/-!
# Items

The first word behind attributes and visibility decides the kind of an item.  A few forms that are
accepted and have no meaning, such as a function without a body, are kept as tokens.
-/

namespace PatternFactory

namespace Grammar

open Reader

/-- A global variable; one without a type or without a value is kept as tokens. -/
def staticItem (g : Grammar) (before : List Token) (attrs : List Attr) : Reader Code := do
  let vis ← visibility
  let _ ← word "static"
  let isMut ← word? "mut"
  let name ← ident
  if ← op? "=" then
    let _ ← g.expr .allowStruct
    op ";"
    return ← verbatimSince before
  op ":"
  let ty ← g.ty true
  if ← op? ";" then return ← verbatimSince before
  op "="
  let value ← g.expr .allowStruct
  op ";"
  return .tree .staticItem (attrs.map Part.attr ++ visParts vis ++ .mark "static"
    :: markIf isMut "mut"
    ++ [.word name, .mark ":", .ty ty, .mark "=", .code value, .mark ";"])

/-- A module. -/
def moduleItem (g : Grammar) (attrs : List Attr) : Reader Item := do
  let vis ← visibility
  let isUnsafe ← word? "unsafe"
  let pos ← word "mod"
  let name ← if ← seesWord "try" then anyWord else ident
  if ← op? ";" then return .moduleFile ⟨attrs, vis, isUnsafe, pos.line, name⟩
  else if ← sees (.group .brace) then
    let (inner, content) ← group .brace do return (← g.innerAttrs, ← manyToEnd g.item)
    return .module ⟨attrs ++ inner, vis, isUnsafe, pos.line, name⟩ content
  else expected [.op ";", .group .brace]

/-- A macro that is defined by its parameters and its body. -/
def macroDefinition (before : List Token) : Reader Code := do
  let _ ← word "macro"
  let _ ← ident
  let hasParams ← sees (.group .paren)
  if hasParams then
    let _ ← group .paren remaining
  if ← sees (.group .brace) then
    let _ ← group .brace remaining
    verbatimSince before
  else if hasParams then expected [.group .brace]
  else expected [.group .paren, .group .brace]

/-- A function; one without a body is kept as tokens. -/
def functionItem (g : Grammar) (before : List Token) (attrs : List Attr) : Reader Item := do
  let vis ← visibility
  let (sig, _) ← g.signature false
  if ← op? ";" then return .other (← verbatimSince before)
  let (inner, statements) ← g.functionBody
  return .fn ⟨attrs ++ inner, vis, false, sig, statements⟩

/-- What `extern` begins, apart from a function.  The reader stands behind the visibility, and
`start` is what stood in front of it. -/
def externItem (g : Grammar) (attrs : List Attr) (start : List Token) : Reader Code := do
  let _ ← word "extern"
  if ← seesWord "crate" then
    setRest start
    externCrate attrs
  else if ← sees (.group .brace) then
    setRest start
    g.foreignItem attrs
  else if ← sees .stringLiteral then
    let _ ← stringLiteral
    if ← sees (.group .brace) then
      setRest start
      g.foreignItem attrs
    else expected [.group .brace]
  else expected [.word "crate", .group .brace, .stringLiteral]

/-- What `unsafe` begins, apart from a function.  The reader stands behind the visibility, and
`start` is what stood in front of it. -/
def unsafeItem (g : Grammar) (before : List Token) (attrs : List Attr) (start : List Token) :
    Reader Item := do
  let _ ← word "unsafe"
  if (← seesWord "trait") || ((← seesWord "auto") && (← seesSecond (.word "trait"))) then
    setRest start
    g.traitItem attrs false
  else if ← seesWord "impl" then
    setRest start
    g.implItem before attrs
  else if ← seesWord "extern" then
    setRest start
    .other <$> g.foreignItem attrs
  else if ← seesWord "mod" then
    setRest start
    g.moduleItem attrs
  else expected [.word "trait", .word "auto", .word "impl", .word "extern", .word "mod"]

/-- The words with which an item may begin behind its visibility. -/
def itemWords : List Mark :=
  ["fn", "extern", "use", "static", "const", "unsafe", "mod", "type", "struct", "enum", "union",
    "trait", "auto", "impl", "default", "macro"].map Mark.word

/-- An item. -/
def readItem (g : Grammar) : Reader Item := do
  let before ← rest
  let attrs ← g.outerAttrs
  let start ← rest
  let vis ← visibility
  let restart (p : Reader Item) : Reader Item := do
    setRest start
    p
  let other (p : Reader Code) : Reader Item := Item.other <$> p
  if (← seesWord "fn") || (← seesSignature false) then restart (g.functionItem before attrs)
  else if ← seesWord "extern" then other (g.externItem attrs start)
  else if ← seesWord "use" then restart (other (useItem before attrs))
  else if ← seesWord "static" then restart (other (g.staticItem before attrs))
  else if ← seesWord "const" then
    other (g.constItem before (attrs.map Part.attr ++ visParts vis) true)
  else if ← seesWord "unsafe" then g.unsafeItem before attrs start
  else if ← seesWord "mod" then restart (g.moduleItem attrs)
  else if ← seesWord "type" then restart (other (g.aliasItem before attrs))
  else if ← seesWord "struct" then restart (g.structItem attrs)
  else if ← seesWord "enum" then restart (g.enumItem attrs)
  else if (← seesWord "union") && (← seesSecond .ident) then restart (g.unionItem attrs)
  else if ← seesWord "trait" then restart (g.traitItem attrs true)
  else if (← seesWord "auto") && (← seesSecond (.word "trait")) then
    restart (g.traitItem attrs false)
  else if (← seesWord "impl") || ((← seesWord "default") && !(← seesSecond (.op "!"))) then
    restart (g.implItem before attrs)
  else if ← seesWord "macro" then other (macroDefinition before)
  else if vis = .inherited && (← seesAny macroPathStarts) then other (macroItem attrs true)
  else expected (itemWords ++ if vis = .inherited then macroPathStarts else [])

end Grammar

end PatternFactory
