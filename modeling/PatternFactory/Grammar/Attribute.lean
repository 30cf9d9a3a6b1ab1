import PatternFactory.Grammar.Basic

/-!
# Attributes and visibilities

An attribute is a path, a path with a group of arbitrary tokens, or a path with a value.  Its path
consists of plain words.
-/

namespace PatternFactory

namespace Grammar

open Reader

/-- The words of a path that are no identifiers and yet may stand in it. -/
def pathWords : List Mark := [.ident, .word "super", .word "self", .word "Self", .word "crate"]

/-- A path of plain words. -/
def simplePath : Reader SimplePath := do
  let leading ← op? "::"
  let (words, trailing) ← joined "::" (return !(← seesAny pathWords)) anyWord
  if words.isEmpty then
    let _ ← ident
  if trailing then fail "expected path segment after `::`"
  return ⟨leading, words⟩

/-- The path of an attribute, which may also be the word `unsafe`. -/
def attributePath : Reader SimplePath := do
  if ← word? "unsafe" then return ⟨false, ["unsafe"]⟩ else simplePath

/-- The value of an attribute: a lone literal, or an expression. -/
def attributeValue (g : Grammar) : Reader Code := do
  let lone ← attempt do
    let text ← literal
    if ← atEnd then return text else fail "expected end"
  match lone with
  | some text => return .tree .literal [.literal text]
  | none =>
    if (← seesOp "#") && (← seesSecond (.group .bracket)) then
      fail "unexpected attribute inside of attribute"
    else g.expr .allowStruct

/-- The content of an attribute. -/
def attributeContent (g : Grammar) : Reader Meta := do
  let path ← attributePath
  if ← seesAny [.group .paren, .group .bracket, .group .brace] then
    let (delim, closing, body) ← anyGroup
    return .list path delim closing body
  else if (← seesOp "=") && !(← seesOp "==") && !(← seesOp "=>") then
    op "="
    return .nameValue path (← g.attributeValue)
  else return .path path

/-- An attribute in front of something. -/
def outerAttr (g : Grammar) : Reader Attr := do
  let pos ← here
  op "#"
  return ⟨false, ← group .bracket g.attributeContent, pos⟩

/-- An attribute inside of something. -/
def innerAttr (g : Grammar) : Reader Attr := do
  let pos ← here
  op "#"
  op "!"
  return ⟨true, ← group .bracket g.attributeContent, pos⟩

/-- All attributes in front of something. -/
def outerAttrs (g : Grammar) : Reader (List Attr) :=
  many do if ← seesOp "#" then some <$> g.outerAttr else return none

/-- All attributes at the beginning of the inside of something. -/
def innerAttrs (g : Grammar) : Reader (List Attr) :=
  many do
    if (← seesOp "#") && (← seesSecond (.op "!")) then some <$> g.innerAttr else return none

/-- Does one of the marks stand first in the parentheses that come next? -/
def parensBeginWith (ms : List Mark) : Reader Bool := do
  return (← ahead (group .paren (seesAny ms))) == some true

/-- The restriction in parentheses behind `pub`.  Without `in` it is a single word; longer
parentheses belong to what follows the visibility. -/
def restriction : Reader (Option Visibility) := do
  if ← parensBeginWith [.word "crate", .word "self", .word "super"] then
    match ← ahead (group .paren do return (← anyWord, ← atEnd)) with
    | some (w, true) =>
      let _ ← anyGroup
      return some (.restricted false ⟨false, [w]⟩)
    | _ => return none
  else if ← parensBeginWith [.word "in"] then
    group .paren do
      let _ ← word "in"
      return some (.restricted true (← simplePath))
  else return none

/-- A visibility. -/
def visibility : Reader Visibility := do
  if !(← word? "pub") then return .inherited
  if ← sees (.group .paren) then
    match ← restriction with
    | some v => return v
    | none => return .public
  else return .public

end Grammar

end PatternFactory
