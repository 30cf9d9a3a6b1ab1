import PatternFactory.Grammar.Item.Basic

/-!
# Structs, enums and unions

Fields have names and stand in braces, or they have none and stand in parentheses.  The conditions
of a struct stand in front of braces and behind parentheses.
-/

namespace PatternFactory

namespace Grammar

open Reader

/-! ### Fields -/

/-- The type of a field that is named `_`, which may be a struct or a union by itself. -/
def unnamedFieldType (g : Grammar) : Reader Ty := do
  if (← seesWord "struct") || ((← seesWord "union") && (← seesSecond (.group .brace))) then
    let before ← rest
    let _ ← anyWord
    let _ ← g.namedFields
    return .verbatim (← tokensSince before)
  else g.ty true

/-- A field with a name. -/
def namedField (g : Grammar) : Reader Code := do
  let attrs ← g.outerAttrs
  let vis ← visibility
  let isUnnamed ← seesWord "_"
  let name ← if isUnnamed then anyWord else ident
  op ":"
  let ty ← if isUnnamed then g.unnamedFieldType else g.ty true
  return .tree .structField (attrs.map Part.attr ++ visParts vis ++ [.word name, .mark ":", .ty ty])

/-- A field without a name. -/
def unnamedField (g : Grammar) : Reader Code := do
  let attrs ← g.outerAttrs
  let vis ← visibility
  return .tree .structField (attrs.map Part.attr ++ visParts vis ++ [.ty (← g.ty true)])

/-- Fields in braces. -/
def readNamedFields (g : Grammar) : Reader Part := do
  let (fields, trailing) ← group .brace (commaList g.namedField)
  return .group .brace (codeList fields trailing)

/-- Fields in parentheses. -/
def unnamedFields (g : Grammar) : Reader Part := do
  let (fields, trailing) ← group .paren (commaList g.unnamedField)
  return .group .paren (codeList fields trailing)

/-! ### Structs -/

/-- What follows the generic parameters of a struct. -/
def structRest (g : Grammar) : Reader (List Part) := do
  let marks : List Mark := [.group .brace, .op ";"]
  if ← seesWord "where" then
    let conditions := conditionParts (← g.whereClause?)
    if ← sees (.group .brace) then return conditions ++ [← g.namedFields]
    else if ← op? ";" then return conditions ++ [.mark ";"]
    else expected marks
  else if ← sees (.group .paren) then
    let fields ← g.unnamedFields
    if ← seesWord "where" then
      let conditions := conditionParts (← g.whereClause?)
      if ← op? ";" then return fields :: conditions ++ [.mark ";"] else expected [.op ";"]
    else if ← op? ";" then return [fields, .mark ";"]
    else expected [.word "where", .op ";"]
  else if ← sees (.group .brace) then return [← g.namedFields]
  else if ← op? ";" then return [.mark ";"]
  else expected (.word "where" :: .group .paren :: marks)

/-- A struct. -/
def structItem (g : Grammar) (attrs : List Attr) : Reader Item := do
  let vis ← visibility
  let _ ← word "struct"
  let name ← ident
  let params ← g.genericParams?
  let behind ← g.structRest
  return .data .struct_ attrs (.tree .structItem (attrs.map Part.attr
    ++ visParts vis ++ [.mark "struct", .word name] ++ genericParts params ++ behind))

/-! ### Enums and unions -/

/-- A variant of an enum.  A visibility in front of it is dropped. -/
def variant (g : Grammar) : Reader Code := do
  let attrs ← g.outerAttrs
  let _ ← visibility
  let name ← ident
  let fields ← if ← sees (.group .brace) then (return [← g.namedFields])
    else if ← sees (.group .paren) then (return [← g.unnamedFields])
    else pure []
  let value ← if ← op? "=" then (return [Part.mark "=", .code (← g.expr .allowStruct)])
    else pure []
  return .tree .variant (attrs.map Part.attr ++ .word name :: fields ++ value)

/-- An enum. -/
def enumItem (g : Grammar) (attrs : List Attr) : Reader Item := do
  let vis ← visibility
  let _ ← word "enum"
  let name ← ident
  let params ← g.genericParams?
  let predicates ← g.whereClause?
  let (variants, trailing) ← group .brace (commaList g.variant)
  return .data .enum_ attrs (.tree .enumItem (attrs.map Part.attr
    ++ visParts vis ++ [.mark "enum", .word name] ++ genericParts params
    ++ conditionParts predicates ++ [.group .brace (codeList variants trailing)]))

/-- A union. -/
def unionItem (g : Grammar) (attrs : List Attr) : Reader Item := do
  let vis ← visibility
  let _ ← word "union"
  let name ← ident
  let params ← g.genericParams?
  let predicates ← g.whereClause?
  let fields ← g.namedFields
  return .other (.tree .unionItem (attrs.map Part.attr
    ++ visParts vis ++ [.mark "union", .word name] ++ genericParts params
    ++ conditionParts predicates ++ [fields]))

end Grammar

end PatternFactory
