import PatternFactory.Grammar.Item.Code
import PatternFactory.Grammar.Signature

/-!
# Parts that items share

Items and the members of impl blocks, traits and foreign blocks have constants, type definitions and
macro calls in common.  Forms that are accepted and have no meaning of their own, such as a constant
without a value, are kept as tokens.
-/

namespace PatternFactory

namespace Grammar

open Reader

/-- The marks with which the path of a macro call may begin. -/
def macroPathStarts : List Mark :=
  [.ident, .word "self", .word "super", .word "crate", .op "::"]

/-- A word of a list. -/
def oneOf (ms : List Mark) : Reader String := do
  if ← seesAny ms then anyWord else expected ms

/-- The tokens since an earlier state as an item. -/
def verbatimSince (before : List Token) : Reader Code := do
  return .tree .verbatimItem [.raw (← tokensSince before)]

/-- The body of a function: its inner attributes and its statements. -/
def functionBody (g : Grammar) : Reader (List Attr × List Part) :=
  group .brace do return (← g.innerAttrs, ← g.statements)

/-- A macro call that ends with a semicolon unless its group is in braces; a name may stand in front
of the group if `named`. -/
def macroItem (attrs : List Attr) (named : Bool) : Reader Code := do
  let path ← simplePath
  op "!"
  let name ← if !named then pure none
    else if ← seesWord "try" then some <$> anyWord
    else ident?
  let (delim, _, body) ← anyGroup
  let semicolon := delim ≠ .brace
  if semicolon then op ";"
  return .tree .macroItem (attrs.map Part.attr ++ [.simple path, .mark "!"]
    ++ (name.map Part.word).toList ++ .group delim [.raw body] :: markIf semicolon ";")

/-- A constant behind its visibility.  One that has parameters or conditions is kept as tokens, and
so is one without a value if it needs one. -/
def constItem (g : Grammar) (before : List Token) (front : List Part) (needsValue : Bool) :
    Reader Code := do
  let _ ← word "const"
  let name ← oneOf [.ident, .word "_"]
  let params ← g.genericParams?
  op ":"
  let ty ← g.ty true
  let value ← if ← op? "=" then (return [Part.mark "=", .code (← g.expr .allowStruct)])
    else pure []
  let predicates ← g.whereClause?
  op ";"
  if params.isSome || predicates.isSome || (needsValue && value.isEmpty) then verbatimSince before
  else
    return .tree .constItem (front ++ [.mark "const", .word name, .mark ":", .ty ty] ++ value
      ++ [.mark ";"])

/-! ### Type definitions -/

/-- Where the conditions of a type definition may stand. -/
inductive WherePlace where
  | beforeDefinition
  | afterDefinition
  | both
  deriving DecidableEq

/-- A type definition with all that may belong to one. -/
structure TypeEntry where
  /-- The visibility and the word `default`. -/
  front : List Part
  name : String
  params : List Part
  /-- Is there a colon behind the parameters? -/
  hasColon : Bool
  bounds : List Bound
  trailing : Bool
  definition : Option Ty
  conditions : List Part

/-- A type definition behind its attributes. -/
def typeEntry (g : Grammar) (allowDefault : Bool) (place : WherePlace) : Reader TypeEntry := do
  let vis ← visibility
  let isDefault ← if allowDefault then word? "default" else pure false
  let _ ← word "type"
  let name ← ident
  let params ← g.genericParams?
  let hasColon ← op? ":"
  let (bounds, trailing) ← if hasColon then
      separated "+" (seesAny [.word "where", .op "=", .op ";"]) (g.bound ⟨false, true⟩)
    else pure ([], false)
  let early ← if place = .afterDefinition then pure none else g.whereClause?
  let definition ← if ← op? "=" then some <$> g.ty true else pure none
  let late ← if place ≠ .beforeDefinition && early.isNone then g.whereClause? else pure none
  op ";"
  return { front := visParts vis ++ markIf isDefault "default", name
           params := genericParts params, hasColon, bounds, trailing, definition
           conditions := conditionParts (early <|> late) }

namespace TypeEntry

/-- The word `type` with the name and its parameters. -/
def head (e : TypeEntry) : List Part := .mark "type" :: .word e.name :: e.params

/-- The bounds behind the name. -/
def boundParts (e : TypeEntry) : List Part :=
  if e.bounds.isEmpty then [] else [.mark ":", .bounds e.bounds e.trailing]

/-- The definition with its sign. -/
def definitionParts (e : TypeEntry) : List Part :=
  match e.definition with
  | some ty => [.mark "=", .ty ty]
  | none => []

/-- Is it the definition of a name without bounds? -/
def isAlias (e : TypeEntry) : Bool := !e.hasColon && e.definition.isSome

end TypeEntry

/-- An alias of a type. -/
def aliasItem (g : Grammar) (before : List Token) (attrs : List Attr) : Reader Code := do
  let e ← g.typeEntry false .beforeDefinition
  if e.isAlias then
    return .tree .typeItem (attrs.map Part.attr ++ e.front ++ e.head ++ e.conditions
      ++ e.definitionParts ++ [.mark ";"])
  else verbatimSince before

/-- A type that an impl block defines. -/
def implType (g : Grammar) (before : List Token) (attrs : List Attr) : Reader Code := do
  let e ← g.typeEntry true .afterDefinition
  if e.isAlias then
    return .tree .assocTypeItem (attrs.map Part.attr ++ e.front ++ e.head ++ e.definitionParts
      ++ e.conditions ++ [.mark ";"])
  else verbatimSince before

/-- A type that a trait declares. -/
def traitType (g : Grammar) (attrs : List Attr) : Reader Code := do
  let e ← g.typeEntry false .afterDefinition
  return .tree .assocTypeItem (attrs.map Part.attr ++ e.head ++ e.boundParts ++ e.definitionParts
    ++ e.conditions ++ [.mark ";"])

/-- A type that a foreign block declares. -/
def foreignType (g : Grammar) (before : List Token) (attrs : List Attr) : Reader Code := do
  let e ← g.typeEntry false .both
  if e.hasColon || e.definition.isSome then verbatimSince before
  else
    return .tree .foreignTypeItem (attrs.map Part.attr ++ e.front ++ e.head ++ e.conditions
      ++ [.mark ";"])

end Grammar

end PatternFactory
