import PatternFactory.Grammar.Item.Basic

/-!
# Traits

A trait declares functions, constants and types, which may have defaults; an alias stands for other
traits.  A member with a visibility or with the word `default` is accepted and kept as tokens.
-/

namespace PatternFactory

namespace Grammar

open Reader

/-! ### Members -/

/-- A function of a trait, with or without a body. -/
def traitFunction (g : Grammar) (attrs : List Attr) : Reader Code := do
  let (sig, _) ← g.signature false
  if ← sees (.group .brace) then
    let (inner, statements) ← g.functionBody
    return .tree .fnItem (attrs.map Part.attr ++ sig.parts
      ++ [.group .brace (inner.map Part.attr ++ statements)])
  else if ← op? ";" then
    return .tree .fnItem (attrs.map Part.attr ++ sig.parts ++ [.mark ";"])
  else expected [.group .brace, .op ";"]

/-- A member of a trait. -/
def traitMember (g : Grammar) : Reader Code := do
  let before ← rest
  let attrs ← g.outerAttrs
  let vis ← visibility
  let isDefault ← word? "default"
  let isPlain := vis = .inherited && !isDefault
  let member ←
    if (← seesWord "fn") || (← seesSignature false) then g.traitFunction attrs
    else if ← seesWord "const" then
      if (← seesSecond .ident) || (← seesSecond (.word "_")) then
        g.constItem before (attrs.map Part.attr) false
      else
        let signatureWords : List Mark := ["async", "unsafe", "extern", "fn"].map Mark.word
        if ← seesSecondAny signatureWords then g.traitFunction attrs
        else
          let _ ← word "const"
          expected (.ident :: .word "_" :: signatureWords)
    else if ← seesWord "type" then g.traitType attrs
    else if isPlain && (← seesAny macroPathStarts) then macroItem attrs false
    else
      expected ([.word "fn", .word "const", .word "type"]
        ++ if isPlain then macroPathStarts else [])
  if isPlain then return member else verbatimSince before

/-! ### Traits and their aliases -/

/-- Bounds in front of a where clause or of `stop`. -/
def supertraits (g : Grammar) (stop : Mark) : Reader (List Part) := do
  let (bounds, trailing) ← separated "+" (seesAny [.word "where", stop]) (g.bound ⟨false, true⟩)
  return if bounds.isEmpty then [] else [.bounds bounds trailing]

/-- A trait behind its name and its generic parameters, which are in `front`. -/
def traitRest (g : Grammar) (attrs : List Attr) (front : List Part) : Reader Item := do
  let bounds ← if ← op? ":" then g.supertraits (.group .brace) else pure []
  let colon := markIf (!bounds.isEmpty) ":"
  let predicates ← g.whereClause?
  let (inner, members) ← group .brace do return (← g.innerAttrs, ← manyToEnd g.traitMember)
  return .data .trait_ (attrs ++ inner) (.tree .traitItem (attrs.map Part.attr ++ front
    ++ colon ++ bounds ++ conditionParts predicates
    ++ [.group .brace (inner.map Part.attr ++ members.map Part.code)]))

/-- An alias of traits behind its name and its generic parameters, which are in `front`. -/
def traitAliasRest (g : Grammar) (attrs : List Attr) (front : List Part) : Reader Item := do
  op "="
  let bounds ← g.supertraits (.op ";")
  let predicates ← g.whereClause?
  op ";"
  return .other (.tree .traitAliasItem (attrs.map Part.attr ++ front ++ .mark "=" :: bounds
    ++ conditionParts predicates ++ [.mark ";"]))

/-- A trait, or an alias of traits if `allowAlias`. -/
def traitItem (g : Grammar) (attrs : List Attr) (allowAlias : Bool) : Reader Item := do
  let vis ← visibility
  let isUnsafe ← word? "unsafe"
  let isAuto ← word? "auto"
  let _ ← word "trait"
  let name ← ident
  let params ← g.genericParams?
  let front := visParts vis ++ markIf isUnsafe "unsafe" ++ markIf isAuto "auto"
    ++ [.mark "trait", .word name] ++ genericParts params
  if !allowAlias || (← seesAny [.group .brace, .op ":", .word "where"]) then g.traitRest attrs front
  else if ← seesOp "=" then g.traitAliasRest attrs front
  else expected [.group .brace, .op ":", .word "where", .op "="]

end Grammar

end PatternFactory
