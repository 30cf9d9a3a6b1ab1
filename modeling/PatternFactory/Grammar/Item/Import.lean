import PatternFactory.Grammar.Item.Basic

/-!
# Imports

An import tree is a path that ends with a name, with a star, or with a group of further trees in
braces.  An import in which `::` begins a tree within a group is accepted and kept as tokens.
-/

namespace PatternFactory

namespace Grammar

open Reader

/-- An import tree of at most the given depth; none if `::` begins a tree within a group, which is
allowed only in groups at the root of the tree. -/
def useTree? (allowRoot : Bool) : Nat → Reader (Option Code)
  | 0 => fail "nesting too deep"
  | depth + 1 => do
    let words : List Mark := [.ident, .word "self", .word "super", .word "crate", .word "try"]
    if ← seesAny words then
      let name ← anyWord
      if ← op? "::" then
        let behind ← useTree? false depth
        return behind.map fun tree =>
          .tree (if tree.kind = .useGroup then .useGroup else .useTree)
            [.word name, .mark "::", .code tree]
      else if ← word? "as" then
        if ← seesAny [.ident, .word "_"] then
          return some (.tree .useTree [.word name, .mark "as", .word (← anyWord)])
        else fail "expected identifier or underscore"
      else return some (.tree .useTree [.word name])
    else if ← op? "*" then return some (.tree .useTree [.mark "*"])
    else if ← sees (.group .brace) then
      let (trees, trailing) ← group .brace (commaList do
        let isRoot ← if allowRoot then op? "::" else pure false
        let tree? ← useTree? (allowRoot && !isRoot) depth
        return if isRoot then none else tree?)
      return (trees.mapM id).map fun trees =>
        .tree .useGroup [.group .brace (codeList trees trailing)]
    else expected (words ++ [.op "*", .group .brace])

/-- An import. -/
def useItem (before : List Token) (attrs : List Attr) : Reader Code := do
  let vis ← visibility
  let _ ← word "use"
  let leading ← op? "::"
  let tree? ← useTree? (!leading) (Tokens.size (← rest) + 1)
  op ";"
  match tree? with
  | some tree =>
    return .tree .useItem (attrs.map Part.attr ++ visParts vis ++ [.mark "use"]
      ++ markIf leading "::" ++ [.code tree, .mark ";"])
  | none => verbatimSince before

/-- The import of a library. -/
def externCrate (attrs : List Attr) : Reader Code := do
  let vis ← visibility
  let _ ← word "extern"
  let _ ← word "crate"
  let name ← if ← seesWord "self" then anyWord else ident
  let rename ← if ← word? "as" then
      (return [Part.mark "as", .word (← if ← seesWord "_" then anyWord else ident)])
    else pure []
  op ";"
  return .tree .externCrateItem (attrs.map Part.attr
    ++ visParts vis ++ [.mark "extern", .mark "crate", .word name] ++ rename ++ [.mark ";"])

end Grammar

end PatternFactory
