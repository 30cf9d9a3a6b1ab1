import PatternFactory.Layout.Part

/-!
# Layout of patterns

The fields of a struct pattern, the elements of a tuple pattern and alternatives are spread over
lines if they do not fit on one.
-/

namespace PatternFactory

namespace PartLayout

open Doc CodeLayout

/-- The layout of the fields of a struct, which may have a base. -/
def fields (items : List CodeLayout) (base : Option (List Doc)) : List Doc :=
  match base with
  | none => spaceInside :: commas 1 (wholes items)
  | some docs =>
    spaceInside :: (wholes items).flatMap (fun d => d ++ [.text ",", space]) ++ docs ++ [space]

/-- The layout of a struct expression, which is `narrowed`, or of a struct pattern. -/
def structDocs (narrowed : Bool) (path : List Doc) (content : List Doc) : List Doc :=
  let docs := outdent (path ++ .text " \x7b" :: content)
  (if narrowed then narrow step 34 docs else rigid step docs) ++ [.text "\x7d"]

/-- The layout of the alternatives of a pattern. -/
def alternatives (cases : List CodeLayout) : List Doc :=
  let simple := cases.all fun c => c.kind = .patLiteral || c.kind = .patWild
  let docs := match wholes cases with
    | [] => []
    | d :: rest => d ++ rest.flatMap fun e => space :: .text "| " :: e
  boxed 0 (!simple) docs

/-- The layout of a struct pattern. -/
def patStruct (parts : List PartLayout) : List Doc :=
  let items := groupCodes parts
  let named := items.filter fun c => c.kind ≠ .patRest
  let base := (items.find? fun c => c.kind = .patRest).map whole
  structDocs false (barePathDocs parts) (fields named base)

/-- The layout of a tuple pattern. -/
def patTuple (parts : List PartLayout) : List Doc :=
  let inside := (group? parts).getD []
  let docs := match codes inside with
    | [e] => if e.kind = .patRest && !hasMark "," inside then
        rigid step (outdent (cut :: e.whole ++ [cut]))
      else tuple [e.whole]
    | elems => tuple (wholes elems)
  .text "(" :: docs ++ [.text ")"]

/-- The layout of a pattern, or of a part of one. -/
def patternDocs? (kind : CodeKind) (parts : List PartLayout) : Option (List Doc) :=
  let cs := codes parts
  match kind with
  | .patConst => some (cs.flatMap whole)
  | .patField =>
    let named := if hasMark ":" parts then [.text (memberText parts), .text ": "] else []
    some (attrDocs false parts ++ named ++ cs.flatMap whole)
  | .patIdent =>
    some (inRow (beforeMark "@" parts) ++ cs.flatMap fun c => .text " @ " :: c.whole)
  | .patLiteral => some (cs.flatMap whole)
  | .patMacro => some (macroDocs false parts)
  | .patOr => some (alternatives cs)
  | .patParen => some (.text "(" :: (groupCodes parts).flatMap whole ++ [.text ")"])
  | .patPath => some (pathDocs parts)
  | .patRange => some (inRow parts)
  | .patReference => some (inRow parts)
  | .patRest => some (attrDocs false parts ++ [.text ".."])
  | .patSlice => some (.text "[" :: commas 0 (wholes (groupCodes parts)) ++ [.text "]"])
  | .patStruct => some (patStruct parts)
  | .patTuple => some (patTuple parts)
  | .patTupleStruct =>
    some (barePathDocs parts ++ .text "(" :: list step (wholes (groupCodes parts)) ++ [.text ")"])
  | .patType => some (cs.flatMap whole ++ .text ": " :: typeDocs parts)
  | .patWild => some [.text "_"]
  | _ => none

end PartLayout

end PatternFactory
