import PatternFactory.Layout.Part

/-!
# Layout of items

An item ends its line.  Its attributes stand in front of it, the members of a block on lines of
their own, and its conditions on lines of their own too, except those of a type definition.
-/

namespace PatternFactory

namespace PartLayout

open Doc CodeLayout

/-! ### Conditions -/

/-- Conditions on lines of their own in front of a body. -/
def bodyWhere (parts : List PartLayout) : List Doc :=
  match conditionDocs parts with
  | [] => [.text " "]
  | items =>
    outdent [newline] ++ .text "where"
      :: outdent (newline :: items.flatMap fun d => d ++ [.text ",", newline])

/-- Items with a comma and `gap` between them, and a semicolon at the end. -/
def withSemicolon (gap : Doc) : List (List Doc) → List Doc
  | [] => []
  | [d] => d ++ [.text ";"]
  | d :: rest => d ++ .text "," :: gap :: withSemicolon gap rest

/-- Conditions on lines of their own at the end of an item. -/
def endWhere (parts : List PartLayout) : List Doc :=
  match conditionDocs parts with
  | [] => [.text ";"]
  | items => outdent [newline] ++ .text "where" :: newline :: withSemicolon newline items

/-- Conditions in front of the definition of a type. -/
def definitionWhere (parts : List PartLayout) : List Doc :=
  match conditionDocs parts with
  | [] => [.text " "]
  | items => outdent [space] ++ .text "where" :: outdent (space :: commas 1 items)

/-- Conditions at the end of a type definition. -/
def definitionEnd (parts : List PartLayout) : List Doc :=
  match conditionDocs parts with
  | [] => [.text ";"]
  | items => outdent [space] ++ .text "where" :: space :: withSemicolon space items

/-! ### Bodies -/

/-- An item that ends with a block: its front, the opening brace and the content. -/
def blockItem (attrs front : List Doc) (opening : String) (content : List Doc) : List Doc :=
  attrs ++ rigid step (front ++ .text opening :: outdent (newlineInside :: content))
    ++ [.text "\x7d", newline]

/-- An item that is a line of its own. -/
def lineItem (attrs : List Doc) (offset : Int) (docs : List Doc) : List Doc :=
  attrs ++ rigid offset docs ++ [newline]

/-- The members of a block behind its inner attributes. -/
def members (parts : List PartLayout) : List Doc :=
  let inside := (group? parts).getD []
  attrDocs true inside ++ (wholes (codes inside)).flatten

/-- Fields or variants on lines of their own. -/
def listed (parts : List PartLayout) : List Doc :=
  (wholes (groupCodes parts)).flatMap fun d => d ++ [.text ",", newline]

/-- Fields without names, without a box of their own. -/
def tupleFields (parts : List PartLayout) : List Doc :=
  .text "(" :: outdent (cut :: commas 0 (wholes (groupCodes parts))) ++ [.text ")"]

/-- The value behind `=`, if there is one. -/
def valueDocs (parts : List PartLayout) : List Doc :=
  (codes (behindMark "=" parts)).flatMap fun c => .text " = " :: seam :: c.whole

/-- Bounds with a blank or the end of a line in front of each but the first. -/
def spacedBounds (items : List (List Doc)) : List Doc :=
  match items with
  | [] => []
  | d :: rest => d ++ rest.flatMap fun e => space :: .text "+ " :: e

/-! ### Items -/

/-- A constant or a global variable. -/
def valueItem (parts : List PartLayout) : List Doc :=
  lineItem (attrDocs false parts) 0 (inRow (beforeMark ":" parts) ++ .text ": "
    :: typeDocs (behindMark ":" parts) ++ valueDocs parts ++ [.text ";"])

/-- An item with a list in braces. -/
def listItem (parts : List PartLayout) : List Doc :=
  blockItem (attrDocs false parts) (inRow (beforeGroup parts) ++ bodyWhere parts) "\x7b"
    (listed parts)

/-- A struct. -/
def structItem (parts : List PartLayout) : List Doc :=
  if hasBraces parts then listItem parts
  else
    let fields := if (group? parts).isSome then tupleFields parts else []
    lineItem (attrDocs false parts) step
      (inRow (beforeMark ";" (beforeGroup parts)) ++ fields ++ endWhere parts)

/-- A variant of an enum. -/
def variant (parts : List PartLayout) : List Doc :=
  let fields :=
    if (group? parts).isNone then []
    else if hasBraces parts then
      .text " \x7b" :: rigid step (outdent (space :: commas 1 (wholes (groupCodes parts))))
        ++ [.text "\x7d"]
    else rigid step (tupleFields parts)
  let value := (codes (behindMark "=" parts)).flatMap fun c => .text " = " :: c.whole
  attrDocs false parts ++ .text (memberText parts) :: fields ++ value

/-- A field of a data type. -/
def structField (parts : List PartLayout) : List Doc :=
  let named := if hasMark ":" parts then inRow (beforeMark ":" parts) ++ [.text ": "] else []
  let behind := if hasMark ":" parts then behindMark ":" parts else parts
  attrDocs false parts ++ named ++ inRow behind

/-- The import of a library, or an import tree, which may give another name. -/
def renamed (parts : List PartLayout) : List Doc :=
  inRow (beforeMark "as" parts)
    ++ if hasMark "as" parts then .text " as " :: inRow (behindMark "as" parts) else []

/-- An import tree that ends with a group. -/
def useGroup (parts : List PartLayout) : List Doc :=
  if (group? parts).isSome then
    .text "\x7b" :: rigid step (cut :: filled 0 (trees (groupCodes parts))
      ++ outdent [lastComma 0]) ++ [.text "\x7d"]
  else inRow parts
where
  /-- Behind a tree that ends with a group comes the end of the line. -/
  trees : List CodeLayout → List Doc
    | [] => []
    | [c] => c.whole
    | c :: rest =>
      c.whole ++ .text "," :: (if c.kind = .useGroup then newline else space) :: trees rest

/-- The parameters of a function. -/
def params (cs : List CodeLayout) : List Doc :=
  match cs.getLast? with
  | some c =>
    if c.kind = .variadic then
      rigid 0 (outdent (cut :: (wholes cs.dropLast).flatMap (fun d => d ++ [.text ",", space])
        ++ c.whole ++ [cut]))
    else list 0 (wholes cs)
  | none => []

/-- A receiver. -/
def receiver (parts : List PartLayout) : List Doc :=
  attrDocs false parts ++ parts.flatMap fun
    | .lifetime name => [.text ("'" ++ name), .text " "]
    | .mark "mut" => [.text "mut "]
    | .mark ":" => [.text ": "]
    | .mark t => [.text t]
    | .ty d _ _ => d
    | _ => []

/-- The open end of the parameters of a function. -/
def variadic (parts : List PartLayout) : List Doc :=
  attrDocs false parts ++ (wholes (codes parts)).flatMap (fun d => d ++ [.text ": "])
    ++ [.text "..."]

/-- A function with or without a body. -/
def fnItem (parts : List PartLayout) : List Doc :=
  let behind := (parts.drop (beforeGroup parts).length).drop 1
  let output :=
    if hasMark "->" behind then .text " -> " :: typeDocs (behindMark "->" behind) else []
  let signature := inRow (beforeGroup parts) ++ .text "(" :: seam :: params (groupCodes parts)
    ++ .text ")" :: rigid (-step) output
  if hasBraces parts then
    let inside := (group? behind).getD []
    blockItem (attrDocs false parts) (signature ++ bodyWhere behind) "\x7b"
      (attrDocs true inside ++ CodeLayout.statements (codes inside))
  else lineItem (attrDocs false parts) step (signature ++ endWhere behind)

/-- An impl block. -/
def implItem (parts : List PartLayout) : List Doc :=
  let behind := behindMark "impl" parts
  let ofTrait := (boundDocs behind).flatMap fun d =>
    (if hasMark "!" behind then [.text "!"] else []) ++ d ++ [space, .text "for "]
  let self := behind.flatMap fun
    | .ty d _ _ => d
    | _ => []
  let front := inRow (beforeMark "impl" parts) ++ .text "impl" :: argDocs behind
  blockItem (attrDocs false parts)
    (filled (-step) (rigid step front ++ .text " " :: ofTrait ++ self) ++ bodyWhere behind) "\x7b"
    (members parts)

/-- A module. -/
def moduleItem (parts : List PartLayout) : List Doc :=
  if hasBraces parts then
    blockItem (attrDocs false parts) (inRow (beforeGroup parts)) " \x7b" (members parts)
  else lineItem (attrDocs false parts) step (inRow parts)

/-- A trait. -/
def traitItem (parts : List PartLayout) : List Doc :=
  let bounds := match boundDocs parts with
    | [] => []
    | items => .text ": " :: joined " + " items
  blockItem (attrDocs false parts)
    (inRow (beforeMark ":" (beforeGroup parts)) ++ bounds ++ bodyWhere parts) "\x7b" (members parts)

/-- An alias of traits. -/
def traitAliasItem (parts : List PartLayout) : List Doc :=
  lineItem (attrDocs false parts) step (inRow (beforeMark "=" parts) ++ .text " = " :: seam
    :: spacedBounds (boundDocs parts) ++ endWhere parts)

/-- An alias of a type. -/
def typeItem (parts : List PartLayout) : List Doc :=
  lineItem (attrDocs false parts) step (inRow (beforeMark "=" parts) ++ definitionWhere parts
    ++ .text "= " :: seam :: filled (-step) (typeDocs (behindMark "=" parts)) ++ [.text ";"])

/-- A type in an impl block or in a trait. -/
def assocTypeItem (parts : List PartLayout) : List Doc :=
  let front := beforeMark ";" (beforeMark "=" (beforeMark ":" parts))
  let definition :=
    if hasMark "=" parts then
      .text " = " :: seam :: filled (-step) (typeDocs (behindMark "=" parts))
    else []
  lineItem (attrDocs false parts) step
    (inRow front ++ led ": " "+ " (boundDocs parts) ++ definition ++ definitionEnd parts)

/-- The layout of an item, or of a part of one. -/
def itemDocs (kind : CodeKind) (parts : List PartLayout) : List Doc :=
  match kind with
  | .constItem => valueItem parts
  | .staticItem => valueItem parts
  | .enumItem => listItem parts
  | .unionItem => listItem parts
  | .structItem => structItem parts
  | .externCrateItem => lineItem (attrDocs false parts) 0 (renamed parts)
  | .fnItem => fnItem parts
  | .foreignItem =>
    blockItem (attrDocs false parts) (inRow (beforeGroup parts)) "\x7b" (members parts)
  | .implItem => implItem parts
  | .macroItem => attrDocs false parts ++ macroDocs true parts ++ [newline]
  | .moduleItem => moduleItem parts
  | .traitItem => traitItem parts
  | .traitAliasItem => traitAliasItem parts
  | .typeItem => typeItem parts
  | .assocTypeItem => assocTypeItem parts
  | .foreignTypeItem =>
    lineItem (attrDocs false parts) 0 (inRow (beforeMark ";" parts) ++ [.text ";"])
  | .useItem => attrDocs false parts ++ inRow parts ++ [newline]
  | .useTree => renamed parts
  | .useGroup => useGroup parts
  | .variant => variant parts
  | .structField => structField parts
  | .fnParam =>
    attrDocs false parts ++ (wholes (codes parts)).flatten ++ .text ": " :: typeDocs parts
  | .receiver => receiver parts
  | .variadic => variadic parts
  | _ => [.refused]

end PartLayout

end PatternFactory
