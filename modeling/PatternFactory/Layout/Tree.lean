import PatternFactory.Layout.Code

/-!
# Layout of types, paths and generics

Types are spread over lines only where they have lists: of generic arguments, of elements, of
parameters.  Lifetimes come first among generic arguments and parameters.
-/

namespace PatternFactory

/-- A lifetime with its tick. -/
def lifetimeDocs (name : String) : List Doc := [.text ("'" ++ name)]

/-- The layout of a calling convention. -/
def Abi.docs (a : Abi) : List Doc :=
  .text "extern " :: match a.name with
    | some name => [.text name, .text " "]
    | none => []

/-- The layout of a visibility.  A single word that is no name needs no `in`. -/
def Visibility.docs : Visibility → List Doc
  | inherited => []
  | «public» => [.text "pub "]
  | restricted _ path =>
    let isPlain := !path.leading && path.words ∈ [["self"], ["super"], ["crate"]]
    .text (if isPlain then "pub(" else "pub(in ") :: path.docs ++ [.text ") "]

/-- The name in front of the type of a parameter. -/
def paramNameDocs : Option String → List Doc
  | some name => [.text name, .text ": "]
  | none => []

/-- The items that are flagged, in front of the others. -/
def flaggedFirst (items : List (Bool × List Doc)) : List (List Doc) :=
  ((items.filter fun i => i.1) ++ items.filter fun i => !i.1).map Prod.snd

/-- Generic arguments in angle brackets. -/
def angleDocs (items : List (Bool × List Doc)) : List Doc :=
  .text "<" :: Doc.list Doc.step (flaggedFirst items) ++ [.text ">"]

/-- Generic parameters in angle brackets. -/
def genericDocs (items : List (Bool × List Doc)) : List Doc :=
  if items.isEmpty then [] else .text "<" :: Doc.list 0 (flaggedFirst items) ++ [.text ">"]

mutual

/-- The layout of a type. -/
def Ty.docs : Ty → List Doc
  | .array elem len =>
    .text "[" :: elem.docs ++ .text "; " :: len.layout.whole ++ [.text "]"]
  | .bareFn binder isUnsafe abi inputs _ variadic output =>
    let items := BareArg.listDocs inputs
    let args := match variadic with
      | none => Doc.list Doc.step items
      | some v =>
        let listed := items.flatMap fun d => d ++ [.text ",", Doc.space]
        Doc.rigid Doc.step (Doc.outdent (Doc.cut :: listed ++ BareVariadic.docs v ++ [Doc.cut]))
    Binder.optionDocs binder ++ (if isUnsafe then [.text "unsafe "] else [])
      ++ ((abi.map Abi.docs).getD []) ++ .text "fn(" :: args ++ .text ")" :: Ty.outputDocs output
  | .implTrait bounds _ => .text "impl " :: Doc.joined " + " (Bound.listDocs bounds)
  | .infer => [.text "_"]
  | .macroCall path delim body => macroCallDocs path none delim body false
  | .never => [.text "!"]
  | .paren elem => .text "(" :: elem.docs ++ [.text ")"]
  | .path path => path.docs false
  | .qualified self asTrait rest =>
    .text "<" :: self.docs ++ Path.asDocs asTrait ++ .text ">" :: Segment.behindDocs false rest
  | .ptr isMut elem => .text "*" :: .text (if isMut then "mut " else "const ") :: elem.docs
  | .reference lifetime isMut elem =>
    .text "&" :: (match lifetime with
      | some name => lifetimeDocs name ++ [.text " "]
      | none => []) ++ (if isMut then [.text "mut "] else []) ++ elem.docs
  | .slice elem => .text "[" :: elem.docs ++ [.text "]"]
  | .traitObject _ bounds _ => .text "dyn " :: Doc.joined " + " (Bound.listDocs bounds)
  | .tuple elems _ => .text "(" :: Doc.tuple (Ty.listDocs elems) ++ [.text ")"]
  | .verbatim _ => [.refused]

/-- The layout of each of some types. -/
def Ty.listDocs : List Ty → List (List Doc)
  | [] => []
  | t :: ts => t.docs :: Ty.listDocs ts

/-- The layout of a return type with its arrow. -/
def Ty.outputDocs : Option Ty → List Doc
  | some t => .text " -> " :: t.docs
  | none => []

/-- The layout of a default type with its sign. -/
def Ty.defaultDocs : Option Ty → List Doc
  | some t => Doc.space :: .text "= " :: t.docs
  | none => []

/-- The layout of a parameter of a function type. -/
def BareArg.docs : BareArg → List Doc
  | .mk attrs name ty => Attr.listDocs attrs ++ paramNameDocs name ++ ty.docs

/-- The layout of each of some parameters of a function type. -/
def BareArg.listDocs : List BareArg → List (List Doc)
  | [] => []
  | a :: rest => a.docs :: BareArg.listDocs rest

/-- The layout of a path, in an expression or in a type. -/
def Path.docs (inExpr : Bool) : Path → List Doc
  | .mk leading segments =>
    match segments with
    | [] => []
    | s :: rest =>
      (if leading then [.text "::"] else []) ++ s.docs inExpr ++ Segment.behindDocs inExpr rest

/-- The layout of the trait in a qualified path. -/
def Path.asDocs : Option Path → List Doc
  | some p => .text " as " :: p.docs false
  | none => []

/-- The layout of an optional path in an expression. -/
def Path.optionDocs : Option Path → List Doc
  | some p => p.docs true
  | none => []

/-- The layout of a segment. -/
def Segment.docs (inExpr : Bool) : Segment → List Doc
  | .mk name args => .text name :: args.docs inExpr

/-- The layout of segments behind others. -/
def Segment.behindDocs (inExpr : Bool) : List Segment → List Doc
  | [] => []
  | s :: rest => .text "::" :: s.docs inExpr ++ Segment.behindDocs inExpr rest

/-- The layout of generic arguments; no arguments are left out. -/
def Args.docs (inExpr : Bool) : Args → List Doc
  | .none => []
  | .angle _ args _ =>
    match GenericArg.listDocs args with
    | [] => []
    | items => (if inExpr then [.text "::"] else []) ++ angleDocs items
  | .paren inputs _ output =>
    Doc.rigid Doc.step (.text "("
      :: Doc.outdent (Doc.cut :: Doc.commas 0 (Ty.listDocs inputs))
      ++ .text ")" :: Ty.outputDocs output)

/-- The layout of a generic argument. -/
def GenericArg.docs : GenericArg → List Doc
  | .lifetime name => lifetimeDocs name
  | .type ty => ty.docs
  | .const value => value.layout.whole
  | .assocType name args ty => .text name :: args.docs false ++ .text " = " :: ty.docs
  | .assocConst name args value =>
    .text name :: args.docs false ++ .text " = " :: value.layout.whole
  | .constraint name args bounds _ =>
    .text name :: args.docs false
      ++ Doc.filled Doc.step (Doc.led ": " "+ " (Bound.listDocs bounds))

/-- The layout of each of some generic arguments; lifetimes are flagged. -/
def GenericArg.listDocs : List GenericArg → List (Bool × List Doc)
  | [] => []
  | a :: rest => (a matches .lifetime _, a.docs) :: GenericArg.listDocs rest

/-- The layout of a bound. -/
def Bound.docs : Bound → List Doc
  | .trait parens isMaybe binder path =>
    let inside := Binder.optionDocs binder ++ (if isMaybe then [.text "?"] else [])
      ++ path.docs false
    if parens then .text "(" :: inside ++ [.text ")"] else inside
  | .lifetime name => lifetimeDocs name
  | .captures params _ =>
    .text "use<" :: Doc.joined ", " (params.map fun p => [.text p]) ++ [.text ">"]
  | .verbatim _ => [.refused]

/-- The layout of each of some bounds. -/
def Bound.listDocs : List Bound → List (List Doc)
  | [] => []
  | b :: rest => b.docs :: Bound.listDocs rest

/-- The layout of what `for` introduces. -/
def Binder.docs : Binder → List Doc
  | .mk params _ =>
    .text "for<" :: Doc.joined ", " (GenericParam.listDocs params) ++ [.text "> "]

/-- The layout of an optional binder. -/
def Binder.optionDocs : Option Binder → List Doc
  | some b => b.docs
  | none => []

/-- The layout of a generic parameter. -/
def GenericParam.docs : GenericParam → List Doc
  | .lifetime ⟨attrs, name, bounds, _⟩ =>
    Attr.listDocs attrs ++ lifetimeDocs name ++ match bounds with
      | [] => []
      | bounds => .text ": " :: Doc.joined " + " (bounds.map lifetimeDocs)
  | .type attrs name bounds _ default =>
    Attr.listDocs attrs ++ .text name
      :: Doc.filled Doc.step (Doc.led ": " "+ " (Bound.listDocs bounds) ++ Ty.defaultDocs default)
  | .const attrs name ty default =>
    Attr.listDocs attrs ++ .text "const " :: .text name :: .text ": " :: ty.docs
      ++ Code.defaultDocs default

/-- The layout of each of some generic parameters. -/
def GenericParam.listDocs : List GenericParam → List (List Doc)
  | [] => []
  | p :: rest => p.docs :: GenericParam.listDocs rest

/-- The layout of each of some generic parameters; lifetimes are flagged. -/
def GenericParam.flaggedDocs : List GenericParam → List (Bool × List Doc)
  | [] => []
  | p :: rest => (p.isLifetime, p.docs) :: GenericParam.flaggedDocs rest

/-- The layout of a condition. -/
def WherePredicate.docs : WherePredicate → List Doc
  | .lifetime name bounds _ =>
    lifetimeDocs name
      ++ .text ":" :: Doc.filled Doc.step (Doc.led " " "+ " (bounds.map lifetimeDocs))
  | .type binder ty bounds _ =>
    Binder.optionDocs binder ++ ty.docs ++ .text ":"
      :: Doc.filled (if bounds.length = 1 then 0 else Doc.step)
        (Doc.led " " "+ " (Bound.listDocs bounds))

/-- The layout of each of some conditions. -/
def WherePredicate.listDocs : List WherePredicate → List (List Doc)
  | [] => []
  | p :: rest => p.docs :: WherePredicate.listDocs rest

/-- The layout of the open end of the parameters of a function type. -/
def BareVariadic.docs : BareVariadic → List Doc
  | ⟨attrs, name, _⟩ => Attr.listDocs attrs ++ paramNameDocs name ++ [.text "..."]

/-- The layout of the content of an attribute. -/
def Meta.docs : Meta → List Doc
  | .path path => path.docs
  | .list path delim _ body =>
    path.docs ++ (Token.attrDocs .punct true (.ofGroup delim body)).1
  | .nameValue path value => path.docs ++ .text " = " :: value.layout.whole

/-- The layout of an attribute. -/
def Attr.docs : Attr → List Doc
  | ⟨inner, content, pos⟩ =>
    match Attr.asComment? ⟨inner, content, pos⟩ with
    | some docs => docs
    | none =>
      .text (if inner then "#!" else "#") :: .text "[" :: content.docs ++ [.text "]", Doc.space]

/-- The layout of attributes. -/
def Attr.listDocs : List Attr → List Doc
  | [] => []
  | a :: rest => a.docs ++ Attr.listDocs rest

/-- The layout of a piece of code. -/
def Code.layout : Code → CodeLayout
  | .tree kind parts => .ofParts kind (Part.listLayout parts)

/-- The layout of a default value with its sign. -/
def Code.defaultDocs : Option Code → List Doc
  | some c => .text " = " :: c.layout.whole
  | none => []

/-- The layout of a part. -/
def Part.layout : Part → PartLayout
  | .mark text => .mark text
  | .word text => .word text
  | .lifetime name => .lifetime name
  | .literal text => .literal text
  | .group delim parts => .group delim (Part.listLayout parts)
  | .code c => .code c.layout
  | .ty (.qualified self asTrait rest) =>
    let head := .text "<" :: self.docs ++ Path.asDocs asTrait ++ [.text ">"]
    .ty (head ++ Segment.behindDocs false rest) (head ++ Segment.behindDocs true rest)
      (Path.optionDocs asTrait ++ Segment.behindDocs true rest)
  | .ty t => .ty t.docs t.docs t.docs
  | .path p => .piece (p.docs true)
  | .args a => .piece (a.docs true)
  | .binder b => .piece b.docs
  | .attr ⟨inner, content, pos⟩ => .attr inner (Attr.docs ⟨inner, content, pos⟩)
  | .simple p => .simple p
  | .raw ts => .raw ts
  | .vis v => .piece v.docs
  | .abi a => .piece a.docs
  | .generics params _ => .piece (genericDocs (GenericParam.flaggedDocs params))
  | .bounds bounds _ => .bounds (Bound.listDocs bounds)
  | .conditions predicates _ => .conditions (WherePredicate.listDocs predicates)

/-- The layout of some parts. -/
def Part.listLayout : List Part → List PartLayout
  | [] => []
  | p :: rest => p.layout :: Part.listLayout rest

end

end PatternFactory
