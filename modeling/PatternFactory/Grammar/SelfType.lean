import PatternFactory.Grammar.Tree

/-!
# Replacing `Self`

`Ty.replaceSelf onSelf` puts `onSelf rest` in the place of every type path `Self::rest`; its `rest`
is not searched any further.  Code is searched for types, but a path in code that begins with `Self`
is no type and stays.  `Ty.resolveSelf` is the replacement by the type of an impl block: `Self`
alone becomes the type, and `Self::rest` a path behind the type in angle brackets.

The receiver of a function has the type `Self` or a reference to it even if none is written.  Once
that is another type, it has to be written.
-/

namespace PatternFactory

/-- What a type path that begins with `Self` stands for. -/
def selfPath (self : Ty) (behind : List Segment) : Ty :=
  if behind.isEmpty then self else .qualified self none behind

namespace Ty

/-- Is the type written `Self`? -/
def isSelf : Ty → Bool
  | path (.mk false [.mk "Self" .none]) => true
  | _ => false

end Ty

/-- What is written behind a receiver without a type, if its type is `self` or a reference to it. -/
def impliedType (self : Ty) (parts : List Part) : List Part :=
  if self.isSelf || parts.any (· matches .mark ":") then []
  else
    let lifetime := parts.findSome? fun
      | .lifetime name => some name
      | _ => none
    let isMut := parts.any (· matches .mark "mut")
    let ty := if parts.any (· matches .mark "&") then .reference lifetime isMut self else self
    [.mark ":", .ty ty]

mutual

/-- Replaces `Self` in a type. -/
def Ty.replaceSelf (onSelf : List Segment → Ty) : Ty → Ty
  | .array elem len => .array (elem.replaceSelf onSelf) (len.replaceSelf onSelf)
  | .bareFn binder isUnsafe abi inputs trailing variadic output =>
    .bareFn (Binder.replaceOption onSelf binder) isUnsafe abi (BareArg.replaceList onSelf inputs)
      trailing (BareVariadic.replaceOption onSelf variadic) (Ty.replaceOption onSelf output)
  | .implTrait bounds trailing => .implTrait (Bound.replaceList onSelf bounds) trailing
  | .infer => .infer
  | .macroCall path delim body => .macroCall path delim body
  | .never => .never
  | .paren elem => .paren (elem.replaceSelf onSelf)
  | .path (.mk leading segments) =>
    match segments with
    | .mk name args :: rest =>
      if name = "Self" then onSelf rest
      else
        .path (.mk leading (.mk name (args.replaceSelf onSelf) :: Segment.replaceList onSelf rest))
    | [] => .path (.mk leading [])
  | .qualified inner asTrait rest =>
    .qualified (inner.replaceSelf onSelf) (Path.replaceOption onSelf asTrait)
      (Segment.replaceList onSelf rest)
  | .ptr isMut elem => .ptr isMut (elem.replaceSelf onSelf)
  | .reference lifetime isMut elem => .reference lifetime isMut (elem.replaceSelf onSelf)
  | .slice elem => .slice (elem.replaceSelf onSelf)
  | .traitObject hasDyn bounds trailing =>
    .traitObject hasDyn (Bound.replaceList onSelf bounds) trailing
  | .tuple elems trailing => .tuple (Ty.replaceList onSelf elems) trailing
  | .verbatim ts => .verbatim ts

/-- Replaces `Self` in each of some types. -/
def Ty.replaceList (onSelf : List Segment → Ty) : List Ty → List Ty
  | [] => []
  | t :: ts => t.replaceSelf onSelf :: Ty.replaceList onSelf ts

/-- Replaces `Self` in an optional type. -/
def Ty.replaceOption (onSelf : List Segment → Ty) : Option Ty → Option Ty
  | some t => some (t.replaceSelf onSelf)
  | none => none

/-- Replaces `Self` in a parameter of a function type. -/
def BareArg.replaceSelf (onSelf : List Segment → Ty) : BareArg → BareArg
  | .mk attrs name ty => .mk (Attr.replaceList onSelf attrs) name (ty.replaceSelf onSelf)

/-- Replaces `Self` in each of some parameters of a function type. -/
def BareArg.replaceList (onSelf : List Segment → Ty) : List BareArg → List BareArg
  | [] => []
  | a :: rest => a.replaceSelf onSelf :: BareArg.replaceList onSelf rest

/-- Replaces `Self` in the arguments of a path that is no type. -/
def Path.replaceSelf (onSelf : List Segment → Ty) : Path → Path
  | .mk leading segments => .mk leading (Segment.replaceList onSelf segments)

/-- Replaces `Self` in the arguments of an optional path. -/
def Path.replaceOption (onSelf : List Segment → Ty) : Option Path → Option Path
  | some p => some (p.replaceSelf onSelf)
  | none => none

/-- Replaces `Self` in the arguments of a segment. -/
def Segment.replaceSelf (onSelf : List Segment → Ty) : Segment → Segment
  | .mk name args => .mk name (args.replaceSelf onSelf)

/-- Replaces `Self` in the arguments of each of some segments. -/
def Segment.replaceList (onSelf : List Segment → Ty) : List Segment → List Segment
  | [] => []
  | s :: rest => s.replaceSelf onSelf :: Segment.replaceList onSelf rest

/-- Replaces `Self` in generic arguments. -/
def Args.replaceSelf (onSelf : List Segment → Ty) : Args → Args
  | .none => .none
  | .angle turbofish args trailing => .angle turbofish (GenericArg.replaceList onSelf args) trailing
  | .paren inputs trailing output =>
    .paren (Ty.replaceList onSelf inputs) trailing (Ty.replaceOption onSelf output)

/-- Replaces `Self` in a generic argument. -/
def GenericArg.replaceSelf (onSelf : List Segment → Ty) : GenericArg → GenericArg
  | .lifetime name => .lifetime name
  | .type ty => .type (ty.replaceSelf onSelf)
  | .const value => .const (value.replaceSelf onSelf)
  | .assocType name args ty => .assocType name (args.replaceSelf onSelf) (ty.replaceSelf onSelf)
  | .assocConst name args value =>
    .assocConst name (args.replaceSelf onSelf) (value.replaceSelf onSelf)
  | .constraint name args bounds trailing =>
    .constraint name (args.replaceSelf onSelf) (Bound.replaceList onSelf bounds) trailing

/-- Replaces `Self` in each of some generic arguments. -/
def GenericArg.replaceList (onSelf : List Segment → Ty) : List GenericArg → List GenericArg
  | [] => []
  | a :: rest => a.replaceSelf onSelf :: GenericArg.replaceList onSelf rest

/-- Replaces `Self` in a bound. -/
def Bound.replaceSelf (onSelf : List Segment → Ty) : Bound → Bound
  | .trait parens isMaybe binder path =>
    .trait parens isMaybe (Binder.replaceOption onSelf binder) (path.replaceSelf onSelf)
  | .lifetime name => .lifetime name
  | .captures params trailing => .captures params trailing
  | .verbatim ts => .verbatim ts

/-- Replaces `Self` in each of some bounds. -/
def Bound.replaceList (onSelf : List Segment → Ty) : List Bound → List Bound
  | [] => []
  | b :: rest => b.replaceSelf onSelf :: Bound.replaceList onSelf rest

/-- Replaces `Self` in what `for` introduces. -/
def Binder.replaceSelf (onSelf : List Segment → Ty) : Binder → Binder
  | .mk params trailing => .mk (GenericParam.replaceList onSelf params) trailing

/-- Replaces `Self` in an optional binder. -/
def Binder.replaceOption (onSelf : List Segment → Ty) : Option Binder → Option Binder
  | some b => some (b.replaceSelf onSelf)
  | none => none

/-- Replaces `Self` in a generic parameter. -/
def GenericParam.replaceSelf (onSelf : List Segment → Ty) : GenericParam → GenericParam
  | .lifetime ⟨attrs, name, bounds, trailing⟩ =>
    .lifetime ⟨Attr.replaceList onSelf attrs, name, bounds, trailing⟩
  | .type attrs name bounds trailing default =>
    .type (Attr.replaceList onSelf attrs) name (Bound.replaceList onSelf bounds) trailing
      (Ty.replaceOption onSelf default)
  | .const attrs name ty default =>
    .const (Attr.replaceList onSelf attrs) name (ty.replaceSelf onSelf)
      (Code.replaceOption onSelf default)

/-- Replaces `Self` in each of some generic parameters. -/
def GenericParam.replaceList (onSelf : List Segment → Ty) : List GenericParam → List GenericParam
  | [] => []
  | p :: rest => p.replaceSelf onSelf :: GenericParam.replaceList onSelf rest

/-- Replaces `Self` in a condition. -/
def WherePredicate.replaceSelf (onSelf : List Segment → Ty) : WherePredicate → WherePredicate
  | .lifetime name bounds trailing => .lifetime name bounds trailing
  | .type binder ty bounds trailing =>
    .type (Binder.replaceOption onSelf binder) (ty.replaceSelf onSelf)
      (Bound.replaceList onSelf bounds) trailing

/-- Replaces `Self` in each of some conditions. -/
def WherePredicate.replaceList (onSelf : List Segment → Ty) :
    List WherePredicate → List WherePredicate
  | [] => []
  | p :: rest => p.replaceSelf onSelf :: WherePredicate.replaceList onSelf rest

/-- Replaces `Self` in the open end of the parameters of a function type. -/
def BareVariadic.replaceOption (onSelf : List Segment → Ty) :
    Option BareVariadic → Option BareVariadic
  | some ⟨attrs, name, comma⟩ => some ⟨Attr.replaceList onSelf attrs, name, comma⟩
  | none => none

/-- Replaces `Self` in the value of an attribute. -/
def Meta.replaceSelf (onSelf : List Segment → Ty) : Meta → Meta
  | .path path => .path path
  | .list path delim closing body => .list path delim closing body
  | .nameValue path value => .nameValue path (value.replaceSelf onSelf)

/-- Replaces `Self` in the value of an attribute. -/
def Attr.replaceSelf (onSelf : List Segment → Ty) : Attr → Attr
  | ⟨inner, content, pos⟩ => ⟨inner, content.replaceSelf onSelf, pos⟩

/-- Replaces `Self` in the values of attributes. -/
def Attr.replaceList (onSelf : List Segment → Ty) : List Attr → List Attr
  | [] => []
  | a :: rest => a.replaceSelf onSelf :: Attr.replaceList onSelf rest

/-- Replaces `Self` in the types of a piece of code. -/
def Code.replaceSelf (onSelf : List Segment → Ty) : Code → Code
  | .tree kind parts =>
    .tree kind (Part.replaceList onSelf parts
      ++ if kind = .receiver then impliedType (onSelf []) parts else [])

/-- Replaces `Self` in the types of an optional piece of code. -/
def Code.replaceOption (onSelf : List Segment → Ty) : Option Code → Option Code
  | some c => some (c.replaceSelf onSelf)
  | none => none

/-- Replaces `Self` in the types of a part. -/
def Part.replaceSelf (onSelf : List Segment → Ty) : Part → Part
  | .group delim parts => .group delim (Part.replaceList onSelf parts)
  | .code c => .code (c.replaceSelf onSelf)
  | .ty (.qualified inner asTrait rest) =>
    .ty (.qualified (inner.replaceSelf onSelf) (Path.replaceOption onSelf asTrait)
      (Segment.replaceList onSelf rest))
  | .ty t => .ty (t.replaceSelf onSelf)
  | .path p => .path (p.replaceSelf onSelf)
  | .args a => .args (a.replaceSelf onSelf)
  | .binder b => .binder (b.replaceSelf onSelf)
  | .mark text => .mark text
  | .word text => .word text
  | .lifetime name => .lifetime name
  | .literal text => .literal text
  | .attr a => .attr (a.replaceSelf onSelf)
  | .simple p => .simple p
  | .raw ts => .raw ts
  | .vis v => .vis v
  | .abi a => .abi a
  | .generics params trailing => .generics (GenericParam.replaceList onSelf params) trailing
  | .bounds bounds trailing => .bounds (Bound.replaceList onSelf bounds) trailing
  | .conditions predicates trailing =>
    .conditions (WherePredicate.replaceList onSelf predicates) trailing

/-- Replaces `Self` in the types of some parts. -/
def Part.replaceList (onSelf : List Segment → Ty) : List Part → List Part
  | [] => []
  | p :: rest => p.replaceSelf onSelf :: Part.replaceList onSelf rest

end

namespace Ty

/-- The type `t` with the type `self` in the place of `Self`. -/
def resolveSelf (t self : Ty) : Ty := t.replaceSelf (selfPath self)

end Ty

namespace Generics

/-- Generic parameters and conditions with the type `self` in the place of `Self`. -/
def resolveSelf (g : Generics) (self : Ty) : Generics :=
  { g with
    params := GenericParam.replaceList (selfPath self) g.params
    predicates := WherePredicate.replaceList (selfPath self) g.predicates }

end Generics

end PatternFactory
