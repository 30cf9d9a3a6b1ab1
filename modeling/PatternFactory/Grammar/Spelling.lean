import PatternFactory.Grammar.Tree

/-!
# Spelling trees out

`Ty.tokens` and its companions turn a tree back into tokens.  Reading these tokens gives the tree
again, with two liberties: lifetimes are moved to the front of generic arguments, and the single
element of a tuple gets its comma.  Tokens that are spelled out have no places of their own, even if
they are kept as they were read.
-/

namespace PatternFactory

/-! ### Small pieces -/

/-- The tokens of a mark: a keyword or an operator. -/
def markTokens (text : String) : List Token :=
  match text.toList with
  | c :: _ => if c.isAlpha || c = '_' then [.ofWord text] else Token.ofOperator text
  | [] => []

/-- The tokens of a lifetime with its tick, or of a word. -/
def nameTokens (text : String) : List Token :=
  match text.toList with
  | '\'' :: rest => Token.ofLifetime (String.ofList rest)
  | _ => [.ofWord text]

/-- The tokens of a literal; a sign is a token of its own. -/
def literalTokens (text : String) : List Token :=
  match text.toList with
  | '-' :: rest => Token.ofOperator "-" ++ [.ofLiteral (String.ofList rest)]
  | _ => if text = "true" || text = "false" then [.ofWord text] else [.ofLiteral text]

/-- Token sequences with an operator between them. -/
def joinTokens (op : String) : List (List Token) → List Token
  | [] => []
  | [a] => a
  | a :: rest => a ++ Token.ofOperator op ++ joinTokens op rest

/-- Token sequences with an operator between them, and one at the end if `trailing`. -/
def separateTokens (op : String) (trailing : Bool) (items : List (List Token)) : List Token :=
  joinTokens op items ++ if trailing && !items.isEmpty then Token.ofOperator op else []

/-- Items with commas behind them as flagged, those that `first` selects in front.  A comma is
inserted where one is missing between two items. -/
def selectFirst (items : List (Bool × List Token)) (trailing : Bool) : List Token :=
  let flagged := withCommas items
  let front := flagged.filter fun (first, _, _) => first
  let back := flagged.filter fun (first, _, _) => !first
  write true (front ++ back)
where
  withCommas : List (Bool × List Token) → List (Bool × Bool × List Token)
    | [] => []
    | [(first, ts)] => [(first, trailing, ts)]
    | (first, ts) :: rest => (first, true, ts) :: withCommas rest
  write (separatedBefore : Bool) : List (Bool × Bool × List Token) → List Token
    | [] => []
    | (_, comma, ts) :: rest =>
      (if separatedBefore then [] else Token.ofOperator ",") ++ ts
        ++ (if comma then Token.ofOperator "," else []) ++ write comma rest

/-- A keyword that may be missing. -/
def wordIf (present : Bool) (w : String) : List Token := if present then [.ofWord w] else []

namespace SimplePath

/-- The tokens of a path of plain words. -/
def tokens (p : SimplePath) : List Token :=
  (if p.leading then Token.ofOperator "::" else [])
    ++ joinTokens "::" (p.words.map fun w => [.ofWord w])

end SimplePath

namespace Abi

/-- The tokens of a calling convention. -/
def tokens (a : Abi) : List Token := .ofWord "extern" :: (a.name.map Token.ofLiteral).toList

end Abi

namespace Visibility

/-- The tokens of a visibility. -/
def tokens : Visibility → List Token
  | inherited => []
  | «public» => [.ofWord "pub"]
  | restricted hasIn path =>
    [.ofWord "pub", .ofGroup .paren (wordIf hasIn "in" ++ path.tokens)]

end Visibility

namespace GenericArg

/-- Is it a lifetime? -/
def isLifetime : GenericArg → Bool
  | lifetime _ => true
  | _ => false

end GenericArg

/-- The name in front of the type of a parameter. -/
def paramNameTokens : Option String → List Token
  | some name => .ofWord name :: Token.ofOperator ":"
  | none => []

/-- Lifetimes that another one outlives. -/
def outlivedTokens (bounds : List String) (trailing : Bool) : List Token :=
  separateTokens "+" trailing (bounds.map Token.ofLifetime)

/-! ### Trees -/

mutual

/-- The tokens of a type. -/
def Ty.tokens : Ty → List Token
  | .array elem len => [.ofGroup .bracket (elem.tokens ++ Token.ofOperator ";" ++ len.tokens)]
  | .bareFn binder isUnsafe abi inputs trailing variadic output =>
    Binder.optionTokens binder ++ wordIf isUnsafe "unsafe" ++ ((abi.map Abi.tokens).getD [])
      ++ [.ofWord "fn", .ofGroup .paren (separateTokens "," trailing (BareArg.listTokens inputs)
        ++ (match variadic with
          | some v =>
            (if inputs.isEmpty || trailing then [] else Token.ofOperator ",")
              ++ BareVariadic.tokens v
          | none => []))]
      ++ Ty.outputTokens output
  | .implTrait bounds trailing =>
    .ofWord "impl" :: separateTokens "+" trailing (Bound.listTokens bounds)
  | .infer => [.ofWord "_"]
  | .macroCall path delim body =>
    path.tokens ++ Token.ofOperator "!" ++ [.ofGroup delim (Tokens.unplaced body)]
  | .never => Token.ofOperator "!"
  | .paren elem => [.ofGroup .paren elem.tokens]
  | .path path => path.tokens
  | .qualified self asTrait rest =>
    Token.ofOperator "<" ++ self.tokens ++ Path.asTokens asTrait ++ Token.ofOperator ">"
      ++ Token.ofOperator "::" ++ joinTokens "::" (Segment.listTokens rest)
  | .ptr isMut elem =>
    Token.ofOperator "*" ++ [.ofWord (if isMut then "mut" else "const")] ++ elem.tokens
  | .reference lifetime isMut elem =>
    Token.ofOperator "&" ++ ((lifetime.map Token.ofLifetime).getD []) ++ wordIf isMut "mut"
      ++ elem.tokens
  | .slice elem => [.ofGroup .bracket elem.tokens]
  | .traitObject hasDyn bounds trailing =>
    wordIf hasDyn "dyn" ++ separateTokens "+" trailing (Bound.listTokens bounds)
  | .tuple elems trailing =>
    [.ofGroup .paren (separateTokens "," (trailing || elems.length = 1) (Ty.listTokens elems))]
  | .verbatim ts => Tokens.unplaced ts

/-- The tokens of each of some types. -/
def Ty.listTokens : List Ty → List (List Token)
  | [] => []
  | t :: ts => t.tokens :: Ty.listTokens ts

/-- The tokens of a return type with its arrow. -/
def Ty.outputTokens : Option Ty → List Token
  | some t => Token.ofOperator "->" ++ t.tokens
  | none => []

/-- The tokens of a default type with its sign. -/
def Ty.defaultTokens : Option Ty → List Token
  | some t => Token.ofOperator "=" ++ t.tokens
  | none => []

/-- The tokens of a parameter of a function type. -/
def BareArg.tokens : BareArg → List Token
  | .mk attrs name ty => Attr.listTokens attrs ++ paramNameTokens name ++ ty.tokens

/-- The tokens of each of some parameters of a function type. -/
def BareArg.listTokens : List BareArg → List (List Token)
  | [] => []
  | a :: rest => a.tokens :: BareArg.listTokens rest

/-- The tokens of a path. -/
def Path.tokens : Path → List Token
  | .mk leading segments =>
    (if leading then Token.ofOperator "::" else [])
      ++ joinTokens "::" (Segment.listTokens segments)

/-- The tokens of the trait in a qualified path. -/
def Path.asTokens : Option Path → List Token
  | some p => .ofWord "as" :: p.tokens
  | none => []

/-- The tokens of a segment. -/
def Segment.tokens : Segment → List Token
  | .mk name args => .ofWord name :: args.tokens

/-- The tokens of each of some segments. -/
def Segment.listTokens : List Segment → List (List Token)
  | [] => []
  | s :: rest => s.tokens :: Segment.listTokens rest

/-- The tokens of generic arguments; lifetimes come first. -/
def Args.tokens : Args → List Token
  | .none => []
  | .angle turbofish args trailing =>
    (if turbofish then Token.ofOperator "::" else []) ++ Token.ofOperator "<"
      ++ selectFirst (GenericArg.flaggedTokens args) trailing ++ Token.ofOperator ">"
  | .paren inputs trailing output =>
    .ofGroup .paren (separateTokens "," trailing (Ty.listTokens inputs)) :: Ty.outputTokens output

/-- The tokens of a generic argument. -/
def GenericArg.tokens : GenericArg → List Token
  | .lifetime name => Token.ofLifetime name
  | .type ty => ty.tokens
  | .const value => value.tokens
  | .assocType name args ty => .ofWord name :: args.tokens ++ Token.ofOperator "=" ++ ty.tokens
  | .assocConst name args value =>
    .ofWord name :: args.tokens ++ Token.ofOperator "=" ++ value.tokens
  | .constraint name args bounds trailing =>
    .ofWord name :: args.tokens ++ Token.ofOperator ":"
      ++ separateTokens "+" trailing (Bound.listTokens bounds)

/-- The tokens of each of some generic arguments; lifetimes are flagged. -/
def GenericArg.flaggedTokens : List GenericArg → List (Bool × List Token)
  | [] => []
  | a :: rest => (a.isLifetime, a.tokens) :: GenericArg.flaggedTokens rest

/-- The tokens of a bound. -/
def Bound.tokens : Bound → List Token
  | .trait parens isMaybe binder path =>
    let inside := Binder.optionTokens binder
      ++ (if isMaybe then Token.ofOperator "?" else []) ++ path.tokens
    if parens then [.ofGroup .paren inside] else inside
  | .lifetime name => Token.ofLifetime name
  | .captures params trailing =>
    .ofWord "use" :: Token.ofOperator "<"
      ++ selectFirst (params.map fun p => (p.startsWith "'", nameTokens p)) trailing
      ++ Token.ofOperator ">"
  | .verbatim ts => Tokens.unplaced ts

/-- The tokens of each of some bounds. -/
def Bound.listTokens : List Bound → List (List Token)
  | [] => []
  | b :: rest => b.tokens :: Bound.listTokens rest

/-- The tokens of what `for` introduces. -/
def Binder.tokens : Binder → List Token
  | .mk params trailing =>
    .ofWord "for" :: Token.ofOperator "<"
      ++ separateTokens "," trailing (GenericParam.listTokens params) ++ Token.ofOperator ">"

/-- The tokens of an optional binder. -/
def Binder.optionTokens : Option Binder → List Token
  | some b => b.tokens
  | none => []

/-- The tokens of a generic parameter. -/
def GenericParam.tokens : GenericParam → List Token
  | .lifetime ⟨attrs, name, bounds, trailing⟩ =>
    Attr.listTokens attrs ++ Token.ofLifetime name
      ++ if bounds.isEmpty then [] else Token.ofOperator ":" ++ outlivedTokens bounds trailing
  | .type attrs name bounds trailing default =>
    Attr.listTokens attrs ++ .ofWord name :: (if bounds.isEmpty then []
      else Token.ofOperator ":" ++ separateTokens "+" trailing (Bound.listTokens bounds))
      ++ Ty.defaultTokens default
  | .const attrs name ty default =>
    Attr.listTokens attrs ++ [.ofWord "const", .ofWord name] ++ Token.ofOperator ":" ++ ty.tokens
      ++ Code.defaultTokens default

/-- The tokens of each of some generic parameters. -/
def GenericParam.listTokens : List GenericParam → List (List Token)
  | [] => []
  | p :: rest => p.tokens :: GenericParam.listTokens rest

/-- The tokens of each of some generic parameters; lifetimes are flagged. -/
def GenericParam.flaggedTokens : List GenericParam → List (Bool × List Token)
  | [] => []
  | p :: rest => (p.isLifetime, p.tokens) :: GenericParam.flaggedTokens rest

/-- The tokens of a condition. -/
def WherePredicate.tokens : WherePredicate → List Token
  | .lifetime name bounds trailing =>
    Token.ofLifetime name ++ Token.ofOperator ":" ++ outlivedTokens bounds trailing
  | .type binder ty bounds trailing =>
    Binder.optionTokens binder ++ ty.tokens ++ Token.ofOperator ":"
      ++ separateTokens "+" trailing (Bound.listTokens bounds)

/-- The tokens of each of some conditions. -/
def WherePredicate.listTokens : List WherePredicate → List (List Token)
  | [] => []
  | p :: rest => p.tokens :: WherePredicate.listTokens rest

/-- The tokens of the open end of the parameters of a function type. -/
def BareVariadic.tokens : BareVariadic → List Token
  | ⟨attrs, name, comma⟩ =>
    Attr.listTokens attrs ++ paramNameTokens name ++ Token.ofOperator "..."
      ++ if comma then Token.ofOperator "," else []

/-- The tokens of the content of an attribute. -/
def Meta.tokens : Meta → List Token
  | .path path => path.tokens
  | .list path delim _ body => path.tokens ++ [.ofGroup delim (Tokens.unplaced body)]
  | .nameValue path value => path.tokens ++ Token.ofOperator "=" ++ value.tokens

/-- The tokens of an attribute. -/
def Attr.tokens : Attr → List Token
  | ⟨inner, content, _⟩ =>
    Token.ofOperator "#" ++ (if inner then Token.ofOperator "!" else [])
      ++ [.ofGroup .bracket content.tokens]

/-- The tokens of attributes. -/
def Attr.listTokens : List Attr → List Token
  | [] => []
  | a :: rest => a.tokens ++ Attr.listTokens rest

/-- The tokens of a piece of code. -/
def Code.tokens : Code → List Token
  | .tree _ parts => Part.listTokens parts

/-- The tokens of a default value with its sign. -/
def Code.defaultTokens : Option Code → List Token
  | some c => Token.ofOperator "=" ++ c.tokens
  | none => []

/-- The tokens of a part. -/
def Part.tokens : Part → List Token
  | .mark text => markTokens text
  | .word text => [.ofWord text]
  | .lifetime name => Token.ofLifetime name
  | .literal text => literalTokens text
  | .group delim parts => [.ofGroup delim (Part.listTokens parts)]
  | .code c => c.tokens
  | .ty t => t.tokens
  | .path p => p.tokens
  | .args a => a.tokens
  | .attr a => a.tokens
  | .binder b => b.tokens
  | .simple p => p.tokens
  | .raw ts => Tokens.unplaced ts
  | .vis v => v.tokens
  | .abi a => a.tokens
  | .generics params trailing =>
    Token.ofOperator "<" ++ selectFirst (GenericParam.flaggedTokens params) trailing
      ++ Token.ofOperator ">"
  | .bounds bounds trailing => separateTokens "+" trailing (Bound.listTokens bounds)
  | .conditions predicates trailing =>
    .ofWord "where" :: separateTokens "," trailing (WherePredicate.listTokens predicates)

/-- The tokens of some parts. -/
def Part.listTokens : List Part → List Token
  | [] => []
  | p :: rest => p.tokens ++ Part.listTokens rest

end

namespace Ty

/-- How the type is quoted in messages. -/
def text (t : Ty) : String := Tokens.text t.tokens

end Ty

end PatternFactory
