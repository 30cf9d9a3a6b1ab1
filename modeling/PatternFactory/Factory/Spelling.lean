import PatternFactory.Factory.Basic
import PatternFactory.Grammar.Spelling
import PatternFactory.Token.Lexer

/-!
# Spelling factories and units out

`Factory.tokens` spells a factory as a function that calls the runtime's constructor of patterns,
and `Declaration.unitTokens` a whole unit: a struct without fields and an impl block with the
factories.
-/

namespace PatternFactory

/-- The tokens of a documentation comment. -/
def commentTokens (text : String) : List Token :=
  Token.ofOperator "#" ++ [.ofGroup .bracket (.ofWord "doc" :: Token.ofOperator "="
    ++ [.ofLiteral (Lexer.stringLiteral text.toList)])]

/-- Token sequences with a comma behind each. -/
def commaBehindEach (items : List (List Token)) : List Token :=
  items.flatMap fun ts => ts ++ Token.ofOperator ","

/-- Words with commas between them. -/
def wordList (words : List String) : List Token :=
  joinTokens "," (words.map fun w => [.ofWord w])

namespace Factory

/-- The tokens of a name in the runtime. -/
def runtimeTokens (rt : Path) (name : String) : List Token :=
  rt.tokens ++ Token.ofOperator "::" ++ [.ofWord name]

/-- The tokens of the generic parameters; lifetimes are in front. -/
def genericTokens (f : Factory) : List Token :=
  let params := GenericParam.listTokens f.generics.params
    ++ f.patternParams.map fun p => [.ofWord p]
  if params.isEmpty then []
  else Token.ofOperator "<" ++ joinTokens "," params ++ Token.ofOperator ">"

/-- The condition that ties a pattern to its component. -/
def tieTokens (rt : Path) (param : String) (component : Ty) : List Token :=
  .ofWord param :: Token.ofOperator ":" ++ runtimeTokens rt "Pattern" ++ Token.ofOperator "<"
    ++ component.tokens ++ Token.ofOperator ">"

/-- The tokens of the conditions. -/
def whereTokens (rt : Path) (f : Factory) : List Token :=
  let own := f.generics.predicates.map WherePredicate.tokens
  let ties := (f.patternParams.zip f.components).map fun (p, c) => tieTokens rt p c
  if (own ++ ties).isEmpty then [] else .ofWord "where" :: joinTokens "," (own ++ ties)

/-- The tokens of the pattern type with its arguments. -/
def patternTokens (rt : Path) (f : Factory) : List Token :=
  runtimeTokens rt f.patternType ++ Token.ofOperator "<" ++ f.subject.tokens ++ Token.ofOperator ","
    ++ commaBehindEach (Ty.listTokens f.components) ++ wordList f.patternParams
    ++ Token.ofOperator ">"

/-- The tokens by which the extractor is called. -/
def calleeTokens (f : Factory) : List Token :=
  (match f.kind with
    | .impl selfTy _ => Token.ofOperator "<" ++ selfTy.tokens ++ Token.ofOperator ">"
    | .module name => [.ofWord name]) ++ Token.ofOperator "::" ++ [.ofWord f.extractor]

/-- The tokens of the value that the extractor is given. -/
def valueTokens (f : Factory) : List Token :=
  if f.byReference then [.ofWord "value"]
  else
    Token.ofOperator "::" ++ joinTokens "::" [[.ofWord "core"], [.ofWord "clone"],
      [.ofWord "Clone"], [.ofWord "clone"]] ++ [.ofGroup .paren [.ofWord "value"]]

/-- The tokens of the closure that calls the extractor. -/
def closureTokens (f : Factory) : List Token :=
  Token.ofOperator "|" ++ .ofWord "value" :: Token.ofOperator ":" ++ Token.ofOperator "&"
    ++ f.subject.tokens ++ Token.ofOperator "|" ++ f.calleeTokens
    ++ [.ofGroup .paren f.valueTokens]

/-- The tokens of the body. -/
def bodyTokens (rt : Path) (f : Factory) : List Token :=
  runtimeTokens rt f.patternType ++ Token.ofOperator "::" ++ [.ofWord "new",
    .ofGroup .paren (f.closureTokens ++ Token.ofOperator "," ++ wordList f.args)]

/-- The tokens of a factory. -/
def tokens (rt : Path) (f : Factory) : List Token :=
  let args := (f.args.zip f.patternParams).map fun (a, p) =>
    .ofWord a :: Token.ofOperator ":" ++ [.ofWord p]
  commentTokens (" Pattern backed by `" ++ f.declaration ++ "::" ++ f.extractor ++ "`.")
    ++ [.ofWord "pub", .ofWord "fn", .ofWord f.name] ++ f.genericTokens
    ++ .ofGroup .paren (joinTokens "," args) :: Token.ofOperator "->" ++ f.patternTokens rt
    ++ f.whereTokens rt ++ [.ofGroup .brace (f.bodyTokens rt)]

end Factory

namespace Declaration

/-- The tokens of the unit of the given name. -/
def unitTokens (rt : Path) (name : String) (d : Declaration) : List Token :=
  commentTokens (" Pattern factories for `" ++ d.displayName ++ "`.")
    ++ [.ofWord "pub", .ofWord "struct", .ofWord name] ++ Token.ofOperator ";"
    ++ [.ofWord "impl", .ofWord name,
      .ofGroup .brace (d.factories.flatMap (Factory.tokens rt))]

end Declaration

end PatternFactory
