import PatternFactory.Grammar.File
import PatternFactory.Name.Namespace
import PatternFactory.Name.Qualified
import PatternFactory.Token.StringLiteral

/-!
# Markers

Two attributes mark what is generated from: one stands on declarations and one on their extractor
functions.  An attribute is recognised by the last word of its path.  The marker of a declaration
may give the declaration another name.
-/

namespace PatternFactory

/-- The words by which the markers are recognised. -/
structure Markers where
  /-- The marker of declarations. -/
  declaration : String
  /-- The marker of extractors. -/
  extractor : String
  deriving DecidableEq, Repr, Inhabited

/-- The first of the attributes whose path ends with the word. -/
def findMarker (attrs : List Attr) (word : String) : Option Attr :=
  attrs.find? fun a => a.meta.name.words.getLast? = some word

namespace Markers

/-- The marker of a declaration among its attributes. -/
def onDeclaration? (m : Markers) (attrs : List Attr) : Option Attr := findMarker attrs m.declaration

/-- Do the attributes mark an extractor? -/
def onExtractor (m : Markers) (attrs : List Attr) : Bool :=
  (findMarker attrs m.extractor).isSome

end Markers

/-- May a declaration be given this name?  It is `$` or consists of identifiers. -/
def isBaseName (name : String) : Bool :=
  name = placeholderName || ((splitName name).all isIdentifier && !(splitName name).isEmpty)

/-! ### Marker arguments -/

/-- What is wrong with the arguments of a marker. -/
inductive MarkerFault where
  | syntaxFault (fault : SyntaxFault)
  | unsupportedArgument
  | badName (name : String)
  | value
  deriving DecidableEq, Repr

namespace MarkerFault

/-- The wording, for a marker of the given name. -/
def message (marker : String) : MarkerFault → String
  | syntaxFault fault => fault.message
  | unsupportedArgument => "unsupported #[" ++ marker ++ "] argument"
  | badName name =>
    "#[" ++ marker ++ "] name '" ++ name ++ "' must be `$` or an identifier path"
  | value => "expected #[" ++ marker ++ "] or #[" ++ marker ++ "(name = \"...\")]"

end MarkerFault

namespace MarkerArguments

open Reader

/-- The path in front of an argument; its words may be reserved. -/
def argumentPath : Reader SimplePath := do
  let leading ← op? "::"
  if !(← sees .anyIdent) then
    if ← atEnd then fail "expected nested attribute"
    else if ← sees .literal then fail "unexpected literal in nested attribute, expected ident"
    else fail "unexpected token in nested attribute, expected ident"
  let (words, _) ← joined "::" (pure false) anyWord
  return ⟨leading, words⟩

/-- The arguments up to the first that is not supported.  The name that is given last counts. -/
def arguments : Reader (Option String × Bool) := do
  let (name, supported, _) ← iterate (fun (name, _, go) => do
    if !go || (← atEnd) then return none
    let path ← argumentPath
    if !path.isWord "name" then return some (name, false, false)
    op "="
    let name := some (stringValue (← stringLiteral))
    if ← atEnd then return some (name, true, false)
    op ","
    return some (name, true, true)) ((none : Option String), true, true)
  if !supported then
    let _ ← remaining
  return (name, supported)

end MarkerArguments

/-- The name that the marker gives to its declaration. -/
def nameOverride (marker : Attr) : Except MarkerFault (Option String) :=
  match marker.meta with
  | .path _ => .ok none
  | .list _ _ closing body =>
    match MarkerArguments.arguments.run body closing with
    | .error e => .error (.syntaxFault e.fault)
    | .ok (_, false) => .error .unsupportedArgument
    | .ok (some name, true) => if isBaseName name then .ok (some name) else .error (.badName name)
    | .ok (none, true) => .ok none
  | .nameValue _ _ => .error .value

end PatternFactory
