import PatternFactory.PathName

/-!
# Diagnostics

A diagnostic says what is wrong with a declaration or with one of its functions, and where that
stands.  `Diagnostic.sorted` lists diagnostics by declaration, function and place, then by severity
and message; diagnostics that agree in all of this stay in the order of their arrival.
-/

namespace PatternFactory

/-- How bad it is. -/
inductive Severity where
  | warning
  | error
  deriving DecidableEq, Repr, Inhabited

namespace Severity

/-- The word for it. -/
def text : Severity → String
  | warning => "warning"
  | error => "error"

/-- Warnings come before errors. -/
def rank : Severity → Nat
  | warning => 0
  | error => 1

instance : Ord Severity := ⟨fun a b => compare a.rank b.rank⟩

end Severity

/-- Where a declaration or a function stands. -/
structure Origin where
  file : PathName
  line : Nat
  deriving DecidableEq, Repr, Inhabited

namespace Origin

/-- The written form. -/
def text (o : Origin) : String := o.file.text ++ ":" ++ toString o.line

instance : Ord Origin := ⟨fun a b => (compare a.file b.file).then (compare a.line b.line)⟩

end Origin

/-- What a diagnostic is about. -/
structure Attribution where
  declaration : String
  function : Option String
  origin : Origin
  deriving DecidableEq, Repr, Inhabited

namespace Attribution

/-- The declaration, with the function behind it. -/
def text (a : Attribution) : String :=
  match a.function with
  | some f => a.declaration ++ "::" ++ f
  | none => a.declaration

/-- Compares optional names; no name comes first. -/
def compareFunction : Option String → Option String → Ordering
  | none, none => .eq
  | none, some _ => .lt
  | some _, none => .gt
  | some a, some b => compare a b

instance : Ord Attribution :=
  ⟨fun a b => (compare a.declaration b.declaration).then
    ((compareFunction a.function b.function).then (compare a.origin b.origin))⟩

end Attribution

/-- A finding. -/
structure Diagnostic where
  severity : Severity
  message : String
  attribution : Attribution
  /-- The rule that is violated, if the finding is about one. -/
  rule : Option String
  deriving DecidableEq, Repr, Inhabited

namespace Diagnostic

/-- Is it an error? -/
def isError (d : Diagnostic) : Bool := d.severity = .error

/-- The written form: place, severity, declaration and message. -/
def text (d : Diagnostic) : String :=
  d.attribution.origin.text ++ ": " ++ d.severity.text ++ ": " ++ d.attribution.text ++ ": "
    ++ d.message

/-- The order in which diagnostics are listed. -/
def order (a b : Diagnostic) : Ordering :=
  (compare a.attribution b.attribution).then
    ((compare a.severity b.severity).then (compare a.message b.message))

/-- The diagnostics in their order. -/
def sorted (ds : List Diagnostic) : List Diagnostic :=
  ds.mergeSort fun a b => (order a b).isLE

/-- The number of errors. -/
def errorCount (ds : List Diagnostic) : Nat := ds.countP isError

/-- The number of warnings. -/
def warningCount (ds : List Diagnostic) : Nat := ds.countP fun d => !d.isError

end Diagnostic

end PatternFactory
