import PatternFactory.Declaration.Basic

/-!
# Validation

An extractor takes the value by itself or by a shared reference, and returns an `Option` of a tuple
that is not too wide.  A declaration is eligible if it has extractors and none of them violates a
rule; all violations are reported.
-/

namespace PatternFactory

/-- The largest number of components that a pattern can have. -/
def maxArity : Nat := 8

/-- The rules for extractors. -/
inductive Rule where
  | instanceBound
  | wrongArity (found : Nat)
  | mutableParameter
  | returnShape
  | arityTooWide (width limit : Nat)
  | notAccessible
  | async
  deriving DecidableEq, Repr

namespace Rule

/-- The name of the rule. -/
def name : Rule → String
  | instanceBound => "instance-bound"
  | wrongArity _ => "wrong arity"
  | mutableParameter => "mutable parameter"
  | returnShape => "return shape"
  | arityTooWide _ _ => "arity too wide"
  | notAccessible => "not accessible"
  | async => "async"

/-- What the rule says. -/
def explanation : Rule → String
  | instanceBound => "extractor must not take a `self` receiver"
  | wrongArity found => "expected exactly one parameter, found " ++ toString found
  | mutableParameter => "the decomposed value must be taken by value or by shared reference"
  | returnShape => "return type must be `Option<(..)>`"
  | arityTooWide width limit =>
    "tuple width " ++ toString width ++ " exceeds the maximum pattern arity " ++ toString limit
  | notAccessible => "extractor must be visible outside its declaration"
  | async => "extractor must not be `async`"

/-- The wording of a violation. -/
def text (r : Rule) : String := r.name ++ ": " ++ r.explanation

end Rule

/-- A rule as a list, if it is violated. -/
def violationIf (violated : Bool) (r : Rule) : List Rule := if violated then [r] else []

namespace Method

/-- The violation of the rule on the return type. -/
def returnViolation (m : Method) (limit : Nat) : List Rule :=
  match m.components? with
  | none => [.returnShape]
  | some components =>
    violationIf (limit < components.length) (.arityTooWide components.length limit)

/-- The rules that the function violates as an extractor. -/
def violations (m : Method) (arityLimit : Nat) : List Rule :=
  let limit := min arityLimit maxArity
  let types := m.paramTypes
  violationIf m.hasReceiver .instanceBound
    ++ violationIf (types.length ≠ 1) (.wrongArity types.length)
    ++ violationIf (types.any Ty.isMutRef) .mutableParameter
    ++ m.returnViolation limit
    ++ violationIf (m.item.vis = .inherited) .notAccessible
    ++ violationIf m.item.sig.isAsync .async

end Method

namespace Declaration

/-- The diagnostics about one extractor. -/
def extractorDiagnostics (d : Declaration) (arityLimit : Nat) (m : Method) : List Diagnostic :=
  (m.violations arityLimit).map fun r =>
    ⟨.error, r.text, ⟨d.displayName, some m.name, ⟨d.origin.file, m.line⟩⟩, some r.name⟩

/-- The diagnostics about a declaration. -/
def diagnostics (d : Declaration) (arityLimit : Nat) : List Diagnostic :=
  if d.extractors.isEmpty then
    [⟨.warning, "No #[unapply] functions found.", ⟨d.displayName, none, d.origin⟩, none⟩]
  else d.extractors.flatMap (d.extractorDiagnostics arityLimit)

/-- May a unit be generated for the declaration? -/
def isEligible (d : Declaration) (arityLimit : Nat) : Bool :=
  !d.extractors.isEmpty && d.extractors.all fun m => (m.violations arityLimit).isEmpty

end Declaration

end PatternFactory
