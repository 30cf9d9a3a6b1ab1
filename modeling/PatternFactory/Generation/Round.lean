import PatternFactory.Factory.Renderer
import PatternFactory.Failure

/-!
# Rounds

A round turns declarations into units and hands these to an emitter.  `Generator.collect` makes the
units: one for each name that exactly one eligible declaration derives.  If several declarations
derive a name, all of them are reported and none gets a unit.  `Generator.runRound` then emits the
units in the order of their names and stops at the first that cannot be emitted.
-/

namespace PatternFactory

/-- A unit that is ready to be emitted. -/
structure GeneratedUnit where
  name : QualifiedName
  text : String
  deriving DecidableEq, Repr

/-- What units are made with. -/
structure Generator where
  markers : Markers
  suffix : String
  arityLimit : Nat
  renderer : Renderer

/-- The units of a round, in the order of their names, and the diagnostics on the way to them. -/
structure Collection where
  units : List GeneratedUnit
  diagnostics : List Diagnostic

/-- A diagnostic for each of several declarations that derive one name; each names the others. -/
def collisionDiagnostics (name : QualifiedName) (parties : List Declaration) : List Diagnostic :=
  let parties := parties.mergeSort fun a b => (compare a.origin b.origin).isLE
  parties.zipIdx.map fun (d, i) =>
    let others := (parties.eraseIdx i).map fun other =>
      "`" ++ other.displayName ++ "` at " ++ other.origin.text
    ⟨.error, "name collision: derived unit `" ++ name.text ++ "` is also produced by "
      ++ ", ".intercalate others, ⟨d.displayName, none, d.origin⟩, some "name collision"⟩

/-- Names in their order, each once. -/
def distinctNames (names : List QualifiedName) : List QualifiedName :=
  names.eraseDups.mergeSort fun a b => (compare a b).isLE

namespace Generator

/-- The generator that a configuration describes, with a renderer. -/
def ofConfig (c : Config) (renderer : Renderer) : Generator :=
  ⟨c.markers, c.suffix, c.arityLimit, renderer⟩

/-! ### Collecting -/

variable (g : Generator)

/-- What is declared by the items that were found. -/
def declarations (found : List MarkedDeclaration) : List Declaration :=
  found.map (MarkedDeclaration.declaration g.markers)

/-- The name of the unit for a declaration. -/
def unitName (d : Declaration) : QualifiedName := d.unitName g.suffix

/-- The declarations that are eligible. -/
def eligible (ds : List Declaration) : List Declaration :=
  ds.filter fun d => d.isEligible g.arityLimit

/-- The names that eligible declarations derive, in their order. -/
def unitNames (ds : List Declaration) : List QualifiedName :=
  distinctNames ((g.eligible ds).map g.unitName)

/-- The eligible declarations that derive a name. -/
def parties (ds : List Declaration) (name : QualifiedName) : List Declaration :=
  (g.eligible ds).filter fun d => g.unitName d = name

/-- The unit of a name, if one declaration alone derives it. -/
def unit? (ds : List Declaration) (name : QualifiedName) : Except Failure (Option GeneratedUnit) :=
  match g.parties ds name with
  | [d] =>
    match g.renderer name.name d with
    | some text => .ok (some ⟨name, text⟩)
    | none => .error (.unrenderable name)
  | _ => .ok none

/-- The diagnostics about a name, if several declarations derive it. -/
def nameDiagnostics (ds : List Declaration) (name : QualifiedName) : List Diagnostic :=
  match g.parties ds name with
  | [_] => []
  | parties => collisionDiagnostics name parties

/-- The diagnostics about the declarations, and then those about their names. -/
def diagnostics (ds : List Declaration) : List Diagnostic :=
  ds.flatMap (Declaration.diagnostics · g.arityLimit)
    ++ (g.unitNames ds).flatMap (g.nameDiagnostics ds)

/-- The units for some declarations. -/
def collect (found : List MarkedDeclaration) : Except Failure Collection := do
  let ds := g.declarations found
  let units ← (g.unitNames ds).mapM (g.unit? ds)
  return ⟨units.filterMap id, g.diagnostics ds⟩

end Generator

/-! ### Emitting -/

/-- Takes the text of a unit, and may fail. -/
abbrev Emitter (m : Type → Type) := QualifiedName → String → m (Except FileError Unit)

/-- What came of a round. -/
structure RoundReport where
  round : Nat
  /-- The number of declarations. -/
  declarations : Nat
  emitted : List QualifiedName
  deriving DecidableEq, Repr

namespace RoundReport

/-- The number of declarations that got no unit. -/
def excluded (r : RoundReport) : Nat := r.declarations - r.emitted.length

/-- Was there nothing to do? -/
def isIdle (r : RoundReport) : Bool := r.declarations = 0

end RoundReport

/-- A value, or the failure in its place, with the diagnostics on the way there. -/
structure Reported (α : Type) where
  diagnostics : List Diagnostic
  result : Except Failure α

variable {m : Type → Type} [Monad m]

/-- Emits units until one cannot be emitted. -/
def emitAll (emit : Emitter m) : List GeneratedUnit → m (Except Failure Unit)
  | [] => return .ok ()
  | u :: rest => do
    match ← emit u.name u.text with
    | .error cause => return .error (.emission u.name cause)
    | .ok () => emitAll emit rest

/-- Runs a round and gives the units that are emitted. -/
def Generator.runRound (g : Generator) (emit : Emitter m) (found : List MarkedDeclaration) :
    m (Reported (List GeneratedUnit)) := do
  match g.collect found with
  | .error failure => return ⟨[], .error failure⟩
  | .ok c =>
    match ← emitAll emit c.units with
    | .error failure => return ⟨c.diagnostics, .error failure⟩
    | .ok () => return ⟨c.diagnostics, .ok c.units⟩

/-- The report on a round that emitted the units. -/
def roundReport (round : Nat) (found : List MarkedDeclaration) (units : List GeneratedUnit) :
    RoundReport :=
  ⟨round, found.length, units.map GeneratedUnit.name⟩

end PatternFactory
