import PatternFactory.Generation.Round

/-!
# Units in memory

A store keeps the units that are emitted.  A name can be emitted once only.
-/

namespace PatternFactory

/-- The units that are emitted, in the order of their arrival. -/
structure UnitStore where
  arrived : List GeneratedUnit
  deriving DecidableEq, Repr

namespace UnitStore

/-- The store without units. -/
def empty : UnitStore := ⟨[]⟩

/-- The text of a unit. -/
def get? (s : UnitStore) (name : QualifiedName) : Option String :=
  (s.arrived.find? fun u => u.name = name).map GeneratedUnit.text

/-- Is there a unit of this name? -/
def contains (s : UnitStore) (name : QualifiedName) : Bool := s.arrived.any fun u => u.name = name

/-- The units in the order of their names. -/
def units (s : UnitStore) : List GeneratedUnit :=
  s.arrived.mergeSort fun a b => (compare a.name b.name).isLE

/-- The names of the units in their order. -/
def names (s : UnitStore) : List QualifiedName := s.units.map GeneratedUnit.name

/-- The number of units. -/
def size (s : UnitStore) : Nat := s.arrived.length

/-- Adds a unit, unless there is one of its name. -/
def insert (s : UnitStore) (name : QualifiedName) (text : String) :
    Except FileError UnitStore :=
  if s.contains name then .error (.alreadyEmitted name) else .ok ⟨s.arrived ++ [⟨name, text⟩]⟩

/-- Emits units into the store that is the state. -/
def emitter {m : Type → Type} [Monad m] : Emitter (StateT UnitStore m) := fun name text s =>
  match s.insert name text with
  | .ok s => return (.ok (), s)
  | .error cause => return (.error cause, s)

end UnitStore

end PatternFactory
