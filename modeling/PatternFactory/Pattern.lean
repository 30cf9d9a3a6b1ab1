/-!
# Patterns

A pattern is applied to a value and either does not match or gives an output.  `any` and `bind`
match everything, `equals` one value, and a compound pattern takes the value apart by its extractor
and applies its parts to the components, as its wiring says.  The type `V` holds the values of all
types that a pattern looks into, and a tuple of components is a list of them.
-/

namespace PatternFactory

/-- Patterns for values of type `V`. -/
inductive Pattern (V : Type) where
  | any
  | bind
  | equals (expected : V)
  | compound (extract : V → Option (List V)) (parts : List (Pattern V))

instance {V : Type} : Inhabited (Pattern V) := ⟨.any⟩

/-- What a pattern gives when it matches. -/
inductive Output (V : Type) where
  | unit
  | bound (value : V)
  | tuple (parts : List (Output V))

namespace Output

variable {V : Type}

/-- The output of a compound pattern from the outputs of its parts. -/
def ofParts : List (Output V) → Output V
  | [] => unit
  | parts => tuple parts

end Output

variable {V : Type} [BEq V]

/-- Which component each part of a compound pattern is applied to, by the number of parts.  There is
one type of compound patterns for each number up to eight. -/
def Pattern.wiring : Nat → List Nat
  | 1 => [0]
  | 2 => [0, 1]
  | 3 => [0, 1, 2]
  | 4 => [0, 1, 2, 3]
  | 5 => [0, 1, 2, 3, 4]
  | 6 => [0, 1, 2, 3, 4, 5]
  | 7 => [0, 1, 2, 3, 4, 5, 6]
  | 8 => [0, 1, 2, 3, 4, 5, 6, 7]
  | _ => []

mutual

/-- Applies a pattern to a value. -/
def Pattern.apply (value : V) : Pattern V → Option (Output V)
  | .any => some .unit
  | .bind => some (.bound value)
  | .equals expected => if value == expected then some .unit else none
  | .compound extract parts =>
    match extract value with
    | some components =>
      if components.length = parts.length then
        (Pattern.applyEach components (Pattern.wiring parts.length) parts).map .ofParts
      else none
    | none => none

/-- Applies each pattern to the component that its wire leads to. -/
def Pattern.applyEach (components : List V) (wires : List Nat) :
    List (Pattern V) → Option (List (Output V))
  | [] => some []
  | p :: rest =>
    match wires with
    | i :: more =>
      match components[i]? with
      | some c =>
        match p.apply c, Pattern.applyEach components more rest with
        | some o, some os => some (o :: os)
        | _, _ => none
      | none => none
    | [] => none

end

/-- Does the pattern match the value? -/
def Pattern.matches (p : Pattern V) (value : V) : Bool := (p.apply value).isSome

end PatternFactory
