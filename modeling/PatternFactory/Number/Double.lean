/-!
# Numbers with a binary point

A number of double precision is `significand * 2 ^ exponent` with a significand of at most 53 bits.
`Double.ofRatio?` rounds a fraction to the nearest such number, a tie going to the even significand,
and `Double.shortest` gives the decimal number with the fewest digits that is rounded to it, the
nearest one if there are several.
-/

namespace PatternFactory

/-- A number of double precision that is not negative. -/
structure Double where
  significand : Nat
  exponent : Int
  deriving DecidableEq, Repr

namespace Double

/-- The number of bits of a significand. -/
def precision : Nat := 53

/-- The first number with too many bits for a significand. -/
def bound : Nat := Nat.pow 2 precision

/-- The smallest exponent. -/
def leastExponent : Int := -1074

/-- The largest exponent. -/
def greatestExponent : Int := 971

/-- `base ^ e` as a fraction. -/
def power (base : Nat) (e : Int) : Nat × Nat :=
  if 0 ≤ e then (Nat.pow base e.toNat, 1) else (1, Nat.pow base (-e).toNat)

/-- The quotient of two numbers, rounded to the nearest, a tie to the even one. -/
def roundDiv (n d : Nat) : Nat :=
  let q := n / d
  let twice := 2 * (n % d)
  if d < twice || (twice = d && q % 2 = 1) then q + 1 else q

/-- The largest `e` with `2 ^ e ≤ n / d`, or one less than that. -/
def logEstimate (n d : Nat) : Int := (n.log2 : Int) - (d.log2 : Int) - 1

/-- Rounds `n / d` to a multiple of `2 ^ e`. -/
def roundAt (n d : Nat) (e : Int) : Nat :=
  let (a, b) := power 2 e
  roundDiv (n * b) (d * a)

/-- The number of double precision nearest to `n / d`, if it is not too large. -/
def ofRatio? (n d : Nat) : Option Double :=
  if n = 0 then some ⟨0, leastExponent⟩
  else
    let low := max leastExponent (logEstimate n d - ((precision : Int) - 1))
    let e := if roundAt n d low < bound then low else low + 1
    let m := roundAt n d e
    let x : Double := if m = bound then ⟨bound / 2, e + 1⟩ else ⟨m, e⟩
    if greatestExponent < x.exponent then none else some x

/-- The number as a fraction. -/
def ratio (x : Double) : Nat × Nat :=
  let (a, b) := power 2 x.exponent
  (x.significand * a, b)

/-- A decimal number, `digits * 10 ^ exponent`. -/
structure Decimal where
  digits : Nat
  exponent : Int
  deriving DecidableEq, Repr

namespace Decimal

/-- The number as a fraction. -/
def ratio (x : Decimal) : Nat × Nat :=
  let (a, b) := power 10 x.exponent
  (x.digits * a, b)

/-- The number `digits * 10 ^ exponent`, with a last digit that is not zero if ten divides `digits`
once only. -/
def ofDigits (exponent : Int) (digits : Nat) : Decimal :=
  if digits % 10 = 0 then ⟨digits / 10, exponent + 1⟩ else ⟨digits, exponent⟩

/-- The digits with a decimal point, without an exponent. -/
def text (x : Decimal) : String :=
  let digits := toString x.digits
  if 0 ≤ x.exponent then digits ++ "".pushn '0' x.exponent.toNat
  else
    let places := (-x.exponent).toNat
    let padded := "".pushn '0' (places + 1 - digits.length) ++ digits
    let whole := padded.length - places
    String.ofList (padded.toList.take whole) ++ "." ++ String.ofList (padded.toList.drop whole)

end Decimal

/-- The exponent of the first digit of a number that is not zero. -/
def firstPlace (n d : Nat) : Int :=
  if d ≤ n then ((toString (n / d)).length : Int) - 1
  else -((toString ((d - 1) / n)).length : Int)

/-- The multiples of `10 ^ e` next to a number that are rounded to it, the nearest first. -/
def neighbours (x : Double) (e : Int) : List Decimal :=
  let (n, d) := x.ratio
  let (a, b) := power 10 e
  let below := n * b / (d * a)
  let isNear := 2 * (n * b % (d * a)) ≤ d * a
  let both := if isNear then [below, below + 1] else [below + 1, below]
  (both.map (Decimal.ofDigits e)).filter fun c =>
    0 < c.digits && ofRatio? c.ratio.1 c.ratio.2 = some x

/-- The decimal number with the fewest digits that is rounded to `x`. -/
def shortest (x : Double) : Decimal :=
  if x.significand = 0 then ⟨0, 0⟩
  else
    let first := firstPlace x.ratio.1 x.ratio.2
    (((List.range 17).findSome? fun (k : Nat) => (neighbours x (first - k)).head?)).getD
      ⟨x.significand, 0⟩

/-- The shortest decimal text of a number, with at least one place behind the point. -/
def text (x : Double) : String :=
  let t := x.shortest.text
  if t.contains '.' then t else t ++ ".0"

end Double

end PatternFactory
