/-!
# Integer literals

The value of an integer literal and the suffix behind its digits.  A number with a point or an
exponent is no integer; an `e` without an exponent behind it begins a suffix.
-/

namespace PatternFactory

/-- Is the spelling that of a number? -/
def isNumberLiteral (text : String) : Bool :=
  match text.toList with
  | c :: _ => c.isDigit
  | [] => false

/-- The value of a digit. -/
def digitValue? (base : Nat) (c : Char) : Option Nat :=
  if c.isDigit then some (c.toNat - '0'.toNat)
  else if base ≤ 10 then none
  else if 'a' ≤ c ∧ c ≤ 'f' then some (c.toNat - 'a'.toNat + 10)
  else if 'A' ≤ c ∧ c ≤ 'F' then some (c.toNat - 'A'.toNat + 10)
  else none

/-- Do an `e` and the characters behind it make an exponent? -/
def isExponent (behind : List Char) : Bool :=
  match behind.dropWhile (· = '_') with
  | c :: _ => c = '+' || c = '-' || c.isDigit
  | [] => false

/-- The value that the digits at the front of a text add to `value`, and the suffix behind them.
There is none if a point or an exponent follows, or if there are no digits. -/
def readDigits (base value : Nat) (hasDigit : Bool) : List Char → Option (Nat × List Char)
  | [] => if hasDigit then some (value, []) else none
  | '_' :: cs => readDigits base value hasDigit cs
  | c :: cs =>
    match digitValue? base c with
    | some d => if d < base then readDigits base (value * base + d) true cs else none
    | none =>
      let isFraction := base = 10 && (c = '.' || ((c = 'e' || c = 'E') && isExponent cs))
      if hasDigit && !isFraction then some (value, c :: cs) else none

/-- The value and the suffix of the spelling of an integer without a sign. -/
def integerParts? (text : String) : Option (Nat × List Char) :=
  match text.toList with
  | '0' :: 'x' :: cs => readDigits 16 0 false cs
  | '0' :: 'o' :: cs => readDigits 8 0 false cs
  | '0' :: 'b' :: cs => readDigits 2 0 false cs
  | cs => if isNumberLiteral text then readDigits 10 0 false cs else none

/-- Is the spelling that of an integer without a sign? -/
def isIntLiteral (text : String) : Bool := (integerParts? text).isSome

end PatternFactory
