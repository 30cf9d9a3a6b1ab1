import PatternFactory.Number.Double
import PatternFactory.Toml.Table
import PatternFactory.Unicode.Escape

/-!
# Values of a configuration

`Element.text`, `Element.count` and `Element.texts` give the text, the number or the texts that a
value is.  A value of another kind is a fault, which tells what the value is instead.
-/

namespace PatternFactory

namespace Toml

/-! ### Numbers -/

/-- Splits the sign off a number. -/
def splitSign : List Char → Bool × List Char
  | '-' :: cs => (true, cs)
  | '+' :: cs => (false, cs)
  | cs => (false, cs)

/-- The number that some digits stand for. -/
def digitsValue (base : Nat) (cs : List Char) : Nat :=
  cs.foldl (fun n c => n * base + (hexDigit? c).getD 0) 0

/-- The integer that digits stand for, if there are some. -/
def integer? (base : Nat) (cs : List Char) : Option Int :=
  let (negative, digits) := splitSign cs
  let n : Int := digitsValue base digits
  if digits.isEmpty then none else if negative then some (-n) else some n

/-- A number with a binary point. -/
inductive FloatValue where
  | finite (negative : Bool) (x : Double)
  | infinite (negative : Bool)
  | nan
  deriving DecidableEq, Repr

namespace FloatValue

/-- The spelling. -/
def text : FloatValue → String
  | finite negative x => (if negative then "-" else "") ++ x.text
  | infinite negative => if negative then "-inf" else "inf"
  | nan => "NaN"

end FloatValue

/-- The number `digits * 10 ^ exponent`, if it is not too large. -/
def scaled? (digits : List Char) (exponent : Int) : Option Double :=
  let n := digitsValue 10 digits
  if n = 0 then Double.ofRatio? 0 1
  else
    let place := exponent + (toString n).length
    if 400 < place then none
    else if place < -400 then Double.ofRatio? 0 1
    else
      let (a, b) := Double.power 10 exponent
      Double.ofRatio? (n * a) b

/-- The number that the digits of a float stand for, if it is not too large. -/
def float? (cs : List Char) : Option FloatValue :=
  let (negative, cs) := splitSign cs
  if cs = ['i', 'n', 'f'] then some (.infinite negative)
  else if cs = ['n', 'a', 'n'] then some .nan
  else
    let whole := cs.takeWhile Char.isDigit
    let rest := cs.drop whole.length
    let places := match rest with
      | '.' :: rest => rest.takeWhile Char.isDigit
      | _ => []
    let exponent := match cs.dropWhile fun c => c ≠ 'e' && c ≠ 'E' with
      | _ :: e => (integer? 10 e).getD 0
      | [] => 0
    (scaled? (whole ++ places) (exponent - places.length)).map (.finite negative)

/-! ### What a value is -/

/-- A text as it is shown. -/
def shown (s : String) : String :=
  "\"" ++ String.ofList (s.toList.flatMap Unicode.escaped) ++ "\""

/-- Does a number fit into so many bits? -/
def fits (bits n : Nat) : Bool := n < Nat.pow 2 bits

/-- An integer as it is shown.  One that needs more than 64 bits is shown with its size. -/
def shownInteger? (n : Int) : Option String :=
  let plain := "integer `" ++ toString n ++ "`"
  match n with
  | .ofNat k =>
    if fits 64 k then some plain
    else if fits 127 k then some (plain ++ " as i128")
    else if fits 128 k then some (plain ++ " as u128")
    else none
  | .negSucc k =>
    if fits 63 k then some plain
    else if fits 127 k then some (plain ++ " as i128")
    else none

/-- What a value is. -/
def Value.description : Value → Except Flaw String
  | .scalar (.text s) => .ok ("string " ++ shown s)
  | .scalar (.boolean b) => .ok ("boolean `" ++ toString b ++ "`")
  | .scalar (.integer base digits) =>
    match (integer? base digits).bind shownInteger? with
    | some text => .ok text
    | none => .error .integerOverflow
  | .scalar (.float digits) =>
    match float? digits with
    | some x => .ok ("floating point `" ++ x.text ++ "`")
    | none => .error .floatOverflow
  | .scalar .moment => .ok "map"
  | .array .. => .ok "sequence"
  | .table .. => .ok "map"

namespace Element

/-- The fault that a value is not what is wanted. -/
def unexpected (e : Element) (wanted : String) : Fault :=
  match e.value.description with
  | .ok found => ⟨e.span, .wrongType found wanted⟩
  | .error flaw => ⟨e.span, flaw⟩

/-- The text that a value is. -/
def text (e : Element) : Except Fault String :=
  match e.value with
  | .scalar (.text s) => .ok s
  | _ => .error (e.unexpected "a string")

/-- The number that a value is, if it is not negative and fits into 64 bits. -/
def count (e : Element) : Except Fault Nat :=
  match e.value with
  | .scalar (.integer base digits) =>
    match integer? base digits with
    | some (.ofNat n) =>
      if fits 64 n then .ok n else .error (e.unexpected "usize")
    | some (.negSucc n) =>
      if fits 63 n then
        .error ⟨e.span, .wrongValue ((shownInteger? (.negSucc n)).getD "") "usize"⟩
      else .error (e.unexpected "usize")
    | none => .error (e.unexpected "usize")
  | _ => .error (e.unexpected "usize")

/-- The texts in the array that a value is. -/
def texts (e : Element) : Except Fault (List String) :=
  match e.value with
  | .array _ elements => elements.mapM text
  | _ => .error (e.unexpected "a sequence")

end Element

/-- The entries of a table in the order of their names. -/
def inOrder (entries : List Entry) : List Entry :=
  entries.mergeSort fun a b => (compare a.key.name b.key.name).isLE

/-! ### Numbers that are too large -/

/-- The first of some faults, in the order of the names of their keys. -/
def firstByName (found : List (String × Option Fault)) : Option Fault :=
  (found.mergeSort fun a b => (compare a.1 b.1).isLE).findSome? Prod.snd

mutual

/-- The first number of a value that is too large for any type, if there is one. -/
def Element.overflow? : Element → Option Fault
  | .mk span v => v.overflow? span

/-- The first number of a value that is too large for any type, if there is one. -/
def Value.overflow? (span : Span) : Value → Option Fault
  | .scalar s =>
    match (Value.scalar s).description with
    | .ok _ => none
    | .error flaw => some ⟨span, flaw⟩
  | .array _ elements => Element.overflowIn? elements
  | .table _ entries => firstByName (Entry.overflows entries)

/-- The first number of some values that is too large for any type, if there is one. -/
def Element.overflowIn? : List Element → Option Fault
  | [] => none
  | e :: es => e.overflow?.or (Element.overflowIn? es)

/-- The first number that is too large for any type in each of some entries. -/
def Entry.overflows : List Entry → List (String × Option Fault)
  | [] => []
  | .mk key e :: es => (key.name, e.overflow?) :: Entry.overflows es

end

end Toml

end PatternFactory
