import PatternFactory.Token.IntegerLiteral
import PatternFactory.Token.Lexer

/-!
# Reading syntax

A `Reader` consumes tokens from the front of a sequence and fails with a place and a fault.  A
fault at the end of the sequence is placed where the enclosing group closes, or at the beginning
of the text when there is no group.

Tokens that a group still holds when its reader is done are no fault at once: the first such token
is remembered, and `Reader.run` reports it when everything else is read.
-/

namespace PatternFactory

/-! ### Faults -/

/-- Why a text is no syntax of the kind that is read. -/
inductive SyntaxFault where
  /-- The text is no token sequence. -/
  | notTokens
  /-- One of the quoted things was expected here. -/
  | expected (what : List String) (atEnd : Bool)
  /-- A token was left over in a group, or behind everything. -/
  | leftover (group : Option Delimiter)
  /-- Another rule is violated. -/
  | rule (text : String) (atEnd : Bool)
  deriving DecidableEq, Repr

namespace SyntaxFault

/-- Marks a fault at the end of the tokens. -/
def atEndText (atEnd : Bool) (text : String) : String :=
  if atEnd then "unexpected end of input, " ++ text else text

/-- The wording of a fault. -/
def message : SyntaxFault → String
  | notTokens => "cannot parse string into token stream"
  | expected what atEnd =>
    match what with
    | [] => if atEnd then "unexpected end of input" else "unexpected token"
    | [a] => atEndText atEnd ("expected " ++ a)
    | [a, b] => atEndText atEnd ("expected " ++ a ++ " or " ++ b)
    | _ => atEndText atEnd ("expected one of: " ++ ", ".intercalate what)
  | leftover none => "unexpected token"
  | leftover (some d) => "unexpected token, expected `" ++ d.closing.toString ++ "`"
  | rule text atEnd => atEndText atEnd text

end SyntaxFault

/-- A fault and its place. -/
structure SyntaxError where
  pos : Pos
  fault : SyntaxFault
  deriving DecidableEq, Repr

/-! ### Marks: what may stand at the front -/

/-- The things that a reader may look for. -/
inductive Mark where
  | word (text : String)
  | op (text : String)
  | ident
  | anyIdent
  | lifetime
  | literal
  | stringLiteral
  | intLiteral
  | floatLiteral
  | group (delim : Delimiter)

namespace Delimiter

/-- What a group of this kind is called. -/
def describe : Delimiter → String
  | paren => "parentheses"
  | bracket => "square brackets"
  | brace => "curly braces"

end Delimiter

/-- Do the tokens spell the operator? -/
def Tokens.startWithOp : List Char → List Token → Bool
  | [], _ => true
  | [c], .punct d _ _ :: _ => c = d
  | c :: cs, .punct d joint _ :: ts => c = d && joint && Tokens.startWithOp cs ts
  | _ :: _, _ => false

/-- Does the spelling of a literal begin a string literal? -/
def isStringLiteral (text : String) : Bool :=
  match text.toList with
  | '"' :: _ => true
  | 'r' :: _ => true
  | _ => false

namespace Mark

/-- How a message quotes the mark. -/
def describe : Mark → String
  | word w => "`" ++ w ++ "`"
  | op o => "`" ++ o ++ "`"
  | ident => "identifier"
  | anyIdent => "identifier"
  | lifetime => "lifetime"
  | literal => "literal"
  | stringLiteral => "string literal"
  | intLiteral => "integer literal"
  | floatLiteral => "floating point literal"
  | group d => d.describe

/-- Does the mark stand at the front of the tokens? -/
def leads (m : Mark) (ts : List Token) : Bool :=
  match m, ts with
  | word w, .word v _ :: _ => v = w
  | op o, _ => Tokens.startWithOp o.toList ts
  | ident, .word v _ :: _ => isIdentifierWord v
  | anyIdent, .word _ _ :: _ => true
  | lifetime, .punct '\'' true _ :: .word _ _ :: _ => true
  | literal, .literal _ _ :: _ => true
  | literal, .word v _ :: _ => v = "true" || v = "false"
  | literal, .punct '-' _ _ :: .literal v _ :: _ => isNumberLiteral v
  | stringLiteral, .literal v _ :: _ => isStringLiteral v
  | intLiteral, .literal v _ :: _ => isIntLiteral v
  | intLiteral, .punct '-' _ _ :: .literal v _ :: _ => isIntLiteral v
  | floatLiteral, .literal v _ :: _ => isNumberLiteral v && !isIntLiteral v
  | floatLiteral, .punct '-' _ _ :: .literal v _ :: _ => isNumberLiteral v && !isIntLiteral v
  | group d, .group e _ _ _ :: _ => d = e
  | _, _ => false

end Mark

/-- The tokens behind the first; a lifetime counts as one. -/
def Tokens.skip : List Token → List Token
  | .punct '\'' true _ :: .word _ _ :: ts => ts
  | _ :: ts => ts
  | [] => []

/-! ### Readers -/

/-- What a reader knows: the tokens in front of it, where the enclosing group closes, and the first
token left over in a group that is done. -/
structure ReadState where
  rest : List Token
  closing : Pos
  leftover : Option (Pos × Delimiter)

/-- A reader of syntax. -/
abbrev Reader := StateT ReadState (Except SyntaxError)

namespace Reader

variable {α β σ : Type}

/-- The tokens in front of the reader. -/
def rest : Reader (List Token) := return (← get).rest

/-- Is nothing left in the enclosing group? -/
def atEnd : Reader Bool := return (← rest).isEmpty

/-- Does the mark come next? -/
def sees (m : Mark) : Reader Bool := return m.leads (← rest)

/-- Does the mark come second? -/
def seesSecond (m : Mark) : Reader Bool := return m.leads (Tokens.skip (← rest))

/-- Does one of the marks come second? -/
def seesSecondAny (ms : List Mark) : Reader Bool := return ms.any (·.leads (Tokens.skip (← rest)))

/-- Does the mark come third? -/
def seesThird (m : Mark) : Reader Bool := return m.leads (Tokens.skip (Tokens.skip (← rest)))

/-- Does one of the marks come next? -/
def seesAny (ms : List Mark) : Reader Bool := return ms.any (·.leads (← rest))

/-- Does the keyword come next? -/
def seesWord (w : String) : Reader Bool := sees (.word w)

/-- Does the operator come next? -/
def seesOp (o : String) : Reader Bool := sees (.op o)

/-- Where the next token stands, or where the enclosing group closes. -/
def here : Reader Pos := do
  let s ← get
  return match s.rest with
    | t :: _ => t.pos
    | [] => s.closing

/-- Fails at a place with a rule. -/
def failAt (pos : Pos) (text : String) : Reader α :=
  throw ⟨pos, .rule text false⟩

/-- Fails here with a rule. -/
def fail (text : String) : Reader α := do
  throw ⟨← here, .rule text (← atEnd)⟩

/-- Fails here because none of the things is next. -/
def expectedAll (what : List String) : Reader α := do
  throw ⟨← here, .expected what (← atEnd)⟩

/-- Fails here, naming those of the marks that do not come next: a mark that does was passed over
for what follows it. -/
def expected (ms : List Mark) : Reader α := do
  let ts ← rest
  expectedAll ((ms.filter fun m => !m.leads ts).map Mark.describe)

/-- Sets the tokens in front of the reader. -/
def setRest (ts : List Token) : Reader Unit := modify fun s => { s with rest := ts }

/-- Reads a keyword. -/
def word (w : String) : Reader Pos := do
  match ← rest with
  | .word v p :: ts => if v = w then setRest ts; return p else expected [.word w]
  | _ => expected [.word w]

/-- Reads a keyword if it comes next. -/
def word? (w : String) : Reader Bool := do
  if ← seesWord w then
    let _ ← word w
    return true
  else return false

/-- Reads an operator.  Its fault does not mention the end of the input. -/
def op (o : String) : Reader Unit := do
  if ← seesOp o then setRest ((← rest).drop o.length)
  else throw ⟨← here, .expected ["`" ++ o ++ "`"] false⟩

/-- Reads an operator if it comes next. -/
def op? (o : String) : Reader Bool := do
  if ← seesOp o then
    op o
    return true
  else return false

/-- Reads an identifier. -/
def ident : Reader String := do
  match ← rest with
  | .word v _ :: ts =>
    if isIdentifierWord v then setRest ts; return v
    else expectedAll ["identifier, found keyword `" ++ v ++ "`"]
  | _ => expectedAll ["identifier"]

/-- Reads a word, reserved or not. -/
def anyWord : Reader String := do
  match ← rest with
  | .word v _ :: ts => setRest ts; return v
  | _ => expectedAll ["ident"]

/-- Reads an identifier if one comes next. -/
def ident? : Reader (Option String) := do
  if ← sees .ident then some <$> ident else return none

/-- Reads a lifetime and returns its name. -/
def lifetime : Reader String := do
  match ← rest with
  | .punct '\'' true _ :: .word v _ :: ts => setRest ts; return v
  | _ => expectedAll ["lifetime"]

/-- Reads a lifetime if one comes next. -/
def lifetime? : Reader (Option String) := do
  if ← sees .lifetime then some <$> lifetime else return none

/-- Reads a literal and returns its spelling; a sign in front of a number belongs to it. -/
def literal : Reader String := do
  match ← rest with
  | .literal v _ :: ts => setRest ts; return v
  | .word v _ :: ts =>
    if v = "true" || v = "false" then setRest ts; return v else expectedAll ["literal"]
  | .punct '-' _ _ :: .literal v _ :: ts =>
    if isNumberLiteral v then setRest ts; return "-" ++ v else expectedAll ["literal"]
  | _ => expectedAll ["literal"]

/-- Reads a string literal and returns its spelling. -/
def stringLiteral : Reader String := do
  match ← rest with
  | .literal v _ :: ts =>
    if isStringLiteral v then setRest ts; return v else expectedAll ["string literal"]
  | _ => expectedAll ["string literal"]

/-- Reads all tokens that are left. -/
def remaining : Reader (List Token) := do
  let ts ← rest
  setRest []
  return ts

/-! ### Groups -/

/-- Reads the inside of a group with `after` behind it, and gives the first token that the content
leaves over. -/
def inside (body : List Token) (closing : Pos) (after : List Token) (content : Reader α) :
    Reader (α × Option Token) := do
  let outer ← get
  set { outer with rest := body, closing := closing }
  let a ← content
  let inner ← get
  set { inner with rest := after, closing := outer.closing }
  return (a, inner.rest.head?)

/-- Reads a group with its content, and what follows it, which may depend on the content.  What the
content leaves over is remembered only after what follows is read. -/
def groupWith (delim : Delimiter) (content : Reader α) (behind : α → Reader β) :
    Reader β := do
  match ← rest with
  | .group d body _ closing :: ts =>
    if d = delim then
      let (a, extra) ← inside body closing ts content
      let b ← behind a
      modify fun s => { s with leftover := s.leftover <|> extra.map fun t => (t.pos, delim) }
      return b
    else expectedAll [delim.describe]
  | _ => expectedAll [delim.describe]

/-- Reads a group with its content. -/
def group (delim : Delimiter) (content : Reader α) : Reader α := groupWith delim content pure

/-- Reads a group with any delimiter as plain tokens. -/
def anyGroup : Reader (Delimiter × Pos × List Token) := do
  match ← rest with
  | .group d body _ closing :: ts => setRest ts; return (d, closing, body)
  | _ => expectedAll ["delimiter"]

/-! ### Trying and repeating -/

/-- Runs a reader without consuming anything; `none` stands for a fault. -/
def ahead (p : Reader α) : Reader (Option α) := do
  match p.run (← get) with
  | .ok (a, _) => return some a
  | .error _ => return none

/-- Runs a reader; a fault of it consumes nothing. -/
def attempt (p : Reader α) : Reader (Option α) := do
  match p.run (← get) with
  | .ok (a, s) => set s; return some a
  | .error _ => return none

/-- Repeats a step from state to state until it yields none.  Each repetition is to consume a
token, so that the tokens bound their number. -/
def iterate (step : σ → Reader (Option σ)) (start : σ) : Reader σ := do
  go ((← rest).length + 1) start
where
  go : Nat → σ → Reader σ
    | 0, s => return s
    | n + 1, s => do
      match ← step s with
      | some t => go n t
      | none => return s

/-- Repeats a reader until it yields none, collecting what it yields. -/
def many (step : Reader (Option α)) : Reader (List α) := do
  let found ← iterate (fun (acc : List α) => do
    match ← step with
    | some a => return some (a :: acc)
    | none => return none) []
  return found.reverse

/-- Repeats a reader up to the end of the enclosing group. -/
def manyToEnd (item : Reader α) : Reader (List α) :=
  many do if ← atEnd then return none else some <$> item

/-- Items with separators between them, and whether the last item has one behind it.  No further
item is read once `stop` holds. -/
def separated (sep : String) (stop : Reader Bool) (item : Reader α) :
    Reader (List α × Bool) := do
  let (found, trailing, _) ← iterate (fun (acc, _, go) => do
    if !go then return none
    if ← stop then return none
    let a ← item
    if ← stop then return some (a :: acc, false, false)
    op sep
    return some (a :: acc, true, true)) (([] : List α), false, true)
  return (found.reverse, trailing)

/-- Items with commas between them, up to the end of the enclosing group. -/
def commaList (item : Reader α) : Reader (List α × Bool) := separated "," atEnd item

/-- Items joined by a separator for as long as one follows, beginning unless `stop` holds. -/
def joined (sep : String) (stop : Reader Bool) (item : Reader α) : Reader (List α × Bool) := do
  let (found, trailing, _) ← iterate (fun (acc, _, go) => do
    if !go then return none
    if ← stop then return none
    let a ← item
    if ← op? sep then return some (a :: acc, true, true)
    return some (a :: acc, false, false)) (([] : List α), false, true)
  return (found.reverse, trailing)

/-- Reads a token sequence as one thing, with nothing left over. -/
def run (p : Reader α) (tokens : List Token) (closing : Pos) : Except SyntaxError α := do
  let (a, s) ← StateT.run p ⟨tokens, closing, none⟩
  match s.leftover, s.rest with
  | some (pos, delim), _ => throw ⟨pos, .leftover (some delim)⟩
  | none, t :: _ => throw ⟨t.pos, .leftover none⟩
  | none, [] => return a

end Reader

end PatternFactory
