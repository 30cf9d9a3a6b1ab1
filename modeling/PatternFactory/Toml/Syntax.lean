import PatternFactory.Toml.Fault

/-!
# The structure of a configuration file

`statements` reads the table headers and the pairs of a configuration file, with keys and scalars as
they are written.  A key or a scalar that is missing is read as an empty one, so that the fault lies
with its text; all other faults of the structure are reported here, the first one only.
-/

namespace PatternFactory

namespace Toml

/-- A key or a scalar as it is written, with its quotes if it has some. -/
structure Written where
  quote : Option Quote
  start : Nat
  text : List Char
  deriving DecidableEq, Repr

namespace Written

/-- The empty text, where one is missing. -/
def missing (pos : Nat) : Written := ⟨none, pos, []⟩

/-- The place behind the text. -/
def stop (w : Written) : Nat := w.start + byteSize w.text

/-- The bytes of the text. -/
def span (w : Written) : Span := ⟨w.start, w.stop⟩

end Written

mutual

/-- A value as it is written. -/
inductive WrittenValue where
  | scalar (w : Written)
  | array (span : Span) (values : List WrittenValue)
  | inlineTable (span : Span) (pairs : List WrittenPair)

/-- A pair of a key and a value.  The key is the way to it through tables. -/
inductive WrittenPair where
  | mk (key : List Written) (value : WrittenValue)

end

namespace WrittenValue

/-- The bytes of the value. -/
def span : WrittenValue → Span
  | scalar w => w.span
  | array s _ => s
  | inlineTable s _ => s

end WrittenValue

/-- A statement of a configuration file. -/
inductive Statement where
  /-- The header of a table, or of a further table of an array. -/
  | header (isArray : Bool) (span : Span) (key : List Written)
  | pair (p : WrittenPair)

/-! ### What is left of some tokens -/

/-- Tokens that are left when some of `ts` are read. -/
abbrev Rest (ts : List Token) := { r : List Token // r.length ≤ ts.length }

namespace Rest

/-- Nothing is read. -/
def all (ts : List Token) : Rest ts := ⟨ts, Nat.le_refl _⟩

/-- What is left of what is left. -/
def upTo {ts : List Token} (r : Rest ts) (s : Rest r.val) : Rest ts :=
  ⟨s.val, Nat.le_trans s.property r.property⟩

/-- A token more is read. -/
def behind {t : Token} {ts : List Token} (r : Rest ts) : Rest (t :: ts) :=
  ⟨r.val, Nat.le_trans r.property (by simp)⟩

end Rest

/-- A comment holds no control characters, and a line does not end with a carriage return alone. -/
def checkTrivia (t : Token) : Except Fault Unit :=
  if t.kind = .newline && t.text = ['\r'] then .error ⟨.point t.stop, .strayReturn⟩
  else if t.kind = .comment then
    let good := t.text.takeWhile fun c => c = '\t' || (' ' ≤ c && c ≠ '\x7f')
    if good.length < t.text.length then
      let pos := t.start + byteSize good
      .error ⟨⟨pos, pos + 1⟩, .controlInComment⟩
    else .ok ()
  else .ok ()

/-- Skips blanks. -/
def skipBlank : (ts : List Token) → Rest ts
  | t :: ts => if t.kind = .blank then (Rest.all ts).behind else .all _
  | [] => .all _

/-- Skips blanks, comments and line ends. -/
def skipTrivia : (ts : List Token) → Except Fault (Rest ts)
  | t :: ts =>
    if t.kind = .blank || t.kind = .comment || t.kind = .newline then do
      checkTrivia t
      return (← skipTrivia ts).behind
    else .ok (.all _)
  | [] => .ok (.all _)

/-- Skips what is left of a line. -/
def skipLine : (ts : List Token) → Except Fault (Rest ts)
  | t :: ts => do
    checkTrivia t
    if t.kind = .newline then return (Rest.all ts).behind
    else return (← skipLine ts).behind
  | [] => .ok (.all _)

/-- Reads the end of a line, in front of which there may be a comment. -/
def lineEnd : (ts : List Token) → Except Fault (Rest ts)
  | t :: ts =>
    match t.kind with
    | .blank => return (← lineEnd ts).behind
    | .comment => do
      checkTrivia t
      return (← lineEnd ts).behind
    | .newline => do
      checkTrivia t
      return (Rest.all ts).behind
    | _ => .error ⟨.point t.start, .trailing⟩
  | [] => .ok (.all _)

/-! ### Keys -/

/-- A part of a key, or the empty one where it is missing.  `eof` is the end of the file. -/
def simpleKey (eof : Nat) : (ts : List Token) → Written × Rest ts
  | [] => (.missing eof, .all _)
  | t :: ts =>
    match t.kind with
    | .quoted q => (⟨some q, t.start, t.text⟩, (Rest.all ts).behind)
    | .bare => (⟨none, t.start, t.text⟩, (Rest.all ts).behind)
    | _ => (.missing t.start, .all _)

/-- The parts of a key that follow one, each behind a dot. -/
def keyTail (eof : Nat) (ts : List Token) : List Written × Rest ts :=
  let spaced := skipBlank ts
  match h : spaced.val with
  | [] => ([], spaced)
  | t :: rest =>
    if t.kind = .dot then
      let (part, r) := simpleKey eof (skipBlank rest).val
      let (parts, r') := keyTail eof r.val
      have : r'.val.length ≤ ts.length := by
        have := spaced.property
        have := (skipBlank rest).property
        have := r.property
        have := r'.property
        simp only [h, List.length_cons] at *
        omega
      (part :: parts, ⟨r'.val, this⟩)
    else ([], spaced)
termination_by ts.length
decreasing_by
  have := spaced.property
  have := (skipBlank rest).property
  have := r.property
  simp only [h, List.length_cons] at *
  omega

/-- A key from its first part on. -/
def dottedKey (eof : Nat) (ts : List Token) : List Written × Rest ts :=
  let (part, r) := simpleKey eof ts
  let (parts, r') := keyTail eof r.val
  (part :: parts, r.upTo r')

/-- The place behind the last part of a key. -/
def keyStop (key : List Written) : Nat := (key.getLast?.map Written.stop).getD 0

/-- Is a part missing at the end of a key? -/
def lacksPart (key : List Written) : Bool :=
  key.getLast?.all fun w => w.quote.isNone && w.text.isEmpty

/-! ### Values -/

/-- May the token be a part of a scalar that is not quoted? -/
def isScalarPart (t : Token) : Bool := t.kind = .dot || t.kind = .bare

/-- The characters of a scalar that is not quoted.  There may be blanks in it. -/
def scalarTail (ts : List Token) : List Char × Rest ts :=
  match ts with
  | [] => ([], .all _)
  | [t] => if isScalarPart t then (t.text, (Rest.all []).behind) else ([], .all _)
  | t :: u :: ts =>
    if isScalarPart t then
      let (cs, r) := scalarTail (u :: ts)
      (t.text ++ cs, r.behind)
    else if t.kind = .blank && isScalarPart u then
      let (cs, r) := scalarTail ts
      (t.text ++ u.text ++ cs, r.behind.behind)
    else ([], .all _)

/-- The number of arrays and inline tables that may be in one another. -/
def depthLimit : Nat := 80

mutual

/-- The value that begins with a token.  `depth` more arrays and inline tables may be opened. -/
def valueFrom (eof depth : Nat) (t : Token) (ts : List Token) :
    Except Fault (WrittenValue × Rest ts) :=
  match t.kind with
  | .quoted q => .ok (.scalar ⟨some q, t.start, t.text⟩, .all ts)
  | .openBracket =>
    if depth = 0 then .error ⟨t.span, .tooDeep⟩
    else do
      let (values, stop, r) ← elements eof (depth - 1) t.stop false ts
      return (.array ⟨t.start, stop⟩ values, r)
  | .openBrace =>
    if depth = 0 then .error ⟨t.span, .tooDeep⟩
    else do
      let (pairs, stop, r) ← inlinePairs eof (depth - 1) t.stop false ts
      return (.inlineTable ⟨t.start, stop⟩ pairs, r)
  | .closeBracket => .error ⟨.point t.start, .noArrayOpening⟩
  | .closeBrace => .error ⟨.point t.start, .noInlineTableOpening⟩
  | .equals => .error ⟨t.span, .doubleEquals⟩
  | _ =>
    let (more, r) := scalarTail ts
    .ok (.scalar ⟨none, t.start, t.text ++ more⟩, r)
termination_by (ts.length, 1)
decreasing_by all_goals simp [Prod.lex_def]

/-- The elements of an array up to its closing bracket, and the place behind that.  `last` is the
place behind what was read last, and `full` says that a comma is needed before a further element. -/
def elements (eof depth last : Nat) (full : Bool) (ts : List Token) :
    Except Fault (List WrittenValue × Nat × Rest ts) :=
  match ts with
  | [] => .error ⟨.point last, .unclosedArray⟩
  | t :: ts =>
    match t.kind with
    | .blank => do
      let (vs, stop, r) ← elements eof depth last full ts
      return (vs, stop, r.behind)
    | .comment => do
      checkTrivia t
      let (vs, stop, r) ← elements eof depth last full ts
      return (vs, stop, r.behind)
    | .newline => do
      checkTrivia t
      let (vs, stop, r) ← elements eof depth last full ts
      return (vs, stop, r.behind)
    | .comma =>
      if full then do
        let (vs, stop, r) ← elements eof depth t.stop false ts
        return (vs, stop, r.behind)
      else .error ⟨t.span, .extraComma⟩
    | .equals => .error ⟨t.span, .equalsInArray⟩
    | .closeBracket => .ok ([], t.stop, (Rest.all ts).behind)
    | _ =>
      if full then .error ⟨.point t.start, .noCommaInArray⟩
      else do
        let (v, r) ← valueFrom eof depth t ts
        let (vs, stop, r') ← elements eof depth v.span.stop true r.val
        return (v :: vs, stop, (r.upTo r').behind)
termination_by (ts.length, 0)
decreasing_by
  all_goals simp only [Prod.lex_def, List.length_cons]
  any_goals have := r.property
  all_goals omega

/-- The pairs of an inline table up to its closing brace, and the place behind that. -/
def inlinePairs (eof depth last : Nat) (full : Bool) (ts : List Token) :
    Except Fault (List WrittenPair × Nat × Rest ts) :=
  match ts with
  | [] => .error ⟨.point last, .unclosedInlineTable⟩
  | t :: ts =>
    match t.kind with
    | .blank => do
      let (ps, stop, r) ← inlinePairs eof depth last full ts
      return (ps, stop, r.behind)
    | .comment => do
      checkTrivia t
      let (ps, stop, r) ← inlinePairs eof depth last full ts
      return (ps, stop, r.behind)
    | .newline => do
      checkTrivia t
      let (ps, stop, r) ← inlinePairs eof depth last full ts
      return (ps, stop, r.behind)
    | .closeBrace => .ok ([], t.stop, (Rest.all ts).behind)
    | .comma =>
      if full then do
        let (ps, stop, r) ← inlinePairs eof depth t.stop false ts
        return (ps, stop, r.behind)
      else .error ⟨.point t.start, .extraCommaInTable "key"⟩
    | .equals =>
      if full then .error ⟨.point t.start, .extraAssignment "`,`"⟩
      else do
        let (v, r) ← assigned eof depth t.stop ts
        let (ps, stop, r') ← inlinePairs eof depth v.span.stop true r.val
        return (.mk [.missing t.start] v :: ps, stop, (r.upTo r').behind)
    | .openBracket => .error ⟨.point t.start, .noKeyInTable⟩
    | .closeBracket => .error ⟨.point t.start, .noKeyInTable⟩
    | .openBrace => .error ⟨.point t.start, .noKeyInTable⟩
    | kind =>
      if full then .error ⟨.point t.start, .noCommaInTable⟩
      else do
        let (key, r) : List Written × Rest ts :=
          match kind with
          | .dot =>
            let (parts, r) := dottedKey eof (skipBlank ts).val
            (.missing t.start :: parts, (skipBlank ts).upTo r)
          | .quoted q =>
            let (parts, r) := keyTail eof ts
            (⟨some q, t.start, t.text⟩ :: parts, r)
          | _ =>
            let (parts, r) := keyTail eof ts
            (⟨none, t.start, t.text⟩ :: parts, r)
        let (v, r') ← assignment eof depth (keyStop key) r.val
        let (ps, stop, r'') ← inlinePairs eof depth v.span.stop true r'.val
        return (.mk key v :: ps, stop, (r.upTo (r'.upTo r'')).behind)
termination_by (ts.length, 0)
decreasing_by
  all_goals simp only [Prod.lex_def, List.length_cons]
  any_goals have := r.property
  any_goals have := r'.property
  all_goals omega

/-- The value behind a key of an inline table. -/
def assignment (eof depth last : Nat) (ts : List Token) :
    Except Fault (WrittenValue × Rest ts) := do
  let spaced ← skipTrivia ts
  match h : spaced.val with
  | [] => .error ⟨.point last, .unclosedInlineTable⟩
  | t :: rest =>
    match t.kind with
    | .equals => do
      let (v, r) ← assigned eof depth t.stop rest
      return (v, ⟨r.val, by
        have := spaced.property
        have := r.property
        simp only [h, List.length_cons] at *
        omega⟩)
    | .comma => .error ⟨.point t.start, .extraCommaInTable "`=`"⟩
    | _ => .error ⟨.point t.start, .noAssignment⟩
termination_by (ts.length, 0)
decreasing_by
  all_goals simp only [Prod.lex_def]
  all_goals
    have := spaced.property
    simp only [h, List.length_cons] at *
    omega

/-- The value behind an equals sign of an inline table. -/
def assigned (eof depth last : Nat) (ts : List Token) :
    Except Fault (WrittenValue × Rest ts) := do
  let spaced ← skipTrivia ts
  match h : spaced.val with
  | [] => .error ⟨.point last, .unclosedInlineTable⟩
  | t :: rest =>
    match t.kind with
    | .comma => .error ⟨.point t.start, .extraCommaInTable "value"⟩
    | .equals => .error ⟨.point t.start, .extraAssignment "value"⟩
    | .closeBrace => .error ⟨.point t.start, .noValue⟩
    | _ => do
      let (v, r) ← valueFrom eof depth t rest
      return (v, ⟨r.val, by
        have := spaced.property
        have := r.property
        simp only [h, List.length_cons] at *
        omega⟩)
termination_by (ts.length, 0)
decreasing_by
  all_goals simp only [Prod.lex_def]
  all_goals
    have := spaced.property
    simp only [h, List.length_cons] at *
    omega

end

/-- The value behind an equals sign, or the empty scalar where it is missing. -/
def value (eof : Nat) (ts : List Token) : Except Fault (WrittenValue × Rest ts) :=
  match ts with
  | [] => .ok (.scalar (.missing eof), .all _)
  | t :: ts =>
    match t.kind with
    | .comma => .ok (.scalar (.missing t.start), .all _)
    | .newline => .ok (.scalar (.missing t.start), .all _)
    | .comment => .ok (.scalar (.missing t.start), .all _)
    | _ => do
      let (v, r) ← valueFrom eof depthLimit t ts
      return (v, r.behind)

/-! ### Statements -/

/-- The value of a pair from behind its equals sign, and the end of its line. -/
def pairValue (eof : Nat) (ts : List Token) : Except Fault (WrittenValue × Rest ts) := do
  let spaced := skipBlank ts
  let (v, r) ← value eof spaced.val
  let r' ← lineEnd r.val
  return (v, spaced.upTo (r.upTo r'))

/-- The pair whose key is read. -/
def pairBehind (eof : Nat) (key : List Written) (ts : List Token) :
    Except Fault (Statement × Rest ts) :=
  let spaced := skipBlank ts
  match h : spaced.val with
  | [] => .error ⟨.point eof, .keyWithoutValue⟩
  | t :: rest =>
    if t.kind = .equals then do
      let (v, r) ← pairValue eof rest
      return (.pair (.mk key v), ⟨r.val, by
        have := spaced.property
        have := r.property
        simp only [h, List.length_cons] at *
        omega⟩)
    else .error ⟨.point t.start, .keyWithoutValue⟩

/-- What closes a table header, if it is there: the place behind it. -/
def headerEnd (isArray : Bool) (key : List Written) : (ts : List Token) →
    Except Fault (Option Nat × Rest ts)
  | t :: ts =>
    if t.kind = .closeBracket then
      if isArray then
        match ts with
        | u :: ts =>
          if u.kind = .closeBracket then .ok (some u.stop, (Rest.all ts).behind.behind)
          else .error ⟨.point t.stop, .halfClosedTable⟩
        | [] => .error ⟨.point t.stop, .halfClosedTable⟩
      else .ok (some t.stop, (Rest.all ts).behind)
    else if lacksPart key then .ok (none, .all _)
    else .error ⟨.point (keyStop key), .unclosedTable isArray⟩
  | [] =>
    if lacksPart key then .ok (none, .all _)
    else .error ⟨.point (keyStop key), .unclosedTable isArray⟩

/-- A table header from behind its opening brackets. -/
def headerFrom (eof : Nat) (isArray : Bool) (start : Nat) (ts : List Token) :
    Except Fault (Statement × Rest ts) := do
  let (key, r) := dottedKey eof (skipBlank ts).val
  let spaced := skipBlank r.val
  let (stop?, r') ← headerEnd isArray key spaced.val
  let statement := Statement.header isArray ⟨start, stop?.getD eof⟩ key
  let r'' ← if stop?.isSome then lineEnd r'.val else skipLine r'.val
  return (statement, (skipBlank ts).upTo (r.upTo (spaced.upTo (r'.upTo r''))))

/-- Is there a second opening bracket right behind the first one? -/
def secondBracket : (ts : List Token) → Bool × Rest ts
  | t :: ts => if t.kind = .openBracket then (true, (Rest.all ts).behind) else (false, .all _)
  | [] => (false, .all _)

/-- The statement that begins with a token, if it does not only stand between statements. -/
def statementFrom (eof : Nat) (t : Token) (ts : List Token) :
    Except Fault (Option Statement × Rest ts) := do
  match t.kind with
  | .blank => return (none, .all ts)
  | .comment => do
    checkTrivia t
    return (none, .all ts)
  | .newline => do
    checkTrivia t
    return (none, .all ts)
  | .openBracket =>
    let second := secondBracket ts
    let (s, r) ← headerFrom eof second.1 t.start second.2.val
    return (some s, second.2.upTo r)
  | .closeBracket => .error ⟨.point t.start, .noTableOpening⟩
  | .equals => do
    let (v, r) ← pairValue eof ts
    return (some (.pair (.mk [.missing t.start] v)), r)
  | .dot => do
    let (parts, r) := dottedKey eof (skipBlank ts).val
    let (s, r') ← pairBehind eof (.missing t.start :: parts) r.val
    return (some s, (skipBlank ts).upTo (r.upTo r'))
  | .quoted q => do
    let (parts, r) := keyTail eof ts
    let (s, r') ← pairBehind eof (⟨some q, t.start, t.text⟩ :: parts) r.val
    return (some s, r.upTo r')
  | .bare => do
    let (parts, r) := keyTail eof ts
    let (s, r') ← pairBehind eof (⟨none, t.start, t.text⟩ :: parts) r.val
    return (some s, r.upTo r')
  | _ => .error ⟨.point t.start, .noKey⟩

/-- The statements that tokens are made of. -/
def statementsFrom (eof : Nat) (ts : List Token) : Except Fault (List Statement) :=
  match ts with
  | [] => .ok []
  | t :: ts => do
    let (s?, r) ← statementFrom eof t ts
    let more ← statementsFrom eof r.val
    return s?.toList ++ more
termination_by ts.length
decreasing_by
  have := r.property
  simp only [List.length_cons]
  omega

/-- The statements of a configuration file. -/
def statements (text : String) : Except Fault (List Statement) :=
  statementsFrom text.utf8ByteSize (tokensOf text)

end Toml

end PatternFactory
