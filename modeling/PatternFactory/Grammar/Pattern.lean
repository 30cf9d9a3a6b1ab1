import PatternFactory.Grammar.Type

/-!
# Patterns

The first token and sometimes the second decide the form of a pattern.  Alternatives joined by `|`
are allowed where a pattern is enclosed, and behind `let`, `for` and in match arms.
-/

namespace PatternFactory

namespace Grammar

open Reader

/-- The marks with which a path outside of types may begin, identifiers apart. -/
def pathWordStarts : List Mark := [.word "self", .word "Self", .word "super", .word "crate"]

/-- An expression that is only a path. -/
def pathCode : Ty → Code
  | .path p => .tree .path [.path p]
  | ty => .tree .path [.ty ty]

/-- The limits of a range, with the older spelling `...` of the closed one. -/
def limits (allowOld : Bool) : Reader String := do
  if ← op? "..=" then return "..="
  if ← seesOp "..." then
    if allowOld then
      op "..."
      return "..="
    else expected [.op "..="]
  if ← op? ".." then return ".." else expected [.op ".."]

/-- The bound of a range pattern, unless the range is open there. -/
def rangeBound (g : Grammar) : Reader (Option Code) := do
  if (← atEnd) || (← seesAny [.op "|", .op "=", .op ",", .op ";", .word "if"])
      || ((← seesOp ":") && !(← seesOp "::")) then
    return none
  if ← sees .literal then return some (.tree .literal [.literal (← literal)])
  else if ← seesAny ([.ident, .op "::", .op "<"] ++ pathWordStarts) then
    return some (pathCode (← g.qualifiedPath .expr))
  else if ← seesWord "const" then
    let _ ← word "const"
    return some (.tree .const_ [.mark "const", .code (← g.blockArgument)])
  else expected ([.literal, .ident, .op "::", .op "<"] ++ pathWordStarts ++ [.word "const"])

/-- A range pattern behind its lower bound. -/
def rangeFrom (g : Grammar) (start : Code) : Reader Code := do
  let limit ← limits true
  let stop ← g.rangeBound
  if limit == "..=" && stop.isNone then fail "expected range upper bound"
  return .tree .patRange ([.code start, .mark limit] ++ (stop.map Part.code).toList)

/-- The kind of pattern that a lone range bound is. -/
def boundPattern (bound : Code) : Code :=
  match bound.kind with
  | .path => .tree .patPath bound.parts
  | .const_ => .tree .patConst [.code bound]
  | _ => .tree .patLiteral [.code bound]

/-- A pattern with alternatives; a bar in front of the first is allowed if `leading`. -/
def alternatives (g : Grammar) : Reader Code := do
  let seesBar : Reader Bool := return (← seesOp "|") && !(← seesOp "||") && !(← seesOp "|=")
  let leading ← op? "|"
  let first ← g.pattern
  if leading || (← seesBar) then
    let more ← many do
      if ← seesBar then
        op "|"
        some <$> g.pattern
      else return none
    return .tree .patOr
      (markIf leading "|" ++ .code first :: more.flatMap fun p => [.mark "|", .code p])
  else return first

/-- The position that an integer chooses, which is written at `pos` and has been read. -/
def position (pos : Pos) (text : String) : Reader String := do
  match integerParts? text with
  | some (value, []) =>
    if value < Nat.pow 2 32 then return toString value
    else failAt pos "number too large to fit in target type"
  | some _ => failAt pos "expected unsuffixed integer"
  | none => failAt pos "invalid digit found in string"

/-- The name of a member: an identifier or the index of a position. -/
def member : Reader (Bool × Part) := do
  if ← sees .ident then return (true, .word (← ident))
  else if ← sees .intLiteral then
    let pos ← here
    return (false, .literal (← position pos (← literal)))
  else expectedAll ["identifier or integer"]

/-- A field of a struct pattern behind its attributes. -/
def patField (g : Grammar) : Reader (List Part) := do
  let before ← rest
  let isBoxed ← word? "box"
  let byRef ← word? "ref"
  let isMut ← word? "mut"
  let qualified := isBoxed || byRef || isMut
  let (named, name) ← if qualified then (return (true, .word (← ident))) else member
  if (!qualified && (← seesOp ":")) || !named then
    op ":"
    return [name, .mark ":", .code (← g.alternatives)]
  else if isBoxed then return [.raw (← tokensSince before)]
  else return [.code (.tree .patIdent (markIf byRef "ref" ++ markIf isMut "mut" ++ [name]))]

/-- The fields of a struct pattern; dots may stand at the end. -/
def patFields (g : Grammar) : Reader (List Part) := do
  let (found, _) ← iterate (fun (acc, go) => do
    if !go || (← atEnd) then return none
    let attrs ← g.outerAttrs
    let attrParts := attrs.map Part.attr
    if ← op? ".." then
      let restPattern := Code.tree .patRest (attrParts ++ [.mark ".."])
      return some (acc ++ [.code restPattern], false)
    let field ← g.patField
    let entry := Part.code (.tree .patField (attrParts ++ field))
    if ← atEnd then return some (acc ++ [entry], false)
    op ","
    return some (acc ++ [entry, .mark ","], true)) (([] : List Part), true)
  return found

/-- A pattern that begins with a path. -/
def pathPattern (g : Grammar) : Reader Code := do
  let path ← g.qualifiedPath .expr
  let pathPart : Part := match path with
    | .path p => .path p
    | ty => .ty ty
  let simple? := match path with
    | .path p => p.simple?
    | _ => none
  if simple?.isSome && (← seesOp "!") && !(← seesOp "!=") then
    op "!"
    let (delim, _, body) ← anyGroup
    return .tree .patMacro
      [.simple (simple?.getD ⟨false, []⟩), .mark "!", .group delim [.raw body]]
  else if ← sees (.group .brace) then
    return .tree .patStruct [pathPart, .group .brace (← group .brace g.patFields)]
  else if ← sees (.group .paren) then
    let (elems, trailing) ← group .paren (commaList g.alternatives)
    return .tree .patTupleStruct [pathPart, .group .paren (codeList elems trailing)]
  else if ← seesOp ".." then g.rangeFrom (pathCode path)
  else return .tree .patPath [pathPart]

/-- A binding. -/
def identPattern (g : Grammar) : Reader Code := do
  let byRef ← word? "ref"
  let isMut ← word? "mut"
  let name ← if ← seesWord "self" then anyWord else ident
  let sub ← if ← op? "@" then (return [.mark "@", .code (← g.pattern)]) else pure []
  return .tree .patIdent (markIf byRef "ref" ++ markIf isMut "mut" ++ .word name :: sub)

/-- A pattern in parentheses or a tuple of patterns. -/
def parenPattern (g : Grammar) : Reader Code := do
  let (elems, trailing) ← group .paren (commaList g.alternatives)
  match elems, trailing with
  | [p], false =>
    if p.kind = .patRest then return .tree .patTuple [.group .paren [.code p]]
    else return .tree .patParen [.group .paren [.code p]]
  | _, _ => return .tree .patTuple [.group .paren (codeList elems trailing)]

/-- Is it a range pattern that lacks a bound? -/
def isOpenRange (p : Code) : Bool := p.kind = .patRange && p.parts.length < 3

/-- Where the dots of an open range pattern stand, which has been read from `before`.  They are the
first tokens of it, or its last two. -/
def dotsPos (p : Code) (before : List Token) : Reader Pos := do
  let tokens ← tokensSince before
  let dots := match p.parts with
    | .mark _ :: _ => tokens
    | _ => tokens.drop (tokens.length - 2)
  match dots with
  | t :: _ => return t.pos
  | [] => here

/-- A slice pattern, in which an open range needs parentheses. -/
def slicePattern (g : Grammar) : Reader Code := do
  let (elems, trailing) ← group .bracket (commaList do
    let before ← rest
    let p ← g.alternatives
    if isOpenRange p then
      failAt (← dotsPos p before)
        "range pattern is not allowed unparenthesized inside slice pattern"
    return p)
  return .tree .patSlice [.group .bracket (codeList elems trailing)]

/-- A range without a lower bound, or the dots that stand for the rest. -/
def openPattern (g : Grammar) : Reader Code := do
  let limit ← limits false
  match ← g.rangeBound with
  | some stop => return .tree .patRange [.mark limit, .code stop]
  | none =>
    if limit == ".." then return .tree .patRest [.mark ".."]
    else fail "expected range upper bound"

/-- Does a path come next that is more than one name? -/
def seesPathPattern : Reader Bool := do
  if (← sees .ident) && ((← seesSecond (.op "::")) || (← seesSecond (.op "!"))
      || (← seesSecond (.group .brace)) || (← seesSecond (.group .paren))
      || (← seesSecond (.op ".."))) then return true
  if (← seesWord "self") && (← seesSecond (.op "::")) then return true
  seesAny [.op "::", .op "<", .word "Self", .word "super", .word "crate"]

/-- A pattern without alternatives. -/
def readPattern (g : Grammar) : Reader Code := do
  let before ← rest
  if ← seesPathPattern then g.pathPattern
  else if ← word? "_" then return .tree .patWild [.mark "_"]
  else if ← word? "box" then
    let _ ← g.pattern
    return .tree .patVerbatim [.raw (← tokensSince before)]
  else if ← seesAny [.op "-", .literal, .word "const"] then
    match ← g.rangeBound with
    | some start =>
      if ← seesOp ".." then g.rangeFrom start else return boundPattern start
    | none => expectedAll []
  else if ← seesAny [.word "ref", .word "mut", .word "self", .ident] then g.identPattern
  else if ← op? "&" then
    let isMut ← word? "mut"
    return .tree .patReference (.mark "&" :: markIf isMut "mut" ++ [.code (← g.pattern)])
  else if ← sees (.group .paren) then g.parenPattern
  else if ← sees (.group .bracket) then g.slicePattern
  else if (← seesOp "..") && !(← seesOp "...") then g.openPattern
  else
    expected [.ident, .op "::", .op "<", .word "_", .literal, .word "const", .word "ref",
      .word "mut", .op "&", .group .paren, .group .bracket, .op "..", .word "const"]

end Grammar

end PatternFactory
