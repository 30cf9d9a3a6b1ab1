import PatternFactory.Grammar.Expr
import PatternFactory.Grammar.Item.Code

/-!
# Statements

A statement is a binding, an item, a macro call or an expression.  An expression without a block of
its own needs a semicolon unless it is the last thing in the block.
-/

namespace PatternFactory

namespace Grammar

open Reader

/-- A binding behind its attributes. -/
def localStatement (g : Grammar) (attrs : List Attr) : Reader Part := do
  let _ ← word "let"
  let pat ← g.pattern
  let typed ← if ← op? ":" then (return [Part.mark ":", .ty (← g.ty true)]) else pure []
  let init ← if ← op? "=" then
      let before ← rest
      let value ← g.expr .allowStruct
      let mayDiverge := !endsWithBrace (← tokensSince before)
      let diverge ← if mayDiverge && (← seesWord "else") then do
          let _ ← word "else"
          pure [Part.mark "else", .code (← g.block)]
        else pure []
      pure (.mark "=" :: .code value :: diverge)
    else pure []
  op ";"
  return .code (.tree .localStmt
    (attrs.map Part.attr ++ .mark "let" :: .code pat :: typed ++ init ++ [.mark ";"]))
where
  /-- Do the tokens end with a closing brace? -/
  endsWithBrace (tokens : List Token) : Bool :=
    tokens.getLast? matches some (.group .brace ..)

/-- A macro call as a statement, behind its path. -/
def macroStatement (attrs : List Attr) (path : SimplePath) : Reader Part := do
  op "!"
  let (delim, _, body) ← anyGroup
  let semi ← op? ";"
  return .code (.tree .macroStmt (attrs.map Part.attr
    ++ [.simple path, .mark "!", .group delim [.raw body]] ++ markIf semi ";"))

/-- The parts of a macro call, if the code is one. -/
def macroParts? : Code → Option (List Part)
  | .tree .macroCall parts => some parts
  | .tree .attributed parts =>
    match parts.getLast? with
    | some (.code (.tree .macroCall inner)) => some (parts.dropLast ++ inner)
    | _ => none
  | _ => none

/-- Is the group of a macro call in braces? -/
def isBraceMacro (parts : List Part) : Bool :=
  parts.any fun
    | .group .brace _ => true
    | _ => false

/-- Attributes in front of an expression belong to the first operand of its operators, ranges
apart. -/
def attachAttrs (attrs : List Attr) : Code → Code
  | .tree .assign (.code l :: behind) => .tree .assign (.code (attachAttrs attrs l) :: behind)
  | .tree .binary (.code l :: behind) => .tree .binary (.code (attachAttrs attrs l) :: behind)
  | .tree .cast (.code l :: behind) => .tree .cast (.code (attachAttrs attrs l) :: behind)
  | c => withAttrs attrs c

/-- An expression as a statement, behind its attributes. -/
def exprStatement (g : Grammar) (attrs : List Attr) : Reader Part := do
  let value := attachAttrs attrs (← g.blockLikeExpr)
  let semi ← op? ";"
  match macroParts? value with
  | some parts =>
    if semi || isBraceMacro parts then
      return .code (.tree .macroStmt (parts ++ markIf semi ";"))
  | none => pure ()
  if semi then return .code (.tree .semiStmt [.code value, .mark ";"])
  else return .code (.tree .exprStmt [.code value])

/-- Does an item come next? -/
def seesItem : Reader Bool := do
  if ← seesAny [.word "pub", .word "extern", .word "use", .word "fn", .word "mod", .word "type",
      .word "struct", .word "enum", .word "trait", .word "impl", .word "macro"] then return true
  let third (ms : List Mark) : Reader Bool :=
    return ms.any (·.leads (Tokens.skip (Tokens.skip (← rest))))
  if ← seesWord "crate" then return !(← seesSecondAny [.op "::"])
  if ← seesWord "static" then
    return (← seesSecondAny [.word "mut"]) || ((← seesSecondAny [.ident])
      && !((← seesSecondAny [.word "async"]) && (← third [.word "move", .op "|"])))
  if ← seesWord "const" then
    let isFunction ← third [.word "unsafe", .word "extern", .word "fn"]
    return !((← seesSecondAny [.group .brace, .word "static", .word "move", .op "|"])
      || ((← seesSecondAny [.word "async"]) && !isFunction))
  if ← seesWord "unsafe" then return !(← seesSecondAny [.group .brace])
  if ← seesWord "async" then return ← seesSecondAny [.word "unsafe", .word "extern", .word "fn"]
  if ← seesWord "union" then return ← seesSecondAny [.ident]
  if ← seesWord "auto" then return ← seesSecondAny [.word "trait"]
  if ← seesWord "default" then return ← seesSecondAny [.word "unsafe", .word "impl"]
  return false

/-- What a path and `!` at the beginning of a statement announce. -/
inductive MacroStart where
  | none
  | item
  | call

/-- Looks ahead for a macro call in braces, which is a statement of its own, or for a macro that
takes a name, which is an item. -/
def macroStart : Reader MacroStart := do
  let found ← ahead do
    let _ ← simplePath
    if !(← seesOp "!") then return MacroStart.none
    if (← seesSecond .ident) || (← seesSecond (.word "try")) then return .item
    let goesOn := ((← seesThird (.op ".")) && !(← seesThird (.op "..")))
      || (← seesThird (.op "?"))
    return if (← seesSecond (.group .brace)) && !goesOn then .call else .none
  return found.getD .none

/-- A statement. -/
def statement (g : Grammar) : Reader Part := do
  let before ← rest
  let attrs ← g.outerAttrs
  let start ← macroStart
  match start with
  | .call => macroStatement attrs (← simplePath)
  | _ =>
    let isItem ← (return (start matches .item) || (← seesItem))
    if ← seesWord "let" then g.localStatement attrs
    else if isItem then
      setRest before
      return .code (.tree .itemStmt [.code (← g.item).code])
    else g.exprStatement attrs

/-- Does the statement need a semicolon before another one may follow? -/
def needsSemicolon : Part → Bool
  | .code (.tree .exprStmt [.code c]) => !isBlockLike c
  | .code (.tree .macroStmt parts) =>
    !isBraceMacro parts && !(parts.getLast? matches some (.mark ";"))
  | _ => false

/-- The statements up to the end of the enclosing braces. -/
def readStatements (g : Grammar) : Reader (List Part) := do
  iterate (fun acc => do
    if ← op? ";" then
      return some (acc ++ [Part.code (.tree .emptyStmt [.mark ";"])])
    if ← atEnd then return none
    let s ← g.statement
    if !(← atEnd) && needsSemicolon s then fail "unexpected token, expected `;`"
    return some (acc ++ [s])) []

end Grammar

end PatternFactory
