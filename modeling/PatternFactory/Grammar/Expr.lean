import PatternFactory.Grammar.Pattern

/-!
# Expressions

An expression is an operand followed by operators; an operand is an atom with prefix operators in
front and calls, fields, indices and `?` behind it.  Operators are read by climbing precedences.
-/

namespace PatternFactory

namespace Grammar

open Reader

/-! ### Operators -/

/-- Binary operators, each behind those that it begins, with their precedences. -/
def binaryOps : List (String × Precedence) := [
  ("+=", .assign), ("-=", .assign), ("*=", .assign), ("/=", .assign), ("%=", .assign),
  ("^=", .assign), ("&=", .assign), ("|=", .assign), ("<<=", .assign), (">>=", .assign),
  ("&&", .and), ("||", .or), ("<<", .shift), (">>", .shift), ("==", .compare), ("<=", .compare),
  ("!=", .compare), (">=", .compare), ("+", .sum), ("-", .sum), ("*", .product), ("/", .product),
  ("%", .product), ("^", .bitXor), ("&", .bitAnd), ("|", .bitOr), ("<", .compare),
  (">", .compare)]

/-- The binary operator that comes next. -/
def binaryOp? : Reader (Option (String × Precedence)) := do
  let ts ← rest
  return binaryOps.find? fun (o, _) => (Mark.op o).leads ts

/-- Does a plain `=` come next? -/
def seesAssign : Reader Bool := return (← seesOp "=") && !(← seesOp "=>")

/-- The precedence of what comes next as an operator. -/
def nextPrecedence : Reader Precedence := do
  if let some (_, p) ← binaryOp? then return p
  else if ← seesAssign then return .assign
  else if ← seesOp ".." then return .range
  else if ← seesWord "as" then return .cast
  else return .lowest

/-- The right operand of an operator: what binds tighter than it belongs to the operand, and
assignments group to the right. -/
def rightOperand (g : Grammar) (braces : BraceRule) (prec : Precedence) : Reader Code := do
  let first ← g.operand braces
  iterate (fun operand => do
    let next ← nextPrecedence
    if prec.rank < next.rank || (next = prec && prec = .assign) then
      let before ← rest
      let longer ← g.operators braces next operand
      if (← rest).length = before.length then return none else return some longer
    else return none) first

/-- The marks that end a range which has no upper bound. -/
def rangeStops : List Mark :=
  [.op ",", .op ";", .op "?", .op "=>", .op "=", .op "+", .op "/", .op "%", .op "^", .op ">",
    .op "<=", .op "!=", .op "-=", .op "*=", .op "&=", .op "|=", .op "<<=", .word "as"]

/-- The upper bound of a range. -/
def rangeEnd (g : Grammar) (braces : BraceRule) (limit : String) : Reader (List Part) := do
  let stops ← (return (← atEnd) || (← seesAny rangeStops)
    || ((← seesOp ".") && !(← seesOp ".."))
    || (braces == .noStruct && (← sees (.group .brace))))
  if limit == ".." && stops then return []
  else return [.code (← g.rightOperand braces .range)]

/-- A cast must not be followed by a suffix. -/
def checkCast : Reader Unit := do
  let kind ←
    if (← seesOp ".") && !(← seesOp "..") then
      if ← seesSecond (.word "await") then pure "`.await`"
      else if (← seesSecond .ident)
          && ((← seesThird (.group .paren)) || (← seesThird (.op "::"))) then
        pure "a method call"
      else pure "a field access"
    else if ← seesOp "?" then pure "`?`"
    else if ← sees (.group .bracket) then pure "indexing"
    else if ← sees (.group .paren) then pure "a function call"
    else return
  fail ("casts cannot be followed by " ++ kind)

/-- Is the code a comparison? -/
def isComparison (c : Code) : Bool :=
  match c with
  | .tree .binary [_, .mark o, _] => binaryOps.contains (o, .compare)
  | _ => false

/-- The operators behind an operand, as far as they bind at least as tightly as `base`.  Nothing
follows a range. -/
def readOperators (g : Grammar) (braces : BraceRule) (base : Precedence) (start : Code) :
    Reader Code :=
  iterate (fun left => do
    if left.kind = .range then return none
    match ← binaryOp? with
    | some (o, prec) =>
      if prec.rank < base.rank then return none
      if prec = .compare && isComparison left then
        fail "comparison operators cannot be chained"
      op o
      let right ← g.rightOperand braces prec
      return some (.tree .binary [.code left, .mark o, .code right])
    | none =>
      if base.rank ≤ Precedence.assign.rank && (← seesAssign) then
        op "="
        let right ← g.rightOperand braces .assign
        return some (.tree .assign [.code left, .mark "=", .code right])
      else if base.rank ≤ Precedence.range.rank && (← seesOp "..") then
        let limit ← limits false
        let stop ← g.rangeEnd braces limit
        return some (.tree .range ([.code left, .mark limit] ++ stop))
      else if ← word? "as" then
        let ty ← g.ty false
        checkCast
        return some (.tree .cast [.code left, .mark "as", .ty ty])
      else return none) start

/-- Code with attributes in front of it; a range gets parentheses. -/
def withAttrs (attrs : List Attr) (c : Code) : Code :=
  if attrs.isEmpty then c
  else
    let inner := if c.kind = .range then .tree .paren [.group .paren [.code c]] else c
    .tree .attributed (attrs.map Part.attr ++ [.code inner])

/-! ### Blocks -/

/-- The content of a block: inner attributes and statements. -/
def blockParts (g : Grammar) : Reader (List Part) :=
  group .brace do return (← g.innerAttrs).map Part.attr ++ (← g.statements)

/-- A block that may begin with attributes of its own. -/
def innerBlock (g : Grammar) : Reader Code :=
  return .tree .block [.group .brace (← g.blockParts)]

/-- A plain block. -/
def block (g : Grammar) : Reader Code :=
  return .tree .block [.group .brace (← group .brace g.statements)]

/-- The arguments of a call. -/
def callArgs (g : Grammar) : Reader Part := do
  let (args, trailing) ← group .paren (commaList (g.expr .allowStruct))
  return .group .paren (codeList args trailing)

/-! ### Suffixes -/

/-- Splits the spelling of a number such as `1.2`, by which an element of an element is chosen,
into the spellings of its indices. -/
def indexSpellings (text : String) : List String :=
  (text.splitOn ".").filter (· ≠ "")

/-- A field, a method call or `await`, behind the dot and behind indices that a number spells. -/
def namedSuffix (g : Grammar) (base : Code) : Reader Code := do
  if ← word? "await" then return .tree .await [.code base, .mark ".", .mark "await"]
  let (named, name) ← member
  let turbofish ← if named && (← seesOp "::") then
      op "::"
      (return [Part.args (← g.angleArgs true)])
    else pure []
  if named && (!turbofish.isEmpty || (← sees (.group .paren))) then
    return .tree .methodCall
      ([.code base, .mark ".", name] ++ turbofish ++ [← g.callArgs])
  else return .tree .field [.code base, .mark ".", name]

/-- What follows the dot behind an operand.  A number with a point spells several indices, and with
a point at its end also the next dot. -/
def dotSuffix (g : Grammar) (base : Code) : Reader Code := do
  if ← sees .floatLiteral then
    let pos ← here
    let text ← literal
    let chosen ← (indexSpellings text).foldlM (fun c p => do
      if integerParts? p = none then failAt pos "expected integer literal"
      return Code.tree .field [.code c, .mark ".", .literal (← position pos p)]) base
    if text.endsWith "." then g.namedSuffix chosen else return chosen
  else g.namedSuffix base

/-- The suffixes behind an atom. -/
def suffixes (g : Grammar) (atom : Code) : Reader Code :=
  iterate (fun base => do
    if ← sees (.group .paren) then return some (.tree .call [.code base, ← g.callArgs])
    else if base.kind ≠ .range && (← seesOp ".") && !(← seesOp "..") then
      op "."
      some <$> g.dotSuffix base
    else if ← sees (.group .bracket) then
      let index ← group .bracket (g.expr .allowStruct)
      return some (.tree .index [.code base, .group .bracket [.code index]])
    else if base.kind ≠ .range && (← seesOp "?") then
      op "?"
      return some (.tree .try_ [.code base, .mark "?"])
    else return none) atom

/-! ### Atoms -/

/-- A tuple or an expression in parentheses. -/
def parenExpr (g : Grammar) : Reader Code := do
  let (elems, trailing) ← group .paren (commaList (g.expr .allowStruct))
  match elems, trailing with
  | [e], false => return .tree .paren [.group .paren [.code e]]
  | _, _ => return .tree .tuple [.group .paren (codeList elems trailing)]

/-- An array, given by its elements or by one element and a length. -/
def bracketExpr (g : Grammar) : Reader Code :=
  group .bracket do
    if ← atEnd then return .tree .array [.group .bracket []]
    let first ← g.expr .allowStruct
    if ← op? ";" then
      let len ← g.expr .allowStruct
      return .tree .repeat_ [.group .bracket [.code first, .mark ";", .code len]]
    else if ← atEnd then return .tree .array [.group .bracket [.code first]]
    else if ← op? "," then
      let (more, trailing) ← commaList (g.expr .allowStruct)
      return .tree .array
        [.group .bracket (codeList (first :: more) (more.isEmpty || trailing))]
    else fail "expected `,` or `;`"

/-- The field of a struct expression. -/
def fieldValue (g : Grammar) : Reader (List Part) := do
  let attrs ← g.outerAttrs
  let (named, name) ← member
  let value ← if !named || (← seesOp ":") then
      op ":"
      (return [.mark ":", .code (← g.expr .allowStruct)])
    else pure []
  return [.code (.tree .fieldValue (attrs.map Part.attr ++ name :: value))]

/-- The fields of a struct expression; a base may stand at the end. -/
def structFields (g : Grammar) : Reader (List Part) := do
  let (found, _) ← iterate (fun (acc, go) => do
    if !go || (← atEnd) then return none
    if ← op? ".." then
      let base ← if ← atEnd then pure [] else (return [Part.code (← g.expr .allowStruct)])
      return some (acc ++ .mark ".." :: base, false)
    let field ← g.fieldValue
    if ← atEnd then return some (acc ++ field, false)
    op ","
    return some (acc ++ field ++ [.mark ","], true)) (([] : List Part), true)
  return found

/-- An expression that begins with a path. -/
def pathExpr (g : Grammar) (braces : BraceRule) : Reader Code := do
  let path ← g.qualifiedPath .expr
  let simple? := match path with
    | .path p => p.simple?
    | _ => none
  if simple?.isSome && (← seesOp "!") && !(← seesOp "!=") then
    op "!"
    let (delim, _, body) ← anyGroup
    return .tree .macroCall
      [.simple (simple?.getD ⟨false, []⟩), .mark "!", .group delim [.raw body]]
  else if braces == .allowStruct && (← sees (.group .brace)) then
    let fields ← group .brace g.structFields
    return .tree .struct_ ((pathCode path).parts ++ [.group .brace fields])
  else return pathCode path

/-- A parameter of a closure. -/
def closureParam (g : Grammar) : Reader (List Part) := do
  let attrs ← g.outerAttrs
  let pat ← g.pattern
  let typed ← if ← op? ":" then
      (return Code.tree .patType [.code pat, .mark ":", .ty (← g.ty true)])
    else pure pat
  return attrs.map Part.attr ++ [.code typed]

/-- A closure. -/
def closure (g : Grammar) (braces : BraceRule) : Reader Code := do
  let binder ← g.binder?
  let isConst ← word? "const"
  let isStatic ← word? "static"
  let isAsync ← word? "async"
  let isMove ← word? "move"
  op "|"
  let (params, trailing) ← separated "," (seesOp "|") g.closureParam
  op "|"
  let head := (binder.map Part.binder).toList ++ markIf isConst "const"
    ++ markIf isStatic "static" ++ markIf isAsync "async" ++ markIf isMove "move"
    ++ .mark "|" :: withCommas params trailing ++ [.mark "|"]
  if ← op? "->" then
    let ty ← g.ty true
    return .tree .closure (head ++ [.mark "->", .ty ty, .code (← g.block)])
  else return .tree .closure (head ++ [.code (← g.expr braces)])

/-- May an expression begin here? -/
def seesExpr : Reader Bool := do
  let word := (← sees .anyIdent) && !(← seesWord "as")
  let group ← seesAny [.group .paren, .group .bracket, .group .brace, .literal, .op "..", .op "::",
    .lifetime, .op "#"]
  let operator := ((← seesOp "!") && !(← seesOp "!="))
    || ((← seesOp "-") && !(← seesOp "-=") && !(← seesOp "->"))
    || ((← seesOp "*") && !(← seesOp "*="))
    || ((← seesOp "|") && !(← seesOp "|="))
    || ((← seesOp "&") && !(← seesOp "&="))
    || ((← seesOp "<") && !(← seesOp "<=") && !(← seesOp "<<="))
  return word || group || operator

/-- The value behind `break`, `return` and the like, if there is one.  A brace in it may begin a
struct expression even in the head of a condition. -/
def optionalValue (g : Grammar) : Reader (List Part) := do
  if ← seesExpr then return [.code (← g.expr .allowStruct)] else return []

/-- A `break`; a label in front of a labelled loop would be ambiguous.  In the head of a condition a
brace directly behind it belongs to what follows the head. -/
def breakExpr (g : Grammar) (braces : BraceRule) : Reader Code := do
  let _ ← word "break"
  if (← sees .lifetime) && (← seesSecond (.op ":")) then
    let pos ← here
    let _ ← g.expr .allowStruct
    failAt pos "parentheses required"
  let label ← lifetime?
  let isBare ← (return braces == .noStruct && (← sees (.group .brace)))
  let value ← if isBare then pure [] else g.optionalValue
  return .tree .break_ ([.mark "break"] ++ (label.map Part.lifetime).toList ++ value)

/-- An `if` with its branches. -/
def ifExpr (g : Grammar) : Reader Code := do
  let head : Reader (List Part) := do
    let _ ← word "if"
    let cond ← g.expr .noStruct
    return [.mark "if", .code cond, .code (← g.block)]
  let first ← head
  let (heads, last, _) ← iterate (fun (heads, _, go) => do
    if !go then return none
    if !(← word? "else") then return none
    if ← seesWord "if" then return some (heads ++ [← head], [], true)
    else if ← sees (.group .brace) then
      return some (heads, [Part.mark "else", .code (← g.block)], false)
    else expected [.word "if", .group .brace]) ([first], ([] : List Part), true)
  let chain := heads.foldr
    (fun parts (tail : List Part) => [.mark "else", .code (.tree .if_ (parts ++ tail))]) last
  match chain with
  | [_, .code c] => return c
  | _ => return .tree .if_ first

/-- A loop whose label is read. -/
def loopExpr (g : Grammar) (label : List Part) : Reader Code := do
  if ← word? "while" then
    let cond ← g.expr .noStruct
    return .tree .while_ (label ++ [.mark "while", .code cond, .code (← g.innerBlock)])
  else if ← word? "for" then
    let pat ← g.alternatives
    let _ ← word "in"
    let source ← g.expr .noStruct
    return .tree .forLoop
      (label ++ [.mark "for", .code pat, .mark "in", .code source, .code (← g.innerBlock)])
  else
    let _ ← word "loop"
    return .tree .loop (label ++ [.mark "loop", .code (← g.innerBlock)])

/-- A loop or a block with a label. -/
def labelledExpr (g : Grammar) : Reader Code := do
  let name ← lifetime
  op ":"
  let label : List Part := [.lifetime name, .mark ":"]
  if ← seesAny [.word "while", .word "for", .word "loop"] then g.loopExpr label
  else if ← sees (.group .brace) then
    return .tree .block (label ++ [.group .brace (← g.blockParts)])
  else fail "expected loop or block expression"

/-- Does the expression end with its own braces, so that neither a comma nor a semicolon is needed
behind it? -/
def isBlockLike (c : Code) : Bool :=
  match c with
  | .tree .attributed parts => parts.any fun
    | .code (.tree k _) => blockKinds.contains k
    | _ => false
  | .tree k _ => blockKinds.contains k
where
  blockKinds : List CodeKind :=
    [.if_, .match_, .block, .unsafe_, .while_, .loop, .forLoop, .tryBlock, .const_]

/-- An arm of a `match`. -/
def arm (g : Grammar) : Reader Part := do
  let attrs ← g.outerAttrs
  let pat ← g.alternatives
  let guard ← if ← word? "if" then
      (return [Part.mark "if", .code (← g.expr .allowStruct)])
    else pure []
  op "=>"
  let body ← g.blockLikeExpr
  let comma ←
    if !isBlockLike body && !(← atEnd) then
      op ","
      pure true
    else op? ","
  return .code (.tree .arm
    (attrs.map Part.attr ++ .code pat :: guard ++ [.mark "=>", .code body] ++ markIf comma ","))

/-- A `match`. -/
def matchExpr (g : Grammar) : Reader Code := do
  let _ ← word "match"
  let subject ← g.expr .noStruct
  let parts ← group .brace do
    return (← g.innerAttrs).map Part.attr ++ (← manyToEnd g.arm)
  return .tree .match_ [.mark "match", .code subject, .group .brace parts]

/-- A condition that matches a pattern. -/
def letExpr (g : Grammar) (braces : BraceRule) : Reader Code := do
  let _ ← word "let"
  let pat ← g.alternatives
  op "="
  let operand ← g.operand braces
  let value ← g.operators braces .compare operand
  return .tree .let_ [.mark "let", .code pat, .mark "=", .code value]

/-- Does `for` begin the binder of a closure rather than a loop? -/
def seesClosureBinder : Reader Bool := do
  if !(← seesWord "for") then return false
  let named := (← seesThird .lifetime) || (← seesThird .ident)
  let fourth ← (return Tokens.skip (Tokens.skip (Tokens.skip (← rest))))
  let behind := [Mark.op ">", .op ",", .op ":", .op "="].any (·.leads fourth)
    && !(Mark.op "::").leads fourth
  return (← seesSecond (.op "<"))
    && ((← seesThird (.op ">")) || (← seesThird (.op "#")) || (← seesThird (.word "const"))
      || (named && behind))

/-- Does a closure come next? -/
def seesClosure : Reader Bool := do
  if ← seesAny [.op "|", .word "move", .word "static"] then return true
  if ← seesClosureBinder then return true
  if (← seesWord "const") && !(← seesSecond (.group .brace)) then return true
  return (← seesWord "async") && ((← seesSecond (.op "|")) || (← seesSecond (.word "move")))

/-- Does an `async` block come next? -/
def seesAsyncBlock : Reader Bool := do
  return (← seesWord "async") && ((← seesSecond (.group .brace))
    || ((← seesSecond (.word "move")) && (← seesThird (.group .brace))))

/-- Does a path come next? -/
def seesPath : Reader Bool := do
  return (← seesAny ([.ident, .op "::", .op "<"] ++ pathWordStarts))
    || ((← seesWord "try") && ((← seesSecond (.op "!")) || (← seesSecond (.op "::"))))

/-- A keyword in front of a block. -/
def keywordBlock (kind : CodeKind) (keyword : String) (body : Reader Code) : Reader Code := do
  let _ ← word keyword
  return .tree kind [.mark keyword, .code (← body)]

/-- An expression that begins with a word of its own. -/
def wordExpr? (g : Grammar) (braces : BraceRule) : Reader (Option Code) := do
  if ← seesWord "break" then some <$> g.breakExpr braces
  else if ← word? "continue" then
    let label ← lifetime?
    return some (.tree .continue_ (.mark "continue" :: (label.map Part.lifetime).toList))
  else if ← word? "return" then
    return some (.tree .return_ (.mark "return" :: (← g.optionalValue)))
  else if ← seesWord "become" then
    let before ← rest
    let _ ← word "become"
    let _ ← g.expr .allowStruct
    return some (.tree .verbatim [.raw (← tokensSince before)])
  else if ← sees (.group .bracket) then some <$> g.bracketExpr
  else if ← seesWord "let" then some <$> g.letExpr braces
  else if ← seesWord "if" then some <$> g.ifExpr
  else if ← seesAny [.word "while", .word "for", .word "loop"] then some <$> g.loopExpr []
  else if ← seesWord "match" then some <$> g.matchExpr
  else if ← word? "yield" then
    return some (.tree .yield_ (.mark "yield" :: (← g.optionalValue)))
  else if ← seesWord "unsafe" then some <$> keywordBlock .unsafe_ "unsafe" g.innerBlock
  else if ← seesWord "const" then some <$> keywordBlock .const_ "const" g.innerBlock
  else return none

/-- An expression without operators and suffixes. -/
def atom (g : Grammar) (braces : BraceRule) : Reader Code := do
  if ← sees .literal then return .tree .literal [.literal (← literal)]
  else if ← seesAsyncBlock then
    let _ ← word "async"
    let isMove ← word? "move"
    return .tree .async (.mark "async" :: markIf isMove "move" ++ [.code (← g.block)])
  else if (← seesWord "try") && (← seesSecond (.group .brace)) then
    keywordBlock .tryBlock "try" g.block
  else if ← seesClosure then g.closure braces
  else if ← seesBuiltin then
    let before ← rest
    builtin
    return .tree .verbatim [.raw (← tokensSince before)]
  else if ← seesPath then g.pathExpr braces
  else if ← sees (.group .paren) then g.parenExpr
  else
    match ← g.wordExpr? braces with
    | some c => return c
    | none =>
      if ← sees (.group .brace) then g.innerBlock
      else if ← seesOp ".." then
        let limit ← limits false
        return .tree .range (.mark limit :: (← g.rangeEnd braces limit))
      else if ← word? "_" then return .tree .infer [.mark "_"]
      else if ← sees .lifetime then g.labelledExpr
      else fail "expected an expression"

/-! ### Whole expressions -/

/-- An operand with attributes, prefix operators and suffixes. -/
def readOperand (g : Grammar) (braces : BraceRule) : Reader Code := do
  let attrs ← g.outerAttrs
  if ← op? "&" then
    let isRaw := (← seesWord "raw")
      && ((← seesSecond (.word "mut")) || (← seesSecond (.word "const")))
    if isRaw then
      let _ ← word "raw"
      let isMut ← word? "mut"
      if !isMut then
        let _ ← word "const"
      return withAttrs attrs (.tree .rawAddress [.mark "&", .mark "raw",
        .mark (if isMut then "mut" else "const"), .code (← g.operand braces)])
    else
      let isMut ← word? "mut"
      return withAttrs attrs
        (.tree .reference (.mark "&" :: markIf isMut "mut" ++ [.code (← g.operand braces)]))
  else
    for o in ["*", "!", "-"] do
      if ← op? o then
        return withAttrs attrs (.tree .unary [.mark o, .code (← g.operand braces)])
    let pos ← here
    let c ← g.suffixes (← g.atom braces)
    if !attrs.isEmpty && c.kind = .range then
      failAt pos "attributes are not allowed on range expressions starting with `..`"
    return withAttrs attrs c

/-- An expression. -/
def readExpr (g : Grammar) (braces : BraceRule) : Reader Code := do
  let operand ← g.operand braces
  g.operators braces .lowest operand

/-- Does an expression with a block of its own come next, which may end a statement? -/
def seesBlockLike : Reader Bool := do
  if ← seesWord "for" then return !(← seesClosureBinder)
  if (← seesWord "try") || (← seesWord "const") then return ← seesSecond (.group .brace)
  seesAny [.word "if", .word "while", .word "loop", .word "match", .word "unsafe", .group .brace,
    .lifetime]

/-- An expression that ends early if it ends with a block: operators do not join it to what
follows, only a suffix does. -/
def readBlockLikeExpr (g : Grammar) : Reader Code := do
  let attrs ← g.outerAttrs
  if ← seesBlockLike then
    let first ← g.atom .allowStruct
    if ((← seesOp ".") && !(← seesOp "..")) || (← seesOp "?") then
      let longer ← g.suffixes first
      g.operators .allowStruct .lowest (withAttrs attrs longer)
    else return withAttrs attrs first
  else
    let operand ← g.operand .allowStruct
    g.operators .allowStruct .lowest (withAttrs attrs operand)

end Grammar

end PatternFactory
