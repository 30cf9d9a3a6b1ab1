import Mathlib.Tactic.Tauto
import PatternFactory.Proofs.Places

/-!
# What a tree mentions

`Ty.mentions` and its companions list the words of a tree that are not fixed by its shape, and the
types that it refers to by a single name.  There are two ways to list them.  A plain list takes
every path as it is written.  The list of a tree that is searched for `Self` tells what replacing
`Self` makes of the tree: a type path that begins with `Self` counts as `Mention.self`, and what
stands behind its first word is taken as it is written, because it is not searched any further.

* The word `Self` is in the tokens of a tree just if the plain list has it
  (`Ty.self_mem_words`).
* After `Self` is replaced, the plain list has what the searched tree mentions and, if it mentions
  `Self`, what the type of the block mentions (`Ty.mem_mentions_replaceSelf`).
-/

namespace PatternFactory

/-! ### Words of tokens -/

mutual

/-- The words in a token tree, the names of lifetimes among them. -/
def Token.words : Token → List String
  | .word text _ => [text]
  | .punct _ _ _ => []
  | .literal _ _ => []
  | .group _ body _ _ => Tokens.words body

/-- The words in a sequence of tokens, those inside of groups among them. -/
def Tokens.words : List Token → List String
  | [] => []
  | t :: ts => t.words ++ Tokens.words ts

end

namespace Tokens

@[simp] theorem words_nil : words [] = [] := by rw [words]

@[simp] theorem words_cons (t : Token) (ts : List Token) :
    words (t :: ts) = t.words ++ words ts := by
  rw [words]

@[simp] theorem words_append (ts us : List Token) : words (ts ++ us) = words ts ++ words us := by
  induction ts with
  | nil => rfl
  | cons t ts ih => rw [List.cons_append, words_cons, words_cons, ih, List.append_assoc]

end Tokens

namespace Token

@[simp] theorem words_ofWord (text : String) : (ofWord text).words = [text] := rfl

@[simp] theorem words_ofLiteral (text : String) : (ofLiteral text).words = [] := rfl

@[simp] theorem words_ofGroup (delim : Delimiter) (body : List Token) :
    (ofGroup delim body).words = Tokens.words body := by
  rw [ofGroup, words]

@[simp] theorem words_ofLifetime (name : String) : Tokens.words (ofLifetime name) = [name] := rfl

@[simp] theorem words_ofOperator (op : String) : Tokens.words (ofOperator op) = [] := by
  have hgo (cs : List Char) : Tokens.words (ofOperator.go cs) = [] := by
    induction cs with
    | nil => rfl
    | cons c cs ih =>
      cases cs with
      | nil => rfl
      | cons c' cs =>
        change (punct c true .start).words ++ Tokens.words (ofOperator.go (c' :: cs)) = []
        rw [ih]
        rfl
  exact hgo op.toList

end Token

mutual

@[simp] theorem Token.words_unplaced (t : Token) : t.unplaced.words = t.words := by
  match t with
  | .word _ _ => rfl
  | .punct _ _ _ => rfl
  | .literal _ _ => rfl
  | .group _ body _ _ =>
    rw [Token.unplaced, Token.words_ofGroup, Token.words, Tokens.words_unplaced body]

@[simp] theorem Tokens.words_unplaced (ts : List Token) :
    Tokens.words (Tokens.unplaced ts) = Tokens.words ts := by
  match ts with
  | [] => rfl
  | t :: ts =>
    rw [Tokens.unplaced, Tokens.words_cons, Tokens.words_cons, Token.words_unplaced t,
      Tokens.words_unplaced ts]

end

/-! ### Words of sequences -/

section

variable {w : String}

@[simp] theorem mem_words_joinTokens {op : String} {items : List (List Token)} :
    w ∈ Tokens.words (joinTokens op items) ↔ ∃ ts ∈ items, w ∈ Tokens.words ts := by
  induction items with
  | nil => simp [joinTokens]
  | cons ts items ih =>
    cases items with
    | nil => simp [joinTokens]
    | cons us items =>
      simp only [joinTokens, Tokens.words_append, Token.words_ofOperator, List.append_nil,
        List.mem_append, ih, List.mem_cons, exists_eq_or_imp]

@[simp] theorem mem_words_separateTokens {op : String} {trailing : Bool}
    {items : List (List Token)} :
    w ∈ Tokens.words (separateTokens op trailing items) ↔ ∃ ts ∈ items, w ∈ Tokens.words ts := by
  rw [separateTokens, Tokens.words_append, List.mem_append, mem_words_joinTokens]
  split <;> simp

theorem mem_words_write {separated : Bool} {items : List (Bool × Bool × List Token)} :
    w ∈ Tokens.words (selectFirst.write separated items) ↔
      ∃ item ∈ items, w ∈ Tokens.words item.2.2 := by
  induction items generalizing separated with
  | nil => simp [selectFirst.write]
  | cons item items ih =>
    obtain ⟨first, comma, ts⟩ := item
    cases separated <;> cases comma <;> simp [selectFirst.write, ih]

theorem mem_words_withCommas (trailing : Bool) {items : List (Bool × List Token)} :
    (∃ item ∈ selectFirst.withCommas trailing items, w ∈ Tokens.words item.2.2) ↔
      ∃ item ∈ items, w ∈ Tokens.words item.2 := by
  induction items with
  | nil => simp [selectFirst.withCommas]
  | cons item items ih =>
    cases items with
    | nil => simp [selectFirst.withCommas]
    | cons item' items =>
      change (∃ i ∈ (item.1, true, item.2) :: selectFirst.withCommas trailing (item' :: items),
        w ∈ Tokens.words i.2.2) ↔ _
      simp only [List.mem_cons, exists_eq_or_imp, ih]

@[simp] theorem mem_words_selectFirst {trailing : Bool} {items : List (Bool × List Token)} :
    w ∈ Tokens.words (selectFirst items trailing) ↔ ∃ item ∈ items, w ∈ Tokens.words item.2 := by
  rw [selectFirst, mem_words_write, ← mem_words_withCommas trailing]
  -- The items in front and those behind are all items.
  simp only [List.mem_append, List.mem_filter, or_and_right, exists_or]
  constructor
  · rintro (⟨item, ⟨hmem, -⟩, hw⟩ | ⟨item, ⟨hmem, -⟩, hw⟩) <;> exact ⟨item, hmem, hw⟩
  · rintro ⟨item, hmem, hw⟩
    cases h : item.1
    · exact .inr ⟨item, ⟨hmem, by simp [h]⟩, hw⟩
    · exact .inl ⟨item, ⟨hmem, by simp [h]⟩, hw⟩

end

/-! ### Mentions -/

/-- What is mentioned in a tree. -/
inductive Mention where
  /-- A word, or the name of a lifetime. -/
  | word (text : String)
  /-- A type that is a path of one name, which may have arguments. -/
  | type (name : String)
  /-- The type of the impl block, in the place of `Self`. -/
  | self
  deriving DecidableEq, Repr

namespace Mention

/-- The words of tokens. -/
def ofTokens (ts : List Token) : List Mention := (Tokens.words ts).map word

/-- An identifier without the mark of raw ones, which is no part of the name. -/
def plainName (name : String) : String :=
  match name.toList with
  | 'r' :: '#' :: plain => String.ofList plain
  | _ => name

/-- The type that a path may refer to by a single name. -/
def ofPath (leading : Bool) (name : String) (rest : List Segment) : List Mention :=
  if leading || !rest.isEmpty then [] else [type (plainName name)]

@[simp] theorem word_mem_ofTokens {w : String} {ts : List Token} :
    word w ∈ ofTokens ts ↔ w ∈ Tokens.words ts := by
  simp [ofTokens]

@[simp] theorem word_notMem_ofPath {w : String} {leading : Bool} {name : String}
    {rest : List Segment} : word w ∉ ofPath leading name rest := by
  unfold ofPath
  split <;> simp

end Mention

mutual

/-- What a type mentions. -/
def Ty.mentions (searched : Bool) : Ty → List Mention
  | .array elem len => elem.mentions searched ++ len.mentions searched
  | .bareFn binder _ _ inputs _ variadic output =>
    Binder.mentionsOption searched binder ++ BareArg.mentionsList searched inputs
      ++ BareVariadic.mentionsOption searched variadic ++ Ty.mentionsOption searched output
  | .implTrait bounds _ => Bound.mentionsList searched bounds
  | .infer => []
  | .macroCall path _ body => Mention.ofTokens path.tokens ++ Mention.ofTokens body
  | .never => []
  | .paren elem => elem.mentions searched
  | .path (.mk leading segments) =>
    match segments with
    | .mk name args :: rest =>
      if searched && name = "Self" then .self :: Segment.mentionsList false rest
      else
        Mention.ofPath leading name rest ++ .word name :: args.mentions searched
          ++ Segment.mentionsList searched rest
    | [] => []
  | .qualified inner asTrait rest =>
    inner.mentions searched ++ Path.mentionsOption searched asTrait
      ++ Segment.mentionsList searched rest
  | .ptr _ elem => elem.mentions searched
  | .reference lifetime _ elem => lifetime.toList.map .word ++ elem.mentions searched
  | .slice elem => elem.mentions searched
  | .traitObject _ bounds _ => Bound.mentionsList searched bounds
  | .tuple elems _ => Ty.mentionsList searched elems
  | .verbatim ts => Mention.ofTokens ts

/-- What some types mention. -/
def Ty.mentionsList (searched : Bool) : List Ty → List Mention
  | [] => []
  | t :: ts => t.mentions searched ++ Ty.mentionsList searched ts

/-- What an optional type mentions. -/
def Ty.mentionsOption (searched : Bool) : Option Ty → List Mention
  | some t => t.mentions searched
  | none => []

/-- What a parameter of a function type mentions. -/
def BareArg.mentions (searched : Bool) : BareArg → List Mention
  | .mk attrs name ty =>
    Attr.mentionsList searched attrs ++ name.toList.map .word ++ ty.mentions searched

/-- What some parameters of a function type mention. -/
def BareArg.mentionsList (searched : Bool) : List BareArg → List Mention
  | [] => []
  | a :: rest => a.mentions searched ++ BareArg.mentionsList searched rest

/-- What a path that is no type mentions. -/
def Path.mentions (searched : Bool) : Path → List Mention
  | .mk _ segments => Segment.mentionsList searched segments

/-- What an optional path mentions. -/
def Path.mentionsOption (searched : Bool) : Option Path → List Mention
  | some p => p.mentions searched
  | none => []

/-- What a segment mentions. -/
def Segment.mentions (searched : Bool) : Segment → List Mention
  | .mk name args => .word name :: args.mentions searched

/-- What some segments mention. -/
def Segment.mentionsList (searched : Bool) : List Segment → List Mention
  | [] => []
  | s :: rest => s.mentions searched ++ Segment.mentionsList searched rest

/-- What generic arguments mention. -/
def Args.mentions (searched : Bool) : Args → List Mention
  | .none => []
  | .angle _ args _ => GenericArg.mentionsList searched args
  | .paren inputs _ output =>
    Ty.mentionsList searched inputs ++ Ty.mentionsOption searched output

/-- What a generic argument mentions. -/
def GenericArg.mentions (searched : Bool) : GenericArg → List Mention
  | .lifetime name => [.word name]
  | .type ty => ty.mentions searched
  | .const value => value.mentions searched
  | .assocType name args ty => .word name :: args.mentions searched ++ ty.mentions searched
  | .assocConst name args value => .word name :: args.mentions searched ++ value.mentions searched
  | .constraint name args bounds _ =>
    .word name :: args.mentions searched ++ Bound.mentionsList searched bounds

/-- What some generic arguments mention. -/
def GenericArg.mentionsList (searched : Bool) : List GenericArg → List Mention
  | [] => []
  | a :: rest => a.mentions searched ++ GenericArg.mentionsList searched rest

/-- What a bound mentions. -/
def Bound.mentions (searched : Bool) : Bound → List Mention
  | .trait _ _ binder path => Binder.mentionsOption searched binder ++ path.mentions searched
  | .lifetime name => [.word name]
  | .captures params _ => params.flatMap fun p => Mention.ofTokens (nameTokens p)
  | .verbatim ts => Mention.ofTokens ts

/-- What some bounds mention. -/
def Bound.mentionsList (searched : Bool) : List Bound → List Mention
  | [] => []
  | b :: rest => b.mentions searched ++ Bound.mentionsList searched rest

/-- What a binder mentions. -/
def Binder.mentions (searched : Bool) : Binder → List Mention
  | .mk params _ => GenericParam.mentionsList searched params

/-- What an optional binder mentions. -/
def Binder.mentionsOption (searched : Bool) : Option Binder → List Mention
  | some b => b.mentions searched
  | none => []

/-- What a generic parameter mentions. -/
def GenericParam.mentions (searched : Bool) : GenericParam → List Mention
  | .lifetime ⟨attrs, name, bounds, _⟩ =>
    Attr.mentionsList searched attrs ++ .word name :: bounds.map .word
  | .type attrs name bounds _ default =>
    Attr.mentionsList searched attrs ++ .word name :: Bound.mentionsList searched bounds
      ++ Ty.mentionsOption searched default
  | .const attrs name ty default =>
    Attr.mentionsList searched attrs ++ .word name :: ty.mentions searched
      ++ Code.mentionsOption searched default

/-- What some generic parameters mention. -/
def GenericParam.mentionsList (searched : Bool) : List GenericParam → List Mention
  | [] => []
  | p :: rest => p.mentions searched ++ GenericParam.mentionsList searched rest

/-- What a condition mentions. -/
def WherePredicate.mentions (searched : Bool) : WherePredicate → List Mention
  | .lifetime name bounds _ => .word name :: bounds.map .word
  | .type binder ty bounds _ =>
    Binder.mentionsOption searched binder ++ ty.mentions searched
      ++ Bound.mentionsList searched bounds

/-- What some conditions mention. -/
def WherePredicate.mentionsList (searched : Bool) : List WherePredicate → List Mention
  | [] => []
  | p :: rest => p.mentions searched ++ WherePredicate.mentionsList searched rest

/-- What the open end of the parameters of a function type mentions. -/
def BareVariadic.mentionsOption (searched : Bool) : Option BareVariadic → List Mention
  | some ⟨attrs, name, _⟩ => Attr.mentionsList searched attrs ++ name.toList.map .word
  | none => []

/-- What the content of an attribute mentions. -/
def Meta.mentions (searched : Bool) : Meta → List Mention
  | .path path => Mention.ofTokens path.tokens
  | .list path _ _ body => Mention.ofTokens path.tokens ++ Mention.ofTokens body
  | .nameValue path value => Mention.ofTokens path.tokens ++ value.mentions searched

/-- What an attribute mentions. -/
def Attr.mentions (searched : Bool) : Attr → List Mention
  | ⟨_, content, _⟩ => content.mentions searched

/-- What some attributes mention. -/
def Attr.mentionsList (searched : Bool) : List Attr → List Mention
  | [] => []
  | a :: rest => a.mentions searched ++ Attr.mentionsList searched rest

/-- What a piece of code mentions.  A receiver without a type has the type `Self`. -/
def Code.mentions (searched : Bool) : Code → List Mention
  | .tree kind parts =>
    Part.mentionsList searched parts
      ++ if searched && kind = .receiver && !parts.any (· matches .mark ":") then [.self] else []

/-- What an optional piece of code mentions. -/
def Code.mentionsOption (searched : Bool) : Option Code → List Mention
  | some c => c.mentions searched
  | none => []

/-- What a part mentions. -/
def Part.mentions (searched : Bool) : Part → List Mention
  | .mark text => Mention.ofTokens (markTokens text)
  | .word text => [.word text]
  | .lifetime name => [.word name]
  | .literal text => Mention.ofTokens (literalTokens text)
  | .group _ parts => Part.mentionsList searched parts
  | .code c => c.mentions searched
  | .ty t => t.mentions searched
  | .path p => p.mentions searched
  | .args a => a.mentions searched
  | .attr a => a.mentions searched
  | .binder b => b.mentions searched
  | .simple p => Mention.ofTokens p.tokens
  | .raw ts => Mention.ofTokens ts
  | .vis v => Mention.ofTokens v.tokens
  | .abi a => Mention.ofTokens a.tokens
  | .generics params _ => GenericParam.mentionsList searched params
  | .bounds bounds _ => Bound.mentionsList searched bounds
  | .conditions predicates _ => WherePredicate.mentionsList searched predicates

/-- What some parts mention. -/
def Part.mentionsList (searched : Bool) : List Part → List Mention
  | [] => []
  | p :: rest => p.mentions searched ++ Part.mentionsList searched rest

end

/-! ### `Self` in tokens -/

section

variable {w : String}

@[simp] theorem mem_words_wordIf {present : Bool} {v : String} :
    w ∈ Tokens.words (wordIf present v) ↔ present = true ∧ w = v := by
  cases present <;> simp [wordIf]

@[simp] theorem words_paramNameTokens (name : Option String) :
    Tokens.words (paramNameTokens name) = name.toList := by
  cases name <;> simp [paramNameTokens]

@[simp] theorem mem_words_outlivedTokens {bounds : List String} {trailing : Bool} :
    w ∈ Tokens.words (outlivedTokens bounds trailing) ↔ w ∈ bounds := by
  simp [outlivedTokens]

@[simp] theorem mem_words_lifetime {lifetime : Option String} :
    w ∈ Tokens.words ((lifetime.map Token.ofLifetime).getD []) ↔ w ∈ lifetime := by
  cases lifetime <;> simp [eq_comm]

@[simp] theorem words_comma {c : Prop} [Decidable c] :
    Tokens.words (if c then [] else Token.ofOperator ",") = [] := by
  split <;> simp

@[simp] theorem mem_words_bounds {bounds : List Bound} {trailing : Bool} :
    w ∈ Tokens.words (if bounds.isEmpty then []
        else Token.ofOperator ":" ++ separateTokens "+" trailing (Bound.listTokens bounds)) ↔
      ∃ ts ∈ Bound.listTokens bounds, w ∈ Tokens.words ts := by
  cases bounds <;> simp [Bound.listTokens]

@[simp] theorem words_abi (abi : Option Abi) :
    Tokens.words ((abi.map Abi.tokens).getD []) = if abi.isSome then ["extern"] else [] := by
  rcases abi with _ | ⟨_ | name⟩ <;> simp [Abi.tokens]

end

mutual

/-- The word `Self` is in the tokens of a type if the type mentions it. -/
theorem Ty.self_mem_words (t : Ty) :
    "Self" ∈ Tokens.words t.tokens ↔ .word "Self" ∈ t.mentions false := by
  match t with
  | .array elem len =>
    simp [Ty.tokens, Ty.mentions, Ty.self_mem_words elem, Code.self_mem_words len]
  | .bareFn binder _ _ inputs _ none output =>
    simp [Ty.tokens, Ty.mentions, Binder.self_mem_words_option binder,
      BareArg.self_mem_words_list inputs, Ty.self_mem_words_output output,
      BareVariadic.mentionsOption]
  | .bareFn binder _ _ inputs _ (some v) output =>
    simp [Ty.tokens, Ty.mentions, Binder.self_mem_words_option binder,
      BareArg.self_mem_words_list inputs, BareVariadic.self_mem_words v,
      Ty.self_mem_words_output output]
  | .implTrait bounds _ =>
    simp [Ty.tokens, Ty.mentions, Bound.self_mem_words_list bounds]
  | .infer => simp [Ty.tokens, Ty.mentions]
  | .macroCall path _ body => simp [Ty.tokens, Ty.mentions]
  | .never => simp [Ty.tokens, Ty.mentions]
  | .paren elem => simp [Ty.tokens, Ty.mentions, Ty.self_mem_words elem]
  | .path (.mk leading []) =>
    cases leading <;> simp [Ty.tokens, Path.tokens, Segment.listTokens, Ty.mentions]
  | .path (.mk leading (.mk name args :: rest)) =>
    cases leading <;>
      simp [Ty.tokens, Path.tokens, Segment.listTokens, Segment.tokens, Ty.mentions,
        Args.self_mem_words args, Segment.self_mem_words_list rest, or_assoc]
  | .qualified self asTrait rest =>
    simp [Ty.tokens, Ty.mentions, Ty.self_mem_words self, Path.self_mem_words_as asTrait,
      Segment.self_mem_words_list rest]
  | .ptr isMut elem =>
    cases isMut <;> simp [Ty.tokens, Ty.mentions, Ty.self_mem_words elem]
  | .reference lifetime _ elem =>
    simp [Ty.tokens, Ty.mentions, Ty.self_mem_words elem]
  | .slice elem => simp [Ty.tokens, Ty.mentions, Ty.self_mem_words elem]
  | .traitObject _ bounds _ =>
    simp [Ty.tokens, Ty.mentions, Bound.self_mem_words_list bounds]
  | .tuple elems _ => simp [Ty.tokens, Ty.mentions, Ty.self_mem_words_list elems]
  | .verbatim ts => simp [Ty.tokens, Ty.mentions]

theorem Ty.self_mem_words_list (ts : List Ty) :
    (∃ tokens ∈ Ty.listTokens ts, "Self" ∈ Tokens.words tokens) ↔
      .word "Self" ∈ Ty.mentionsList false ts := by
  match ts with
  | [] => simp [Ty.listTokens, Ty.mentionsList]
  | t :: ts =>
    simp [Ty.listTokens, Ty.mentionsList, Ty.self_mem_words t, Ty.self_mem_words_list ts]

theorem Ty.self_mem_words_output (t : Option Ty) :
    "Self" ∈ Tokens.words (Ty.outputTokens t) ↔ .word "Self" ∈ Ty.mentionsOption false t := by
  match t with
  | some t => simp [Ty.outputTokens, Ty.mentionsOption, Ty.self_mem_words t]
  | none => simp [Ty.outputTokens, Ty.mentionsOption]

theorem Ty.self_mem_words_default (t : Option Ty) :
    "Self" ∈ Tokens.words (Ty.defaultTokens t) ↔ .word "Self" ∈ Ty.mentionsOption false t := by
  match t with
  | some t => simp [Ty.defaultTokens, Ty.mentionsOption, Ty.self_mem_words t]
  | none => simp [Ty.defaultTokens, Ty.mentionsOption]

theorem BareArg.self_mem_words (a : BareArg) :
    "Self" ∈ Tokens.words a.tokens ↔ .word "Self" ∈ a.mentions false := by
  match a with
  | .mk attrs name ty =>
    simp [BareArg.tokens, BareArg.mentions, Attr.self_mem_words_list attrs, Ty.self_mem_words ty]

theorem BareArg.self_mem_words_list (l : List BareArg) :
    (∃ ts ∈ BareArg.listTokens l, "Self" ∈ Tokens.words ts) ↔
      .word "Self" ∈ BareArg.mentionsList false l := by
  match l with
  | [] => simp [BareArg.listTokens, BareArg.mentionsList]
  | a :: rest =>
    simp [BareArg.listTokens, BareArg.mentionsList, BareArg.self_mem_words a,
      BareArg.self_mem_words_list rest]

theorem Path.self_mem_words (p : Path) :
    "Self" ∈ Tokens.words p.tokens ↔ .word "Self" ∈ p.mentions false := by
  match p with
  | .mk leading segments =>
    cases leading <;>
      simp [Path.tokens, Path.mentions, Segment.self_mem_words_list segments]

theorem Path.self_mem_words_as (p : Option Path) :
    "Self" ∈ Tokens.words (Path.asTokens p) ↔ .word "Self" ∈ Path.mentionsOption false p := by
  match p with
  | some p => simp [Path.asTokens, Path.mentionsOption, Path.self_mem_words p]
  | none => simp [Path.asTokens, Path.mentionsOption]

theorem Segment.self_mem_words (s : Segment) :
    "Self" ∈ Tokens.words s.tokens ↔ .word "Self" ∈ s.mentions false := by
  match s with
  | .mk name args => simp [Segment.tokens, Segment.mentions, Args.self_mem_words args]

theorem Segment.self_mem_words_list (l : List Segment) :
    (∃ ts ∈ Segment.listTokens l, "Self" ∈ Tokens.words ts) ↔
      .word "Self" ∈ Segment.mentionsList false l := by
  match l with
  | [] => simp [Segment.listTokens, Segment.mentionsList]
  | s :: rest =>
    simp [Segment.listTokens, Segment.mentionsList, Segment.self_mem_words s,
      Segment.self_mem_words_list rest]

theorem Args.self_mem_words (a : Args) :
    "Self" ∈ Tokens.words a.tokens ↔ .word "Self" ∈ a.mentions false := by
  match a with
  | .none => simp [Args.tokens, Args.mentions]
  | .angle turbofish args _ =>
    cases turbofish <;> simp [Args.tokens, Args.mentions, GenericArg.self_mem_words_flagged args]
  | .paren inputs _ output =>
    simp [Args.tokens, Args.mentions, Ty.self_mem_words_list inputs,
      Ty.self_mem_words_output output]

theorem GenericArg.self_mem_words (a : GenericArg) :
    "Self" ∈ Tokens.words a.tokens ↔ .word "Self" ∈ a.mentions false := by
  match a with
  | .lifetime name => simp [GenericArg.tokens, GenericArg.mentions]
  | .type ty => simp [GenericArg.tokens, GenericArg.mentions, Ty.self_mem_words ty]
  | .const value => simp [GenericArg.tokens, GenericArg.mentions, Code.self_mem_words value]
  | .assocType name args ty =>
    simp [GenericArg.tokens, GenericArg.mentions, Args.self_mem_words args, Ty.self_mem_words ty]
  | .assocConst name args value =>
    simp [GenericArg.tokens, GenericArg.mentions, Args.self_mem_words args,
      Code.self_mem_words value]
  | .constraint name args bounds _ =>
    simp [GenericArg.tokens, GenericArg.mentions, Args.self_mem_words args,
      Bound.self_mem_words_list bounds]

theorem GenericArg.self_mem_words_flagged (l : List GenericArg) :
    (∃ item ∈ GenericArg.flaggedTokens l, "Self" ∈ Tokens.words item.2) ↔
      .word "Self" ∈ GenericArg.mentionsList false l := by
  match l with
  | [] => simp [GenericArg.flaggedTokens, GenericArg.mentionsList]
  | a :: rest =>
    simp [GenericArg.flaggedTokens, GenericArg.mentionsList, GenericArg.self_mem_words a,
      GenericArg.self_mem_words_flagged rest]

theorem Bound.self_mem_words (b : Bound) :
    "Self" ∈ Tokens.words b.tokens ↔ .word "Self" ∈ b.mentions false := by
  match b with
  | .trait parens isMaybe binder path =>
    cases parens <;> cases isMaybe <;>
      simp [Bound.tokens, Bound.mentions, Binder.self_mem_words_option binder,
        Path.self_mem_words path]
  | .lifetime name => simp [Bound.tokens, Bound.mentions]
  | .captures params _ => simp [Bound.tokens, Bound.mentions]
  | .verbatim ts => simp [Bound.tokens, Bound.mentions]

theorem Bound.self_mem_words_list (l : List Bound) :
    (∃ ts ∈ Bound.listTokens l, "Self" ∈ Tokens.words ts) ↔
      .word "Self" ∈ Bound.mentionsList false l := by
  match l with
  | [] => simp [Bound.listTokens, Bound.mentionsList]
  | b :: rest =>
    simp [Bound.listTokens, Bound.mentionsList, Bound.self_mem_words b,
      Bound.self_mem_words_list rest]

theorem Binder.self_mem_words (b : Binder) :
    "Self" ∈ Tokens.words b.tokens ↔ .word "Self" ∈ b.mentions false := by
  match b with
  | .mk params _ => simp [Binder.tokens, Binder.mentions, GenericParam.self_mem_words_list params]

theorem Binder.self_mem_words_option (b : Option Binder) :
    "Self" ∈ Tokens.words (Binder.optionTokens b) ↔
      .word "Self" ∈ Binder.mentionsOption false b := by
  match b with
  | some b => simp [Binder.optionTokens, Binder.mentionsOption, Binder.self_mem_words b]
  | none => simp [Binder.optionTokens, Binder.mentionsOption]

theorem GenericParam.self_mem_words (p : GenericParam) :
    "Self" ∈ Tokens.words p.tokens ↔ .word "Self" ∈ p.mentions false := by
  match p with
  | .lifetime ⟨attrs, name, bounds, _⟩ =>
    cases bounds <;>
      simp [GenericParam.tokens, GenericParam.mentions, Attr.self_mem_words_list attrs]
  | .type attrs name bounds _ default =>
    simp only [GenericParam.tokens, Tokens.words_append, Tokens.words_cons, List.mem_append,
      mem_words_bounds, Bound.self_mem_words_list bounds]
    simp [GenericParam.mentions, Attr.self_mem_words_list attrs,
      Ty.self_mem_words_default default, or_assoc]
  | .const attrs name ty default =>
    simp [GenericParam.tokens, GenericParam.mentions, Attr.self_mem_words_list attrs,
      Ty.self_mem_words ty, Code.self_mem_words_default default]

theorem GenericParam.self_mem_words_list (l : List GenericParam) :
    (∃ ts ∈ GenericParam.listTokens l, "Self" ∈ Tokens.words ts) ↔
      .word "Self" ∈ GenericParam.mentionsList false l := by
  match l with
  | [] => simp [GenericParam.listTokens, GenericParam.mentionsList]
  | p :: rest =>
    simp [GenericParam.listTokens, GenericParam.mentionsList, GenericParam.self_mem_words p,
      GenericParam.self_mem_words_list rest]

theorem GenericParam.self_mem_words_flagged (l : List GenericParam) :
    (∃ item ∈ GenericParam.flaggedTokens l, "Self" ∈ Tokens.words item.2) ↔
      .word "Self" ∈ GenericParam.mentionsList false l := by
  match l with
  | [] => simp [GenericParam.flaggedTokens, GenericParam.mentionsList]
  | p :: rest =>
    simp [GenericParam.flaggedTokens, GenericParam.mentionsList, GenericParam.self_mem_words p,
      GenericParam.self_mem_words_flagged rest]

theorem WherePredicate.self_mem_words (p : WherePredicate) :
    "Self" ∈ Tokens.words p.tokens ↔ .word "Self" ∈ p.mentions false := by
  match p with
  | .lifetime name bounds _ => simp [WherePredicate.tokens, WherePredicate.mentions]
  | .type binder ty bounds _ =>
    simp [WherePredicate.tokens, WherePredicate.mentions, Binder.self_mem_words_option binder,
      Ty.self_mem_words ty, Bound.self_mem_words_list bounds]

theorem WherePredicate.self_mem_words_list (l : List WherePredicate) :
    (∃ ts ∈ WherePredicate.listTokens l, "Self" ∈ Tokens.words ts) ↔
      .word "Self" ∈ WherePredicate.mentionsList false l := by
  match l with
  | [] => simp [WherePredicate.listTokens, WherePredicate.mentionsList]
  | p :: rest =>
    simp [WherePredicate.listTokens, WherePredicate.mentionsList, WherePredicate.self_mem_words p,
      WherePredicate.self_mem_words_list rest]

theorem BareVariadic.self_mem_words (v : BareVariadic) :
    "Self" ∈ Tokens.words (BareVariadic.tokens v) ↔
      .word "Self" ∈ BareVariadic.mentionsOption false (some v) := by
  match v with
  | ⟨attrs, name, comma⟩ =>
    cases comma <;>
      simp [BareVariadic.tokens, BareVariadic.mentionsOption, Attr.self_mem_words_list attrs]

theorem Meta.self_mem_words (m : Meta) :
    "Self" ∈ Tokens.words m.tokens ↔ .word "Self" ∈ m.mentions false := by
  match m with
  | .path path => simp [Meta.tokens, Meta.mentions]
  | .list path _ _ body => simp [Meta.tokens, Meta.mentions]
  | .nameValue path value => simp [Meta.tokens, Meta.mentions, Code.self_mem_words value]

theorem Attr.self_mem_words (a : Attr) :
    "Self" ∈ Tokens.words a.tokens ↔ .word "Self" ∈ a.mentions false := by
  match a with
  | ⟨inner, content, _⟩ =>
    cases inner <;> simp [Attr.tokens, Attr.mentions, Meta.self_mem_words content]

theorem Attr.self_mem_words_list (l : List Attr) :
    "Self" ∈ Tokens.words (Attr.listTokens l) ↔ .word "Self" ∈ Attr.mentionsList false l := by
  match l with
  | [] => simp [Attr.listTokens, Attr.mentionsList]
  | a :: rest =>
    simp [Attr.listTokens, Attr.mentionsList, Attr.self_mem_words a, Attr.self_mem_words_list rest]

theorem Code.self_mem_words (c : Code) :
    "Self" ∈ Tokens.words c.tokens ↔ .word "Self" ∈ c.mentions false := by
  match c with
  | .tree _ parts => simp [Code.tokens, Code.mentions, Part.self_mem_words_list parts]

theorem Code.self_mem_words_default (c : Option Code) :
    "Self" ∈ Tokens.words (Code.defaultTokens c) ↔ .word "Self" ∈ Code.mentionsOption false c := by
  match c with
  | some c => simp [Code.defaultTokens, Code.mentionsOption, Code.self_mem_words c]
  | none => simp [Code.defaultTokens, Code.mentionsOption]

theorem Part.self_mem_words (p : Part) :
    "Self" ∈ Tokens.words p.tokens ↔ .word "Self" ∈ p.mentions false := by
  match p with
  | .mark _ => simp [Part.tokens, Part.mentions]
  | .word _ => simp [Part.tokens, Part.mentions]
  | .lifetime _ => simp [Part.tokens, Part.mentions]
  | .literal _ => simp [Part.tokens, Part.mentions]
  | .group _ parts => simp [Part.tokens, Part.mentions, Part.self_mem_words_list parts]
  | .code c => simp [Part.tokens, Part.mentions, Code.self_mem_words c]
  | .ty t => simp [Part.tokens, Part.mentions, Ty.self_mem_words t]
  | .path p => simp [Part.tokens, Part.mentions, Path.self_mem_words p]
  | .args a => simp [Part.tokens, Part.mentions, Args.self_mem_words a]
  | .attr a => simp [Part.tokens, Part.mentions, Attr.self_mem_words a]
  | .binder b => simp [Part.tokens, Part.mentions, Binder.self_mem_words b]
  | .simple _ => simp [Part.tokens, Part.mentions]
  | .raw _ => simp [Part.tokens, Part.mentions]
  | .vis _ => simp [Part.tokens, Part.mentions]
  | .abi _ => simp [Part.tokens, Part.mentions]
  | .generics params _ =>
    simp [Part.tokens, Part.mentions, GenericParam.self_mem_words_flagged params]
  | .bounds bounds _ => simp [Part.tokens, Part.mentions, Bound.self_mem_words_list bounds]
  | .conditions predicates _ =>
    simp [Part.tokens, Part.mentions, WherePredicate.self_mem_words_list predicates]

theorem Part.self_mem_words_list (l : List Part) :
    "Self" ∈ Tokens.words (Part.listTokens l) ↔ .word "Self" ∈ Part.mentionsList false l := by
  match l with
  | [] => simp [Part.listTokens, Part.mentionsList]
  | p :: rest =>
    simp [Part.listTokens, Part.mentionsList, Part.self_mem_words p, Part.self_mem_words_list rest]

end

/-! ### Replacing `Self` -/

namespace Mention

/-- The mention is in the list, or it is in the type of the block and the list has `Self`. -/
def Arises (m : Mention) (self : Ty) (l : List Mention) : Prop :=
  m ∈ l ∨ .self ∈ l ∧ m ∈ self.mentions false

instance (m : Mention) (self : Ty) (l : List Mention) : Decidable (m.Arises self l) :=
  inferInstanceAs (Decidable (_ ∨ _))

section

variable {m : Mention} {self : Ty}

@[simp] theorem arises_nil : ¬ m.Arises self [] := by
  simp [Arises]

@[simp] theorem arises_append {l l' : List Mention} :
    m.Arises self (l ++ l') ↔ m.Arises self l ∨ m.Arises self l' := by
  simp only [Arises, List.mem_append]
  tauto

/-- A list without `Self` has only its own mentions. -/
theorem arises_iff_mem {l : List Mention} (h : .self ∉ l) : m.Arises self l ↔ m ∈ l := by
  simp [Arises, h]

@[simp] theorem arises_word_cons {w : String} {l : List Mention} :
    m.Arises self (.word w :: l) ↔ m = .word w ∨ m.Arises self l := by
  simp only [Arises, List.mem_cons, reduceCtorEq, false_or, or_assoc]

@[simp] theorem arises_map_word {ws : List String} :
    m.Arises self (ws.map word) ↔ m ∈ ws.map word :=
  arises_iff_mem (by simp)

@[simp] theorem arises_ofTokens {ts : List Token} :
    m.Arises self (ofTokens ts) ↔ m ∈ ofTokens ts :=
  arises_map_word

@[simp] theorem arises_flatMap_ofTokens {l : List String} {f : String → List Token} :
    m.Arises self (l.flatMap fun a => ofTokens (f a)) ↔ m ∈ l.flatMap fun a => ofTokens (f a) :=
  arises_iff_mem (by simp [ofTokens])

@[simp] theorem arises_ofPath {leading : Bool} {name : String} {rest : List Segment} :
    m.Arises self (ofPath leading name rest) ↔ m ∈ ofPath leading name rest := by
  refine arises_iff_mem ?_
  unfold ofPath
  split <;> simp

end

end Mention

theorem Segment.isEmpty_replaceList (onSelf : List Segment → Ty) (segments : List Segment) :
    (Segment.replaceList onSelf segments).isEmpty = segments.isEmpty := by
  cases segments <;> rfl

section

variable {m : Mention} {self : Ty}

/-- What stands in the place of a path that begins with `Self`. -/
theorem mem_mentions_selfPath (hm : m ≠ .self) (rest : List Segment) :
    m ∈ (selfPath self rest).mentions false ↔
      m.Arises self (.self :: Segment.mentionsList false rest) := by
  have hrest : m.Arises self (.self :: Segment.mentionsList false rest) ↔
      m ∈ Segment.mentionsList false rest ∨ m ∈ self.mentions false := by
    simp [Mention.Arises, hm]
  rw [hrest]
  cases rest with
  | nil => simp [selfPath, Segment.mentionsList]
  | cons s rest => simp [selfPath, Ty.mentions, Path.mentionsOption, or_comm]

theorem Part.mentionsList_append (searched : Bool) (parts parts' : List Part) :
    Part.mentionsList searched (parts ++ parts') =
      Part.mentionsList searched parts ++ Part.mentionsList searched parts' := by
  induction parts with
  | nil => rfl
  | cons p parts ih =>
    rw [List.cons_append, Part.mentionsList, Part.mentionsList, ih, List.append_assoc]

theorem Part.word_mem_mentionsList {searched : Bool} {parts : List Part} {name : String}
    (h : .lifetime name ∈ parts) : .word name ∈ Part.mentionsList searched parts := by
  induction parts with
  | nil => cases h
  | cons p parts ih =>
    rw [Part.mentionsList, List.mem_append]
    obtain rfl | h := List.mem_cons.1 h
    · exact .inl (by simp [Part.mentions])
    · exact .inr (ih h)

/-- A receiver without a type mentions the type of the block when that is written behind it. -/
theorem arises_receiver (hm : m ≠ .self)
    (hself : self.isSelf = false ∨ m ∉ self.mentions false) (parts : List Part) :
    m.Arises self (Part.mentionsList true parts) ∨
        m ∈ Part.mentionsList false (impliedType self parts) ↔
      m.Arises self (Part.mentionsList true parts) ∨
        m.Arises self (if !parts.any (· matches .mark ":") then [.self] else []) := by
  have hmark : Mention.ofTokens (markTokens ":") = [] := by decide
  have harises : m.Arises self [.self] ↔ m ∈ self.mentions false := by
    simp [Mention.Arises, hm]
  unfold impliedType
  cases hany : parts.any (· matches .mark ":") with
  | true =>
    rw [if_pos (by rw [Bool.or_true]), Part.mentionsList, Bool.not_true,
      if_neg Bool.false_ne_true]
    simp
  | false =>
    rw [Bool.or_false, Bool.not_false, if_pos rfl, harises]
    cases hs : self.isSelf with
    | true =>
      have hnot : m ∉ self.mentions false := hself.resolve_left (by simp [hs])
      simp [hnot, Part.mentionsList]
    | false =>
      rw [if_neg Bool.false_ne_true]
      simp only [Part.mentionsList, Part.mentions, hmark, List.nil_append, List.append_nil]
      split
      · -- The lifetime of the reference is one that stands in the receiver.
        generalize hlifetime : parts.findSome? _ = lifetime
        have hmem (h : m ∈ lifetime.toList.map .word) :
            m.Arises self (Part.mentionsList true parts) := by
          obtain ⟨name, hname, rfl⟩ := List.mem_map.1 h
          obtain rfl := Option.mem_toList.1 hname
          obtain ⟨p, hp, hpname⟩ := List.exists_of_findSome?_eq_some hlifetime
          cases p <;> cases hpname
          exact .inl (Part.word_mem_mentionsList hp)
        rw [Ty.mentions, List.mem_append]
        tauto
      · rfl

variable (hm : m ≠ .self) (hself : self.isSelf = false ∨ m ∉ self.mentions false)

include hm hself

-- The lemmas rest on one another, so each needs what the one on code uses.
set_option linter.unusedSectionVars false

mutual

/-- After `Self` is replaced, a type mentions what it did, and what the type of the block mentions
if it mentioned `Self`. -/
theorem Ty.mem_mentions_replaceSelf (t : Ty) :
    m ∈ (t.replaceSelf (selfPath self)).mentions false ↔
      m.Arises self (t.mentions true) := by
  match t with
  | .array elem len =>
    simp [Ty.replaceSelf, Ty.mentions, Ty.mem_mentions_replaceSelf elem,
      Code.mem_mentions_replaceSelf len]
  | .bareFn binder _ _ inputs _ variadic output =>
    simp [Ty.replaceSelf, Ty.mentions, Binder.mem_mentions_replaceOption binder,
      BareArg.mem_mentions_replaceList inputs, BareVariadic.mem_mentions_replaceOption variadic,
      Ty.mem_mentions_replaceOption output]
  | .implTrait bounds _ => simp [Ty.replaceSelf, Ty.mentions, Bound.mem_mentions_replaceList bounds]
  | .infer => simp [Ty.replaceSelf, Ty.mentions]
  | .macroCall _ _ _ => simp [Ty.replaceSelf, Ty.mentions]
  | .never => simp [Ty.replaceSelf, Ty.mentions]
  | .paren elem => simp [Ty.replaceSelf, Ty.mentions, Ty.mem_mentions_replaceSelf elem]
  | .path (.mk _ []) => simp [Ty.replaceSelf, Ty.mentions]
  | .path (.mk leading (.mk name args :: rest)) =>
    by_cases hname : name = "Self"
    · simpa [Ty.replaceSelf, Ty.mentions, hname] using mem_mentions_selfPath hm rest
    · have hpath : Mention.ofPath leading name (Segment.replaceList (selfPath self) rest) =
          Mention.ofPath leading name rest := by
        simp only [Mention.ofPath, Segment.isEmpty_replaceList]
      simp [Ty.replaceSelf, Ty.mentions, hname, hpath, Args.mem_mentions_replaceSelf args,
        Segment.mem_mentions_replaceList rest]
  | .qualified inner asTrait rest =>
    simp [Ty.replaceSelf, Ty.mentions, Ty.mem_mentions_replaceSelf inner,
      Path.mem_mentions_replaceOption asTrait, Segment.mem_mentions_replaceList rest]
  | .ptr _ elem => simp [Ty.replaceSelf, Ty.mentions, Ty.mem_mentions_replaceSelf elem]
  | .reference _ _ elem => simp [Ty.replaceSelf, Ty.mentions, Ty.mem_mentions_replaceSelf elem]
  | .slice elem => simp [Ty.replaceSelf, Ty.mentions, Ty.mem_mentions_replaceSelf elem]
  | .traitObject _ bounds _ =>
    simp [Ty.replaceSelf, Ty.mentions, Bound.mem_mentions_replaceList bounds]
  | .tuple elems _ => simp [Ty.replaceSelf, Ty.mentions, Ty.mem_mentions_replaceList elems]
  | .verbatim _ => simp [Ty.replaceSelf, Ty.mentions]

theorem Ty.mem_mentions_replaceList (l : List Ty) :
    m ∈ Ty.mentionsList false (Ty.replaceList (selfPath self) l) ↔
      m.Arises self (Ty.mentionsList true l) := by
  match l with
  | [] => simp [Ty.replaceList, Ty.mentionsList]
  | t :: rest =>
    simp [Ty.replaceList, Ty.mentionsList, Ty.mem_mentions_replaceSelf t,
      Ty.mem_mentions_replaceList rest]

theorem Ty.mem_mentions_replaceOption (t : Option Ty) :
    m ∈ Ty.mentionsOption false (Ty.replaceOption (selfPath self) t) ↔
      m.Arises self (Ty.mentionsOption true t) := by
  match t with
  | some t => simp [Ty.replaceOption, Ty.mentionsOption, Ty.mem_mentions_replaceSelf t]
  | none => simp [Ty.replaceOption, Ty.mentionsOption]

theorem BareArg.mem_mentions_replaceSelf (a : BareArg) :
    m ∈ (a.replaceSelf (selfPath self)).mentions false ↔
      m.Arises self (a.mentions true) := by
  match a with
  | .mk attrs _ ty =>
    simp [BareArg.replaceSelf, BareArg.mentions, Attr.mem_mentions_replaceList attrs,
      Ty.mem_mentions_replaceSelf ty]

theorem BareArg.mem_mentions_replaceList (l : List BareArg) :
    m ∈ BareArg.mentionsList false (BareArg.replaceList (selfPath self) l) ↔
      m.Arises self (BareArg.mentionsList true l) := by
  match l with
  | [] => simp [BareArg.replaceList, BareArg.mentionsList]
  | a :: rest =>
    simp [BareArg.replaceList, BareArg.mentionsList, BareArg.mem_mentions_replaceSelf a,
      BareArg.mem_mentions_replaceList rest]

theorem Path.mem_mentions_replaceSelf (p : Path) :
    m ∈ (p.replaceSelf (selfPath self)).mentions false ↔
      m.Arises self (p.mentions true) := by
  match p with
  | .mk _ segments =>
    simp [Path.replaceSelf, Path.mentions, Segment.mem_mentions_replaceList segments]

theorem Path.mem_mentions_replaceOption (p : Option Path) :
    m ∈ Path.mentionsOption false (Path.replaceOption (selfPath self) p) ↔
      m.Arises self (Path.mentionsOption true p) := by
  match p with
  | some p => simp [Path.replaceOption, Path.mentionsOption, Path.mem_mentions_replaceSelf p]
  | none => simp [Path.replaceOption, Path.mentionsOption]

theorem Segment.mem_mentions_replaceSelf (s : Segment) :
    m ∈ (s.replaceSelf (selfPath self)).mentions false ↔
      m.Arises self (s.mentions true) := by
  match s with
  | .mk _ args => simp [Segment.replaceSelf, Segment.mentions, Args.mem_mentions_replaceSelf args]

theorem Segment.mem_mentions_replaceList (l : List Segment) :
    m ∈ Segment.mentionsList false (Segment.replaceList (selfPath self) l) ↔
      m.Arises self (Segment.mentionsList true l) := by
  match l with
  | [] => simp [Segment.replaceList, Segment.mentionsList]
  | s :: rest =>
    simp [Segment.replaceList, Segment.mentionsList, Segment.mem_mentions_replaceSelf s,
      Segment.mem_mentions_replaceList rest]

theorem Args.mem_mentions_replaceSelf (a : Args) :
    m ∈ (a.replaceSelf (selfPath self)).mentions false ↔
      m.Arises self (a.mentions true) := by
  match a with
  | .none => simp [Args.replaceSelf, Args.mentions]
  | .angle _ args _ =>
    simp [Args.replaceSelf, Args.mentions, GenericArg.mem_mentions_replaceList args]
  | .paren inputs _ output =>
    simp [Args.replaceSelf, Args.mentions, Ty.mem_mentions_replaceList inputs,
      Ty.mem_mentions_replaceOption output]

theorem GenericArg.mem_mentions_replaceSelf (a : GenericArg) :
    m ∈ (a.replaceSelf (selfPath self)).mentions false ↔
      m.Arises self (a.mentions true) := by
  match a with
  | .lifetime _ => simp [GenericArg.replaceSelf, GenericArg.mentions]
  | .type ty => simp [GenericArg.replaceSelf, GenericArg.mentions, Ty.mem_mentions_replaceSelf ty]
  | .const value =>
    simp [GenericArg.replaceSelf, GenericArg.mentions, Code.mem_mentions_replaceSelf value]
  | .assocType _ args ty =>
    simp [GenericArg.replaceSelf, GenericArg.mentions, Args.mem_mentions_replaceSelf args,
      Ty.mem_mentions_replaceSelf ty]
  | .assocConst _ args value =>
    simp [GenericArg.replaceSelf, GenericArg.mentions, Args.mem_mentions_replaceSelf args,
      Code.mem_mentions_replaceSelf value]
  | .constraint _ args bounds _ =>
    simp [GenericArg.replaceSelf, GenericArg.mentions, Args.mem_mentions_replaceSelf args,
      Bound.mem_mentions_replaceList bounds]

theorem GenericArg.mem_mentions_replaceList (l : List GenericArg) :
    m ∈ GenericArg.mentionsList false (GenericArg.replaceList (selfPath self) l) ↔
      m.Arises self (GenericArg.mentionsList true l) := by
  match l with
  | [] => simp [GenericArg.replaceList, GenericArg.mentionsList]
  | a :: rest =>
    simp [GenericArg.replaceList, GenericArg.mentionsList, GenericArg.mem_mentions_replaceSelf a,
      GenericArg.mem_mentions_replaceList rest]

theorem Bound.mem_mentions_replaceSelf (b : Bound) :
    m ∈ (b.replaceSelf (selfPath self)).mentions false ↔
      m.Arises self (b.mentions true) := by
  match b with
  | .trait _ _ binder path =>
    simp [Bound.replaceSelf, Bound.mentions, Binder.mem_mentions_replaceOption binder,
      Path.mem_mentions_replaceSelf path]
  | .lifetime _ => simp [Bound.replaceSelf, Bound.mentions]
  | .captures _ _ => simp [Bound.replaceSelf, Bound.mentions]
  | .verbatim _ => simp [Bound.replaceSelf, Bound.mentions]

theorem Bound.mem_mentions_replaceList (l : List Bound) :
    m ∈ Bound.mentionsList false (Bound.replaceList (selfPath self) l) ↔
      m.Arises self (Bound.mentionsList true l) := by
  match l with
  | [] => simp [Bound.replaceList, Bound.mentionsList]
  | b :: rest =>
    simp [Bound.replaceList, Bound.mentionsList, Bound.mem_mentions_replaceSelf b,
      Bound.mem_mentions_replaceList rest]

theorem Binder.mem_mentions_replaceSelf (b : Binder) :
    m ∈ (b.replaceSelf (selfPath self)).mentions false ↔
      m.Arises self (b.mentions true) := by
  match b with
  | .mk params _ =>
    simp [Binder.replaceSelf, Binder.mentions, GenericParam.mem_mentions_replaceList params]

theorem Binder.mem_mentions_replaceOption (b : Option Binder) :
    m ∈ Binder.mentionsOption false (Binder.replaceOption (selfPath self) b) ↔
      m.Arises self (Binder.mentionsOption true b) := by
  match b with
  | some b => simp [Binder.replaceOption, Binder.mentionsOption, Binder.mem_mentions_replaceSelf b]
  | none => simp [Binder.replaceOption, Binder.mentionsOption]

theorem GenericParam.mem_mentions_replaceSelf (p : GenericParam) :
    m ∈ (p.replaceSelf (selfPath self)).mentions false ↔
      m.Arises self (p.mentions true) := by
  match p with
  | .lifetime ⟨attrs, _, _, _⟩ =>
    simp [GenericParam.replaceSelf, GenericParam.mentions, Attr.mem_mentions_replaceList attrs]
  | .type attrs _ bounds _ default =>
    simp [GenericParam.replaceSelf, GenericParam.mentions, Attr.mem_mentions_replaceList attrs,
      Bound.mem_mentions_replaceList bounds, Ty.mem_mentions_replaceOption default]
  | .const attrs _ ty default =>
    simp [GenericParam.replaceSelf, GenericParam.mentions, Attr.mem_mentions_replaceList attrs,
      Ty.mem_mentions_replaceSelf ty, Code.mem_mentions_replaceOption default]

theorem GenericParam.mem_mentions_replaceList (l : List GenericParam) :
    m ∈ GenericParam.mentionsList false (GenericParam.replaceList (selfPath self) l) ↔
      m.Arises self (GenericParam.mentionsList true l) := by
  match l with
  | [] => simp [GenericParam.replaceList, GenericParam.mentionsList]
  | p :: rest =>
    simp [GenericParam.replaceList, GenericParam.mentionsList,
      GenericParam.mem_mentions_replaceSelf p, GenericParam.mem_mentions_replaceList rest]

theorem WherePredicate.mem_mentions_replaceSelf (p : WherePredicate) :
    m ∈ (p.replaceSelf (selfPath self)).mentions false ↔
      m.Arises self (p.mentions true) := by
  match p with
  | .lifetime _ _ _ => simp [WherePredicate.replaceSelf, WherePredicate.mentions]
  | .type binder ty bounds _ =>
    simp [WherePredicate.replaceSelf, WherePredicate.mentions, Binder.mem_mentions_replaceOption
      binder, Ty.mem_mentions_replaceSelf ty, Bound.mem_mentions_replaceList bounds]

theorem WherePredicate.mem_mentions_replaceList (l : List WherePredicate) :
    m ∈ WherePredicate.mentionsList false (WherePredicate.replaceList (selfPath self) l) ↔
      m.Arises self (WherePredicate.mentionsList true l) := by
  match l with
  | [] => simp [WherePredicate.replaceList, WherePredicate.mentionsList]
  | p :: rest =>
    simp [WherePredicate.replaceList, WherePredicate.mentionsList,
      WherePredicate.mem_mentions_replaceSelf p, WherePredicate.mem_mentions_replaceList rest]

theorem BareVariadic.mem_mentions_replaceOption (v : Option BareVariadic) :
    m ∈ BareVariadic.mentionsOption false (BareVariadic.replaceOption (selfPath self) v) ↔
      m.Arises self (BareVariadic.mentionsOption true v) := by
  match v with
  | some ⟨attrs, _, _⟩ =>
    simp [BareVariadic.replaceOption, BareVariadic.mentionsOption,
      Attr.mem_mentions_replaceList attrs]
  | none => simp [BareVariadic.replaceOption, BareVariadic.mentionsOption]

theorem Meta.mem_mentions_replaceSelf (c : Meta) :
    m ∈ (c.replaceSelf (selfPath self)).mentions false ↔
      m.Arises self (c.mentions true) := by
  match c with
  | .path _ => simp [Meta.replaceSelf, Meta.mentions]
  | .list _ _ _ _ => simp [Meta.replaceSelf, Meta.mentions]
  | .nameValue _ value =>
    simp [Meta.replaceSelf, Meta.mentions, Code.mem_mentions_replaceSelf value]

theorem Attr.mem_mentions_replaceSelf (a : Attr) :
    m ∈ (a.replaceSelf (selfPath self)).mentions false ↔
      m.Arises self (a.mentions true) := by
  match a with
  | ⟨_, content, _⟩ => simp [Attr.replaceSelf, Attr.mentions, Meta.mem_mentions_replaceSelf content]

theorem Attr.mem_mentions_replaceList (l : List Attr) :
    m ∈ Attr.mentionsList false (Attr.replaceList (selfPath self) l) ↔
      m.Arises self (Attr.mentionsList true l) := by
  match l with
  | [] => simp [Attr.replaceList, Attr.mentionsList]
  | a :: rest =>
    simp [Attr.replaceList, Attr.mentionsList, Attr.mem_mentions_replaceSelf a,
      Attr.mem_mentions_replaceList rest]

theorem Code.mem_mentions_replaceSelf (c : Code) :
    m ∈ (c.replaceSelf (selfPath self)).mentions false ↔ m.Arises self (c.mentions true) := by
  match c with
  | .tree kind parts =>
    have hparts := Part.mem_mentions_replaceList parts
    by_cases hkind : kind = .receiver
    · simpa [Code.replaceSelf, Code.mentions, Part.mentionsList_append, hkind, hparts, selfPath]
        using arises_receiver hm hself parts
    · simp [Code.replaceSelf, Code.mentions, hkind, hparts]

theorem Code.mem_mentions_replaceOption (c : Option Code) :
    m ∈ Code.mentionsOption false (Code.replaceOption (selfPath self) c) ↔
      m.Arises self (Code.mentionsOption true c) := by
  match c with
  | some c => simp [Code.replaceOption, Code.mentionsOption, Code.mem_mentions_replaceSelf c]
  | none => simp [Code.replaceOption, Code.mentionsOption]

theorem Part.mem_mentions_replaceSelf (p : Part) :
    m ∈ (p.replaceSelf (selfPath self)).mentions false ↔
      m.Arises self (p.mentions true) := by
  match p with
  | .mark _ => simp [Part.replaceSelf, Part.mentions]
  | .word _ => simp [Part.replaceSelf, Part.mentions]
  | .lifetime _ => simp [Part.replaceSelf, Part.mentions]
  | .literal _ => simp [Part.replaceSelf, Part.mentions]
  | .group _ parts => simp [Part.replaceSelf, Part.mentions, Part.mem_mentions_replaceList parts]
  | .code c => simp [Part.replaceSelf, Part.mentions, Code.mem_mentions_replaceSelf c]
  | .ty t =>
    rw [Part.replaceSelf_ty]
    simp [Part.mentions, Ty.mem_mentions_replaceSelf t]
  | .path p => simp [Part.replaceSelf, Part.mentions, Path.mem_mentions_replaceSelf p]
  | .args a => simp [Part.replaceSelf, Part.mentions, Args.mem_mentions_replaceSelf a]
  | .attr a => simp [Part.replaceSelf, Part.mentions, Attr.mem_mentions_replaceSelf a]
  | .binder b => simp [Part.replaceSelf, Part.mentions, Binder.mem_mentions_replaceSelf b]
  | .simple _ => simp [Part.replaceSelf, Part.mentions]
  | .raw _ => simp [Part.replaceSelf, Part.mentions]
  | .vis _ => simp [Part.replaceSelf, Part.mentions]
  | .abi _ => simp [Part.replaceSelf, Part.mentions]
  | .generics params _ =>
    simp [Part.replaceSelf, Part.mentions, GenericParam.mem_mentions_replaceList params]
  | .bounds bounds _ =>
    simp [Part.replaceSelf, Part.mentions, Bound.mem_mentions_replaceList bounds]
  | .conditions predicates _ =>
    simp [Part.replaceSelf, Part.mentions, WherePredicate.mem_mentions_replaceList predicates]

theorem Part.mem_mentions_replaceList (l : List Part) :
    m ∈ Part.mentionsList false (Part.replaceList (selfPath self) l) ↔
      m.Arises self (Part.mentionsList true l) := by
  match l with
  | [] => simp [Part.replaceList, Part.mentionsList]
  | p :: rest =>
    simp [Part.replaceList, Part.mentionsList, Part.mem_mentions_replaceSelf p,
      Part.mem_mentions_replaceList rest]

end

end

end PatternFactory
