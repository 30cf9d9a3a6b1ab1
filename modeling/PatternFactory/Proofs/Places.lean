import PatternFactory.Grammar.SelfType
import PatternFactory.Grammar.Spelling

/-!
# Trees without places

A tree keeps the places of its attributes, and of the tokens that are kept as they were read.
`Ty.unplaced` and its companions forget them.  Trees that are equal without their places are spelled
alike (`Ty.tokens_unplaced`), and stay so when `Self` is replaced (`Ty.unplaced_replaceSelf`).
-/

namespace PatternFactory

mutual

theorem Token.unplaced_unplaced (t : Token) : t.unplaced.unplaced = t.unplaced := by
  match t with
  | .word _ _ => rfl
  | .punct _ _ _ => rfl
  | .literal _ _ => rfl
  | .group _ body _ _ =>
    simp only [Token.unplaced, Token.ofGroup, Tokens.unplaced_unplaced body]

theorem Tokens.unplaced_unplaced (ts : List Token) :
    Tokens.unplaced (Tokens.unplaced ts) = Tokens.unplaced ts := by
  match ts with
  | [] => rfl
  | t :: ts =>
    simp only [Tokens.unplaced, Token.unplaced_unplaced t, Tokens.unplaced_unplaced ts]

end

/-! ### Forgetting places -/

mutual

/-- The type without places. -/
def Ty.unplaced : Ty → Ty
  | .array elem len => .array elem.unplaced len.unplaced
  | .bareFn binder isUnsafe abi inputs trailing variadic output =>
    .bareFn (Binder.unplacedOption binder) isUnsafe abi (BareArg.unplacedList inputs) trailing
      (BareVariadic.unplacedOption variadic) (Ty.unplacedOption output)
  | .implTrait bounds trailing => .implTrait (Bound.unplacedList bounds) trailing
  | .infer => .infer
  | .macroCall path delim body => .macroCall path delim (Tokens.unplaced body)
  | .never => .never
  | .paren elem => .paren elem.unplaced
  | .path path => .path path.unplaced
  | .qualified self asTrait rest =>
    .qualified self.unplaced (Path.unplacedOption asTrait) (Segment.unplacedList rest)
  | .ptr isMut elem => .ptr isMut elem.unplaced
  | .reference lifetime isMut elem => .reference lifetime isMut elem.unplaced
  | .slice elem => .slice elem.unplaced
  | .traitObject hasDyn bounds trailing =>
    .traitObject hasDyn (Bound.unplacedList bounds) trailing
  | .tuple elems trailing => .tuple (Ty.unplacedList elems) trailing
  | .verbatim ts => .verbatim (Tokens.unplaced ts)

/-- Each of some types without places. -/
def Ty.unplacedList : List Ty → List Ty
  | [] => []
  | t :: ts => t.unplaced :: Ty.unplacedList ts

/-- An optional type without places. -/
def Ty.unplacedOption : Option Ty → Option Ty
  | some t => some t.unplaced
  | none => none

/-- The parameter of a function type without places. -/
def BareArg.unplaced : BareArg → BareArg
  | .mk attrs name ty => .mk (Attr.unplacedList attrs) name ty.unplaced

/-- Each of some parameters of a function type without places. -/
def BareArg.unplacedList : List BareArg → List BareArg
  | [] => []
  | a :: rest => a.unplaced :: BareArg.unplacedList rest

/-- The path without places. -/
def Path.unplaced : Path → Path
  | .mk leading segments => .mk leading (Segment.unplacedList segments)

/-- An optional path without places. -/
def Path.unplacedOption : Option Path → Option Path
  | some p => some p.unplaced
  | none => none

/-- The segment without places. -/
def Segment.unplaced : Segment → Segment
  | .mk name args => .mk name args.unplaced

/-- Each of some segments without places. -/
def Segment.unplacedList : List Segment → List Segment
  | [] => []
  | s :: rest => s.unplaced :: Segment.unplacedList rest

/-- The generic arguments without places. -/
def Args.unplaced : Args → Args
  | .none => .none
  | .angle turbofish args trailing => .angle turbofish (GenericArg.unplacedList args) trailing
  | .paren inputs trailing output =>
    .paren (Ty.unplacedList inputs) trailing (Ty.unplacedOption output)

/-- The generic argument without places. -/
def GenericArg.unplaced : GenericArg → GenericArg
  | .lifetime name => .lifetime name
  | .type ty => .type ty.unplaced
  | .const value => .const value.unplaced
  | .assocType name args ty => .assocType name args.unplaced ty.unplaced
  | .assocConst name args value => .assocConst name args.unplaced value.unplaced
  | .constraint name args bounds trailing =>
    .constraint name args.unplaced (Bound.unplacedList bounds) trailing

/-- Each of some generic arguments without places. -/
def GenericArg.unplacedList : List GenericArg → List GenericArg
  | [] => []
  | a :: rest => a.unplaced :: GenericArg.unplacedList rest

/-- The bound without places. -/
def Bound.unplaced : Bound → Bound
  | .trait parens isMaybe binder path =>
    .trait parens isMaybe (Binder.unplacedOption binder) path.unplaced
  | .lifetime name => .lifetime name
  | .captures params trailing => .captures params trailing
  | .verbatim ts => .verbatim (Tokens.unplaced ts)

/-- Each of some bounds without places. -/
def Bound.unplacedList : List Bound → List Bound
  | [] => []
  | b :: rest => b.unplaced :: Bound.unplacedList rest

/-- The binder without places. -/
def Binder.unplaced : Binder → Binder
  | .mk params trailing => .mk (GenericParam.unplacedList params) trailing

/-- An optional binder without places. -/
def Binder.unplacedOption : Option Binder → Option Binder
  | some b => some b.unplaced
  | none => none

/-- The generic parameter without places. -/
def GenericParam.unplaced : GenericParam → GenericParam
  | .lifetime ⟨attrs, name, bounds, trailing⟩ =>
    .lifetime ⟨Attr.unplacedList attrs, name, bounds, trailing⟩
  | .type attrs name bounds trailing default =>
    .type (Attr.unplacedList attrs) name (Bound.unplacedList bounds) trailing
      (Ty.unplacedOption default)
  | .const attrs name ty default =>
    .const (Attr.unplacedList attrs) name ty.unplaced (Code.unplacedOption default)

/-- Each of some generic parameters without places. -/
def GenericParam.unplacedList : List GenericParam → List GenericParam
  | [] => []
  | p :: rest => p.unplaced :: GenericParam.unplacedList rest

/-- The condition without places. -/
def WherePredicate.unplaced : WherePredicate → WherePredicate
  | .lifetime name bounds trailing => .lifetime name bounds trailing
  | .type binder ty bounds trailing =>
    .type (Binder.unplacedOption binder) ty.unplaced (Bound.unplacedList bounds) trailing

/-- Each of some conditions without places. -/
def WherePredicate.unplacedList : List WherePredicate → List WherePredicate
  | [] => []
  | p :: rest => p.unplaced :: WherePredicate.unplacedList rest

/-- The open end of the parameters of a function type without places. -/
def BareVariadic.unplacedOption : Option BareVariadic → Option BareVariadic
  | some ⟨attrs, name, comma⟩ => some ⟨Attr.unplacedList attrs, name, comma⟩
  | none => none

/-- The content of an attribute without places. -/
def Meta.unplaced : Meta → Meta
  | .path path => .path path
  | .list path delim _ body => .list path delim .start (Tokens.unplaced body)
  | .nameValue path value => .nameValue path value.unplaced

/-- The attribute without places. -/
def Attr.unplaced : Attr → Attr
  | ⟨inner, content, _⟩ => ⟨inner, content.unplaced, .start⟩

/-- Each of some attributes without places. -/
def Attr.unplacedList : List Attr → List Attr
  | [] => []
  | a :: rest => a.unplaced :: Attr.unplacedList rest

/-- The piece of code without places. -/
def Code.unplaced : Code → Code
  | .tree kind parts => .tree kind (Part.unplacedList parts)

/-- An optional piece of code without places. -/
def Code.unplacedOption : Option Code → Option Code
  | some c => some c.unplaced
  | none => none

/-- The part without places. -/
def Part.unplaced : Part → Part
  | .group delim parts => .group delim (Part.unplacedList parts)
  | .code c => .code c.unplaced
  | .ty t => .ty t.unplaced
  | .path p => .path p.unplaced
  | .args a => .args a.unplaced
  | .binder b => .binder b.unplaced
  | .mark text => .mark text
  | .word text => .word text
  | .lifetime name => .lifetime name
  | .literal text => .literal text
  | .attr a => .attr a.unplaced
  | .simple p => .simple p
  | .raw ts => .raw (Tokens.unplaced ts)
  | .vis v => .vis v
  | .abi a => .abi a
  | .generics params trailing => .generics (GenericParam.unplacedList params) trailing
  | .bounds bounds trailing => .bounds (Bound.unplacedList bounds) trailing
  | .conditions predicates trailing =>
    .conditions (WherePredicate.unplacedList predicates) trailing

/-- Each of some parts without places. -/
def Part.unplacedList : List Part → List Part
  | [] => []
  | p :: rest => p.unplaced :: Part.unplacedList rest

end

/-! ### Lists of trees -/

theorem Ty.unplacedList_eq_map (ts : List Ty) : Ty.unplacedList ts = ts.map Ty.unplaced := by
  induction ts with
  | nil => rfl
  | cons t ts ih => rw [Ty.unplacedList, ih, List.map_cons]

theorem Ty.length_unplacedList (ts : List Ty) : (Ty.unplacedList ts).length = ts.length := by
  rw [Ty.unplacedList_eq_map, List.length_map]

theorem Segment.unplacedList_eq_map (segments : List Segment) :
    Segment.unplacedList segments = segments.map Segment.unplaced := by
  induction segments with
  | nil => rfl
  | cons s segments ih => rw [Segment.unplacedList, ih, List.map_cons]

theorem GenericParam.unplacedList_eq_map (params : List GenericParam) :
    GenericParam.unplacedList params = params.map GenericParam.unplaced := by
  induction params with
  | nil => rfl
  | cons p params ih => rw [GenericParam.unplacedList, ih, List.map_cons]

theorem WherePredicate.unplacedList_eq_map (predicates : List WherePredicate) :
    WherePredicate.unplacedList predicates = predicates.map WherePredicate.unplaced := by
  induction predicates with
  | nil => rfl
  | cons p predicates ih => rw [WherePredicate.unplacedList, ih, List.map_cons]

theorem Part.unplacedList_eq_map (parts : List Part) :
    Part.unplacedList parts = parts.map Part.unplaced := by
  induction parts with
  | nil => rfl
  | cons p parts ih => rw [Part.unplacedList, ih, List.map_cons]

/-! ### What is spelled out -/

theorem BareArg.isEmpty_unplacedList (args : List BareArg) :
    (BareArg.unplacedList args).isEmpty = args.isEmpty := by
  cases args <;> rfl

theorem Bound.isEmpty_unplacedList (bounds : List Bound) :
    (Bound.unplacedList bounds).isEmpty = bounds.isEmpty := by
  cases bounds <;> rfl

theorem GenericArg.isLifetime_unplaced (a : GenericArg) : a.unplaced.isLifetime = a.isLifetime := by
  cases a <;> rfl

theorem GenericParam.isLifetime_unplaced (p : GenericParam) :
    p.unplaced.isLifetime = p.isLifetime := by
  cases p with
  | lifetime p => cases p; rfl
  | type => rfl
  | const => rfl

mutual

/-- A type is spelled without places, whatever places are in it. -/
theorem Ty.tokens_unplaced (t : Ty) : t.unplaced.tokens = t.tokens := by
  match t with
  | .array elem len =>
    simp only [Ty.unplaced, Ty.tokens, Ty.tokens_unplaced elem, Code.tokens_unplaced len]
  | .bareFn binder _ _ inputs _ none output =>
    simp only [Ty.unplaced, Ty.tokens, BareVariadic.unplacedOption,
      Binder.optionTokens_unplaced binder, BareArg.listTokens_unplaced inputs,
      Ty.outputTokens_unplaced output]
  | .bareFn binder _ _ inputs _ (some ⟨attrs, _, _⟩) output =>
    simp only [Ty.unplaced, Ty.tokens, BareVariadic.unplacedOption, BareVariadic.tokens,
      Binder.optionTokens_unplaced binder, BareArg.listTokens_unplaced inputs,
      BareArg.isEmpty_unplacedList, Attr.listTokens_unplaced attrs,
      Ty.outputTokens_unplaced output]
  | .implTrait bounds _ => simp only [Ty.unplaced, Ty.tokens, Bound.listTokens_unplaced bounds]
  | .infer => rfl
  | .macroCall _ _ body => simp only [Ty.unplaced, Ty.tokens, Tokens.unplaced_unplaced]
  | .never => rfl
  | .paren elem => simp only [Ty.unplaced, Ty.tokens, Ty.tokens_unplaced elem]
  | .path path => simp only [Ty.unplaced, Ty.tokens, Path.tokens_unplaced path]
  | .qualified self asTrait rest =>
    simp only [Ty.unplaced, Ty.tokens, Ty.tokens_unplaced self, Path.asTokens_unplaced asTrait,
      Segment.listTokens_unplaced rest]
  | .ptr _ elem => simp only [Ty.unplaced, Ty.tokens, Ty.tokens_unplaced elem]
  | .reference _ _ elem => simp only [Ty.unplaced, Ty.tokens, Ty.tokens_unplaced elem]
  | .slice elem => simp only [Ty.unplaced, Ty.tokens, Ty.tokens_unplaced elem]
  | .traitObject _ bounds _ =>
    simp only [Ty.unplaced, Ty.tokens, Bound.listTokens_unplaced bounds]
  | .tuple elems _ =>
    simp only [Ty.unplaced, Ty.tokens, Ty.listTokens_unplaced elems, Ty.length_unplacedList]
  | .verbatim ts => simp only [Ty.unplaced, Ty.tokens, Tokens.unplaced_unplaced]

theorem Ty.listTokens_unplaced (ts : List Ty) :
    Ty.listTokens (Ty.unplacedList ts) = Ty.listTokens ts := by
  match ts with
  | [] => rfl
  | t :: ts =>
    simp only [Ty.unplacedList, Ty.listTokens, Ty.tokens_unplaced t, Ty.listTokens_unplaced ts]

theorem Ty.outputTokens_unplaced (t : Option Ty) :
    Ty.outputTokens (Ty.unplacedOption t) = Ty.outputTokens t := by
  match t with
  | some t => simp only [Ty.unplacedOption, Ty.outputTokens, Ty.tokens_unplaced t]
  | none => rfl

theorem Ty.defaultTokens_unplaced (t : Option Ty) :
    Ty.defaultTokens (Ty.unplacedOption t) = Ty.defaultTokens t := by
  match t with
  | some t => simp only [Ty.unplacedOption, Ty.defaultTokens, Ty.tokens_unplaced t]
  | none => rfl

theorem BareArg.tokens_unplaced (a : BareArg) : a.unplaced.tokens = a.tokens := by
  match a with
  | .mk attrs _ ty =>
    simp only [BareArg.unplaced, BareArg.tokens, Attr.listTokens_unplaced attrs,
      Ty.tokens_unplaced ty]

theorem BareArg.listTokens_unplaced (args : List BareArg) :
    BareArg.listTokens (BareArg.unplacedList args) = BareArg.listTokens args := by
  match args with
  | [] => rfl
  | a :: rest =>
    simp only [BareArg.unplacedList, BareArg.listTokens, BareArg.tokens_unplaced a,
      BareArg.listTokens_unplaced rest]

theorem Path.tokens_unplaced (p : Path) : p.unplaced.tokens = p.tokens := by
  match p with
  | .mk _ segments => simp only [Path.unplaced, Path.tokens, Segment.listTokens_unplaced segments]

theorem Path.asTokens_unplaced (p : Option Path) :
    Path.asTokens (Path.unplacedOption p) = Path.asTokens p := by
  match p with
  | some p => simp only [Path.unplacedOption, Path.asTokens, Path.tokens_unplaced p]
  | none => rfl

theorem Segment.tokens_unplaced (s : Segment) : s.unplaced.tokens = s.tokens := by
  match s with
  | .mk _ args => simp only [Segment.unplaced, Segment.tokens, Args.tokens_unplaced args]

theorem Segment.listTokens_unplaced (segments : List Segment) :
    Segment.listTokens (Segment.unplacedList segments) = Segment.listTokens segments := by
  match segments with
  | [] => rfl
  | s :: rest =>
    simp only [Segment.unplacedList, Segment.listTokens, Segment.tokens_unplaced s,
      Segment.listTokens_unplaced rest]

theorem Args.tokens_unplaced (a : Args) : a.unplaced.tokens = a.tokens := by
  match a with
  | .none => rfl
  | .angle _ args _ =>
    simp only [Args.unplaced, Args.tokens, GenericArg.flaggedTokens_unplaced args]
  | .paren inputs _ output =>
    simp only [Args.unplaced, Args.tokens, Ty.listTokens_unplaced inputs,
      Ty.outputTokens_unplaced output]

theorem GenericArg.tokens_unplaced (a : GenericArg) : a.unplaced.tokens = a.tokens := by
  match a with
  | .lifetime _ => rfl
  | .type ty => simp only [GenericArg.unplaced, GenericArg.tokens, Ty.tokens_unplaced ty]
  | .const value => simp only [GenericArg.unplaced, GenericArg.tokens, Code.tokens_unplaced value]
  | .assocType _ args ty =>
    simp only [GenericArg.unplaced, GenericArg.tokens, Args.tokens_unplaced args,
      Ty.tokens_unplaced ty]
  | .assocConst _ args value =>
    simp only [GenericArg.unplaced, GenericArg.tokens, Args.tokens_unplaced args,
      Code.tokens_unplaced value]
  | .constraint _ args bounds _ =>
    simp only [GenericArg.unplaced, GenericArg.tokens, Args.tokens_unplaced args,
      Bound.listTokens_unplaced bounds]

theorem GenericArg.flaggedTokens_unplaced (args : List GenericArg) :
    GenericArg.flaggedTokens (GenericArg.unplacedList args) = GenericArg.flaggedTokens args := by
  match args with
  | [] => rfl
  | a :: rest =>
    simp only [GenericArg.unplacedList, GenericArg.flaggedTokens, GenericArg.isLifetime_unplaced,
      GenericArg.tokens_unplaced a, GenericArg.flaggedTokens_unplaced rest]

theorem Bound.tokens_unplaced (b : Bound) : b.unplaced.tokens = b.tokens := by
  match b with
  | .trait _ _ binder path =>
    simp only [Bound.unplaced, Bound.tokens, Binder.optionTokens_unplaced binder,
      Path.tokens_unplaced path]
  | .lifetime _ => rfl
  | .captures _ _ => rfl
  | .verbatim ts => simp only [Bound.unplaced, Bound.tokens, Tokens.unplaced_unplaced]

theorem Bound.listTokens_unplaced (bounds : List Bound) :
    Bound.listTokens (Bound.unplacedList bounds) = Bound.listTokens bounds := by
  match bounds with
  | [] => rfl
  | b :: rest =>
    simp only [Bound.unplacedList, Bound.listTokens, Bound.tokens_unplaced b,
      Bound.listTokens_unplaced rest]

theorem Binder.tokens_unplaced (b : Binder) : b.unplaced.tokens = b.tokens := by
  match b with
  | .mk params _ =>
    simp only [Binder.unplaced, Binder.tokens, GenericParam.listTokens_unplaced params]

theorem Binder.optionTokens_unplaced (b : Option Binder) :
    Binder.optionTokens (Binder.unplacedOption b) = Binder.optionTokens b := by
  match b with
  | some b => simp only [Binder.unplacedOption, Binder.optionTokens, Binder.tokens_unplaced b]
  | none => rfl

theorem GenericParam.tokens_unplaced (p : GenericParam) : p.unplaced.tokens = p.tokens := by
  match p with
  | .lifetime ⟨attrs, _, _, _⟩ =>
    simp only [GenericParam.unplaced, GenericParam.tokens, Attr.listTokens_unplaced attrs]
  | .type attrs _ bounds _ default =>
    simp only [GenericParam.unplaced, GenericParam.tokens, Attr.listTokens_unplaced attrs,
      Bound.isEmpty_unplacedList, Bound.listTokens_unplaced bounds,
      Ty.defaultTokens_unplaced default]
  | .const attrs _ ty default =>
    simp only [GenericParam.unplaced, GenericParam.tokens, Attr.listTokens_unplaced attrs,
      Ty.tokens_unplaced ty, Code.defaultTokens_unplaced default]

theorem GenericParam.listTokens_unplaced (params : List GenericParam) :
    GenericParam.listTokens (GenericParam.unplacedList params) =
      GenericParam.listTokens params := by
  match params with
  | [] => rfl
  | p :: rest =>
    simp only [GenericParam.unplacedList, GenericParam.listTokens, GenericParam.tokens_unplaced p,
      GenericParam.listTokens_unplaced rest]

theorem GenericParam.flaggedTokens_unplaced (params : List GenericParam) :
    GenericParam.flaggedTokens (GenericParam.unplacedList params) =
      GenericParam.flaggedTokens params := by
  match params with
  | [] => rfl
  | p :: rest =>
    simp only [GenericParam.unplacedList, GenericParam.flaggedTokens,
      GenericParam.isLifetime_unplaced, GenericParam.tokens_unplaced p,
      GenericParam.flaggedTokens_unplaced rest]

theorem WherePredicate.tokens_unplaced (p : WherePredicate) : p.unplaced.tokens = p.tokens := by
  match p with
  | .lifetime _ _ _ => rfl
  | .type binder ty bounds _ =>
    simp only [WherePredicate.unplaced, WherePredicate.tokens, Binder.optionTokens_unplaced binder,
      Ty.tokens_unplaced ty, Bound.listTokens_unplaced bounds]

theorem WherePredicate.listTokens_unplaced (predicates : List WherePredicate) :
    WherePredicate.listTokens (WherePredicate.unplacedList predicates) =
      WherePredicate.listTokens predicates := by
  match predicates with
  | [] => rfl
  | p :: rest =>
    simp only [WherePredicate.unplacedList, WherePredicate.listTokens,
      WherePredicate.tokens_unplaced p, WherePredicate.listTokens_unplaced rest]

theorem Meta.tokens_unplaced (m : Meta) : m.unplaced.tokens = m.tokens := by
  match m with
  | .path _ => rfl
  | .list _ _ _ _ => simp only [Meta.unplaced, Meta.tokens, Tokens.unplaced_unplaced]
  | .nameValue _ value => simp only [Meta.unplaced, Meta.tokens, Code.tokens_unplaced value]

theorem Attr.tokens_unplaced (a : Attr) : a.unplaced.tokens = a.tokens := by
  match a with
  | ⟨_, content, _⟩ => simp only [Attr.unplaced, Attr.tokens, Meta.tokens_unplaced content]

theorem Attr.listTokens_unplaced (attrs : List Attr) :
    Attr.listTokens (Attr.unplacedList attrs) = Attr.listTokens attrs := by
  match attrs with
  | [] => rfl
  | a :: rest =>
    simp only [Attr.unplacedList, Attr.listTokens, Attr.tokens_unplaced a,
      Attr.listTokens_unplaced rest]

theorem Code.tokens_unplaced (c : Code) : c.unplaced.tokens = c.tokens := by
  match c with
  | .tree _ parts => simp only [Code.unplaced, Code.tokens, Part.listTokens_unplaced parts]

theorem Code.defaultTokens_unplaced (c : Option Code) :
    Code.defaultTokens (Code.unplacedOption c) = Code.defaultTokens c := by
  match c with
  | some c => simp only [Code.unplacedOption, Code.defaultTokens, Code.tokens_unplaced c]
  | none => rfl

theorem Part.tokens_unplaced (p : Part) : p.unplaced.tokens = p.tokens := by
  match p with
  | .mark _ => rfl
  | .word _ => rfl
  | .lifetime _ => rfl
  | .literal _ => rfl
  | .group _ parts => simp only [Part.unplaced, Part.tokens, Part.listTokens_unplaced parts]
  | .code c => simp only [Part.unplaced, Part.tokens, Code.tokens_unplaced c]
  | .ty t => simp only [Part.unplaced, Part.tokens, Ty.tokens_unplaced t]
  | .path p => simp only [Part.unplaced, Part.tokens, Path.tokens_unplaced p]
  | .args a => simp only [Part.unplaced, Part.tokens, Args.tokens_unplaced a]
  | .attr a => simp only [Part.unplaced, Part.tokens, Attr.tokens_unplaced a]
  | .binder b => simp only [Part.unplaced, Part.tokens, Binder.tokens_unplaced b]
  | .simple _ => rfl
  | .raw _ => simp only [Part.unplaced, Part.tokens, Tokens.unplaced_unplaced]
  | .vis _ => rfl
  | .abi _ => rfl
  | .generics params _ =>
    simp only [Part.unplaced, Part.tokens, GenericParam.flaggedTokens_unplaced params]
  | .bounds bounds _ => simp only [Part.unplaced, Part.tokens, Bound.listTokens_unplaced bounds]
  | .conditions predicates _ =>
    simp only [Part.unplaced, Part.tokens, WherePredicate.listTokens_unplaced predicates]

theorem Part.listTokens_unplaced (parts : List Part) :
    Part.listTokens (Part.unplacedList parts) = Part.listTokens parts := by
  match parts with
  | [] => rfl
  | p :: rest =>
    simp only [Part.unplacedList, Part.listTokens, Part.tokens_unplaced p,
      Part.listTokens_unplaced rest]

end

/-! ### Replacing `Self` -/

theorem Part.unplacedList_append (parts parts' : List Part) :
    Part.unplacedList (parts ++ parts') = Part.unplacedList parts ++ Part.unplacedList parts' := by
  simp only [Part.unplacedList_eq_map, List.map_append]

theorem Ty.isSelf_eq_true_iff {t : Ty} :
    t.isSelf = true ↔ t = .path (.mk false [.mk "Self" .none]) := by
  constructor
  · intro h
    unfold isSelf at h
    split at h
    · rfl
    · cases h
  · rintro rfl
    rfl

theorem Ty.isSelf_unplaced (t : Ty) : t.unplaced.isSelf = t.isSelf := by
  rw [Bool.eq_iff_iff, isSelf_eq_true_iff, isSelf_eq_true_iff]
  constructor
  · intro h
    match t with
    | .path (.mk _ [.mk _ .none]) => exact h
    | .path (.mk _ [.mk _ (.angle _ _ _)]) => cases h
    | .path (.mk _ [.mk _ (.paren _ _ _)]) => cases h
    | .path (.mk _ []) => cases h
    | .path (.mk _ (_ :: _ :: _)) => simp [unplaced, Path.unplaced, Segment.unplacedList] at h
  · rintro rfl
    rfl

/-- What is written behind a receiver has no places but those of the type. -/
theorem unplacedList_impliedType (self : Ty) (parts : List Part) :
    Part.unplacedList (impliedType self parts) =
      impliedType self.unplaced (Part.unplacedList parts) := by
  have hany (f : Part → Bool) (hf : ∀ p : Part, f p.unplaced = f p) :
      (Part.unplacedList parts).any f = parts.any f := by
    rw [Part.unplacedList_eq_map, List.any_map]
    exact congrArg _ (funext hf)
  unfold impliedType
  rw [Ty.isSelf_unplaced, hany _ fun p => by cases p <;> rfl, hany _ fun p => by cases p <;> rfl,
    hany _ fun p => by cases p <;> rfl]
  have hlifetime (f : Part → Option String) (hf : ∀ p : Part, f p.unplaced = f p) :
      (Part.unplacedList parts).findSome? f = parts.findSome? f := by
    rw [Part.unplacedList_eq_map, List.findSome?_map]
    exact congrArg (parts.findSome? ·) (funext hf)
  rw [hlifetime _ fun p => by cases p <;> rfl]
  split
  · rfl
  · split <;> rfl

/-- A type in code is searched like any other. -/
theorem Part.replaceSelf_ty (onSelf : List Segment → Ty) (t : Ty) :
    (Part.ty t).replaceSelf onSelf = .ty (t.replaceSelf onSelf) := by
  cases t with
  | qualified => simp only [Part.replaceSelf, Ty.replaceSelf]
  | _ => rfl

theorem unplaced_selfPath (self : Ty) (rest : List Segment) :
    (selfPath self rest).unplaced = selfPath self.unplaced (Segment.unplacedList rest) := by
  cases rest <;> rfl

section

variable {self : Ty}

mutual

/-- Forgetting places and replacing `Self` may change places. -/
theorem Ty.unplaced_replaceSelf (t : Ty) :
    (t.replaceSelf (selfPath self)).unplaced = t.unplaced.replaceSelf (selfPath self.unplaced) := by
  match t with
  | .array elem len =>
    simp only [Ty.replaceSelf, Ty.unplaced, Ty.unplaced_replaceSelf elem,
      Code.unplaced_replaceSelf len]
  | .bareFn binder _ _ inputs _ variadic output =>
    simp only [Ty.replaceSelf, Ty.unplaced, Binder.unplaced_replaceOption binder,
      BareArg.unplaced_replaceList inputs, BareVariadic.unplaced_replaceOption variadic,
      Ty.unplaced_replaceOption output]
  | .implTrait bounds _ =>
    simp only [Ty.replaceSelf, Ty.unplaced, Bound.unplaced_replaceList bounds]
  | .infer => rfl
  | .macroCall _ _ _ => rfl
  | .never => rfl
  | .paren elem => simp only [Ty.replaceSelf, Ty.unplaced, Ty.unplaced_replaceSelf elem]
  | .path (.mk _ []) => rfl
  | .path (.mk _ (.mk name args :: rest)) =>
    simp only [Ty.replaceSelf, Ty.unplaced, Path.unplaced, Segment.unplacedList, Segment.unplaced]
    split
    · exact unplaced_selfPath self rest
    · simp only [Ty.unplaced, Path.unplaced, Segment.unplacedList, Segment.unplaced,
        Args.unplaced_replaceSelf args, Segment.unplaced_replaceList rest]
  | .qualified inner asTrait rest =>
    simp only [Ty.replaceSelf, Ty.unplaced, Ty.unplaced_replaceSelf inner,
      Path.unplaced_replaceOption asTrait, Segment.unplaced_replaceList rest]
  | .ptr _ elem => simp only [Ty.replaceSelf, Ty.unplaced, Ty.unplaced_replaceSelf elem]
  | .reference _ _ elem => simp only [Ty.replaceSelf, Ty.unplaced, Ty.unplaced_replaceSelf elem]
  | .slice elem => simp only [Ty.replaceSelf, Ty.unplaced, Ty.unplaced_replaceSelf elem]
  | .traitObject _ bounds _ =>
    simp only [Ty.replaceSelf, Ty.unplaced, Bound.unplaced_replaceList bounds]
  | .tuple elems _ => simp only [Ty.replaceSelf, Ty.unplaced, Ty.unplaced_replaceList elems]
  | .verbatim _ => rfl

theorem Ty.unplaced_replaceList (ts : List Ty) :
    Ty.unplacedList (Ty.replaceList (selfPath self) ts) =
      Ty.replaceList (selfPath self.unplaced) (Ty.unplacedList ts) := by
  match ts with
  | [] => rfl
  | t :: ts =>
    simp only [Ty.replaceList, Ty.unplacedList, Ty.unplaced_replaceSelf t,
      Ty.unplaced_replaceList ts]

theorem Ty.unplaced_replaceOption (t : Option Ty) :
    Ty.unplacedOption (Ty.replaceOption (selfPath self) t) =
      Ty.replaceOption (selfPath self.unplaced) (Ty.unplacedOption t) := by
  match t with
  | some t => simp only [Ty.replaceOption, Ty.unplacedOption, Ty.unplaced_replaceSelf t]
  | none => rfl

theorem BareArg.unplaced_replaceSelf (a : BareArg) :
    (a.replaceSelf (selfPath self)).unplaced = a.unplaced.replaceSelf (selfPath self.unplaced) := by
  match a with
  | .mk attrs _ ty =>
    simp only [BareArg.replaceSelf, BareArg.unplaced, Attr.unplaced_replaceList attrs,
      Ty.unplaced_replaceSelf ty]

theorem BareArg.unplaced_replaceList (args : List BareArg) :
    BareArg.unplacedList (BareArg.replaceList (selfPath self) args) =
      BareArg.replaceList (selfPath self.unplaced) (BareArg.unplacedList args) := by
  match args with
  | [] => rfl
  | a :: rest =>
    simp only [BareArg.replaceList, BareArg.unplacedList, BareArg.unplaced_replaceSelf a,
      BareArg.unplaced_replaceList rest]

theorem Path.unplaced_replaceSelf (p : Path) :
    (p.replaceSelf (selfPath self)).unplaced = p.unplaced.replaceSelf (selfPath self.unplaced) := by
  match p with
  | .mk _ segments =>
    simp only [Path.replaceSelf, Path.unplaced, Segment.unplaced_replaceList segments]

theorem Path.unplaced_replaceOption (p : Option Path) :
    Path.unplacedOption (Path.replaceOption (selfPath self) p) =
      Path.replaceOption (selfPath self.unplaced) (Path.unplacedOption p) := by
  match p with
  | some p => simp only [Path.replaceOption, Path.unplacedOption, Path.unplaced_replaceSelf p]
  | none => rfl

theorem Segment.unplaced_replaceSelf (s : Segment) :
    (s.replaceSelf (selfPath self)).unplaced = s.unplaced.replaceSelf (selfPath self.unplaced) := by
  match s with
  | .mk _ args =>
    simp only [Segment.replaceSelf, Segment.unplaced, Args.unplaced_replaceSelf args]

theorem Segment.unplaced_replaceList (segments : List Segment) :
    Segment.unplacedList (Segment.replaceList (selfPath self) segments) =
      Segment.replaceList (selfPath self.unplaced) (Segment.unplacedList segments) := by
  match segments with
  | [] => rfl
  | s :: rest =>
    simp only [Segment.replaceList, Segment.unplacedList, Segment.unplaced_replaceSelf s,
      Segment.unplaced_replaceList rest]

theorem Args.unplaced_replaceSelf (a : Args) :
    (a.replaceSelf (selfPath self)).unplaced = a.unplaced.replaceSelf (selfPath self.unplaced) := by
  match a with
  | .none => rfl
  | .angle _ args _ =>
    simp only [Args.replaceSelf, Args.unplaced, GenericArg.unplaced_replaceList args]
  | .paren inputs _ output =>
    simp only [Args.replaceSelf, Args.unplaced, Ty.unplaced_replaceList inputs,
      Ty.unplaced_replaceOption output]

theorem GenericArg.unplaced_replaceSelf (a : GenericArg) :
    (a.replaceSelf (selfPath self)).unplaced = a.unplaced.replaceSelf (selfPath self.unplaced) := by
  match a with
  | .lifetime _ => rfl
  | .type ty =>
    simp only [GenericArg.replaceSelf, GenericArg.unplaced, Ty.unplaced_replaceSelf ty]
  | .const value =>
    simp only [GenericArg.replaceSelf, GenericArg.unplaced, Code.unplaced_replaceSelf value]
  | .assocType _ args ty =>
    simp only [GenericArg.replaceSelf, GenericArg.unplaced, Args.unplaced_replaceSelf args,
      Ty.unplaced_replaceSelf ty]
  | .assocConst _ args value =>
    simp only [GenericArg.replaceSelf, GenericArg.unplaced, Args.unplaced_replaceSelf args,
      Code.unplaced_replaceSelf value]
  | .constraint _ args bounds _ =>
    simp only [GenericArg.replaceSelf, GenericArg.unplaced, Args.unplaced_replaceSelf args,
      Bound.unplaced_replaceList bounds]

theorem GenericArg.unplaced_replaceList (args : List GenericArg) :
    GenericArg.unplacedList (GenericArg.replaceList (selfPath self) args) =
      GenericArg.replaceList (selfPath self.unplaced) (GenericArg.unplacedList args) := by
  match args with
  | [] => rfl
  | a :: rest =>
    simp only [GenericArg.replaceList, GenericArg.unplacedList, GenericArg.unplaced_replaceSelf a,
      GenericArg.unplaced_replaceList rest]

theorem Bound.unplaced_replaceSelf (b : Bound) :
    (b.replaceSelf (selfPath self)).unplaced = b.unplaced.replaceSelf (selfPath self.unplaced) := by
  match b with
  | .trait _ _ binder path =>
    simp only [Bound.replaceSelf, Bound.unplaced, Binder.unplaced_replaceOption binder,
      Path.unplaced_replaceSelf path]
  | .lifetime _ => rfl
  | .captures _ _ => rfl
  | .verbatim _ => rfl

theorem Bound.unplaced_replaceList (bounds : List Bound) :
    Bound.unplacedList (Bound.replaceList (selfPath self) bounds) =
      Bound.replaceList (selfPath self.unplaced) (Bound.unplacedList bounds) := by
  match bounds with
  | [] => rfl
  | b :: rest =>
    simp only [Bound.replaceList, Bound.unplacedList, Bound.unplaced_replaceSelf b,
      Bound.unplaced_replaceList rest]

theorem Binder.unplaced_replaceSelf (b : Binder) :
    (b.replaceSelf (selfPath self)).unplaced = b.unplaced.replaceSelf (selfPath self.unplaced) := by
  match b with
  | .mk params _ =>
    simp only [Binder.replaceSelf, Binder.unplaced, GenericParam.unplaced_replaceList params]

theorem Binder.unplaced_replaceOption (b : Option Binder) :
    Binder.unplacedOption (Binder.replaceOption (selfPath self) b) =
      Binder.replaceOption (selfPath self.unplaced) (Binder.unplacedOption b) := by
  match b with
  | some b => simp only [Binder.replaceOption, Binder.unplacedOption, Binder.unplaced_replaceSelf b]
  | none => rfl

theorem GenericParam.unplaced_replaceSelf (p : GenericParam) :
    (p.replaceSelf (selfPath self)).unplaced = p.unplaced.replaceSelf (selfPath self.unplaced) := by
  match p with
  | .lifetime ⟨attrs, _, _, _⟩ =>
    simp only [GenericParam.replaceSelf, GenericParam.unplaced, Attr.unplaced_replaceList attrs]
  | .type attrs _ bounds _ default =>
    simp only [GenericParam.replaceSelf, GenericParam.unplaced, Attr.unplaced_replaceList attrs,
      Bound.unplaced_replaceList bounds, Ty.unplaced_replaceOption default]
  | .const attrs _ ty default =>
    simp only [GenericParam.replaceSelf, GenericParam.unplaced, Attr.unplaced_replaceList attrs,
      Ty.unplaced_replaceSelf ty, Code.unplaced_replaceOption default]

theorem GenericParam.unplaced_replaceList (params : List GenericParam) :
    GenericParam.unplacedList (GenericParam.replaceList (selfPath self) params) =
      GenericParam.replaceList (selfPath self.unplaced) (GenericParam.unplacedList params) := by
  match params with
  | [] => rfl
  | p :: rest =>
    simp only [GenericParam.replaceList, GenericParam.unplacedList,
      GenericParam.unplaced_replaceSelf p, GenericParam.unplaced_replaceList rest]

theorem WherePredicate.unplaced_replaceSelf (p : WherePredicate) :
    (p.replaceSelf (selfPath self)).unplaced = p.unplaced.replaceSelf (selfPath self.unplaced) := by
  match p with
  | .lifetime _ _ _ => rfl
  | .type binder ty bounds _ =>
    simp only [WherePredicate.replaceSelf, WherePredicate.unplaced,
      Binder.unplaced_replaceOption binder, Ty.unplaced_replaceSelf ty,
      Bound.unplaced_replaceList bounds]

theorem WherePredicate.unplaced_replaceList (predicates : List WherePredicate) :
    WherePredicate.unplacedList (WherePredicate.replaceList (selfPath self) predicates) =
      WherePredicate.replaceList (selfPath self.unplaced)
        (WherePredicate.unplacedList predicates) := by
  match predicates with
  | [] => rfl
  | p :: rest =>
    simp only [WherePredicate.replaceList, WherePredicate.unplacedList,
      WherePredicate.unplaced_replaceSelf p, WherePredicate.unplaced_replaceList rest]

theorem BareVariadic.unplaced_replaceOption (v : Option BareVariadic) :
    BareVariadic.unplacedOption (BareVariadic.replaceOption (selfPath self) v) =
      BareVariadic.replaceOption (selfPath self.unplaced) (BareVariadic.unplacedOption v) := by
  match v with
  | some ⟨attrs, _, _⟩ =>
    simp only [BareVariadic.replaceOption, BareVariadic.unplacedOption,
      Attr.unplaced_replaceList attrs]
  | none => rfl

theorem Meta.unplaced_replaceSelf (m : Meta) :
    (m.replaceSelf (selfPath self)).unplaced = m.unplaced.replaceSelf (selfPath self.unplaced) := by
  match m with
  | .path _ => rfl
  | .list _ _ _ _ => rfl
  | .nameValue _ value =>
    simp only [Meta.replaceSelf, Meta.unplaced, Code.unplaced_replaceSelf value]

theorem Attr.unplaced_replaceSelf (a : Attr) :
    (a.replaceSelf (selfPath self)).unplaced = a.unplaced.replaceSelf (selfPath self.unplaced) := by
  match a with
  | ⟨_, content, _⟩ =>
    simp only [Attr.replaceSelf, Attr.unplaced, Meta.unplaced_replaceSelf content]

theorem Attr.unplaced_replaceList (attrs : List Attr) :
    Attr.unplacedList (Attr.replaceList (selfPath self) attrs) =
      Attr.replaceList (selfPath self.unplaced) (Attr.unplacedList attrs) := by
  match attrs with
  | [] => rfl
  | a :: rest =>
    simp only [Attr.replaceList, Attr.unplacedList, Attr.unplaced_replaceSelf a,
      Attr.unplaced_replaceList rest]

theorem Code.unplaced_replaceSelf (c : Code) :
    (c.replaceSelf (selfPath self)).unplaced = c.unplaced.replaceSelf (selfPath self.unplaced) := by
  match c with
  | .tree kind parts =>
    simp only [Code.replaceSelf, Code.unplaced, Part.unplacedList_append,
      Part.unplaced_replaceList parts]
    split
    · rw [unplacedList_impliedType, unplaced_selfPath]
      rfl
    · rfl

theorem Code.unplaced_replaceOption (c : Option Code) :
    Code.unplacedOption (Code.replaceOption (selfPath self) c) =
      Code.replaceOption (selfPath self.unplaced) (Code.unplacedOption c) := by
  match c with
  | some c => simp only [Code.replaceOption, Code.unplacedOption, Code.unplaced_replaceSelf c]
  | none => rfl

theorem Part.unplaced_replaceSelf (p : Part) :
    (p.replaceSelf (selfPath self)).unplaced = p.unplaced.replaceSelf (selfPath self.unplaced) := by
  match p with
  | .mark _ => rfl
  | .word _ => rfl
  | .lifetime _ => rfl
  | .literal _ => rfl
  | .group _ parts => simp only [Part.replaceSelf, Part.unplaced, Part.unplaced_replaceList parts]
  | .code c => simp only [Part.replaceSelf, Part.unplaced, Code.unplaced_replaceSelf c]
  | .ty t =>
    rw [Part.replaceSelf_ty, Part.unplaced, Part.unplaced, Part.replaceSelf_ty,
      Ty.unplaced_replaceSelf t]
  | .path p => simp only [Part.replaceSelf, Part.unplaced, Path.unplaced_replaceSelf p]
  | .args a => simp only [Part.replaceSelf, Part.unplaced, Args.unplaced_replaceSelf a]
  | .attr a => simp only [Part.replaceSelf, Part.unplaced, Attr.unplaced_replaceSelf a]
  | .binder b => simp only [Part.replaceSelf, Part.unplaced, Binder.unplaced_replaceSelf b]
  | .simple _ => rfl
  | .raw _ => rfl
  | .vis _ => rfl
  | .abi _ => rfl
  | .generics params _ =>
    simp only [Part.replaceSelf, Part.unplaced, GenericParam.unplaced_replaceList params]
  | .bounds bounds _ =>
    simp only [Part.replaceSelf, Part.unplaced, Bound.unplaced_replaceList bounds]
  | .conditions predicates _ =>
    simp only [Part.replaceSelf, Part.unplaced, WherePredicate.unplaced_replaceList predicates]

theorem Part.unplaced_replaceList (parts : List Part) :
    Part.unplacedList (Part.replaceList (selfPath self) parts) =
      Part.replaceList (selfPath self.unplaced) (Part.unplacedList parts) := by
  match parts with
  | [] => rfl
  | p :: rest =>
    simp only [Part.replaceList, Part.unplacedList, Part.unplaced_replaceSelf p,
      Part.unplaced_replaceList rest]

end

end

end PatternFactory
