import PatternFactory.Declaration.Validation
import PatternFactory.Factory.Renderer
import PatternFactory.Proofs.List

/-!
# Factories fit their extractors

Validation counts the components of the tuple that an extractor returns, a factory numbers its
parameters, and the runtime has one type of patterns for each number of components.  The three agree
about every declaration that validation lets through:

* an extractor without violations has one parameter, and its components are no more than a pattern
  can have (`Method.exists_of_violations_eq_nil`), so it is not left without a factory
  (`Declaration.forall₂_factories`);
* the tokens of a factory are those of a function (`Factory.tokens_eq`) with a parameter, a generic
  parameter and a condition for each component, the latter two behind what the declaration and the
  extractor have of their own (`Declaration.isFactory_factoryOf`);
* the impl block of a unit that can be rendered consists of these functions, one for each extractor
  (`Renderer.standard_factories`).
-/

namespace PatternFactory

/-! ### What validation lets through -/

theorem violationIf_eq_nil {violated : Bool} {r : Rule} :
    violationIf violated r = [] ↔ violated = false := by
  cases violated <;> simp [violationIf]

namespace Method

variable {m : Method} {limit : Nat}

theorem exists_of_returnViolation_eq_nil (h : m.returnViolation limit = []) :
    ∃ components, m.components? = some components ∧ components.length ≤ limit := by
  unfold returnViolation at h
  split at h
  case h_1 => simp at h
  case h_2 components hc =>
    rw [violationIf_eq_nil, decide_eq_false_iff_not, Nat.not_lt] at h
    exact ⟨components, hc, h⟩

/-- An extractor without violations has one parameter and returns as many components as the limit
and the runtime admit. -/
theorem exists_of_violations_eq_nil (h : m.violations limit = []) :
    ∃ param components, m.paramTypes = [param] ∧ m.components? = some components ∧
      components.length ≤ min limit maxArity := by
  simp only [violations, List.append_eq_nil_iff, violationIf_eq_nil, decide_eq_false_iff_not,
    ne_eq, Decidable.not_not] at h
  obtain ⟨⟨⟨⟨⟨-, hlength⟩, -⟩, hreturn⟩, -⟩, -⟩ := h
  obtain ⟨param, hparam⟩ := List.length_eq_one_iff.1 hlength
  obtain ⟨components, hcomponents, hle⟩ := exists_of_returnViolation_eq_nil hreturn
  exact ⟨param, components, hparam, hcomponents, hle⟩

end Method

theorem Declaration.violations_eq_nil {d : Declaration} {limit : Nat}
    (h : d.isEligible limit = true) {m : Method} (hm : m ∈ d.extractors) :
    m.violations limit = [] := by
  simp only [isEligible, Bool.and_eq_true, List.all_eq_true, List.isEmpty_iff] at h
  exact h.2 m hm

/-! ### Lists of trees

`Self` is replaced in each tree of a list by itself, and each is spelled by itself. -/

theorem Ty.listTokens_eq_map (ts : List Ty) : Ty.listTokens ts = ts.map Ty.tokens := by
  induction ts with
  | nil => rfl
  | cons t ts ih => rw [Ty.listTokens, ih, List.map_cons]

theorem GenericParam.listTokens_eq_map (ps : List GenericParam) :
    GenericParam.listTokens ps = ps.map GenericParam.tokens := by
  induction ps with
  | nil => rfl
  | cons p ps ih => rw [GenericParam.listTokens, ih, List.map_cons]

theorem WherePredicate.listTokens_eq_map (ps : List WherePredicate) :
    WherePredicate.listTokens ps = ps.map WherePredicate.tokens := by
  induction ps with
  | nil => rfl
  | cons p ps ih => rw [WherePredicate.listTokens, ih, List.map_cons]

section

variable (onSelf : List Segment → Ty)

theorem GenericParam.replaceList_eq_map (ps : List GenericParam) :
    GenericParam.replaceList onSelf ps = ps.map (GenericParam.replaceSelf onSelf) := by
  induction ps with
  | nil => rfl
  | cons p ps ih => rw [GenericParam.replaceList, ih, List.map_cons]

theorem WherePredicate.replaceList_eq_map (ps : List WherePredicate) :
    WherePredicate.replaceList onSelf ps = ps.map (WherePredicate.replaceSelf onSelf) := by
  induction ps with
  | nil => rfl
  | cons p ps ih => rw [WherePredicate.replaceList, ih, List.map_cons]

end

namespace DeclarationKind

variable (k : DeclarationKind)

/-- Puts the declared type in the place of `Self` in one generic parameter. -/
def resolveParam : GenericParam → GenericParam :=
  match k with
  | impl selfTy _ => GenericParam.replaceSelf (selfPath selfTy)
  | module _ => id

/-- Puts the declared type in the place of `Self` in one condition. -/
def resolvePredicate : WherePredicate → WherePredicate :=
  match k with
  | impl selfTy _ => WherePredicate.replaceSelf (selfPath selfTy)
  | module _ => id

theorem resolveGenerics_params (g : Generics) :
    (k.resolveGenerics g).params = g.params.map k.resolveParam := by
  cases k with
  | impl selfTy _ => exact GenericParam.replaceList_eq_map _ _
  | module _ => exact (List.map_id _).symm

theorem resolveGenerics_predicates (g : Generics) :
    (k.resolveGenerics g).predicates = g.predicates.map k.resolvePredicate := by
  cases k with
  | impl selfTy _ => exact WherePredicate.replaceList_eq_map _ _
  | module _ => exact (List.map_id _).symm

/-- The tokens of the path to a function of the declaration. -/
def pathTokens (function : String) : List Token :=
  (match k with
    | impl selfTy _ => Token.ofOperator "<" ++ selfTy.tokens ++ Token.ofOperator ">"
    | module name => [.ofWord name]) ++ Token.ofOperator "::" ++ [.ofWord function]

end DeclarationKind

/-! ### Functions as tokens -/

/-- The tokens of a parameter whose type is a single word. -/
def paramTokens (name ty : String) : List Token :=
  .ofWord name :: Token.ofOperator ":" ++ [.ofWord ty]

/-- A function as the tokens of its parts. -/
structure SpelledFn where
  comment : String
  name : String
  generics : List (List Token)
  params : List (List Token)
  output : List Token
  conditions : List (List Token)
  body : List Token

namespace SpelledFn

/-- The tokens of a public function.  Brackets for generic parameters and the word `where` are left
out if nothing belongs to them. -/
def tokens (g : SpelledFn) : List Token :=
  commentTokens g.comment ++ [.ofWord "pub", .ofWord "fn", .ofWord g.name]
    ++ (if g.generics.isEmpty then []
      else Token.ofOperator "<" ++ joinTokens "," g.generics ++ Token.ofOperator ">")
    ++ .ofGroup .paren (joinTokens "," g.params) :: Token.ofOperator "->" ++ g.output
    ++ (if g.conditions.isEmpty then [] else .ofWord "where" :: joinTokens "," g.conditions)
    ++ [.ofGroup .brace g.body]

end SpelledFn

namespace Factory

/-- A factory as a function. -/
def spelled (rt : Path) (f : Factory) : SpelledFn where
  comment := " Pattern backed by `" ++ f.declaration ++ "::" ++ f.extractor ++ "`."
  name := f.name
  generics := GenericParam.listTokens f.generics.params ++ f.patternParams.map fun p => [.ofWord p]
  params := (f.args.zip f.patternParams).map fun (a, p) => paramTokens a p
  output := f.patternTokens rt
  conditions := f.generics.predicates.map WherePredicate.tokens
    ++ (f.patternParams.zip f.components).map fun (p, c) => tieTokens rt p c
  body := f.bodyTokens rt

theorem tokens_eq (rt : Path) (f : Factory) : f.tokens rt = (f.spelled rt).tokens := rfl

/-! ### Numbering -/

theorem numbered_zip_numbered (lead lead' : String) (n : Nat) :
    (numbered lead n).zip (numbered lead' n) =
      (List.range n).map fun i => (lead ++ toString (i + 1), lead' ++ toString (i + 1)) :=
  List.zip_map'

theorem map_numbered_zip {α β : Type} (lead : String) (l : List α) (f : String × α → β) :
    ((numbered lead l.length).zip l).map f =
      l.mapIdx fun i a => f (lead ++ toString (i + 1), a) := by
  apply List.ext_getElem
  · simp [numbered]
  · intro i hi hi'
    simp [numbered]

variable (rt : Path) (f : Factory)

theorem spelled_generics :
    (f.spelled rt).generics = f.generics.params.map GenericParam.tokens
      ++ (List.range f.arity).map fun i => [.ofWord ("P" ++ toString (i + 1))] :=
  calc (f.spelled rt).generics
    _ = GenericParam.listTokens f.generics.params
          ++ (numbered "P" f.arity).map fun p => [.ofWord p] := rfl
    _ = _ := by rw [GenericParam.listTokens_eq_map, numbered, List.map_map]; rfl

theorem spelled_params :
    (f.spelled rt).params = (List.range f.arity).map fun i =>
      paramTokens ("p" ++ toString (i + 1)) ("P" ++ toString (i + 1)) :=
  calc (f.spelled rt).params
    _ = ((numbered "p" f.arity).zip (numbered "P" f.arity)).map fun (a, p) =>
          paramTokens a p := rfl
    _ = _ := by rw [numbered_zip_numbered, List.map_map]; rfl

theorem spelled_conditions :
    (f.spelled rt).conditions = f.generics.predicates.map WherePredicate.tokens
      ++ f.components.mapIdx fun i c => tieTokens rt ("P" ++ toString (i + 1)) c :=
  calc (f.spelled rt).conditions
    _ = f.generics.predicates.map WherePredicate.tokens
          ++ ((numbered "P" f.components.length).zip f.components).map
            fun (p, c) => tieTokens rt p c := rfl
    _ = _ := by rw [map_numbered_zip]

theorem spelled_output :
    (f.spelled rt).output = runtimeTokens rt ("Pattern" ++ toString f.arity)
      ++ Token.ofOperator "<" ++ f.subject.tokens ++ Token.ofOperator ","
      ++ commaBehindEach (f.components.map Ty.tokens)
      ++ wordList ((List.range f.arity).map fun i => "P" ++ toString (i + 1))
      ++ Token.ofOperator ">" := by
  rw [← Ty.listTokens_eq_map]
  rfl

theorem spelled_body :
    (f.spelled rt).body = runtimeTokens rt ("Pattern" ++ toString f.arity)
      ++ Token.ofOperator "::" ++ [.ofWord "new", .ofGroup .paren
        (Token.ofOperator "|" ++ .ofWord "value" :: Token.ofOperator ":" ++ Token.ofOperator "&"
          ++ f.subject.tokens ++ Token.ofOperator "|" ++ f.kind.pathTokens f.extractor
          ++ [.ofGroup .paren f.valueTokens] ++ Token.ofOperator ","
          ++ wordList ((List.range f.arity).map fun i => "p" ++ toString (i + 1)))] :=
  rfl

end Factory

/-! ### What a factory is to its extractor -/

/-- The types of patterns that the runtime has, each with the number of patterns that one of it is
made of. -/
def runtimePatterns : List (String × Nat) :=
  [("Pattern0", 0), ("Pattern1", 1), ("Pattern2", 2), ("Pattern3", 3), ("Pattern4", 4),
    ("Pattern5", 5), ("Pattern6", 6), ("Pattern7", 7), ("Pattern8", 8)]

theorem mem_runtimePatterns :
    ∀ n ≤ maxArity, ("Pattern" ++ toString n, n) ∈ runtimePatterns := by
  decide +kernel

/-- The name and the type of a parameter of a function, if both are single words. -/
def FnParam.words? : FnParam → Option (String × String)
  | typed [] (.tree .patIdent [.word name]) (.path (.mk false [.mk ty .none])) => some (name, ty)
  | _ => none

/-- The grammar reads the parameters of a factory as what they are meant to be. -/
theorem read_params :
    ∀ n ≤ maxArity,
      let params := (List.range n).map fun i =>
        paramTokens ("p" ++ toString (i + 1)) ("P" ++ toString (i + 1))
      (Tokens.read (joinTokens "," params) Grammar.params).toOption.map
          (fun found => found.params.map FnParam.words?) =
        some ((List.range n).map fun i =>
          some ("p" ++ toString (i + 1), "P" ++ toString (i + 1))) := by
  decide +kernel

/-- `HandedAs t subject value`: an extractor with a parameter of the type `t` takes values of the
type `subject` apart, and `value` spells what it is handed where the word `value` stands for a
reference to such a value.  A type in parentheses is no reference. -/
inductive Ty.HandedAs : Ty → Ty → List Token → Prop
  | plain (lifetime : Option String) (isMut : Bool) (subject : Ty) :
    HandedAs (.reference lifetime isMut subject) subject [.ofWord "value"]
  | cloned (t : Ty) (owned : ∀ lifetime isMut elem, t ≠ .reference lifetime isMut elem) :
    HandedAs t t (Token.ofOperator "::" ++ joinTokens "::" [[.ofWord "core"], [.ofWord "clone"],
      [.ofWord "Clone"], [.ofWord "clone"]] ++ [.ofGroup .paren [.ofWord "value"]])

theorem Ty.subject_of_owned {t : Ty}
    (owned : ∀ lifetime isMut elem, t ≠ .reference lifetime isMut elem) :
    t.subject = (t, false) := by
  unfold Ty.subject
  split
  case h_1 lifetime isMut elem => exact absurd rfl (owned lifetime isMut elem)
  case h_2 => rfl

theorem Factory.handedAs {f : Factory} {t : Ty} (h : t.subject = (f.subject, f.byReference)) :
    t.HandedAs f.subject f.valueTokens := by
  by_cases hr : ∃ lifetime isMut elem, t = .reference lifetime isMut elem
  · obtain ⟨lifetime, isMut, elem, rfl⟩ := hr
    obtain ⟨hsubject, hflag⟩ := Prod.mk.inj h
    rw [← hsubject, valueTokens, ← hflag]
    exact .plain lifetime isMut elem
  · have owned : ∀ lifetime isMut elem, t ≠ .reference lifetime isMut elem :=
      fun lifetime isMut elem ht => hr ⟨lifetime, isMut, elem, ht⟩
    obtain ⟨hsubject, hflag⟩ := Prod.mk.inj ((Ty.subject_of_owned owned).symm.trans h)
    rw [← hsubject, valueTokens, ← hflag]
    exact .cloned t owned

/-- The function `g` is a factory for the extractor `m` of `d`, once `Self` is resolved in the type
`param` of its parameter and in the types of its components. -/
structure SpelledFn.IsFactory (rt : Path) (d : Declaration) (m : Method) (param : Ty)
    (components : List Ty) (g : SpelledFn) : Prop where
  comment : g.comment = " Pattern backed by `" ++ d.name ++ "::" ++ m.name ++ "`."
  name : g.name = factoryName d.extractorNames m.name
  /-- The parameters of the declaration, then those of the extractor, but all lifetimes in front;
  then one for each component. -/
  generics :
    let own := d.kind.generics.params ++ m.item.sig.generics.params
    g.generics = (own.filter GenericParam.isLifetime ++ own.filter fun p => !p.isLifetime).map
        (fun p => (d.kind.resolveParam p).tokens)
      ++ (List.range components.length).map fun i => [.ofWord ("P" ++ toString (i + 1))]
  params :
    g.params = (List.range components.length).map fun i =>
      paramTokens ("p" ++ toString (i + 1)) ("P" ++ toString (i + 1))
  /-- Between the parentheses the grammar finds one parameter for each component. -/
  params_read :
    (Tokens.read (joinTokens "," g.params) Grammar.params).toOption.map
        (fun found => found.params.map FnParam.words?) =
      some ((List.range components.length).map fun i =>
        some ("p" ++ toString (i + 1), "P" ++ toString (i + 1)))
  /-- The conditions of the declaration, then those of the extractor, then one for each
  component. -/
  conditions :
    g.conditions = (d.kind.generics.predicates ++ m.item.sig.generics.predicates).map
        (fun p => (d.kind.resolvePredicate p).tokens)
      ++ components.mapIdx fun i c => Factory.tieTokens rt ("P" ++ toString (i + 1)) c
  pattern_mem :
    ("Pattern" ++ toString components.length, components.length) ∈ runtimePatterns
  /-- The type that is returned, and the call that makes a value of it. -/
  call :
    ∃ subject value, param.HandedAs subject value ∧
      g.output = Factory.runtimeTokens rt ("Pattern" ++ toString components.length)
        ++ Token.ofOperator "<" ++ subject.tokens ++ Token.ofOperator ","
        ++ commaBehindEach (components.map Ty.tokens)
        ++ wordList ((List.range components.length).map fun i => "P" ++ toString (i + 1))
        ++ Token.ofOperator ">" ∧
      g.body = Factory.runtimeTokens rt ("Pattern" ++ toString components.length)
        ++ Token.ofOperator "::" ++ [.ofWord "new", .ofGroup .paren
          (Token.ofOperator "|" ++ .ofWord "value" :: Token.ofOperator ":" ++ Token.ofOperator "&"
            ++ subject.tokens ++ Token.ofOperator "|" ++ d.kind.pathTokens m.name
            ++ [.ofGroup .paren value] ++ Token.ofOperator ","
            ++ wordList ((List.range components.length).map fun i => "p" ++ toString (i + 1)))]

namespace Declaration

/-- The factory for an extractor `m` of `d` with the one parameter `param`. -/
def factoryOf (d : Declaration) (m : Method) (param : Ty) (components : List Ty) : Factory where
  name := factoryName d.extractorNames m.name
  kind := d.kind
  declaration := d.name
  extractor := m.name
  generics := d.kind.resolveGenerics (d.kind.generics.merge m.item.sig.generics)
  subject := (d.kind.resolve param).subject.1
  byReference := (d.kind.resolve param).subject.2
  components := components.map d.kind.resolve

variable (d : Declaration) {m : Method} {param : Ty} {components : List Ty}

theorem factory?_eq_some (hparam : m.paramTypes = [param])
    (hcomponents : m.components? = some components) :
    d.factory? (factoryName d.extractorNames m.name) m =
      some (d.factoryOf m param components) := by
  simp only [factory?, hparam, hcomponents, List.head?_cons, Option.map_some, Option.getD_some]
  rfl

theorem factoryOf_params :
    (d.factoryOf m param components).generics.params =
      (lifetimesFirst (d.kind.generics.params ++ m.item.sig.generics.params)).map
        d.kind.resolveParam :=
  d.kind.resolveGenerics_params _

theorem factoryOf_predicates :
    (d.factoryOf m param components).generics.predicates =
      (d.kind.generics.predicates ++ m.item.sig.generics.predicates).map
        d.kind.resolvePredicate :=
  d.kind.resolveGenerics_predicates _

/-- The factory of an extractor with one parameter and few enough components, as a function. -/
theorem isFactory_factoryOf (rt : Path) (m : Method) (param : Ty)
    (hle : components.length ≤ maxArity) :
    ((d.factoryOf m param components).spelled rt).IsFactory rt d m (d.kind.resolve param)
        (components.map d.kind.resolve) := by
  have hlength : (components.map d.kind.resolve).length ≤ maxArity := by
    rwa [List.length_map]
  -- All but two of the parts are as they are spelled.  That the grammar finds the parameters, and
  -- that the runtime has the type, is known for the numbers of components up to its limit.
  constructor
  case comment => rfl
  case name => rfl
  case generics =>
    intro own
    rw [Factory.spelled_generics, factoryOf_params, List.map_map]
    rfl
  case params => exact Factory.spelled_params rt _
  case conditions =>
    rw [Factory.spelled_conditions, factoryOf_predicates, List.map_map]
    rfl
  case params_read =>
    rw [Factory.spelled_params]
    exact read_params _ hlength
  case pattern_mem => exact mem_runtimePatterns _ hlength
  case call =>
    exact ⟨_, _, Factory.handedAs rfl, Factory.spelled_output rt _, Factory.spelled_body rt _⟩

end Declaration

/-- The function `g` is a factory for the extractor `m` of `d`, and the extractor has one parameter
and returns as many components as the limit and the runtime admit. -/
def SpelledFn.Serves (limit : Nat) (rt : Path) (d : Declaration) (m : Method) (g : SpelledFn) :
    Prop :=
  ∃ param components, m.paramTypes = [param] ∧ m.components? = some components ∧
    components.length ≤ min limit maxArity ∧
    g.IsFactory rt d m (d.kind.resolve param) (components.map d.kind.resolve)

/-- Every extractor of an eligible declaration has a factory, in the order of the extractors. -/
theorem Declaration.forall₂_factories {d : Declaration} {limit : Nat} (rt : Path)
    (h : d.isEligible limit = true) :
    List.Forall₂ (SpelledFn.Serves limit rt d) d.extractors
      (d.factories.map (Factory.spelled rt)) := by
  rw [List.forall₂_map_right_iff]
  refine forall₂_filterMap fun m hm => ?_
  obtain ⟨param, components, hparam, hcomponents, hle⟩ :=
    Method.exists_of_violations_eq_nil (violations_eq_nil h hm)
  -- Validation never admits more components than the runtime, whatever its own limit is.
  exact ⟨_, d.factory?_eq_some hparam hcomponents, param, components, hparam, hcomponents, hle,
    d.isFactory_factoryOf rt m param (Nat.le_trans hle (Nat.min_le_right _ _))⟩

/-- What is rendered for an eligible declaration is a struct and an impl block that consists of one
factory for each extractor, in the order of the extractors. -/
theorem Renderer.standard_factories (limit : Nat) (rt : Path) (name : String) (d : Declaration)
    (text : String) (he : d.isEligible limit = true)
    (hr : Renderer.standard rt name d = some text) :
    ∃ fns items,
      Tokens.read (commentTokens (" Pattern factories for `" ++ d.displayName ++ "`.")
          ++ [.ofWord "pub", .ofWord "struct", .ofWord name] ++ Token.ofOperator ";"
          ++ [.ofWord "impl", .ofWord name,
            .ofGroup .brace (fns.flatMap SpelledFn.tokens)]) File.items = .ok items ∧
      (Doc.render? (unitDocs items)).map (unitHeader ++ ·) = some text ∧
      List.Forall₂ (SpelledFn.Serves limit rt d) d.extractors fns := by
  simp only [standard, Option.bind_eq_bind, Option.bind_eq_some_iff, Option.pure_def,
    Option.some.injEq, Declaration.unitItems?] at hr
  obtain ⟨items, hitems, body, hbody, rfl⟩ := hr
  refine ⟨d.factories.map (Factory.spelled rt), items, ?_, by rw [hbody]; rfl,
    d.forall₂_factories rt he⟩
  split at hitems
  case isTrue =>
    rw [List.flatMap_map, ← funext (Factory.tokens_eq rt)]
    cases hread : Tokens.read (d.unitTokens rt name) File.items with
    | error e => simp [hread, Except.toOption] at hitems
    | ok read =>
      rw [hread, Except.toOption, Option.some.injEq] at hitems
      rw [← hitems]
      exact hread
  case isFalse => simp at hitems

/-- The declaration of a source with an extractor of two components. -/
def pairDeclarations : List Declaration :=
  let markers : Markers := ⟨"p", "u"⟩
  let text := "#[p]impl<T> Pair<T>\x7b#[u]pub fn unapply_both<'a>(v:&'a Self)->" ++
    "Option<(&'a T,Self)>where T:'a\x7bNone\x7d\x7d"
  (SourceFile.discover markers ⟨⟨"lib.rs"⟩, .root, (File.ofText text).toOption.getD []⟩).map
    (MarkedDeclaration.declaration markers)

/-- The unit of the pair has one factory, with a parameter for each component. -/
theorem Renderer.standard_factories_pair :
    let rt : Path := .mk true [.mk "patgen" .none, .mk "runtime" .none]
    ∃ d text, pairDeclarations = [d] ∧ d.isEligible 12 = true ∧
      Renderer.standard rt "PairPatterns" d = some text ∧
      ∃ (g : SpelledFn) (items : List Item),
        Tokens.read (commentTokens " Pattern factories for `Pair`."
          ++ [.ofWord "pub", .ofWord "struct", .ofWord "PairPatterns"] ++ Token.ofOperator ";"
          ++ [.ofWord "impl", .ofWord "PairPatterns", .ofGroup .brace g.tokens]) File.items =
          .ok items ∧
        (Doc.render? (unitDocs items)).map (unitHeader ++ ·) = some text ∧
        g.name = "both" ∧ g.params = [paramTokens "p1" "P1", paramTokens "p2" "P2"] := by
  intro rt
  have hfacts : pairDeclarations.map (fun d =>
      ((d.isEligible 12, (Renderer.standard rt "PairPatterns" d).isSome), d.displayName,
        d.extractors.map fun m => (factoryName d.extractorNames m.name,
          m.components?.map List.length))) =
      [((true, true), "Pair", [("both", some 2)])] := by
    decide +kernel
  obtain ⟨d, hd⟩ : ∃ d, pairDeclarations = [d] :=
    List.length_eq_one_iff.1 (by simpa using congrArg List.length hfacts)
  simp only [hd, List.map_cons, List.map_nil, List.cons.injEq, Prod.mk.injEq, and_true] at hfacts
  obtain ⟨⟨he, hr⟩, hname, hextractors⟩ := hfacts
  obtain ⟨text, hr⟩ := Option.isSome_iff_exists.1 hr
  obtain ⟨fns, items, hread, hrender, hfns⟩ := standard_factories 12 rt _ d text he hr
  refine ⟨d, text, hd, he, hr, ?_⟩
  obtain ⟨m, hm⟩ : ∃ m, d.extractors = [m] :=
    List.length_eq_one_iff.1 (by simpa using congrArg List.length hextractors)
  rw [hm, List.forall₂_cons_left_iff] at hfns
  obtain ⟨g, _, ⟨param, components, -, hcomponents, -, hg⟩, hnil, rfl⟩ := hfns
  obtain rfl := List.forall₂_nil_left_iff.1 hnil
  simp only [hm, List.map_cons, List.map_nil, List.cons.injEq, Prod.mk.injEq, hcomponents,
    Option.map_some, Option.some.injEq, and_true] at hextractors
  rw [hname, List.flatMap_singleton] at hread
  refine ⟨g, items, hread, hrender, hg.name.trans hextractors.1, ?_⟩
  rw [hg.params, List.length_map, hextractors.2]
  rfl

end PatternFactory
