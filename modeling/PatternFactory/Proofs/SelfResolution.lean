import PatternFactory.Proofs.Factories
import PatternFactory.Proofs.Mentions

/-!
# `Self` in factories

A factory stands in an impl block of its own, where `Self` is another type than in the block of its
extractor.  So the type of that block is put in the place of `Self` in all that the factory takes
over: `Declaration.mentions` lists what is taken over, searched for `Self`, and `Factory.mentions`
what the factory mentions in the end.  The two are connected in both directions
(`Declaration.mem_mentions_factoryOf`).

The search does not see every `Self`.  It stops at a type that begins with `Self`, so the arguments
of an associated type are left; it looks for types only, so paths in array lengths and in constant
arguments are left, and so is what a macro is called with.  If the type of the block is free of
`Self`, then these, and the path of the runtime, are the only places from which the word gets into a
factory (`Declaration.self_in_factory_iff`).
-/

namespace PatternFactory

/-! ### What is taken over -/

section

variable {x : Mention} {self : Ty}

/-- Behind the reference a type mentions less. -/
theorem Ty.mem_mentions_of_subject {searched : Bool} {t : Ty}
    (h : x ∈ t.subject.1.mentions searched) : x ∈ t.mentions searched := by
  cases t
  case reference lifetime isMut elem =>
    rw [Ty.mentions, List.mem_append]
    exact .inr h
  all_goals exact h

/-- What a type behind a reference mentions after `Self` is replaced.  The replacement may be the
reference. -/
theorem Ty.mem_mentions_subject_replaceSelf (hx : x ≠ .self)
    (hself : self.isSelf = false ∨ x ∉ self.mentions false)
    (hsubject : x ∈ self.mentions false → x ∈ self.subject.1.mentions false) (t : Ty) :
    x ∈ (t.replaceSelf (selfPath self)).subject.1.mentions false ↔
      x.Arises self (t.subject.1.mentions true) := by
  have hall := Ty.mem_mentions_replaceSelf hx hself t
  cases t
  case reference lifetime isMut elem => exact Ty.mem_mentions_replaceSelf hx hself elem
  case path p =>
    obtain ⟨leading, _ | ⟨⟨name, args⟩, rest⟩⟩ := p
    · exact hall
    · by_cases hname : name = "Self"
      · subst hname
        cases rest with
        | nil => exact ⟨fun h => hall.1 (mem_mentions_of_subject h), fun h => hsubject (hall.2 h)⟩
        | cons s rest => exact hall
      · simp only [replaceSelf, if_neg hname] at hall ⊢
        exact hall
  all_goals exact hall

end

theorem GenericParam.mentionsList_eq_flatMap (searched : Bool) (params : List GenericParam) :
    GenericParam.mentionsList searched params =
      params.flatMap (GenericParam.mentions searched) := by
  induction params with
  | nil => rfl
  | cons p params ih => rw [GenericParam.mentionsList, ih, List.flatMap_cons]

theorem Mention.arises_perm {x : Mention} {self : Ty} {l l' : List Mention} (h : l.Perm l') :
    x.Arises self l ↔ x.Arises self l' := by
  rw [Arises, Arises, h.mem_iff, h.mem_iff]

namespace DeclarationKind

variable (k : DeclarationKind)

/-- Is there a type for `Self` to stand for? -/
def hasSelf : DeclarationKind → Bool
  | impl _ _ => true
  | module _ => false

/-- The mention is in the list, or in the type of the block while the list has `Self`. -/
def Arises (x : Mention) (l : List Mention) : Prop :=
  match k with
  | impl selfTy _ => x.Arises selfTy l
  | module _ => x ∈ l

instance (x : Mention) (l : List Mention) : Decidable (k.Arises x l) :=
  match k with
  | impl selfTy _ => inferInstanceAs (Decidable (x.Arises selfTy l))
  | module _ => inferInstanceAs (Decidable (x ∈ l))

/-- The mention is another than `Self`, and can be told from it: it is not in the type of the block
if that is written `Self`, and not in front of the type that a reference leads to. -/
structure Tracks (x : Mention) : Prop where
  ne_self : x ≠ .self
  of_isSelf : ∀ selfTy g, k = impl selfTy g → selfTy.isSelf = false ∨ x ∉ selfTy.mentions false
  of_subject : ∀ selfTy g, k = impl selfTy g →
    x ∈ selfTy.mentions false → x ∈ selfTy.subject.1.mentions false

section

variable {k} {x : Mention}

theorem arises_append {l l' : List Mention} :
    k.Arises x (l ++ l') ↔ k.Arises x l ∨ k.Arises x l' := by
  cases k with
  | impl selfTy _ => exact Mention.arises_append
  | module _ => exact List.mem_append

theorem arises_perm {l l' : List Mention} (h : l.Perm l') : k.Arises x l ↔ k.Arises x l' := by
  cases k with
  | impl selfTy _ => exact Mention.arises_perm h
  | module _ => exact h.mem_iff

variable (hx : k.Tracks x)

include hx

theorem mem_mentions_resolve (t : Ty) :
    x ∈ (k.resolve t).mentions false ↔ k.Arises x (t.mentions k.hasSelf) := by
  cases k with
  | impl selfTy g =>
    exact Ty.mem_mentions_replaceSelf hx.ne_self (hx.of_isSelf selfTy g rfl) t
  | module _ => rfl

theorem mem_mentions_resolve_list (ts : List Ty) :
    x ∈ Ty.mentionsList false (ts.map k.resolve) ↔ k.Arises x (Ty.mentionsList k.hasSelf ts) := by
  induction ts with
  | nil => cases k <;> simp [Ty.mentionsList, Arises]
  | cons t ts ih =>
    rw [List.map_cons, Ty.mentionsList, Ty.mentionsList, List.mem_append, arises_append,
      mem_mentions_resolve hx, ih]

theorem mem_mentions_subject_resolve (t : Ty) :
    x ∈ (k.resolve t).subject.1.mentions false ↔ k.Arises x (t.subject.1.mentions k.hasSelf) := by
  cases k with
  | impl selfTy g =>
    exact Ty.mem_mentions_subject_replaceSelf hx.ne_self (hx.of_isSelf selfTy g rfl)
      (hx.of_subject selfTy g rfl) t
  | module _ => rfl

theorem mem_mentions_resolveGenerics (g : Generics) :
    x ∈ GenericParam.mentionsList false (k.resolveGenerics g).params
        ++ WherePredicate.mentionsList false (k.resolveGenerics g).predicates ↔
      k.Arises x (GenericParam.mentionsList k.hasSelf g.params
        ++ WherePredicate.mentionsList k.hasSelf g.predicates) := by
  rw [List.mem_append, arises_append]
  cases k with
  | impl selfTy g' =>
    have hself := hx.of_isSelf selfTy g' rfl
    exact or_congr (GenericParam.mem_mentions_replaceList hx.ne_self hself g.params)
      (WherePredicate.mem_mentions_replaceList hx.ne_self hself g.predicates)
  | module _ => rfl

end

end DeclarationKind

/-- What the generic parameters, the conditions and the types of a factory mention. -/
def Factory.mentions (f : Factory) : List Mention :=
  GenericParam.mentionsList false f.generics.params
    ++ WherePredicate.mentionsList false f.generics.predicates
    ++ f.subject.mentions false ++ Ty.mentionsList false f.components

namespace Declaration

variable {d : Declaration} {m : Method}

/-- What a factory takes over from the declaration and from the extractor: generic parameters,
conditions, the type behind the reference that the extractor takes, and the types of the components.
If there is a type for `Self` to stand for, then all this is searched for `Self`. -/
def mentions (d : Declaration) (m : Method) : List Mention :=
  let searched := d.kind.hasSelf
  GenericParam.mentionsList searched (d.kind.generics.params ++ m.item.sig.generics.params)
    ++ WherePredicate.mentionsList searched
      (d.kind.generics.predicates ++ m.item.sig.generics.predicates)
    ++ Ty.mentionsList searched (m.paramTypes.map fun t => t.subject.1)
    ++ Ty.mentionsList searched (m.components?.getD [])

/-- A factory mentions what it takes over, and what the type of the block does if there is a `Self`
that the search sees. -/
theorem mem_mentions_factoryOf {x : Mention} (hx : d.kind.Tracks x) {param : Ty}
    {components : List Ty} (hparam : m.paramTypes = [param])
    (hcomponents : m.components? = some components) :
    x ∈ (d.factoryOf m param components).mentions ↔ d.kind.Arises x (d.mentions m) := by
  have hfirst : (GenericParam.mentionsList d.kind.hasSelf
      (lifetimesFirst (d.kind.generics.params ++ m.item.sig.generics.params))).Perm
        (GenericParam.mentionsList d.kind.hasSelf
          (d.kind.generics.params ++ m.item.sig.generics.params)) := by
    rw [GenericParam.mentionsList_eq_flatMap, GenericParam.mentionsList_eq_flatMap]
    exact (List.filter_append_perm _ _).flatMap_right _
  have hgenerics := (DeclarationKind.mem_mentions_resolveGenerics hx
    (d.kind.generics.merge m.item.sig.generics)).trans
      (DeclarationKind.arises_perm (hfirst.append_right _))
  have htypes : Ty.mentionsList d.kind.hasSelf (m.paramTypes.map fun t => t.subject.1) =
      param.subject.1.mentions d.kind.hasSelf := by
    rw [hparam, List.map_singleton, Ty.mentionsList, Ty.mentionsList, List.append_nil]
  rw [Factory.mentions, List.mem_append, List.mem_append, mentions, htypes, hcomponents,
    Option.getD_some, DeclarationKind.arises_append, DeclarationKind.arises_append,
    ← DeclarationKind.mem_mentions_subject_resolve hx,
    ← DeclarationKind.mem_mentions_resolve_list hx]
  exact or_congr (or_congr hgenerics Iff.rfl) Iff.rfl

end Declaration

/-! ### Where `Self` is left -/

section

variable {w : String}

theorem mem_words_flatten {items : List (List Token)} :
    w ∈ Tokens.words items.flatten ↔ ∃ ts ∈ items, w ∈ Tokens.words ts := by
  induction items with
  | nil => simp
  | cons ts items ih => simp [ih]

theorem mem_words_commaBehindEach {items : List (List Token)} :
    w ∈ Tokens.words (commaBehindEach items) ↔ ∃ ts ∈ items, w ∈ Tokens.words ts := by
  rw [commaBehindEach, List.flatMap, mem_words_flatten]
  simp

theorem mem_words_wordList {ws : List String} : w ∈ Tokens.words (wordList ws) ↔ w ∈ ws := by
  simp [wordList]

theorem words_runtimeTokens (rt : Path) (name : String) :
    Tokens.words (Factory.runtimeTokens rt name) = Tokens.words rt.tokens ++ [name] := by
  simp [Factory.runtimeTokens]

end

/-- The names that a factory makes up are not `Self`. -/
theorem append_ne_self {lead : String} (h : lead ∈ ["P", "p", "Pattern"]) (rest : String) :
    "Self" ≠ lead ++ rest := by
  intro he
  have hlist := congrArg String.toList he
  simp only [List.mem_cons, List.not_mem_nil, or_false] at h
  rcases h with rfl | rfl | rfl <;> simp [String.toList_append] at hlist

namespace Factory

variable (rt : Path) (f : Factory)

/-- The tokens of a factory with its types: those of the generic parameters, the parameters, the
type that is returned, the conditions, and the type that the closure takes a reference to. -/
def typeTokens : List Token :=
  (f.spelled rt).generics.flatten ++ (f.spelled rt).params.flatten ++ (f.spelled rt).output
    ++ (f.spelled rt).conditions.flatten ++ f.subject.tokens

/-- The word `Self` is in a factory if the path of the runtime has it or the factory mentions it. -/
theorem self_mem_words_typeTokens :
    "Self" ∈ Tokens.words (f.typeTokens rt) ↔
      "Self" ∈ Tokens.words rt.tokens ∨ .word "Self" ∈ f.mentions := by
  have hP (i : Nat) : "Self" ≠ "P" ++ toString (i + 1) := append_ne_self (by simp) _
  have hgenerics : "Self" ∈ Tokens.words (f.spelled rt).generics.flatten ↔
      .word "Self" ∈ GenericParam.mentionsList false f.generics.params := by
    rw [spelled_generics, mem_words_flatten, ← GenericParam.self_mem_words_list,
      GenericParam.listTokens_eq_map]
    simp only [List.mem_append, or_and_right, exists_or]
    refine or_iff_left ?_
    rintro ⟨ts, hts, hw⟩
    obtain ⟨i, -, rfl⟩ := List.mem_map.1 hts
    exact hP i (List.mem_singleton.1 hw)
  have hparams : "Self" ∉ Tokens.words (f.spelled rt).params.flatten := by
    rw [spelled_params, mem_words_flatten]
    rintro ⟨ts, hts, hw⟩
    obtain ⟨i, -, rfl⟩ := List.mem_map.1 hts
    have hp : "Self" ≠ "p" ++ toString (i + 1) := append_ne_self (by simp) _
    simp only [paramTokens, Tokens.words_append, Tokens.words_cons, Token.words_ofWord,
      Token.words_ofOperator, Tokens.words_nil, List.append_nil, List.mem_append,
      List.mem_singleton] at hw
    exact hw.elim hp (hP i)
  have houtput : "Self" ∈ Tokens.words (f.spelled rt).output ↔
      "Self" ∈ Tokens.words rt.tokens ∨ .word "Self" ∈ f.subject.mentions false ∨
        .word "Self" ∈ Ty.mentionsList false f.components := by
    have hname : "Self" ≠ "Pattern" ++ toString f.arity := append_ne_self (by simp) _
    have hPs : "Self" ∉ (List.range f.arity).map fun i => "P" ++ toString (i + 1) := by
      rintro h
      obtain ⟨i, -, hi⟩ := List.mem_map.1 h
      exact hP i hi.symm
    rw [spelled_output, ← Ty.listTokens_eq_map]
    simp only [Tokens.words_append, words_runtimeTokens, Token.words_ofOperator, List.append_nil,
      List.mem_append, List.mem_singleton, mem_words_commaBehindEach, mem_words_wordList,
      Ty.self_mem_words, Ty.self_mem_words_list, hname, hPs, or_false, or_assoc]
  have hpredicates : "Self" ∈ Tokens.words
        (f.generics.predicates.map WherePredicate.tokens).flatten ↔
      .word "Self" ∈ WherePredicate.mentionsList false f.generics.predicates := by
    rw [mem_words_flatten, ← WherePredicate.listTokens_eq_map, WherePredicate.self_mem_words_list]
  -- What ties a pattern to its component has nothing that the returned type has not.
  have hties (h : "Self" ∈ Tokens.words (f.components.mapIdx fun i c =>
      tieTokens rt ("P" ++ toString (i + 1)) c).flatten) :
      "Self" ∈ Tokens.words (f.spelled rt).output := by
    obtain ⟨ts, hts, hw⟩ := mem_words_flatten.1 h
    obtain ⟨i, hi, rfl⟩ := List.mem_mapIdx.1 hts
    simp only [tieTokens, Tokens.words_append, Tokens.words_cons, Token.words_ofWord,
      Token.words_ofOperator, words_runtimeTokens, List.append_nil, List.mem_append,
      List.mem_singleton, hP i, false_or] at hw
    rw [houtput]
    obtain (hw | hw) | hw := hw
    · exact .inl hw
    · simp at hw
    · refine .inr (.inr (Ty.self_mem_words_list _ |>.1 ⟨_, ?_, hw⟩))
      rw [Ty.listTokens_eq_map]
      exact List.mem_map_of_mem (List.getElem_mem hi)
  rw [typeTokens, spelled_conditions]
  simp only [Tokens.words_append, List.flatten_append, List.mem_append, hgenerics, hparams,
    hpredicates, mentions, Ty.self_mem_words]
  grind

end Factory

namespace Declaration

variable {d : Declaration} {m : Method}

/-- An extractor of an impl block whose type is free of `Self` has a factory if it violates no rule,
and `Self` is left in the types of the factory just if the path of the runtime has it or the search
for `Self` leaves one in what the factory takes over. -/
theorem self_in_factory_iff {limit : Nat} {selfTy : Ty} {generics : Generics} (rt : Path)
    (hkind : d.kind = .impl selfTy generics) (hself : "Self" ∉ Tokens.words selfTy.tokens)
    (hm : m ∈ d.extractors) (hv : m.violations limit = []) :
    ∃ f ∈ d.factories, d.factory? (factoryName d.extractorNames m.name) m = some f ∧
      ("Self" ∈ Tokens.words (f.typeTokens rt) ↔
        "Self" ∈ Tokens.words rt.tokens ∨ .word "Self" ∈ d.mentions m) := by
  obtain ⟨param, components, hparam, hcomponents, -⟩ := Method.exists_of_violations_eq_nil hv
  have hfactory := d.factory?_eq_some hparam hcomponents
  refine ⟨d.factoryOf m param components, List.mem_filterMap.2 ⟨m, hm, hfactory⟩, hfactory, ?_⟩
  have hfree : .word "Self" ∉ selfTy.mentions false := by rwa [← Ty.self_mem_words]
  have htracks : d.kind.Tracks (.word "Self") := by
    rw [hkind]
    constructor
    case ne_self => exact nofun
    case of_isSelf => rintro _ _ ⟨⟩; exact .inr hfree
    case of_subject => rintro _ _ ⟨⟩ h; exact absurd h hfree
  have harises : d.kind.Arises (.word "Self") (d.mentions m) ↔ .word "Self" ∈ d.mentions m := by
    rw [hkind]
    exact or_iff_left fun h => hfree h.2
  rw [Factory.self_mem_words_typeTokens, mem_mentions_factoryOf htracks hparam hcomponents, harises]

/-- A type path without arguments. -/
def plainPath (names : List String) : Ty := .path (.mk false (names.map fun n => .mk n .none))

/-- A block for the type `A` with an extractor `f` that has a parameter of the type `param` and one
component of the type `component`. -/
def selfBlock (param component : Ty) : Declaration where
  «namespace» := .root
  name := "A"
  kind := .impl (plainPath ["A"]) .none
  methods :=
    [{ item :=
        { attrs := []
          vis := .public
          isDefault := false
          sig :=
            { isConst := false
              isAsync := false
              isUnsafe := false
              abi := none
              name := "f"
              line := 1
              generics := .none
              params := [.typed [] (.tree .patIdent [.word "v"]) param]
              trailing := false
              variadic := none
              output := some (.path (.mk false [.mk "Option"
                (.angle false [.type (.tuple [component] true)] false)])) }
          statements := [] }
       isExtractor := true }]
  origin := default

/-- In `&Self` and in `Self::Item` all is replaced. -/
theorem self_in_factory_item :
    let d := selfBlock (.reference none false (plainPath ["Self"])) (plainPath ["Self", "Item"])
    let rt := Path.mk true [.mk "patgen" .none, .mk "runtime" .none]
    d.isEligible 8 = true ∧ ∃ f ∈ d.factories, "Self" ∉ Tokens.words (f.typeTokens rt) := by
  intro d rt
  have he : d.isEligible 8 = true := by decide
  obtain ⟨f, hf, -, hiff⟩ := self_in_factory_iff rt (d := d) (m := d.methods[0]) rfl (by decide)
    (.head _) (violations_eq_nil he (.head _))
  refine ⟨he, f, hf, fun h => ?_⟩
  obtain h | h := hiff.1 h
  · exact absurd h (by decide)
  · exact absurd h (by decide)

/-- The search stops at `Self::Item`, so the argument of `Self::Item<Self>` is left; and it does not
see the length of `[u8; Self::N]`. -/
theorem self_left_in_factory :
    let item : Ty := .path (.mk false [.mk "Self" .none,
      .mk "Item" (.angle false [.type (plainPath ["Self"])] false)])
    let length : Code := .tree .path [.path (.mk false [.mk "Self" .none, .mk "N" .none])]
    let d := selfBlock (.reference none false item) (.array (plainPath ["u8"]) length)
    (∃ selfTy g, d.kind = .impl selfTy g ∧ "Self" ∉ Tokens.words selfTy.tokens) ∧
      d.isEligible 8 = true ∧
      ∃ f, d.factories = [f] ∧ "Self" ∈ Tokens.words f.subject.tokens ∧
        ∀ c ∈ f.components, "Self" ∈ Tokens.words c.tokens := by
  intro item length d
  exact ⟨⟨plainPath ["A"], .none, rfl, by decide⟩, by decide, _, rfl, by decide, by decide⟩

end Declaration

end PatternFactory
