import PatternFactory.Declaration.Validation
import PatternFactory.Factory.Renderer
import PatternFactory.Proofs.Factories
import PatternFactory.Proofs.Places

/-!
# What a unit depends on

Nothing of a declaration matters for its unit but its namespace, its name, what it belongs to, and
the signatures of its extractors.  `Declaration.bare` keeps only these: the functions that are no
extractors are gone, and the others have neither attributes nor a body, no names of parameters, and
no places.  A declaration is judged, named and spelled out as its bare form is, so declarations of
one bare form have one unit.

If the extractors change places, then their factories do, and nothing else changes: the name of a
factory depends on the names of all extractors, but not on their order (`factoryName_perm`).
-/

namespace PatternFactory

/-! ### Bare declarations -/

namespace Generics

/-- Generic parameters and conditions without places. -/
def bare (g : Generics) : Generics :=
  .ofLists (GenericParam.unplacedList g.params) (WherePredicate.unplacedList g.predicates)

end Generics

namespace FnParam

/-- The parameter without its name. -/
def bare : FnParam → FnParam
  | receiver _ => receiver default
  | typed _ _ ty => typed [] default ty.unplaced

end FnParam

namespace FnItem

/-- The function without its attributes, its body, the names of its parameters, and the place where
it stands.  The type of each parameter stays, and so do the name, the visibility, the word `async`,
the generic parameters and the type that is returned. -/
def bare (f : FnItem) : FnItem where
  attrs := []
  vis := f.vis
  isDefault := false
  sig :=
    { isConst := false
      isAsync := f.sig.isAsync
      isUnsafe := false
      abi := none
      name := f.sig.name
      line := 0
      generics := f.sig.generics.bare
      params := f.sig.params.map FnParam.bare
      trailing := false
      variadic := none
      output := Ty.unplacedOption f.sig.output }
  statements := []

end FnItem

namespace DeclarationKind

/-- What a declaration belongs to, without places. -/
def bare : DeclarationKind → DeclarationKind
  | impl selfTy generics => impl selfTy.unplaced generics.bare
  | module name => module name

end DeclarationKind

/-- The function of a declaration in its bare form. -/
def Method.bare (m : Method) : Method := ⟨m.item.bare, m.isExtractor⟩

namespace Declaration

/-- The declaration without what its unit does not depend on. -/
def bare (d : Declaration) : Declaration where
  «namespace» := d.namespace
  name := d.name
  kind := d.kind.bare
  methods := d.extractors.map Method.bare
  origin := default

@[simp] theorem extractors_bare (d : Declaration) :
    d.bare.extractors = d.extractors.map Method.bare := by
  change (d.extractors.map Method.bare).filter Method.isExtractor = d.extractors.map Method.bare
  rw [List.filter_eq_self]
  intro m' hm'
  obtain ⟨m, hm, rfl⟩ := List.mem_map.1 hm'
  exact (List.mem_filter.1 hm).2

end Declaration

/-! ### Validation -/

namespace Ty

theorem isMutRef_unplaced (t : Ty) : t.unplaced.isMutRef = t.isMutRef := by
  cases t
  case reference lifetime isMut elem => cases isMut <;> rfl
  all_goals rfl

theorem optionArg?_unplaced (t : Ty) : t.unplaced.optionArg? = t.optionArg?.map unplaced := by
  cases t
  case path p =>
    obtain ⟨leading, segments⟩ := p
    simp only [unplaced, Path.unplaced, optionArg?, Path.segments, Segment.unplacedList_eq_map,
      List.getLast?_map]
    cases segments.getLast? with
    | none => rfl
    | some s =>
      obtain ⟨name, args⟩ := s
      by_cases hname : name = "Option"
      · subst hname
        -- The arguments are those of an `Option` if they are a single type.
        cases args with
        | none => rfl
        | paren => rfl
        | angle turbofish args trailing =>
          obtain _ | ⟨a, _ | ⟨b, rest⟩⟩ := args
          · rfl
          · cases a <;> rfl
          · cases a <;> rfl
      · simp [Segment.unplaced, hname]
  all_goals rfl

theorem tupleElems?_unplaced (t : Ty) :
    t.unplaced.tupleElems? = t.tupleElems?.map unplacedList := by
  cases t <;> rfl

end Ty

namespace Method

variable (m : Method)

theorem hasReceiver_bare : m.bare.hasReceiver = m.hasReceiver := by
  simp only [hasReceiver, bare, FnItem.bare, List.head?_map, Option.map_map]
  congr 2
  funext p
  cases p <;> rfl

theorem paramTypes_bare : m.bare.paramTypes = m.paramTypes.map Ty.unplaced := by
  simp only [paramTypes, bare, FnItem.bare, List.filterMap_map, List.map_filterMap]
  congr 1
  funext p
  cases p <;> rfl

theorem components?_bare : m.bare.components? = m.components?.map Ty.unplacedList := by
  simp only [components?, bare, FnItem.bare]
  cases m.item.sig.output with
  | none => rfl
  | some ty =>
    simp only [Ty.unplacedOption, Option.bind_eq_bind, Option.bind_some, Ty.optionArg?_unplaced]
    cases ty.optionArg? with
    | none => rfl
    | some inner => exact inner.tupleElems?_unplaced

/-- The rules look at the bare form only. -/
theorem violations_bare (limit : Nat) : m.bare.violations limit = m.violations limit := by
  have hreturn (limit : Nat) : m.bare.returnViolation limit = m.returnViolation limit := by
    simp only [returnViolation, components?_bare]
    cases m.components? with
    | none => rfl
    | some components => simp only [Option.map_some, Ty.length_unplacedList]
  have hmutable :
      (m.paramTypes.map Ty.unplaced).any Ty.isMutRef = m.paramTypes.any Ty.isMutRef := by
    rw [List.any_map]
    exact congrArg _ (funext Ty.isMutRef_unplaced)
  simp only [violations, hasReceiver_bare, paramTypes_bare, List.length_map, hmutable, hreturn]
  rfl

end Method

theorem Declaration.isEligible_bare (d : Declaration) (limit : Nat) :
    d.bare.isEligible limit = d.isEligible limit := by
  simp only [isEligible, extractors_bare, List.isEmpty_map, List.all_map]
  congr 2
  funext m
  simp only [Function.comp_apply, Method.violations_bare]

/-! ### Factories -/

theorem lifetimesFirst_unplaced (params : List GenericParam) :
    lifetimesFirst (params.map GenericParam.unplaced) =
      (lifetimesFirst params).map GenericParam.unplaced := by
  simp only [lifetimesFirst, List.filter_map, List.map_append, Function.comp_def,
    GenericParam.isLifetime_unplaced]

theorem Generics.merge_bare (a b : Generics) : a.bare.merge b.bare = (a.merge b).bare := by
  simp only [merge, bare, ofLists, GenericParam.unplacedList_eq_map,
    WherePredicate.unplacedList_eq_map, ← List.map_append, lifetimesFirst_unplaced]

namespace DeclarationKind

variable (k : DeclarationKind)

theorem generics_bare : k.bare.generics = k.generics.bare := by
  cases k <;> rfl

theorem resolve_unplaced (t : Ty) : k.bare.resolve t.unplaced = (k.resolve t).unplaced := by
  cases k with
  | impl self _ => exact (Ty.unplaced_replaceSelf t).symm
  | module _ => rfl

theorem resolveGenerics_bare (g : Generics) :
    k.bare.resolveGenerics g.bare = (k.resolveGenerics g).bare := by
  cases k with
  | impl self _ =>
    simp only [bare, resolveGenerics, Generics.resolveSelf, Generics.bare, Generics.ofLists,
      GenericParam.unplaced_replaceList, WherePredicate.unplaced_replaceList]
  | module _ => rfl

end DeclarationKind

theorem Ty.subject_unplaced (t : Ty) :
    t.unplaced.subject = (t.subject.1.unplaced, t.subject.2) := by
  cases t <;> rfl

namespace Factory

/-- The factory without places. -/
def bare (f : Factory) : Factory :=
  { f with
    kind := f.kind.bare
    generics := f.generics.bare
    subject := f.subject.unplaced
    components := f.components.map Ty.unplaced }

variable (rt : Path) (f : Factory)

theorem patternParams_bare : f.bare.patternParams = f.patternParams := by
  simp only [patternParams, arity, bare, List.length_map]

theorem genericTokens_bare : f.bare.genericTokens = f.genericTokens := by
  simp only [genericTokens, patternParams_bare]
  simp only [bare, Generics.bare, Generics.ofLists, GenericParam.listTokens_unplaced]

theorem whereTokens_bare : f.bare.whereTokens rt = f.whereTokens rt := by
  have hown : (f.bare.generics.predicates.map WherePredicate.tokens) =
      f.generics.predicates.map WherePredicate.tokens := by
    simp only [bare, Generics.bare, Generics.ofLists, WherePredicate.unplacedList_eq_map,
      List.map_map, Function.comp_def, WherePredicate.tokens_unplaced]
  have htie (p : String) (c : Ty) : tieTokens rt p c.unplaced = tieTokens rt p c := by
    rw [tieTokens, tieTokens, Ty.tokens_unplaced]
  simp only [whereTokens, hown, patternParams_bare]
  simp only [bare, List.zip_map_right, List.map_map, Function.comp_def, Prod.map, htie, id_eq]

theorem patternTokens_bare : f.bare.patternTokens rt = f.patternTokens rt := by
  simp only [patternTokens, patternParams_bare, patternType, arity]
  simp only [bare, Ty.tokens_unplaced, ← Ty.unplacedList_eq_map, Ty.listTokens_unplaced,
    Ty.length_unplacedList]

theorem bodyTokens_bare : f.bare.bodyTokens rt = f.bodyTokens rt := by
  have hcallee : f.bare.calleeTokens = f.calleeTokens := by
    cases h : f.kind <;>
      simp only [calleeTokens, bare, h, DeclarationKind.bare, Ty.tokens_unplaced]
  have hvalue : f.bare.valueTokens = f.valueTokens := rfl
  simp only [bodyTokens, closureTokens, hcallee, hvalue]
  simp only [patternType, args, arity, bare, Ty.tokens_unplaced, List.length_map]

/-- A factory is spelled without places. -/
theorem tokens_bare : f.bare.tokens rt = f.tokens rt := by
  simp only [tokens, genericTokens_bare, patternTokens_bare, whereTokens_bare, bodyTokens_bare,
    patternParams_bare]
  simp only [args, arity, bare, List.length_map]

end Factory

namespace Declaration

variable (d : Declaration)

/-- The factory for an extractor depends on the bare form of both. -/
theorem factory?_bare (name : String) (m : Method) :
    d.bare.factory? name m.bare = (d.factory? name m).map Factory.bare := by
  have hgenerics : d.bare.kind.resolveGenerics
        (d.bare.kind.generics.merge m.bare.item.sig.generics) =
      (d.kind.resolveGenerics (d.kind.generics.merge m.item.sig.generics)).bare := by
    rw [← DeclarationKind.resolveGenerics_bare, ← Generics.merge_bare,
      ← DeclarationKind.generics_bare]
    rfl
  have hcomponents : (m.bare.components?.getD []).map d.bare.kind.resolve =
      ((m.components?.getD []).map d.kind.resolve).map Ty.unplaced := by
    have hresolve : d.bare.kind.resolve ∘ Ty.unplaced = Ty.unplaced ∘ d.kind.resolve :=
      funext d.kind.resolve_unplaced
    rw [m.components?_bare]
    cases m.components? with
    | none => rfl
    | some components =>
      rw [Option.map_some, Option.getD_some, Option.getD_some, Ty.unplacedList_eq_map,
        List.map_map, List.map_map, hresolve]
  have hsubject (param : Ty) : (d.bare.kind.resolve param.unplaced).subject =
      ((d.kind.resolve param).subject.1.unplaced, (d.kind.resolve param).subject.2) := by
    rw [← Ty.subject_unplaced, ← d.kind.resolve_unplaced]
    rfl
  simp only [factory?, hgenerics, hcomponents, m.paramTypes_bare, List.head?_map, Option.map_map]
  congr 1
  funext param
  simp only [Function.comp_apply, hsubject]
  rfl

theorem extractorNames_bare : d.bare.extractorNames = d.extractorNames := by
  simp only [extractorNames, extractors_bare, List.map_map]
  rfl

theorem factories_bare : d.bare.factories = d.factories.map Factory.bare := by
  simp only [factories, extractorNames_bare, extractors_bare, List.filterMap_map,
    List.map_filterMap]
  congr 1
  funext m
  exact d.factory?_bare _ m

theorem unitTokens_bare (rt : Path) (name : String) :
    d.bare.unitTokens rt name = d.unitTokens rt name := by
  simp only [unitTokens, factories_bare, List.flatMap_map, Factory.tokens_bare]
  rfl

end Declaration

/-- The text of a unit depends on the bare form of the declaration. -/
theorem Renderer.standard_bare (rt : Path) (name : String) (d : Declaration) :
    standard rt name d.bare = standard rt name d := by
  simp only [standard, Declaration.unitItems?, Declaration.unitTokens_bare]

/-! ### The order of the extractors -/

/-- The name of a factory does not depend on the order of the extractors. -/
theorem factoryName_perm {all all' : List String} (h : all.Perm all') (name : String) :
    factoryName all name = factoryName all' name := by
  cases hshort : shortName? name with
  | none => simp only [factoryName, hshort]
  | some short => simp only [factoryName, hshort, h.countP_eq, h.contains_eq]

theorem Declaration.isEligible_perm {c d : Declaration} (h : c.extractors.Perm d.extractors)
    (limit : Nat) : c.isEligible limit = d.isEligible limit := by
  rw [isEligible, isEligible, h.isEmpty_eq, h.all_eq]

/-! ### Edits of marked items -/

namespace MarkedDeclaration

/-- The functions of the item that are marked as extractors, in their bare form. -/
def signatures (m : Markers) (a : MarkedDeclaration) : List FnItem :=
  (a.item.functions.filter fun f => m.onExtractor f.attrs).map FnItem.bare

/-- The declarations have one namespace and one name, and belong to the same. -/
structure SameHeader (a b : MarkedDeclaration) : Prop where
  «namespace» : a.namespace = b.namespace
  name : a.nameOverride.getD a.item.declaredName = b.nameOverride.getD b.item.declaredName
  kind : a.item.kind.bare = b.item.kind.bare

/-- The name and the tokens of the factory for an extractor of the given signature. -/
def factory? (m : Markers) (rt : Path) (a : MarkedDeclaration) (f : FnItem) :
    Option (String × List Token) :=
  let d := (a.declaration m).bare
  (d.factory? (factoryName d.extractorNames f.sig.name) ⟨f, true⟩).map fun f =>
    (f.name, f.tokens rt)

variable (m : Markers) (rt : Path) (a : MarkedDeclaration)

theorem extractors_bare_declaration :
    (a.declaration m).bare.extractors = (a.signatures m).map (⟨·, true⟩) := by
  rw [Declaration.extractors_bare, Declaration.extractors, declaration, List.filter_map,
    List.map_map, signatures, List.map_map]
  refine List.map_congr_left fun f hf => ?_
  exact congrArg (Method.mk f.bare) (List.mem_filter.1 hf).2

/-- The factories of a declaration, one for each extractor. -/
theorem factories_declaration :
    (a.declaration m).factories.map (fun f => (f.name, f.tokens rt)) =
      (a.signatures m).filterMap (a.factory? m rt) := by
  have hbare : (a.declaration m).bare.factories.map (fun f => (f.name, f.tokens rt)) =
      (a.declaration m).factories.map fun f => (f.name, f.tokens rt) := by
    simp only [Declaration.factories_bare, List.map_map, Function.comp_def, Factory.tokens_bare]
    rfl
  rw [← hbare, Declaration.factories, extractors_bare_declaration, List.map_filterMap,
    List.filterMap_map]
  rfl

/-- Each extractor of an eligible declaration has a factory. -/
theorem isSome_factory? {limit : Nat} (h : (a.declaration m).isEligible limit = true) {f : FnItem}
    (hf : f ∈ a.signatures m) : (a.factory? m rt f).isSome := by
  have hmem : (⟨f, true⟩ : Method) ∈ (a.declaration m).bare.extractors := by
    rw [extractors_bare_declaration]
    exact List.mem_map_of_mem hf
  rw [← Declaration.isEligible_bare] at h
  obtain ⟨param, components, hparam, -, -⟩ :=
    Method.exists_of_violations_eq_nil (Declaration.violations_eq_nil h hmem)
  rw [factory?, Declaration.factory?, hparam]
  rfl

section

variable {m a} {b : MarkedDeclaration} (h : a.SameHeader b)

include h

theorem SameHeader.bare_eq (hs : a.signatures m = b.signatures m) :
    (a.declaration m).bare = (b.declaration m).bare := by
  have hmethods : (a.declaration m).bare.methods = (b.declaration m).bare.methods := by
    change (a.declaration m).extractors.map Method.bare =
      (b.declaration m).extractors.map Method.bare
    rw [← Declaration.extractors_bare, ← Declaration.extractors_bare, extractors_bare_declaration,
      extractors_bare_declaration, hs]
  exact (Declaration.mk.injEq ..).mpr ⟨h.namespace, h.name, h.kind, hmethods, rfl⟩

theorem SameHeader.factory?_eq (hs : (a.signatures m).Perm (b.signatures m)) :
    a.factory? m rt = b.factory? m rt := by
  have hnames : (a.declaration m).bare.extractorNames.Perm
      (b.declaration m).bare.extractorNames := by
    rw [Declaration.extractorNames, Declaration.extractorNames, extractors_bare_declaration,
      extractors_bare_declaration]
    exact (hs.map _).map _
  have hkind : (a.declaration m).bare.kind = (b.declaration m).bare.kind := h.kind
  have hname : (a.declaration m).bare.name = (b.declaration m).bare.name := h.name
  funext f
  simp only [factory?, factoryName_perm hnames, Declaration.factory?, hkind, hname]

theorem SameHeader.displayName_eq :
    (a.declaration m).displayName = (b.declaration m).displayName := by
  have hnamespace : (a.declaration m).namespace = (b.declaration m).namespace := h.namespace
  have hname : (a.declaration m).name = (b.declaration m).name := h.name
  rw [Declaration.displayName, Declaration.displayName, hnamespace, hname]

end

/-- Declarations with one header and the same signatures of extractors, attributes and the names of
parameters apart, are judged alike and have one unit.  If the signatures are the same up to their
order, then so are the factories: each belongs to its signature, and with the signatures it changes
places between the other tokens of the unit, which stay. -/
theorem unit_of_signatures (m : Markers) (limit : Nat) (suffix name : String) (rt : Path)
    (a b : MarkedDeclaration) (h : a.SameHeader b) :
    let c := a.declaration m
    let d := b.declaration m
    (a.signatures m = b.signatures m →
      c.isEligible limit = d.isEligible limit ∧
      c.extractors.map (fun e => (e.name, e.violations limit)) =
        d.extractors.map (fun e => (e.name, e.violations limit)) ∧
      c.unitName suffix = d.unitName suffix ∧
      Renderer.standard rt name c = Renderer.standard rt name d) ∧
    ((a.signatures m).Perm (b.signatures m) →
      c.isEligible limit = d.isEligible limit ∧
      c.unitName suffix = d.unitName suffix ∧
      ∃ (factory : FnItem → Option (String × List Token)) (front : List Token),
        (c.isEligible limit = true → ∀ f ∈ a.signatures m, (factory f).isSome) ∧
        ∀ e ∈ [a, b],
          (e.declaration m).factories.map (fun f => (f.name, f.tokens rt)) =
            (e.signatures m).filterMap factory ∧
          (e.declaration m).unitTokens rt name = front
            ++ [.ofGroup .brace (((e.signatures m).filterMap factory).flatMap Prod.snd)]) := by
  intro c d
  have hunitName : c.unitName suffix = d.unitName suffix := by
    simp only [c, d, Declaration.unitName, declaration, h.namespace, h.name]
  constructor
  · intro hs
    have hbare : c.bare = d.bare := h.bare_eq hs
    have hviolations (e : Declaration) :
        e.bare.extractors.map (fun e => (e.name, e.violations limit)) =
          e.extractors.map fun e => (e.name, e.violations limit) := by
      simp only [Declaration.extractors_bare, List.map_map, Function.comp_def,
        Method.violations_bare]
      rfl
    refine ⟨?eligible, ?violations, hunitName, ?text⟩
    case eligible => rw [← c.isEligible_bare, hbare, d.isEligible_bare]
    case violations => rw [← hviolations c, hbare, hviolations d]
    case text => rw [← Renderer.standard_bare, hbare, Renderer.standard_bare]
  · intro hs
    refine ⟨?eligible, hunitName, a.factory? m rt,
      commentTokens (" Pattern factories for `" ++ c.displayName ++ "`.")
        ++ [.ofWord "pub", .ofWord "struct", .ofWord name] ++ Token.ofOperator ";"
        ++ [.ofWord "impl", .ofWord name], fun he f hf => isSome_factory? m rt a he hf, ?factories⟩
    case eligible =>
      rw [← c.isEligible_bare, ← d.isEligible_bare]
      refine Declaration.isEligible_perm ?_ limit
      rw [extractors_bare_declaration, extractors_bare_declaration]
      exact hs.map _
    case factories =>
      have hunit (e : MarkedDeclaration) (he : a.SameHeader e)
          (hs : (a.signatures m).Perm (e.signatures m)) :
          (e.declaration m).factories.map (fun f => (f.name, f.tokens rt)) =
              (e.signatures m).filterMap (a.factory? m rt) ∧
            (e.declaration m).unitTokens rt name = commentTokens
                (" Pattern factories for `" ++ c.displayName ++ "`.")
              ++ [.ofWord "pub", .ofWord "struct", .ofWord name] ++ Token.ofOperator ";"
              ++ [.ofWord "impl", .ofWord name] ++ [.ofGroup .brace
                (((e.signatures m).filterMap (a.factory? m rt)).flatMap Prod.snd)] := by
        rw [he.factory?_eq rt hs, he.displayName_eq, ← factories_declaration]
        refine ⟨rfl, ?_⟩
        rw [Declaration.unitTokens, List.flatMap_map, List.append_assoc, List.append_assoc]
        rfl
      rw [List.forall_mem_cons, List.forall_mem_singleton]
      exact ⟨hunit a ⟨rfl, rfl, rfl⟩ (.refl _), hunit b h hs⟩

/-- A function `fn name(param: &Self) -> Option<(u8,)>`. -/
def coordinateFn (attrs : List Attr) (name param : String) (line : Nat) : FnItem where
  attrs := attrs
  vis := .public
  isDefault := false
  sig :=
    { isConst := false
      isAsync := false
      isUnsafe := false
      abi := none
      name := name
      line := line
      generics := .none
      params := [.typed [] (.tree .patIdent [.word param])
        (.reference none false (.path (.mk false [.mk "Self" .none])))]
      trailing := false
      variadic := none
      output := some (.path (.mk false [.mk "Option"
        (.angle false [.type (.tuple [.path (.mk false [.mk "u8" .none])] true)] false)])) }
  statements := []

/-- A block `impl Point` with the functions. -/
def pointBlock (origin : Origin) (functions : List FnItem) : MarkedDeclaration where
  «namespace» := .root
  item := .impl
    { attrs := []
      isDefault := false
      isUnsafe := false
      line := origin.line
      generics := .none
      isNegative := false
      ofTrait := none
      selfTy := .path (.mk false [.mk "Point" .none])
      members := functions.map .fn }
  origin := origin
  nameOverride := none

/-- The unit of a point stays if another function comes first, with other attributes and names; and
if its extractors are swapped then so are its factories. -/
theorem unit_of_signatures_point :
    let m : Markers := ⟨"pattern", "unapply"⟩
    let rt : Path := .mk true [.mk "patgen" .none, .mk "runtime" .none]
    let mark : Attr := ⟨false, .path ⟨false, ["unapply"]⟩, default⟩
    let inline : Attr := ⟨false, .path ⟨false, ["inline"]⟩, default⟩
    let x := coordinateFn [mark] "unapply_x" "v" 2
    let y := coordinateFn [mark] "unapply_y" "v" 3
    let a := pointBlock ⟨⟨"point.rs"⟩, 1⟩ [x, y]
    let edited := pointBlock ⟨⟨"shape.rs"⟩, 6⟩ [coordinateFn [inline] "new" "v" 7,
      coordinateFn [inline, mark] "unapply_x" "point" 8, y]
    let swapped := pointBlock ⟨⟨"point.rs"⟩, 1⟩ [y, x]
    let named (e : MarkedDeclaration) :=
      (e.declaration m).factories.map fun f => (f.name, f.tokens rt)
    a.SameHeader edited ∧ a.SameHeader swapped ∧
      (a.declaration m).isEligible 8 = true ∧ (edited.declaration m).isEligible 8 = true ∧
      Renderer.standard rt "PointPatterns" (a.declaration m) =
        Renderer.standard rt "PointPatterns" (edited.declaration m) ∧
      ∃ fx fy, named a = [fx, fy] ∧ named swapped = [fy, fx] := by
  intro m rt mark inline x y a edited swapped named
  have hedited : a.SameHeader edited := ⟨rfl, rfl, rfl⟩
  have hswapped : a.SameHeader swapped := ⟨rfl, rfl, rfl⟩
  have heligible : (a.declaration m).isEligible 8 = true := by decide
  obtain ⟨hsame, -, -, htext⟩ :=
    (unit_of_signatures m 8 "Patterns" "PointPatterns" rt a edited hedited).1 rfl
  obtain ⟨-, -, factory, front, hsome, hunits⟩ :=
    (unit_of_signatures m 8 "Patterns" "PointPatterns" rt a swapped hswapped).2 (.swap _ _ _)
  refine ⟨hedited, hswapped, heligible, hsame ▸ heligible, htext, ?_⟩
  obtain ⟨fx, hx⟩ := Option.isSome_iff_exists.1 (hsome heligible x.bare (.head _))
  obtain ⟨fy, hy⟩ := Option.isSome_iff_exists.1 (hsome heligible y.bare (.tail _ (.head _)))
  refine ⟨fx, fy, (hunits a (.head _)).1.trans ?_, (hunits swapped (.tail _ (.head _))).1.trans ?_⟩
  · change [x.bare, y.bare].filterMap factory = _
    simp only [List.filterMap_cons, hx, hy, List.filterMap_nil]
  · change [y.bare, x.bare].filterMap factory = _
    simp only [List.filterMap_cons, hx, hy, List.filterMap_nil]

end MarkedDeclaration

end PatternFactory
