import PatternFactory.Proofs.SelfResolution

/-!
# Hygiene of factories

A factory has the generic parameters of the declaration and of the extractor, and behind them
parameters `P1`, `P2` and so on for its patterns.  The names of these are made up without a look at
the program.  Other names are never changed, so the names of a factory clash, or a type of the
program gets another meaning in a factory, just if the program has such a name itself: as a generic
parameter, or as a type that the factory takes over, be it only through the type that `Self` stands
for (`Declaration.hygienic_iff`).
-/

namespace PatternFactory

/-- The name that a generic parameter binds.  Lifetimes have names of their own, with a tick. -/
def GenericParam.binds : GenericParam → String
  | lifetime p => "'" ++ p.name
  | type _ name _ _ _ => Mention.plainName name
  | const _ name _ _ => Mention.plainName name

/-- Replacing `Self` keeps the names. -/
theorem DeclarationKind.binds_resolveParam (k : DeclarationKind) (p : GenericParam) :
    (k.resolveParam p).binds = p.binds := by
  cases k
  case impl =>
    cases p
    case lifetime p => cases p; rfl
    all_goals rfl
  case module => rfl

namespace Factory

variable (f : Factory)

/-- The names of all generic parameters, in the order in which they are spelled. -/
def names : List String := f.generics.params.map GenericParam.binds ++ f.patternParams

/-- The generic parameters have names of their own, and those for the patterns stand for nothing
else that the factory mentions. -/
structure Hygienic : Prop where
  nodup : f.names.Nodup
  fresh : ∀ p ∈ f.patternParams, p ∉ f.generics.params.map GenericParam.binds
  uncaptured : ∀ p ∈ f.patternParams, .type p ∉ f.mentions

end Factory

/-- The parameters for the patterns have names of their own. -/
theorem nodup_numbered : ∀ n ≤ maxArity, (Factory.numbered "P" n).Nodup := by
  decide +kernel

/-- A type mentions the same types in front of a reference and behind it. -/
theorem Ty.type_mem_mentions_subject {name : String} {searched : Bool} {t : Ty} :
    .type name ∈ t.subject.1.mentions searched ↔ .type name ∈ t.mentions searched := by
  cases t
  case reference lifetime isMut elem => simp [subject, mentions]
  all_goals rfl

/-- A name that is not `Self` can be told from `Self`. -/
theorem DeclarationKind.tracks_type {k : DeclarationKind} {name : String} (h : "Self" ≠ name) :
    k.Tracks (.type name) where
  ne_self := nofun
  of_isSelf selfTy _ _ := by
    rw [← Bool.not_eq_true, ← not_and_or]
    rintro ⟨hself, hname⟩
    rw [Ty.isSelf_eq_true_iff.1 hself] at hname
    have hmentions : Ty.mentions false (.path (.mk false [.mk "Self" .none])) =
        [.type "Self", .word "Self"] := by decide
    simp [hmentions, h.symm] at hname
  of_subject _ _ _ := Ty.type_mem_mentions_subject.2

namespace Declaration

variable {d : Declaration} {m : Method}

/-- The names of the generic parameters of the declaration and of the extractor. -/
def ownNames (d : Declaration) (m : Method) : List String :=
  (d.kind.generics.params ++ m.item.sig.generics.params).map GenericParam.binds

theorem binds_factoryOf (param : Ty) (components : List Ty) :
    ((d.factoryOf m param components).generics.params.map GenericParam.binds).Perm
      (d.ownNames m) := by
  have hbinds : GenericParam.binds ∘ d.kind.resolveParam = GenericParam.binds :=
    funext d.kind.binds_resolveParam
  rw [factoryOf_params, List.map_map, hbinds, ownNames]
  exact (List.filter_append_perm _ _).map _

/-- For each extractor of an eligible declaration there is a factory with the generic parameters of
both and one more for each component.  If the former have names of their own, then the factory is
hygienic just if none of the names for the patterns is among them, or is the name of a type that
the factory takes over. -/
theorem hygienic_iff {limit : Nat} (he : d.isEligible limit = true) (hm : m ∈ d.extractors)
    (hnames : (d.ownNames m).Nodup) :
    ∃ f ∈ d.factories, d.factory? (factoryName d.extractorNames m.name) m = some f ∧
      (∃ components, m.components? = some components ∧
        f.patternParams = Factory.numbered "P" components.length) ∧
      f.names.Perm (d.ownNames m ++ f.patternParams) ∧
      (f.Hygienic ↔
        ∀ p ∈ f.patternParams, p ∉ d.ownNames m ∧ ¬ d.kind.Arises (.type p) (d.mentions m)) := by
  obtain ⟨param, components, hparam, hcomponents, hle⟩ :=
    Method.exists_of_violations_eq_nil (violations_eq_nil he hm)
  have hfactory := d.factory?_eq_some hparam hcomponents
  have hown := d.binds_factoryOf (m := m) param components
  have hparams : (d.factoryOf m param components).patternParams =
      Factory.numbered "P" components.length := by
    simp only [Factory.patternParams, Factory.arity, factoryOf, List.length_map]
  have hnodup : (d.factoryOf m param components).patternParams.Nodup := by
    rw [hparams]
    exact nodup_numbered _ (Nat.le_trans hle (Nat.min_le_right _ _))
  refine ⟨_, List.mem_filterMap.2 ⟨m, hm, hfactory⟩, hfactory, ⟨components, hcomponents, hparams⟩,
    hown.append_right _, ?_⟩
  have hmentions {p : String} (hp : p ∈ (d.factoryOf m param components).patternParams) :
      .type p ∈ (d.factoryOf m param components).mentions ↔
        d.kind.Arises (.type p) (d.mentions m) := by
    obtain ⟨i, -, rfl⟩ := List.mem_map.1 hp
    exact mem_mentions_factoryOf (DeclarationKind.tracks_type (append_ne_self (by simp) _)) hparam
      hcomponents
  constructor
  · rintro ⟨-, hfresh, huncaptured⟩ p hp
    exact ⟨fun h => hfresh p hp (hown.mem_iff.2 h), fun h => huncaptured p hp ((hmentions hp).2 h)⟩
  · intro h
    have hfresh p hp : p ∉ (d.factoryOf m param components).generics.params.map
        GenericParam.binds := fun hmem => (h p hp).1 (hown.mem_iff.1 hmem)
    refine ⟨?nodup, hfresh, fun p hp hmem => (h p hp).2 ((hmentions hp).1 hmem)⟩
    case nodup =>
      refine List.nodup_append.2 ⟨hown.nodup_iff.2 hnames, hnodup, ?_⟩
      rintro p hbinds q hp rfl
      exact hfresh p hp hbinds

/-- A block for the type `Pair<name>` with the generic parameter `name`, and an extractor of one
component. -/
def genericBlock (name : String) (component : Ty) : Declaration :=
  let param : GenericParam := .type [] name [] false none
  let pair : Ty := .path (.mk false [.mk "Pair" (.angle false [.type (plainPath [name])] false)])
  { selfBlock (.reference none false (plainPath ["Self"])) component with
    kind := .impl pair (.ofLists [param] []) }

/-- A parameter `T` does not get in the way of the pattern's. -/
theorem hygienic_pair :
    let d := genericBlock "T" (plainPath ["T"])
    d.isEligible 8 = true ∧ ∃ f ∈ d.factories, f.patternParams = ["P1"] ∧ f.Hygienic := by
  intro d
  have he : d.isEligible 8 = true := by decide
  obtain ⟨f, hf, -, ⟨components, hcomponents, hparams⟩, -, hiff⟩ :=
    hygienic_iff (d := d) (m := d.methods[0]) he (.head _) (by decide)
  obtain rfl : [plainPath ["T"]] = components := Option.some.inj hcomponents
  refine ⟨he, f, hf, hparams, hiff.2 fun p hp => ?_⟩
  rw [hparams] at hp
  obtain rfl : p = "P1" := List.mem_singleton.1 hp
  exact ⟨by decide, by decide⟩

/-- A parameter `P1` of the program is declared twice by the factory; and a type `P1` of the program
is no longer meant where it is written. -/
theorem unhygienic_pair :
    let d := genericBlock "P1" (plainPath ["u8"])
    let d' := genericBlock "T" (plainPath ["P1"])
    (d.isEligible 8 = true ∧ (∀ m ∈ d.extractors, (d.ownNames m).Nodup) ∧
      ∃ f, d.factories = [f] ∧ f.names = ["P1", "P1"]) ∧
    d'.isEligible 8 = true ∧ (∀ m ∈ d'.extractors, (d'.ownNames m).Nodup) ∧
      ∃ f, d'.factories = [f] ∧ f.names = ["T", "P1"] ∧ f.components = [plainPath ["P1"]] ∧
        .type "P1" ∈ f.mentions := by
  intro d d'
  exact ⟨⟨by decide, by decide, _, rfl, by decide⟩, by decide, by decide, _, rfl, by decide, rfl,
    by decide⟩

end Declaration

end PatternFactory
