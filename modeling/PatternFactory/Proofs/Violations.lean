import PatternFactory.Proofs.Locality
import Mathlib.Data.List.Sort

/-!
# What violates a rule

`Method.Violates` says of each rule when an extractor violates it.  The violations of an extractor
are these rules in the order of `Rule.rank` (`Method.mem_violations`, `Method.pairwise_violations`),
so they are the same for two extractors that violate the same rules (`Method.violations_eq_iff`).

The rules look at a signature as it is spelled, before the type of the block is put in the place of
`Self`.  `DeclarationKind.meaning` is what a type says however it is spelled, and one signature
respells another if both say the same (`Method.Respells`).  Then they violate the same rules, but
for three: parentheses around a type and `Self` hide a mutable reference and an `Option`, and
`pub(self)` counts as a visibility.  Signatures that show what they say are judged alike
(`Method.violations_of_respells`).
-/

namespace PatternFactory

namespace Rule

/-- The place of the rule among the rules.  Those on the type that is returned share one, since one
rules out the other. -/
def rank : Rule → Nat
  | instanceBound => 0
  | wrongArity _ => 1
  | mutableParameter => 2
  | returnShape => 3
  | arityTooWide _ _ => 3
  | notAccessible => 4
  | async => 5

end Rule

theorem mem_violationIf {violated : Bool} {r rule : Rule} :
    r ∈ violationIf violated rule ↔ violated = true ∧ r = rule := by
  cases violated <;> simp [violationIf]

theorem violationIf_sublist (violated : Bool) (r : Rule) :
    (violationIf violated r).Sublist [r] := by
  cases violated <;> simp [violationIf]

namespace Method

/-! ### The rules that are violated -/

/-- Does the function violate the rule as an extractor? -/
def Violates (m : Method) (arityLimit : Nat) : Rule → Prop
  | .instanceBound => m.hasReceiver = true
  | .wrongArity found => m.paramTypes.length = found ∧ found ≠ 1
  | .mutableParameter => ∃ t ∈ m.paramTypes, t.isMutRef = true
  | .returnShape => m.components? = none
  | .arityTooWide width limit =>
    m.components?.map List.length = some width ∧ limit = min arityLimit maxArity ∧ limit < width
  | .notAccessible => m.item.vis = .inherited
  | .async => m.item.sig.isAsync = true

variable {m m' : Method} {limit : Nat}

theorem mem_returnViolation {r : Rule} :
    r ∈ m.returnViolation limit ↔ m.components? = none ∧ r = .returnShape ∨
      ∃ components, m.components? = some components ∧ limit < components.length ∧
        r = .arityTooWide components.length limit := by
  unfold returnViolation
  cases m.components? with
  | none => simp
  | some components => simp [mem_violationIf]

theorem mem_violations {r : Rule} : r ∈ m.violations limit ↔ m.Violates limit r := by
  simp only [violations, List.mem_append, mem_violationIf, mem_returnViolation, decide_eq_true_eq,
    List.any_eq_true]
  cases r with
  | wrongArity found =>
    simp only [Violates, reduceCtorEq, Rule.wrongArity.injEq, and_false, exists_false, or_false,
      false_or]
    exact ⟨fun ⟨h, he⟩ => ⟨he.symm, he ▸ h⟩, fun ⟨he, h⟩ => ⟨he ▸ h, he.symm⟩⟩
  | arityTooWide width bound =>
    simp only [Violates, reduceCtorEq, Rule.arityTooWide.injEq, and_false, or_false, false_or,
      Option.map_eq_some_iff]
    constructor
    · rintro ⟨components, hc, hlt, rfl, rfl⟩
      exact ⟨⟨components, hc, rfl⟩, rfl, hlt⟩
    · rintro ⟨⟨components, hc, rfl⟩, rfl, hlt⟩
      exact ⟨components, hc, hlt, rfl, rfl⟩
  | _ => simp [Violates]

/-- The violated rules come in the order of the rules, and none twice. -/
theorem pairwise_violations (m : Method) (limit : Nat) :
    (m.violations limit).Pairwise fun r r' => r.rank < r'.rank := by
  have hreturn : ∃ r, (r = .returnShape ∨ ∃ width bound, r = .arityTooWide width bound) ∧
      (m.returnViolation (min limit maxArity)).Sublist [r] := by
    unfold returnViolation
    cases m.components? with
    | none => exact ⟨_, .inl rfl, .refl _⟩
    | some components => exact ⟨_, .inr ⟨_, _, rfl⟩, violationIf_sublist _ _⟩
  obtain ⟨r, hr, hsub⟩ := hreturn
  have hall : (m.violations limit).Sublist
      [.instanceBound, .wrongArity m.paramTypes.length, .mutableParameter, r, .notAccessible,
        .async] :=
    (((((violationIf_sublist _ _).append (violationIf_sublist _ _)).append
      (violationIf_sublist _ _)).append hsub).append (violationIf_sublist _ _)).append
        (violationIf_sublist _ _)
  refine .sublist hall ?_
  obtain rfl | ⟨width, bound, rfl⟩ := hr
  · simp [Rule.rank]
  · simp [Rule.rank]

/-- The violated rules, in the order of the rules, are the violations. -/
theorem eq_violations {rules : List Rule} (hmem : ∀ r, r ∈ rules ↔ m.Violates limit r)
    (hrank : rules.Pairwise fun r r' => r.rank < r'.rank) : rules = m.violations limit := by
  have : Std.Irrefl fun r r' : Rule => r.rank < r'.rank := ⟨fun r => Nat.lt_irrefl r.rank⟩
  have : Std.Antisymm fun r r' : Rule => r.rank < r'.rank :=
    ⟨fun _ _ h h' => absurd h' (Nat.lt_asymm h)⟩
  exact hrank.eq_of_mem_iff (m.pairwise_violations limit) fun r =>
    (hmem r).trans mem_violations.symm

theorem violations_eq_iff :
    m.violations limit = m'.violations limit ↔
      ∀ r, m.Violates limit r ↔ m'.Violates limit r := by
  constructor
  · intro h r
    rw [← mem_violations, ← mem_violations, h]
  · intro h
    exact eq_violations (fun r => mem_violations.trans (h r)) (m.pairwise_violations limit)

end Method

/-! ### What a signature says -/

namespace Ty

/-- The type inside of the parentheses around it. -/
def unparenthesized : Ty → Ty
  | paren elem => elem.unparenthesized
  | t => t

/-- Is the type a path that begins with `Self`? -/
def beginsWithSelf : Ty → Bool
  | path (.mk _ (.mk "Self" _ :: _)) => true
  | _ => false

/-- Is the type neither in parentheses nor a path that begins with `Self`? -/
def isPlain : Ty → Bool
  | paren _ => false
  | t => !t.beginsWithSelf

/-- The last segment of a path type, be it behind a type in angle brackets. -/
def lastSegment? : Ty → Option Segment
  | path p => p.segments.getLast?
  | qualified _ _ rest => rest.getLast?
  | _ => none

end Ty

/-- The number of elements, if the segment is an `Option` of a tuple. -/
def Segment.optionWidth? : Segment → Option Nat
  | mk "Option" (.angle _ [.type (.tuple elems _)] _) => some elems.length
  | _ => none

/-- The number of elements, if the type ends in an `Option` of a tuple. -/
def Ty.optionWidth? (t : Ty) : Option Nat := t.lastSegment?.bind Segment.optionWidth?

namespace DeclarationKind

/-- What a type says in the declaration: the type of the block is in the place of `Self`, the
parentheses around the type are gone, and places do not count. -/
def meaning (k : DeclarationKind) (t : Ty) : Ty := (k.resolve t).unparenthesized.unplaced

/-- What a visibility says in the declaration.  For a function of a module, `pub(self)` says what no
visibility does. -/
def reach : DeclarationKind → Visibility → Visibility
  | module _, .restricted _ ⟨false, ["self"]⟩ => .inherited
  | _, v => v

end DeclarationKind

namespace Method

/-- The two signatures say the same in the declaration: they have receivers at the same places, and
the types of the other parameters, the type that is returned, the visibility and the word `async`
say the same. -/
structure Respells (k : DeclarationKind) (m m' : Method) : Prop where
  params : m.item.sig.params.map (fun p => p.ty?.map k.meaning) =
    m'.item.sig.params.map fun p => p.ty?.map k.meaning
  output : m.item.sig.output.map k.meaning = m'.item.sig.output.map k.meaning
  vis : k.reach m.item.vis = k.reach m'.item.vis
  isAsync : m.item.sig.isAsync = m'.item.sig.isAsync

/-- The signature shows what it says.  A mutable reference that is taken and an `Option` of a tuple
that is returned are written as such, neither in parentheses nor with `Self`, and what cannot be
seen from outside of the declaration has no visibility. -/
structure Shows (k : DeclarationKind) (m : Method) : Prop where
  subject : ∀ t ∈ m.paramTypes, (k.meaning t).isMutRef = true → t.isPlain = true
  output : ∀ t ∈ m.item.sig.output, (k.meaning t).optionWidth?.isSome →
    t.isPlain = true ∧ ∀ inner ∈ t.optionArg?, inner.beginsWithSelf = false
  vis : k.reach m.item.vis = .inherited → m.item.vis = .inherited

end Method

/-! ### How the spelling changes -/

theorem Segment.replaceList_eq_map (onSelf : List Segment → Ty) (segments : List Segment) :
    Segment.replaceList onSelf segments = segments.map (Segment.replaceSelf onSelf) := by
  induction segments with
  | nil => rfl
  | cons s rest ih => rw [Segment.replaceList, ih, List.map_cons]

theorem Ty.replaceList_eq_map (onSelf : List Segment → Ty) (ts : List Ty) :
    Ty.replaceList onSelf ts = ts.map (Ty.replaceSelf onSelf) := by
  induction ts with
  | nil => rfl
  | cons t ts ih => rw [Ty.replaceList, ih, List.map_cons]

namespace Ty

variable {t : Ty}

theorem optionArg?_eq_some_iff {inner : Ty} :
    t.optionArg? = some inner ↔ ∃ leading segments turbofish trailing,
      t = .path (.mk leading segments) ∧
        segments.getLast? = some (.mk "Option" (.angle turbofish [.type inner] trailing)) := by
  constructor
  · intro h
    unfold optionArg? at h
    split at h
    case h_2 => cases h
    case h_1 p =>
      obtain ⟨leading, segments⟩ := p
      split at h
      case h_2 => cases h
      case h_1 turbofish inner' trailing hlast =>
        cases h
        exact ⟨leading, segments, turbofish, trailing, rfl, hlast⟩
  · rintro ⟨leading, segments, turbofish, trailing, rfl, hlast⟩
    simp only [optionArg?, Path.segments, hlast]

theorem tupleElems?_eq_some_iff {elems : List Ty} :
    t.tupleElems? = some elems ↔ ∃ trailing, t = .tuple elems trailing := by
  cases t <;> simp [tupleElems?]

theorem exists_of_beginsWithSelf {leading : Bool} {segments : List Segment}
    (h : (path (.mk leading segments)).beginsWithSelf = true) :
    ∃ args rest, segments = .mk "Self" args :: rest := by
  unfold beginsWithSelf at h
  split at h
  case h_1 args rest heq =>
    cases heq
    exact ⟨args, rest, rfl⟩
  case h_2 => cases h

theorem beginsWithSelf_of_isPlain (h : t.isPlain = true) : t.beginsWithSelf = false := by
  cases t
  case path p => simpa [isPlain] using h
  all_goals rfl

theorem optionWidth?_of_optionArg? {inner : Ty} {elems : List Ty} (harg : t.optionArg? = some inner)
    (helems : inner.tupleElems? = some elems) : t.optionWidth? = some elems.length := by
  obtain ⟨leading, segments, turbofish, trailing, rfl, hlast⟩ := optionArg?_eq_some_iff.1 harg
  obtain ⟨comma, rfl⟩ := tupleElems?_eq_some_iff.1 helems
  rw [optionWidth?, lastSegment?, Path.segments, hlast]
  rfl

/-- A type that ends in a segment is in no parentheses. -/
theorem unparenthesized_of_lastSegment? {s : Segment} (h : t.lastSegment? = some s) :
    t.unparenthesized = t := by
  cases t
  case paren => cases h
  all_goals rfl

theorem lastSegment?_unplaced (t : Ty) :
    t.unplaced.lastSegment? = t.lastSegment?.map Segment.unplaced := by
  cases t
  case path p =>
    obtain ⟨leading, segments⟩ := p
    simp only [unplaced, Path.unplaced, lastSegment?, Path.segments, Segment.unplacedList_eq_map,
      List.getLast?_map]
  case qualified =>
    simp only [unplaced, lastSegment?, Segment.unplacedList_eq_map, List.getLast?_map]
  all_goals rfl

end Ty

namespace DeclarationKind

variable {k : DeclarationKind} {t : Ty}

/-- Puts the declared type in the place of `Self` in the arguments of a segment. -/
def resolveSegment (k : DeclarationKind) : Segment → Segment :=
  match k with
  | impl selfTy _ => Segment.replaceSelf (selfPath selfTy)
  | module _ => id

theorem resolveSegment_option (turbofish trailing : Bool) (inner : Ty) :
    k.resolveSegment (.mk "Option" (.angle turbofish [.type inner] trailing)) =
      .mk "Option" (.angle turbofish [.type (k.resolve inner)] trailing) := by
  cases k <;> rfl

theorem resolve_tuple (elems : List Ty) (trailing : Bool) :
    k.resolve (.tuple elems trailing) = .tuple (elems.map k.resolve) trailing := by
  cases k with
  | impl self _ =>
    simp only [resolve, Ty.resolveSelf, Ty.replaceSelf, Ty.replaceList_eq_map]
    rfl
  | module _ => exact congrArg (Ty.tuple · trailing) (List.map_id elems).symm

/-- A path that does not begin with `Self` stays a path with as many segments. -/
theorem resolve_path {leading : Bool} {segments : List Segment}
    (h : (Ty.path (.mk leading segments)).beginsWithSelf = false) :
    k.resolve (.path (.mk leading segments)) =
      .path (.mk leading (segments.map k.resolveSegment)) := by
  cases k with
  | module _ => simp only [resolve, resolveSegment, List.map_id_fun, id_eq]
  | impl self _ =>
    obtain _ | ⟨⟨name, args⟩, rest⟩ := segments
    · rfl
    · have hname : name ≠ "Self" := by
        rintro rfl
        cases h
      simp only [resolve, Ty.resolveSelf, Ty.replaceSelf, if_neg hname, resolveSegment,
        Segment.replaceList_eq_map, List.map_cons, Segment.replaceSelf]

/-- A plain type is in no parentheses after `Self` is replaced in it. -/
theorem unparenthesized_resolve (h : t.isPlain = true) :
    (k.resolve t).unparenthesized = k.resolve t := by
  have hself := Ty.beginsWithSelf_of_isPlain h
  cases t
  case paren => cases h
  case path p =>
    obtain ⟨leading, segments⟩ := p
    rw [resolve_path hself]
    rfl
  all_goals cases k <;> rfl

theorem isMutRef_resolve (h : t.beginsWithSelf = false) :
    (k.resolve t).isMutRef = t.isMutRef := by
  cases t
  case path p =>
    obtain ⟨leading, segments⟩ := p
    rw [resolve_path h]
    rfl
  case reference lifetime isMut elem => cases k <;> cases isMut <;> rfl
  all_goals cases k <;> rfl

theorem optionArg?_resolve (h : t.beginsWithSelf = false) :
    (k.resolve t).optionArg? = t.optionArg?.map k.resolve := by
  cases t
  case path p =>
    obtain ⟨leading, segments⟩ := p
    rw [resolve_path h]
    simp only [Ty.optionArg?, Path.segments, List.getLast?_map]
    cases segments.getLast? with
    | none => rfl
    | some s =>
      obtain ⟨name, args⟩ := s
      by_cases hname : name = "Option"
      · subst hname
        -- The arguments are those of an `Option` if they are a single type.
        cases args with
        | none => cases k <;> rfl
        | paren => cases k <;> rfl
        | angle turbofish args trailing =>
          obtain _ | ⟨a, _ | ⟨b, rest⟩⟩ := args
          · cases k <;> rfl
          · cases k <;> cases a <;> rfl
          · cases k <;> cases a <;> rfl
      · cases k <;> simp [resolveSegment, Segment.replaceSelf, hname]
  all_goals cases k <;> rfl

theorem isSome_tupleElems?_resolve (h : t.beginsWithSelf = false) :
    (k.resolve t).tupleElems?.isSome = t.tupleElems?.isSome := by
  cases t
  case path p =>
    obtain ⟨leading, segments⟩ := p
    rw [resolve_path h]
    rfl
  all_goals cases k <;> rfl

/-! ### What the rules see of what is said -/

/-- Parentheses around a type do not change what it says. -/
theorem meaning_paren (t : Ty) : k.meaning (.paren t) = k.meaning t := by
  cases k with
  | impl self _ =>
    rw [meaning, resolve, Ty.resolveSelf, Ty.replaceSelf, Ty.unparenthesized]
    rfl
  | module _ => rfl

/-- `Self` says what the type of the block says, if there is no `Self` in that. -/
theorem meaning_self {selfTy : Ty} {g : Generics} (h : selfTy.resolveSelf selfTy = selfTy) :
    (impl selfTy g).meaning (.path (.mk false [.mk "Self" .none])) =
      (impl selfTy g).meaning selfTy := by
  rw [meaning, meaning, resolve, resolve, h]
  rfl

theorem meaning_of_isPlain (h : t.isPlain = true) : k.meaning t = (k.resolve t).unplaced := by
  rw [meaning, unparenthesized_resolve h]

/-- In a plain type the mutable reference can be seen. -/
theorem isMutRef_meaning (h : t.isPlain = true) : (k.meaning t).isMutRef = t.isMutRef := by
  rw [meaning_of_isPlain h, Ty.isMutRef_unplaced, isMutRef_resolve (Ty.beginsWithSelf_of_isPlain h)]

/-- In a plain type the `Option` of a tuple can be seen, unless the tuple is written `Self`. -/
theorem isSome_optionTuple_meaning (h : t.isPlain = true)
    (hinner : ∀ inner ∈ t.optionArg?, inner.beginsWithSelf = false) :
    ((k.meaning t).optionArg?.bind Ty.tupleElems?).isSome =
      (t.optionArg?.bind Ty.tupleElems?).isSome := by
  rw [meaning_of_isPlain h, Ty.optionArg?_unplaced,
    optionArg?_resolve (Ty.beginsWithSelf_of_isPlain h)]
  cases harg : t.optionArg? with
  | none => rfl
  | some inner =>
    simp only [Option.map_some, Option.bind_some, Ty.tupleElems?_unplaced, Option.isSome_map,
      isSome_tupleElems?_resolve (hinner inner harg)]

/-- Wherever an `Option` of a tuple is seen, what is said has the width of the tuple. -/
theorem optionWidth?_meaning {inner : Ty} {elems : List Ty} (harg : t.optionArg? = some inner)
    (helems : inner.tupleElems? = some elems) :
    (k.meaning t).optionWidth? = some elems.length := by
  obtain ⟨leading, segments, turbofish, trailing, rfl, hlast⟩ := Ty.optionArg?_eq_some_iff.1 harg
  obtain ⟨comma, rfl⟩ := Ty.tupleElems?_eq_some_iff.1 helems
  -- Behind `Self` the segments stay as they are, elsewhere `Self` is replaced in their arguments.
  have hsegment : ∃ elems' : List Ty, elems'.length = elems.length ∧
      (k.resolve (.path (.mk leading segments))).lastSegment? =
        some (.mk "Option" (.angle turbofish [.type (.tuple elems' comma)] trailing)) := by
    by_cases hself : (Ty.path (.mk leading segments)).beginsWithSelf = true
    · refine ⟨elems, rfl, ?_⟩
      cases k with
      | module _ => exact hlast
      | impl self g =>
        obtain ⟨args, rest, rfl⟩ := Ty.exists_of_beginsWithSelf hself
        cases rest with
        | nil => simp at hlast
        | cons s rest => exact hlast
    · refine ⟨elems.map k.resolve, List.length_map _, ?_⟩
      rw [resolve_path (Bool.eq_false_iff.2 hself), Ty.lastSegment?, Path.segments,
        List.getLast?_map, hlast, Option.map_some, resolveSegment_option, resolve_tuple]
  obtain ⟨elems', hlength, hresolve⟩ := hsegment
  rw [meaning, Ty.unparenthesized_of_lastSegment? hresolve, Ty.optionWidth?,
    Ty.lastSegment?_unplaced, hresolve, ← hlength, ← Ty.length_unplacedList elems']
  rfl

end DeclarationKind

namespace Method

variable {k : DeclarationKind} {m m' : Method} {limit : Nat}

theorem map_paramTypes {α : Type} (m : Method) (f : Ty → α) :
    m.paramTypes.map f = (m.item.sig.params.map fun p => p.ty?.map f).filterMap id := by
  simp only [paramTypes, List.map_filterMap, List.filterMap_map, Function.comp_def, id_eq]

theorem components?_eq_some_iff {components : List Ty} :
    m.components? = some components ↔ ∃ t inner, m.item.sig.output = some t ∧
      t.optionArg? = some inner ∧ inner.tupleElems? = some components := by
  simp only [components?, Option.bind_eq_bind, Option.bind_eq_some_iff]
  constructor
  · rintro ⟨t, ht, inner, hinner, hc⟩
    exact ⟨t, inner, ht, hinner, hc⟩
  · rintro ⟨t, inner, ht, hinner, hc⟩
    exact ⟨t, ht, inner, hinner, hc⟩

section

variable (h : m.Respells k m')

include h

theorem Respells.hasReceiver_eq : m.hasReceiver = m'.hasReceiver := by
  have hreceiver (m : Method) : m.hasReceiver =
      ((m.item.sig.params.map fun p => p.ty?.map k.meaning).head?.map Option.isNone).getD
        false := by
    rw [hasReceiver, List.head?_map, Option.map_map]
    congr 2
    funext p
    cases p <;> rfl
  rw [hreceiver m, hreceiver m', h.params]

theorem Respells.paramTypes_eq : m.paramTypes.map k.meaning = m'.paramTypes.map k.meaning := by
  rw [map_paramTypes, map_paramTypes, h.params]

theorem Respells.length_paramTypes : m.paramTypes.length = m'.paramTypes.length := by
  rw [← List.length_map k.meaning, h.paramTypes_eq, List.length_map]

/-- If both signatures show the components, they show as many. -/
theorem Respells.length_components {components components' : List Ty}
    (hc : m.components? = some components) (hc' : m'.components? = some components') :
    components.length = components'.length := by
  obtain ⟨t, inner, ht, harg, helems⟩ := components?_eq_some_iff.1 hc
  obtain ⟨t', inner', ht', harg', helems'⟩ := components?_eq_some_iff.1 hc'
  have houtput := h.output
  rw [ht, ht', Option.map_some, Option.map_some, Option.some.injEq] at houtput
  have hwidth := DeclarationKind.optionWidth?_meaning (k := k) harg helems
  rw [houtput, DeclarationKind.optionWidth?_meaning harg' helems', Option.some.injEq] at hwidth
  exact hwidth.symm

/-- Signatures that say the same violate the same rules if both show a mutable reference or none
does, both show the components or none does, and both have a visibility or none has. -/
theorem Respells.violations_eq_iff :
    m.violations limit = m'.violations limit ↔
      ((∃ t ∈ m.paramTypes, t.isMutRef = true) ↔ ∃ t ∈ m'.paramTypes, t.isMutRef = true) ∧
      (m.components? = none ↔ m'.components? = none) ∧
      (m.item.vis = .inherited ↔ m'.item.vis = .inherited) := by
  rw [Method.violations_eq_iff]
  constructor
  · intro hall
    exact ⟨hall .mutableParameter, hall .returnShape, hall .notAccessible⟩
  · rintro ⟨hmutable, hshape, hvis⟩ r
    cases r with
    | instanceBound => rw [Violates, Violates, h.hasReceiver_eq]
    | wrongArity found => rw [Violates, Violates, h.length_paramTypes]
    | mutableParameter => exact hmutable
    | returnShape => exact hshape
    | arityTooWide width bound =>
      have hwidth : m.components?.map List.length = m'.components?.map List.length := by
        cases hc : m.components? with
        | none => rw [hshape.1 hc]
        | some components =>
          cases hc' : m'.components? with
          | none => rw [hshape.2 hc'] at hc; cases hc
          | some components' =>
            rw [Option.map_some, Option.map_some, h.length_components hc hc']
      rw [Violates, Violates, hwidth]
    | notAccessible => exact hvis
    | async => rw [Violates, Violates, h.isAsync]

end

/-! ### Signatures that show what they say -/

/-- A signature shows what it says if its types are plain and its visibility says what it is. -/
theorem Shows.of_isPlain (hsubject : ∀ t ∈ m.paramTypes, t.isPlain = true)
    (houtput : ∀ t ∈ m.item.sig.output, t.isPlain = true)
    (hinner : ∀ t ∈ m.item.sig.output, ∀ inner ∈ t.optionArg?, inner.beginsWithSelf = false)
    (hvis : k.reach m.item.vis = m.item.vis) : m.Shows k where
  subject t ht _ := hsubject t ht
  output t ht _ := ⟨houtput t ht, hinner t ht⟩
  vis h := hvis.symm.trans h

/-- Such a signature takes a mutable reference if it says so. -/
theorem Shows.isMutRef_iff (h : m.Shows k) :
    (∃ t ∈ m.paramTypes, t.isMutRef = true) ↔
      ∃ t ∈ m.paramTypes.map k.meaning, t.isMutRef = true := by
  simp only [List.mem_map, exists_exists_and_eq_and]
  refine exists_congr fun t => and_congr_right fun ht => ?_
  constructor
  · intro hmut
    have hplain : t.isPlain = true := by
      cases t <;> first | rfl | cases hmut
    rwa [DeclarationKind.isMutRef_meaning hplain]
  · intro hmut
    rwa [← DeclarationKind.isMutRef_meaning (h.subject t ht hmut)]

/-- Such a signature has components if it says an `Option` of a tuple. -/
theorem Shows.components?_eq_none_iff (h : m.Shows k) :
    m.components? = none ↔ ∀ t ∈ m.item.sig.output.map k.meaning,
      t.optionArg?.bind Ty.tupleElems? = none := by
  cases houtput : m.item.sig.output with
  | none => simp [components?, houtput]
  | some t =>
    have hwidth (t' : Ty) (hw : t'.optionWidth? = none) :
        t'.optionArg?.bind Ty.tupleElems? = none := by
      refine Option.eq_none_iff_forall_not_mem.2 fun elems helems => ?_
      obtain ⟨inner, harg, hinner⟩ := Option.bind_eq_some_iff.1 helems
      rw [Ty.optionWidth?_of_optionArg? harg hinner] at hw
      cases hw
    simp only [components?, houtput, Option.bind_eq_bind, Option.bind_some, Option.map_some,
      Option.mem_some_iff, forall_eq']
    -- Without an `Option` at the end of what is said, neither what is written nor what is said is
    -- one; else the type is plain.
    cases hw : (k.meaning t).optionWidth? with
    | none =>
      refine iff_of_true ?_ (hwidth _ hw)
      refine Option.eq_none_iff_forall_not_mem.2 fun elems helems => ?_
      obtain ⟨inner, harg, hinner⟩ := Option.bind_eq_some_iff.1 helems
      rw [DeclarationKind.optionWidth?_meaning harg hinner] at hw
      cases hw
    | some width =>
      obtain ⟨hplain, hinner⟩ := h.output t houtput (by rw [hw]; rfl)
      rw [← Option.not_isSome_iff_eq_none,
        ← DeclarationKind.isSome_optionTuple_meaning hplain hinner, Option.not_isSome_iff_eq_none]

theorem Shows.inherited_iff (h : m.Shows k) :
    m.item.vis = .inherited ↔ k.reach m.item.vis = .inherited := by
  refine ⟨fun hvis => ?_, h.vis⟩
  rw [hvis]
  cases k <;> rfl

/-- Signatures that say the same violate the same rules, but for those on mutable references, on the
type that is returned and on the visibility: if each of these three is kept by both or by none, the
violations are the same.  So it is if both signatures show what they say; and an extractor that does
and has no violations takes no mutable reference and can be seen from outside of its declaration. -/
theorem violations_of_respells (k : DeclarationKind) (limit : Nat) (m : Method) :
    (∀ m', m.Respells k m' →
      (m.violations limit = m'.violations limit ↔
        ((∃ t ∈ m.paramTypes, t.isMutRef = true) ↔ ∃ t ∈ m'.paramTypes, t.isMutRef = true) ∧
        (m.components? = none ↔ m'.components? = none) ∧
        (m.item.vis = .inherited ↔ m'.item.vis = .inherited)) ∧
      (m.Shows k → m'.Shows k → m.violations limit = m'.violations limit)) ∧
    (m.Shows k → m.violations limit = [] →
      (∃ t, m.paramTypes = [t] ∧ (k.meaning t).isMutRef = false) ∧
      k.reach m.item.vis ≠ .inherited) := by
  refine ⟨fun m' h => ⟨h.violations_eq_iff, fun hm hm' => h.violations_eq_iff.2 ⟨?mutable, ?shape,
    ?vis⟩⟩, fun hm hv => ⟨?subject, ?reach⟩⟩
  case mutable => rw [hm.isMutRef_iff, hm'.isMutRef_iff, h.paramTypes_eq]
  case shape => rw [hm.components?_eq_none_iff, hm'.components?_eq_none_iff, h.output]
  case vis => rw [hm.inherited_iff, hm'.inherited_iff, h.vis]
  case subject =>
    obtain ⟨t, -, ht, -⟩ := exists_of_violations_eq_nil hv
    refine ⟨t, ht, Bool.eq_false_iff.2 fun hmut => ?_⟩
    have hviolates : m.Violates limit .mutableParameter := by
      refine hm.isMutRef_iff.2 ⟨k.meaning t, ?_, hmut⟩
      rw [ht]
      exact List.mem_singleton_self _
    rw [← mem_violations, hv] at hviolates
    cases hviolates
  case reach =>
    intro hvis
    have hviolates : m.Violates limit .notAccessible := hm.vis hvis
    rw [← mem_violations, hv] at hviolates
    cases hviolates

/-- The type path of one word. -/
def wordPath (word : String) : Ty := .path (.mk false [.mk word .none])

/-- The type `Option<(components,)>`. -/
def optionTuple (components : List Ty) : Ty :=
  .path (.mk false [.mk "Option" (.angle false [.type (.tuple components true)] false)])

/-- The extractor `fn f(v: param) -> output`. -/
def ofTypes (vis : Visibility) (param output : Ty) : Method where
  item :=
    { attrs := []
      vis := vis
      isDefault := false
      sig :=
        { isConst := false
          isAsync := false
          isUnsafe := false
          abi := none
          name := "f"
          line := 1
          generics := .none
          params := [.typed [] (.tree .patIdent [.word "v"]) param]
          trailing := false
          variadic := none
          output := some output }
      statements := [] }
  isExtractor := true

/-- In a block for `A` it is the same to take `&Self` and return `Option<(Self,)>`, and to take `&A`
and return `Option<(A,)>`. -/
theorem violations_of_respells_self :
    let k : DeclarationKind := .impl (wordPath "A") .none
    let spelled (self : Ty) := ofTypes .public (.reference none false self) (optionTuple [self])
    let m := spelled (wordPath "Self")
    let m' := spelled (wordPath "A")
    m.Respells k m' ∧ m.Shows k ∧ m'.Shows k ∧ m.violations 8 = [] ∧ m'.violations 8 = [] ∧
      ∃ t, m.paramTypes = [t] ∧ (k.meaning t).isMutRef = false := by
  intro k spelled m m'
  have h : m.Respells k m' := ⟨rfl, rfl, rfl, rfl⟩
  have hshows (self : Ty) : (spelled self).Shows k := by
    refine .of_isPlain ?_ ?_ ?_ rfl
    all_goals simp [spelled, ofTypes, paramTypes, FnParam.ty?, optionTuple, Ty.isPlain,
      Ty.beginsWithSelf, Ty.optionArg?, Path.segments]
  have hv : m.violations 8 = [] := by decide
  obtain ⟨hrespelled, haccepted⟩ := violations_of_respells k 8 m
  refine ⟨h, hshows _, hshows _, hv, ?_, (haccepted (hshows _) hv).1⟩
  exact ((hrespelled m' h).2 (hshows _) (hshows _)).symm.trans hv

/-- Other spellings change the violations: `(&mut A)` passes for no mutable reference,
`(Option<()>)` and a `Self` for no `Option`, and `pub(self)` for a visibility. -/
theorem violations_of_respells_differ :
    let a : DeclarationKind := .impl (wordPath "A") .none
    let option : DeclarationKind := .impl (optionTuple [wordPath "u8"]) .none
    let inModule : DeclarationKind := .module "m"
    let taken (t : Ty) := ofTypes .public t (optionTuple [])
    let returned (t : Ty) := ofTypes .public (.reference none false (wordPath "u8")) t
    let seen (v : Visibility) := ofTypes v (.reference none false (wordPath "u8")) (optionTuple [])
    let changed (k : DeclarationKind) (m m' : Method) (rules rules' : List Rule) :=
      m.Respells k m' ∧ m.violations 8 = rules ∧ m'.violations 8 = rules'
    changed a (taken (.reference none true (wordPath "A")))
        (taken (.paren (.reference none true (wordPath "A")))) [.mutableParameter] [] ∧
      changed a (returned (optionTuple [])) (returned (.paren (optionTuple []))) [] [.returnShape] ∧
      changed option (returned (optionTuple [wordPath "u8"])) (returned (wordPath "Self")) []
        [.returnShape] ∧
      changed inModule (seen .inherited) (seen (.restricted false ⟨false, ["self"]⟩))
        [.notAccessible] [] := by
  intro a option inModule taken returned seen changed
  exact ⟨⟨⟨rfl, rfl, rfl, rfl⟩, by decide, by decide⟩, ⟨⟨rfl, rfl, rfl, rfl⟩, by decide, by decide⟩,
    ⟨⟨rfl, rfl, rfl, rfl⟩, by decide, by decide⟩, ⟨⟨rfl, rfl, rfl, rfl⟩, by decide, by decide⟩⟩

end Method

end PatternFactory
