import PatternFactory.Pattern
import Mathlib.Data.Set.List
import Mathlib.Tactic.IntervalCases

/-!
# Matching

A compound pattern matches exactly if its extractor yields components and each part matches its own
component; its output is the tuple of the outputs of the parts (`Pattern.apply_compound_iff`).  This
rests on the wiring, which leads every part to the component of the same number.

A position is the list of the numbers of the parts that lead to it.  `Pattern.replaceAt` puts a
pattern in the place of a part, however deep it is, and `Pattern.matching` states what comes of
putting `any` or `bind` there: what matched goes on to match, and the outputs at all other positions
are as before.
-/

namespace PatternFactory

variable {V : Type}

/-! ### Positions -/

namespace Output

/-- The output at a position. -/
def at? : Output V → List Nat → Option (Output V)
  | o, [] => some o
  | tuple parts, i :: path => parts[i]?.bind (at? · path)
  | _, _ :: _ => none

/-- Puts an output at a position. -/
def replaceAt : Output V → List Nat → Output V → Output V
  | _, [], x => x
  | tuple parts, i :: path, x => tuple (parts.modify i (replaceAt · path x))
  | o, _ :: _, _ => o

theorem ofParts_of_ne_nil {os : List (Output V)} (h : os ≠ []) : ofParts os = tuple os := by
  cases os with
  | nil => exact absurd rfl h
  | cons o os => rfl

theorem at?_replaceAt_self {o x : Output V} (y : Output V) {path : List Nat}
    (h : o.at? path = some x) : (o.replaceAt path y).at? path = some y := by
  induction path generalizing o with
  | nil => rfl
  | cons i path ih =>
    cases o with
    | tuple parts =>
      obtain ⟨part, hpart, h⟩ := Option.bind_eq_some_iff.1 h
      simp [replaceAt, at?, hpart, ih h]
    | unit => cases h
    | bound value => cases h

/-- The two outputs are the same at all positions that are neither inside of `path` nor around
it. -/
def AgreeAsideFrom (path : List Nat) (o o' : Output V) : Prop :=
  ∀ other, ¬ path <+: other → ¬ other <+: path → o'.at? other = o.at? other

theorem agreeAsideFrom_replaceAt (o x : Output V) (path : List Nat) :
    AgreeAsideFrom path o (o.replaceAt path x) := by
  intro other h h'
  induction path generalizing other o with
  | nil => exact absurd List.nil_prefix h
  | cons i path ih =>
    cases other with
    | nil => exact absurd List.nil_prefix h'
    | cons j other =>
      cases o with
      | tuple parts =>
        simp only [replaceAt, at?, List.getElem?_modify]
        by_cases hij : i = j
        · subst hij
          simp only [List.cons_prefix_cons, true_and] at h h'
          cases parts[i]? with
          | none => rfl
          | some part => simp [ih part other h h']
        · cases parts[j]? <;> simp [hij]
      | unit => rfl
      | bound value => rfl

end Output

namespace Pattern

/-- The part at a position. -/
def at? : Pattern V → List Nat → Option (Pattern V)
  | p, [] => some p
  | compound _ parts, i :: path => parts[i]?.bind (at? · path)
  | _, _ :: _ => none

/-- Puts a pattern in the place of the part at a position. -/
def replaceAt : Pattern V → List Nat → Pattern V → Pattern V
  | _, [], q => q
  | compound extract parts, i :: path, q => compound extract (parts.modify i (replaceAt · path q))
  | p, _ :: _, _ => p

/-- What the part at a position is applied to when the pattern is applied to the value. -/
def reached? : Pattern V → List Nat → V → Option V
  | _, [], value => some value
  | compound extract parts, i :: path, value => do
    let components ← extract value
    reached? (← parts[i]?) path (← components[i]?)
  | _, _ :: _, _ => none

/-! ### Well-typed patterns -/

/-- Patterns as the types of the runtime admit them: there are at most eight parts, and the
extractor yields one component for each of them. -/
inductive WellTyped : Pattern V → Prop
  | any : WellTyped any
  | bind : WellTyped bind
  | equals (expected : V) : WellTyped (equals expected)
  | compound {extract : V → Option (List V)} {parts : List (Pattern V)}
    (few : parts.length ≤ 8)
    (yields : ∀ value components, extract value = some components →
      components.length = parts.length)
    (typed : ∀ p ∈ parts, WellTyped p) : WellTyped (compound extract parts)

theorem WellTyped.of_getElem? {extract : V → Option (List V)} {parts : List (Pattern V)}
    (h : (Pattern.compound extract parts).WellTyped) {i : Nat} {p : Pattern V}
    (hp : parts[i]? = some p) : p.WellTyped := by
  cases h with
  | compound _ _ typed => exact typed p (List.mem_of_getElem? hp)

/-- The wires lead straight to the components. -/
theorem wiring_eq_range {n : Nat} (h : n ≤ 8) : wiring n = List.range n := by
  interval_cases n <;> rfl

theorem WellTyped.replaceAt {p q : Pattern V} (hp : p.WellTyped) (hq : q.WellTyped)
    (path : List Nat) : (p.replaceAt path q).WellTyped := by
  induction path generalizing p with
  | nil => exact hq
  | cons i path ih =>
    cases hp with
    | compound few yields typed =>
      rw [Pattern.replaceAt]
      refine .compound (by simpa using few) (by simpa using yields) fun r hr => ?_
      obtain ⟨j, hj⟩ := List.mem_iff_getElem?.1 hr
      rw [List.getElem?_modify, Option.map_eq_map, Option.map_eq_some_iff] at hj
      obtain ⟨part, hpart, rfl⟩ := hj
      have htyped := typed part (List.mem_of_getElem? hpart)
      split
      · exact ih htyped
      · exact htyped
    | any => exact .any
    | bind => exact .bind
    | equals expected => exact .equals expected

/-! ### Compound patterns -/

variable [BEq V]

theorem applyEach_cons (components : List V) (i : Nat) (wires : List Nat) (p : Pattern V)
    (parts : List (Pattern V)) :
    applyEach components (i :: wires) (p :: parts) =
      (components[i]?.bind fun c => p.apply c).bind fun o =>
        (applyEach components wires parts).map (o :: ·) := by
  rw [applyEach]
  cases components[i]? with
  | none => rfl
  | some c =>
    simp only [Option.bind_some]
    cases p.apply c <;> cases applyEach components wires parts <;> rfl

theorem applyEach_eq_some_iff {components : List V} {wires : List Nat} {parts : List (Pattern V)}
    {os : List (Output V)} (h : wires.length = parts.length) :
    applyEach components wires parts = some os ↔
      List.zipWith (fun i p => components[i]?.bind fun c => p.apply c) wires parts =
        os.map some := by
  induction parts generalizing wires os with
  | nil => cases os <;> simp [applyEach]
  | cons p parts ih =>
    cases wires with
    | nil => simp at h
    | cons i wires =>
      rw [applyEach_cons, List.zipWith_cons_cons]
      cases os with
      | nil => simp [Option.bind_eq_some_iff]
      | cons o os =>
        rw [List.map_cons, List.cons.injEq, ← ih (by simpa using h)]
        simp only [Option.bind_eq_some_iff, Option.map_eq_some_iff, List.cons.injEq]
        constructor
        · rintro ⟨_, hp, _, hparts, rfl, rfl⟩
          exact ⟨hp, hparts⟩
        · rintro ⟨hp, hparts⟩
          exact ⟨o, hp, os, hparts, rfl, rfl⟩

/-- The outputs `os` are those of the parts, each applied to the component of its number. -/
structure OutputsOf (components : List V) (parts : List (Pattern V)) (os : List (Output V)) :
    Prop where
  length_eq : components.length = parts.length
  length_outputs : os.length = parts.length
  output : ∀ (i : Nat) (p : Pattern V) (c : V), parts[i]? = some p → components[i]? = some c →
    os[i]? = p.apply c

/-- If the part of a number is replaced, then so is its output. -/
theorem OutputsOf.modify {components : List V} {parts : List (Pattern V)} {os : List (Output V)}
    (h : OutputsOf components parts os) {i : Nat} {p : Pattern V} {c : V} {o : Output V}
    (hp : parts[i]? = some p) (hc : components[i]? = some c) (ho : os[i]? = some o)
    {f : Pattern V → Pattern V} {g : Output V → Output V} (hfg : (f p).apply c = some (g o)) :
    OutputsOf components (parts.modify i f) (os.modify i g) where
  length_eq := by simpa using h.length_eq
  length_outputs := by simpa using h.length_outputs
  output j r d hr hd := by
    rw [List.getElem?_modify, Option.map_eq_map, Option.map_eq_some_iff] at hr
    obtain ⟨part, hpart, rfl⟩ := hr
    rw [List.getElem?_modify]
    by_cases hij : i = j
    · subst hij
      obtain rfl : p = part := Option.some.inj (hp.symm.trans hpart)
      obtain rfl : c = d := Option.some.inj (hc.symm.trans hd)
      simp [ho, hfg]
    · simp [hij, h.output j part d hpart hd]

theorem outputsOf_iff {components : List V} {parts : List (Pattern V)} {os : List (Output V)}
    (h : components.length = parts.length) :
    OutputsOf components parts os ↔
      List.zipWith (fun c p => p.apply c) components parts = os.map some := by
  constructor
  · intro ho
    apply List.ext_getElem
    · simp [h, ho.length_outputs]
    · intro i hi hi'
      simp only [List.length_map] at hi'
      have hparts : i < parts.length := by rwa [← ho.length_outputs]
      have hcomponents : i < components.length := by rwa [h]
      have := ho.output i _ _ (List.getElem?_eq_getElem hparts)
        (List.getElem?_eq_getElem hcomponents)
      simp [← this, List.getElem?_eq_getElem hi']
  · intro hz
    have hlength := congrArg List.length hz
    simp only [List.length_zipWith, List.length_map, h, Nat.min_self] at hlength
    refine ⟨h, hlength.symm, fun i p c hp hc => ?_⟩
    have hi := congrArg (fun l => l[i]?) hz
    simp only [List.getElem?_zipWith, hp, hc, List.getElem?_map] at hi
    cases hos : os[i]? with
    | none => simp [hos] at hi
    | some x => simpa [hos] using hi.symm

/-- A well-typed compound pattern matches exactly if its extractor yields components and each part
matches the component of its number; the output is the tuple of the outputs, in order. -/
theorem apply_compound_iff {extract : V → Option (List V)} {parts : List (Pattern V)}
    (h : (compound extract parts).WellTyped) {value : V} {o : Output V} :
    (compound extract parts).apply value = some o ↔
      ∃ components os, extract value = some components ∧ o = .ofParts os ∧
        OutputsOf components parts os := by
  cases h with
  | compound few yields typed =>
    cases hx : extract value with
    | none => simp [apply, hx]
    | some components =>
      have hlength := yields value components hx
      -- The wires of a list of parts are the numbers of all components.
      have hzip : List.zipWith (fun i p => components[i]?.bind fun c => p.apply c)
            (List.range parts.length) parts =
          List.zipWith (fun c p => p.apply c) components parts := by
        apply List.ext_getElem
        · simp [hlength]
        · intro i hi hi'
          simp only [List.length_zipWith, List.length_range] at hi hi'
          simp [List.getElem?_eq_getElem (show i < components.length by omega)]
      simp only [apply, hx, hlength, if_true, wiring_eq_range few, Option.map_eq_some_iff]
      constructor
      · rintro ⟨os, hos, rfl⟩
        rw [applyEach_eq_some_iff List.length_range, hzip] at hos
        exact ⟨components, os, rfl, rfl, (outputsOf_iff hlength).2 hos⟩
      · rintro ⟨_, os, hcomponents, rfl, hos⟩
        obtain rfl := Option.some.inj hcomponents
        exact ⟨os, (applyEach_eq_some_iff List.length_range).2
          (hzip.trans ((outputsOf_iff hlength).1 hos)), rfl⟩

theorem matches_compound_iff {extract : V → Option (List V)} {parts : List (Pattern V)}
    (h : (compound extract parts).WellTyped) {value : V} :
    (compound extract parts).matches value = true ↔
      ∃ components, extract value = some components ∧ components.length = parts.length ∧
        ∀ (i : Nat) (p : Pattern V) (c : V), parts[i]? = some p → components[i]? = some c →
          p.matches c = true := by
  rw [Pattern.matches, Option.isSome_iff_exists]
  simp only [apply_compound_iff h]
  constructor
  · rintro ⟨_, components, os, hx, rfl, hos⟩
    refine ⟨components, hx, hos.length_eq, fun i p c hp hc => ?_⟩
    have hi : i < os.length := by
      rw [hos.length_outputs]
      exact (List.getElem?_eq_some_iff.1 hp).1
    rw [Pattern.matches, ← hos.output i p c hp hc, List.getElem?_eq_getElem hi, Option.isSome_some]
  · rintro ⟨components, hx, hlength, hall⟩
    -- The outputs of all parts are collected in a list.
    obtain ⟨os, hos⟩ : List.zipWith (fun c p => p.apply c) components parts ∈
        Set.range (List.map some) := by
      rw [Set.range_list_map]
      intro x hmem
      obtain ⟨i, hi, rfl⟩ := List.getElem_of_mem hmem
      simp only [List.length_zipWith, hlength, Nat.min_self] at hi
      obtain ⟨o, ho⟩ := Option.isSome_iff_exists.1 (hall i _ _ (List.getElem?_eq_getElem hi)
        (List.getElem?_eq_getElem (hlength.symm ▸ hi)))
      exact ⟨o, by rw [List.getElem_zipWith, ho]⟩
    exact ⟨_, components, os, hx, rfl, (outputsOf_iff hlength).2 hos.symm⟩

/-! ### Replacing parts -/

/-- Where a pattern matches, each of its parts has been applied to a component and gave the output
at its position.  Another pattern in its place that matches the component puts its own output there,
and nothing else changes. -/
theorem apply_replaceAt {p part : Pattern V} (hp : p.WellTyped) {path : List Nat}
    (hpart : p.at? path = some part) {value : V} {o : Output V} (h : p.apply value = some o) :
    ∃ c x, p.reached? path value = some c ∧ part.apply c = some x ∧ o.at? path = some x ∧
      ∀ q y, q.WellTyped → q.apply c = some y →
        (p.replaceAt path q).apply value = some (o.replaceAt path y) := by
  induction path generalizing p value o with
  | nil =>
    obtain rfl := Option.some.inj hpart
    exact ⟨value, o, rfl, h, rfl, fun q y _ hy => hy⟩
  | cons i path ih =>
    cases p with
    | compound extract parts =>
      obtain ⟨components, os, hx, rfl, hos⟩ := (apply_compound_iff hp).1 h
      obtain ⟨inner, hinner, hpart⟩ := Option.bind_eq_some_iff.1 hpart
      have hi : i < parts.length := (List.getElem?_eq_some_iff.1 hinner).1
      obtain ⟨c, hc⟩ : ∃ c, components[i]? = some c :=
        ⟨_, List.getElem?_eq_getElem (hos.length_eq ▸ hi)⟩
      obtain ⟨o, ho⟩ : ∃ o, os[i]? = some o :=
        ⟨_, List.getElem?_eq_getElem (hos.length_outputs ▸ hi)⟩
      have hne : os ≠ [] := List.ne_nil_of_length_pos (hos.length_outputs ▸ Nat.zero_lt_of_lt hi)
      have happly : inner.apply c = some o := by rw [← hos.output i inner c hinner hc, ho]
      obtain ⟨c', x, hreached, hx', hat, hput⟩ := ih (hp.of_getElem? hinner) hpart happly
      refine ⟨c', x, ?_, hx', ?_, fun q y hq hy => ?_⟩
      · simp [reached?, hx, hinner, hc, hreached]
      · simp [Output.ofParts_of_ne_nil hne, Output.at?, ho, hat]
      · rw [Output.ofParts_of_ne_nil hne, Output.replaceAt,
          ← Output.ofParts_of_ne_nil (by simpa using hne)]
        refine (apply_compound_iff (hp.replaceAt hq (i :: path))).2 ⟨components, _, hx, rfl, ?_⟩
        exact hos.modify hinner hc ho (hput q y hq hy)
    | any => cases hpart
    | bind => cases hpart
    | equals expected => cases hpart

/-- A part may be replaced by one that matches more. -/
theorem matches_replaceAt_mono {q q' : Pattern V} (hq : q.WellTyped) (hq' : q'.WellTyped)
    (h : ∀ c, q.matches c = true → q'.matches c = true) {p : Pattern V} (hp : p.WellTyped)
    {path : List Nat} {value : V} (hm : (p.replaceAt path q).matches value = true) :
    (p.replaceAt path q').matches value = true := by
  induction path generalizing p value with
  | nil => exact h value hm
  | cons i path ih =>
    cases p with
    | compound extract parts =>
      obtain ⟨components, hx, hlength, hall⟩ :=
        (matches_compound_iff (hp.replaceAt hq (i :: path))).1 hm
      refine (matches_compound_iff (hp.replaceAt hq' (i :: path))).2
        ⟨components, hx, by simpa using hlength, fun j r c hr hc => ?_⟩
      rw [List.getElem?_modify, Option.map_eq_map, Option.map_eq_some_iff] at hr
      obtain ⟨part, hpart, rfl⟩ := hr
      have hj := hall j _ c (by rw [List.getElem?_modify, hpart]; rfl) hc
      by_cases hij : i = j
      · simp only [hij, if_true] at hj ⊢
        exact ih (hp.of_getElem? hpart) hj
      · simpa only [hij, if_false] using hj
    | any => exact hm
    | bind => exact hm
    | equals expected => exact hm

/-- Matching, for patterns of any depth. -/
theorem matching (p : Pattern V) (hp : p.WellTyped) (value : V) :
    -- A pattern matches if it gives an output.
    p.matches value = (p.apply value).isSome ∧
    -- What the leaves match, and what they give.
    (p = any → p.apply value = some .unit) ∧
    (p = bind → p.apply value = some (.bound value)) ∧
    (∀ expected, p = equals expected →
      p.apply value = if value == expected then some .unit else none) ∧
    -- A compound pattern matches if its extractor yields components and all parts match theirs.
    (∀ extract parts, p = compound extract parts →
      (p.matches value = true ↔
        ∃ components, extract value = some components ∧ components.length = parts.length ∧
          ∀ (i : Nat) (q : Pattern V) (c : V), parts[i]? = some q → components[i]? = some c →
            q.matches c = true) ∧
      ∀ o, p.apply value = some o →
        ∃ components os, extract value = some components ∧ o = .ofParts os ∧
          OutputsOf components parts os) ∧
    -- In the place of a part `any` and `bind` match what it matched, and give their own outputs.
    ∀ path part, p.at? path = some part →
      (p.replaceAt path any).matches value = (p.replaceAt path bind).matches value ∧
      ∀ o, p.apply value = some o →
        ∃ c x, p.reached? path value = some c ∧ part.apply c = some x ∧ o.at? path = some x ∧
          ∃ o₁ o₂, (p.replaceAt path any).apply value = some o₁ ∧
            (p.replaceAt path bind).apply value = some o₂ ∧
            o₁.at? path = some .unit ∧ o₂.at? path = some (.bound c) ∧
            o.AgreeAsideFrom path o₁ ∧ o.AgreeAsideFrom path o₂ := by
  refine ⟨rfl, ?any, ?bind, ?equals, ?compound, ?replace⟩
  case any => rintro rfl; rw [apply]
  case bind => rintro rfl; rw [apply]
  case equals => rintro expected rfl; rw [apply]
  case compound =>
    rintro extract parts rfl
    exact ⟨matches_compound_iff hp, fun o ho => (apply_compound_iff hp).1 ho⟩
  case replace =>
    intro path part hpart
    -- Both leaves match everything.
    have hany (c : V) : any.matches c = true := by rw [Pattern.matches, apply]; rfl
    have hbind (c : V) : bind.matches c = true := by rw [Pattern.matches, apply]; rfl
    refine ⟨?_, fun o ho => ?_⟩
    · rw [Bool.eq_iff_iff]
      exact ⟨matches_replaceAt_mono .any .bind (fun c _ => hbind c) hp,
        matches_replaceAt_mono .bind .any (fun c _ => hany c) hp⟩
    · obtain ⟨c, x, hreached, hx, hat, hput⟩ := apply_replaceAt hp hpart ho
      exact ⟨c, x, hreached, hx, hat, _, _, hput any _ .any (by rw [apply]),
        hput bind _ .bind (by rw [apply]), Output.at?_replaceAt_self _ hat,
        Output.at?_replaceAt_self _ hat, Output.agreeAsideFrom_replaceAt o _ path,
        Output.agreeAsideFrom_replaceAt o _ path⟩

/-- The first number of a list, and the others. -/
def headAndTail : List Nat → Option (List (List Nat))
  | [] => none
  | n :: ns => some [[n], ns]

/-- A list with 2 for its second number. -/
def secondIsTwo : Pattern (List Nat) :=
  compound headAndTail [bind, compound headAndTail [equals [2], any]]

theorem wellTyped_secondIsTwo : secondIsTwo.WellTyped := by
  have yields : ∀ value components, headAndTail value = some components →
      components.length = 2 := by
    rintro (_ | ⟨n, ns⟩) components h
    · cases h
    · obtain rfl := Option.some.inj h
      rfl
  refine .compound (by decide) yields ?_
  simp only [List.mem_cons, List.not_mem_nil, or_false]
  rintro p (rfl | rfl)
  · exact .bind
  · refine .compound (by decide) yields ?_
    simp only [List.mem_cons, List.not_mem_nil, or_false]
    rintro p (rfl | rfl)
    · exact .equals [2]
    · exact .any

/-- The second number is bound instead of compared, and the first one stays bound. -/
theorem matching_secondIsTwo :
    secondIsTwo.WellTyped ∧
    secondIsTwo.apply [1, 2, 3] = some (.tuple [.bound [1], .tuple [.unit, .unit]]) ∧
    ∃ o, (secondIsTwo.replaceAt [1, 0] bind).apply [1, 2, 3] = some o ∧
      o.at? [1, 0] = some (.bound [2]) ∧ o.at? [0] = some (.bound [1]) := by
  have ho : secondIsTwo.apply [1, 2, 3] = some (.tuple [.bound [1], .tuple [.unit, .unit]]) := rfl
  refine ⟨wellTyped_secondIsTwo, ho, ?_⟩
  obtain ⟨-, -, -, -, -, hreplace⟩ := matching secondIsTwo wellTyped_secondIsTwo [1, 2, 3]
  obtain ⟨-, happly⟩ := hreplace [1, 0] (equals [2]) rfl
  obtain ⟨c, x, hreached, -, -, o₁, o₂, -, ho₂, -, hat, -, hagree⟩ := happly _ ho
  obtain rfl : [2] = c := Option.some.inj hreached
  exact ⟨o₂, ho₂, hat, hagree [0] (by decide) (by decide)⟩

end Pattern

end PatternFactory
