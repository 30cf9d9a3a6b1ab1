import PatternFactory.Proofs.Order

/-!
# What a round collects

A name gets a unit exactly when one declaration of the round derives it, among those that are
eligible: `Generator.collect` groups the eligible declarations by the names that they derive, and
only a group of one yields a unit (`Generator.collect_units_of_sole`).  So neither an ineligible
declaration nor the place of a declaration in the list matters for the units.

A renderer may be unable to write a text.  The collection fails exactly when this happens for a
declaration that is the only one to derive its name.
-/

namespace PatternFactory

namespace Generator

variable (g : Generator)

/-! ### Deriving a name -/

/-- Is the declaration eligible, and does it derive the name? -/
def derives (q : QualifiedName) (d : MarkedDeclaration) : Bool :=
  (d.declaration g.markers).isEligible g.arityLimit &&
    (d.declaration g.markers).unitName g.suffix = q

/-- One declaration of the list, at one place in it, is eligible and derives the name. -/
def Sole (found : List MarkedDeclaration) (q : QualifiedName) (d : MarkedDeclaration) : Prop :=
  ∃ before after, found = before ++ d :: after ∧ g.derives q d ∧
    ∀ e ∈ before ++ after, ¬ g.derives q e

/-- Two declarations of the list, at different places in it, are eligible and derive the name. -/
def Contested (found : List MarkedDeclaration) (q : QualifiedName) : Prop :=
  ∃ before d between e after, found = before ++ d :: (between ++ e :: after) ∧
    g.derives q d ∧ g.derives q e

variable {g} {found : List MarkedDeclaration} {q : QualifiedName}

theorem sole_iff {d : MarkedDeclaration} : g.Sole found q d ↔ found.filter (g.derives q) = [d] := by
  rw [List.filter_eq_cons_iff]
  constructor
  · rintro ⟨before, after, rfl, hd, hothers⟩
    refine ⟨before, after, rfl, fun e he => hothers e (List.mem_append_left _ he), hd, ?_⟩
    exact List.filter_eq_nil_iff.2 fun e he => hothers e (List.mem_append_right _ he)
  · rintro ⟨before, after, rfl, hbefore, hd, hafter⟩
    refine ⟨before, after, rfl, hd, fun e he => ?_⟩
    rcases List.mem_append.1 he with he | he
    · exact hbefore e he
    · exact List.filter_eq_nil_iff.1 hafter e he

theorem Contested.length_filter (h : g.Contested found q) :
    2 ≤ (found.filter (g.derives q)).length := by
  obtain ⟨before, d, between, e, after, rfl, hd, he⟩ := h
  simp only [List.filter_append, List.filter_cons, hd, he, ↓reduceIte, List.length_append,
    List.length_cons]
  omega

theorem parties_eq : g.parties (g.declarations found) q =
    (found.filter (g.derives q)).map (MarkedDeclaration.declaration g.markers) := by
  rw [parties, eligible, declarations, List.filter_filter, List.filter_map]
  congr 2
  funext d
  exact Bool.and_comm _ _

theorem mem_unitNames :
    q ∈ g.unitNames (g.declarations found) ↔ ∃ d ∈ found, g.derives q d := by
  simp only [unitNames, mem_distinctNames, eligible, declarations, List.mem_map, List.mem_filter,
    unitName, derives, Bool.and_eq_true, decide_eq_true_eq]
  constructor
  · rintro ⟨_, ⟨⟨d, hd, rfl⟩, hel⟩, hq⟩
    exact ⟨d, hd, hel, hq⟩
  · rintro ⟨d, hd, hel, hq⟩
    exact ⟨_, ⟨⟨d, hd, rfl⟩, hel⟩, hq⟩

theorem Sole.mem_unitNames {d : MarkedDeclaration} (h : g.Sole found q d) :
    q ∈ g.unitNames (g.declarations found) := by
  obtain ⟨before, after, rfl, hd, -⟩ := h
  exact Generator.mem_unitNames.2 ⟨d, by simp, hd⟩

/-! ### The unit of one name -/

theorem unit?_of_sole {d : MarkedDeclaration} (h : g.Sole found q d) :
    g.unit? (g.declarations found) q =
      match g.renderer q.name (d.declaration g.markers) with
      | some text => .ok (some ⟨q, text⟩)
      | none => .error (.unrenderable q) := by
  rw [unit?, parties_eq, sole_iff.1 h]
  rfl

theorem unit?_of_not_sole (h : ∀ d, ¬ g.Sole found q d) :
    g.unit? (g.declarations found) q = .ok none := by
  have hne : ∀ d, found.filter (g.derives q) ≠ [d] := fun d hd => h d (sole_iff.2 hd)
  rw [unit?, parties_eq]
  match hf : found.filter (g.derives q) with
  | [] => rfl
  | [d] => exact absurd hf (hne d)
  | _ :: _ :: _ => rfl

theorem unit?_eq_some_iff {u : GeneratedUnit} :
    g.unit? (g.declarations found) q = .ok (some u) ↔
      ∃ d, g.Sole found q d ∧ g.renderer q.name (d.declaration g.markers) = some u.text ∧
        u.name = q := by
  by_cases h : ∃ d, g.Sole found q d
  · obtain ⟨d, hd⟩ := h
    -- there is only one such declaration, so the text is rendered for it
    have honly : ∀ e, g.Sole found q e ↔ e = d := fun e => by
      rw [sole_iff, sole_iff.1 hd, List.cons.injEq, eq_comm]
      simp
    rw [unit?_of_sole hd]
    simp only [honly, exists_eq_left]
    cases g.renderer q.name (d.declaration g.markers) with
    | none => simp
    | some text =>
      obtain ⟨name, text'⟩ := u
      simp [eq_comm, and_comm]
  · rw [unit?_of_not_sole fun d hd => h ⟨d, hd⟩]
    simp only [Except.ok.injEq, reduceCtorEq, false_iff]
    rintro ⟨d, hd, -⟩
    exact h ⟨d, hd⟩

/-! ### The collection -/

theorem collect_eq_ok_iff {c : Collection} :
    g.collect found = .ok c ↔
      ∃ us, (g.unitNames (g.declarations found)).mapM (g.unit? (g.declarations found)) = .ok us ∧
        c = ⟨us.filterMap id, g.diagnostics (g.declarations found)⟩ := by
  rw [collect]
  cases (g.unitNames (g.declarations found)).mapM (g.unit? (g.declarations found)) with
  | error e => simp [bind, Except.bind]
  | ok us => simp [bind, Except.bind, pure, Except.pure, eq_comm]

/-- A unit is collected exactly if one declaration alone derives its name, and it has the text that
the renderer gives for that declaration. -/
theorem mem_units_iff {c : Collection} (h : g.collect found = .ok c) {u : GeneratedUnit} :
    u ∈ c.units ↔ ∃ d, g.Sole found u.name d ∧
      g.renderer u.name.name (d.declaration g.markers) = some u.text := by
  obtain ⟨us, hus, rfl⟩ := collect_eq_ok_iff.1 h
  simp only [List.mem_filterMap, id_eq, exists_eq_right, mem_of_mapM_eq_ok hus, unit?_eq_some_iff]
  constructor
  · rintro ⟨q, -, d, hd, htext, rfl⟩
    exact ⟨d, hd, htext⟩
  · rintro ⟨d, hd, htext⟩
    exact ⟨u.name, hd.mem_unitNames, d, hd, htext, rfl⟩

/-- The collection fails only when a text cannot be written for a unit. -/
theorem collect_isOk_iff :
    (∃ c, g.collect found = .ok c) ↔
      ∀ q d, g.Sole found q d →
        ∃ text, g.renderer q.name (d.declaration g.markers) = some text := by
  have hmap : (∃ c, g.collect found = .ok c) ↔ ∃ us,
      (g.unitNames (g.declarations found)).mapM (g.unit? (g.declarations found)) = .ok us := by
    simp only [collect_eq_ok_iff]
    exact ⟨fun ⟨_, us, hus, _⟩ => ⟨us, hus⟩, fun ⟨us, hus⟩ => ⟨_, us, hus, rfl⟩⟩
  rw [hmap, exists_mapM_eq_ok_iff]
  constructor
  · intro h q d hd
    obtain ⟨o, ho⟩ := h q hd.mem_unitNames
    rw [unit?_of_sole hd] at ho
    cases htext : g.renderer q.name (d.declaration g.markers) with
    | none => simp [htext] at ho
    | some text => exact ⟨text, rfl⟩
  · intro h q _
    by_cases hq : ∃ d, g.Sole found q d
    · obtain ⟨d, hd⟩ := hq
      obtain ⟨text, htext⟩ := h q d hd
      exact ⟨_, by rw [unit?_of_sole hd, htext]⟩
    · exact ⟨none, unit?_of_not_sole fun d hd => hq ⟨d, hd⟩⟩

/-- One declaration alone is eligible and derives the name, and there is no text for its unit. -/
def Refuses (g : Generator) (found : List MarkedDeclaration) (q : QualifiedName) : Prop :=
  ∃ d, g.Sole found q d ∧ g.renderer q.name (d.declaration g.markers) = none

/-- The name is the first of those that are refused. -/
structure RefusesFirst (g : Generator) (found : List MarkedDeclaration) (q : QualifiedName) :
    Prop where
  refuses : g.Refuses found q
  first : ∀ q', g.Refuses found q' → (compare q q').isLE

theorem RefusesFirst.unique {q' : QualifiedName} (h : g.RefusesFirst found q)
    (h' : g.RefusesFirst found q') : q = q' :=
  Std.LawfulEqOrd.eq_of_compare (Std.OrientedCmp.isLE_antisymm (h.first _ h'.refuses)
    (h'.first _ h.refuses))

theorem unit?_eq_error_iff {failure : Failure} :
    g.unit? (g.declarations found) q = .error failure ↔
      g.Refuses found q ∧ failure = .unrenderable q := by
  by_cases h : ∃ d, g.Sole found q d
  · obtain ⟨d, hd⟩ := h
    have honly : g.Refuses found q ↔ g.renderer q.name (d.declaration g.markers) = none := by
      constructor
      · rintro ⟨e, he, hnone⟩
        rw [sole_iff, sole_iff.1 hd, List.cons.injEq] at he
        rwa [he.1]
      · exact fun hnone => ⟨d, hd, hnone⟩
    rw [honly, unit?_of_sole hd]
    cases g.renderer q.name (d.declaration g.markers) <;> simp [eq_comm]
  · rw [unit?_of_not_sole fun d hd => h ⟨d, hd⟩]
    refine ⟨nofun, fun hrefuses => ?_⟩
    obtain ⟨⟨d, hd, -⟩, -⟩ := hrefuses
    exact absurd ⟨d, hd⟩ h

/-- Units cannot be collected just when a name is refused, and the first such name is reported. -/
theorem collect_eq_error_iff {failure : Failure} :
    g.collect found = .error failure ↔ ∃ q, g.RefusesFirst found q ∧ failure = .unrenderable q := by
  have hfirst {failure : Failure} (h : g.collect found = .error failure) :
      ∃ q, g.RefusesFirst found q ∧ failure = .unrenderable q := by
    cases hus : (g.unitNames (g.declarations found)).mapM (g.unit? (g.declarations found)) with
    | ok us =>
      rw [collect, hus] at h
      cases h
    | error e =>
      rw [collect, hus] at h
      cases h
      obtain ⟨before, q, after, hnames, hq, hbefore⟩ := exists_split_of_mapM_eq_error hus
      obtain ⟨hrefuses, rfl⟩ := unit?_eq_error_iff.1 hq
      refine ⟨q, ⟨hrefuses, fun q' hrefuses' => ?_⟩, rfl⟩
      have hq' := unit?_eq_error_iff.2 ⟨hrefuses', rfl⟩
      obtain ⟨d, hd, -⟩ := hrefuses'
      have hmem := hd.mem_unitNames
      have hsorted : (g.unitNames (g.declarations found)).Pairwise fun a b => compare a b = .lt :=
        pairwise_distinctNames _
      -- The names are sorted, and there are units for those in front of the first that is refused.
      rw [hnames] at hmem hsorted
      rcases List.mem_append.1 hmem with hmem | hmem
      · obtain ⟨o, ho⟩ := hbefore q' hmem
        rw [ho] at hq'
        cases hq'
      · rcases List.mem_cons.1 hmem with rfl | hmem
        · exact Std.ReflCmp.isLE_rfl
        · have hlt := (List.pairwise_cons.1 (List.pairwise_append.1 hsorted).2.1).1 q' hmem
          rw [hlt]
          rfl
  refine ⟨hfirst, ?_⟩
  rintro ⟨q, hq, rfl⟩
  cases hcollect : g.collect found with
  | ok c =>
    obtain ⟨d, hd, hnone⟩ := hq.refuses
    obtain ⟨text, htext⟩ := collect_isOk_iff.1 ⟨c, hcollect⟩ q d hd
    rw [hnone] at htext
    cases htext
  | error failure =>
    obtain ⟨q', hq', rfl⟩ := hfirst hcollect
    rw [hq.unique hq']

/-- Units come in the order of their names, which are distinct. -/
theorem pairwise_units {c : Collection} (h : g.collect found = .ok c) :
    (c.units.map GeneratedUnit.name).Pairwise fun a b => compare a b = .lt := by
  obtain ⟨us, hus, rfl⟩ := collect_eq_ok_iff.1 h
  have hkey : ∀ q u, g.unit? (g.declarations found) q =
      .ok (some u) → u.name = q := fun q u hu => (unit?_eq_some_iff.1 hu).choose_spec.2.2
  exact (pairwise_distinctNames _).sublist (sublist_of_mapM_eq_ok hkey hus)

theorem nodup_units {c : Collection} (h : g.collect found = .ok c) :
    (c.units.map GeneratedUnit.name).Nodup :=
  (pairwise_units h).imp fun hlt heq => by
    rw [heq, Std.ReflOrd.compare_self] at hlt
    cases hlt

/-- A unit is the rendering of some declaration and has the name that this one derives. -/
theorem exists_of_mem_units {c : Collection} (h : g.collect found = .ok c) {u : GeneratedUnit}
    (hu : u ∈ c.units) : ∃ d ∈ found, (d.declaration g.markers).unitName g.suffix = u.name ∧
      g.renderer u.name.name (d.declaration g.markers) = some u.text := by
  obtain ⟨d, ⟨before, after, rfl, hd, -⟩, hrender⟩ := (mem_units_iff h).1 hu
  simp only [derives, Bool.and_eq_true, decide_eq_true_eq] at hd
  exact ⟨d, by simp, hd.2, hrender⟩

/-- There are no more units than declarations. -/
theorem length_units_le {c : Collection} (h : g.collect found = .ok c) :
    c.units.length ≤ found.length := by
  have hsub : c.units.map GeneratedUnit.name ⊆
      found.map fun d => (d.declaration g.markers).unitName g.suffix := by
    intro q hq
    obtain ⟨u, hu, rfl⟩ := List.mem_map.1 hq
    obtain ⟨d, hd, hname, -⟩ := exists_of_mem_units h hu
    exact List.mem_map.2 ⟨d, hd, hname⟩
  simpa using ((nodup_units h).subperm hsub).length_le

/-- All parties to a contested name are reported. -/
theorem Contested.reported (h : g.Contested found q) {c : Collection}
    (hc : g.collect found = .ok c) :
    collisionDiagnostics q (g.parties (g.declarations found) q) ⊆ c.diagnostics := by
  obtain ⟨_, -, rfl⟩ := collect_eq_ok_iff.1 hc
  have hlength := h.length_filter
  have hname : g.nameDiagnostics (g.declarations found) q =
      collisionDiagnostics q (g.parties (g.declarations found) q) := by
    rw [nameDiagnostics]
    split
    next hd =>
      rw [← List.length_map (MarkedDeclaration.declaration g.markers), ← parties_eq, hd] at hlength
      exact absurd hlength (Nat.not_succ_le_self 1)
    next => rfl
  obtain ⟨before, d, between, e, after, rfl, hd, -⟩ := h
  refine fun x hx => List.mem_append_right _ (List.mem_flatMap.2 ⟨q, ?_, hname ▸ hx⟩)
  exact mem_unitNames.2 ⟨d, by simp, hd⟩

/-- The names and what each of them gets are all that matters for the units. -/
theorem collect_units_congr {found' : List MarkedDeclaration}
    (hnames : g.unitNames (g.declarations found) = g.unitNames (g.declarations found'))
    (hunit : ∀ q, g.unit? (g.declarations found) q = g.unit? (g.declarations found') q) :
    (g.collect found).map Collection.units = (g.collect found').map Collection.units := by
  rw [collect, collect, hnames, funext hunit]
  cases (g.unitNames (g.declarations found')).mapM (g.unit? (g.declarations found')) <;> rfl

/-- Only the eligible declarations have a say in the units. -/
theorem collect_units_of_eligible {found' : List MarkedDeclaration}
    (h : g.eligible (g.declarations found) = g.eligible (g.declarations found')) :
    (g.collect found).map Collection.units = (g.collect found').map Collection.units := by
  refine collect_units_congr ?_ fun q => ?_
  · rw [unitNames, unitNames, h]
  · rw [unit?, unit?, parties, parties, h]

/-- **One unit for each name that one eligible declaration derives.**  The collection fails only
where the renderer has no text for such a declaration.  Otherwise there is a unit of a name exactly
if one declaration of the list is eligible and derives it, and the unit has the text that is
rendered for that declaration; no name has two units, and a contested name has none.  An ineligible
declaration changes no unit, and the declarations of a round suffice for its units. -/
theorem collect_units_of_sole (g : Generator) (found : List MarkedDeclaration) :
    ((∃ c, g.collect found = .ok c) ↔ ∀ q d, g.Sole found q d →
      ∃ text, g.renderer q.name (d.declaration g.markers) = some text) ∧
    (∀ c, g.collect found = .ok c →
      (∀ q, (∃ u ∈ c.units, u.name = q) ↔ ∃ d, g.Sole found q d) ∧
      (∀ q d, g.Sole found q d → ∃ text,
        g.renderer q.name (d.declaration g.markers) = some text ∧
          ∀ u ∈ c.units, u.name = q → u = ⟨q, text⟩) ∧
      (c.units.map GeneratedUnit.name).Nodup ∧
      (∀ q, g.Contested found q → ∀ u ∈ c.units, u.name ≠ q) ∧
      c.units.length ≤ found.length ∧
      ∀ n, (roundReport n found c.units).excluded + (roundReport n found c.units).emitted.length =
        (roundReport n found c.units).declarations) ∧
    ∀ before d after, found = before ++ d :: after →
      (d.declaration g.markers).isEligible g.arityLimit = false →
      (g.collect found).map Collection.units =
        (g.collect (before ++ after)).map Collection.units := by
  refine ⟨collect_isOk_iff, fun c h => ⟨fun q => ?_, fun q d hd => ?_, nodup_units h,
    fun q hq u hu hname => ?_, length_units_le h, fun n => ?_⟩, ?_⟩
  · constructor
    · rintro ⟨u, hu, rfl⟩
      obtain ⟨d, hd, -⟩ := (mem_units_iff h).1 hu
      exact ⟨d, hd⟩
    · rintro ⟨d, hd⟩
      obtain ⟨text, htext⟩ := collect_isOk_iff.1 ⟨c, h⟩ q d hd
      exact ⟨⟨q, text⟩, (mem_units_iff h).2 ⟨d, hd, htext⟩, rfl⟩
  · obtain ⟨text, htext⟩ := collect_isOk_iff.1 ⟨c, h⟩ q d hd
    refine ⟨text, htext, fun u hu hname => ?_⟩
    obtain ⟨e, he, hu'⟩ := (mem_units_iff h).1 hu
    rw [hname] at he hu'
    obtain rfl : d = e := by
      have := (sole_iff.1 hd).symm.trans (sole_iff.1 he)
      simpa using this
    cases u
    cases hname
    rw [htext] at hu'
    cases hu'
    rfl
  · obtain ⟨d, hd, -⟩ := (mem_units_iff h).1 hu
    rw [hname] at hd
    have := hq.length_filter
    simp [sole_iff.1 hd] at this
  · have hle := length_units_le h
    simp only [roundReport, RoundReport.excluded, List.length_map]
    omega
  · rintro before d after rfl hd
    refine collect_units_of_eligible ?_
    simp only [declarations, eligible, List.map_append, List.map_cons, List.filter_append,
      List.filter_cons, hd, Bool.false_eq_true, ↓reduceIte]

end Generator

end PatternFactory
