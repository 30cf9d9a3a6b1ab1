import PatternFactory.Proofs.Collecting
import PatternFactory.Proofs.Violations

/-!
# What a round reports

A round reports first on each declaration by itself and then on the names that several declarations
derive.  The report on a declaration is a warning if it has no extractors, and else an error for
each rule that one of them violates (`Declaration.IsReport`); the report on a name has an error for
each of the declarations that derive it, which mentions the others (`IsCollisionReport`).  The
diagnostics of a round are these reports and nothing else (`Generator.IsDiagnosis`).

So no declaration is left out without a word: each has a unit and no diagnostic, or no unit and a
diagnostic (`Generator.collect_reports`).
-/

namespace PatternFactory

/-! ### Reports -/

namespace Declaration

/-- The diagnostics about an extractor: an error for each rule that it violates, in the order of the
rules, at the line of the function. -/
def IsExtractorReport (d : Declaration) (limit : Nat) (m : Method) (ds : List Diagnostic) : Prop :=
  ∃ rules : List Rule, (∀ r, r ∈ rules ↔ m.Violates limit r) ∧
    (rules.Pairwise fun r r' => r.rank < r'.rank) ∧
    ds = rules.map fun r =>
      ⟨.error, r.text, ⟨d.displayName, some m.name, ⟨d.origin.file, m.line⟩⟩, some r.name⟩

/-- The diagnostics about a declaration by itself: a warning if it has no extractors, and else the
diagnostics about each of them in turn. -/
def IsReport (d : Declaration) (limit : Nat) (ds : List Diagnostic) : Prop :=
  (d.extractors = [] →
    ds = [⟨.warning, "No #[unapply] functions found.", ⟨d.displayName, none, d.origin⟩, none⟩]) ∧
  (d.extractors ≠ [] →
    ∃ parts, List.Forall₂ (d.IsExtractorReport limit) d.extractors parts ∧ ds = parts.flatten)

/-- Compares declarations by their origins. -/
def byOrigin (a b : Declaration) : Ordering := compare a.origin b.origin

instance : Std.TransCmp byOrigin :=
  inferInstanceAs (Std.TransCmp (compareOn Declaration.origin))

/-- How a declaration is mentioned to the others that derive its name. -/
def mention (d : Declaration) : String := "`" ++ d.displayName ++ "` at " ++ d.origin.text

/-- The error about a declaration that derives a name with others. -/
def collision (d : Declaration) (name : QualifiedName) (others : List Declaration) : Diagnostic :=
  ⟨.error, "name collision: derived unit `" ++ name.text ++ "` is also produced by "
    ++ ", ".intercalate (others.map mention), ⟨d.displayName, none, d.origin⟩,
    some "name collision"⟩

end Declaration

/-- The diagnostics about a name that the parties derive: one for each of them, in the order of
their origins (and as they stand where these are the same), with a mention of each of the others. -/
def IsCollisionReport (name : QualifiedName) (parties : List Declaration)
    (ds : List Diagnostic) : Prop :=
  ∃ sorted : List Declaration, sorted.Perm parties ∧
    (sorted.Pairwise fun a b => (a.byOrigin b).isLE) ∧
    (∀ d : Declaration, sorted.filter (fun e => d.byOrigin e = .eq) =
      parties.filter fun e => d.byOrigin e = .eq) ∧
    ds.length = sorted.length ∧
    ∀ before d after, sorted = before ++ d :: after →
      ds[before.length]? = some (d.collision name (before ++ after))

namespace Generator

/-- The diagnostics are the reports on the declarations one after the other, and behind them those
on the names that are contested, in the order of the names. -/
structure IsDiagnosis (g : Generator) (found : List MarkedDeclaration) (ds : List Diagnostic)
    (own : List (List Diagnostic)) (names : List QualifiedName)
    (collisions : List (List Diagnostic)) : Prop where
  eq_append : ds = own.flatten ++ collisions.flatten
  own : List.Forall₂ (fun d part => (d.declaration g.markers).IsReport g.arityLimit part) found own
  sorted : names.Pairwise fun a b => compare a b = .lt
  mem_names : ∀ q, q ∈ names ↔ g.Contested found q
  collisions : List.Forall₂
    (fun q part => IsCollisionReport q
      ((found.filter (g.derives q)).map (MarkedDeclaration.declaration g.markers)) part)
    names collisions

end Generator

/-! ### The report on a declaration -/

namespace Declaration

variable (d : Declaration) {limit : Nat}

theorem isExtractorReport_extractorDiagnostics (m : Method) :
    d.IsExtractorReport limit m (d.extractorDiagnostics limit m) :=
  ⟨m.violations limit, fun _ => Method.mem_violations, m.pairwise_violations limit, rfl⟩

theorem isReport_diagnostics : d.IsReport limit (d.diagnostics limit) := by
  constructor
  · intro h
    simp only [diagnostics, h, List.isEmpty_nil, if_true]
  · intro h
    refine ⟨d.extractors.map (d.extractorDiagnostics limit), ?_, ?_⟩
    · rw [List.forall₂_map_right_iff, List.forall₂_same]
      exact fun m _ => d.isExtractorReport_extractorDiagnostics m
    · rw [diagnostics, if_neg (by simpa using h), List.flatMap]

/-- A declaration is eligible if there is nothing to report on it. -/
theorem diagnostics_eq_nil_iff : d.diagnostics limit = [] ↔ d.isEligible limit = true := by
  rw [diagnostics, isEligible]
  cases h : d.extractors with
  | nil => simp
  | cons m rest => simp [extractorDiagnostics]

end Declaration

/-! ### The report on a name -/

/-- What gives nothing may be left out. -/
theorem flatten_map_filter {α β : Type} {f : α → List β} {p : α → Bool} {l : List α}
    (h : ∀ a ∈ l, p a = false → f a = []) : ((l.filter p).map f).flatten = l.flatMap f := by
  induction l with
  | nil => rfl
  | cons a l ih =>
    obtain ⟨ha, hl⟩ := List.forall_mem_cons.1 h
    rw [List.flatMap_cons, ← ih hl]
    cases hp : p a with
    | true => rw [List.filter_cons_of_pos hp, List.map_cons, List.flatten_cons]
    | false => rw [List.filter_cons_of_neg (by simp [hp]), ha hp, List.nil_append]

theorem isCollisionReport_collisionDiagnostics (name : QualifiedName) (parties : List Declaration) :
    IsCollisionReport name parties (collisionDiagnostics name parties) := by
  refine ⟨parties.mergeSort fun a b => (Declaration.byOrigin a b).isLE, List.mergeSort_perm _ _,
    pairwise_mergeSort parties, fun d => filter_mergeSort d parties, ?length, ?entry⟩
  case length =>
    rw [collisionDiagnostics, List.length_map, List.length_zipIdx]
    rfl
  case entry =>
    intro before d after hsorted
    change parties.mergeSort (fun a b => (compare a.origin b.origin).isLE) = _ at hsorted
    have hothers : (before ++ d :: after).eraseIdx before.length = before ++ after := by
      rw [List.eraseIdx_append_of_length_le (Nat.le_refl _), Nat.sub_self, List.eraseIdx_cons_zero]
    have hself : (before ++ d :: after)[before.length]? = some d := by simp
    simp only [collisionDiagnostics, hsorted, List.getElem?_map, List.getElem?_zipIdx, hself,
      Option.map_some, Nat.zero_add, hothers]
    rfl

namespace Generator

variable {g : Generator} {found : List MarkedDeclaration} {q : QualifiedName}

theorem contested_iff : g.Contested found q ↔ 2 ≤ (found.filter (g.derives q)).length := by
  refine ⟨Contested.length_filter, fun h => ?_⟩
  rcases hfilter : found.filter (g.derives q) with _ | ⟨d, _ | ⟨e, rest⟩⟩
  · simp [hfilter] at h
  · simp [hfilter] at h
  · obtain ⟨before, tail, rfl, -, hd, htail⟩ := List.filter_eq_cons_iff.1 hfilter
    obtain ⟨between, after, rfl, -, he, -⟩ := List.filter_eq_cons_iff.1 htail
    exact ⟨before, d, between, e, after, rfl, hd, he⟩

/-- There is nothing to report on a name that is not contested. -/
theorem nameDiagnostics_of_not_contested (hq : q ∈ g.unitNames (g.declarations found))
    (h : ¬ g.Contested found q) : g.nameDiagnostics (g.declarations found) q = [] := by
  obtain ⟨d, hd, hderives⟩ := mem_unitNames.1 hq
  have hmem : d ∈ found.filter (g.derives q) := List.mem_filter.2 ⟨hd, hderives⟩
  rw [contested_iff] at h
  rw [nameDiagnostics, parties_eq]
  rcases hfilter : found.filter (g.derives q) with _ | ⟨_, _ | _⟩
  · simp [hfilter] at hmem
  · rfl
  · simp [hfilter] at h

theorem nameDiagnostics_of_contested (h : g.Contested found q) :
    g.nameDiagnostics (g.declarations found) q =
      collisionDiagnostics q (g.parties (g.declarations found) q) := by
  have hlength := h.length_filter
  rw [nameDiagnostics, parties_eq]
  rcases hfilter : found.filter (g.derives q) with _ | ⟨_, _ | _⟩
  · rfl
  · simp [hfilter] at hlength
  · rfl

/-- The names that several declarations derive, in their order. -/
def contestedNames (g : Generator) (found : List MarkedDeclaration) : List QualifiedName :=
  (g.unitNames (g.declarations found)).filter fun q => 2 ≤ (found.filter (g.derives q)).length

theorem mem_contestedNames : q ∈ g.contestedNames found ↔ g.Contested found q := by
  rw [contestedNames, List.mem_filter, decide_eq_true_iff, ← contested_iff]
  refine ⟨And.right, fun h => ⟨?_, h⟩⟩
  obtain ⟨before, d, between, e, after, rfl, hd, -⟩ := h
  exact mem_unitNames.2 ⟨d, by simp, hd⟩

/-- The diagnostics of a round are the reports on its declarations and on its contested names. -/
theorem isDiagnosis_diagnostics (g : Generator) (found : List MarkedDeclaration) :
    g.IsDiagnosis found (g.diagnostics (g.declarations found))
      ((g.declarations found).map fun d => d.diagnostics g.arityLimit) (g.contestedNames found)
      ((g.contestedNames found).map (g.nameDiagnostics (g.declarations found))) where
  eq_append := by
    rw [diagnostics, List.flatMap, contestedNames, flatten_map_filter]
    intro q hq hfew
    refine nameDiagnostics_of_not_contested hq fun hcontested => ?_
    exact absurd (contested_iff.1 hcontested) (of_decide_eq_false hfew)
  own := by
    rw [declarations, List.map_map, List.forall₂_map_right_iff, List.forall₂_same]
    exact fun d _ => (d.declaration g.markers).isReport_diagnostics
  sorted := (pairwise_distinctNames _).sublist List.filter_sublist
  mem_names _ := mem_contestedNames
  collisions := by
    rw [List.forall₂_map_right_iff, List.forall₂_same]
    intro q hq
    rw [nameDiagnostics_of_contested (mem_contestedNames.1 hq), parties_eq]
    exact isCollisionReport_collisionDiagnostics q _

/-! ### No declaration is left out without a word -/

theorem derives_iff {d : MarkedDeclaration} :
    g.derives q d ↔ (d.declaration g.markers).isEligible g.arityLimit = true ∧
      (d.declaration g.markers).unitName g.suffix = q := by
  rw [derives, Bool.and_eq_true, decide_eq_true_iff]

/-- A declaration of the round that is alone in deriving a name is the one with its unit. -/
theorem sole_of_not_contested {d : MarkedDeclaration} (hd : d ∈ found) (hderives : g.derives q d)
    (h : ¬ g.Contested found q) : g.Sole found q d := by
  have hmem : d ∈ found.filter (g.derives q) := List.mem_filter.2 ⟨hd, hderives⟩
  rw [contested_iff, Nat.not_le] at h
  rw [sole_iff]
  obtain ⟨e, he⟩ := List.length_eq_one_iff.1
    (Nat.le_antisymm (Nat.le_of_lt_succ h) (List.length_pos_of_mem hmem))
  rw [he, List.mem_singleton] at hmem
  rw [he, hmem]

/-- A contested name has no unit. -/
theorem not_contested_of_mem_units {c : Collection} (hc : g.collect found = .ok c)
    {u : GeneratedUnit} (hu : u ∈ c.units) : ¬ g.Contested found u.name := by
  obtain ⟨d, hd, -⟩ := (mem_units_iff hc).1 hu
  rw [contested_iff, sole_iff.1 hd]
  simp

/-- Each party to a contested name has an error in the report on the name. -/
theorem exists_mem_collisionReport {ds : List Diagnostic} {parties : List Declaration}
    (h : IsCollisionReport q parties ds) {d : Declaration} (hd : d ∈ parties) :
    ∃ x ∈ ds, x.severity = .error ∧ x.attribution = ⟨d.displayName, none, d.origin⟩ := by
  obtain ⟨sorted, hperm, -, -, -, hentry⟩ := h
  obtain ⟨before, after, hsplit⟩ := List.append_of_mem (hperm.mem_iff.2 hd)
  exact ⟨_, List.mem_of_getElem? (hentry before d after hsplit), rfl, rfl⟩

/-- **No declaration is left out without a word.**  The diagnostics of a round are the reports on
its declarations, in the order of the declarations, and then those on the names that several
eligible declarations derive, in the order of the names.  The round returns them with its units
unless the renderer has no text for a declaration that is alone in deriving its name.  Then each
declaration either derives the name of a unit, with the text that is rendered for it, and has an
empty report and no contested name; or it derives the name of no unit, and its own report is not
empty or there is an error about it in the report on the name that it derives. -/
theorem collect_reports (g : Generator) (found : List MarkedDeclaration) :
    ∃ (own : List (List Diagnostic)) (names : List QualifiedName)
        (collisions : List (List Diagnostic)),
      g.IsDiagnosis found (g.diagnostics (g.declarations found)) own names collisions ∧
      ((∃ c, g.collect found = .ok c) ↔ ∀ q d, g.Sole found q d →
        ∃ text, g.renderer q.name (d.declaration g.markers) = some text) ∧
      ∀ c, g.collect found = .ok c → c.diagnostics = g.diagnostics (g.declarations found) ∧
        ∀ (i : Nat) (d : MarkedDeclaration) (part : List Diagnostic),
          found[i]? = some d → own[i]? = some part →
            ((∃ u ∈ c.units, g.derives u.name d ∧
                g.renderer u.name.name (d.declaration g.markers) = some u.text) ∧
              part = [] ∧ ∀ q ∈ names, ¬ g.derives q d) ∨
            ((∀ u ∈ c.units, ¬ g.derives u.name d) ∧
              (part ≠ [] ∨ ∃ (j : Nat) (q : QualifiedName) (report : List Diagnostic),
                names[j]? = some q ∧ collisions[j]? = some report ∧ g.derives q d ∧
                ∃ x ∈ report, x.severity = .error ∧
                  x.attribution = ⟨(d.declaration g.markers).displayName, none, d.origin⟩)) := by
  refine ⟨_, _, _, g.isDiagnosis_diagnostics found, collect_isOk_iff, fun c hc => ?_⟩
  refine ⟨?diagnostics, fun i d part hd hpart => ?_⟩
  case diagnostics =>
    obtain ⟨_, -, rfl⟩ := collect_eq_ok_iff.1 hc
    rfl
  have hmem : d ∈ found := List.mem_of_getElem? hd
  have hpart' : part = (d.declaration g.markers).diagnostics g.arityLimit := by
    simpa [declarations, hd, eq_comm] using hpart
  cases heligible : (d.declaration g.markers).isEligible g.arityLimit with
  | false =>
    refine .inr ⟨fun u _ hderives => ?_, .inl fun hnil => ?_⟩
    · rw [(derives_iff.1 hderives).1] at heligible
      cases heligible
    · rw [hpart', Declaration.diagnostics_eq_nil_iff, heligible] at hnil
      cases hnil
  | true =>
    have hpartnil : part = [] := hpart'.trans ((Declaration.diagnostics_eq_nil_iff _).2 heligible)
    let q := (d.declaration g.markers).unitName g.suffix
    have hderives : g.derives q d := derives_iff.2 ⟨heligible, rfl⟩
    have honly (q' : QualifiedName) (h : g.derives q' d) : q' = q := (derives_iff.1 h).2.symm
    by_cases hcontested : g.Contested found q
    · refine .inr ⟨fun u hu h => ?_, .inr ?_⟩
      · exact not_contested_of_mem_units hc hu (honly u.name h ▸ hcontested)
      · obtain ⟨j, hj⟩ := List.mem_iff_getElem?.1 (mem_contestedNames.2 hcontested)
        refine ⟨j, q, g.nameDiagnostics (g.declarations found) q, hj, ?_, hderives, ?_⟩
        · rw [List.getElem?_map, hj, Option.map_some]
        · rw [nameDiagnostics_of_contested hcontested, parties_eq]
          refine exists_mem_collisionReport (isCollisionReport_collisionDiagnostics q _)
            (d := d.declaration g.markers) ?_
          exact List.mem_map_of_mem (List.mem_filter.2 ⟨hmem, hderives⟩)
    · have hsole := sole_of_not_contested hmem hderives hcontested
      obtain ⟨text, htext⟩ := collect_isOk_iff.1 ⟨c, hc⟩ q d hsole
      refine .inl ⟨⟨⟨q, text⟩, ?_, hderives, htext⟩, hpartnil, fun q' hq' h => ?_⟩
      · exact (mem_units_iff hc).2 ⟨d, hsole, htext⟩
      · exact hcontested (mem_contestedNames.1 (honly q' h ▸ hq'))

end Generator

end PatternFactory
