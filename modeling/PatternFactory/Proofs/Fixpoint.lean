import PatternFactory.Proofs.Calls
import PatternFactory.Proofs.Identity

/-!
# Runs that end well have seen everything

A run reads its sources, and then the units of each of its rounds.  When it ends well,
`RunPlan.run_reaches_fixpoint` states that

* no identity is given to two rounds, nor twice to one;
* the identities that are given to the rounds are those that are found in the sources and in all
  emitted units, so that nothing is left over;
* an identity that turns up first in a unit of one round is given to the next round.

The invariant is that the identities seen so far are those of the rounds so far, and that what has
been read but not seen is what the next round is given.
-/

namespace PatternFactory

namespace RunPlan

variable {σ : Type} {p : RunPlan}

/-! ### What is found -/

/-- The identities of the declarations in some sources. -/
def identities (p : RunPlan) (sources : List SourceFile) : List String :=
  (p.discover sources).map MarkedDeclaration.identity

/-- A declaration of this identity is in one of the units. -/
def FoundIn (p : RunPlan) (units : List GeneratedUnit) (x : String) : Prop :=
  ∃ u ∈ units, ∃ f, u.source = .ok f ∧ x ∈ p.identities [f]

theorem mem_identities {sources : List SourceFile} {x : String} :
    x ∈ p.identities sources ↔ ∃ f ∈ sources, x ∈ p.identities [f] := by
  simp only [identities, discover, List.map_flatMap, List.mem_flatMap, List.mem_singleton,
    exists_eq_left]

theorem foundIn_append {units units' : List GeneratedUnit} {x : String} :
    p.FoundIn (units ++ units') x ↔ p.FoundIn units x ∨ p.FoundIn units' x := by
  simp only [FoundIn, List.mem_append, or_and_right, exists_or]

/-- The sources of the next round are the units of this one. -/
theorem mem_identities_next {r : Round} {next : List SourceFile} (h : r.next = .ok next)
    {x : String} : x ∈ p.identities next ↔ p.FoundIn r.units x := by
  rw [mem_identities]
  simp only [mem_of_mapM_eq_ok (Round.of_next_eq_ok h).2, FoundIn]
  constructor
  · rintro ⟨f, ⟨u, hu, hf⟩, hx⟩
    exact ⟨u, hu, f, hf, hx⟩
  · rintro ⟨u, hu, f, hf, hx⟩
    exact ⟨f, ⟨u, hu, hf⟩, hx⟩

theorem exists_source_of_next {r : Round} {next : List SourceFile} (h : r.next = .ok next)
    {u : GeneratedUnit} (hu : u ∈ r.units) : ∃ f, u.source = .ok f :=
  exists_mapM_eq_ok_iff.1 ⟨next, (Round.of_next_eq_ok h).2⟩ u hu

/-- A round is given the identities that are found and not seen. -/
theorem mem_round_identities {r : Round} {seen : List String} {sources : List SourceFile}
    (h : r.found = p.fresh seen sources) {x : String} :
    x ∈ r.identities ↔ x ∉ seen ∧ x ∈ p.identities sources := by
  rw [Round.identities, h]
  exact mem_identities_unseen

theorem nodup_round_identities {r : Round} {seen : List String} {sources : List SourceFile}
    (h : r.found = p.fresh seen sources) : r.identities.Nodup := by
  rw [Round.identities, h]
  exact nodup_unseen

/-! ### The invariants of a run that ends well -/

variable {emit : Emitter (StateM σ)} {left : Nat} {seen : List String} {sources : List SourceFile}
  {s s' : σ} {c : Course}

/-- What a round is given was neither seen before nor is it given to a later round. -/
theorem Runs.nodup (h : p.Runs emit left seen sources s c s') (hok : c.result = .ok ()) :
    (c.rounds.flatMap Round.identities).Nodup ∧
      ∀ x ∈ c.rounds.flatMap Round.identities, x ∉ seen := by
  induction h with
  | settled => exact ⟨List.nodup_nil, nofun⟩
  | exhausted => cases hok
  | failed => cases hok
  | round hfound _ _ _ _ ih =>
    -- to the later rounds the identities of this one are seen
    obtain ⟨hnodup, hnew⟩ := ih hok
    simp only [Course.behind, List.flatMap_cons]
    refine ⟨List.nodup_append.2 ⟨nodup_round_identities hfound, hnodup, ?_⟩, ?_⟩
    · rintro x hx _ hy rfl
      exact hnew x hy (List.mem_append_right _ hx)
    · intro x hx
      rcases List.mem_append.1 hx with hx | hx
      · exact ((mem_round_identities hfound).1 hx).1
      · exact fun hseen => hnew x hx (List.mem_append_left _ hseen)

/-- Whatever is found in the sources or in a unit has been seen or is given to a round, and nothing
else is given to a round. -/
theorem Runs.mem_rounds_iff (h : p.Runs emit left seen sources s c s') (hok : c.result = .ok ())
    (x : String) : x ∈ c.rounds.flatMap Round.identities ↔
      x ∉ seen ∧ (x ∈ p.identities sources ∨ p.FoundIn (c.rounds.flatMap Round.units) x) := by
  induction h with
  | @settled _ seen sources _ hfresh =>
    -- nothing is new, so whatever is found was seen
    have hnone : ¬ (x ∉ seen ∧ x ∈ p.identities sources) := by
      rw [identities, ← mem_identities_unseen, ← fresh, hfresh]
      exact List.not_mem_nil
    simpa [FoundIn] using hnone
  | exhausted => cases hok
  | failed => cases hok
  | @round _ seen sources _ _ r _ _ _ _ hfound _ _ hnext _ ih =>
    -- this round takes what is new in the sources, the later ones what is new in the units
    have hr : x ∈ r.identities ↔ x ∉ seen ∧ x ∈ p.identities sources :=
      mem_round_identities hfound
    simp only [Course.behind, List.flatMap_cons, List.mem_append, foundIn_append, ih hok,
      mem_identities_next hnext, hr]
    by_cases hseen : x ∈ seen
    · simp [hseen]
    · by_cases hx : x ∈ p.identities sources
      · simp [hseen, hx]
      · simp [hseen, hx]

theorem Runs.exists_source (h : p.Runs emit left seen sources s c s') (hok : c.result = .ok ())
    {u : GeneratedUnit} (hu : u ∈ c.rounds.flatMap Round.units) : ∃ f, u.source = .ok f := by
  induction h with
  | settled => cases hu
  | exhausted => cases hok
  | failed => cases hok
  | round _ _ _ hnext _ ih =>
    rcases List.mem_append.1 hu with hu | hu
    · exact exists_source_of_next hnext hu
    · exact ih hok hu

/-- What is new in the sources is given to the first round. -/
theorem Runs.mem_first_round (h : p.Runs emit left seen sources s c s') (hok : c.result = .ok ())
    {x : String} (hx : x ∈ p.identities sources) (hnew : x ∉ seen) :
    ∃ r, c.rounds[0]? = some r ∧ x ∈ r.identities := by
  cases h with
  | settled hfresh =>
    have hmem := mem_identities_unseen.2 ⟨hnew, hx⟩
    rw [← fresh, hfresh] at hmem
    cases hmem
  | exhausted => cases hok
  | failed => cases hok
  | round hfound => exact ⟨_, rfl, (mem_round_identities hfound).2 ⟨hnew, hx⟩⟩

/-- What turns up first in a unit of one round is given to the next round. -/
theorem Runs.mem_next_round (h : p.Runs emit left seen sources s c s') (hok : c.result = .ok ())
    {k : Nat} {r : Round} (hr : c.rounds[k]? = some r) {x : String} (hx : p.FoundIn r.units x)
    (hseen : x ∉ seen) (hsources : x ∉ p.identities sources)
    (hbefore : ∀ j < k, ∀ r', c.rounds[j]? = some r' → ¬ p.FoundIn r'.units x) :
    ∃ r', c.rounds[k + 1]? = some r' ∧ x ∈ r'.identities := by
  induction h generalizing k with
  | settled => cases hr
  | exhausted => cases hok
  | failed => cases hok
  | @round _ seen sources _ _ r₀ next _ _ _ hfound _ _ hnext hrest ih =>
    have hnew : x ∉ seen ++ r₀.identities := by
      rw [List.mem_append, not_or, mem_round_identities hfound]
      exact ⟨hseen, fun h => hsources h.2⟩
    -- the units of round `k` are the sources of round `k + 1`, so `k` falls along the run
    cases k with
    | zero =>
      cases hr
      exact hrest.mem_first_round hok ((mem_identities_next hnext).2 hx) hnew
    | succ k =>
      refine ih hok hr hnew (fun h => ?_) fun j hj r' hr' => ?_
      · exact hbefore 0 (Nat.succ_pos k) r₀ rfl ((mem_identities_next hnext).1 h)
      · exact hbefore (j + 1) (Nat.succ_lt_succ hj) r' hr'

/-- No more rounds are begun than are left, and each is given something. -/
theorem Runs.length_rounds_le (h : p.Runs emit left seen sources s c s') :
    c.rounds.length ≤ left ∧ ∀ r ∈ c.rounds, r.found ≠ [] := by
  induction h with
  | settled => exact ⟨Nat.zero_le _, nofun⟩
  | exhausted => exact ⟨Nat.zero_le _, nofun⟩
  | failed _ hne => exact ⟨Nat.succ_le_succ (Nat.zero_le _), by simpa using hne⟩
  | round _ hne _ _ _ ih =>
    exact ⟨Nat.succ_le_succ ih.1, List.forall_mem_cons.2 ⟨hne, ih.2⟩⟩

/-! ### Runs that end well -/

/-- These rounds have dealt with the sources and with everything that came of them. -/
structure Exhausts (p : RunPlan) (sources : List SourceFile) (rounds : List Round) : Prop where
  /-- No identity is given to two rounds, nor twice to one. -/
  nodup : (rounds.flatMap Round.identities).Nodup
  /-- All units can be read. -/
  readable : ∀ u ∈ rounds.flatMap Round.units, ∃ f, u.source = .ok f
  /-- The rounds are given what is found in the sources and in the units. -/
  mem_iff (x : String) : x ∈ rounds.flatMap Round.identities ↔
    x ∈ p.identities sources ∨ p.FoundIn (rounds.flatMap Round.units) x
  /-- What is in the sources is given to the first round. -/
  first_round (x : String) (hx : x ∈ p.identities sources) :
    ∃ r, rounds[0]? = some r ∧ x ∈ r.identities
  /-- What turns up first in a unit of a round is given to the next round. -/
  next_round (k : Nat) (r : Round) (x : String) (hr : rounds[k]? = some r)
    (hx : p.FoundIn r.units x) (hsources : x ∉ p.identities sources)
    (hbefore : ∀ j < k, ∀ r', rounds[j]? = some r' → ¬ p.FoundIn r'.units x) :
    ∃ r', rounds[k + 1]? = some r' ∧ x ∈ r'.identities

theorem Runs.exhausts (h : p.Runs emit left [] sources s c s') (hok : c.result = .ok ()) :
    p.Exhausts sources c.rounds where
  nodup := (h.nodup hok).1
  readable _ hu := h.exists_source hok hu
  mem_iff x := by simpa using h.mem_rounds_iff hok x
  first_round _ hx := h.mem_first_round hok hx List.not_mem_nil
  next_round _ _ _ hr hx hsources hbefore :=
    h.mem_next_round hok hr hx List.not_mem_nil hsources hbefore

/-- **A run that ends well ends at a fixpoint.**  Its rounds exhaust the sources, and their units
are all that the emitter was given.  There is a report on each round, from number 1 on; no more
rounds than allowed were done, and each dealt with some declaration. -/
theorem run_reaches_fixpoint (p : RunPlan) (emit : Emitter (StateM σ)) (sources : List SourceFile)
    (s : σ) (reports : List RoundReport)
    (h : ((p.run emit sources).run s).1.result = .ok reports) :
    let rounds := ((p.course emit sources).run s).1.rounds
    p.Exhausts sources rounds ∧
      ((p.run emit.logged sources).run (s, [])).2.2 = rounds.flatMap Round.units ∧
      reports = (rounds.mapIdx fun i r => roundReport (i + 1) r.found r.units) ∧
      reports.map RoundReport.round = List.range' 1 reports.length ∧
      reports.length ≤ max 1 p.roundLimit ∧
      ∀ r ∈ reports, 0 < r.declarations := by
  obtain ⟨⟨c, s'⟩, hc⟩ : ∃ x, (p.course emit sources).run s = x := ⟨_, rfl⟩
  have hruns : p.Runs emit p.rounds [] sources s c s' := runs_iff.2 hc
  rw [hruns.run_eq] at h
  obtain ⟨hok, rfl⟩ : c.result = .ok () ∧ c.reports = reports := by
    simp only [Course.reported] at h
    cases hresult : c.result with
    | error failure => rw [hresult] at h; cases h
    | ok _ => rw [hresult] at h; cases h; exact ⟨rfl, rfl⟩
  obtain ⟨calls, hlogged, hcalls⟩ := runs_logged hruns []
  obtain ⟨hlength, hne⟩ := hruns.length_rounds_le
  simp only [hc]
  refine ⟨hruns.exhausts hok, ?_, rfl, ?_, ?_, ?_⟩
  · rw [hlogged.run_eq, ← hcalls hok, List.nil_append]
  · refine List.ext_getElem (by simp) fun i hi _ => ?_
    simp [Course.reports, roundReport, Nat.add_comm]
  · rw [Course.reports, List.length_mapIdx]
    exact hlength
  · intro report hreport
    obtain ⟨i, hi, rfl⟩ := List.mem_mapIdx.1 hreport
    exact List.length_pos_of_ne_nil (hne _ (List.getElem_mem hi))

/-- A plan under which every unit declares an empty module `B`. -/
def chainPlan : RunPlan :=
  ⟨⟨⟨"p", "u"⟩, "S", 8, fun _ _ => some "#[p]mod B{}"⟩, 2, "p"⟩

/-- A source that declares a module with one extractor. -/
def chainSource : SourceFile :=
  ⟨⟨"a.rs"⟩, .root, (File.ofText "#[p]mod A{#[u]pub fn f(v:u8)->Option<()>{}}").toOption.getD []⟩

/-- The unit of the first round is read as a source, and its declaration gets no unit. -/
theorem chain_reaches_fixpoint :
    let emit : Emitter (StateM UnitStore) := UnitStore.emitter
    ((chainPlan.run emit [chainSource]).run .empty).1.result =
        .ok [⟨1, 1, [⟨.root, "AS"⟩]⟩, ⟨2, 1, []⟩] ∧
      chainPlan.Exhausts [chainSource]
        ((chainPlan.course emit [chainSource]).run .empty).1.rounds := by
  intro emit
  have h : ((chainPlan.run emit [chainSource]).run .empty).1.result =
      .ok [⟨1, 1, [⟨.root, "AS"⟩]⟩, ⟨2, 1, []⟩] := by decide +kernel
  exact ⟨h, (run_reaches_fixpoint chainPlan emit [chainSource] .empty _ h).1⟩

end RunPlan

end PatternFactory
