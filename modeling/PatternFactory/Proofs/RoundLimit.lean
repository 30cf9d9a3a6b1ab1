import PatternFactory.Proofs.Fixpoint

/-!
# The limit of rounds

A run that is allowed more rounds does what it did before, and perhaps more.

* If it did not end because no round was left, the larger limit changes nothing (`Runs.mono`).
* Otherwise all its rounds are done, and it is the beginning of the run with the larger limit
  (`Runs.exists_longer`).

The limit is looked at when something new is found, before anything is emitted.  So a run ends at
its limit exactly if its last round is done and left something new in its units
(`Runs.ends_at_limit_iff`), which is when one round more would have been begun.
`RunPlan.run_of_limits` puts this together for two limits.
-/

namespace PatternFactory

namespace RunPlan

variable {σ : Type} {p : RunPlan}

/-- The plan with another limit of rounds. -/
def withLimit (p : RunPlan) (limit : Nat) : RunPlan := { p with roundLimit := limit }

theorem rounds_withLimit {limit : Nat} (h : 1 ≤ limit) : (p.withLimit limit).rounds = limit :=
  Nat.max_eq_right h

/-- The failure of a run for which no round is left. -/
def atLimit (p : RunPlan) : Failure := .roundLimit p.rounds p.marker

theorem fresh_ne_nil_iff {seen : List String} {sources : List SourceFile} :
    p.fresh seen sources ≠ [] ↔ ∃ x ∈ p.identities sources, x ∉ seen := by
  have hmem : ∀ x, x ∈ (p.fresh seen sources).map MarkedDeclaration.identity ↔
      x ∉ seen ∧ x ∈ p.identities sources := fun x => mem_identities_unseen
  constructor
  · intro h
    obtain ⟨d, hd⟩ := List.exists_mem_of_ne_nil _ h
    obtain ⟨hnew, hfound⟩ := (hmem d.identity).1 (List.mem_map_of_mem hd)
    exact ⟨_, hfound, hnew⟩
  · rintro ⟨x, hfound, hnew⟩ h
    have := (hmem x).2 ⟨hnew, hfound⟩
    rw [h] at this
    cases this

variable {emit : Emitter (StateM σ)} {left left' : Nat} {seen : List String}
  {sources : List SourceFile} {s s' : σ} {c : Course}

/-! ### Ending at the limit -/

theorem Runs.length_rounds_of_limit (h : p.Runs emit left seen sources s c s')
    (hc : c.result = .error p.atLimit) : c.rounds.length = left := by
  induction h with
  | settled => cases hc
  | exhausted => rfl
  | failed _ _ hround hnext =>
    exact absurd (Except.error.inj hc) (Round.failure_ne_roundLimit hround hnext _ _)
  | round _ _ _ _ _ ih => exact congrArg Nat.succ (ih hc)

/-- A run ends at its limit exactly if its last round is done and leaves something new. -/
theorem Runs.ends_at_limit_iff (h : p.Runs emit (left + 1) seen sources s c s') :
    c.result = .error p.atLimit ↔ ∃ r next, c.rounds[left]? = some r ∧ r.next = .ok next ∧
      p.fresh (seen ++ c.rounds.flatMap Round.identities) next ≠ [] := by
  induction left generalizing seen sources s c with
  | zero =>
    cases h with
    | settled => simp
    | @failed _ _ _ _ _ r _ _ _ _ hround hnext =>
      refine iff_of_false (fun hc => ?_) ?_
      · exact Round.failure_ne_roundLimit hround hnext _ _ (Except.error.inj hc)
      · rintro ⟨_, next, hr, hok, -⟩
        cases hr
        rw [hnext] at hok
        cases hok
    | @round _ _ _ _ _ r next _ c _ _ _ _ hnext hrest =>
      cases hrest with
      | settled hfresh =>
        refine iff_of_false nofun ?_
        rintro ⟨_, next', hr, hok, hne⟩
        cases hr
        obtain rfl : next = next' := Except.ok.inj (hnext.symm.trans hok)
        exact hne (by simpa [Course.behind] using hfresh)
      | exhausted hfresh =>
        exact iff_of_true rfl ⟨r, next, rfl, hnext, by simpa [Course.behind] using hfresh⟩
  | succ left ih =>
    cases h with
    | settled => simp
    | failed _ _ hround hnext =>
      refine iff_of_false (fun hc => ?_) (by simp)
      exact Round.failure_ne_roundLimit hround hnext _ _ (Except.error.inj hc)
    | round _ _ _ _ hrest =>
      simpa [Course.behind, List.append_assoc] using ih hrest

/-! ### More rounds -/

/-- A run that did not end at its limit is the same with a larger one. -/
theorem Runs.mono (h : p.Runs emit left seen sources s c s') (hc : c.result ≠ .error p.atLimit)
    (limit : Nat) (hle : left ≤ left') :
    (p.withLimit limit).Runs emit left' seen sources s c s' := by
  induction h generalizing left' with
  | settled hfresh => exact .settled hfresh
  | exhausted => exact absurd rfl hc
  | failed hfound hne hround hnext =>
    obtain ⟨k, rfl⟩ := Nat.exists_eq_succ_of_ne_zero (Nat.ne_zero_of_lt hle)
    exact .failed hfound hne hround hnext
  | round hfound hne hround hnext _ ih =>
    obtain ⟨k, rfl⟩ := Nat.exists_eq_succ_of_ne_zero (Nat.ne_zero_of_lt hle)
    exact .round hfound hne hround hnext (ih hc (Nat.le_of_succ_le_succ hle))

/-- What a run with something new and a round left begins with. -/
theorem Runs.begins (h : p.Runs emit left seen sources s c s')
    (hfresh : p.fresh seen sources ≠ []) :
    p.markerDiagnostics sources <+: c.diagnostics ∧ (0 < left → 0 < c.rounds.length) := by
  cases h with
  | settled hnone => exact absurd hnone hfresh
  | exhausted => exact ⟨List.prefix_refl _, fun h => absurd h (Nat.lt_irrefl 0)⟩
  | failed => exact ⟨List.prefix_append _ _, fun _ => Nat.one_pos⟩
  | round =>
    refine ⟨?_, fun _ => Nat.succ_pos _⟩
    rw [Course.behind, List.append_assoc]
    exact List.prefix_append _ _

/-- A run that ended at its limit is the beginning of one with a larger limit, which begins another
round. -/
theorem Runs.exists_longer (h : p.Runs emit left seen sources s c s')
    (hc : c.result = .error p.atLimit) (limit : Nat) (hle : left ≤ left') :
    ∃ c' s'', (p.withLimit limit).Runs emit left' seen sources s c' s'' ∧
      c.rounds <+: c'.rounds ∧ c.diagnostics <+: c'.diagnostics ∧
      (left < left' → left < c'.rounds.length) := by
  induction h generalizing left' with
  | settled => cases hc
  | @exhausted seen sources s hfresh =>
    have hruns : (p.withLimit limit).Runs emit left' seen sources s _ _ := runs_courseFrom
    obtain ⟨hdiagnostics, hround⟩ := hruns.begins hfresh
    exact ⟨_, _, hruns, List.nil_prefix, hdiagnostics, hround⟩
  | failed _ _ hround hnext =>
    exact absurd (Except.error.inj hc) (Round.failure_ne_roundLimit hround hnext _ _)
  | round hfound hne hround hnext _ ih =>
    obtain ⟨k, rfl⟩ := Nat.exists_eq_succ_of_ne_zero (Nat.ne_zero_of_lt hle)
    obtain ⟨c', s'', hruns, hrounds, hdiagnostics, hlonger⟩ := ih hc (Nat.le_of_succ_le_succ hle)
    refine ⟨_, _, .round hfound hne hround hnext hruns, List.cons_prefix_cons.2 ⟨rfl, hrounds⟩,
      (List.prefix_append_right_inj _).2 hdiagnostics, fun hlt => ?_⟩
    exact Nat.succ_lt_succ (hlonger (Nat.lt_of_succ_lt_succ hlt))

/-! ### Two limits -/

/-- **The limit of rounds cuts a run off and changes nothing else.**  With a limit `m` at most `m`
rounds are begun.  Unless the run ends at its limit, a larger limit changes neither its outcome nor
its diagnostics, its calls, or the state of the emitter.  It ends at its limit exactly if one round
more would have been begun with one more allowed, that is, if round `m` is done and leaves a
declaration in its units that was given to no round.  Then the emitter was given the units of the
`m` rounds and took them all, and the calls and the diagnostics are the beginning of those with a
larger limit. -/
theorem run_of_limits (p : RunPlan) (emit : Emitter (StateM σ)) (sources : List SourceFile) (s : σ)
    (m m' : Nat) (hm : 1 ≤ m) (hle : m ≤ m') :
    let run := fun k => ((p.withLimit k).run emit sources).run s
    let rounds := fun k => (((p.withLimit k).course emit sources).run s).1.rounds
    let calls := fun k => (((p.withLimit k).run emit.logged sources).run (s, [])).2.2
    (rounds m).length ≤ m ∧
    ((∀ k w, (run m).1.result ≠ .error (.roundLimit k w)) →
      run m' = run m ∧ calls m' = calls m) ∧
    ((run m).1.result = .error (.roundLimit m p.marker) ↔ (rounds (m + 1)).length = m + 1) ∧
    ((run m).1.result = .error (.roundLimit m p.marker) ↔
      ∃ r next, (rounds m)[m - 1]? = some r ∧ r.next = .ok next ∧
        ∃ x, p.FoundIn r.units x ∧ x ∉ (rounds m).flatMap Round.identities) ∧
    ((run m).1.result = .error (.roundLimit m p.marker) →
      (rounds m).length = m ∧ rounds m <+: rounds m' ∧
      calls m = (rounds m).flatMap Round.units ∧
      (emitAll emit (calls m)).run s = (.ok (), (run m).2) ∧
      calls m <+: calls m' ∧ (run m).1.diagnostics <+: (run m').1.diagnostics) := by
  intro run rounds calls
  have hruns : ∀ k, 1 ≤ k → ∃ c s' parts, (p.withLimit k).Runs emit k [] sources s c s' ∧
      (p.withLimit k).Runs emit.logged k [] sources (s, []) c (s', parts.flatten) ∧
      run k = (c.reported, s') ∧ rounds k = c.rounds ∧ calls k = parts.flatten ∧
      List.Forall₂ (Round.Calls p.generator) c.rounds parts := by
    intro k hk
    have h := (p.withLimit k).exists_run emit sources s
    rwa [rounds_withLimit hk] at h
  obtain ⟨c, s₁, parts, hc, hlogged, hrun, hrounds, hcalls, hparts⟩ := hruns m hm
  obtain ⟨c₁, _, _, hc₁, -, -, hrounds₁, -⟩ := hruns (m + 1) (Nat.le_add_left 1 m)
  obtain ⟨c', _, parts', hc', hlogged', hrun', hrounds', hcalls', hparts'⟩ :=
    hruns m' (Nat.le_trans hm hle)
  have hlimit : (run m).1.result = .error (.roundLimit m p.marker) ↔
      c.result = .error (p.withLimit m).atLimit := by
    rw [hrun, Course.reported_eq_error_iff, atLimit, rounds_withLimit hm]
    rfl
  refine ⟨hrounds ▸ hc.length_rounds_le.1, fun hnot => ?_, ?_, ?_, fun hhit => ?_⟩
  -- A run that does not end at its limit is also the run with the larger one.
  · have hne : c.result ≠ .error (p.withLimit m).atLimit := mt hlimit.2 (hnot _ _)
    obtain ⟨rfl, rfl⟩ := (hc.mono hne m' hle).unique hc'
    have hsame := (hlogged.mono hne m' hle).unique hlogged'
    refine ⟨hrun'.trans hrun.symm, ?_⟩
    rw [hcalls, hcalls', (Prod.mk.inj hsame.2).2]
  -- One round more is begun if the limit was in the way, and else the runs are the same.
  · rw [hlimit, hrounds₁]
    constructor
    · intro hhit
      obtain ⟨_, _, hlonger, -, -, hlength⟩ := hc.exists_longer hhit (m + 1) (Nat.le_succ m)
      obtain ⟨rfl, -⟩ := hlonger.unique hc₁
      exact Nat.le_antisymm hc₁.length_rounds_le.1 (hlength (Nat.lt_succ_self m))
    · intro hlength
      by_contra hne
      obtain ⟨rfl, -⟩ := (hc.mono hne (m + 1) (Nat.le_succ m)).unique hc₁
      have := hc.length_rounds_le.1
      omega
  -- What is left over is something new in the units of the last round.
  · obtain ⟨k, rfl⟩ := Nat.exists_eq_succ_of_ne_zero (Nat.ne_zero_of_lt hm)
    rw [hlimit, hc.ends_at_limit_iff, hrounds]
    simp only [fresh_ne_nil_iff, List.nil_append, Nat.succ_sub_one]
    constructor
    · rintro ⟨r, next, hr, hnext, x, hx, hnew⟩
      exact ⟨r, next, hr, hnext, x, (mem_identities_next hnext).1 hx, hnew⟩
    · rintro ⟨r, next, hr, hnext, x, hx, hnew⟩
      exact ⟨r, next, hr, hnext, x, (mem_identities_next hnext).2 hx, hnew⟩
  -- Every round is done, so the calls are all the units, and the longer run begins with them.
  · have hhit := hlimit.1 hhit
    obtain ⟨hdone, hemits⟩ := hc.rounds_done (.inr hhit)
    have hflatten := Round.flatten_calls_of_done hparts hdone
    obtain ⟨_, _, hlonger, hprefix, hdiagnostics, -⟩ := hc.exists_longer hhit m' hle
    obtain ⟨rfl, -⟩ := hlonger.unique hc'
    obtain ⟨more, hmore⟩ := hprefix
    obtain ⟨rest, -, hflatten'⟩ := Round.flatten_calls (hmore ▸ hparts') hdone
    rw [hrun, hrun', hrounds, hrounds', hcalls, hcalls', hflatten, hflatten']
    exact ⟨hc.length_rounds_of_limit hhit, ⟨more, hmore⟩, rfl, hemits.emitAll_eq,
      List.prefix_append _ _, hdiagnostics⟩

/-- A plan under which every unit declares a module that gets a unit. -/
def relayPlan : RunPlan :=
  ⟨⟨⟨"p", "u"⟩, "S", 8, fun name _ =>
    some ("#[p]mod " ++ name ++ "\x7b#[u]pub fn f(v:u8)->Option<()>\x7bNone\x7d\x7d")⟩, 1, "p"⟩

/-- After one round there is always something new, so the run ends at its limit and has made the
first of the calls that it makes with a larger one. -/
theorem relay_cut_off :
    let emit : Emitter (StateM UnitStore) := UnitStore.emitter
    let run := fun k => ((relayPlan.withLimit k).run emit [chainSource]).run .empty
    let calls := fun k =>
      (((relayPlan.withLimit k).run emit.logged [chainSource]).run (.empty, [])).2.2
    1 ≤ 1 ∧ 1 ≤ 2 ∧ (run 1).1.result = .error (.roundLimit 1 "p") ∧
      (calls 1).map GeneratedUnit.name = [⟨.root, "AS"⟩] ∧ calls 1 <+: calls 2 ∧
      (run 1).1.diagnostics <+: (run 2).1.diagnostics := by
  intro emit run calls
  have hresult : (run 1).1.result = .error (.roundLimit 1 "p") := by decide +kernel
  have hcalls : (calls 1).map GeneratedUnit.name = [⟨.root, "AS"⟩] := by decide +kernel
  obtain ⟨-, -, -, -, hcut⟩ :=
    run_of_limits relayPlan emit [chainSource] .empty 1 2 (by decide) (by decide)
  obtain ⟨-, -, -, -, hprefix, hdiagnostics⟩ := hcut hresult
  exact ⟨by decide, by decide, hresult, hcalls, hprefix, hdiagnostics⟩

end RunPlan

end PatternFactory
