import PatternFactory.Proofs.Calls

/-!
# Emitters that begin to fail

`Emitter.limited` lets an emitter fail every call after the first `n`.  A run with it makes the
calls that it makes without the failures, up to and including the first that fails, and then it
stops: no other unit of the round is handed over, no unit is read as a source, and no round follows.
So the emitter keeps what it took before, and what was reported before stays reported.

This is shown for one handing over of units (`Emits.limited`, `Emits.cut`), for a round
(`Round.Makes.limited`, `Round.Makes.cut`), and, by induction on its rounds, for a run
(`RunPlan.Runs.limited`).
-/

namespace PatternFactory

variable {σ : Type}

/-- The emitter that fails for a given cause when there are no calls left.  The state holds the
number of those that are. -/
def Emitter.limited (cause : FileError) (emit : Emitter (StateM σ)) : Emitter (StateM (σ × Nat)) :=
  fun name text (s, left) =>
    match left with
    | 0 => (.error cause, s, 0)
    | left + 1 =>
      let (r, s) := (emit name text).run s
      (r, s, left)

variable {emit : Emitter (StateM σ)} {cause : FileError} {s s' : σ}

theorem emit_limited_zero {u : GeneratedUnit} :
    (emit.limited cause u.name u.text).run (s, 0) = (.error cause, s, 0) := rfl

theorem emit_limited_succ {u : GeneratedUnit} {answer : Except FileError Unit}
    (h : (emit u.name u.text).run s = (answer, s')) (n : Nat) :
    (emit.limited cause u.name u.text).run (s, n + 1) = (answer, s', n) := by
  change (((emit u.name u.text).run s).1, ((emit u.name u.text).run s).2, n) = _
  rw [h]

/-! ### Handing over units -/

section

variable {units calls : List GeneratedUnit} {result : Except Failure Unit} {n : Nat}

/-- If there are calls enough, nothing fails. -/
theorem Emits.limited (h : Emits emit units s calls result s') (hn : calls.length ≤ n) :
    Emits (emit.limited cause) units (s, n) calls result (s', n - calls.length) := by
  induction h generalizing n with
  | done => exact .done
  | refused hu =>
    obtain ⟨k, rfl⟩ := Nat.exists_eq_succ_of_ne_zero (Nat.ne_zero_of_lt hn)
    exact .refused (emit_limited_succ hu k)
  | taken hu _ ih =>
    obtain ⟨k, rfl⟩ := Nat.exists_eq_succ_of_ne_zero (Nat.ne_zero_of_lt hn)
    rw [List.length_cons, Nat.succ_sub_succ]
    exact .taken (emit_limited_succ hu k) (ih (Nat.le_of_succ_le_succ hn))

/-- Otherwise the first call that is too many fails, and those before it were taken. -/
theorem Emits.cut (h : Emits emit units s calls result s') {u : GeneratedUnit}
    (hu : calls[n]? = some u) :
    ∃ s₁, Emits (emit.limited cause) units (s, n) (calls.take (n + 1))
        (.error (.emission u.name cause)) (s₁, 0) ∧
      Emits emit (calls.take n) s (calls.take n) (.ok ()) s₁ := by
  induction h generalizing n with
  | done => cases hu
  | @refused _ _ s =>
    cases n with
    | zero =>
      cases hu
      exact ⟨s, .refused emit_limited_zero, .done⟩
    | succ => cases hu
  | @taken _ _ s _ _ _ _ hv _ ih =>
    cases n with
    | zero =>
      cases hu
      exact ⟨s, .refused emit_limited_zero, .done⟩
    | succ n =>
      obtain ⟨s₁, hcut, htaken⟩ := ih hu
      exact ⟨s₁, .taken (emit_limited_succ hv n) hcut, .taken hv htaken⟩

end

/-! ### Rounds -/

namespace Round

variable {g : Generator} {r : Round} {own : List Diagnostic} {calls : List GeneratedUnit} {n : Nat}

theorem Makes.limited (h : r.Makes g emit s calls own s') (hn : calls.length ≤ n) :
    r.Makes g (emit.limited cause) (s, n) calls own (s', n - calls.length) := by
  cases h with
  | uncollected hc hr => exact .uncollected hc hr
  | handed hc he hr => exact .handed hc (he.limited hn) hr

/-- The round in which a call fails, with the same declarations and diagnostics. -/
theorem Makes.cut (h : r.Makes g emit s calls own s') {u : GeneratedUnit}
    (hu : calls[n]? = some u) :
    ∃ s₁, (⟨r.found, .error (.emission u.name cause)⟩ : Round).Makes g (emit.limited cause) (s, n)
        (calls.take (n + 1)) own (s₁, 0) ∧
      Emits emit (calls.take n) s (calls.take n) (.ok ()) s₁ := by
  cases h with
  | uncollected => cases hu
  | handed hc he hr =>
    obtain ⟨s₁, hcut, htaken⟩ := he.cut hu
    exact ⟨s₁, .handed hc hcut rfl, htaken⟩

end Round

/-! ### Runs -/

namespace RunPlan

variable {p : RunPlan} {left : Nat} {seen : List String} {sources : List SourceFile} {c : Course}

/-- A run whose calls are written down is that run. -/
theorem Runs.of_logged {log log' : List GeneratedUnit}
    (h : p.Runs emit.logged left seen sources (s, log) c (s', log')) :
    p.Runs emit left seen sources s c s' := by
  have hruns : p.Runs emit left seen sources s _ _ := runs_courseFrom
  obtain ⟨_, -, hlogged⟩ := hruns.exists_calls
  obtain ⟨hc, hs⟩ := h.unique (hlogged log)
  obtain ⟨hs, -⟩ := Prod.mk.inj hs
  rwa [← hc, ← hs] at hruns

/-- A call that fails in the first round of a run ends the run. -/
theorem exists_runs_of_cut {r : Round} {own : List Diagnostic} {calls : List GeneratedUnit}
    {n : Nat} {u : GeneratedUnit} (hfound : r.found = p.fresh seen sources) (hne : r.found ≠ [])
    (hmakes : r.Makes p.generator emit s calls own s') (hu : calls[n]? = some u)
    (log : List GeneratedUnit) :
    ∃ c s₁, p.Runs (emit.limited cause).logged (left + 1) seen sources ((s, n), log) c
        ((s₁, 0), log ++ calls.take (n + 1)) ∧
      c.result = .error (.emission u.name cause) ∧
      c.diagnostics = p.markerDiagnostics sources ++ own ∧
      Emits emit (calls.take n) s (calls.take n) (.ok ()) s₁ := by
  obtain ⟨s₁, hcut, htaken⟩ := hmakes.cut hu
  let cut : Round := ⟨r.found, .error (.emission u.name cause)⟩
  exact ⟨_, s₁, .failed (r := cut) hfound hne (hcut.logged log).run_eq rfl, rfl, rfl, htaken⟩

/-- **A run with an emitter that begins to fail**, beside the run with the emitter itself.  The
first case is that there are calls enough, the second that the call `u` is one too many. -/
theorem Runs.limited (h : p.Runs emit left seen sources s c s') (cause : FileError) :
    ∃ parts, List.Forall₂ (Round.Calls p.generator) c.rounds parts ∧
      (∀ log, p.Runs emit.logged left seen sources (s, log) c (s', log ++ parts.flatten)) ∧
      ∀ n log,
        (parts.flatten.length ≤ n → p.Runs (emit.limited cause).logged left seen sources
          ((s, n), log) c ((s', n - parts.flatten.length), log ++ parts.flatten)) ∧
        ∀ u, parts.flatten[n]? = some u → ∃ c' s₁,
          p.Runs (emit.limited cause).logged left seen sources ((s, n), log) c'
            ((s₁, 0), log ++ parts.flatten.take (n + 1)) ∧
          c'.result = .error (.emission u.name cause) ∧ c'.diagnostics <+: c.diagnostics ∧
          Emits emit (parts.flatten.take n) s (parts.flatten.take n) (.ok ()) s₁ := by
  induction h with
  | settled hfresh =>
    refine ⟨[], .nil, fun log => ?_, fun n log => ⟨fun _ => ?_, nofun⟩⟩
    all_goals
      rw [List.flatten_nil, List.append_nil]
      exact .settled hfresh
  | exhausted hfresh =>
    refine ⟨[], .nil, fun log => ?_, fun n log => ⟨fun _ => ?_, nofun⟩⟩
    all_goals
      rw [List.flatten_nil, List.append_nil]
      exact .exhausted hfresh
  | failed hfound hne hround hnext =>
    obtain ⟨calls, hmakes⟩ := Round.exists_makes hround
    refine ⟨[calls], .cons hmakes.toCalls .nil, fun log => ?_, fun n log => ⟨fun hn => ?_, ?_⟩⟩
    · rw [List.flatten_singleton]
      exact .failed hfound hne (hmakes.logged log).run_eq hnext
    · rw [List.flatten_singleton] at hn ⊢
      exact .failed hfound hne ((hmakes.limited hn).logged log).run_eq hnext
    · intro u hu
      rw [List.flatten_singleton] at hu ⊢
      obtain ⟨c', s₁, hruns, hresult, hdiagnostics, htaken⟩ :=
        exists_runs_of_cut hfound hne hmakes hu log
      exact ⟨c', s₁, hruns, hresult, hdiagnostics ▸ List.prefix_refl _, htaken⟩
  | @round _ _ _ s _ _ _ s₂ _ _ hfound hne hround hnext _ ih =>
    obtain ⟨calls, hmakes⟩ := Round.exists_makes hround
    obtain ⟨parts, hparts, hrest, hlimited⟩ := ih
    refine ⟨calls :: parts, .cons hmakes.toCalls hparts, fun log => ?_,
      fun n log => ⟨fun hn => ?_, fun u hu => ?_⟩⟩
    · rw [List.flatten_cons, ← List.append_assoc]
      exact .round hfound hne (hmakes.logged log).run_eq hnext (hrest _)
    · rw [List.flatten_cons, List.length_append] at hn
      have hcalls : calls.length ≤ n := Nat.le_of_add_right_le hn
      rw [List.flatten_cons, List.length_append, ← List.append_assoc, ← Nat.sub_sub]
      exact .round hfound hne ((hmakes.limited hcalls).logged log).run_eq hnext
        ((hlimited _ _).1 (Nat.le_sub_of_add_le' hn))
    · rw [List.flatten_cons] at hu ⊢
      rcases Nat.lt_or_ge n calls.length with hn | hn
      · -- the call that fails is made in this round, and none follows
        rw [List.getElem?_append_left hn] at hu
        obtain ⟨c', s₁, hruns, hresult, hdiagnostics, htaken⟩ :=
          exists_runs_of_cut hfound hne hmakes hu log
        rw [List.take_append_of_le_length hn, List.take_append_of_le_length (Nat.le_of_lt hn)]
        exact ⟨c', s₁, hruns, hresult, hdiagnostics ▸ List.prefix_append _ _, htaken⟩
      · -- it is made later, and this round is as before
        rw [List.getElem?_append_right hn] at hu
        obtain ⟨c', s₁, hruns, hresult, hdiagnostics, htaken⟩ :=
          (hlimited (n - calls.length) (log ++ calls)).2 u hu
        have hall : Emits emit calls s calls (.ok ()) s₂ := by
          rw [hmakes.toCalls.complete _ (Round.of_next_eq_ok hnext).1]
          exact Round.emits_units hround hnext
        have hsub : n + 1 - calls.length = n - calls.length + 1 := Nat.succ_sub hn
        rw [List.take_append, List.take_of_length_le (Nat.le_succ_of_le hn), List.take_append,
          List.take_of_length_le hn, ← List.append_assoc, hsub]
        exact ⟨_, s₁, .round hfound hne ((hmakes.limited hn).logged log).run_eq hnext hruns,
          hresult, (List.prefix_append_right_inj _).2 hdiagnostics, hall.append htaken⟩

/-- **An emitter that begins to fail stops the run at once.**  Take the calls that a run makes of a
store, and let every call after the first `n` fail.  Then exactly the first `n + 1` of these calls
are made.  If there are not so many, the run is the same.  Otherwise the run fails, and names the
unit of call `n + 1`; the store holds the units of the first `n` calls, and what is reported is the
beginning of what was reported.  In each round the names of the calls ascend. -/
theorem run_limited (p : RunPlan) (sources : List SourceFile) (cause : FileError) (n : Nat) :
    let emit : Emitter (StateM UnitStore) := UnitStore.emitter
    let full := (p.run emit sources).run .empty
    let rounds := ((p.course emit sources).run .empty).1.rounds
    let calls := ((p.run emit.logged sources).run (.empty, [])).2.2
    let cut := (p.run (emit.limited cause) sources).run (.empty, n)
    let attempted := ((p.run (emit.limited cause).logged sources).run ((.empty, n), [])).2.2
    attempted = calls.take (n + 1) ∧
    (calls.length ≤ n → cut.1 = full.1 ∧ cut.2.1 = full.2) ∧
    (∀ u, calls[n]? = some u → cut.1.result = .error (.emission u.name cause) ∧
      cut.2.1.arrived = calls.take n ∧ cut.1.diagnostics <+: full.1.diagnostics) ∧
    ∃ parts, calls = parts.flatten ∧ List.Forall₂ (fun r part => r.Calls p.generator part ∧
      (part.map GeneratedUnit.name).Pairwise fun a b => compare a b = .lt) rounds parts := by
  intro emit full rounds calls cut attempted
  obtain ⟨⟨c, s'⟩, hc⟩ : ∃ x, (p.course emit sources).run .empty = x := ⟨_, rfl⟩
  have hruns : p.Runs emit p.rounds [] sources .empty c s' := runs_iff.2 hc
  obtain ⟨parts, hparts, hlogged, hlimited⟩ := hruns.limited cause
  have hfull : full = (c.reported, s') := hruns.run_eq
  have hrounds : rounds = c.rounds := congrArg (·.1.rounds) hc
  have hcalls : calls = parts.flatten := congrArg (·.2.2) (hlogged []).run_eq
  obtain ⟨henough, hshort⟩ := hlimited n []
  rw [hcalls, hrounds, hfull]
  have hascending := hparts.imp fun _ _ h => And.intro h h.pairwise
  cases hu : parts.flatten[n]? with
  | none =>
    have hn := List.getElem?_eq_none_iff.1 hu
    have hsame := henough hn
    have hcut : cut = (c.reported, s', n - parts.flatten.length) := hsame.of_logged.run_eq
    have hattempted : attempted = parts.flatten := congrArg (·.2.2) hsame.run_eq
    rw [hcut, hattempted, List.take_of_length_le (Nat.le_succ_of_le hn)]
    exact ⟨rfl, fun _ => ⟨rfl, rfl⟩, nofun, parts, rfl, hascending⟩
  | some u =>
    have hn : ¬ parts.flatten.length ≤ n := fun hn => by
      rw [List.getElem?_eq_none hn] at hu
      cases hu
    obtain ⟨c', s₁, hstopped, hresult, hdiagnostics, htaken⟩ := hshort u hu
    have hcut : cut = (c'.reported, s₁, 0) := hstopped.of_logged.run_eq
    have hattempted : attempted = parts.flatten.take (n + 1) := congrArg (·.2.2) hstopped.run_eq
    rw [hcut, hattempted]
    refine ⟨rfl, fun h => absurd h hn, fun v hv => ?_, parts, rfl, hascending⟩
    obtain rfl := Option.some.inj hv
    exact ⟨Course.reported_eq_error_iff.2 hresult, UnitStore.arrived_of_emits htaken,
      hdiagnostics⟩

end RunPlan

end PatternFactory
