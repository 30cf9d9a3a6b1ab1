import PatternFactory.Generation.Run

/-!
# Configurations that can be used

`Config.Valid` is what `Config.validate` checks, so a configuration is accepted just when it holds.
An accepted configuration describes a plan (`RunPlan.exists_ofConfig`).
-/

namespace PatternFactory

namespace Config

/-- The configuration can be used. -/
structure Valid (c : Config) : Prop where
  suffix_ne : c.suffix.isEmpty = false
  suffix : isIdentifier c.suffix = true
  declarationMarker : isIdentifier c.declarationMarker = true
  extractorMarker : isIdentifier c.extractorMarker = true
  markers_ne : c.declarationMarker ≠ c.extractorMarker
  arityLimit : c.arityLimit ≤ maxArity
  roundLimit : c.roundLimit ≠ 0
  runtimePath : ∃ rt, readRuntimePath c.runtimePath = .ok rt
  exclude : ∃ globs, readGlobs c.exclude = .ok globs

theorem refuseIf_bind_eq_ok {condition : Bool} {fault : ConfigFault}
    {rest : Unit → Except ConfigFault Unit} :
    (refuseIf condition fault >>= rest) = .ok () ↔ condition = false ∧ rest () = .ok () := by
  cases condition with
  | true => exact ⟨nofun, nofun⟩
  | false => exact ⟨fun h => ⟨rfl, h⟩, fun h => h.2⟩

theorem isOk_iff {ε α : Type} {r : Except ε α} : r.isOk = true ↔ ∃ a, r = .ok a := by
  cases r <;> simp [Except.isOk, Except.toBool]

/-- **A configuration is accepted just when it can be used.** -/
theorem validate_eq_ok_iff {c : Config} : c.validate = .ok () ↔ c.Valid := by
  unfold validate
  simp only [refuseIf_bind_eq_ok, Bool.not_eq_false', decide_eq_false_iff_not, Nat.not_lt, isOk_iff]
  constructor
  · rintro ⟨hne, hsuffix, hdecl, hextr, hmarkers, harity, hrounds, hpath, hexclude⟩
    cases hglobs : readGlobs c.exclude with
    | ok globs =>
      exact ⟨hne, hsuffix, hdecl, hextr, hmarkers, harity, hrounds, hpath, globs, hglobs⟩
    | error fault =>
      rw [hglobs] at hexclude
      cases hexclude
  · rintro ⟨hne, hsuffix, hdecl, hextr, hmarkers, harity, hrounds, hpath, globs, hglobs⟩
    refine ⟨hne, hsuffix, hdecl, hextr, hmarkers, harity, hrounds, hpath, ?_⟩
    rw [hglobs]

end Config

/-- An accepted configuration describes a plan. -/
theorem RunPlan.exists_ofConfig {c : Config} (h : c.validate = .ok ()) :
    ∃ rt, readRuntimePath c.runtimePath = .ok rt ∧ RunPlan.ofConfig c =
      .ok ⟨.ofConfig c (.standard rt), c.roundLimit, c.declarationMarker⟩ := by
  obtain ⟨rt, hrt⟩ := (Config.validate_eq_ok_iff.1 h).runtimePath
  refine ⟨rt, hrt, ?_⟩
  unfold ofConfig
  rw [hrt]

end PatternFactory
