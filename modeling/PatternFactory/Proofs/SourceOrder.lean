import PatternFactory.Generation.Store
import PatternFactory.Proofs.Collecting
import PatternFactory.Proofs.Course
import PatternFactory.Proofs.Identity

/-!
# The order of the sources

A run reads its sources one after the other, but their order does not matter
(`RunPlan.run_perm`): the reports, what the emitter is given, and the diagnostics up to their order
are the same.

* The units of a round do not depend on the order of its declarations
  (`Generator.collect_units_of_perm`).
* Its diagnostics do where declarations collide in one place, since parties are sorted by their
  place only.  So the declarations must be `Interleaved`: those of one place stay in their order.
* Sources with different paths and no `@` in them share no identity, and at most one of them has
  declarations in a given place.  Hence the first rounds are given interleaved declarations.
* The units of the first rounds are the same, so are the identities seen, and what follows depends
  on nothing else.
-/

namespace PatternFactory

open Std

/-! ### Declarations in another order -/

/-- The same declarations, in the same order as far as they are in the same place. -/
def Interleaved (found found' : List MarkedDeclaration) : Prop :=
  ∀ o : Origin, found.filter (fun d => compare o d.origin = .eq) =
    found'.filter fun d => compare o d.origin = .eq

instance : TransCmp fun a b : MarkedDeclaration => compare a.origin b.origin :=
  inferInstanceAs (TransCmp (compareOn MarkedDeclaration.origin))

instance : TransCmp fun a b : Declaration => compare a.origin b.origin :=
  inferInstanceAs (TransCmp (compareOn Declaration.origin))

theorem Interleaved.perm {found found' : List MarkedDeclaration} (h : Interleaved found found') :
    found.Perm found' :=
  perm_of_filter_eq fun d => h d.origin

namespace Generator

variable {g : Generator} {found found' : List MarkedDeclaration} {q : QualifiedName}

theorem parties_perm (h : found.Perm found') :
    (g.parties (g.declarations found) q).Perm (g.parties (g.declarations found') q) := by
  rw [parties_eq, parties_eq]
  exact (h.filter _).map _

theorem unitNames_of_perm (h : found.Perm found') :
    g.unitNames (g.declarations found) = g.unitNames (g.declarations found') := by
  refine distinctNames_congr fun q => ?_
  exact (((h.map _).filter _).map _).mem_iff

theorem unit?_of_perm (h : found.Perm found') :
    g.unit? (g.declarations found) q = g.unit? (g.declarations found') q := by
  -- a permutation of a single party is that party
  have hsole : ∀ d, g.Sole found q d ↔ g.Sole found' q d := fun d => by
    have hf : (found.filter (g.derives q)).Perm (found'.filter (g.derives q)) := h.filter _
    rw [sole_iff, sole_iff]
    exact ⟨fun hd => (hd ▸ hf).singleton_eq.symm, fun hd => (hd ▸ hf).eq_singleton⟩
  by_cases hq : ∃ d, g.Sole found q d
  · obtain ⟨d, hd⟩ := hq
    rw [unit?_of_sole hd, unit?_of_sole ((hsole d).1 hd)]
  · rw [unit?_of_not_sole fun d hd => hq ⟨d, hd⟩,
      unit?_of_not_sole fun d hd => hq ⟨d, (hsole d).2 hd⟩]

/-- **The units of a round do not depend on the order of its declarations.** -/
theorem collect_units_of_perm (h : found.Perm found') :
    (g.collect found).map Collection.units = (g.collect found').map Collection.units :=
  collect_units_congr (unitNames_of_perm h) fun _ => unit?_of_perm h

/-- Parties that collide are sorted alike, ties included. -/
theorem collisionDiagnostics_of_interleaved (h : Interleaved found found') :
    collisionDiagnostics q (g.parties (g.declarations found) q) =
      collisionDiagnostics q (g.parties (g.declarations found') q) := by
  have hranks : ∀ x : Declaration,
      (g.parties (g.declarations found) q).filter (fun d => compare x.origin d.origin = .eq) =
        (g.parties (g.declarations found') q).filter fun d => compare x.origin d.origin = .eq := by
    intro x
    have hswap : ∀ ds : List MarkedDeclaration,
        (g.parties (g.declarations ds) q).filter (fun d => compare x.origin d.origin = .eq) =
          ((ds.filter fun d => compare x.origin d.origin = .eq).filter (g.derives q)).map
            (MarkedDeclaration.declaration g.markers) := fun ds => by
      rw [parties_eq, List.filter_map, List.filter_filter, List.filter_filter]
      congr 2
      funext d
      exact Bool.and_comm _ _
    rw [hswap, hswap, h x.origin]
  rw [collisionDiagnostics, collisionDiagnostics, mergeSort_congr hranks]

theorem nameDiagnostics_of_interleaved (h : Interleaved found found') :
    g.nameDiagnostics (g.declarations found) q = g.nameDiagnostics (g.declarations found') q := by
  have hif : ∀ ds, g.nameDiagnostics ds q =
      if (g.parties ds q).length = 1 then [] else collisionDiagnostics q (g.parties ds q) := by
    intro ds
    rw [nameDiagnostics]
    rcases g.parties ds q with _ | ⟨_, _ | ⟨_, _⟩⟩
    · rfl
    · rfl
    · simp
  rw [hif, hif, (parties_perm h.perm).length_eq, collisionDiagnostics_of_interleaved h]

theorem diagnostics_of_interleaved (h : Interleaved found found') :
    (g.diagnostics (g.declarations found)).Perm (g.diagnostics (g.declarations found')) := by
  have hname :
      g.nameDiagnostics (g.declarations found) = g.nameDiagnostics (g.declarations found') :=
    funext fun _ => nameDiagnostics_of_interleaved h
  rw [diagnostics, diagnostics, unitNames_of_perm h.perm, hname]
  exact ((h.perm.map _).flatMap_right _).append_right _

/-- A round does the same with interleaved declarations, and its diagnostics are the same up to
their order. -/
theorem runRound_of_interleaved {σ : Type} {emit : Emitter (StateM σ)} {s s' : σ}
    {ds : List Diagnostic} {result : Except Failure (List GeneratedUnit)}
    (h : Interleaved found found') (hround : (g.runRound emit found).run s = (⟨ds, result⟩, s')) :
    ∃ ds', (g.runRound emit found').run s = (⟨ds', result⟩, s') ∧ ds.Perm ds' := by
  have hunits : (g.collect found).map Collection.units = _ := collect_units_of_perm h.perm
  cases hc : g.collect found with
  | error failure =>
    rw [runRound_of_error hc] at hround
    cases hround
    cases hc' : g.collect found' with
    | error failure' =>
      rw [hc, hc'] at hunits
      cases hunits
      exact ⟨[], runRound_of_error hc', .refl _⟩
    | ok c' =>
      rw [hc, hc'] at hunits
      cases hunits
  | ok c =>
    rw [runRound_of_ok hc] at hround
    cases hround
    cases hc' : g.collect found' with
    | error failure' =>
      rw [hc, hc'] at hunits
      cases hunits
    | ok c' =>
      rw [hc, hc'] at hunits
      have hu : c.units = c'.units := Except.ok.inj hunits
      refine ⟨c'.diagnostics, by rw [runRound_of_ok hc', hu], ?_⟩
      obtain ⟨_, -, rfl⟩ := collect_eq_ok_iff.1 hc
      obtain ⟨_, -, rfl⟩ := collect_eq_ok_iff.1 hc'
      exact diagnostics_of_interleaved h

end Generator

/-! ### Sources in another order -/

namespace RunPlan

variable {σ : Type} {p : RunPlan} {emit : Emitter (StateM σ)} {left : Nat}
  {seen seen' : List String} {sources sources' : List SourceFile} {s s' : σ} {c : Course}

/-- What a source has to give, were it the only one. -/
def freshOf (p : RunPlan) (f : SourceFile) : List MarkedDeclaration :=
  unseen [] (f.discover p.generator.markers)

theorem file_of_mem_freshOf {f : SourceFile} {d : MarkedDeclaration} (h : d ∈ p.freshOf f) :
    d.origin.file = f.path :=
  SourceFile.origin_file_of_mem_discover (unseen_sublist.subset h)

/-- The paths are distinct and have no `@` in them. -/
structure Separate (sources : List SourceFile) : Prop where
  distinct : sources.Pairwise fun a b => ¬ a.path.same b.path
  plain : ∀ f ∈ sources, '@' ∉ f.path.text.toList

theorem Separate.perm (h : Separate sources) (hperm : sources.Perm sources') :
    Separate sources' where
  distinct := h.distinct.perm hperm
    (mt fun hba => PathName.same_iff.2 (PathName.same_iff.1 hba).symm)
  plain f hf := h.plain f (hperm.mem_iff.2 hf)

/-- Separate sources do not hide each other's declarations. -/
theorem Separate.fresh_eq (h : Separate sources) :
    p.fresh [] sources = sources.flatMap p.freshOf := by
  refine unseen_flatMap ?_
  refine h.distinct.imp_of_mem fun {a b} ha hb hab d hd e he heq => hab ?_
  have hda := SourceFile.origin_file_of_mem_discover hd
  have heb := SourceFile.origin_file_of_mem_discover he
  have hfile : d.origin.file = e.origin.file :=
    MarkedDeclaration.file_eq_of_identity_eq (hda ▸ h.plain a ha) (heb ▸ h.plain b hb) heq
  rw [← hda, ← heb, hfile, PathName.same_iff]

theorem Separate.interleaved (h : Separate sources) (hperm : sources.Perm sources') :
    Interleaved (p.fresh [] sources) (p.fresh [] sources') := by
  intro o
  rw [h.fresh_eq, (h.perm hperm).fresh_eq, List.filter_flatMap, List.filter_flatMap]
  refine flatMap_eq_of_perm hperm (h.distinct.imp fun {a b} hab => ?_)
  -- no place is in two of the files
  have hsame : ∀ f : SourceFile,
      (p.freshOf f).filter (fun d => compare o d.origin = .eq) = [] ∨ o.file.same f.path := by
    intro f
    rw [List.filter_eq_nil_iff, or_iff_not_imp_left]
    intro hne
    push Not at hne
    obtain ⟨d, hd, ho⟩ := hne
    rw [← file_of_mem_freshOf hd]
    exact Origin.same_file_of_compare (of_decide_eq_true ho)
  rcases hsame a with ha | ha
  · exact .inl ha
  · rcases hsame b with hb | hb
    · exact .inr hb
    · rw [PathName.same_iff] at ha hb hab
      exact absurd (ha.symm.trans hb) hab

theorem fresh_congr (hseen : ∀ x, x ∈ seen ↔ x ∈ seen') :
    p.fresh seen sources = p.fresh seen' sources :=
  unseen_congr fun _ _ => hseen _

/-- Only which identities were seen matters for a run. -/
theorem Runs.congr_seen (h : p.Runs emit left seen sources s c s')
    (hseen : ∀ x, x ∈ seen ↔ x ∈ seen') : p.Runs emit left seen' sources s c s' := by
  induction h generalizing seen' with
  | settled hfresh => exact .settled (fresh_congr hseen ▸ hfresh)
  | exhausted hfresh => exact .exhausted (fresh_congr hseen ▸ hfresh)
  | failed hfound hne hround hnext =>
    exact .failed (hfound.trans (fresh_congr hseen)) hne hround hnext
  | round hfound hne hround hnext _ ih =>
    refine .round (hfound.trans (fresh_congr hseen)) hne hround hnext (ih fun x => ?_)
    rw [List.mem_append, List.mem_append, hseen]

/-- The same run with the sources in another order. -/
theorem Runs.of_perm (h : p.Runs emit left [] sources s c s') (hsep : Separate sources)
    (hperm : sources.Perm sources') :
    ∃ c', p.Runs emit left [] sources' s c' s' ∧ c'.result = c.result ∧ c'.reports = c.reports ∧
      c.diagnostics.Perm c'.diagnostics := by
  have hfound' := hsep.interleaved (p := p) hperm
  have hmarkers : (p.markerDiagnostics sources).Perm (p.markerDiagnostics sources') :=
    hperm.flatMap_right _
  have hempty : p.fresh [] sources' = [] ↔ p.fresh [] sources = [] := by
    rw [← List.length_eq_zero_iff, ← hfound'.perm.length_eq, List.length_eq_zero_iff]
  -- only the first round is given another list; then both runs go on with the same units
  cases h with
  | settled hfresh => exact ⟨_, .settled (hempty.2 hfresh), rfl, rfl, hmarkers⟩
  | exhausted hfresh => exact ⟨_, .exhausted (mt hempty.1 hfresh), rfl, rfl, hmarkers⟩
  | @failed _ _ _ _ own r failure _ hfound hne hround hnext =>
    obtain ⟨found, result⟩ := r
    obtain rfl : found = p.fresh [] sources := hfound
    obtain ⟨own', hround', hown⟩ := Generator.runRound_of_interleaved hfound' hround
    refine ⟨_, .failed (r := ⟨p.fresh [] sources', result⟩) rfl (mt hempty.1 hne) hround' hnext,
      rfl, ?_, hmarkers.append hown⟩
    simp [Course.reports, roundReport, hfound'.perm.length_eq, Round.units]
  | @round left _ _ _ own r next _ c _ hfound hne hround hnext hrest =>
    obtain ⟨found, result⟩ := r
    obtain rfl : found = p.fresh [] sources := hfound
    obtain ⟨own', hround', hown⟩ := Generator.runRound_of_interleaved hfound' hround
    have hrest' := hrest.congr_seen fun x =>
      ((hfound'.perm.map MarkedDeclaration.identity).mem_iff (a := x))
    refine ⟨_, .round (r := ⟨p.fresh [] sources', result⟩) rfl (mt hempty.1 hne) hround' hnext
      hrest', rfl, ?_, (hmarkers.append hown).append_right _⟩
    simp [Course.reports, Course.behind, roundReport, hfound'.perm.length_eq, Round.units]

/-- A plan for one round in which every unit is empty. -/
def twinPlan : RunPlan := ⟨⟨⟨"p", "u"⟩, "S", 8, fun _ _ => some ""⟩, 1, "p"⟩

/-- A source in the root namespace with one declaration. -/
def twinSource (path : String) : SourceFile :=
  ⟨⟨path⟩, .root, (File.ofText "#[p]mod A{#[u]pub fn f(v:u8)->Option<()>{}}").toOption.getD []⟩

end RunPlan

end PatternFactory
