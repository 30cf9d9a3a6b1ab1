import PatternFactory.Proofs.DerivedNames
import PatternFactory.Proofs.Mentions
import Mathlib.Data.List.Nodup

/-!
# The names of factories

A factory has the name of its extractor, or that name without the prefix if this leaves an
identifier that no extractor has for its name (`factoryName_cases`).  Two extractors of different
names never have one short name, so it is only a short name and a whole one that can meet.

Spellings are compared to find out whether they do.  But an identifier has two spellings, since the
mark of a raw name is no part of the name.  So beside a raw extractor the short name is taken that
is the same identifier, and this is the only way in which factories get one name
(`factoryNames_distinct_iff`).
-/

namespace PatternFactory

/-! ### Plain names -/

namespace Mention

theorem plainName_of_notMem {name : String} (h : '#' ∉ name.toList) : plainName name = name := by
  unfold plainName
  split
  next hname => simp [hname] at h
  next => rfl

@[simp] theorem plainName_raw (name : String) : plainName ("r#" ++ name) = name := by
  simp [plainName]

/-- An identifier has two spellings. -/
theorem eq_of_plainName_eq {name plain : String} (h : plainName name = plain) :
    name = plain ∨ name = "r#" ++ plain := by
  unfold plainName at h
  split at h
  next rest hname =>
    subst h
    refine .inr ?_
    rw [← String.toList_inj, hname]
    simp
  next => exact .inl h

end Mention

open Mention

/-! ### Short names -/

/-- What is read as an identifier is one, if there is no blank and no comment. -/
theorem isIdentifier_iff {text : String} (h : Lexeme.Solid text.toList) :
    isIdentifier text = true ↔ IsIdentifier text := by
  refine ⟨fun hident => .of_isIdentifier hident h, ?_⟩
  rintro ⟨hword, hfree⟩
  have hrun : Reader.ident.run [.word text .start] .start = .ok text := by
    simp only [Reader.run, Reader.ident, Reader.rest, bind_pure_comp, Reader.setRest,
      bind_map_left, StateT.run_bind, StateT.run_get, pure_bind, hfree, ↓reduceIte,
      StateT.run_map, StateT.run_modify, map_pure]
    rfl
  rw [isIdentifier, readText, hword.ofText]
  exact congrArg Except.isOk hrun

/-- Behind the prefix of a word there is no blank, no comment and no raw mark. -/
theorem solid_of_extractorPrefix {short : String} (h : IsWord (extractorPrefix ++ short)) :
    Lexeme.Solid short.toList ∧ '#' ∉ short.toList := by
  rw [IsWord, String.toList_append] at h
  have hcontinue : ∀ c ∈ short.toList, isIdentContinue c = true := by
    rcases Lexeme.ident?_eq_some_nil_iff.1 h with hplain | ⟨raw, hraw, -⟩
    · intro c hc
      exact Lexeme.isIdentContinue_of_plainIdent? hplain c (List.mem_append_right _ hc)
    · cases (List.cons.inj hraw).1
  refine ⟨fun c hc => .inl (hcontinue c hc), fun hmark => ?_⟩
  have hnot : isIdentContinue '#' = false := not_isIdentContinue (by decide)
  rw [hcontinue '#' hmark] at hnot
  cases hnot

theorem shortName?_eq_some_iff {name short : String} (h : IsWord name) :
    shortName? name = some short ↔ name = extractorPrefix ++ short ∧ IsIdentifier short := by
  unfold shortName?
  by_cases hlead : extractorPrefix.toList <+: name.toList
  · obtain ⟨rest, hrest⟩ := hlead
    obtain rfl : name = extractorPrefix ++ String.ofList rest := by
      rw [← String.toList_inj, ← hrest, String.toList_append, String.toList_ofList]
    have hstarts : (extractorPrefix ++ String.ofList rest).startsWith extractorPrefix = true :=
      String.startsWith_string_iff.2 ⟨rest, hrest⟩
    have hdrop : String.ofList ((extractorPrefix ++ String.ofList rest).toList.drop
        extractorPrefix.length) = String.ofList rest := by
      rw [← hrest, ← String.length_toList, List.drop_left]
    have hident := isIdentifier_iff (solid_of_extractorPrefix h).1
    rw [if_pos hstarts]
    simp only [hdrop, Option.ite_none_right_eq_some, Option.some.injEq, hident]
    constructor
    · rintro ⟨hident, rfl⟩
      exact ⟨rfl, hident⟩
    · rintro ⟨heq, hident⟩
      obtain rfl : String.ofList rest = short := by simpa using heq
      exact ⟨hident, rfl⟩
  · have hstarts : name.startsWith extractorPrefix = false := by
      rw [← Bool.not_eq_true, String.startsWith_string_iff]
      exact hlead
    rw [hstarts]
    simp only [Bool.false_eq_true, ↓reduceIte, reduceCtorEq, false_iff]
    rintro ⟨rfl, -⟩
    exact hlead ⟨short.toList, String.toList_append.symm⟩

section

variable {names : List String} {name short : String}

/-- Of distinct names only one has a given short name. -/
theorem countP_shortName? (hwords : ∀ n ∈ names, IsWord n) (hnodup : names.Nodup)
    (hname : name ∈ names) (hshort : shortName? name = some short) :
    names.countP (fun other => shortName? other = some short) = 1 := by
  obtain ⟨rfl, hident⟩ := (shortName?_eq_some_iff (hwords name hname)).1 hshort
  have hsame : ∀ other ∈ names, decide (shortName? other = some short) = true ↔
      (other == extractorPrefix ++ short) = true := by
    intro other hother
    rw [decide_eq_true_eq, shortName?_eq_some_iff (hwords other hother), beq_iff_eq]
    exact ⟨And.left, fun heq => ⟨heq, hident⟩⟩
  rw [List.countP_congr hsame]
  exact hnodup.count.trans (if_pos hname)

/-- A factory has the short name if that is an identifier and not the name of an extractor, and
the whole name of its extractor otherwise. -/
theorem factoryName_cases (hwords : ∀ n ∈ names, IsWord n) (hnodup : names.Nodup)
    (hname : name ∈ names) :
    (∃ short, name = extractorPrefix ++ short ∧ IsIdentifier short ∧ short ∉ names ∧
      factoryName names name = short) ∨
    (factoryName names name = name ∧
      ∀ short, name = extractorPrefix ++ short → IsIdentifier short → short ∈ names) := by
  have hiff (short : String) : shortName? name = some short ↔ _ :=
    shortName?_eq_some_iff (hwords name hname)
  unfold factoryName
  cases hshort : shortName? name with
  | none =>
    refine .inr ⟨rfl, fun short heq hident => ?_⟩
    rw [(hiff short).2 ⟨heq, hident⟩] at hshort
    cases hshort
  | some short =>
    obtain ⟨heq, hident⟩ := (hiff short).1 hshort
    have hcount := countP_shortName? hwords hnodup hname hshort
    by_cases hfree : short ∈ names
    · refine .inr ⟨by simp [hfree], fun short' heq' _ => ?_⟩
      obtain rfl : short = short' := by simpa [heq] using heq'
      exact hfree
    · exact .inl ⟨short, heq, hident, hfree, by simp [hcount, hfree]⟩

/-- No two extractors of distinct names have factories of one name, unless one of them is called by
the raw form of the short name of the other. -/
theorem plainName_factoryName_inj (hwords : ∀ n ∈ names, IsWord n)
    (hdistinct : (names.map plainName).Nodup)
    (hraw : ∀ short, IsIdentifier short → extractorPrefix ++ short ∈ names →
      "r#" ++ short ∉ names) :
    ∀ x ∈ names, ∀ y ∈ names,
      plainName (factoryName names x) = plainName (factoryName names y) → x = y := by
  have hnodup := List.Nodup.of_map _ hdistinct
  -- A short name meets neither itself, behind another prefix, nor a whole name.
  have hmeets : ∀ short, IsIdentifier short → short ∉ names → extractorPrefix ++ short ∈ names →
      ∀ y ∈ names, factoryName names y = y → plainName short ≠ plainName y := by
    intro short hident hfree hlong y hy _ heq
    have hplain := plainName_of_notMem (solid_of_extractorPrefix (hwords _ hlong)).2
    rw [hplain] at heq
    rcases eq_of_plainName_eq heq.symm with rfl | rfl
    · exact hfree hy
    · exact hraw short hident hlong hy
  intro x hx y hy heq
  have hcases {z} (hz : z ∈ names) := factoryName_cases hwords hnodup hz
  rcases hcases hx with ⟨short, rfl, hident, hfree, hshort⟩ | ⟨hwhole, -⟩ <;>
    rcases hcases hy with ⟨short', rfl, hident', hfree', hshort'⟩ | ⟨hwhole', -⟩
  · rw [hshort, hshort', plainName_of_notMem (solid_of_extractorPrefix (hwords _ hx)).2,
      plainName_of_notMem (solid_of_extractorPrefix (hwords _ hy)).2] at heq
    rw [heq]
  · rw [hshort, hwhole'] at heq
    exact absurd heq (hmeets short hident hfree hx y hy hwhole')
  · rw [hwhole, hshort'] at heq
    exact absurd heq.symm (hmeets short' hident' hfree' hy x hx hwhole)
  · rw [hwhole, hwhole'] at heq
    exact List.inj_on_of_nodup_map hdistinct hx hy heq

/-- For extractors whose names are distinct identifiers there is one name of a factory each, in
their order: the name of the extractor or that without the prefix.  The short name is taken just if
it is an identifier that is not the name of an extractor.  The names of the factories are distinct
identifiers as well if and only if no extractor is called by the raw form of a name that is short
for another. -/
theorem factoryNames_distinct_iff (hwords : ∀ n ∈ names, IsWord n)
    (hdistinct : (names.map plainName).Nodup) :
    List.Forall₂ (fun name factory =>
      (factory = name ∨ name = extractorPrefix ++ factory) ∧
      ∀ short, name = extractorPrefix ++ short →
        (factory = short ↔ IsIdentifier short ∧ short ∉ names)) names (factoryNames names) ∧
    (((factoryNames names).map plainName).Nodup ↔
      ∀ short, IsIdentifier short → extractorPrefix ++ short ∈ names → "r#" ++ short ∉ names) := by
  have hnodup := List.Nodup.of_map _ hdistinct
  have hcases {name} (hname : name ∈ names) := factoryName_cases hwords hnodup hname
  constructor
  · rw [factoryNames, List.forall₂_map_right_iff, List.forall₂_same]
    intro name hname
    rcases hcases hname with ⟨short, rfl, hident, hfree, hshort⟩ | ⟨hwhole, hnot⟩
    · rw [hshort]
      refine ⟨.inr rfl, fun short' heq => ?_⟩
      obtain rfl : short = short' := by simpa using heq
      exact ⟨fun _ => ⟨hident, hfree⟩, fun _ => rfl⟩
    · rw [hwhole]
      refine ⟨.inl rfl, fun short heq => ⟨fun hself => ?_, ?_⟩⟩
      · exact absurd (heq.symm.trans hself) (by simp [extractorPrefix])
      · rintro ⟨hident, hfree⟩
        exact absurd (hnot short heq hident) hfree
  · rw [factoryNames, List.map_map]
    constructor
    · intro hfactories short hident hlong hraw
      have hplain := plainName_of_notMem (solid_of_extractorPrefix (hwords _ hlong)).2
      have hfree : short ∉ names := by
        intro hmem
        have hsame := List.inj_on_of_nodup_map hdistinct hraw hmem (by simp [hplain])
        simp at hsame
      -- The one factory has the short name, and the other one its raw form.
      have hshort : factoryName names (extractorPrefix ++ short) = short := by
        rcases hcases hlong with ⟨short', heq, -, -, hshort⟩ | ⟨-, hnot⟩
        · exact hshort.trans ((String.append_right_inj _).1 heq).symm
        · exact absurd (hnot short rfl hident) hfree
      have hwhole : factoryName names ("r#" ++ short) = "r#" ++ short := by
        rcases hcases hraw with ⟨short', heq, -⟩ | ⟨hwhole, -⟩
        · exact absurd (congrArg (fun s => s.toList.head?) heq) (by simp [extractorPrefix])
        · exact hwhole
      have hsame : extractorPrefix ++ short = "r#" ++ short :=
        List.inj_on_of_nodup_map hfactories hlong hraw (by simp [hshort, hwhole, hplain])
      exact absurd (congrArg (fun s => s.toList.head?) hsame) (by simp [extractorPrefix])
    · intro hraw
      exact hnodup.map_on (plainName_factoryName_inj hwords hdistinct hraw)

end

/-- Factories are shortened where that is possible: not to a name that is taken, and not to a
reserved word. -/
theorem factoryNames_distinct_options :
    let names := ["unapply_some", "none", "unapply_none", "unapply_match", "r#match", "unapply"]
    (∀ n ∈ names, IsWord n) ∧ (names.map plainName).Nodup ∧
      factoryNames names =
        ["some", "none", "unapply_none", "unapply_match", "r#match", "unapply"] ∧
      ((factoryNames names).map plainName).Nodup := by
  intro names
  have hwords : ∀ n ∈ names, IsWord n := by decide +kernel
  have hdistinct : (names.map plainName).Nodup := by decide +kernel
  have hnames : factoryNames names =
      ["some", "none", "unapply_none", "unapply_match", "r#match", "unapply"] := by decide +kernel
  refine ⟨hwords, hdistinct, hnames, (factoryNames_distinct_iff hwords hdistinct).2.2 ?_⟩
  intro short hident _ hraw
  -- The only raw name is that of a reserved word.
  have hreserved : short = "match" := by simpa [names, String.ext_iff] using hraw
  exact absurd hident (by rw [hreserved]; decide +kernel)

/-- A raw name and a short one are the same identifier, and both are given to a factory. -/
theorem factoryNames_raw_clash :
    let names := ["unapply_foo", "r#foo"]
    (∀ n ∈ names, IsWord n) ∧ (names.map plainName).Nodup ∧
      factoryNames names = ["foo", "r#foo"] ∧
      (factoryNames names).map plainName = ["foo", "foo"] := by
  decide +kernel

end PatternFactory
