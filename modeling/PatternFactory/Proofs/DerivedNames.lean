import PatternFactory.Proofs.Discovered
import PatternFactory.Proofs.NameParts
import PatternFactory.Proofs.ValidConfig

/-!
# The names of units are identifiers

The name of a unit is put together from the parts of a declared name and the suffix.  Each of them
is read as an identifier, be it with blanks and comments around it, or is a word of the source text.
So the name is an identifier if and only if the parts join (`derived_identifier_iff`): none of them
has anything around it, none but the first is raw, and what comes of them is not reserved.  The
checks on names and suffixes ask for less, so some names are none (`derived_no_identifiers`).
-/

namespace PatternFactory

/-- The text is one identifier that is not reserved, be it raw, and nothing else. -/
def IsIdentifier (text : String) : Prop := IsWord text ∧ isIdentifierWord text = true

instance (text : String) : Decidable (IsIdentifier text) := inferInstanceAs (Decidable (_ ∧ _))

open Reader in
/-- What is read as one identifier is one word. -/
theorem exists_tokens_of_isIdentifier {text : String} (h : isIdentifier text = true) :
    ∃ w pos, Tokens.ofText text = .ok [.word w pos] ∧ isIdentifierWord w = true := by
  unfold isIdentifier readText at h
  cases htokens : Tokens.ofText text with
  | error e => simp [htokens, Except.isOk, Except.toBool] at h
  | ok tokens =>
    rw [htokens] at h
    obtain ⟨v, hv⟩ : ∃ v, ident.run tokens .start = .ok v := by
      change (ident.run tokens .start).isOk = true at h
      cases hv : ident.run tokens .start with
      | error e => simp [hv, Except.isOk, Except.toBool] at h
      | ok v => exact ⟨v, rfl⟩
    obtain ⟨s, hs, hrest, -⟩ := exists_of_run_eq_ok hv
    obtain ⟨ts, t, hts, hs⟩ := bind_eq_ok hs
    cases hts
    dsimp only at hs
    split at hs
    next =>
      split at hs
      next hword =>
        cases hs
        cases hrest
        exact ⟨_, _, rfl, hword⟩
      next => cases hs
    next => cases hs

/-- An identifier around which there are no blanks and no comments. -/
theorem IsIdentifier.of_isIdentifier {text : String} (h : isIdentifier text = true)
    (hsolid : Lexeme.Solid text.toList) : IsIdentifier text := by
  obtain ⟨w, pos, htokens, hword⟩ := exists_tokens_of_isIdentifier h
  have hisWord : IsWord text := by
    have hscan := htokens
    unfold Tokens.ofText at hscan
    split at hscan
    next cs heq =>
      have hmark : ¬ (isIdentContinue '\uFEFF' = true ∨ '\uFEFF' = '#') := by decide +kernel
      exact absurd (hsolid '\uFEFF' (heq ▸ List.mem_cons_self)) hmark
    next => exact Lexer.ident?_of_scan hsolid hscan
  rw [hisWord.ofText] at htokens
  cases htokens
  exact ⟨hisWord, hword⟩

/-! ### Putting words together -/

/-- The texts are put together to an identifier: each is a word, only the first may be raw, and what
comes of them is not reserved. -/
structure Joins (parts : List String) : Prop where
  words : ∀ p ∈ parts, IsWord p
  plain : ∀ p ∈ parts.tail, '#' ∉ p.toList
  free : String.join parts ∉ reservedWords ++ Lexeme.rawless.map ("r#" ++ ·)

instance (parts : List String) : Decidable (Joins parts) :=
  decidable_of_iff ((∀ p ∈ parts, IsWord p) ∧ (∀ p ∈ parts.tail, '#' ∉ p.toList) ∧
      String.join parts ∉ reservedWords ++ Lexeme.rawless.map ("r#" ++ ·))
    ⟨fun h => ⟨h.1, h.2.1, h.2.2⟩, fun h => ⟨h.words, h.plain, h.free⟩⟩

/-- What stands behind the first of some words that are put together to one has no raw mark. -/
theorem notMem_of_ident?_append {cs ds : List Char} (hcs : Lexeme.ident? cs = some [])
    (hds : ∀ d ∈ ds.head?, d ≠ '#') (h : Lexeme.ident? (cs ++ ds) = some []) : '#' ∉ ds := by
  have hmark : isIdentContinue '#' = false := by decide +kernel
  intro hmem
  rcases Lexeme.ident?_eq_some_nil_iff.1 h with hplain | ⟨raw, heq, hplain, -⟩
  · have := Lexeme.isIdentContinue_of_plainIdent? hplain '#' (List.mem_append_right _ hmem)
    rw [hmark] at this
    cases this
  · have hraw : '#' ∉ raw := fun hraw => by
      have := Lexeme.isIdentContinue_of_plainIdent? hplain '#' hraw
      rw [hmark] at this
      cases this
    obtain ⟨c, name, rfl, -⟩ := Lexeme.exists_head_of_ident? hcs
    rw [List.cons_append, List.cons.injEq] at heq
    cases name with
    | nil => exact hds '#' (by simp [show ds = '#' :: raw from heq.2]) rfl
    | cons d name =>
      rw [List.cons_append, List.cons.injEq] at heq
      exact hraw (heq.2.2 ▸ List.mem_append_right _ hmem)

theorem isIdentifier_join_iff {parts : List String} (hne : parts ≠ [])
    (h : ∀ p ∈ parts, isIdentifier p = true ∨ IsWord p) :
    IsIdentifier (String.join parts) ↔ Joins parts := by
  obtain ⟨first, rest, rfl⟩ := List.exists_cons_of_ne_nil hne
  have hjoin : (String.join (first :: rest)).toList =
      first.toList ++ rest.flatMap String.toList := by simp [List.flatMap]
  constructor
  · rintro ⟨hword, hfree⟩
    have hwords : ∀ p ∈ first :: rest, IsWord p := fun p hp => by
      rcases h p hp with hident | hp
      · refine (IsIdentifier.of_isIdentifier hident fun c hc => hword.solid c ?_).1
        rw [hjoin, ← List.flatMap_cons]
        exact List.mem_flatMap.2 ⟨p, hp, hc⟩
      · exact hp
    have hplain : '#' ∉ rest.flatMap String.toList := by
      refine notMem_of_ident?_append (hwords first List.mem_cons_self) ?_ (hjoin ▸ hword)
      cases rest with
      | nil => simp
      | cons p rest =>
        obtain ⟨c, name, hp, hc⟩ := Lexeme.exists_head_of_ident? (hwords p (by simp))
        have hmark : isIdentStart '#' = false := by decide +kernel
        rw [List.flatMap_cons, hp]
        rintro d hd rfl
        cases hd
        rw [hmark] at hc
        cases hc
    refine ⟨hwords, fun p hp hmark => hplain (List.mem_flatMap.2 ⟨p, hp, hmark⟩), ?_⟩
    rw [List.mem_append]
    rintro (hmem | hmem)
    · rw [isIdentifierWord, List.contains_iff_mem.2 hmem] at hfree
      cases hfree
    · obtain ⟨w, hw, heq⟩ := List.mem_map.1 hmem
      have hall : ∀ w ∈ Lexeme.rawless, ¬ IsWord ("r#" ++ w) := by decide +kernel
      exact hall w hw (heq ▸ hword)
  · rintro ⟨hwords, hplain, hfree⟩
    rw [List.mem_append, not_or] at hfree
    refine ⟨?_, by simpa [isIdentifierWord] using hfree.1⟩
    have hrest : ∀ c ∈ rest.flatMap String.toList, isIdentContinue c = true := fun c hc => by
      obtain ⟨p, hp, hc⟩ := List.mem_flatMap.1 hc
      rcases (hwords p (List.mem_cons_of_mem _ hp)).solid c hc with hcont | rfl
      · exact hcont
      · exact absurd hc (hplain p hp)
    rw [IsWord, hjoin]
    rcases Lexeme.ident?_eq_some_nil_iff.1 (hwords first List.mem_cons_self) with
      hfirst | ⟨raw, heq, hraw, -⟩
    · exact Lexeme.ident?_eq_some_nil_iff.2 (.inl ((Lexeme.plainIdent?_append hfirst).2 hrest))
    · rw [heq, List.cons_append, List.cons_append]
      refine Lexeme.ident?_eq_some_nil_iff.2
        (.inr ⟨_, rfl, (Lexeme.plainIdent?_append hraw).2 hrest, fun hmem => hfree.2 ?_⟩)
      refine List.mem_map.2 ⟨_, hmem, ?_⟩
      rw [← String.toList_inj, hjoin, heq]
      simp

/-! ### Derived names -/

/-- A word has no separators and is not empty, so it is a part of its own. -/
theorem IsWord.isPart {w : String} (h : IsWord w) :
    w ≠ "" ∧ ∀ c ∈ w.toList, isSeparator c = false := by
  refine ⟨h.ne_empty, fun c hc => isSeparator_eq_false.2 ⟨?_, ?_⟩⟩
  · exact fun heq => h.notMem_colon (heq ▸ hc)
  · exact fun heq => h.notMem_dot (heq ▸ hc)

theorem IsWord.splitName_eq {w : String} (h : IsWord w) : splitName w = [w] :=
  splitName_of_part h.isPart

/-- The name of an item is made of words. -/
theorem MarkedDeclaration.Named.isWord_of_own {d : MarkedDeclaration} (h : d.Named)
    (hown : d.nameOverride = none) : ∀ p ∈ splitName d.item.declaredName, IsWord p := by
  have hitem := h.item
  cases hi : d.item with
  | impl i =>
    rw [hi] at hitem
    obtain ⟨names, hnames⟩ : ∃ names, i.selfTy.segmentNames? = some names := by
      have hpath := h.isPath i hi hown
      unfold Ty.isPath at hpath
      unfold Ty.segmentNames?
      split at hpath <;> simp_all
    have hwords : ∀ n ∈ names, IsWord n := hitem names hnames
    have hparts : names.flatMap splitName = names :=
      flatMap_splitName_of_parts fun n hn => (hwords n hn).splitName_eq
    intro p hp
    rw [DeclarationItem.declaredName, Ty.declaredName, hnames,
      splitName_intercalate separates_colons, hparts] at hp
    exact hwords p hp
  | module name content =>
    rw [hi] at hitem
    have hname : IsWord name := hitem
    intro p hp
    rw [DeclarationItem.declaredName, hname.splitName_eq] at hp
    rw [List.mem_singleton.1 hp]
    exact hname

/-- What an accepted name or the name of an item is made of. -/
theorem MarkedDeclaration.Named.parts {d : MarkedDeclaration} (h : d.Named) (m : Markers) :
    let name := (d.declaration m).name
    (name = placeholderName ∨ placeholderName ∉ splitName name) ∧
      ∀ p ∈ nameParts name, isIdentifier p = true ∨ IsWord p := by
  intro name
  -- It suffices that the parts of another name than the placeholder are of these kinds.
  suffices hparts : name = placeholderName ∨
      ∀ p ∈ splitName name, isIdentifier p = true ∨ IsWord p by
    have hplaceholder : ¬ (isIdentifier placeholderName = true ∨ IsWord placeholderName) := by
      decide +kernel
    unfold nameParts
    rcases hparts with hname | hparts
    · exact ⟨.inl hname, by simp [hname]⟩
    · refine ⟨.inr fun hmem => hplaceholder (hparts _ hmem), fun p hp => hparts p ?_⟩
      split at hp
      · cases hp
      · exact hp
  have hdeclared : name = d.nameOverride.getD d.item.declaredName := rfl
  cases hgiven : d.nameOverride with
  | some given =>
    have hname : isBaseName name = true := by
      rw [hdeclared, hgiven]
      exact h.given given hgiven
    simp only [isBaseName, Bool.or_eq_true, decide_eq_true_eq, Bool.and_eq_true,
      List.all_eq_true] at hname
    exact hname.imp_right fun hname p hp => .inl (hname.1 p hp)
  | none =>
    refine .inr fun p hp => .inr ?_
    rw [hdeclared, hgiven, Option.getD_none] at hp
    exact h.isWord_of_own hgiven p hp

/-- Names are accepted or words, and so is a suffix: a derived name is an identifier if and only if
its parts and the suffix join. -/
theorem derived_identifier_iff {c : Config} (hc : c.validate = .ok ()) {path : PathName}
    {ns : Namespace} {text : String} {s : SourceFile} (hs : SourceFile.parse path ns text = .ok s)
    {d : MarkedDeclaration} (hd : d ∈ s.discover c.markers) :
    let name := (d.declaration c.markers).name
    IsIdentifier (deriveName name c.suffix) ↔ Joins (nameParts name ++ [c.suffix]) := by
  intro name
  obtain ⟨-, -, hitems⟩ := SourceFile.named_of_parse hs
  obtain ⟨hnamed, -⟩ := SourceFile.exists_below_of_mem_discover hd hitems
  obtain ⟨hplaceholder, hparts⟩ := hnamed.parts c.markers
  rw [deriveName_eq hplaceholder]
  refine isIdentifier_join_iff (by simp) fun p hp => ?_
  rcases List.mem_append.1 hp with hp | hp
  · exact hparts p hp
  · rw [List.mem_singleton.1 hp]
    exact .inl (Config.validate_eq_ok_iff.1 hc).suffix

/-- The names that are derived for the declarations of a source text. -/
def derivedNames (c : Config) (text : String) : Option (List String) :=
  (SourceFile.parse ⟨"src/lib.rs"⟩ .root text).toOption.map fun s =>
    (s.discover c.markers).map fun d => deriveName (d.declaration c.markers).name c.suffix

/-- The segments of a path join, and so the name is an identifier. -/
theorem derived_identifier_of_path :
    ∃ s d, SourceFile.parse ⟨"src/lib.rs"⟩ .root "#[patterns]impl r#a::B{}" = .ok s ∧
      s.discover Config.standard.markers = [d] ∧
      deriveName (d.declaration Config.standard.markers).name "Patterns" = "r#aBPatterns" ∧
      IsIdentifier (deriveName (d.declaration Config.standard.markers).name "Patterns") := by
  have hc : Config.standard.validate = .ok () := by decide +kernel
  have hnames : (SourceFile.parse ⟨"src/lib.rs"⟩ .root "#[patterns]impl r#a::B{}").toOption.map
      (fun s => (s.discover Config.standard.markers).map fun d =>
        (d.declaration Config.standard.markers).name) = some ["r#a::B"] := by decide +kernel
  cases hs : SourceFile.parse ⟨"src/lib.rs"⟩ .root "#[patterns]impl r#a::B{}" with
  | error e =>
    rw [hs] at hnames
    cases hnames
  | ok s =>
    rw [hs] at hnames
    have hlist := Option.some.inj hnames
    obtain ⟨d, hd⟩ := List.length_eq_one_iff.1 (by simpa using congrArg List.length hlist)
    have hname : (d.declaration Config.standard.markers).name = "r#a::B" := by
      simpa [hd] using hlist
    refine ⟨s, d, rfl, hd, by rw [hname]; decide, ?_⟩
    refine (derived_identifier_iff hc hs (hd ▸ List.mem_singleton_self d)).2 ?_
    rw [hname]
    decide +kernel

/-- A raw name behind another one, a blank in a given name, and a suffix that makes a reserved word
of a name pass all checks, and none of the derived names is an identifier. -/
theorem derived_no_identifiers :
    let c := Config.standard
    let n : Config := { c with suffix := "n" }
    c.validate = .ok () ∧ n.validate = .ok () ∧
      derivedNames c "#[patterns]impl a::r#b{}" = some ["ar#bPatterns"] ∧
      ¬ IsIdentifier "ar#bPatterns" ∧
      derivedNames c "#[patterns(name=\" Foo\")]impl A{}" = some [" FooPatterns"] ∧
      ¬ IsIdentifier " FooPatterns" ∧
      derivedNames n "#[patterns]impl f{}" = some ["fn"] ∧ ¬ IsIdentifier "fn" := by
  decide +kernel

end PatternFactory
