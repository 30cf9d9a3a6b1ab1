import PatternFactory.Factory.Renderer
import Mathlib.Data.List.Basic
import Mathlib.Data.List.TakeWhile
import Mathlib.Tactic.IntervalCases

/-!
# Words

`IsWord text` says that the text is one identifier with nothing around it, be it raw.  The lexer
makes a word token of nothing else (`Tokens.lexed_ofText`), and a text that is a word is read as
this one token (`isOneWord_iff`).
-/

namespace PatternFactory

/-! ### Characters -/

theorem isIdentContinue_of_isIdentStart {c : Char} (h : isIdentStart c = true) :
    isIdentContinue c = true := by
  unfold isIdentStart at h
  unfold isIdentContinue
  split at h
  next hc =>
    rw [if_pos hc]
    have : c.isAlpha = true ∨ c = '_' := by simpa using h
    simp only [Char.isAlphanum, Bool.or_eq_true, decide_eq_true_eq]
    tauto
  next hc => simp [hc, h]

/-- The characters that begin comments, literals and groups or separate names are in no identifier,
and neither are the raw mark and the byte order mark. -/
theorem not_isIdentContinue {c : Char}
    (h : c ∈ ['#', '/', '.', ':', '\uFEFF', '\'', '"', '(', '[', '\x7b', ')', ']', '\x7d']) :
    isIdentContinue c = false := by
  have hall : ['#', '/', '.', ':', '\uFEFF', '\'', '"', '(', '[', '\x7b', ')', ']', '\x7d'].all
      (fun c => !isIdentContinue c) := by decide +kernel
  simpa using List.all_eq_true.1 hall c h

/-- The code points of the characters that are blanks. -/
def blankCodes : List Nat :=
  (List.range 5).map (· + 9) ++ (List.range 11).map (· + 0x2000)
    ++ [32, 0x85, 0xA0, 0x1680, 0x200E, 0x200F, 0x2028, 0x2029, 0x202F, 0x205F, 0x3000]

theorem mem_blankCodes {c : Char} (h : Lexeme.isBlank c = true) : c.toNat ∈ blankCodes := by
  generalize hn : c.toNat = n
  simp only [Lexeme.isBlank, hn, Bool.or_eq_true, Bool.and_eq_true, decide_eq_true_eq,
    or_assoc] at h
  rcases h with ⟨hlo, hhi⟩ | h | h | h | h | ⟨hlo, hhi⟩ | h | h | h | h | h | h | h
  case inl => interval_cases n <;> decide
  case inr.inr.inr.inr.inr.inl => interval_cases n <;> decide
  all_goals subst h; decide

theorem not_isIdentContinue_of_isBlank {c : Char} (h : Lexeme.isBlank c = true) :
    isIdentContinue c = false := by
  have hall : ∀ n ∈ blankCodes, isIdentContinue (Char.ofNat n) = false := by decide +kernel
  simpa only [Char.ofNat_toNat] using hall c.toNat (mem_blankCodes h)

/-! ### Identifiers -/

namespace Lexeme

theorem after?_go_eq_some {lead cs rest : List Char} :
    after?.go lead cs = some rest ↔ cs = lead ++ rest := by
  induction lead generalizing cs with
  | nil => simp [after?.go, eq_comm]
  | cons p ps ih =>
    cases cs with
    | nil => simp [after?.go]
    | cons c cs =>
      simp only [after?.go, List.cons_append, List.cons.injEq]
      split
      next h => rw [ih]; simp [h]
      next h => simp [Ne.symm h]

theorem after?_eq_some {lead : String} {cs rest : List Char} :
    after? lead cs = some rest ↔ cs = lead.toList ++ rest := after?_go_eq_some

theorem startsWith_iff {lead : String} {cs : List Char} :
    startsWith lead cs = true ↔ lead.toList <+: cs := by
  rw [startsWith, Option.isSome_iff_exists]
  simp only [after?_eq_some]
  exact ⟨fun ⟨rest, h⟩ => ⟨rest, h.symm⟩, fun ⟨rest, h⟩ => ⟨rest, h.symm⟩⟩

@[simp] theorem upTo_append (front rest : List Char) : upTo (front ++ rest) rest = front := by
  simp [upTo]

/-- What an identifier without a raw mark consists of. -/
theorem plainIdent?_eq_some_nil_iff {cs : List Char} : plainIdent? cs = some [] ↔
    ∃ c name, cs = c :: name ∧ isIdentStart c = true ∧ ∀ d ∈ name, isIdentContinue d = true := by
  cases cs with
  | nil => simp [plainIdent?]
  | cons c cs =>
    simp only [plainIdent?, List.cons.injEq, Option.ite_none_right_eq_some, Option.some.injEq,
      List.dropWhile_eq_nil_iff]
    constructor
    · rintro ⟨hc, hcs⟩
      exact ⟨c, cs, ⟨rfl, rfl⟩, hc, hcs⟩
    · rintro ⟨d, name, ⟨rfl, rfl⟩, hd, hname⟩
      exact ⟨hd, hname⟩

theorem isIdentContinue_of_plainIdent? {cs : List Char} (h : plainIdent? cs = some []) :
    ∀ c ∈ cs, isIdentContinue c = true := by
  obtain ⟨c, name, rfl, hc, hname⟩ := plainIdent?_eq_some_nil_iff.1 h
  intro d hd
  rcases List.mem_cons.1 hd with rfl | hd
  · exact isIdentContinue_of_isIdentStart hc
  · exact hname d hd

/-- An identifier stays one when it is lengthened. -/
theorem plainIdent?_append {cs ds : List Char} (h : plainIdent? cs = some []) :
    plainIdent? (cs ++ ds) = some [] ↔ ∀ d ∈ ds, isIdentContinue d = true := by
  obtain ⟨c, name, rfl, hc, hname⟩ := plainIdent?_eq_some_nil_iff.1 h
  rw [List.cons_append, plainIdent?_eq_some_nil_iff]
  constructor
  · rintro ⟨_, _, heq, -, hall⟩ d hd
    cases heq
    exact hall d (List.mem_append_right _ hd)
  · intro hds
    refine ⟨c, name ++ ds, rfl, hc, fun d hd => ?_⟩
    rcases List.mem_append.1 hd with hd | hd
    · exact hname d hd
    · exact hds d hd

/-- An identifier at the front of a text is one by itself. -/
theorem exists_of_plainIdent? {cs rest : List Char} (h : plainIdent? cs = some rest) :
    ∃ front, cs = front ++ rest ∧ plainIdent? front = some [] := by
  cases cs with
  | nil => simp [plainIdent?] at h
  | cons c cs =>
    simp only [plainIdent?, Option.ite_none_right_eq_some, Option.some.injEq] at h
    obtain ⟨hc, rfl⟩ := h
    refine ⟨c :: cs.takeWhile isIdentContinue, ?_, ?_⟩
    · rw [List.cons_append, List.takeWhile_append_dropWhile]
    · exact plainIdent?_eq_some_nil_iff.2 ⟨c, _, rfl, hc, fun d hd => List.mem_takeWhile_imp hd⟩

/-- The words that have no raw form. -/
def rawless : List String := ["_", "super", "self", "Self", "crate"]

theorem after?_raw_of_plain {cs : List Char} (h : plainIdent? cs = some []) :
    after? "r#" cs = none := by
  rw [Option.eq_none_iff_forall_ne_some]
  intro rest hrest
  rw [after?_eq_some] at hrest
  subst hrest
  have := isIdentContinue_of_plainIdent? h '#' (by simp)
  rw [not_isIdentContinue (by decide)] at this
  cases this

/-- An identifier is plain, or it is a plain one behind the raw mark. -/
theorem ident?_eq_some_nil_iff {cs : List Char} : ident? cs = some [] ↔ plainIdent? cs = some [] ∨
    ∃ raw, cs = 'r' :: '#' :: raw ∧ plainIdent? raw = some [] ∧ String.ofList raw ∉ rawless := by
  unfold ident?
  split
  next h =>
    refine ⟨.inl, ?_⟩
    rintro (hplain | ⟨raw, rfl, -, -⟩)
    · exact hplain
    · simp [after?, after?.go] at h
  next raw h =>
    obtain rfl : cs = 'r' :: '#' :: raw := after?_eq_some.1 h
    constructor
    · intro hraw
      obtain ⟨rest, hplain, hrest⟩ := Option.bind_eq_some_iff.1 hraw
      split at hrest
      · cases hrest
      next hforbidden =>
        cases hrest
        refine .inr ⟨raw, rfl, hplain, ?_⟩
        simpa [upTo, rawless] using hforbidden
    · rintro (hplain | ⟨_, heq, hplain, hforbidden⟩)
      · rw [after?_raw_of_plain hplain] at h
        cases h
      · cases heq
        have : ["_", "super", "self", "Self", "crate"].contains
            (String.ofList (upTo raw [])) = false := by simpa [upTo, rawless] using hforbidden
        simp only [hplain, Option.bind_eq_bind, Option.bind_some, this, Bool.false_eq_true,
          if_false]

/-- An identifier at the front of a text is one by itself. -/
theorem exists_of_ident? {cs rest : List Char} (h : ident? cs = some rest) :
    ∃ front, cs = front ++ rest ∧ ident? front = some [] := by
  unfold ident? at h
  split at h
  next =>
    obtain ⟨front, hcs, hfront⟩ := exists_of_plainIdent? h
    exact ⟨front, hcs, ident?_eq_some_nil_iff.2 (.inl hfront)⟩
  next raw hraw =>
    obtain rfl : cs = 'r' :: '#' :: raw := after?_eq_some.1 hraw
    obtain ⟨rest', hplain, hrest⟩ := Option.bind_eq_some_iff.1 h
    obtain ⟨front, rfl, hfront⟩ := exists_of_plainIdent? hplain
    rw [upTo_append] at hrest
    split at hrest
    · cases hrest
    next hforbidden =>
      cases hrest
      refine ⟨'r' :: '#' :: front, rfl, ident?_eq_some_nil_iff.2 (.inr ⟨front, rfl, hfront, ?_⟩)⟩
      simpa [rawless] using hforbidden

/-! ### What an identifier is not -/

variable {cs : List Char}

/-- The first character of an identifier. -/
theorem exists_head_of_ident? (h : ident? cs = some []) :
    ∃ c name, cs = c :: name ∧ isIdentStart c = true := by
  rcases ident?_eq_some_nil_iff.1 h with hplain | ⟨raw, rfl, -, -⟩
  · obtain ⟨c, name, rfl, hc, -⟩ := plainIdent?_eq_some_nil_iff.1 hplain
    exact ⟨c, name, rfl, hc⟩
  · exact ⟨'r', '#' :: raw, rfl, by decide⟩

/-- The text holds only characters of identifiers and raw marks, and so no blank and no comment. -/
def Solid (cs : List Char) : Prop := ∀ c ∈ cs, isIdentContinue c = true ∨ c = '#'

theorem solid_of_ident? (h : ident? cs = some []) : Solid cs := by
  intro c hc
  rcases ident?_eq_some_nil_iff.1 h with hplain | ⟨raw, rfl, hplain, -⟩
  · exact .inl (isIdentContinue_of_plainIdent? hplain c hc)
  · rcases List.mem_cons.1 hc with rfl | hc
    · exact .inl (by decide)
    · rcases List.mem_cons.1 hc with rfl | hc
      · exact .inr rfl
      · exact .inl (isIdentContinue_of_plainIdent? hplain c hc)

/-- A character of another kind is in no identifier. -/
theorem notMem_of_ident? (h : ident? cs = some []) {c : Char} (hc : isIdentContinue c = false)
    (hmark : c ≠ '#') : c ∉ cs := fun hmem => by
  rcases solid_of_ident? h c hmem with hcont | rfl
  · rw [hc] at hcont
    cases hcont
  · exact hmark rfl

/-- Such a text begins with nothing that has another first character. -/
theorem startsWith_of_solid (h : Solid cs) {lead : String} {c : Char}
    (hlead : lead.toList.head? = some c) (hc : isIdentContinue c = false ∧ c ≠ '#') :
    startsWith lead cs = false := by
  rw [Bool.eq_false_iff, ne_eq, startsWith_iff]
  intro hprefix
  have hmem : c ∈ cs := hprefix.mem (List.mem_of_head? hlead)
  rcases h c hmem with hcont | hmark
  · rw [hc.1] at hcont
    cases hcont
  · exact hc.2 hmark

theorem skipBlanks_of_solid (h : Solid cs) : skipBlanks cs = cs := by
  have hslash : isIdentContinue '/' = false ∧ '/' ≠ '#' :=
    ⟨not_isIdentContinue (by decide), by decide⟩
  have hline : startsWith "//" cs = false := startsWith_of_solid h rfl hslash
  have hempty : startsWith "/**/" cs = false := startsWith_of_solid h rfl hslash
  have hblock : startsWith "/*" cs = false := startsWith_of_solid h rfl hslash
  have hnone : blank? cs = none := by
    cases cs with
    | nil => simp [blank?, hline, hempty, hblock]
    | cons c cs =>
      have hmark : isBlank '#' = false := by decide
      have hblank : isBlank c = false := by
        rw [Bool.eq_false_iff]
        intro hblank
        rcases h c List.mem_cons_self with hcont | rfl
        · rw [not_isIdentContinue_of_isBlank hblank] at hcont
          cases hcont
        · rw [hmark] at hblank
          cases hblank
      simp [blank?, hline, hempty, hblock, hblank]
  rw [skipBlanks, hnone]

theorem docComment?_of_solid (h : Solid cs) : docComment? cs = none := by
  have hslash : ∀ lead ∈ ["//!", "/*!", "///", "/**"], startsWith lead cs = false := by
    intro lead hlead
    refine startsWith_of_solid h (c := '/') ?_ ⟨not_isIdentContinue (by decide), by decide⟩
    revert lead
    decide
  simp only [docComment?, hslash "//!" (by decide), hslash "/*!" (by decide),
    hslash "///" (by decide), hslash "/**" (by decide)]
  rfl

/-- A raw literal has a quote. -/
theorem mem_of_rawOpening? {p : Nat × List Char} (h : rawOpening? cs = some p) : '"' ∈ cs := by
  unfold rawOpening? at h
  simp only at h
  split at h
  next rest heq =>
    exact List.mem_of_mem_drop (heq ▸ List.mem_cons_self)
  next => cases h

/-- What is read behind a lead. -/
theorem of_after?_bind {lead : String} {α : Type} {f : List Char → Option α} {a : α}
    (h : (after? lead cs >>= f) = some a) : ∃ rest, cs = lead.toList ++ rest ∧ f rest = some a := by
  obtain ⟨rest, hrest, hf⟩ := Option.bind_eq_some_iff.1 h
  exact ⟨rest, after?_eq_some.1 hrest, hf⟩

/-- A string literal has a quote. -/
theorem mem_of_string? {rest : List Char} (h : string? cs = some rest) : '"' ∈ cs := by
  have hquoted : ∀ {lead : String} {f : List Char → Option (List Char)} {rest : List Char},
      '"' ∈ lead.toList → (after? lead cs >>= f) = some rest → '"' ∈ cs := by
    intro lead f rest hlead h
    obtain ⟨behind, rfl, -⟩ := of_after?_bind h
    exact List.mem_append_left _ hlead
  have hraw : ∀ {lead : String} {kind : Quoted} {rest : List Char},
      (after? lead cs >>= raw? kind) = some rest → '"' ∈ cs := by
    intro lead kind rest h
    obtain ⟨behind, rfl, hbehind⟩ := of_after?_bind h
    obtain ⟨p, hp, -⟩ := Option.bind_eq_some_iff.1 hbehind
    exact List.mem_append_right _ (mem_of_rawOpening? hp)
  simp only [string?, Option.orElse_eq_orElse, Option.orElse_eq_or, Option.or_eq_some_iff] at h
  rcases h with h | ⟨-, h | ⟨-, h | ⟨-, h | ⟨-, h | ⟨-, h⟩⟩⟩⟩⟩
  · exact hquoted (by decide) h
  · exact hraw h
  · exact hquoted (by decide) h
  · exact hraw h
  · exact hquoted (by decide) h
  · exact hraw h

/-- A floating point number begins with a digit. -/
theorem isDigit_of_float? {c : Char} {rest : List Char} (h : float? (c :: cs) = some rest) :
    c.isDigit = true := by
  obtain ⟨digits, hdigits, -⟩ := Option.bind_eq_some_iff.1 h
  simp only [floatDigits?, Option.ite_none_right_eq_some] at hdigits
  exact hdigits.1

theorem isDigit_of_hexValue? {c : Char} {d : Nat} (h : hexValue? c = some d) (hd : d < 10) :
    c.isDigit = true := by
  unfold hexValue? at h
  split at h
  next hc =>
    simp only [Bool.and_eq_true, decide_eq_true_eq, Char.le_def] at hc
    simpa [Char.isDigit] using hc
  next =>
    have hten : 10 ≤ d := by
      split at h
      · cases h; omega
      · split at h <;> cases h; omega
    omega

/-- A number begins with a digit. -/
theorem isDigit_of_int? {c : Char} {rest : List Char} (h : int? (c :: cs) = some rest) :
    c.isDigit = true := by
  have hbase : ∀ {lead : String} {behind : List Char}, lead.toList.head? = some '0' →
      after? lead (c :: cs) = some behind → c.isDigit = true := by
    intro lead behind hlead h
    rw [after?_eq_some] at h
    cases hl : lead.toList with
    | nil => simp [hl] at hlead
    | cons b bs =>
      rw [hl, List.head?_cons, Option.some.injEq] at hlead
      rw [hl, List.cons_append, List.cons.injEq] at h
      rw [h.1, hlead]
      decide
  simp only [int?, Option.bind_eq_bind] at h
  split at h
  next h' => exact hbase rfl h'
  next h' _ => exact hbase rfl h'
  next h' _ _ => exact hbase rfl h'
  next =>
    obtain ⟨digits, hdigits, -⟩ := Option.bind_eq_some_iff.1 h
    unfold intDigits? at hdigits
    by_cases hu : c = '_'
    · simp [hu] at hdigits
    · rw [if_neg hu] at hdigits
      cases hv : hexValue? c with
      | none => simp [hv] at hdigits
      | some d =>
        simp only [hv] at hdigits
        by_cases hd : d < 10
        · exact isDigit_of_hexValue? hv hd
        · simp [hd] at hdigits

theorem isDigit_eq_false_of_isIdentStart {c : Char} (h : isIdentStart c = true) :
    c.isDigit = false := by
  rw [Bool.eq_false_iff]
  intro hdigit
  have hrange : 48 ≤ c.toNat ∧ c.toNat ≤ 57 := by
    simp only [Char.isDigit, Bool.and_eq_true, decide_eq_true_eq, ge_iff_le,
      UInt32.le_iff_toNat_le] at hdigit
    exact hdigit
  have hall : ∀ n ∈ (List.range 10).map (· + 48), isIdentStart (Char.ofNat n) = false := by
    decide
  have hmem : c.toNat ∈ (List.range 10).map (· + 48) :=
    List.mem_map.2 ⟨c.toNat - 48, List.mem_range.2 (by omega), by omega⟩
  have := hall _ hmem
  rw [Char.ofNat_toNat, h] at this
  cases this

/-- An identifier is no literal. -/
theorem literal?_of_ident? (h : ident? cs = some []) : literal? cs = none := by
  have hquote : '"' ∉ cs := notMem_of_ident? h (not_isIdentContinue (by decide)) (by decide)
  have htick : '\'' ∉ cs := notMem_of_ident? h (not_isIdentContinue (by decide)) (by decide)
  rw [Option.eq_none_iff_forall_ne_some]
  intro rest hrest
  have hcharacter : ∀ {lead : String} {kind : Quoted} {rest : List Char}, '\'' ∈ lead.toList →
      (after? lead cs >>= character? kind) = some rest → False := by
    intro lead kind rest hlead h
    obtain ⟨behind, rfl, -⟩ := of_after?_bind h
    exact htick (List.mem_append_left _ hlead)
  have hnumber : ∀ {rest : List Char}, float? cs = some rest ∨ int? cs = some rest → False := by
    intro rest hnumber
    obtain ⟨c, name, rfl, hc⟩ := exists_head_of_ident? h
    have hdigit : c.isDigit = true := by
      rcases hnumber with hnumber | hnumber
      · exact isDigit_of_float? hnumber
      · exact isDigit_of_int? hnumber
    rw [isDigit_eq_false_of_isIdentStart hc] at hdigit
    cases hdigit
  simp only [literal?, Option.orElse_eq_orElse, Option.orElse_eq_or, Option.or_eq_some_iff] at hrest
  rcases hrest with hrest | ⟨-, hrest | ⟨-, hrest | ⟨-, hrest | ⟨-, hrest⟩⟩⟩⟩
  · exact hquote (mem_of_string? hrest)
  · exact hcharacter (by decide) hrest
  · exact hcharacter (by decide) hrest
  · exact hnumber (.inl hrest)
  · exact hnumber (.inr hrest)

/-- An identifier does not begin with punctuation. -/
theorem punct?_of_ident? (h : ident? cs = some []) : punct? cs = none := by
  obtain ⟨c, name, rfl, hc⟩ := exists_head_of_ident? h
  have hall : punctuation.all (fun d => !isIdentStart d) := by decide
  have hnot : punctuation.contains c = false := by
    rw [Bool.eq_false_iff, ne_eq, List.contains_iff_mem]
    intro hmem
    simpa [hc] using List.all_eq_true.1 hall c hmem
  have hchar : punctChar? (c :: name) = none := by
    simp only [punctChar?, hnot]
    split <;> rfl
  simp [punct?, hchar]

/-- An identifier does not begin like a literal. -/
theorem word?_of_ident? (h : ident? cs = some []) : word? cs = some [] := by
  have hquote : '"' ∉ cs := notMem_of_ident? h (not_isIdentContinue (by decide)) (by decide)
  have htick : '\'' ∉ cs := notMem_of_ident? h (not_isIdentContinue (by decide)) (by decide)
  have hmark : ∀ lead ∈ literalLeads, ¬ lead.toList <+: cs := by
    rintro lead hlead ⟨rest, hcs⟩
    rcases ident?_eq_some_nil_iff.1 h with hplain | ⟨raw, rfl, hplain, -⟩
    · have hword := isIdentContinue_of_plainIdent? hplain
      have hall : literalLeads.all (fun lead => lead.toList.any fun c => !isIdentContinue c) := by
        decide
      obtain ⟨c, hc, hcont⟩ := List.any_eq_true.1 (List.all_eq_true.1 hall lead hlead)
      simp [hword c (hcs ▸ List.mem_append_left _ hc)] at hcont
    · have hall : literalLeads.all (fun lead => decide (2 ≤ lead.toList.length) &&
          (decide (lead.toList.take 2 ≠ ['r', '#']) ||
            (lead.toList.drop 2).any fun c => !isIdentContinue c)) := by decide
      obtain ⟨hlength, hbehind⟩ := Bool.and_eq_true_iff.1 (List.all_eq_true.1 hall lead hlead)
      rw [decide_eq_true_eq] at hlength
      rw [Bool.or_eq_true, decide_eq_true_eq] at hbehind
      have htake : lead.toList.take 2 = ['r', '#'] :=
        (List.take_append_of_le_length hlength).symm.trans (congrArg (List.take 2) hcs)
      have hdrop : lead.toList.drop 2 ++ rest = raw :=
        (List.drop_append_of_le_length hlength).symm.trans (congrArg (List.drop 2) hcs)
      obtain ⟨c, hc, hcont⟩ := List.any_eq_true.1 (hbehind.resolve_left (not_not.2 htake))
      have hraw : c ∈ raw := hdrop ▸ List.mem_append_left rest hc
      simp [isIdentContinue_of_plainIdent? hplain c hraw] at hcont
  rw [word?, if_neg, h]
  simpa [startsWith_iff] using hmark

end Lexeme

/-! ### Words and tokens -/

/-- Is the text one identifier, be it raw, and nothing else? -/
def IsWord (text : String) : Prop := Lexeme.ident? text.toList = some []

instance (text : String) : Decidable (IsWord text) := inferInstanceAs (Decidable (_ = _))

namespace IsWord

variable {w : String}

theorem solid (h : IsWord w) : Lexeme.Solid w.toList := Lexeme.solid_of_ident? h

theorem ne_empty (h : IsWord w) : w ≠ "" := by
  rintro rfl
  exact absurd h (by decide)

theorem notMem_slash (h : IsWord w) : '/' ∉ w.toList :=
  Lexeme.notMem_of_ident? h (not_isIdentContinue (by decide)) (by decide)

theorem notMem_colon (h : IsWord w) : ':' ∉ w.toList :=
  Lexeme.notMem_of_ident? h (not_isIdentContinue (by decide)) (by decide)

theorem notMem_dot (h : IsWord w) : '.' ∉ w.toList :=
  Lexeme.notMem_of_ident? h (not_isIdentContinue (by decide)) (by decide)

end IsWord

mutual

/-- Is every word in the token a word? -/
def Token.Lexed : Token → Prop
  | .word w _ => IsWord w
  | .group _ body _ _ => Tokens.Lexed body
  | _ => True

/-- Is every word in the tokens a word? -/
def Tokens.Lexed : List Token → Prop
  | [] => True
  | t :: ts => t.Lexed ∧ Tokens.Lexed ts

end

namespace Tokens

theorem lexed_iff {ts : List Token} : Lexed ts ↔ ∀ t ∈ ts, t.Lexed := by
  induction ts with
  | nil => simp [Lexed]
  | cons t ts ih => simp [Lexed, ih]

theorem Lexed.reverse {ts : List Token} (h : Lexed ts) : Lexed ts.reverse := by
  simpa [lexed_iff] using h

theorem Lexed.append {ts us : List Token} (ht : Lexed ts) (hu : Lexed us) : Lexed (ts ++ us) := by
  simp only [lexed_iff, List.mem_append] at *
  exact fun t h => h.elim (ht t) (hu t)

end Tokens

namespace Lexer

open Tokens

theorem lexed_docTokens (comment : Lexeme.DocComment) (pos : Pos) :
    Lexed (docTokens comment pos) := by
  have hdoc : IsWord "doc" := by decide
  unfold docTokens
  split <;> simp [Lexed, Token.Lexed, hdoc]

/-- A leaf that is a word is an identifier at the front of the text. -/
theorem exists_word_of_leaf? {cs rest : List Char} {pos pos' : Pos} {w : String}
    (h : leaf? cs pos = some (.word w pos', rest)) :
    ∃ front, cs = front ++ rest ∧ Lexeme.ident? front = some [] ∧ w = String.ofList front := by
  unfold leaf? at h
  split at h
  next => cases h
  next =>
    split at h
    next => cases h
    next =>
      split at h
      next rest' hword =>
        cases h
        simp only [Lexeme.word?, Option.ite_none_left_eq_some] at hword
        obtain ⟨front, rfl, hfront⟩ := Lexeme.exists_of_ident? hword.2
        exact ⟨front, rfl, hfront, by rw [Lexeme.upTo_append]⟩
      next =>
        obtain ⟨_, -, heq⟩ := Option.map_eq_some_iff.1 h
        cases heq

theorem lexed_of_leaf? {cs rest : List Char} {pos : Pos} {t : Token}
    (h : leaf? cs pos = some (t, rest)) : t.Lexed := by
  cases t with
  | word w pos' =>
    obtain ⟨front, -, hfront, rfl⟩ := exists_word_of_leaf? h
    simpa [Token.Lexed, IsWord] using hfront
  | group =>
    unfold leaf? at h
    split at h
    next => cases h
    next =>
      split at h
      next => cases h
      next =>
        split at h
        next => cases h
        next =>
          obtain ⟨_, -, heq⟩ := Option.map_eq_some_iff.1 h
          cases heq
  | _ => trivial

/-! ### Steps of the scanner -/

/-- What one step makes of the open groups and of the tokens of the innermost one, last one
first. -/
inductive Step : List Frame → List Token → List Frame → List Token → Prop
  /-- A doc comment is spelled out as an attribute. -/
  | doc {stack acc} (comment : Lexeme.DocComment) (lo : Pos) :
      Step stack acc stack ((docTokens comment lo).reverse ++ acc)
  | opens {stack acc} (delim : Delimiter) (lo : Pos) : Step stack acc (⟨delim, lo, acc⟩ :: stack) []
  | closes {frame outer acc} (lo : Pos) :
      Step (frame :: outer) acc outer
        (.group frame.delim acc.reverse frame.opening lo :: frame.before)
  | leaf {stack acc cs lo t rest} (hleaf : leaf? cs lo = some (t, rest)) :
      Step stack acc stack (t :: acc)

/-- Steps lead from the open groups and the tokens so far to all tokens of a text. -/
inductive Scans : List Frame → List Token → List Token → Prop
  | done (acc : List Token) : Scans [] acc acc.reverse
  | step {stack acc stack' acc' ts} (hstep : Step stack acc stack' acc')
      (hrest : Scans stack' acc' ts) : Scans stack acc ts

/-- **A scan that ends well makes steps until no group is open.** -/
theorem scans_of_scan {text : List Char} {pos : Pos} {stack : List Frame} {acc ts : List Token}
    (h : scan text pos stack acc = .ok ts) : Scans stack acc ts := by
  induction hn : text.length using Nat.strong_induction_on generalizing text pos stack acc with
  | _ n ih =>
    subst hn
    have hgoOn : ∀ {rest : List Char} {pos' lo : Pos} {stack' : List Frame} {acc' : List Token},
        (if rest.length < text.length then scan rest pos' stack' acc' else .error lo) = .ok ts →
        Step stack acc stack' acc' → Scans stack acc ts := by
      intro rest pos' lo stack' acc' hscan hstep
      split at hscan
      next hlt => exact .step hstep (ih _ hlt hscan rfl)
      next => cases hscan
    rw [scan.eq_def] at h
    simp only at h
    split at h
    next comment rest _ => exact hgoOn h (.doc comment _)
    next =>
      split at h
      next =>
        split at h
        · cases h
          exact .done acc
        · cases h
      next =>
        split at h
        next delim _ => exact hgoOn h (.opens delim _)
        next =>
          split at h
          next =>
            split at h
            · cases h
            next =>
              split at h
              next hdelim => exact hgoOn h (hdelim ▸ .closes _)
              next => cases h
          next =>
            split at h
            next hleaf => exact hgoOn h (.leaf hleaf)
            next => cases h

section

variable {stack stack' : List Frame} {acc acc' ts : List Token}

theorem Step.lexed (h : Step stack acc stack' acc') (hstack : ∀ f ∈ stack, Lexed f.before)
    (hacc : Lexed acc) : (∀ f ∈ stack', Lexed f.before) ∧ Lexed acc' := by
  cases h with
  | doc comment lo => exact ⟨hstack, (lexed_docTokens comment lo).reverse.append hacc⟩
  | opens => exact ⟨List.forall_mem_cons.2 ⟨hacc, hstack⟩, trivial⟩
  | closes =>
    obtain ⟨hbefore, houter⟩ := List.forall_mem_cons.1 hstack
    exact ⟨houter, hacc.reverse, hbefore⟩
  | leaf hleaf => exact ⟨hstack, lexed_of_leaf? hleaf, hacc⟩

/-- The tokens that are scanned are words as far as they are called so, if those before them are. -/
theorem Scans.lexed (h : Scans stack acc ts) (hstack : ∀ f ∈ stack, Lexed f.before)
    (hacc : Lexed acc) : Lexed ts := by
  induction h with
  | done => exact hacc.reverse
  | step hstep _ ih =>
    obtain ⟨hstack', hacc'⟩ := hstep.lexed hstack hacc
    exact ih hstack' hacc'

/-- The tokens so far that stand in no group, last one first. -/
def outermost : List Frame → List Token → List Token
  | [], acc => acc
  | frame :: outer, _ => outermost outer frame.before

theorem outermost_mono (stack : List Frame) (h : acc <:+ acc') :
    outermost stack acc <:+ outermost stack acc' := by
  cases stack with
  | nil => exact h
  | cons => exact List.suffix_refl _

theorem Step.outermost (h : Step stack acc stack' acc') :
    outermost stack acc <:+ outermost stack' acc' := by
  cases h with
  | doc => exact outermost_mono _ (List.suffix_append _ _)
  | opens => exact List.suffix_refl _
  | closes =>
    rw [Lexer.outermost]
    exact outermost_mono _ (List.suffix_cons _ _)
  | leaf => exact outermost_mono _ (List.suffix_cons _ _)

/-- Scanning drops no token. -/
theorem Scans.outermost (h : Scans stack acc ts) : outermost stack acc <:+ ts.reverse := by
  induction h with
  | done acc =>
    rw [List.reverse_reverse]
    exact List.suffix_refl acc
  | step hstep _ ih => exact hstep.outermost.trans ih

end

/-- A text without brackets, blanks and comments is scanned from one leaf to the next. -/
theorem scan_of_solid {cs : List Char} (h : Lexeme.Solid cs) (hne : cs ≠ []) (pos : Pos)
    (acc : List Token) : scan cs pos [] acc =
      match leaf? cs pos with
      | some (t, rest) =>
        if rest.length < cs.length then
          scan rest (pos.advance (Lexeme.upTo cs rest)) [] (t :: acc)
        else .error pos
      | none => .error pos := by
  have herror : Lexeme.startsWith errorLiteral cs = false :=
    Lexeme.startsWith_of_solid h (c := '(') rfl ⟨not_isIdentContinue (by decide), by decide⟩
  obtain ⟨c, name, rfl⟩ := List.exists_cons_of_ne_nil hne
  have hnot : ∀ d ∈ ['(', '[', '\x7b', ')', ']', '\x7d'], c ≠ d := by
    rintro d hd rfl
    have hmark : isIdentContinue c = false := not_isIdentContinue (by simp at hd ⊢; tauto)
    rcases h c List.mem_cons_self with hcont | rfl
    · rw [hmark] at hcont
      cases hcont
    · simp at hd
  have hopening : Delimiter.ofOpening? c = none := by
    unfold Delimiter.ofOpening?
    split <;> simp_all
  have hclosing : Delimiter.ofClosing? c = none := by
    unfold Delimiter.ofClosing?
    split <;> simp_all
  rw [scan.eq_def]
  simp only [Lexeme.skipBlanks_of_solid h, Lexeme.docComment?_of_solid h, herror, hopening,
    hclosing, Bool.false_eq_true, if_false]
  have hpos : pos.advance (Lexeme.upTo (c :: name) (c :: name)) = pos := by
    simp [Lexeme.upTo, Pos.advance]
  cases hleaf : leaf? (c :: name) pos <;> simp only [hpos, hleaf]

theorem scan_nil (pos : Pos) (acc : List Token) : scan [] pos [] acc = .ok acc.reverse := by
  have hskip : Lexeme.skipBlanks [] = [] := Lexeme.skipBlanks_of_solid nofun
  have hdoc : Lexeme.docComment? [] = none := Lexeme.docComment?_of_solid nofun
  rw [scan.eq_def]
  simp only [hskip, hdoc]

/-- An identifier is scanned as one word. -/
theorem scan_of_ident? {cs : List Char} (h : Lexeme.ident? cs = some []) (pos : Pos) :
    scan cs pos [] [] = .ok [.word (String.ofList cs) pos] := by
  have hleaf : leaf? cs pos = some (.word (String.ofList cs) pos, []) := by
    simp [leaf?, Lexeme.literal?_of_ident? h, Lexeme.punct?_of_ident? h, Lexeme.word?_of_ident? h,
      Lexeme.upTo]
  obtain ⟨c, name, rfl, -⟩ := Lexeme.exists_head_of_ident? h
  rw [scan_of_solid (Lexeme.solid_of_ident? h) (List.cons_ne_nil _ _), hleaf]
  simp [scan_nil]

/-- The tokens of a text behind its first leaf. -/
theorem exists_leaf_of_scan {cs : List Char} {pos : Pos} {acc ts : List Token}
    (hcs : Lexeme.Solid cs) (hne : cs ≠ []) (h : scan cs pos [] acc = .ok ts) :
    ∃ t rest pos', leaf? cs pos = some (t, rest) ∧ scan rest pos' [] (t :: acc) = .ok ts := by
  rw [scan_of_solid hcs hne] at h
  split at h
  next t rest hleaf =>
    split at h
    · exact ⟨t, rest, _, hleaf, h⟩
    · cases h
  next => cases h

/-- A text without blanks and comments that is scanned as one word is that word. -/
theorem ident?_of_scan {cs : List Char} {pos pos' : Pos} {w : String} (hcs : Lexeme.Solid cs)
    (h : scan cs pos [] [] = .ok [.word w pos']) : Lexeme.ident? cs = some [] := by
  have hne : cs ≠ [] := by
    rintro rfl
    rw [scan_nil] at h
    cases h
  obtain ⟨t, rest, pos₁, hleaf, hrest⟩ := exists_leaf_of_scan hcs hne h
  have ht : [t] <:+ [.word w pos'] := (scans_of_scan hrest).outermost
  obtain rfl : t = .word w pos' := by simpa using ht.eq_of_length rfl
  obtain ⟨front, rfl, hfront, -⟩ := exists_word_of_leaf? hleaf
  suffices hnil : rest = [] by simpa [hnil] using hfront
  -- A second leaf would give a second token.
  by_contra hrestne
  have hsolid : Lexeme.Solid rest := fun c hc => hcs c (List.mem_append_right _ hc)
  obtain ⟨u, rest', pos₂, -, hrest'⟩ := exists_leaf_of_scan hsolid hrestne hrest
  have hlength := (scans_of_scan hrest').outermost.length_le
  simp [outermost] at hlength

end Lexer

/-- The tokens of a text: what is called a word is one. -/
theorem Tokens.lexed_ofText {text : String} {ts : List Token} (h : Tokens.ofText text = .ok ts) :
    Tokens.Lexed ts := by
  obtain ⟨cs, pos, hscan⟩ : ∃ cs pos, Lexer.scan cs pos [] [] = .ok ts := by
    unfold Tokens.ofText at h
    split at h <;> exact ⟨_, _, h⟩
  exact (Lexer.scans_of_scan hscan).lexed (fun f hf => absurd hf List.not_mem_nil) trivial

/-- A word is read as one token. -/
theorem IsWord.ofText {text : String} (h : IsWord text) :
    Tokens.ofText text = .ok [.word text .start] := by
  have hscan := Lexer.scan_of_ident? h .start
  rw [String.ofList_toList] at hscan
  unfold Tokens.ofText
  split
  next cs heq =>
    obtain ⟨c, name, hname, hc⟩ := Lexeme.exists_head_of_ident? h
    rw [heq, List.cons.injEq] at hname
    have hmark : isIdentContinue '\uFEFF' = false := not_isIdentContinue (by decide)
    rw [hname.1, isIdentContinue_of_isIdentStart hc] at hmark
    cases hmark
  next => exact hscan

theorem isOneWord_iff {text : String} : isOneWord text = true ↔ IsWord text := by
  constructor
  · intro h
    unfold isOneWord at h
    split at h
    next w pos hw =>
      have := (Tokens.lexed_ofText hw).1
      rwa [of_decide_eq_true h] at this
    next => cases h
  · intro h
    simp [isOneWord, h.ofText]

/-! ### Reading the characters of a text

Reading a source makes a text again of the characters that are left, and takes that apart to scan
it.  The characters can be scanned as they are.  A literal is `String.ofList` of its characters by
definition, so that reading one in this way is evaluated without the bytes of a text.
-/

/-- The tokens of the text with these characters. -/
def Tokens.ofChars : List Char → Except Pos (List Token)
  | '\uFEFF' :: cs => Lexer.scan cs ⟨1, 2⟩ [] []
  | cs => Lexer.scan cs .start [] []

/-- The items of the source text with these characters. -/
def File.ofChars (cs : List Char) : Except SyntaxError (List Item) :=
  match Tokens.ofChars (withoutInterpreter (withoutMark cs)) with
  | .ok tokens => Tokens.read tokens items
  | .error pos => .error ⟨pos, .notTokens⟩

theorem Tokens.ofText_ofList (cs : List Char) :
    Tokens.ofText (String.ofList cs) = Tokens.ofChars cs := by
  rw [Tokens.ofText, String.toList_ofList]
  rfl

theorem File.ofText_ofList (cs : List Char) : File.ofText (String.ofList cs) = File.ofChars cs := by
  rw [File.ofText, String.toList_ofList, readText, Tokens.ofText_ofList]
  rfl

theorem File.ofText_eq (text : String) : File.ofText text = File.ofChars text.toList := by
  rw [← File.ofText_ofList, String.ofList_toList]

/-- The characters of literals that are put together. -/
theorem append_eq_ofList {s t : String} {cs cs' : List Char} (hs : s = .ofList cs)
    (ht : t = .ofList cs') : s ++ t = .ofList (cs ++ cs') := by
  rw [hs, ht, String.ofList_append]

end PatternFactory
