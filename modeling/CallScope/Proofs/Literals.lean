import CallScope.Proofs.Numerals
import Mathlib.Data.Nat.Digits.Defs

/-!
This module contains the language of integer literals as rules, which also say what integer a literal stands for, and
the proof that texts are read by these rules.
-/

namespace CallScope

namespace Text

variable {c : Char} {p : Char → Bool}

theorem zeroDigits_apart : ∀ start ∈ zeroDigits, ∀ other ∈ zeroDigits,
    start = other ∨ start + 10 ≤ other ∨ other + 10 ≤ start := by
  decide +kernel

theorem zeroDigits_not_letters : ∀ start ∈ zeroDigits, start + 10 ≤ 65 ∨ 123 ≤ start := by
  decide +kernel

theorem decimalValue?_eq_some_iff {digit : Nat} :
    decimalValue? c = some digit ↔ ∃ start ∈ zeroDigits, digit < 10 ∧ c.toNat = start + digit := by
  unfold decimalValue?
  rw [Option.map_eq_some_iff]
  constructor
  · rintro ⟨start, hfind, rfl⟩
    have hrange := List.find?_some hfind
    simp only [Bool.and_eq_true, decide_eq_true_iff] at hrange
    refine ⟨start, List.mem_of_find?_eq_some hfind, ?_, ?_⟩ <;> omega
  · rintro ⟨start, hstart, hdigit, hc⟩
    have hsome : (zeroDigits.find? fun z => z ≤ c.toNat && c.toNat < z + 10).isSome = true := by
      rw [List.find?_isSome]
      refine ⟨start, hstart, ?_⟩
      simp only [Bool.and_eq_true, decide_eq_true_iff]
      omega
    -- The digits of two scripts do not overlap, so the script that is found is this one.
    obtain ⟨found, hfound⟩ := Option.isSome_iff_exists.mp hsome
    have hrange := List.find?_some hfound
    simp only [Bool.and_eq_true, decide_eq_true_iff] at hrange
    have hapart := zeroDigits_apart start hstart found (List.mem_of_find?_eq_some hfound)
    refine ⟨found, hfound, ?_⟩
    omega

theorem trim_append {before middle after : List Char} (hbefore : ∀ c ∈ before, p c = true)
    (hafter : ∀ c ∈ after, p c = true) (hne : middle ≠ []) (hmiddle : ∀ c ∈ middle, p c = false) :
    trim p (before ++ middle ++ after) = middle := by
  obtain ⟨first, rest, rfl⟩ := List.exists_cons_of_ne_nil hne
  have hstart : Stops p (first :: rest ++ after) := by
    intro c hc
    cases hc
    exact hmiddle first List.mem_cons_self
  have hend : Stops p (first :: rest).reverse := by
    intro c hc
    exact hmiddle c (List.mem_reverse.mp (List.mem_of_mem_head? hc))
  have hreverse : ∀ c ∈ after.reverse, p c = true := by
    intro c hc
    exact hafter c (List.mem_reverse.mp hc)
  rw [trim, List.append_assoc, dropWhile_append_of_stops hbefore hstart, dropEndWhile, List.reverse_append,
    dropWhile_append_of_stops hreverse hend, List.reverse_reverse]

theorem exists_trim (p : Char → Bool) (cs : List Char) :
    ∃ before after, (∀ c ∈ before, p c = true) ∧ (∀ c ∈ after, p c = true) ∧ cs = before ++ trim p cs ++ after := by
  refine ⟨cs.takeWhile p, ((cs.dropWhile p).reverse.takeWhile p).reverse, ?_, ?_, ?_⟩
  · intro c hc
    exact List.all_eq_true.mp List.all_takeWhile c hc
  · intro c hc
    exact List.all_eq_true.mp List.all_takeWhile c (List.mem_reverse.mp hc)
  · rw [trim, dropEndWhile, List.append_assoc, ← List.reverse_append, List.takeWhile_append_dropWhile,
      List.reverse_reverse, List.takeWhile_append_dropWhile]

end Text

namespace Numeral

open Text

variable {c : Char} {cs : List Char} {base digit : Nat} {digits : List Nat} {text : String}

/--
A character stands for a digit: it is a decimal digit of some script, or a letter of either case.
-/
inductive IsDigit (c : Char) : Nat → Prop where
  | decimal {start digit : Nat} : start ∈ zeroDigits → digit < 10 → c.toNat = start + digit → IsDigit c digit
  | lower {place : Nat} : place < 26 → c.toNat = 'a'.toNat + place → IsDigit c (place + 10)
  | upper {place : Nat} : place < 26 → c.toNat = 'A'.toNat + place → IsDigit c (place + 10)

theorem le_iff_toNat_le {c d : Char} : c ≤ d ↔ c.toNat ≤ d.toNat := by
  rw [Char.le_def, UInt32.le_iff_toNat_le]
  rfl

theorem decimalValue?_of_letter (h : 65 ≤ c.toNat ∧ c.toNat < 123) : decimalValue? c = none := by
  rw [Option.eq_none_iff_forall_ne_some]
  intro digit hdigit
  obtain ⟨start, hstart, hlt, hc⟩ := decimalValue?_eq_some_iff.mp hdigit
  have hletters := zeroDigits_not_letters start hstart
  omega

theorem digitValue?_eq_some_iff : digitValue? c = some digit ↔ IsDigit c digit := by
  have hcodes : 'a'.toNat = 97 ∧ 'z'.toNat = 122 ∧ 'A'.toNat = 65 ∧ 'Z'.toNat = 90 := by decide
  unfold digitValue?
  simp only [le_iff_toNat_le, hcodes]
  constructor
  · intro h
    split at h
    · next hvalue =>
      cases h
      obtain ⟨start, hstart, hdigit, hc⟩ := decimalValue?_eq_some_iff.mp hvalue
      exact .decimal hstart hdigit hc
    · split at h
      · cases h
        apply IsDigit.lower <;> omega
      · split at h
        · cases h
          apply IsDigit.upper <;> omega
        · cases h
  · intro h
    cases h with
    | decimal hstart hdigit hc => rw [decimalValue?_eq_some_iff.mpr ⟨_, hstart, hdigit, hc⟩]
    | @lower place hplace hc =>
      rw [decimalValue?_of_letter (by omega)]
      simp only
      rw [if_pos (by omega), hc]
      congr 1
      omega
    | @upper place hplace hc =>
      rw [decimalValue?_of_letter (by omega)]
      simp only
      rw [if_neg (by omega), if_pos (by omega), hc]
      congr 1
      omega

theorem digitOf?_eq_some_iff : digitOf? base c = some digit ↔ IsDigit c digit ∧ digit < base := by
  rw [digitOf?, Option.filter_eq_some_iff, digitValue?_eq_some_iff, decide_eq_true_iff]

theorem IsDigit.isBlank_eq_false (h : IsDigit c digit) : isBlank c = false := by
  have hcodes : 'a'.toNat = 97 ∧ 'A'.toNat = 65 := by decide
  cases h with
  | decimal hstart hdigit hc =>
    apply isBlank_eq_false_of_isDecimalDigit
    rw [isDecimalDigit_iff]
    exact ⟨_, hstart, by omega, by omega⟩
  | lower hplace hc => apply isBlank_eq_false_of_visible <;> omega
  | upper hplace hc => apply isBlank_eq_false_of_visible <;> omega

theorem IsDigit.decimalValue?_eq (h : IsDigit c digit) (hlt : digit < 10) : decimalValue? c = some digit := by
  cases h with
  | decimal hstart hdigit hc => exact decimalValue?_eq_some_iff.mpr ⟨_, hstart, hdigit, hc⟩
  | lower hplace hc => omega
  | upper hplace hc => omega

/--
The characters that have a place of their own in a literal stand for no digit.
-/
theorem not_isDigit_of_mem (h : c ∈ ['_', '+', '-']) : ¬IsDigit c digit := by
  have hnone : digitValue? '_' = none ∧ digitValue? '+' = none ∧ digitValue? '-' = none := by decide
  simp only [List.mem_cons, List.not_mem_nil, or_false] at h
  rw [← digitValue?_eq_some_iff]
  rcases h with rfl | rfl | rfl
  · simp [hnone.1]
  · simp [hnone.2.1]
  · simp [hnone.2.2]

/--
Digits of a base. A single underscore may stand between two of them.
-/
inductive Digits (base : Nat) : List Char → List Nat → Prop where
  | last {c : Char} {digit : Nat} : IsDigit c digit → digit < base → Digits base [c] [digit]
  | next {c : Char} {cs : List Char} {digit : Nat} {digits : List Nat} :
    IsDigit c digit → digit < base → Digits base cs digits → Digits base (c :: cs) (digit :: digits)
  | underscore {c : Char} {cs : List Char} {digit : Nat} {digits : List Nat} :
    IsDigit c digit → digit < base → Digits base cs digits → Digits base (c :: '_' :: cs) (digit :: digits)

theorem Digits.exists_cons (h : Digits base cs digits) :
    ∃ c rest digit, cs = c :: rest ∧ IsDigit c digit ∧ digit < base := by
  cases h with
  | last hc hlt => exact ⟨_, _, _, rfl, hc, hlt⟩
  | next hc hlt _ => exact ⟨_, _, _, rfl, hc, hlt⟩
  | underscore hc hlt _ => exact ⟨_, _, _, rfl, hc, hlt⟩

theorem not_digits_underscore : ¬Digits base ('_' :: cs) digits := by
  intro h
  obtain ⟨c, rest, digit, heq, hc, _⟩ := h.exists_cons
  cases heq
  exact not_isDigit_of_mem (by simp) hc

theorem digits?_eq_some_iff : digits? base cs = some digits ↔ Digits base cs digits := by
  fun_induction digits? base cs generalizing digits with
  | case1 =>
    constructor
    · intro h
      cases h
    · intro h
      obtain ⟨_, _, _, heq, _⟩ := h.exists_cons
      cases heq
  | case2 c =>
    simp only [Option.map_eq_some_iff, digitOf?_eq_some_iff]
    constructor
    · rintro ⟨digit, ⟨hc, hlt⟩, rfl⟩
      exact .last hc hlt
    · intro h
      cases h with
      | last hc hlt => exact ⟨_, ⟨hc, hlt⟩, rfl⟩
      | next _ _ hrest =>
        obtain ⟨_, _, _, heq, _⟩ := hrest.exists_cons
        cases heq
  | case3 c cs ih =>
    simp only [Option.bind_eq_bind, Option.bind_eq_some_iff, digitOf?_eq_some_iff, ih, Option.pure_def,
      Option.some.injEq]
    constructor
    · rintro ⟨digit, ⟨hc, hlt⟩, rest, hrest, rfl⟩
      exact .underscore hc hlt hrest
    · intro h
      cases h with
      | next _ _ hrest => exact absurd hrest not_digits_underscore
      | underscore hc hlt hrest => exact ⟨_, ⟨hc, hlt⟩, _, hrest, rfl⟩
  | case4 c cs hne hunderscore ih =>
    simp only [Option.bind_eq_bind, Option.bind_eq_some_iff, digitOf?_eq_some_iff, ih, Option.pure_def,
      Option.some.injEq]
    constructor
    · rintro ⟨digit, ⟨hc, hlt⟩, rest, hrest, rfl⟩
      exact .next hc hlt hrest
    · intro h
      cases h with
      | last => exact absurd rfl hne
      | next hc hlt hrest => exact ⟨_, ⟨hc, hlt⟩, _, hrest, rfl⟩
      | underscore => exact absurd rfl (hunderscore _)

theorem ofDigits_eq_ofDigits_reverse (base : Nat) (digits : List Nat) :
    ofDigits base digits = Nat.ofDigits base digits.reverse := by
  rw [ofDigits, Nat.ofDigits_eq_foldr, List.foldr_reverse]
  congr 1
  funext value digit
  rw [Nat.mul_comm, Nat.add_comm]
  rfl

/--
The marks of the bases that have one.
-/
def baseMarks : List (Char × Nat) :=
  [('x', 16), ('X', 16), ('o', 8), ('O', 8), ('b', 2), ('B', 2)]

theorem markedBase?_eq_some_iff : markedBase? c = some base ↔ (c, base) ∈ baseMarks := by
  unfold markedBase?
  split
  all_goals simp_all [baseMarks, eq_comm]

/--
A literal without its sign, and the number that it stands for.
-/
inductive Magnitude : List Char → Nat → Prop where
  /-- A decimal has no leading zero unless all its digits are zero. -/
  | decimal {cs : List Char} {digits : List Nat} : Digits 10 cs digits →
    (digits.head? = some 0 → ∀ digit ∈ digits, digit = 0) → digits.length ≤ 4300 →
    Magnitude cs (Nat.ofDigits 10 digits.reverse)
  | marked {zero mark : Char} {base : Nat} {underscore cs : List Char} {digits : List Nat} : IsDigit zero 0 →
    (mark, base) ∈ baseMarks → underscore ∈ [[], ['_']] → Digits base cs digits →
    Magnitude (zero :: mark :: (underscore ++ cs)) (Nat.ofDigits base digits.reverse)

theorem decimal?_eq_some_iff {value : Nat} : decimal? cs = some value
    ↔ ∃ digits, Digits 10 cs digits ∧ (digits.head? = some 0 → ∀ digit ∈ digits, digit = 0) ∧ digits.length ≤ 4300
      ∧ Nat.ofDigits 10 digits.reverse = value := by
  unfold decimal?
  simp only [Option.bind_eq_bind, Option.bind_eq_some_iff, digits?_eq_some_iff]
  constructor
  · rintro ⟨digits, hdigits, h⟩
    split at h
    · next hcond =>
      obtain ⟨hlength, hzeros⟩ := hcond
      cases h
      refine ⟨digits, hdigits, ?_, hlength, (ofDigits_eq_ofDigits_reverse _ _).symm⟩
      intro hhead
      simpa [hhead] using hzeros
    · cases h
  · rintro ⟨digits, hdigits, hzeros, hlength, rfl⟩
    refine ⟨digits, hdigits, ?_⟩
    rw [if_pos, ofDigits_eq_ofDigits_reverse]
    · rfl
    · refine ⟨hlength, ?_⟩
      simpa [imp_iff_not_or] using hzeros

theorem marked?_eq_some_iff {value : Nat} : marked? base cs = some value
    ↔ ∃ underscore ∈ [[], ['_']], ∃ rest digits, cs = underscore ++ rest ∧ Digits base rest digits
      ∧ Nat.ofDigits base digits.reverse = value := by
  unfold marked?
  split
  · next rest =>
    simp only [Option.map_eq_some_iff, digits?_eq_some_iff, ofDigits_eq_ofDigits_reverse]
    constructor
    · rintro ⟨digits, hdigits, hvalue⟩
      exact ⟨['_'], by simp, rest, digits, rfl, hdigits, hvalue⟩
    · rintro ⟨underscore, hunderscore, rest', digits, heq, hdigits, hvalue⟩
      simp only [List.mem_cons, List.not_mem_nil, or_false] at hunderscore
      rcases hunderscore with rfl | rfl
      · cases heq
        exact absurd hdigits not_digits_underscore
      · cases heq
        exact ⟨digits, hdigits, hvalue⟩
  · next hne =>
    simp only [Option.map_eq_some_iff, digits?_eq_some_iff, ofDigits_eq_ofDigits_reverse]
    constructor
    · rintro ⟨digits, hdigits, hvalue⟩
      exact ⟨[], by simp, cs, digits, rfl, hdigits, hvalue⟩
    · rintro ⟨underscore, hunderscore, rest, digits, heq, hdigits, hvalue⟩
      simp only [List.mem_cons, List.not_mem_nil, or_false] at hunderscore
      rcases hunderscore with rfl | rfl
      · cases heq
        exact ⟨digits, hdigits, hvalue⟩
      · exact absurd heq (hne rest)

/--
A text that goes on with the mark of a base after a zero.
-/
def IsMarked (cs : List Char) (base : Nat) (rest : List Char) : Prop :=
  ∃ zero mark, cs = zero :: mark :: rest ∧ IsDigit zero 0 ∧ (mark, base) ∈ baseMarks

theorem magnitude?_of_isMarked {rest : List Char} (h : IsMarked cs base rest) : magnitude? cs = marked? base rest := by
  obtain ⟨zero, mark, rfl, hzero, hmark⟩ := h
  simp only [magnitude?, hzero.decimalValue?_eq (by decide), markedBase?_eq_some_iff.mpr hmark]

theorem magnitude?_of_not_isMarked (h : ∀ base rest, ¬IsMarked cs base rest) : magnitude? cs = decimal? cs := by
  unfold magnitude?
  split
  · next zero mark rest =>
    split
    · next base hzero hmark =>
      obtain ⟨start, hstart, hlt, hc⟩ := decimalValue?_eq_some_iff.mp hzero
      exact absurd ⟨zero, mark, rfl, .decimal hstart hlt hc, markedBase?_eq_some_iff.mp hmark⟩ (h base rest)
    · rfl
  · rfl

theorem not_digits_of_isMarked {rest : List Char} (h : IsMarked cs base rest) : ¬Digits 10 cs digits := by
  obtain ⟨zero, mark, rfl, _, hmark⟩ := h
  have hmarks : ∀ pair ∈ baseMarks, decimalValue? pair.1 = none ∧ pair.1 ≠ '_' := by decide
  obtain ⟨hnone, hne⟩ := hmarks _ hmark
  intro hdigits
  cases hdigits with
  | next _ _ hrest =>
    obtain ⟨c, _, digit, heq, hc, hlt⟩ := hrest.exists_cons
    cases heq
    rw [hc.decimalValue?_eq hlt] at hnone
    cases hnone
  | underscore => exact hne rfl

theorem magnitude?_eq_some_iff {value : Nat} : magnitude? cs = some value ↔ Magnitude cs value := by
  by_cases hmarked : ∃ base rest, IsMarked cs base rest
  · obtain ⟨base, rest, hmarked⟩ := hmarked
    rw [magnitude?_of_isMarked hmarked, marked?_eq_some_iff]
    constructor
    · rintro ⟨underscore, hunderscore, rest', digits, rfl, hdigits, rfl⟩
      obtain ⟨zero, mark, rfl, hzero, hmark⟩ := hmarked
      exact .marked hzero hmark hunderscore hdigits
    · intro h
      cases h with
      | decimal hdigits => exact absurd hdigits (not_digits_of_isMarked hmarked)
      | marked hzero hmark hunderscore hdigits =>
        obtain ⟨_, _, heq, _, hmark'⟩ := hmarked
        cases heq
        -- A mark belongs to one base only.
        rw [← markedBase?_eq_some_iff] at hmark hmark'
        rw [hmark] at hmark'
        cases hmark'
        exact ⟨_, hunderscore, _, _, rfl, hdigits, rfl⟩
  · simp only [not_exists] at hmarked
    rw [magnitude?_of_not_isMarked hmarked, decimal?_eq_some_iff]
    constructor
    · rintro ⟨digits, hdigits, hzeros, hlength, rfl⟩
      exact .decimal hdigits hzeros hlength
    · intro h
      cases h with
      | decimal hdigits hzeros hlength => exact ⟨_, hdigits, hzeros, hlength, rfl⟩
      | marked hzero hmark => exact absurd ⟨_, _, rfl, hzero, hmark⟩ (hmarked _ _)

theorem Digits.isBlank_eq_false (h : Digits base cs digits) : ∀ c ∈ cs, isBlank c = false := by
  induction h with
  | last hc _ => simpa using hc.isBlank_eq_false
  | next hc _ _ ih => simpa using ⟨hc.isBlank_eq_false, ih⟩
  | underscore hc _ _ ih =>
    have hunderscore : isBlank '_' = false := by decide
    simpa using ⟨hc.isBlank_eq_false, hunderscore, ih⟩

theorem Magnitude.isBlank_eq_false {value : Nat} (h : Magnitude cs value) : ∀ c ∈ cs, isBlank c = false := by
  cases h with
  | decimal hdigits => exact hdigits.isBlank_eq_false
  | marked hzero hmark hunderscore hdigits =>
    have hmarks : ∀ pair ∈ baseMarks, isBlank pair.1 = false := by decide
    have hunderscores : ∀ underscore ∈ [[], ['_']], underscore.all (!isBlank ·) = true := by decide
    simp only [List.mem_cons, List.mem_append]
    rintro c (rfl | rfl | hc | hc)
    · exact hzero.isBlank_eq_false
    · exact hmarks _ hmark
    · simpa using List.all_eq_true.mp (hunderscores _ hunderscore) c hc
    · exact hdigits.isBlank_eq_false c hc

theorem Magnitude.exists_cons {value : Nat} (h : Magnitude cs value) :
    ∃ c rest digit, cs = c :: rest ∧ IsDigit c digit := by
  cases h with
  | decimal hdigits =>
    obtain ⟨c, rest, digit, heq, hc, _⟩ := hdigits.exists_cons
    exact ⟨c, rest, digit, heq, hc⟩
  | marked hzero => exact ⟨_, _, _, rfl, hzero⟩

/--
White space that may stand around a literal.
-/
def IsMargin (c : Char) : Prop :=
  isBlank c = true ∧ c.toNat ∉ [0x1C, 0x1D, 0x1E, 0x1F]

theorem isMargin_iff : isMargin c = true ↔ IsMargin c := by
  simp only [isMargin, IsMargin, Bool.and_eq_true]
  apply and_congr_right
  intro _
  simp only [Bool.not_eq_true', Bool.and_eq_false_iff, decide_eq_false_iff_not, List.mem_cons, List.not_mem_nil,
    or_false]
  omega

/--
The signs that a literal may have.
-/
def signs : List (List Char × Int) :=
  [([], 1), (['+'], 1), (['-'], -1)]

/--
A text that is a literal of an integer.
-/
inductive IsLiteral (text : String) : Int → Prop where
  | intro {before sign cs after : List Char} {factor : Int} {value : Nat} :
    text.toList = before ++ (sign ++ cs) ++ after → (∀ c ∈ before ++ after, IsMargin c) →
    (sign, factor) ∈ signs → Magnitude cs value → IsLiteral text (factor * value)

theorem literal?_of_plus {value : Nat} (htext : trim isMargin text.toList = '+' :: cs)
    (h : magnitude? cs = some value) : literal? text = some (value : Int) := by
  simp only [literal?, htext, h]
  rfl

theorem isMargin_eq_false_of_mem_sign {sign : List Char} {factor : Int} (h : (sign, factor) ∈ signs) :
    ∀ c ∈ sign, isMargin c = false := by
  have hsigns : ∀ pair ∈ signs, pair.1.all (!isMargin ·) = true := by decide
  intro c hc
  simpa using List.all_eq_true.mp (hsigns _ h) c hc

theorem IsLiteral.literal?_eq {n : Int} (h : IsLiteral text n) : literal? text = some n := by
  obtain ⟨htext, hmargins, hsign, hvalue⟩ := h
  rename_i before sign cs after factor value
  obtain ⟨c, rest, digit, rfl, hc⟩ := hvalue.exists_cons
  have htrim : trim isMargin text.toList = sign ++ c :: rest := by
    rw [htext]
    apply trim_append
    · intro d hd
      exact isMargin_iff.mpr (hmargins d (List.mem_append_left _ hd))
    · intro d hd
      exact isMargin_iff.mpr (hmargins d (List.mem_append_right _ hd))
    · simp
    · intro d hd
      rcases List.mem_append.mp hd with hd | hd
      · exact isMargin_eq_false_of_mem_sign hsign d hd
      · simp [isMargin, hvalue.isBlank_eq_false d hd]
  have hmagnitude := magnitude?_eq_some_iff.mpr hvalue
  simp only [signs, List.mem_cons, Prod.mk.injEq, List.not_mem_nil, or_false] at hsign
  rcases hsign with ⟨rfl, rfl⟩ | ⟨rfl, rfl⟩ | ⟨rfl, rfl⟩
  · rw [Int.one_mul]
    apply literal?_of_unsigned htrim _ _ hmagnitude
    · rintro rfl
      exact not_isDigit_of_mem (by simp) hc
    · rintro rfl
      exact not_isDigit_of_mem (by simp) hc
  · rw [Int.one_mul]
    exact literal?_of_plus htrim hmagnitude
  · rw [Int.neg_one_mul]
    exact literal?_of_minus htrim hmagnitude

theorem isLiteral_of_trim (sign : List Char) (factor : Int) {n : Int} {value : Nat}
    (htrim : trim isMargin text.toList = sign ++ cs) (hsign : (sign, factor) ∈ signs) (h : magnitude? cs = some value)
    (hn : factor * value = n) : IsLiteral text n := by
  obtain ⟨before, after, hbefore, hafter, htext⟩ := exists_trim isMargin text.toList
  rw [htrim] at htext
  rw [← hn]
  apply IsLiteral.intro htext _ hsign (magnitude?_eq_some_iff.mp h)
  intro c hc
  rcases List.mem_append.mp hc with hc | hc
  · exact isMargin_iff.mp (hbefore c hc)
  · exact isMargin_iff.mp (hafter c hc)

theorem exists_of_map_eq_some {magnitude : Option Nat} {f : Int → Int} {n : Int}
    (h : Option.map f (do let value ← magnitude; return (value : Int)) = some n) :
    ∃ value : Nat, magnitude = some value ∧ f value = n := by
  cases magnitude with
  | none => cases h
  | some value => exact ⟨value, rfl, Option.some.inj h⟩

theorem literal?_eq_some_iff {n : Int} : literal? text = some n ↔ IsLiteral text n := by
  constructor
  · intro h
    unfold literal? at h
    split at h
    · next cs htrim =>
      obtain ⟨value, hvalue, hn⟩ := exists_of_map_eq_some h
      exact isLiteral_of_trim ['-'] (-1) htrim (by decide) hvalue (by omega)
    · next cs htrim =>
      obtain ⟨value, hvalue, hn⟩ := exists_of_map_eq_some h
      exact isLiteral_of_trim ['+'] 1 htrim (by decide) hvalue (by omega)
    · obtain ⟨value, hvalue, hn⟩ := exists_of_map_eq_some h
      exact isLiteral_of_trim [] 1 rfl (by decide) hvalue (by omega)
  · exact IsLiteral.literal?_eq

theorem literal?_eq_none_iff : literal? text = none ↔ ¬∃ n, IsLiteral text n := by
  simp only [← literal?_eq_some_iff, not_exists, Option.eq_none_iff_forall_ne_some, ne_eq]

end Numeral

end CallScope
