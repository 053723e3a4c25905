import CallScope.Numeral.Literal
import CallScope.Proofs.Characters

/-!
This module contains the hexadecimal texts of integers. There is one for every integer, and it is a literal of that
integer.
-/

namespace CallScope.Numeral

open Text

variable {c : Char} {cs : List Char} {n : Int} {text : String} {digits : Run isHexDigit}

theorem hexDigit_of_isHexDigit (h : isHexDigit c = true) :
    hexDigitValue c < 16 ∧ Nat.digitChar (hexDigitValue c) = c ∧ digitOf? 16 c = some (hexDigitValue c) := by
  have hcodes : ∀ code < 128, isHexDigit (Char.ofNat code) = true →
      hexDigitValue (Char.ofNat code) < 16 ∧ Nat.digitChar (hexDigitValue (Char.ofNat code)) = Char.ofNat code
        ∧ digitOf? 16 (Char.ofNat code) = some (hexDigitValue (Char.ofNat code)) := by
    decide +kernel
  have hlt : c.toNat < 128 := by
    rw [isHexDigit_iff] at h
    omega
  have hc := hcodes c.toNat hlt
  rw [Char.ofNat_toNat] at hc
  exact hc h

theorem hexDigits_mul_add {value : Nat} (hvalue : 0 < value) (hc : isHexDigit c = true) :
    hexDigits (value * 16 + hexDigitValue c) = hexDigits value ++ [c] := by
  obtain ⟨hlt, hchar, _⟩ := hexDigit_of_isHexDigit hc
  unfold hexDigits
  rw [Nat.mul_comm, ← Nat.toDigits_append_toDigits (by decide) hvalue hlt, Nat.toDigits_of_lt_base hlt, hchar]

/--
Digits that follow a number other than zero are those of the number that they lead to.
-/
theorem hexDigits_foldl {value : Nat} (hvalue : 0 < value) (hcs : ∀ c ∈ cs, isHexDigit c = true) :
    hexDigits ((cs.map hexDigitValue).foldl (fun value digit => value * 16 + digit) value) = hexDigits value ++ cs := by
  induction cs generalizing value with
  | nil => simp
  | cons c cs ih =>
    rw [List.map_cons, List.foldl_cons, ih (by omega) fun c hc => hcs c (List.mem_cons_of_mem _ hc),
      hexDigits_mul_add hvalue (hcs c List.mem_cons_self), List.append_assoc]
    rfl

theorem hexDigits_ofHexDigits (digits : Run isHexDigit) (h : digits.chars.head? = some '0' → digits.chars = ['0']) :
    hexDigits (ofHexDigits digits.chars) = digits.chars := by
  obtain ⟨c, cs, hchars, hc⟩ := digits.exists_cons
  by_cases hzero : c = '0'
  · rw [h (by rw [hchars, hzero]; rfl)]
    decide
  · obtain ⟨hlt, hchar, _⟩ := hexDigit_of_isHexDigit hc
    have hpos : 0 < hexDigitValue c := by
      apply Nat.pos_of_ne_zero
      intro hvalue
      rw [hvalue] at hchar
      exact hzero hchar.symm
    have hcs : ∀ c ∈ cs, isHexDigit c = true := by
      intro c hc
      apply digits.accepts_of_mem
      rw [hchars]
      exact List.mem_cons_of_mem _ hc
    have hfoldl := hexDigits_foldl hpos hcs
    rw [hchars, ofHexDigits, ofDigits, List.map_cons, List.foldl_cons, Nat.zero_mul, Nat.zero_add, hfoldl]
    rw [hexDigits, Nat.toDigits_of_lt_base hlt, hchar]
    rfl

theorem eq_zero_of_head?_toDigits {base value : Nat} (hbase : 1 < base) (hle : base ≤ 16)
    (h : (Nat.toDigits base value).head? = some '0') : value = 0 := by
  have hdigits : ∀ digit < 16, Nat.digitChar digit = '0' → digit = 0 := by decide
  induction value using Nat.strongRecOn with
  | ind value ih =>
    rw [Nat.toDigits_eq_if hbase] at h
    split at h
    · next hlt => exact hdigits value (by omega) (Option.some.inj h)
    · next hlt =>
      have hne : Nat.toDigits base (value / base) ≠ [] := Nat.toDigits_ne_nil
      rw [List.head?_append, List.head?_eq_some_head hne, Option.some_or, ← List.head?_eq_some_head hne] at h
      have hquotient := ih (value / base) (Nat.div_lt_self (by omega) hbase) h
      rw [Nat.div_eq_zero_iff] at hquotient
      omega

theorem digits?_of_isHexDigit (hne : cs ≠ []) (hcs : ∀ c ∈ cs, isHexDigit c = true) :
    digits? 16 cs = some (cs.map hexDigitValue) := by
  induction cs with
  | nil => exact absurd rfl hne
  | cons c cs ih =>
    obtain ⟨_, _, hc⟩ := hexDigit_of_isHexDigit (hcs c List.mem_cons_self)
    cases cs with
    | nil => simp [digits?, hc]
    | cons d cs =>
      have hd : d ≠ '_' := by
        rintro rfl
        exact absurd (hcs '_' (by simp)) (by decide)
      have hrest := ih (List.cons_ne_nil d cs) fun c hc => hcs c (List.mem_cons_of_mem _ hc)
      simp [digits?, hc, hd, hrest]

theorem magnitude?_hex (digits : Run isHexDigit) :
    magnitude? ('0' :: 'x' :: digits.chars) = some (ofHexDigits digits.chars) := by
  have hzero : decimalValue? '0' = some 0 := by decide
  have hdigits := digits?_of_isHexDigit digits.ne_nil digits.accepts_of_mem
  obtain ⟨c, cs, hchars, hc⟩ := digits.exists_cons
  have hunderscore : c ≠ '_' := by
    rintro rfl
    exact absurd hc (by decide)
  rw [hchars] at hdigits ⊢
  simp [magnitude?, hzero, markedBase?, marked?, hunderscore, hdigits, ofHexDigits]

/--
The text of an integer in hexadecimal, with a sign only if the integer is negative and a leading zero only if it is
zero.
-/
structure IsHexText (n : Int) (digits : Run isHexDigit) (text : String) : Prop where
  toList_eq : text.toList = (if n < 0 then ['-'] else []) ++ '0' :: 'x' :: digits.chars
  value_eq : ofHexDigits digits.chars = n.natAbs
  unpadded : digits.chars.head? = some '0' → digits.chars = ['0']

theorem toList_hexText (n : Int) :
    (hexText n).toList = (if n < 0 then ['-'] else []) ++ '0' :: 'x' :: hexDigits n.natAbs := by
  unfold hexText
  split <;> simp

theorem isHexText_hexText (n : Int) : IsHexText n (paddedHexDigits 0 n.natAbs) (hexText n) where
  toList_eq := toList_hexText n
  value_eq := ofHexDigits_paddedHexDigits 0 n.natAbs
  unpadded h := by
    have hzero := eq_zero_of_head?_toDigits (by decide) (by decide) h
    rw [hzero]
    decide

theorem IsHexText.eq_hexText (h : IsHexText n digits text) : text = hexText n := by
  have hdigits := hexDigits_ofHexDigits digits h.unpadded
  rw [h.value_eq] at hdigits
  rw [← String.toList_inj, toList_hexText, hdigits, h.toList_eq]

theorem IsHexText.isMargin_eq_false (h : IsHexText n digits text) (hc : c ∈ text.toList) : isMargin c = false := by
  have hblank : isBlank c = false := by
    rw [h.toList_eq, List.mem_append] at hc
    rcases hc with hc | hc
    · split at hc
      · cases List.mem_singleton.mp hc
        decide
      · cases hc
    · rcases List.mem_cons.mp hc with rfl | hc
      · decide
      · rcases List.mem_cons.mp hc with rfl | hc
        · decide
        · exact isBlank_eq_false_of_isHexDigit (digits.accepts_of_mem c hc)
  simp [isMargin, hblank]

theorem literal?_of_minus {magnitude : Nat} (htext : trim isMargin text.toList = '-' :: cs)
    (h : magnitude? cs = some magnitude) : literal? text = some (-(magnitude : Int)) := by
  simp only [literal?, htext, h]
  rfl

theorem literal?_of_unsigned {magnitude : Nat} (htext : trim isMargin text.toList = c :: cs) (hminus : c ≠ '-')
    (hplus : c ≠ '+') (h : magnitude? (c :: cs) = some magnitude) : literal? text = some (magnitude : Int) := by
  unfold literal?
  rw [htext]
  split
  · next heq =>
    cases heq
    exact absurd rfl hminus
  · next heq =>
    cases heq
    exact absurd rfl hplus
  · rw [h]
    rfl

theorem IsHexText.literal?_eq (h : IsHexText n digits text) : literal? text = some n := by
  have hvalue : magnitude? ('0' :: 'x' :: digits.chars) = some n.natAbs := by rw [magnitude?_hex, h.value_eq]
  have htrim : trim isMargin text.toList = text.toList := by
    apply trim_eq_self
    intro c hc
    exact h.isMargin_eq_false hc
  have htext := htrim.trans h.toList_eq
  by_cases hneg : n < 0
  · have habs : -(n.natAbs : Int) = n := by omega
    rw [if_pos hneg] at htext
    rw [literal?_of_minus htext hvalue, habs]
  · have habs : (n.natAbs : Int) = n := by omega
    rw [if_neg hneg] at htext
    rw [literal?_of_unsigned htext (by decide) (by decide) hvalue, habs]

theorem literal?_hexText (n : Int) : literal? (hexText n) = some n := by
  exact (isHexText_hexText n).literal?_eq

end CallScope.Numeral
