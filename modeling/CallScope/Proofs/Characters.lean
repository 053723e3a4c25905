import CallScope.SymbolListing

/-!
This module contains how the classes of characters in listings keep apart, what hexadecimal digits stand for, and texts
of a single class.
-/

namespace CallScope

namespace Text

variable {c : Char}

theorem isDecimalDigit_iff :
    isDecimalDigit c = true ↔ ∃ start ∈ zeroDigits, start ≤ c.toNat ∧ c.toNat < start + 10 := by
  simp [isDecimalDigit, decimalValue?]

theorem isBlank_eq_false_of_isDecimalDigit (h : isDecimalDigit c = true) : isBlank c = false := by
  have hdigits : ∀ start ∈ zeroDigits, ∀ value < 10, CodeRange.holds blankRanges (start + value) = false := by
    decide +kernel
  obtain ⟨start, hstart, hle, hlt⟩ := isDecimalDigit_iff.mp h
  have hcode : c.toNat = start + (c.toNat - start) := by omega
  unfold isBlank
  rw [hcode]
  apply hdigits start hstart
  omega

theorem not_isBlank_of_isDecimalDigit (c : Char) (h : isDecimalDigit c = true) : (!isBlank c) = true := by
  rw [isBlank_eq_false_of_isDecimalDigit h, Bool.not_false]

theorem isBlank_eq_false_of_visible (hle : 0x21 ≤ c.toNat) (hlt : c.toNat < 0x7F) : isBlank c = false := by
  have hcodes : ∀ code < 0x7F, 0x21 ≤ code → CodeRange.holds blankRanges code = false := by decide
  apply hcodes c.toNat hlt hle

/--
A text that is not empty and has characters of one class only.
-/
structure Run (accepts : Char → Bool) where
  chars : List Char
  ne_nil : chars ≠ []
  all_accepts : chars.all accepts = true

abbrev Gap := Run isBlank

abbrev Word := Run (!isBlank ·)

namespace Run

variable {p q : Char → Bool}

theorem accepts_of_mem (run : Run p) : ∀ c ∈ run.chars, p c = true := by
  exact List.all_eq_true.mp run.all_accepts

def widen (run : Run p) (h : ∀ c, p c = true → q c = true) : Run q where
  chars := run.chars
  ne_nil := run.ne_nil
  all_accepts := by
    rw [List.all_eq_true]
    intro c hc
    exact h c (run.accepts_of_mem c hc)

theorem eq_of_chars_eq {run other : Run p} (h : run.chars = other.chars) : run = other := by
  cases run
  cases other
  cases h
  rfl

theorem widen_inj {run other : Run p} {hpq : ∀ c, p c = true → q c = true} (h : run.widen hpq = other.widen hpq) :
    run = other := by
  have hchars : (run.widen hpq).chars = (other.widen hpq).chars := by rw [h]
  exact eq_of_chars_eq hchars

theorem exists_cons (run : Run p) : ∃ c cs, run.chars = c :: cs ∧ p c = true := by
  cases hchars : run.chars with
  | nil => exact absurd hchars run.ne_nil
  | cons c cs => exact ⟨c, cs, rfl, run.accepts_of_mem c (by simp [hchars])⟩

end Run

/--
A text that does not go on with a character of a class.
-/
def Stops (accepts : Char → Bool) (cs : List Char) : Prop :=
  ∀ c ∈ cs.head?, accepts c = false

section

variable {p : Char → Bool} {run rest : List Char}

theorem takeWhile_append_of_stops (hrun : ∀ c ∈ run, p c = true) (hrest : Stops p rest) :
    (run ++ rest).takeWhile p = run := by
  rw [List.takeWhile_append_of_pos hrun]
  cases rest with
  | nil => simp
  | cons c cs => simp [hrest c rfl]

theorem dropWhile_append_of_stops (hrun : ∀ c ∈ run, p c = true) (hrest : Stops p rest) :
    (run ++ rest).dropWhile p = rest := by
  rw [List.dropWhile_append_of_pos hrun]
  cases rest with
  | nil => rfl
  | cons c cs => simp [hrest c rfl]

theorem stops_dropWhile (p : Char → Bool) (cs : List Char) : Stops p (cs.dropWhile p) := by
  intro c hc
  have h := List.head?_dropWhile_not p cs
  rw [Option.mem_def.mp hc] at h
  exact h

theorem stops_gap (gap : Gap) (rest : List Char) : Stops (!isBlank ·) (gap.chars ++ rest) := by
  obtain ⟨c, cs, hgap, hc⟩ := gap.exists_cons
  simp [Stops, hgap, hc]

/--
A run and what follows it are told apart in one way only.
-/
theorem append_inj_of_stops {run' rest' : List Char} (hrun : ∀ c ∈ run, p c = true) (hrest : Stops p rest)
    (hrun' : ∀ c ∈ run', p c = true) (hrest' : Stops p rest') (h : run ++ rest = run' ++ rest') :
    run = run' ∧ rest = rest' := by
  constructor
  · rw [← takeWhile_append_of_stops hrun hrest, h, takeWhile_append_of_stops hrun' hrest']
  · rw [← dropWhile_append_of_stops hrun hrest, h, dropWhile_append_of_stops hrun' hrest']

theorem dropWhile_of_stops (h : Stops p rest) : rest.dropWhile p = rest := by
  exact dropWhile_append_of_stops (List.forall_mem_nil _) h

theorem dropEndWhile_eq_self (h : ∀ c ∈ run, p c = false) : dropEndWhile p run = run := by
  have hreverse : Stops p run.reverse := by
    intro c hc
    exact h c (List.mem_reverse.mp (List.mem_of_mem_head? hc))
  rw [dropEndWhile, dropWhile_of_stops hreverse, List.reverse_reverse]

theorem trim_eq_self (h : ∀ c ∈ run, p c = false) : trim p run = run := by
  have hstops : Stops p run := fun c hc => h c (List.mem_of_mem_head? hc)
  rw [trim, dropWhile_of_stops hstops, dropEndWhile_eq_self h]

end

end Text

namespace Numeral

theorem isHexDigit_iff {c : Char} :
    isHexDigit c = true ↔ (48 ≤ c.toNat ∧ c.toNat ≤ 57) ∨ (97 ≤ c.toNat ∧ c.toNat ≤ 102) := by
  simp [isHexDigit, Char.le_def, UInt32.le_iff_toNat_le]

theorem isBlank_eq_false_of_isHexDigit {c : Char} (h : isHexDigit c = true) : Text.isBlank c = false := by
  rw [isHexDigit_iff] at h
  apply Text.isBlank_eq_false_of_visible <;> omega

theorem not_isBlank_of_isHexDigit (c : Char) (h : isHexDigit c = true) : (!Text.isBlank c) = true := by
  rw [isBlank_eq_false_of_isHexDigit h, Bool.not_false]

theorem ofDigits_concat (base : Nat) (digits : List Nat) (digit : Nat) :
    ofDigits base (digits ++ [digit]) = ofDigits base digits * base + digit := by
  simp [ofDigits]

theorem ofDigits_replicate_append (base count : Nat) (digits : List Nat) :
    ofDigits base (List.replicate count 0 ++ digits) = ofDigits base digits := by
  induction count with
  | zero => rfl
  | succ count ih => simpa [List.replicate_succ, ofDigits] using ih

theorem digitChar_of_lt : ∀ digit < 16,
    isHexDigit (Nat.digitChar digit) = true ∧ hexDigitValue (Nat.digitChar digit) = digit := by
  decide

theorem ofHexDigits_hexDigits (n : Nat) : ofHexDigits (hexDigits n) = n := by
  unfold ofHexDigits hexDigits
  induction n using Nat.strongRecOn with
  | ind n ih =>
    rw [Nat.toDigits_eq_if (by decide)]
    split
    · next hlt => simp [ofDigits, (digitChar_of_lt n hlt).2]
    · rw [List.map_append, List.map_singleton, ofDigits_concat, ih (n / 16) (by omega),
        (digitChar_of_lt (n % 16) (by omega)).2]
      omega

theorem isHexDigit_of_mem_hexDigits {n : Nat} {c : Char} (h : c ∈ hexDigits n) : isHexDigit c = true := by
  unfold hexDigits at h
  induction n using Nat.strongRecOn with
  | ind n ih =>
    rw [Nat.toDigits_eq_if (by decide)] at h
    split at h
    · next hlt =>
      cases List.mem_singleton.mp h
      exact (digitChar_of_lt n hlt).1
    · rcases List.mem_append.mp h with h | h
      · exact ih (n / 16) (by omega) h
      · cases List.mem_singleton.mp h
        exact (digitChar_of_lt (n % 16) (by omega)).1

/--
The digits of a number behind some zeros.
-/
def paddedHexDigits (padding n : Nat) : Text.Run isHexDigit where
  chars := List.replicate padding '0' ++ hexDigits n
  ne_nil := by simp [hexDigits]
  all_accepts := by
    rw [List.all_eq_true]
    intro c hc
    rcases List.mem_append.mp hc with hc | hc
    · rw [List.eq_of_mem_replicate hc]
      decide
    · exact isHexDigit_of_mem_hexDigits hc

theorem ofHexDigits_paddedHexDigits (padding n : Nat) : ofHexDigits (paddedHexDigits padding n).chars = n := by
  have hzero : hexDigitValue '0' = 0 := by decide
  have hdigits := ofHexDigits_hexDigits n
  unfold ofHexDigits at hdigits ⊢
  rw [paddedHexDigits, List.map_append, List.map_replicate, hzero, ofDigits_replicate_append, hdigits]

end Numeral

end CallScope
