import CallScope.Proofs.Characters
import Mathlib.Data.List.TakeWhile

/-!
This module contains the rows of a symbol listing as they are written, and the proof that each of them is read back.
Fields and the white space between them have any width, and a name may look like other fields.
-/

namespace CallScope.SymbolListing

open Text Numeral

/--
White space, or nothing.
-/
structure Spacing where
  chars : List Char
  all_isBlank : chars.all isBlank = true

theorem Spacing.isBlank_of_mem (spacing : Spacing) : ∀ c ∈ spacing.chars, isBlank c = true := by
  exact List.all_eq_true.mp spacing.all_isBlank

theorem Spacing.eq_of_chars_eq {spacing other : Spacing} (h : spacing.chars = other.chars) : spacing = other := by
  cases spacing
  cases other
  cases h
  rfl

inductive Size where
  | decimal (digits : Run isDecimalDigit)
  | hex (digits : Run isHexDigit)

/--
The name of a symbol. It may hold white space, but neither a line break nor white space at its ends.
-/
structure Name where
  chars : List Char
  ne_nil : chars ≠ []
  not_mem_newline : '\n' ∉ chars
  head_not_blank : chars.head?.all (!isBlank ·) = true
  last_not_blank : chars.getLast?.all (!isBlank ·) = true

/--
A row of a table of symbols. A gap follows each field between the number and the name.
-/
structure Row where
  indent : Spacing
  number : Run isDecimalDigit
  margin : Spacing
  padding : Nat
  address : Nat
  size : Size
  kind : Word
  binding : Word
  visibility : Word
  index : Word
  name : Name
  gaps : Fin 6 → Gap

namespace Size

def word : Size → Word
  | .decimal digits => digits.widen fun c h => by simp [isBlank_eq_false_of_isDecimalDigit h]
  | .hex digits =>
    { chars := '0' :: 'x' :: digits.chars
      ne_nil := by simp
      all_accepts := by
        simp only [List.all_eq_true, List.mem_cons]
        rintro c (rfl | rfl | hc)
        · decide
        · decide
        · simp [isBlank_eq_false_of_isHexDigit (digits.accepts_of_mem c hc)] }

/--
The mark of a hexadecimal size is not made of digits.
-/
theorem decimal_ne_marked (digits : Run isDecimalDigit) (cs : List Char) : digits.chars ≠ '0' :: 'x' :: cs := by
  intro hchars
  have hx := digits.accepts_of_mem 'x' (by simp [hchars])
  exact absurd hx (by decide +kernel)

theorem isSizeField_word (size : Size) : isSizeField size.word.chars = true := by
  cases size with
  | decimal digits =>
    have hdigits : isDecimalField digits.chars = true := digits.all_accepts
    show isSizeField digits.chars = true
    unfold isSizeField
    split
    · next hchars => exact absurd hchars (decimal_ne_marked digits _)
    · exact hdigits
  | hex digits => simpa [word, isSizeField, digits.ne_nil] using digits.accepts_of_mem

end Size

namespace Row

def value (row : Row) : Word :=
  (paddedHexDigits row.padding row.address).widen fun c h => by simp [isBlank_eq_false_of_isHexDigit h]

def chars (row : Row) : List Char :=
  row.indent.chars ++ (row.number.chars ++ ':' :: (row.margin.chars
    ++ (row.value.chars ++ ((row.gaps 0).chars
    ++ (row.size.word.chars ++ ((row.gaps 1).chars
    ++ (row.kind.chars ++ ((row.gaps 2).chars
    ++ (row.binding.chars ++ ((row.gaps 3).chars
    ++ (row.visibility.chars ++ ((row.gaps 4).chars
    ++ (row.index.chars ++ ((row.gaps 5).chars
    ++ row.name.chars))))))))))))))

def text (row : Row) : String :=
  String.ofList row.chars

def hasNumber (row : Row) : Bool :=
  row.index.chars.all isDecimalDigit

def fact (row : Row) : SymbolFact :=
  .symbol row.address (String.ofList row.name.chars)

end Row

/--
A text that does not begin with white space.
-/
def NoBlankHead (cs : List Char) : Prop :=
  ∀ c ∈ cs.head?, isBlank c = false

theorem noBlankHead_iff {cs : List Char} : NoBlankHead cs ↔ cs.head?.all (!isBlank ·) = true := by
  cases cs with
  | nil => simp [NoBlankHead]
  | cons c cs => simp [NoBlankHead]

theorem noBlankHead_append (word : Word) (rest : List Char) : NoBlankHead (word.chars ++ rest) := by
  obtain ⟨c, cs, hchars, hc⟩ := word.exists_cons
  simpa [NoBlankHead, hchars] using hc

theorem dropWhile_isBlank_eq_self {cs : List Char} (h : NoBlankHead cs) : cs.dropWhile isBlank = cs := by
  cases cs with
  | nil => rfl
  | cons c cs => exact List.dropWhile_cons_of_neg (by simp [h c rfl])

theorem dropWhile_isBlank_append {gap rest : List Char} (hgap : ∀ c ∈ gap, isBlank c = true)
    (hrest : NoBlankHead rest) : (gap ++ rest).dropWhile isBlank = rest := by
  rw [List.dropWhile_append_of_pos hgap, dropWhile_isBlank_eq_self hrest]

theorem field?_append (accepts : List Char → Bool) (word : Word) (gap : Gap) {rest : List Char}
    (hrest : NoBlankHead rest) :
    field? accepts (word.chars ++ (gap.chars ++ rest))
      = if accepts word.chars then some (word.chars, rest) else none := by
  obtain ⟨w, ws, hword, _⟩ := word.exists_cons
  obtain ⟨c, cs, hgap, hc⟩ := gap.exists_cons
  have hskip := dropWhile_isBlank_append gap.accepts_of_mem hrest
  rw [hgap, List.cons_append, List.dropWhile_cons_of_pos hc] at hskip
  unfold field?
  rw [List.takeWhile_append_of_pos word.accepts_of_mem, List.dropWhile_append_of_pos word.accepts_of_mem]
  simp [hgap, hword, hc, hskip]

theorem dropEndWhile_takeWhile_name (name : Name) :
    dropEndWhile isBlank (name.chars.takeWhile (· ≠ '\n')) = name.chars := by
  have hline : name.chars.takeWhile (· ≠ '\n') = name.chars := by
    rw [List.takeWhile_eq_self_iff]
    intro c hc
    rw [decide_eq_true_iff]
    rintro rfl
    exact name.not_mem_newline hc
  have hlast : NoBlankHead name.chars.reverse := by
    rw [noBlankHead_iff, List.head?_reverse]
    exact name.last_not_blank
  rw [hline, dropEndWhile, dropWhile_isBlank_eq_self hlast, List.reverse_reverse]

theorem afterNumber?_append (indent margin : Spacing) (number : Run isDecimalDigit) {rest : List Char}
    (hrest : NoBlankHead rest) :
    afterNumber? (indent.chars ++ (number.chars ++ ':' :: (margin.chars ++ rest))) = some rest := by
  obtain ⟨d, ds, hnumber, hd⟩ := number.exists_cons
  have hcolon : isDecimalDigit ':' = false := by decide +kernel
  have hstart : NoBlankHead (number.chars ++ ':' :: (margin.chars ++ rest)) := by
    simpa [NoBlankHead, hnumber] using isBlank_eq_false_of_isDecimalDigit hd
  unfold afterNumber?
  rw [dropWhile_isBlank_append indent.isBlank_of_mem hstart]
  simp only [List.takeWhile_append_of_pos number.accepts_of_mem, List.dropWhile_append_of_pos number.accepts_of_mem,
    List.takeWhile_cons, List.dropWhile_cons, hcolon]
  simp [hnumber, dropWhile_isBlank_append margin.isBlank_of_mem hrest]

theorem row?_chars (row : Row) :
    row? row.chars = if row.hasNumber then some (row.address, row.name.chars) else none := by
  have hvalue : isHexField row.value.chars = true := (paddedHexDigits row.padding row.address).all_accepts
  have haddress : ofHexDigits row.value.chars = row.address := ofHexDigits_paddedHexDigits row.padding row.address
  unfold row? Row.chars
  rw [afterNumber?_append _ _ _ (noBlankHead_append _ _)]
  simp (disch := apply noBlankHead_append) only [Option.bind_eq_bind, Option.bind_some, field?_append, hvalue,
    Size.isSizeField_word, if_true]
  rw [field?_append _ _ _ (noBlankHead_iff.mpr row.name.head_not_blank)]
  show (if row.hasNumber = true then some (row.index.chars, row.name.chars) else none).bind _ = _
  cases row.hasNumber with
  | false => rfl
  | true =>
    simp only [if_true, Option.bind_some, dropEndWhile_takeWhile_name, haddress]
    split
    · next hname => exact absurd hname row.name.ne_nil
    · rfl

theorem isHeading_cons_eq_false {c : Char} (h : isBlank c = true ∨ isDecimalDigit c = true) (cs : List Char) :
    isHeading (c :: cs) = false := by
  have hcodes : ∀ start ∈ zeroDigits, start + 10 ≤ 65 ∨ 90 < start := by decide
  simp only [isHeading, Bool.and_eq_false_iff, decide_eq_false_iff_not, Char.not_le, Char.lt_def,
    UInt32.lt_iff_toNat_lt]
  show c.toNat < 65 ∨ 90 < c.toNat
  rcases h with hblank | hdigit
  · by_contra hcode
    rw [isBlank_eq_false_of_visible (by omega) (by omega)] at hblank
    cases hblank
  · obtain ⟨start, hstart, hle, hlt⟩ := isDecimalDigit_iff.mp hdigit
    have hcode := hcodes start hstart
    omega

theorem isHeading_row (row : Row) : isHeading row.chars = false := by
  unfold Row.chars
  cases hindent : row.indent.chars with
  | nil =>
    obtain ⟨d, ds, hnumber, hd⟩ := row.number.exists_cons
    rw [hnumber]
    exact isHeading_cons_eq_false (.inr hd) _
  | cons c cs => exact isHeading_cons_eq_false (.inl (row.indent.isBlank_of_mem c (by simp [hindent]))) _

end CallScope.SymbolListing
