import CallScope.Proofs.Listings
import CallScope.Proofs.SymbolRow
import Mathlib.Data.List.DropRight

/-!
This module contains the pattern of a line with a symbol, and the proof that rows are read by it. Fields and white space
are told apart in one way only, so that no line is ambiguous.
-/

namespace CallScope.SymbolListing

open Text Numeral

def hexWord (digits : Run isHexDigit) : Word :=
  digits.widen not_isBlank_of_isHexDigit

def decimalWord (digits : Run isDecimalDigit) : Word :=
  digits.widen not_isBlank_of_isDecimalDigit

@[simp]
theorem hexWord_chars (digits : Run isHexDigit) : (hexWord digits).chars = digits.chars := by
  rfl

@[simp]
theorem decimalWord_chars (digits : Run isDecimalDigit) : (decimalWord digits).chars = digits.chars := by
  rfl

/--
A line taken apart as a row. A gap follows each field between the number and the remainder of the line, which holds the
name, and `after` is empty or begins with a line break.
-/
structure RowReading where
  indent : Spacing
  number : Run isDecimalDigit
  margin : Spacing
  value : Run isHexDigit
  valueGap : Gap
  size : Size
  sizeGap : Gap
  kind : Word
  kindGap : Gap
  binding : Word
  bindingGap : Gap
  visibility : Word
  visibilityGap : Gap
  index : Run isDecimalDigit
  indexGap : Gap
  remainder : Run (· ≠ '\n')
  after : List Char
  begins : NoBlankHead remainder.chars
  ends : Stops (· ≠ '\n') after

namespace RowReading

def chars (reading : RowReading) : List Char :=
  reading.indent.chars ++ (reading.number.chars ++ ':' :: (reading.margin.chars
    ++ (reading.value.chars ++ (reading.valueGap.chars
    ++ (reading.size.word.chars ++ (reading.sizeGap.chars
    ++ (reading.kind.chars ++ (reading.kindGap.chars
    ++ (reading.binding.chars ++ (reading.bindingGap.chars
    ++ (reading.visibility.chars ++ (reading.visibilityGap.chars
    ++ (reading.index.chars ++ (reading.indexGap.chars
    ++ (reading.remainder.chars ++ reading.after)))))))))))))))

theorem noBlankHead_remainder (reading : RowReading) : NoBlankHead (reading.remainder.chars ++ reading.after) := by
  obtain ⟨c, cs, hchars, _⟩ := reading.remainder.exists_cons
  have hbegins := reading.begins
  rw [hchars] at hbegins ⊢
  exact hbegins

/--
The white space at the end of the line.
-/
def trailing (reading : RowReading) : Spacing where
  chars := reading.remainder.chars.rtakeWhile isBlank
  all_isBlank := by
    rw [List.all_eq_true]
    intro c hc
    exact List.mem_rtakeWhile_imp hc

theorem dropEndWhile_append_trailing (reading : RowReading) :
    dropEndWhile isBlank reading.remainder.chars ++ reading.trailing.chars = reading.remainder.chars := by
  exact List.rdropWhile_append_rtakeWhile

theorem dropEndWhile_ne_nil (reading : RowReading) : dropEndWhile isBlank reading.remainder.chars ≠ [] := by
  obtain ⟨c, cs, hchars, _⟩ := reading.remainder.exists_cons
  have hc := reading.begins c (by simp [hchars])
  intro hnil
  have hblank := List.rdropWhile_eq_nil_iff.mp hnil c (by simp [hchars])
  rw [hc] at hblank
  cases hblank

/--
The name in a row: the remainder of the line without white space at its end.
-/
def name (reading : RowReading) : Name where
  chars := dropEndWhile isBlank reading.remainder.chars
  ne_nil := reading.dropEndWhile_ne_nil
  not_mem_newline := by
    intro hmem
    have hline := List.mem_append_left reading.trailing.chars hmem
    rw [dropEndWhile_append_trailing] at hline
    have hbreak := reading.remainder.accepts_of_mem '\n' hline
    simp at hbreak
  head_not_blank := by
    have hbegins := reading.begins
    rw [← dropEndWhile_append_trailing, noBlankHead_iff,
      List.head?_append_of_ne_nil _ reading.dropEndWhile_ne_nil] at hbegins
    exact hbegins
  last_not_blank := by
    have hlast := List.rdropWhile_last_not isBlank reading.remainder.chars reading.dropEndWhile_ne_nil
    rw [List.getLast?_eq_some_getLast reading.dropEndWhile_ne_nil, Option.all_some, Bool.not_eq_true']
    exact Bool.eq_false_iff.mpr hlast

theorem remainder_eq (reading : RowReading) :
    reading.remainder.chars = reading.name.chars ++ reading.trailing.chars := by
  exact reading.dropEndWhile_append_trailing.symm

/--
A row tells a symbol: its address is the value in base 16, and its name is the remainder of the line without the white
space at the end.
-/
def Tells (reading : RowReading) (fact : SymbolFact) : Prop :=
  ∃ (name : Name) (trailing : Spacing), reading.remainder.chars = name.chars ++ trailing.chars
    ∧ fact = .symbol (ofHexDigits reading.value.chars) (String.ofList name.chars)

theorem name_chars_eq {reading : RowReading} {name : Name} {trailing : Spacing}
    (h : reading.remainder.chars = name.chars ++ trailing.chars) : reading.name.chars = name.chars := by
  have htrailing : ∀ c ∈ trailing.chars.reverse, isBlank c = true := by
    intro c hc
    exact trailing.isBlank_of_mem c (List.mem_reverse.mp hc)
  have hlast : NoBlankHead name.chars.reverse := by
    rw [noBlankHead_iff, List.head?_reverse]
    exact name.last_not_blank
  show dropEndWhile isBlank reading.remainder.chars = _
  rw [h, dropEndWhile, List.reverse_append, dropWhile_isBlank_append htrailing hlast, List.reverse_reverse]

theorem tells_iff {reading : RowReading} {fact : SymbolFact} :
    reading.Tells fact
      ↔ fact = .symbol (ofHexDigits reading.value.chars) (String.ofList reading.name.chars) := by
  constructor
  · rintro ⟨name, trailing, hremainder, rfl⟩
    rw [name_chars_eq hremainder]
  · rintro rfl
    exact ⟨reading.name, reading.trailing, reading.remainder_eq, rfl⟩

end RowReading

section

variable {cs rest : List Char}

theorem exists_of_field? {accepts : List Char → Bool} {field : List Char} (h : field? accepts cs = some (field, rest)) :
    ∃ (word : Word) (gap : Gap), cs = word.chars ++ (gap.chars ++ rest) ∧ NoBlankHead rest
      ∧ accepts word.chars = true ∧ word.chars = field := by
  have hsplit := List.takeWhile_append_dropWhile (p := (!isBlank ·)) (l := cs)
  unfold field? at h
  cases htake : cs.takeWhile (!isBlank ·) with
  | nil => simp [htake] at h
  | cons w ws =>
    cases hdrop : cs.dropWhile (!isBlank ·) with
    | nil => simp [htake, hdrop] at h
    | cons b bs =>
      have hb := stops_dropWhile (!isBlank ·) cs b (by simp [hdrop])
      rw [Bool.not_eq_false'] at hb
      simp [htake, hdrop, hb] at h
      obtain ⟨haccepts, rfl, rfl⟩ := h
      refine ⟨⟨w :: ws, by simp, ?_⟩, ⟨b :: bs.takeWhile isBlank, by simp, by simp [hb]⟩, ?_,
        stops_dropWhile isBlank bs, haccepts, rfl⟩
      · rw [← htake]
        exact List.all_takeWhile
      · rw [htake, hdrop] at hsplit
        simpa using hsplit.symm

theorem exists_of_afterNumber? (h : afterNumber? cs = some rest) :
    ∃ (indent margin : Spacing) (number : Run isDecimalDigit),
      cs = indent.chars ++ (number.chars ++ ':' :: (margin.chars ++ rest)) ∧ NoBlankHead rest := by
  unfold afterNumber? at h
  simp only at h
  split at h
  · next d ds after htake hdrop =>
    cases h
    refine ⟨⟨cs.takeWhile isBlank, List.all_takeWhile⟩, ⟨after.takeWhile isBlank, List.all_takeWhile⟩,
      ⟨d :: ds, by simp, ?_⟩, ?_, stops_dropWhile isBlank after⟩
    · rw [← htake]
      exact List.all_takeWhile
    · show cs = cs.takeWhile isBlank ++ (d :: ds ++ ':' :: (after.takeWhile isBlank ++ after.dropWhile isBlank))
      rw [List.takeWhile_append_dropWhile, ← htake, ← hdrop, List.takeWhile_append_dropWhile,
        List.takeWhile_append_dropWhile]
  · cases h

theorem exists_size {word : Word} (h : isSizeField word.chars = true) :
    ∃ size : Size, size.word.chars = word.chars := by
  unfold isSizeField at h
  split at h
  · next digits hchars =>
    simp only [Bool.and_eq_true, decide_eq_true_eq, ne_eq] at h
    refine ⟨.hex ⟨digits, h.1, h.2⟩, ?_⟩
    rw [hchars]
    rfl
  · exact ⟨.decimal ⟨word.chars, word.ne_nil, h⟩, rfl⟩

theorem exists_remainder (hrest : NoBlankHead rest) (h : dropEndWhile isBlank (rest.takeWhile (· ≠ '\n')) ≠ []) :
    ∃ (remainder : Run (· ≠ '\n')) (after : List Char), rest = remainder.chars ++ after ∧ NoBlankHead remainder.chars
      ∧ Stops (· ≠ '\n') after ∧ remainder.chars = rest.takeWhile (· ≠ '\n') := by
  have hline : rest.takeWhile (· ≠ '\n') ≠ [] := by
    intro hnil
    rw [hnil] at h
    exact h rfl
  refine ⟨⟨rest.takeWhile (· ≠ '\n'), hline, List.all_takeWhile⟩, rest.dropWhile (· ≠ '\n'),
    List.takeWhile_append_dropWhile.symm, ?_, stops_dropWhile _ rest, rfl⟩
  rw [← List.takeWhile_append_dropWhile (p := (· ≠ '\n')) (l := rest), noBlankHead_iff,
    List.head?_append_of_ne_nil _ hline, ← noBlankHead_iff] at hrest
  exact hrest

theorem exists_of_row? {row : Nat × List Char} (h : row? cs = some row) :
    ∃ reading : RowReading, reading.chars = cs ∧ (ofHexDigits reading.value.chars, reading.name.chars) = row := by
  unfold row? at h
  simp only [Option.bind_eq_bind, Option.bind_eq_some_iff] at h
  obtain ⟨_, hnumber, ⟨_, _⟩, hvalue, ⟨_, _⟩, hsize, ⟨_, _⟩, hkind, ⟨_, _⟩, hbinding, ⟨_, _⟩, hvisibility, ⟨_, rest⟩,
    hindex, h⟩ := h
  obtain ⟨indent, margin, number, rfl, _⟩ := exists_of_afterNumber? hnumber
  obtain ⟨value, valueGap, rfl, _, hhex, rfl⟩ := exists_of_field? hvalue
  obtain ⟨sizeWord, sizeGap, rfl, _, hsizeField, rfl⟩ := exists_of_field? hsize
  obtain ⟨kind, kindGap, rfl, _⟩ := exists_of_field? hkind
  obtain ⟨binding, bindingGap, rfl, _⟩ := exists_of_field? hbinding
  obtain ⟨visibility, visibilityGap, rfl, _⟩ := exists_of_field? hvisibility
  obtain ⟨index, indexGap, rfl, hrest, hdecimal, rfl⟩ := exists_of_field? hindex
  obtain ⟨size, hword⟩ := exists_size hsizeField
  split at h
  · cases h
  · next hname =>
    obtain ⟨remainder, after, rfl, hbegins, hends, hremainder⟩ := exists_remainder hrest hname
    refine ⟨⟨indent, number, margin, ⟨value.chars, value.ne_nil, hhex⟩, valueGap, size, sizeGap, kind, kindGap, binding,
      bindingGap, visibility, visibilityGap, ⟨index.chars, index.ne_nil, hdecimal⟩, indexGap, remainder, after, hbegins,
      hends⟩, ?_, ?_⟩
    · rw [← hword]
      rfl
    · rw [← hremainder] at h
      exact Option.some.inj h

end

theorem row?_reading (reading : RowReading) :
    row? reading.chars = some (ofHexDigits reading.value.chars, reading.name.chars) := by
  have hvalue : isHexField (hexWord reading.value).chars = true := reading.value.all_accepts
  have hindex : isDecimalField (decimalWord reading.index).chars = true := reading.index.all_accepts
  have hname : dropEndWhile isBlank ((reading.remainder.chars ++ reading.after).takeWhile (· ≠ '\n'))
      = reading.name.chars := by
    rw [takeWhile_append_of_stops reading.remainder.accepts_of_mem reading.ends]
    rfl
  unfold row? RowReading.chars
  rw [← hexWord_chars reading.value, ← decimalWord_chars reading.index,
    afterNumber?_append _ _ _ (noBlankHead_append _ _)]
  simp (disch := apply noBlankHead_append) only [Option.bind_eq_bind, Option.bind_some, field?_append, hvalue,
    Size.isSizeField_word, if_true]
  rw [field?_append _ _ _ reading.noBlankHead_remainder, if_pos hindex, Option.bind_some, hname]
  split
  · next hnil => exact absurd hnil reading.name.ne_nil
  · rfl

theorem number_inj {indent indent' margin margin' : Spacing} {number number' : Run isDecimalDigit}
    {rest rest' : List Char} (hrest : NoBlankHead rest) (hrest' : NoBlankHead rest')
    (h : indent.chars ++ (number.chars ++ ':' :: (margin.chars ++ rest))
      = indent'.chars ++ (number'.chars ++ ':' :: (margin'.chars ++ rest'))) :
    indent = indent' ∧ number = number' ∧ margin = margin' ∧ rest = rest' := by
  have hcolon : ∀ cs, Stops isDecimalDigit (':' :: cs) := by
    intro cs c hc
    cases hc
    decide +kernel
  obtain ⟨hindent, hrow⟩ := append_inj_of_stops indent.isBlank_of_mem (noBlankHead_append (decimalWord number) _)
    indent'.isBlank_of_mem (noBlankHead_append (decimalWord number') _) h
  obtain ⟨hnumber, hafter⟩ := append_inj_of_stops number.accepts_of_mem (hcolon _) number'.accepts_of_mem (hcolon _)
    hrow
  obtain ⟨hmargin, hrest⟩ := append_inj_of_stops margin.isBlank_of_mem hrest margin'.isBlank_of_mem hrest'
    (List.tail_eq_of_cons_eq hafter)
  exact ⟨Spacing.eq_of_chars_eq hindent, Run.eq_of_chars_eq hnumber, Spacing.eq_of_chars_eq hmargin, hrest⟩

theorem field_inj {word word' : Word} {gap gap' : Gap} {rest rest' : List Char} (hrest : NoBlankHead rest)
    (hrest' : NoBlankHead rest') (h : word.chars ++ (gap.chars ++ rest) = word'.chars ++ (gap'.chars ++ rest')) :
    word = word' ∧ gap = gap' ∧ rest = rest' := by
  obtain ⟨hword, hafter⟩ := append_inj_of_stops word.accepts_of_mem (stops_gap gap rest) word'.accepts_of_mem
    (stops_gap gap' rest') h
  obtain ⟨hgap, hrest⟩ := append_inj_of_stops gap.accepts_of_mem hrest gap'.accepts_of_mem hrest' hafter
  exact ⟨Run.eq_of_chars_eq hword, Run.eq_of_chars_eq hgap, hrest⟩

theorem Size.eq_of_word_eq {size other : Size} (h : size.word = other.word) : size = other := by
  have hchars := congrArg Run.chars h
  cases size with
  | decimal digits =>
    cases other with
    | decimal digits' =>
      have hdigits : digits.chars = digits'.chars := hchars
      exact congrArg decimal (Run.eq_of_chars_eq hdigits)
    | hex digits' => exact absurd hchars (decimal_ne_marked digits _)
  | hex digits =>
    cases other with
    | decimal digits' => exact absurd hchars.symm (decimal_ne_marked digits' _)
    | hex digits' =>
      have hdigits : digits.chars = digits'.chars := List.tail_eq_of_cons_eq (List.tail_eq_of_cons_eq hchars)
      exact congrArg hex (Run.eq_of_chars_eq hdigits)

theorem RowReading.eq_of_chars_eq {reading other : RowReading} (h : reading.chars = other.chars) : reading = other := by
  have hremainder := reading.noBlankHead_remainder
  have hremainder' := other.noBlankHead_remainder
  obtain ⟨indent, number, margin, value, valueGap, size, sizeGap, kind, kindGap, binding, bindingGap, visibility,
    visibilityGap, index, indexGap, remainder, after, _, hends⟩ := reading
  obtain ⟨indent', number', margin', value', valueGap', size', sizeGap', kind', kindGap', binding', bindingGap',
    visibility', visibilityGap', index', indexGap', remainder', after', _, hends'⟩ := other
  unfold chars at h
  simp only [← hexWord_chars value, ← hexWord_chars value', ← decimalWord_chars index, ← decimalWord_chars index'] at h
  obtain ⟨hindent, hnumber, hmargin, h⟩ := number_inj (noBlankHead_append _ _) (noBlankHead_append _ _) h
  obtain ⟨hvalue, hvalueGap, h⟩ := field_inj (noBlankHead_append _ _) (noBlankHead_append _ _) h
  obtain ⟨hsize, hsizeGap, h⟩ := field_inj (noBlankHead_append _ _) (noBlankHead_append _ _) h
  obtain ⟨hkind, hkindGap, h⟩ := field_inj (noBlankHead_append _ _) (noBlankHead_append _ _) h
  obtain ⟨hbinding, hbindingGap, h⟩ := field_inj (noBlankHead_append _ _) (noBlankHead_append _ _) h
  obtain ⟨hvisibility, hvisibilityGap, h⟩ := field_inj (noBlankHead_append _ _) (noBlankHead_append _ _) h
  obtain ⟨hindex, hindexGap, h⟩ := field_inj hremainder hremainder' h
  obtain ⟨hname, hafter⟩ := append_inj_of_stops remainder.accepts_of_mem hends remainder'.accepts_of_mem hends' h
  have hvalue : value = value' := Run.widen_inj hvalue
  have hindex : index = index' := Run.widen_inj hindex
  have hsize : size = size' := Size.eq_of_word_eq hsize
  have hname : remainder = remainder' := Run.eq_of_chars_eq hname
  subst hindent hnumber hmargin hvalue hvalueGap hsize hsizeGap hkind hkindGap hbinding hbindingGap hvisibility
    hvisibilityGap hindex hindexGap hname hafter
  rfl

theorem row?_eq_none_iff {cs : List Char} : row? cs = none ↔ ∀ reading : RowReading, reading.chars ≠ cs := by
  constructor
  · rintro h reading rfl
    rw [row?_reading] at h
    cases h
  · intro h
    cases hrow : row? cs with
    | none => rfl
    | some row =>
      obtain ⟨reading, hchars, _⟩ := exists_of_row? hrow
      exact absurd hchars (h reading)

theorem map_row?_eq_some_iff {cs : List Char} {fact : SymbolFact} :
    (row? cs).map (fun row => .symbol row.1 (String.ofList row.2)) = some fact
      ↔ ∃ reading : RowReading, reading.chars = cs ∧ reading.Tells fact := by
  rw [Option.map_eq_some_iff]
  constructor
  · rintro ⟨row, hrow, rfl⟩
    obtain ⟨reading, hchars, rfl⟩ := exists_of_row? hrow
    exact ⟨reading, hchars, RowReading.tells_iff.mpr rfl⟩
  · rintro ⟨reading, rfl, htells⟩
    exact ⟨_, row?_reading reading, (RowReading.tells_iff.mp htells).symm⟩

theorem readLine_row_exact {line : String} (hentry : entryAddress? line.toList = none)
    (hheading : isHeading line.toList = false) :
    (∀ fact, (readLine true line).2 = some fact ↔
        ∃ reading : RowReading, reading.chars = line.toList ∧ reading.Tells fact)
      ∧ (∀ reading other : RowReading, reading.chars = line.toList → other.chars = line.toList → reading = other)
      ∧ ∀ address name, (readLine true line).2 = some (.symbol address name) →
        name ≠ "" ∧ '\n' ∉ name.toList ∧ NoBlankHead name.toList ∧ NoBlankHead name.toList.reverse := by
  have hread : ∀ fact, (readLine true line).2 = some fact ↔
      ∃ reading : RowReading, reading.chars = line.toList ∧ reading.Tells fact := by
    intro fact
    rw [readLine_of_body hentry hheading]
    exact map_row?_eq_some_iff
  refine ⟨hread, ?_, ?_⟩
  · intro reading other hreading hother
    exact RowReading.eq_of_chars_eq (hreading.trans hother.symm)
  · intro address name h
    obtain ⟨reading, _, shown, trailing, _, hfact⟩ := (hread _).mp h
    cases hfact
    rw [String.toList_ofList]
    refine ⟨?_, shown.not_mem_newline, noBlankHead_iff.mpr shown.head_not_blank, ?_⟩
    · simpa using shown.ne_nil
    · rw [noBlankHead_iff, List.head?_reverse]
      exact shown.last_not_blank

-- The digits are of several scripts, fields are divided by a line break, and the name looks like further fields.
def crookedRow : String :=
  "\t٣:00ff\u30000x1c FUNC\nGLOBAL DEFAULT 1٤ f 5: 0x7 \t\n9: more"

theorem readLine_row_exact_crookedRow :
    entryAddress? crookedRow.toList = none ∧ isHeading crookedRow.toList = false
      ∧ (readLine true crookedRow).2 = some (.symbol 0xff "f 5: 0x7")
      ∧ ∃ reading : RowReading, reading.chars = crookedRow.toList ∧ reading.Tells (.symbol 0xff "f 5: 0x7")
        ∧ ∀ other : RowReading, other.chars = crookedRow.toList → reading = other := by
  have hentry : entryAddress? crookedRow.toList = none := by decide +kernel
  have hheading : isHeading crookedRow.toList = false := by decide +kernel
  have hline : (readLine true crookedRow).2 = some (.symbol 0xff "f 5: 0x7") := by decide +kernel
  obtain ⟨hread, hunique, _⟩ := readLine_row_exact hentry hheading
  obtain ⟨reading, hchars, htells⟩ := (hread _).mp hline
  refine ⟨hentry, hheading, hline, reading, hchars, htells, ?_⟩
  intro other hother
  exact hunique reading other hchars hother

end CallScope.SymbolListing
