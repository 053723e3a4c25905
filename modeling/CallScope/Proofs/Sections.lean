import CallScope.Proofs.RowPattern
import Mathlib.Data.List.Infix

/-!
This module contains what each line of a symbol listing says, as a rule about the line and the last heading before it.
No other line before it has any influence.
-/

namespace CallScope.SymbolListing

open Text Numeral

/--
A place in a line that names the entry point. Its digits go on as far as they can.
-/
structure EntryPlace where
  before : List Char
  gap : Spacing
  digits : Run isHexDigit
  after : List Char
  ends : Stops isHexDigit after

namespace EntryPlace

def shown (place : EntryPlace) : List Char :=
  entryLabel ++ (place.gap.chars ++ '0' :: 'x' :: (place.digits.chars ++ place.after))

def chars (place : EntryPlace) : List Char :=
  place.before ++ place.shown

/--
No such place stands further to the left.
-/
def IsFirst (place : EntryPlace) : Prop :=
  ∀ other : EntryPlace, other.chars = place.chars → place.before.length ≤ other.before.length

end EntryPlace

section

variable {cs : List Char} {n : Nat}

theorem hexNumber?_eq_some_iff : hexNumber? cs = some n ↔ ∃ (digits : Run isHexDigit) (after : List Char),
    cs = '0' :: 'x' :: (digits.chars ++ after) ∧ Stops isHexDigit after ∧ ofHexDigits digits.chars = n := by
  constructor
  · intro h
    unfold hexNumber? at h
    split at h
    · next cs =>
      split at h
      · cases h
      · next digits hdigits =>
        cases h
        refine ⟨⟨cs.takeWhile isHexDigit, hdigits, List.all_takeWhile⟩, cs.dropWhile isHexDigit, ?_,
          stops_dropWhile isHexDigit cs, rfl⟩
        rw [List.takeWhile_append_dropWhile]
    · cases h
  · rintro ⟨digits, after, rfl, hafter, rfl⟩
    obtain ⟨d, ds, hdigits, _⟩ := digits.exists_cons
    rw [hexNumber?, takeWhile_append_of_stops digits.accepts_of_mem hafter, hdigits]

theorem entryHere?_eq_some_iff : entryHere? cs = some n ↔ ∃ place : EntryPlace,
    place.shown = cs ∧ ofHexDigits place.digits.chars = n := by
  unfold entryHere?
  rw [Option.bind_eq_some_iff]
  constructor
  · rintro ⟨rest, hlabel, hnumber⟩
    obtain ⟨digits, after, hrest, hafter, rfl⟩ := hexNumber?_eq_some_iff.mp hnumber
    refine ⟨⟨[], ⟨rest.takeWhile isBlank, List.all_takeWhile⟩, digits, after, hafter⟩, ?_, rfl⟩
    rw [EntryPlace.shown, ← hrest, List.takeWhile_append_dropWhile]
    exact List.isPrefixOf?_eq_some_iff_append_eq.mp hlabel
  · rintro ⟨place, rfl, rfl⟩
    have hmark : Stops isBlank ('0' :: 'x' :: (place.digits.chars ++ place.after)) := by
      intro c hc
      cases hc
      decide
    refine ⟨_, List.isPrefixOf?_eq_some_iff_append_eq.mpr rfl, hexNumber?_eq_some_iff.mpr ?_⟩
    rw [dropWhile_append_of_stops place.gap.isBlank_of_mem hmark]
    exact ⟨place.digits, place.after, rfl, place.ends, rfl⟩

theorem entryHere?_nil : entryHere? [] = none := by
  rfl

theorem entryHere?_of_entryAddress?_eq_none {before right : List Char} (h : entryAddress? (before ++ right) = none) :
    entryHere? right = none := by
  induction before with
  | nil =>
    cases right with
    | nil => exact entryHere?_nil
    | cons c right =>
      rw [List.nil_append, entryAddress?, Option.or_eq_none_iff] at h
      exact h.1
  | cons c before ih =>
    rw [List.cons_append, entryAddress?, Option.or_eq_none_iff] at h
    exact ih h.2

theorem exists_first_of_entryAddress? (h : entryAddress? cs = some n) :
    ∃ before right, cs = before ++ right ∧ entryHere? right = some n
      ∧ ∀ other rest, cs = other ++ rest → entryHere? rest ≠ none → before.length ≤ other.length := by
  induction cs with
  | nil => cases h
  | cons c cs ih =>
    rw [entryAddress?] at h
    cases hhere : entryHere? (c :: cs) with
    | some m =>
      rw [hhere, Option.some_or] at h
      exact ⟨[], c :: cs, rfl, hhere.trans h, by simp⟩
    | none =>
      rw [hhere, Option.none_or] at h
      obtain ⟨before, right, rfl, hright, hleast⟩ := ih h
      refine ⟨c :: before, right, rfl, hright, ?_⟩
      intro other rest hother hrest
      cases other with
      | nil =>
        rw [List.nil_append] at hother
        rw [← hother] at hrest
        exact absurd hhere hrest
      | cons d other =>
        apply Nat.succ_le_succ
        apply hleast other rest (List.tail_eq_of_cons_eq hother) hrest

theorem entryAddress?_eq_none_iff : entryAddress? cs = none ↔ ∀ place : EntryPlace, place.chars ≠ cs := by
  constructor
  · rintro h place rfl
    have hnone := entryHere?_of_entryAddress?_eq_none h
    rw [entryHere?_eq_some_iff.mpr ⟨place, rfl, rfl⟩] at hnone
    cases hnone
  · intro h
    by_contra hsome
    obtain ⟨n, hn⟩ := Option.ne_none_iff_exists'.mp hsome
    obtain ⟨before, right, rfl, hright, _⟩ := exists_first_of_entryAddress? hn
    obtain ⟨place, rfl, _⟩ := entryHere?_eq_some_iff.mp hright
    exact h { place with before } rfl

theorem exists_of_entryAddress? (h : entryAddress? cs = some n) :
    ∃ place : EntryPlace, place.chars = cs ∧ place.IsFirst ∧ ofHexDigits place.digits.chars = n := by
  obtain ⟨before, right, rfl, hright, hleast⟩ := exists_first_of_entryAddress? h
  obtain ⟨place, rfl, rfl⟩ := entryHere?_eq_some_iff.mp hright
  refine ⟨{ place with before }, rfl, ?_, rfl⟩
  intro other hother
  apply hleast other.before other.shown hother.symm
  rw [entryHere?_eq_some_iff.mpr ⟨other, rfl, rfl⟩]
  simp

theorem EntryPlace.IsFirst.entryAddress?_eq {place : EntryPlace} (h : place.IsFirst) :
    entryAddress? place.chars = some (ofHexDigits place.digits.chars) := by
  cases hfound : entryAddress? place.chars with
  | none => exact absurd rfl (entryAddress?_eq_none_iff.mp hfound place)
  | some n =>
    obtain ⟨other, hother, hfirst, rfl⟩ := exists_of_entryAddress? hfound
    -- Both are first, so they are at the same place, and what is read there is one number.
    have hlength : place.before.length = other.before.length :=
      Nat.le_antisymm (h other hother) (hfirst place hother.symm)
    have hshown : place.shown = other.shown := (List.append_inj hother.symm hlength).2
    have hplace := entryHere?_eq_some_iff.mpr ⟨place, hshown, rfl⟩
    rw [entryHere?_eq_some_iff.mpr ⟨other, rfl, rfl⟩] at hplace
    exact hplace

theorem isHeading_iff : isHeading cs = true ↔ ∃ c ∈ cs.head?, 'A' ≤ c ∧ c ≤ 'Z' := by
  cases cs with
  | nil => simp [isHeading]
  | cons c cs => simp [isHeading]

theorem hasPart_iff {part : List Char} : hasPart part cs = true ↔ part <:+: cs := by
  induction cs with
  | nil => simp [hasPart]
  | cons c cs ih =>
    rw [hasPart, Bool.or_eq_true, List.isPrefixOf_iff_prefix, ih, List.infix_cons_iff]

end

/--
A line begins a section if its first character is a capital letter and it does not name the entry point.
-/
def BeginsSection (line : String) : Prop :=
  (∃ c ∈ line.toList.head?, 'A' ≤ c ∧ c ≤ 'Z') ∧ ∀ place : EntryPlace, place.chars ≠ line.toList

/--
The last section that some lines begin is the one of symbols.
-/
def EndsInSymbols (lines : List String) : Prop :=
  ∃ before heading after, lines = before ++ heading :: after ∧ BeginsSection heading
    ∧ ".symtab".toList <:+: heading.toList ∧ ∀ line ∈ after, ¬BeginsSection line

/--
What a line says after some earlier ones. A line with the entry point says that, a heading says nothing, and any other
line is a row or says nothing, depending on the section that it belongs to.
-/
inductive Means (earlier : List String) (line : String) : Option SymbolFact → Prop
  | entry {place : EntryPlace} : place.chars = line.toList → place.IsFirst →
      Means earlier line (some (.entry (ofHexDigits place.digits.chars)))
  | heading : BeginsSection line → Means earlier line none
  | outside : (∀ place : EntryPlace, place.chars ≠ line.toList) → ¬BeginsSection line → ¬EndsInSymbols earlier →
      Means earlier line none
  | row {reading : RowReading} {fact : SymbolFact} : (∀ place : EntryPlace, place.chars ≠ line.toList) →
      ¬BeginsSection line → EndsInSymbols earlier → reading.chars = line.toList → reading.Tells fact →
      Means earlier line (some fact)
  | other : (∀ place : EntryPlace, place.chars ≠ line.toList) → ¬BeginsSection line → EndsInSymbols earlier →
      (∀ reading : RowReading, reading.chars ≠ line.toList) → Means earlier line none

section

variable {inSymbols : Bool} {lines : List String} {line : String}

theorem beginsSection_iff :
    BeginsSection line ↔ isHeading line.toList = true ∧ entryAddress? line.toList = none := by
  rw [BeginsSection, isHeading_iff, entryAddress?_eq_none_iff]

instance (line : String) : Decidable (BeginsSection line) :=
  decidable_of_iff _ beginsSection_iff.symm

theorem isHeading_eq_false (h : ¬BeginsSection line) (hentry : entryAddress? line.toList = none) :
    isHeading line.toList = false := by
  rw [Bool.eq_false_iff]
  intro hheading
  exact h (beginsSection_iff.mpr ⟨hheading, hentry⟩)

theorem readLine_of_beginsSection (h : BeginsSection line) :
    readLine inSymbols line = (hasPart sectionMark line.toList, none) := by
  obtain ⟨hheading, hentry⟩ := beginsSection_iff.mp h
  exact readLine_of_heading hentry hheading

/--
Only a line that begins a section opens or closes the section of symbols.
-/
theorem readLine_fst (h : ¬BeginsSection line) : (readLine inSymbols line).1 = inSymbols := by
  cases hentry : entryAddress? line.toList with
  | some address => rw [readLine_of_entry hentry]
  | none => rw [readLine_of_body hentry (isHeading_eq_false h hentry)]

/--
Whether the section of symbols is open after some lines.
-/
def sectionAfter (inSymbols : Bool) (lines : List String) : Bool :=
  lines.foldl (fun inSymbols line => (readLine inSymbols line).1) inSymbols

theorem sectionAfter_concat (inSymbols : Bool) (lines : List String) (line : String) :
    sectionAfter inSymbols (lines ++ [line]) = (readLine (sectionAfter inSymbols lines) line).1 := by
  simp [sectionAfter]

theorem readLines.go_append (inSymbols : Bool) (lines later : List String) :
    go inSymbols (lines ++ later) = go inSymbols lines ++ go (sectionAfter inSymbols lines) later := by
  induction lines generalizing inSymbols with
  | nil => rfl
  | cons line lines ih =>
    rw [List.cons_append, go, go, ih]
    rfl

theorem readLines.getElem?_go (inSymbols : Bool) (lines : List String) (i : Nat) :
    (go inSymbols lines)[i]? = lines[i]?.map fun line => (readLine (sectionAfter inSymbols (lines.take i)) line).2 := by
  induction lines generalizing inSymbols i with
  | nil => rfl
  | cons line lines ih =>
    cases i with
    | zero => rfl
    | succ i =>
      rw [go, List.getElem?_cons_succ, ih, List.getElem?_cons_succ, List.take_succ_cons]
      rfl

theorem endsInSymbols_concat_iff :
    EndsInSymbols (lines ++ [line])
      ↔ if BeginsSection line then ".symtab".toList <:+: line.toList else EndsInSymbols lines := by
  split
  · next h =>
    constructor
    · rintro ⟨before, heading, after, hlines, _, hmark, hafter⟩
      rcases List.eq_nil_or_concat after with rfl | ⟨after, last, rfl⟩
      · cases (List.append_inj' hlines rfl).2
        exact hmark
      · -- The line would come after the last heading.
        rw [List.concat_eq_append, ← List.cons_append, ← List.append_assoc] at hlines
        cases (List.append_inj' hlines rfl).2
        exact absurd h (hafter line (by simp))
    · intro hmark
      exact ⟨lines, line, [], rfl, h, hmark, by simp⟩
  · next h =>
    constructor
    · rintro ⟨before, heading, after, hlines, hheading, hmark, hafter⟩
      rcases List.eq_nil_or_concat after with rfl | ⟨after, last, rfl⟩
      · cases (List.append_inj' hlines rfl).2
        exact absurd hheading h
      · rw [List.concat_eq_append, ← List.cons_append, ← List.append_assoc] at hlines
        refine ⟨before, heading, after, (List.append_inj' hlines rfl).1, hheading, hmark, ?_⟩
        intro line hline
        apply hafter
        simp [hline]
    · rintro ⟨before, heading, after, rfl, hheading, hmark, hafter⟩
      refine ⟨before, heading, after ++ [line], by simp, hheading, hmark, ?_⟩
      intro other hother
      rcases List.mem_append.mp hother with hother | hother
      · exact hafter other hother
      · cases List.mem_singleton.mp hother
        exact h

theorem sectionAfter_eq_true_iff : sectionAfter false lines = true ↔ EndsInSymbols lines := by
  induction lines using List.reverseRecOn with
  | nil => simp [sectionAfter, EndsInSymbols]
  | append_singleton lines line ih =>
    rw [sectionAfter_concat, endsInSymbols_concat_iff]
    split
    · next h =>
      rw [readLine_of_beginsSection h, hasPart_iff]
      rfl
    · next h => rw [readLine_fst h, ih]

/--
What is read of a line is what it says, when it is known which section the earlier lines end in.
-/
theorem readLine_snd_iff {earlier : List String} {fact? : Option SymbolFact}
    (h : inSymbols = true ↔ EndsInSymbols earlier) :
    (readLine inSymbols line).2 = fact? ↔ Means earlier line fact? := by
  constructor
  · rintro rfl
    cases hentry : entryAddress? line.toList with
    | some address =>
      obtain ⟨place, hchars, hfirst, rfl⟩ := exists_of_entryAddress? hentry
      rw [readLine_of_entry hentry]
      exact .entry hchars hfirst
    | none =>
      have hplace := entryAddress?_eq_none_iff.mp hentry
      by_cases hbegins : BeginsSection line
      · rw [readLine_of_beginsSection hbegins]
        exact .heading hbegins
      · rw [readLine_of_body hentry (isHeading_eq_false hbegins hentry)]
        cases inSymbols with
        | false => exact .outside hplace hbegins (by simpa using h)
        | true =>
          have hsection : EndsInSymbols earlier := h.mp rfl
          rw [if_pos rfl]
          cases hrow : row? line.toList with
          | none => exact .other hplace hbegins hsection (row?_eq_none_iff.mp hrow)
          | some row =>
            obtain ⟨reading, hchars, rfl⟩ := exists_of_row? hrow
            exact .row hplace hbegins hsection hchars (RowReading.tells_iff.mpr rfl)
  · intro hmeans
    cases hmeans with
    | entry hchars hfirst =>
      have hentry := hfirst.entryAddress?_eq
      rw [hchars] at hentry
      rw [readLine_of_entry hentry]
    | heading hbegins => rw [readLine_of_beginsSection hbegins]
    | outside hplace hbegins hsection =>
      have hentry := entryAddress?_eq_none_iff.mpr hplace
      rw [readLine_of_body hentry (isHeading_eq_false hbegins hentry), if_neg (mt h.mp hsection)]
    | row hplace hbegins hsection hchars htells =>
      have hentry := entryAddress?_eq_none_iff.mpr hplace
      rw [readLine_of_body hentry (isHeading_eq_false hbegins hentry), if_pos (h.mpr hsection)]
      exact map_row?_eq_some_iff.mpr ⟨_, hchars, htells⟩
    | other hplace hbegins hsection hreading =>
      have hentry := entryAddress?_eq_none_iff.mpr hplace
      rw [readLine_of_body hentry (isHeading_eq_false hbegins hentry), if_pos (h.mpr hsection),
        row?_eq_none_iff.mpr hreading]
      rfl

theorem getElem?_readLines_iff {i : Nat} {fact? : Option SymbolFact} :
    (readLines lines)[i]? = some fact? ↔ ∃ line, lines[i]? = some line ∧ Means (lines.take i) line fact? := by
  unfold readLines
  rw [readLines.getElem?_go, Option.map_eq_some_iff]
  simp only [readLine_snd_iff sectionAfter_eq_true_iff]

theorem eraseIdx_readLines (before after : List String) (h : ¬BeginsSection line) :
    (readLines (before ++ line :: after)).eraseIdx before.length = readLines (before ++ after) := by
  unfold readLines
  rw [readLines.go_append, readLines.go_append, readLines.go]
  simp only [readLine_fst h]
  rw [List.eraseIdx_append_of_length_le (by simp [readLines.length_go]), readLines.length_go, Nat.sub_self]
  rfl

end

theorem readLines_means (lines : List String) :
    (∀ i fact?, (readLines lines)[i]? = some fact? ↔ ∃ line, lines[i]? = some line ∧ Means (lines.take i) line fact?)
      ∧ ∀ before line after, lines = before ++ line :: after → ¬BeginsSection line →
        (readLines lines).eraseIdx before.length = readLines (before ++ after) := by
  constructor
  · intro i fact?
    exact getElem?_readLines_iff
  · rintro before line after rfl hline
    exact eraseIdx_readLines before after hline

-- Both lines with an entry point begin with a capital letter. The first one does not open the section that it seems to
-- name, and the second one does not close it.
def interruptedListing : List String :=
  ["Entry point address: 0x40 .symtab", "1: 10 0 FUNC GLOBAL DEFAULT 1 lost", "Symbol table '.symtab'",
    "Entry point address: 0x50", "2: 20 0 FUNC GLOBAL DEFAULT 1 kept"]

theorem readLines_means_interruptedListing :
    readLines interruptedListing
        = [some (.entry 0x40), none, none, some (.entry 0x50), some (.symbol 0x20 "kept")]
      ∧ (∃ line, interruptedListing[4]? = some line
        ∧ Means (interruptedListing.take 4) line (some (.symbol 0x20 "kept")))
      ∧ ¬BeginsSection "Entry point address: 0x50"
      ∧ readLines (interruptedListing.eraseIdx 3) = [some (.entry 0x40), none, none, some (.symbol 0x20 "kept")] := by
  have hread : readLines interruptedListing
      = [some (.entry 0x40), none, none, some (.entry 0x50), some (.symbol 0x20 "kept")] := by decide +kernel
  have hbegins : ¬BeginsSection "Entry point address: 0x50" := by decide +kernel
  obtain ⟨hmeans, hrest⟩ := readLines_means interruptedListing
  refine ⟨hread, (hmeans 4 _).mp (by rw [hread]; rfl), hbegins, ?_⟩
  have herase := hrest (interruptedListing.take 3) _ (interruptedListing.drop 4) rfl hbegins
  rw [hread] at herase
  exact herase.symm

end CallScope.SymbolListing
