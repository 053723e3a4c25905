import CallScope.Disassembly
import CallScope.Proofs.SymbolRow
import Mathlib.Data.List.Infix

/-!
This module contains the pattern of a line with a transfer, and the proof that lines are read by it. The line is read at
the first place where the rest of the pattern fits, and there it fits in one way only.
-/

namespace CallScope

namespace Text

/--
One of the two characters beside a place belongs to a word and the other one does not. At the ends of a text the missing
character belongs to none.
-/
def IsBoundary (left right : List Char) : Prop :=
  left.getLast?.any isWordCharacter ≠ right.head?.any isWordCharacter

theorem isWordCharacter_of_isHexDigit {c : Char} (h : Numeral.isHexDigit c = true) : isWordCharacter c = true := by
  have hcodes : ∀ code < 103, (48 ≤ code ∧ code ≤ 57) ∨ (97 ≤ code ∧ code ≤ 102) →
      CodeRange.holds wordRanges code = true := by decide
  rw [Numeral.isHexDigit_iff] at h
  apply hcodes c.toNat _ h
  omega

theorem Stops.anti {p q : Char → Bool} (hpq : ∀ c, p c = true → q c = true) {cs : List Char} (h : Stops q cs) :
    Stops p cs := by
  intro c hc
  rw [Bool.eq_false_iff]
  intro hp
  have hq := h c hc
  rw [hpq c hp] at hq
  cases hq

theorem stops_iff {p : Char → Bool} {cs : List Char} : Stops p cs ↔ cs.head?.any p = false := by
  cases cs with
  | nil => simp [Stops]
  | cons c cs => simp [Stops]

theorem stops_append {p : Char → Bool} {cs rest : List Char} (hcs : Stops p cs) (hrest : Stops p rest) :
    Stops p (cs ++ rest) := by
  cases cs with
  | nil => exact hrest
  | cons c cs => exact hcs

theorem stops_of_append {p : Char → Bool} {cs rest : List Char} (h : Stops p (cs ++ rest)) : Stops p cs := by
  cases cs with
  | nil => simp [Stops]
  | cons c cs => exact h

theorem stops_cons {p : Char → Bool} {c : Char} (h : p c = false) (cs : List Char) : Stops p (c :: cs) := by
  rw [stops_iff, List.head?_cons, Option.any_some, h]

theorem isBoundary_append_iff {left run right : List Char} {c : Char} (hlast : run.getLast? = some c)
    (hc : isWordCharacter c = true) : IsBoundary (left ++ run) right ↔ Stops isWordCharacter right := by
  rw [IsBoundary, List.getLast?_append, hlast, Option.some_or, Option.any_some, hc, stops_iff]
  rw [ne_comm, ne_eq, Bool.not_eq_true]

theorem isBoundary_cons_iff {left right : List Char} {c : Char} (hc : isWordCharacter c = true) :
    IsBoundary left (c :: right) ↔ left.getLast?.any isWordCharacter = false := by
  rw [IsBoundary, List.head?_cons, Option.any_some, hc, ne_eq, Bool.not_eq_true]

end Text

namespace Disassembly

open Text Numeral

def star (isIndirect : Bool) : List Char :=
  if isIndirect then ['*'] else []

def mark (isMarked : Bool) : List Char :=
  if isMarked then ['0', 'x'] else []

/--
A transfer as a line shows it, from its mnemonic to the last digit of its target.
-/
structure Transfer where
  mnemonic : List Char
  gap : Gap
  isIndirect : Bool
  isMarked : Bool
  digits : Run isHexDigit
  mem_mnemonics : mnemonic ∈ mnemonics

namespace Transfer

def chars (transfer : Transfer) : List Char :=
  transfer.mnemonic ++ (transfer.gap.chars ++ (star transfer.isIndirect ++ (mark transfer.isMarked
    ++ transfer.digits.chars)))

def operand (transfer : Transfer) : Operand :=
  ⟨ofHexDigits transfer.digits.chars, transfer.isIndirect⟩

@[simp]
theorem operand_isIndirect (transfer : Transfer) : transfer.operand.isIndirect = transfer.isIndirect := by
  rfl

end Transfer

section

variable {cs rest : List Char}

theorem hexWord?_append (digits : Run isHexDigit) (hrest : Stops isWordCharacter rest) :
    hexWord? (digits.chars ++ rest) = some (ofHexDigits digits.chars) := by
  have hstops : Stops isHexDigit rest := hrest.anti fun _ => isWordCharacter_of_isHexDigit
  obtain ⟨d, ds, hdigits, _⟩ := digits.exists_cons
  unfold hexWord?
  rw [takeWhile_append_of_stops digits.accepts_of_mem hstops, dropWhile_append_of_stops digits.accepts_of_mem hstops,
    hdigits]
  cases rest with
  | nil => rfl
  | cons c cs => simp [hrest c rfl]

theorem exists_of_hexWord? {n : Nat} (h : hexWord? cs = some n) :
    ∃ (digits : Run isHexDigit) (rest : List Char),
      cs = digits.chars ++ rest ∧ Stops isWordCharacter rest ∧ ofHexDigits digits.chars = n := by
  cases htake : cs.takeWhile isHexDigit with
  | nil => simp [hexWord?, htake] at h
  | cons d ds =>
    refine ⟨⟨cs.takeWhile isHexDigit, by simp [htake], List.all_takeWhile⟩, cs.dropWhile isHexDigit,
      List.takeWhile_append_dropWhile.symm, ?_⟩
    unfold hexWord? at h
    cases hdrop : cs.dropWhile isHexDigit with
    | nil => simpa [htake, hdrop, Stops] using h
    | cons c rest => simpa [htake, hdrop, Stops] using h

theorem append_ne_mark (digits : Run isHexDigit) (hrest : Stops isWordCharacter rest) (cs : List Char) :
    digits.chars ++ rest ≠ '0' :: 'x' :: cs := by
  -- The digits would end before the `x`, which cannot follow them since it belongs to a word.
  intro h
  have hstops : Stops isHexDigit rest := hrest.anti fun _ => isWordCharacter_of_isHexDigit
  have hzero : ∀ c ∈ ['0'], isHexDigit c = true := by simp [isHexDigit]
  have hx : Stops isHexDigit ('x' :: cs) := by simp [Stops, isHexDigit]
  obtain ⟨_, rfl⟩ := append_inj_of_stops digits.accepts_of_mem hstops hzero hx h
  have hword := hrest 'x' rfl
  revert hword
  decide

theorem target?_append (isMarked : Bool) (digits : Run isHexDigit) (hrest : Stops isWordCharacter rest) :
    target? (mark isMarked ++ (digits.chars ++ rest)) = some (ofHexDigits digits.chars) := by
  cases isMarked with
  | true => exact hexWord?_append digits hrest
  | false =>
    show target? (digits.chars ++ rest) = _
    unfold target?
    split
    · next h => exact absurd h (append_ne_mark digits hrest _)
    · exact hexWord?_append digits hrest

theorem exists_of_target? {n : Nat} (h : target? cs = some n) :
    ∃ (isMarked : Bool) (digits : Run isHexDigit) (rest : List Char),
      cs = mark isMarked ++ (digits.chars ++ rest) ∧ Stops isWordCharacter rest ∧ ofHexDigits digits.chars = n := by
  unfold target? at h
  split at h
  · obtain ⟨digits, rest, rfl, hrest⟩ := exists_of_hexWord? h
    exact ⟨true, digits, rest, rfl, hrest⟩
  · obtain ⟨digits, rest, rfl, hrest⟩ := exists_of_hexWord? h
    exact ⟨false, digits, rest, rfl, hrest⟩

theorem mark_append_ne_star (isMarked : Bool) (digits : Run isHexDigit) (rest cs : List Char) :
    mark isMarked ++ (digits.chars ++ rest) ≠ '*' :: cs := by
  obtain ⟨d, ds, hdigits, hd⟩ := digits.exists_cons
  cases isMarked with
  | true => simp [mark]
  | false =>
    rw [hdigits]
    simp only [mark, Bool.false_eq_true, if_false, List.nil_append, List.cons_append, ne_eq, List.cons.injEq, not_and]
    rintro rfl
    cases hd

theorem operand?_append (isIndirect isMarked : Bool) (digits : Run isHexDigit) (hrest : Stops isWordCharacter rest) :
    operand? (star isIndirect ++ (mark isMarked ++ (digits.chars ++ rest)))
      = some ⟨ofHexDigits digits.chars, isIndirect⟩ := by
  have htarget := target?_append isMarked digits hrest
  cases isIndirect with
  | true =>
    show (target? (mark isMarked ++ (digits.chars ++ rest))).map _ = _
    rw [htarget]
    rfl
  | false =>
    show operand? (mark isMarked ++ (digits.chars ++ rest)) = _
    unfold operand?
    split
    · next h => exact absurd h (mark_append_ne_star isMarked digits rest _)
    · rw [htarget]
      rfl

theorem exists_of_operand? {operand : Operand} (h : operand? cs = some operand) :
    ∃ (isMarked : Bool) (digits : Run isHexDigit) (rest : List Char),
      cs = star operand.isIndirect ++ (mark isMarked ++ (digits.chars ++ rest))
        ∧ Stops isWordCharacter rest ∧ ofHexDigits digits.chars = operand.target := by
  unfold operand? at h
  split at h
  · obtain ⟨n, htarget, rfl⟩ := Option.map_eq_some_iff.mp h
    obtain ⟨isMarked, digits, rest, rfl, hrest⟩ := exists_of_target? htarget
    exact ⟨isMarked, digits, rest, rfl, hrest⟩
  · obtain ⟨n, htarget, rfl⟩ := Option.map_eq_some_iff.mp h
    obtain ⟨isMarked, digits, rest, rfl, hrest⟩ := exists_of_target? htarget
    exact ⟨isMarked, digits, rest, rfl, hrest⟩

theorem stops_isBlank_operand (isIndirect isMarked : Bool) (digits : Run isHexDigit) (rest : List Char) :
    Stops isBlank (star isIndirect ++ (mark isMarked ++ (digits.chars ++ rest))) := by
  obtain ⟨d, ds, hdigits, hd⟩ := digits.exists_cons
  have hblank := isBlank_eq_false_of_isHexDigit hd
  rw [hdigits]
  cases isIndirect with
  | true => simp [Stops, star, show isBlank '*' = false by decide]
  | false =>
    cases isMarked with
    | true => simp [Stops, star, mark, show isBlank '0' = false by decide]
    | false => simpa [Stops, star, mark] using hblank

theorem afterMnemonic?_append (gap : Gap) (hrest : Stops isBlank rest) :
    afterMnemonic? (gap.chars ++ rest) = operand? rest := by
  obtain ⟨c, cs, hgap, hc⟩ := gap.exists_cons
  have hcs : ∀ b ∈ cs, isBlank b = true := by
    intro b hb
    exact gap.accepts_of_mem b (by simp [hgap, hb])
  rw [hgap, List.cons_append, afterMnemonic?, if_pos hc, dropWhile_append_of_stops hcs hrest]

theorem exists_of_afterMnemonic? {operand : Operand} (h : afterMnemonic? cs = some operand) :
    ∃ (gap : Gap) (rest : List Char), cs = gap.chars ++ rest ∧ Stops isBlank rest ∧ operand? rest = some operand := by
  cases cs with
  | nil => cases h
  | cons c cs =>
    rw [afterMnemonic?, Option.ite_none_right_eq_some] at h
    refine ⟨⟨c :: cs.takeWhile isBlank, by simp, ?_⟩, cs.dropWhile isBlank, ?_, stops_dropWhile isBlank cs, h.2⟩
    · simp [h.1]
    · simp

theorem isBlank_of_mem_mnemonic {mnemonic : List Char} (h : mnemonic ∈ mnemonics) :
    ∀ c ∈ mnemonic, (!isBlank c) = true := by
  have hall : (mnemonics.all fun mnemonic => mnemonic.all (!isBlank ·)) = true := by decide +kernel
  exact List.all_eq_true.mp (List.all_eq_true.mp hall mnemonic h)

theorem exists_cons_of_mem_mnemonics {mnemonic : List Char} (h : mnemonic ∈ mnemonics) :
    ∃ c cs, mnemonic = c :: cs ∧ isWordCharacter c = true := by
  have hall : (mnemonics.all fun mnemonic => mnemonic.head?.any isWordCharacter) = true := by decide +kernel
  have hhead := List.all_eq_true.mp hall mnemonic h
  cases mnemonic with
  | nil => cases hhead
  | cons c cs => exact ⟨c, cs, rfl, hhead⟩

/--
White space ends a mnemonic, so that a word is one of them or no transfer begins with it.
-/
theorem transferHere?_word_append {word : List Char} (hword : ∀ c ∈ word, (!isBlank c) = true)
    (hrest : Stops (!isBlank ·) rest) :
    transferHere? (word ++ rest) = if word ∈ mnemonics then afterMnemonic? rest else none := by
  cases hfound : transferHere? (word ++ rest) with
  | none =>
    split
    · next hmnemonic =>
      have hnone := List.findSome?_eq_none_iff.mp hfound word hmnemonic
      rw [List.isPrefixOf?_eq_some_iff_append_eq.mpr rfl, Option.bind_some] at hnone
      exact hnone.symm
    · rfl
  | some operand =>
    obtain ⟨mnemonic, hmnemonic, hoperand⟩ := List.exists_of_findSome?_eq_some hfound
    obtain ⟨tail, hprefix, hafter⟩ := Option.bind_eq_some_iff.mp hoperand
    obtain ⟨gap, afterGap, rfl, _⟩ := exists_of_afterMnemonic? hafter
    obtain ⟨rfl, rfl⟩ := append_inj_of_stops (isBlank_of_mem_mnemonic hmnemonic) (stops_gap gap afterGap) hword hrest
      (List.isPrefixOf?_eq_some_iff_append_eq.mp hprefix)
    rw [if_pos hmnemonic, hafter]

theorem transferHere?_append (transfer : Transfer) (hrest : Stops isWordCharacter rest) :
    transferHere? (transfer.chars ++ rest) = some transfer.operand := by
  obtain ⟨mnemonic, gap, isIndirect, isMarked, digits, hmnemonic⟩ := transfer
  simp only [Transfer.chars, Transfer.operand, List.append_assoc]
  rw [transferHere?_word_append (isBlank_of_mem_mnemonic hmnemonic) (stops_gap gap _), if_pos hmnemonic,
    afterMnemonic?_append gap (stops_isBlank_operand isIndirect isMarked digits rest),
    operand?_append isIndirect isMarked digits hrest]

theorem exists_of_transferHere? {operand : Operand} (h : transferHere? cs = some operand) :
    ∃ (transfer : Transfer) (rest : List Char),
      cs = transfer.chars ++ rest ∧ Stops isWordCharacter rest ∧ transfer.operand = operand := by
  obtain ⟨mnemonic, hmnemonic, hafter⟩ := List.exists_of_findSome?_eq_some h
  obtain ⟨tail, hprefix, hafter⟩ := Option.bind_eq_some_iff.mp hafter
  obtain ⟨gap, afterGap, rfl, _, hoperand⟩ := exists_of_afterMnemonic? hafter
  obtain ⟨isMarked, digits, rest, rfl, hrest, htarget⟩ := exists_of_operand? hoperand
  refine ⟨⟨mnemonic, gap, operand.isIndirect, isMarked, digits, hmnemonic⟩, rest, ?_, hrest, ?_⟩
  · rw [← List.isPrefixOf?_eq_some_iff_append_eq.mp hprefix]
    simp [Transfer.chars]
  · rw [Transfer.operand, htarget]

theorem transferHere?_eq_some_iff {operand : Operand} :
    transferHere? cs = some operand ↔ ∃ (transfer : Transfer) (rest : List Char),
      cs = transfer.chars ++ rest ∧ Stops isWordCharacter rest ∧ transfer.operand = operand := by
  constructor
  · apply exists_of_transferHere?
  · rintro ⟨transfer, rest, rfl, hrest, rfl⟩
    exact transferHere?_append transfer hrest

/--
A transfer with an operand begins a word after `between`, on the line that goes on with `cs` after `before`.
-/
def FoundAfter (before : Char) (cs between : List Char) (operand : Operand) : Prop :=
  ∃ right, cs = between ++ right ∧ '\n' ∉ between ∧ (before :: between).getLast?.any isWordCharacter = false
    ∧ transferHere? right = some operand

variable {before : Char} {operand : Operand}

theorem foundAfter_nil_iff :
    FoundAfter before cs [] operand ↔ isWordCharacter before = false ∧ transferHere? cs = some operand := by
  simp [FoundAfter]

theorem foundAfter_cons_iff {c d : Char} {between : List Char} :
    FoundAfter before (c :: cs) (d :: between) operand ↔ d = c ∧ c ≠ '\n' ∧ FoundAfter c cs between operand := by
  unfold FoundAfter
  simp only [List.cons_append, List.cons.injEq, List.mem_cons, not_or, List.getLast?_cons_cons]
  constructor
  · rintro ⟨right, ⟨rfl, hcs⟩, ⟨hline, hbetween⟩, hright⟩
    exact ⟨rfl, Ne.symm hline, right, hcs, hbetween, hright⟩
  · rintro ⟨rfl, hline, right, hcs, hbetween, hright⟩
    exact ⟨right, ⟨rfl, hcs⟩, ⟨Ne.symm hline, hbetween⟩, hright⟩

theorem transferHere?_nil : transferHere? [] = none := by
  decide +kernel

theorem transfer?_eq_some_iff :
    transfer? before cs = some operand ↔ ∃ between, FoundAfter before cs between operand
      ∧ ∀ other operand, FoundAfter before cs other operand → between.length ≤ other.length := by
  induction cs generalizing before with
  | nil =>
    constructor
    · intro h
      cases h
    · rintro ⟨between, ⟨right, hright, _, _, hfound⟩, _⟩
      rw [(List.append_eq_nil_iff.mp hright.symm).2, transferHere?_nil] at hfound
      cases hfound
  | cons c cs ih =>
    have hhere : ∀ operand, (if isWordCharacter before then none else transferHere? (c :: cs)) = some operand
        ↔ FoundAfter before (c :: cs) [] operand := by
      intro operand
      rw [foundAfter_nil_iff, Option.ite_none_left_eq_some, Bool.not_eq_true]
    rw [transfer?]
    generalize (if isWordCharacter before then none else transferHere? (c :: cs)) = here? at hhere
    cases here? with
    | some here =>
      simp only [Option.some_or, Option.some.injEq]
      constructor
      · rintro rfl
        exact ⟨[], (hhere here).mp rfl, by simp⟩
      · rintro ⟨between, hfound, hleast⟩
        have hlength := hleast [] here ((hhere here).mp rfl)
        rw [List.length_nil, Nat.le_zero, List.length_eq_zero_iff] at hlength
        subst hlength
        exact Option.some.inj ((hhere operand).mpr hfound)
    | none =>
      -- Nothing is found at once, so all that is found comes after the first character.
      have hnil : ∀ operand, ¬FoundAfter before (c :: cs) [] operand := by
        intro operand h
        cases (hhere operand).mpr h
      rw [Option.none_or, Option.ite_none_left_eq_some, ih]
      constructor
      · rintro ⟨hline, between, hfound, hleast⟩
        refine ⟨c :: between, foundAfter_cons_iff.mpr ⟨rfl, hline, hfound⟩, ?_⟩
        intro other operand hother
        cases other with
        | nil => exact absurd hother (hnil operand)
        | cons d other =>
          obtain ⟨_, _, hother⟩ := foundAfter_cons_iff.mp hother
          have hlength := hleast other operand hother
          simpa using hlength
      · rintro ⟨between, hfound, hleast⟩
        cases between with
        | nil => exact absurd hfound (hnil operand)
        | cons d between =>
          obtain ⟨rfl, hline, hfound⟩ := foundAfter_cons_iff.mp hfound
          refine ⟨hline, between, hfound, ?_⟩
          intro other operand hother
          have hlength := hleast (d :: other) operand (foundAfter_cons_iff.mpr ⟨rfl, hline, hother⟩)
          simpa using hlength

end

/--
The start of a line: an address, a colon and one character of white space.
-/
structure Start where
  indent : SymbolListing.Spacing
  address : Run isHexDigit
  blank : Char
  isBlank_blank : isBlank blank = true

def Start.chars (start : Start) : List Char :=
  start.indent.chars ++ (start.address.chars ++ [':', start.blank])

/--
A line with a transfer in it. It holds white space and an address, then anything, and the transfer where a word begins.
-/
structure Reading where
  start : Start
  between : List Char
  transfer : Transfer
  rest : List Char
  newline_not_mem : '\n' ∉ between
  begins : IsBoundary (start.chars ++ between) (transfer.chars ++ rest)
  ends : IsBoundary (start.chars ++ between ++ transfer.chars) rest

namespace Reading

def chars (reading : Reading) : List Char :=
  reading.start.chars ++ (reading.between ++ (reading.transfer.chars ++ reading.rest))

def instruction (reading : Reading) : Instruction where
  source := ofHexDigits reading.start.address.chars
  target := ofHexDigits reading.transfer.digits.chars
  isTransfer := true

/--
No transfer stands further to the left.
-/
def IsFirst (reading : Reading) : Prop :=
  ∀ other : Reading, other.chars = reading.chars → reading.between.length ≤ other.between.length

end Reading

theorem stops_address (address : Run isHexDigit) (rest : List Char) : Stops isBlank (address.chars ++ rest) := by
  obtain ⟨d, ds, haddress, hd⟩ := address.exists_cons
  simp [Stops, haddress, isBlank_eq_false_of_isHexDigit hd]

theorem stops_colon (rest : List Char) : Stops isHexDigit (':' :: rest) := by
  simp [Stops, isHexDigit]

theorem address?_append (start : Start) (rest : List Char) :
    address? (start.chars ++ rest) = some (ofHexDigits start.address.chars, start.blank, rest) := by
  obtain ⟨indent, address, blank, hblank⟩ := start
  simp only [Start.chars, List.append_assoc, List.cons_append, List.nil_append]
  obtain ⟨d, ds, haddress, _⟩ := address.exists_cons
  unfold address?
  rw [dropWhile_append_of_stops indent.isBlank_of_mem (stops_address address _)]
  simp only [takeWhile_append_of_stops address.accepts_of_mem (stops_colon _),
    dropWhile_append_of_stops address.accepts_of_mem (stops_colon _)]
  simp only [haddress, hblank, if_true]

theorem exists_of_address? {line rest : List Char} {source : Nat} {before : Char}
    (h : address? line = some (source, before, rest)) :
    ∃ start : Start, line = start.chars ++ rest ∧ start.blank = before ∧ ofHexDigits start.address.chars = source := by
  unfold address? at h
  simp only at h
  split at h
  · next d ds _ _ htake hdrop =>
    rw [Option.ite_none_right_eq_some] at h
    obtain ⟨hblank, heq⟩ := h
    cases heq
    refine ⟨⟨⟨line.takeWhile isBlank, List.all_takeWhile⟩, ⟨d :: ds, by simp, ?_⟩, before, hblank⟩, ?_, rfl, rfl⟩
    · rw [← htake]
      exact List.all_takeWhile
    · have hline : line = line.takeWhile isBlank
          ++ ((line.dropWhile isBlank).takeWhile isHexDigit ++ (line.dropWhile isBlank).dropWhile isHexDigit) := by
        rw [List.takeWhile_append_dropWhile, List.takeWhile_append_dropWhile]
      rw [htake, hdrop] at hline
      simpa [Start.chars] using hline
  · cases h

theorem Start.append_inj {start start' : Start} {rest rest' : List Char}
    (h : start.chars ++ rest = start'.chars ++ rest') : start = start' ∧ rest = rest' := by
  obtain ⟨indent, address, blank, hblank⟩ := start
  obtain ⟨indent', address', blank', hblank'⟩ := start'
  simp only [chars, List.append_assoc, List.cons_append, List.nil_append] at h
  obtain ⟨hindent, hrow⟩ := append_inj_of_stops indent.isBlank_of_mem (stops_address address _)
    indent'.isBlank_of_mem (stops_address address' _) h
  obtain ⟨haddress, hcolon⟩ := append_inj_of_stops address.accepts_of_mem (stops_colon _)
    address'.accepts_of_mem (stops_colon _) hrow
  cases SymbolListing.Spacing.eq_of_chars_eq hindent
  cases Run.eq_of_chars_eq haddress
  cases hcolon
  exact ⟨rfl, rfl⟩

theorem star_append_inj {isIndirect isIndirect' isMarked isMarked' : Bool} {digits digits' : Run isHexDigit}
    {rest rest' : List Char}
    (h : star isIndirect ++ (mark isMarked ++ (digits.chars ++ rest))
      = star isIndirect' ++ (mark isMarked' ++ (digits'.chars ++ rest'))) :
    isIndirect = isIndirect'
      ∧ mark isMarked ++ (digits.chars ++ rest) = mark isMarked' ++ (digits'.chars ++ rest') := by
  cases isIndirect <;> cases isIndirect'
  · exact ⟨rfl, h⟩
  · exact absurd h (mark_append_ne_star isMarked digits rest _)
  · exact absurd h.symm (mark_append_ne_star isMarked' digits' rest' _)
  · exact ⟨rfl, List.tail_eq_of_cons_eq h⟩

theorem mark_append_inj {isMarked isMarked' : Bool} {digits digits' : Run isHexDigit} {rest rest' : List Char}
    (hrest : Stops isWordCharacter rest) (hrest' : Stops isWordCharacter rest')
    (h : mark isMarked ++ (digits.chars ++ rest) = mark isMarked' ++ (digits'.chars ++ rest')) :
    isMarked = isMarked' ∧ digits.chars ++ rest = digits'.chars ++ rest' := by
  cases isMarked <;> cases isMarked'
  · exact ⟨rfl, h⟩
  · exact absurd h (append_ne_mark digits hrest _)
  · exact absurd h.symm (append_ne_mark digits' hrest' _)
  · exact ⟨rfl, List.tail_eq_of_cons_eq (List.tail_eq_of_cons_eq h)⟩

theorem Transfer.append_inj {transfer transfer' : Transfer} {rest rest' : List Char}
    (hrest : Stops isWordCharacter rest) (hrest' : Stops isWordCharacter rest')
    (h : transfer.chars ++ rest = transfer'.chars ++ rest') : transfer = transfer' ∧ rest = rest' := by
  obtain ⟨mnemonic, gap, isIndirect, isMarked, digits, hmnemonic⟩ := transfer
  obtain ⟨mnemonic', gap', isIndirect', isMarked', digits', hmnemonic'⟩ := transfer'
  have hword : ∀ c, isHexDigit c = true → isWordCharacter c = true := fun _ => isWordCharacter_of_isHexDigit
  simp only [chars, List.append_assoc] at h
  -- White space ends the mnemonic, the operand ends the white space, and the digits end where the word does.
  obtain ⟨rfl, hafter⟩ := append_inj_of_stops (isBlank_of_mem_mnemonic hmnemonic) (stops_gap gap _)
    (isBlank_of_mem_mnemonic hmnemonic') (stops_gap gap' _) h
  obtain ⟨hgap, hoperand⟩ := append_inj_of_stops gap.accepts_of_mem
    (stops_isBlank_operand isIndirect isMarked digits rest) gap'.accepts_of_mem
    (stops_isBlank_operand isIndirect' isMarked' digits' rest') hafter
  obtain ⟨rfl, htarget⟩ := star_append_inj hoperand
  obtain ⟨rfl, hnumber⟩ := mark_append_inj hrest hrest' htarget
  obtain ⟨hdigits, rfl⟩ := append_inj_of_stops digits.accepts_of_mem (hrest.anti hword)
    digits'.accepts_of_mem (hrest'.anti hword) hnumber
  cases Run.eq_of_chars_eq hgap
  cases Run.eq_of_chars_eq hdigits
  exact ⟨rfl, rfl⟩

theorem Transfer.exists_head (transfer : Transfer) (rest : List Char) :
    ∃ c cs, transfer.chars ++ rest = c :: cs ∧ isWordCharacter c = true := by
  obtain ⟨c, cs, hmnemonic, hc⟩ := exists_cons_of_mem_mnemonics transfer.mem_mnemonics
  exact ⟨c, _, by rw [chars, hmnemonic]; rfl, hc⟩

theorem Transfer.exists_last (transfer : Transfer) :
    ∃ c, transfer.chars.getLast? = some c ∧ isWordCharacter c = true := by
  have hlast := List.getLast?_eq_some_getLast transfer.digits.ne_nil
  have hdigit := transfer.digits.accepts_of_mem _ (List.getLast_mem transfer.digits.ne_nil)
  refine ⟨_, ?_, isWordCharacter_of_isHexDigit hdigit⟩
  simp [chars, List.getLast?_append, hlast]

theorem Start.getLast?_append (start : Start) (between : List Char) :
    (start.chars ++ between).getLast? = (start.blank :: between).getLast? := by
  have hchars : start.chars ++ between
      = (start.indent.chars ++ start.address.chars ++ [':']) ++ (start.blank :: between) := by
    simp [chars]
  rw [hchars, List.getLast?_append, List.getLast?_cons, Option.some_or]

theorem Reading.stops_rest (reading : Reading) : Stops isWordCharacter reading.rest := by
  obtain ⟨c, hlast, hc⟩ := reading.transfer.exists_last
  exact (isBoundary_append_iff hlast hc).mp reading.ends

theorem foundAfter_iff {start : Start} {rest between : List Char} {operand : Operand} :
    FoundAfter start.blank rest between operand ↔ ∃ reading : Reading,
      reading.start = start ∧ reading.between = between ∧ reading.chars = start.chars ++ rest
        ∧ reading.transfer.operand = operand := by
  constructor
  · rintro ⟨right, rfl, hline, hbefore, hhere⟩
    obtain ⟨transfer, rest, rfl, hrest, rfl⟩ := transferHere?_eq_some_iff.mp hhere
    obtain ⟨c, cs, hhead, hc⟩ := transfer.exists_head rest
    obtain ⟨d, hlast, hd⟩ := transfer.exists_last
    refine ⟨⟨start, between, transfer, rest, hline, ?_, (isBoundary_append_iff hlast hd).mpr hrest⟩, rfl, rfl, rfl, rfl⟩
    rw [hhead, isBoundary_cons_iff hc, start.getLast?_append]
    exact hbefore
  · rintro ⟨reading, rfl, rfl, hchars, rfl⟩
    obtain ⟨c, cs, hhead, hc⟩ := reading.transfer.exists_head reading.rest
    have hbegins := reading.begins
    rw [hhead, isBoundary_cons_iff hc, reading.start.getLast?_append] at hbegins
    exact ⟨_, (List.append_cancel_left hchars).symm, reading.newline_not_mem, hbegins,
      transferHere?_append reading.transfer reading.stops_rest⟩

theorem isFirst_iff {reading : Reading} {rest : List Char} (h : reading.chars = reading.start.chars ++ rest) :
    reading.IsFirst ↔ ∀ other operand, FoundAfter reading.start.blank rest other operand →
      reading.between.length ≤ other.length := by
  constructor
  · intro hfirst other operand hfound
    obtain ⟨found, _, rfl, hchars, _⟩ := foundAfter_iff.mp hfound
    exact hfirst found (hchars.trans h.symm)
  · intro hleast other hother
    obtain ⟨hstart, _⟩ := Start.append_inj hother
    apply hleast other.between other.transfer.operand
    exact foundAfter_iff.mpr ⟨other, hstart, rfl, hother.trans h, rfl⟩

theorem readLine_eq_some_iff {line : String} {instruction : Instruction} :
    readLine line = some instruction ↔ ∃ reading : Reading, reading.chars = line.toList ∧ reading.IsFirst
      ∧ reading.transfer.isIndirect = false ∧ reading.instruction = instruction := by
  unfold readLine
  simp only [Option.bind_eq_bind, Option.bind_eq_some_iff]
  constructor
  · rintro ⟨⟨source, before, rest⟩, haddress, operand, htransfer, h⟩
    obtain ⟨start, hline, rfl, rfl⟩ := exists_of_address? haddress
    obtain ⟨between, hfound, hleast⟩ := transfer?_eq_some_iff.mp htransfer
    obtain ⟨reading, rfl, rfl, hchars, rfl⟩ := foundAfter_iff.mp hfound
    rw [Option.ite_none_left_eq_some, Bool.not_eq_true] at h
    obtain ⟨hdirect, heq⟩ := h
    refine ⟨reading, hchars.trans hline.symm, (isFirst_iff hchars).mpr hleast, hdirect, ?_⟩
    cases heq
    rfl
  · rintro ⟨reading, hline, hfirst, hdirect, rfl⟩
    have hfound : transfer? reading.start.blank (reading.between ++ (reading.transfer.chars ++ reading.rest))
        = some reading.transfer.operand := by
      rw [transfer?_eq_some_iff]
      exact ⟨reading.between, foundAfter_iff.mpr ⟨reading, rfl, rfl, rfl, rfl⟩, (isFirst_iff rfl).mp hfirst⟩
    have haddress := address?_append reading.start
      (reading.between ++ (reading.transfer.chars ++ reading.rest))
    refine ⟨_, (congrArg address? hline).symm.trans haddress, _, hfound, ?_⟩
    show (if reading.transfer.isIndirect then none else _) = _
    rw [hdirect]
    rfl

theorem Reading.eq_of_length_eq {reading other : Reading} (h : reading.chars = other.chars)
    (hlength : reading.between.length = other.between.length) : reading = other := by
  have hrest := reading.stops_rest
  have hrest' := other.stops_rest
  obtain ⟨start, between, transfer, rest, _, _, _⟩ := reading
  obtain ⟨start', between', transfer', rest', _, _, _⟩ := other
  obtain ⟨rfl, hafter⟩ := Start.append_inj h
  obtain ⟨rfl, hright⟩ := List.append_inj hafter hlength
  obtain ⟨rfl, rfl⟩ := Transfer.append_inj hrest hrest' hright
  rfl

theorem readLine_exact (line : String) :
    (∀ instruction, readLine line = some instruction ↔ ∃ reading : Reading, reading.chars = line.toList
        ∧ reading.IsFirst ∧ reading.transfer.isIndirect = false ∧ reading.instruction = instruction)
      ∧ ∀ reading other : Reading, reading.chars = line.toList → other.chars = line.toList →
        reading.start = other.start ∧ (reading.between.length = other.between.length → reading = other) := by
  refine ⟨fun _ => readLine_eq_some_iff, ?_⟩
  intro reading other hreading hother
  have hchars := hreading.trans hother.symm
  exact ⟨(Start.append_inj hchars).1, Reading.eq_of_length_eq hchars⟩

-- `callx` and `jg` have no target, `jge` begins like another mnemonic, and `call 3` comes too late.
def decoyLine : String :=
  "  4:\tcallx 5 jg\t jge  0x1f <call 3>"

theorem readLine_exact_decoyLine :
    readLine decoyLine = some ⟨4, 0x1f, true⟩
      ∧ ∃ reading : Reading, reading.chars = decoyLine.toList ∧ reading.IsFirst
        ∧ reading.instruction = ⟨4, 0x1f, true⟩
        ∧ ∀ other : Reading, other.chars = decoyLine.toList → reading.start = other.start := by
  have hline : readLine decoyLine = some ⟨4, 0x1f, true⟩ := by decide +kernel
  obtain ⟨hread, hunique⟩ := readLine_exact decoyLine
  obtain ⟨reading, hchars, hfirst, _, hinstruction⟩ := (hread _).mp hline
  refine ⟨hline, reading, hchars, hfirst, hinstruction, ?_⟩
  intro other hother
  exact (hunique reading other hchars hother).1

end Disassembly

end CallScope
