import CallScope.Proofs.TransferPattern

/-!
This module contains lines of a disassembly as they are written, and the proof that a transfer in one of them is read
back. Neither the octets of an instruction nor a word before its mnemonic can be taken for a transfer, and nothing
behind the target has any influence.
-/

namespace CallScope

namespace Text

variable {c : Char}

theorem isAlphanum_iff : c.isAlphanum = true ↔
    (65 ≤ c.toNat ∧ c.toNat ≤ 90) ∨ (97 ≤ c.toNat ∧ c.toNat ≤ 122) ∨ (48 ≤ c.toNat ∧ c.toNat ≤ 57) := by
  delta Char.isAlphanum Char.isAlpha Char.isUpper Char.isLower Char.isDigit
  simp [UInt32.le_iff_toNat_le, ← Char.toNat_val, or_assoc]

theorem isWordCharacter_of_isAlphanum (c : Char) (h : c.isAlphanum = true) : isWordCharacter c = true := by
  have hcodes : ∀ code < 123, (65 ≤ code ∧ code ≤ 90) ∨ (97 ≤ code ∧ code ≤ 122) ∨ (48 ≤ code ∧ code ≤ 57) →
      CodeRange.holds wordRanges code = true := by decide
  rw [isAlphanum_iff] at h
  apply hcodes c.toNat _ h
  omega

theorem not_isBlank_of_isAlphanum (c : Char) (h : c.isAlphanum = true) : (!isBlank c) = true := by
  rw [isAlphanum_iff] at h
  rw [Bool.not_eq_true']
  apply isBlank_eq_false_of_visible <;> omega

theorem ne_newline_of_isWordCharacter (h : isWordCharacter c = true) : c ≠ '\n' := by
  rintro rfl
  revert h
  decide

theorem all_isBlank_replicate (count : Nat) : (List.replicate count ' ').all isBlank = true := by
  rw [List.all_replicate, show isBlank ' ' = true by decide, ite_self]

/--
One space or more, where `count` is the number of further ones.
-/
def spaceGap (count : Nat) : Gap where
  chars := List.replicate (count + 1) ' '
  ne_nil := List.replicate_succ_ne_nil
  all_accepts := all_isBlank_replicate (count + 1)

theorem stops_space (rest : List Char) : Stops (!isBlank ·) (' ' :: rest) := by
  exact stops_gap (spaceGap 0) rest

end Text

namespace Disassembly

open Text Numeral

section

variable {before c : Char} {cs rest : List Char}

theorem transfer?_congr {other : Char} (h : isWordCharacter before = isWordCharacter other) (cs : List Char) :
    transfer? before cs = transfer? other cs := by
  cases cs with
  | nil => rfl
  | cons c cs => rw [transfer?, transfer?, h]

theorem transfer?_cons_of_transferHere?_eq_none (hline : c ≠ '\n') (h : transferHere? (c :: cs) = none) :
    transfer? before (c :: cs) = transfer? c cs := by
  rw [transfer?, h, ite_self, Option.none_or, if_neg hline]

theorem transferHere?_cons_eq_none (h : isWordCharacter c = false) (cs : List Char) :
    transferHere? (c :: cs) = none := by
  rw [Option.eq_none_iff_forall_ne_some]
  intro operand hfound
  obtain ⟨transfer, rest, hchars, _⟩ := exists_of_transferHere? hfound
  obtain ⟨d, ds, hhead, hd⟩ := transfer.exists_head rest
  rw [hhead] at hchars
  cases hchars
  rw [h] at hd
  cases hd

theorem transfer?_cons_of_not_word (hline : c ≠ '\n') (h : isWordCharacter c = false) (cs : List Char) :
    transfer? before (c :: cs) = transfer? c cs := by
  exact transfer?_cons_of_transferHere?_eq_none hline (transferHere?_cons_eq_none h cs)

theorem transfer?_space_cons (cs : List Char) : transfer? before (' ' :: cs) = transfer? ' ' cs := by
  exact transfer?_cons_of_not_word (by decide) (by decide) cs

theorem transfer?_append_of_isWordCharacter (hcs : ∀ c ∈ cs, isWordCharacter c = true)
    (hbefore : isWordCharacter before = true) : transfer? before (cs ++ rest) = transfer? before rest := by
  induction cs generalizing before with
  | nil => rfl
  | cons c cs ih =>
    obtain ⟨hc, hcs⟩ := List.forall_mem_cons.mp hcs
    -- Inside a word nothing is tried, since the character before is part of it.
    rw [List.cons_append, transfer?, if_pos hbefore, Option.none_or, if_neg (ne_newline_of_isWordCharacter hc),
      ih hcs hc]
    apply transfer?_congr
    rw [hc, hbefore]

/--
A word at which no transfer begins is passed over, with the space behind it.
-/
theorem transfer?_word_append (word : Run isWordCharacter)
    (h : transferHere? (word.chars ++ ' ' :: rest) = none) :
    transfer? before (word.chars ++ ' ' :: rest) = transfer? ' ' rest := by
  have hword := word.accepts_of_mem
  obtain ⟨c, cs, hchars, hc⟩ := word.exists_cons
  rw [hchars] at hword h ⊢
  rw [List.cons_append] at h ⊢
  rw [transfer?_cons_of_transferHere?_eq_none (ne_newline_of_isWordCharacter hc) h,
    transfer?_append_of_isWordCharacter (List.forall_mem_cons.mp hword).2 hc, transfer?_space_cons]

theorem transfer?_alphanum_append (word : Run Char.isAlphanum) (h : word.chars ∉ mnemonics) (rest : List Char) :
    transfer? before (word.chars ++ ' ' :: rest) = transfer? ' ' rest := by
  apply transfer?_word_append (word.widen isWordCharacter_of_isAlphanum)
  show transferHere? (word.chars ++ ' ' :: rest) = none
  rw [transferHere?_word_append (fun c hc => not_isBlank_of_isAlphanum c (word.accepts_of_mem c hc)) (stops_space rest),
    if_neg h]

theorem hexDigits_not_mem_mnemonics (h : ∀ c ∈ cs, isHexDigit c = true) : cs ∉ mnemonics := by
  have hall : (mnemonics.all fun mnemonic => !mnemonic.all isHexDigit) = true := by decide +kernel
  intro hmem
  have hmnemonic := List.all_eq_true.mp hall cs hmem
  rw [List.all_eq_true.mpr h] at hmnemonic
  cases hmnemonic

theorem transferHere?_column_append (hcs : ∀ c ∈ cs, isHexDigit c = true ∨ c = ' ') (rest : List Char) :
    transferHere? (cs ++ '\t' :: rest) = none := by
  have hstops : Stops (!isBlank ·) (cs.dropWhile (!isBlank ·) ++ '\t' :: rest) := by
    cases hdrop : cs.dropWhile (!isBlank ·) with
    | nil => exact stops_cons (by decide) rest
    | cons c cs' =>
      have hc := stops_dropWhile (!isBlank ·) cs
      rw [hdrop] at hc
      exact hc
  -- What stands before the first white space is a word of digits, and no mnemonic is one.
  have hdigits : ∀ c ∈ cs.takeWhile (!isBlank ·), isHexDigit c = true := by
    intro c hc
    have hblank := List.mem_takeWhile_imp hc
    rcases hcs c (List.takeWhile_subset _ hc) with hdigit | rfl
    · exact hdigit
    · cases hblank
  rw [← List.takeWhile_append_dropWhile (p := (!isBlank ·)) (l := cs), List.append_assoc,
    transferHere?_word_append (fun _ => List.mem_takeWhile_imp) hstops, if_neg (hexDigits_not_mem_mnemonics hdigits)]

/--
In a column of hexadecimal digits and spaces no transfer begins.
-/
theorem transfer?_column_append (hcs : ∀ c ∈ cs, isHexDigit c = true ∨ c = ' ') (rest : List Char) :
    transfer? before (cs ++ '\t' :: rest) = transfer? '\t' rest := by
  induction cs generalizing before with
  | nil => exact transfer?_cons_of_not_word (by decide) (by decide) rest
  | cons c cs ih =>
    have hline : c ≠ '\n' := by
      rintro rfl
      revert hcs
      simp [isHexDigit]
    have hhere := transferHere?_column_append hcs rest
    rw [List.cons_append] at hhere ⊢
    rw [transfer?_cons_of_transferHere?_eq_none hline hhere]
    exact ih (List.forall_mem_cons.mp hcs).2

theorem transfer?_of_transferHere? {operand : Operand} (hbefore : isWordCharacter before = false)
    (h : transferHere? cs = some operand) : transfer? before cs = some operand := by
  cases cs with
  | nil =>
    rw [transferHere?_nil] at h
    cases h
  | cons c cs =>
    rw [transfer?, hbefore, h]
    rfl

end

/--
An octet in a listing, with the number of spaces before it.
-/
structure Octet where
  spaces : Nat
  high : Fin 16
  low : Fin 16

def Octet.chars (octet : Octet) : List Char :=
  List.replicate octet.spaces ' ' ++ [Nat.digitChar octet.high, Nat.digitChar octet.low]

theorem toNat_div_sixteen_lt (byte : UInt8) : byte.toNat / 16 < 16 := by
  have hlt := byte.toNat_lt
  omega

theorem toNat_mod_sixteen_lt (byte : UInt8) : byte.toNat % 16 < 16 := by
  omega

def Octet.ofByte (spaces : Nat) (byte : UInt8) : Octet where
  spaces := spaces
  high := ⟨byte.toNat / 16, toNat_div_sixteen_lt byte⟩
  low := ⟨byte.toNat % 16, toNat_mod_sixteen_lt byte⟩

/--
What stands before an instruction: its address and its octets.
-/
structure Location where
  indent : Nat
  padding : Nat
  address : Nat
  octets : List Octet
  spaces : Nat

theorem isBlank_tab : isBlank '\t' = true := by
  decide

namespace Location

def start (location : Location) : Start where
  indent := ⟨List.replicate location.indent ' ', all_isBlank_replicate location.indent⟩
  address := paddedHexDigits location.padding location.address
  blank := '\t'
  isBlank_blank := isBlank_tab

def column (location : Location) : List Char :=
  location.octets.flatMap Octet.chars ++ List.replicate location.spaces ' '

def chars (location : Location) : List Char :=
  location.start.chars ++ (location.column ++ ['\t'])

theorem isHexDigit_of_mem_column {location : Location} {c : Char} (h : c ∈ location.column) :
    isHexDigit c = true ∨ c = ' ' := by
  rcases List.mem_append.mp h with h | h
  · obtain ⟨octet, _, h⟩ := List.mem_flatMap.mp h
    rcases List.mem_append.mp h with h | h
    · exact .inr (List.eq_of_mem_replicate h)
    · rcases List.mem_pair.mp h with rfl | rfl
      · exact .inl (digitChar_of_lt octet.high octet.high.isLt).1
      · exact .inl (digitChar_of_lt octet.low octet.low.isLt).1
  · exact .inr (List.eq_of_mem_replicate h)

end Location

/--
Reading a line comes down to the search in what follows the octets.
-/
theorem readLine_location_append (location : Location) (rest : List Char) :
    readLine (String.ofList (location.chars ++ rest)) = (transfer? '\t' rest).bind fun operand =>
      if operand.isIndirect then none else some { source := location.address, target := operand.target } := by
  have hline : location.chars ++ rest = location.start.chars ++ (location.column ++ '\t' :: rest) := by
    simp [Location.chars]
  have hsource : ofHexDigits location.start.address.chars = location.address :=
    ofHexDigits_paddedHexDigits location.padding location.address
  unfold readLine
  rw [String.toList_ofList, hline, address?_append, hsource]
  simp only [Option.bind_eq_bind, Option.bind_some,
    transfer?_column_append fun c => Location.isHexDigit_of_mem_column]
  rfl

/--
A word before a mnemonic that changes what the instruction does.
-/
structure Modifier where
  word : Run Char.isAlphanum
  not_mem_mnemonics : word.chars ∉ mnemonics

/--
A line with a call or a jump to an address, as it is written.
-/
structure TransferLine where
  location : Location
  modifier? : Option Modifier
  mnemonic : List Char
  spaces : Nat
  isMarked : Bool
  padding : Nat
  target : Nat
  tail : List Char
  mem_mnemonics : mnemonic ∈ mnemonics
  ends : Stops isWordCharacter tail

namespace TransferLine

def transfer (line : TransferLine) (isIndirect : Bool) : Transfer where
  mnemonic := line.mnemonic
  gap := spaceGap line.spaces
  isIndirect := isIndirect
  isMarked := line.isMarked
  digits := paddedHexDigits line.padding line.target
  mem_mnemonics := line.mem_mnemonics

def chars (line : TransferLine) (isIndirect : Bool) : List Char :=
  line.location.chars ++ ((line.modifier?.elim [] fun modifier => modifier.word.chars ++ [' '])
    ++ ((line.transfer isIndirect).chars ++ line.tail))

theorem transfer?_chars (line : TransferLine) (isIndirect : Bool) :
    transfer? '\t' ((line.modifier?.elim [] fun modifier => modifier.word.chars ++ [' '])
      ++ ((line.transfer isIndirect).chars ++ line.tail)) = some ⟨line.target, isIndirect⟩ := by
  have htarget : (line.transfer isIndirect).operand = ⟨line.target, isIndirect⟩ := by
    rw [Transfer.operand]
    congr
    exact ofHexDigits_paddedHexDigits line.padding line.target
  have hhere := transferHere?_append (line.transfer isIndirect) line.ends
  rw [htarget] at hhere
  cases line.modifier? with
  | none => exact transfer?_of_transferHere? (by decide) hhere
  | some modifier =>
    show transfer? '\t' (modifier.word.chars ++ [' '] ++ _) = _
    rw [List.append_assoc, List.singleton_append, transfer?_alphanum_append modifier.word modifier.not_mem_mnemonics]
    exact transfer?_of_transferHere? (by decide) hhere

end TransferLine

theorem readLine_transferLine (line : TransferLine) :
    readLine (String.ofList (line.chars false)) = some ⟨line.location.address, line.target, true⟩
      ∧ readLine (String.ofList (line.chars true)) = none := by
  unfold TransferLine.chars
  rw [readLine_location_append, readLine_location_append, TransferLine.transfer?_chars, TransferLine.transfer?_chars]
  exact ⟨rfl, rfl⟩

-- The word before the mnemonic begins like another one, and both the symbol and the comment look like transfers.
def decoratedLine : TransferLine where
  location := ⟨2, 0, 0x401136, [.ofByte 0 0xca, .ofByte 1 0x11], 3⟩
  modifier? := some ⟨⟨"jex".toList, by decide, by decide⟩, by decide⟩
  mnemonic := "callq".toList
  spaces := 1
  isMarked := true
  padding := 0
  target := 0x401030
  tail := " <call 5> # jmp *7".toList
  mem_mnemonics := by decide
  ends := stops_iff.mpr (by decide)

theorem readLine_transferLine_decoratedLine :
    String.ofList (decoratedLine.chars false) = "  401136:\tca 11   \tjex callq  0x401030 <call 5> # jmp *7"
      ∧ readLine "  401136:\tca 11   \tjex callq  0x401030 <call 5> # jmp *7" = some ⟨0x401136, 0x401030, true⟩
      ∧ readLine "  401136:\tca 11   \tjex callq  *0x401030 <call 5> # jmp *7" = none := by
  have hdirect : String.ofList (decoratedLine.chars false)
      = "  401136:\tca 11   \tjex callq  0x401030 <call 5> # jmp *7" := by decide +kernel
  have hindirect : String.ofList (decoratedLine.chars true)
      = "  401136:\tca 11   \tjex callq  *0x401030 <call 5> # jmp *7" := by decide +kernel
  have hread := readLine_transferLine decoratedLine
  rw [hdirect, hindirect] at hread
  exact ⟨hdirect, hread⟩

end Disassembly

end CallScope
