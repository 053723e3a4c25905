import CallScope.Proofs.TransferLayout

/-!
This module contains lines of a disassembly whose instruction is not a transfer to a written address, and the proof of
what is read of them. They give an instruction exactly if the name of a symbol that the line ends with, which can be any
text, holds a transfer itself.
-/

namespace CallScope.Disassembly

open Text Numeral

/--
What a line ends with: nothing, a symbol, or a comment with an address and its symbol.
-/
inductive Remark where
  | none
  | symbol (gap : Nat) (text : List Char)
  | comment (gap : Nat) (address : Run isHexDigit) (text : List Char)

namespace Remark

def text : Remark → List Char
  | none => []
  | symbol _ text => text
  | comment _ _ text => text

def chars : Remark → List Char
  | none => []
  | symbol gap text => (spaceGap gap).chars ++ '<' :: (text ++ ['>'])
  | comment gap address text =>
    (spaceGap gap).chars ++ '#' :: ' ' :: (address.chars ++ ' ' :: '<' :: (text ++ ['>']))

end Remark

/--
A line with an instruction as it is written, which may be of any kind.
-/
structure InstructionLine where
  location : Location
  mnemonic : Run Char.isAlphanum
  gap : Nat
  operand : Word
  remark : Remark

namespace InstructionLine

def instructionChars (line : InstructionLine) : List Char :=
  line.mnemonic.chars ++ ((spaceGap line.gap).chars ++ (line.operand.chars ++ line.remark.chars))

def chars (line : InstructionLine) : List Char :=
  line.location.chars ++ line.instructionChars

/--
The operand is a number behind a star.
-/
def NamesNumber (line : InstructionLine) : Prop :=
  ∃ (isMarked : Bool) (digits : Run isHexDigit) (after : List Char),
    line.operand.chars = '*' :: (mark isMarked ++ (digits.chars ++ after)) ∧ Stops isWordCharacter after

end InstructionLine

/--
A text with a transfer in it, at a place where a word begins on its first line.
-/
structure Mention where
  before : List Char
  transfer : Transfer
  after : List Char
  newline_not_mem : '\n' ∉ before
  begins : IsBoundary before (transfer.chars ++ after)
  ends : IsBoundary (before ++ transfer.chars) after

namespace Mention

def chars (mention : Mention) : List Char :=
  mention.before ++ (mention.transfer.chars ++ mention.after)

/--
No transfer stands further to the left.
-/
def IsFirst (mention : Mention) : Prop :=
  ∀ other : Mention, other.chars = mention.chars → mention.before.length ≤ other.before.length

end Mention

section

variable {before : Char} {cs rest : List Char}

theorem transfer?_spaces_append (count : Nat) (rest : List Char) :
    transfer? ' ' (List.replicate count ' ' ++ rest) = transfer? ' ' rest := by
  induction count with
  | zero => rfl
  | succ count ih => rw [List.replicate_succ, List.cons_append, transfer?_space_cons, ih]

theorem transfer?_spaceGap_append (count : Nat) (rest : List Char) :
    transfer? before ((spaceGap count).chars ++ rest) = transfer? ' ' rest := by
  show transfer? before (' ' :: (List.replicate count ' ' ++ rest)) = _
  rw [transfer?_space_cons, transfer?_spaces_append]

/--
Text without white space is passed over if nothing behind it can be the operand of a transfer.
-/
theorem transfer?_append_of_afterMnemonic? (hcs : ∀ c ∈ cs, (!isBlank c) = true) (hstops : Stops (!isBlank ·) rest)
    (hafter : afterMnemonic? rest = none) : transfer? before (cs ++ rest) = transfer? (cs.getLastD before) rest := by
  induction cs generalizing before with
  | nil => rfl
  | cons c cs ih =>
    have hline : c ≠ '\n' := by
      rintro rfl
      revert hcs
      simp [show isBlank '\n' = true by decide]
    -- A mnemonic would have to reach as far as the white space, behind which there is no operand.
    have hhere : transferHere? (c :: (cs ++ rest)) = none := by
      rw [← List.cons_append, transferHere?_word_append hcs hstops, hafter, ite_self]
    rw [List.cons_append, transfer?_cons_of_transferHere?_eq_none hline hhere, ih (List.forall_mem_cons.mp hcs).2,
      List.getLastD_cons]

theorem not_isBlank_of_mem_mark {isMarked : Bool} {c : Char} (h : c ∈ mark isMarked) : (!isBlank c) = true := by
  cases isMarked with
  | false => cases h
  | true =>
    rcases List.mem_pair.mp h with rfl | rfl
    · decide
    · decide

theorem operand?_eq_none {c : Char} (hdigit : isHexDigit c = false) (hstar : c ≠ '*') (cs : List Char) :
    operand? (c :: cs) = none := by
  have hword : hexWord? (c :: cs) = none := by
    simp [hexWord?, hdigit]
  have htarget : target? (c :: cs) = none := by
    unfold target?
    split
    · next h =>
      cases h
      cases hdigit
    · exact hword
  unfold operand?
  split
  · next h =>
    cases h
    exact absurd rfl hstar
  · rw [htarget]
    rfl

end

namespace Remark

theorem stops_chars (remark : Remark) : Stops (!isBlank ·) remark.chars := by
  cases remark with
  | none => simp [Stops, chars]
  | symbol gap text => exact stops_gap (spaceGap gap) _
  | comment gap address text => exact stops_gap (spaceGap gap) _

theorem stops_isWordCharacter (remark : Remark) : Stops isWordCharacter remark.chars := by
  cases remark with
  | none => simp [Stops, chars]
  | symbol gap text => exact stops_cons (by decide) _
  | comment gap address text => exact stops_cons (by decide) _

theorem afterMnemonic?_chars (remark : Remark) : afterMnemonic? remark.chars = Option.none := by
  cases remark with
  | none => rfl
  | symbol gap text =>
    unfold chars
    rw [afterMnemonic?_append (spaceGap gap) (stops_cons (by decide) _)]
    exact operand?_eq_none (by decide) (by decide) _
  | comment gap address text =>
    unfold chars
    rw [afterMnemonic?_append (spaceGap gap) (stops_cons (by decide) _)]
    exact operand?_eq_none (by decide) (by decide) _

/--
Of a remark only the text of its symbol is searched.
-/
theorem transfer?_chars (remark : Remark) (before : Char) :
    transfer? before remark.chars = transfer? '<' (remark.text ++ ['>']) := by
  have hopen : ∀ before text, transfer? before ('<' :: text) = transfer? '<' text := by
    intro before text
    exact transfer?_cons_of_not_word (by decide) (by decide) text
  cases remark with
  | none =>
    show Option.none = transfer? '<' ['>']
    decide +kernel
  | symbol gap text =>
    show transfer? before ((spaceGap gap).chars ++ _) = _
    rw [transfer?_spaceGap_append, hopen]
    rfl
  | comment gap address text =>
    have haddress : transferHere? (address.chars ++ ' ' :: '<' :: (text ++ ['>'])) = Option.none := by
      rw [transferHere?_word_append (fun c hc => not_isBlank_of_isHexDigit c (address.accepts_of_mem c hc))
        (stops_space _), if_neg (hexDigits_not_mem_mnemonics address.accepts_of_mem)]
    have hword : transfer? ' ' (address.chars ++ ' ' :: '<' :: (text ++ ['>']))
        = transfer? ' ' ('<' :: (text ++ ['>'])) :=
      transfer?_word_append (address.widen fun _ => isWordCharacter_of_isHexDigit) haddress
    show transfer? before ((spaceGap gap).chars ++ '#' :: ' ' :: (address.chars ++ _)) = _
    rw [transfer?_spaceGap_append, transfer?_cons_of_not_word (by decide) (by decide), transfer?_space_cons]
    exact hword.trans (hopen ' ' _)

end Remark

section

variable {text between : List Char} {operand : Operand}

theorem getLast?_cons_any {c : Char} (h : isWordCharacter c = false) (cs : List Char) :
    (c :: cs).getLast?.any isWordCharacter = cs.getLast?.any isWordCharacter := by
  cases cs with
  | nil => simp [h]
  | cons d cs => rw [List.getLast?_cons_cons]

/--
A transfer does not reach the bracket that closes a symbol.
-/
theorem exists_after {transfer : Transfer} {rest : List Char} (hrest : Stops isWordCharacter rest)
    (h : text ++ ['>'] = between ++ (transfer.chars ++ rest)) :
    ∃ after, text = between ++ (transfer.chars ++ after) ∧ Stops isWordCharacter after := by
  rcases List.eq_nil_or_concat rest with rfl | ⟨after, last, rfl⟩
  · -- Otherwise the bracket would be the last digit of the target.
    obtain ⟨c, hlast, hc⟩ := transfer.exists_last
    have heq := congrArg List.getLast? h
    rw [List.append_nil, List.getLast?_concat, List.getLast?_append, hlast, Option.some_or] at heq
    cases heq
    exact absurd hc (by decide)
  · rw [List.concat_eq_append] at h hrest
    rw [← List.append_assoc, ← List.append_assoc] at h
    refine ⟨after, ?_, stops_of_append hrest⟩
    rw [(List.append_inj' h rfl).1, List.append_assoc]

theorem foundAfter_symbol_iff : FoundAfter '<' (text ++ ['>']) between operand ↔ ∃ mention : Mention,
    mention.chars = text ∧ mention.before = between ∧ mention.transfer.operand = operand := by
  have hopen : isWordCharacter '<' = false := by decide
  constructor
  · rintro ⟨right, htext, hline, hbefore, hhere⟩
    obtain ⟨transfer, rest, rfl, hrest, rfl⟩ := transferHere?_eq_some_iff.mp hhere
    obtain ⟨after, rfl, hafter⟩ := exists_after hrest htext
    obtain ⟨c, cs, hhead, hc⟩ := transfer.exists_head after
    obtain ⟨d, hlast, hd⟩ := transfer.exists_last
    refine ⟨⟨between, transfer, after, hline, ?_, (isBoundary_append_iff hlast hd).mpr hafter⟩, rfl, rfl, rfl⟩
    rw [hhead, isBoundary_cons_iff hc, ← getLast?_cons_any hopen]
    exact hbefore
  · rintro ⟨mention, rfl, rfl, rfl⟩
    obtain ⟨c, cs, hhead, hc⟩ := mention.transfer.exists_head mention.after
    obtain ⟨d, hlast, hd⟩ := mention.transfer.exists_last
    have hbegins := mention.begins
    rw [hhead, isBoundary_cons_iff hc, ← getLast?_cons_any hopen] at hbegins
    have hafter : Stops isWordCharacter (mention.after ++ ['>']) :=
      stops_append ((isBoundary_append_iff hlast hd).mp mention.ends) (stops_cons (by decide) [])
    refine ⟨mention.transfer.chars ++ (mention.after ++ ['>']), ?_, mention.newline_not_mem, hbegins,
      transferHere?_append mention.transfer hafter⟩
    simp [Mention.chars]

theorem transfer?_symbol_eq_some_iff : transfer? '<' (text ++ ['>']) = some operand ↔ ∃ mention : Mention,
    mention.chars = text ∧ mention.IsFirst ∧ mention.transfer.operand = operand := by
  rw [transfer?_eq_some_iff]
  constructor
  · rintro ⟨between, hfound, hleast⟩
    obtain ⟨mention, rfl, rfl, rfl⟩ := foundAfter_symbol_iff.mp hfound
    refine ⟨mention, rfl, ?_, rfl⟩
    intro other hother
    exact hleast other.before other.transfer.operand (foundAfter_symbol_iff.mpr ⟨other, hother, rfl, rfl⟩)
  · rintro ⟨mention, rfl, hfirst, rfl⟩
    refine ⟨mention.before, foundAfter_symbol_iff.mpr ⟨mention, rfl, rfl, rfl⟩, ?_⟩
    intro other operand hother
    obtain ⟨found, hchars, rfl, _⟩ := foundAfter_symbol_iff.mp hother
    exact hfirst found hchars

end

namespace InstructionLine

variable {line : InstructionLine}

theorem transfer?_operand_append (line : InstructionLine) (before : Char) :
    transfer? before (line.operand.chars ++ line.remark.chars) = transfer? '<' (line.remark.text ++ ['>']) := by
  rw [transfer?_append_of_afterMnemonic? line.operand.accepts_of_mem line.remark.stops_chars
    line.remark.afterMnemonic?_chars, Remark.transfer?_chars]

/--
If no transfer begins at the mnemonic, then only the text of the symbol is searched.
-/
theorem transfer?_instructionChars (h : transferHere? line.instructionChars = none) :
    transfer? '\t' line.instructionChars = transfer? '<' (line.remark.text ++ ['>']) := by
  calc transfer? '\t' line.instructionChars
      = transfer? ' ' (List.replicate line.gap ' ' ++ (line.operand.chars ++ line.remark.chars)) :=
        transfer?_word_append (line.mnemonic.widen isWordCharacter_of_isAlphanum) h
    _ = transfer? ' ' (line.operand.chars ++ line.remark.chars) := transfer?_spaces_append line.gap _
    _ = transfer? '<' (line.remark.text ++ ['>']) := line.transfer?_operand_append ' '

theorem transferHere?_instructionChars (line : InstructionLine) :
    transferHere? line.instructionChars
      = if line.mnemonic.chars ∈ mnemonics then operand? (line.operand.chars ++ line.remark.chars) else none := by
  have hmnemonic : ∀ c ∈ line.mnemonic.chars, (!isBlank c) = true := by
    intro c hc
    exact not_isBlank_of_isAlphanum c (line.mnemonic.accepts_of_mem c hc)
  unfold instructionChars
  rw [transferHere?_word_append hmnemonic (stops_gap _ _), afterMnemonic?_append]
  exact SymbolListing.noBlankHead_append line.operand line.remark.chars

theorem transferHere?_of_namesNumber (hmnemonic : line.mnemonic.chars ∈ mnemonics) (h : line.NamesNumber) :
    ∃ target, transferHere? line.instructionChars = some ⟨target, true⟩ := by
  obtain ⟨isMarked, digits, after, hoperand, hafter⟩ := h
  have hrest : Stops isWordCharacter (after ++ line.remark.chars) :=
    stops_append hafter line.remark.stops_isWordCharacter
  refine ⟨ofHexDigits digits.chars, ?_⟩
  rw [transferHere?_instructionChars, if_pos hmnemonic, hoperand]
  have hread := operand?_append true isMarked digits hrest
  simpa [star] using hread

theorem exists_after_number {isMarked : Bool} {digits : Run isHexDigit} {cs rest : List Char}
    (hrest : Stops isWordCharacter rest) (h : cs ++ line.remark.chars = mark isMarked ++ (digits.chars ++ rest)) :
    ∃ after, cs = mark isMarked ++ (digits.chars ++ after) ∧ Stops isWordCharacter after := by
  have hnumber : ∀ c ∈ mark isMarked ++ digits.chars, (!isBlank c) = true := by
    intro c hc
    rcases List.mem_append.mp hc with hc | hc
    · exact not_isBlank_of_mem_mark hc
    · exact not_isBlank_of_isHexDigit c (digits.accepts_of_mem c hc)
  rw [← List.append_assoc] at h
  rcases List.append_eq_append_iff.mp h with ⟨between, hcs, hremark⟩ | ⟨after, hcs, rfl⟩
  · -- The number cannot go on in the remark, which begins with white space.
    cases between with
    | nil =>
      refine ⟨[], ?_, by simp [Stops]⟩
      simpa using hcs.symm
    | cons c between =>
      have hc := hnumber c (by simp [hcs])
      have hblank : (!isBlank c) = false := line.remark.stops_chars c (by simp [hremark])
      rw [hc] at hblank
      cases hblank
  · refine ⟨after, ?_, stops_of_append hrest⟩
    rw [hcs, List.append_assoc]

theorem transferHere?_eq_none (h : line.mnemonic.chars ∉ mnemonics ∨ line.operand.chars.head? = some '*')
    (hnumber : ¬(line.mnemonic.chars ∈ mnemonics ∧ line.NamesNumber)) : transferHere? line.instructionChars = none := by
  rw [transferHere?_instructionChars]
  split
  · next hmnemonic =>
    obtain ⟨cs, hoperand⟩ := List.head?_eq_some_iff.mp (h.resolve_left (not_not_intro hmnemonic))
    cases htarget : target? (cs ++ line.remark.chars) with
    | none =>
      rw [hoperand]
      show (target? (cs ++ line.remark.chars)).map _ = none
      rw [htarget]
      rfl
    | some target =>
      obtain ⟨isMarked, digits, rest, hnumber', hrest, _⟩ := exists_of_target? htarget
      obtain ⟨after, rfl, hafter⟩ := exists_after_number hrest hnumber'
      exact absurd ⟨hmnemonic, isMarked, digits, after, hoperand, hafter⟩ hnumber
  · rfl

theorem readLine_chars (line : InstructionLine) :
    readLine (String.ofList line.chars) = (transfer? '\t' line.instructionChars).bind fun operand =>
      if operand.isIndirect then none else some { source := line.location.address, target := operand.target } := by
  exact readLine_location_append line.location line.instructionChars

theorem readLine_of_namesNumber (hmnemonic : line.mnemonic.chars ∈ mnemonics) (h : line.NamesNumber) :
    readLine (String.ofList line.chars) = none := by
  obtain ⟨target, hhere⟩ := transferHere?_of_namesNumber hmnemonic h
  rw [readLine_chars, transfer?_of_transferHere? (by decide) hhere]
  rfl

theorem readLine_eq_none_iff_of_transferHere? (h : transferHere? line.instructionChars = none) :
    readLine (String.ofList line.chars) = none
      ↔ ∀ mention : Mention, mention.chars = line.remark.text → mention.IsFirst →
        mention.transfer.isIndirect = true := by
  rw [readLine_chars, transfer?_instructionChars h]
  constructor
  · intro hnone mention hchars hfirst
    rw [transfer?_symbol_eq_some_iff.mpr ⟨mention, hchars, hfirst, rfl⟩, Option.bind_some,
      Transfer.operand_isIndirect] at hnone
    by_contra hdirect
    rw [if_neg hdirect] at hnone
    cases hnone
  · intro hindirect
    cases hfound : transfer? '<' (line.remark.text ++ ['>']) with
    | none => rfl
    | some operand =>
      obtain ⟨mention, hchars, hfirst, rfl⟩ := transfer?_symbol_eq_some_iff.mp hfound
      rw [Option.bind_some, Transfer.operand_isIndirect, if_pos (hindirect mention hchars hfirst)]

end InstructionLine

theorem Mention.exists_isBlank (mention : Mention) : ∃ c ∈ mention.chars, isBlank c = true := by
  obtain ⟨c, cs, hgap, hc⟩ := mention.transfer.gap.exists_cons
  refine ⟨c, ?_, hc⟩
  simp [chars, Transfer.chars, hgap]

theorem readLine_instructionLine {line : InstructionLine}
    (h : line.mnemonic.chars ∉ mnemonics ∨ line.operand.chars.head? = some '*') :
    (readLine (String.ofList line.chars) = none
        ↔ (line.mnemonic.chars ∈ mnemonics ∧ line.NamesNumber)
          ∨ ∀ mention : Mention, mention.chars = line.remark.text → mention.IsFirst →
            mention.transfer.isIndirect = true)
      ∧ ((∀ c ∈ line.remark.text, isBlank c = false) → readLine (String.ofList line.chars) = none) := by
  by_cases hnumber : line.mnemonic.chars ∈ mnemonics ∧ line.NamesNumber
  · have hnone := InstructionLine.readLine_of_namesNumber hnumber.1 hnumber.2
    exact ⟨⟨fun _ => .inl hnumber, fun _ => hnone⟩, fun _ => hnone⟩
  · have hhere := InstructionLine.transferHere?_eq_none h hnumber
    have hread := InstructionLine.readLine_eq_none_iff_of_transferHere? hhere
    rw [or_iff_right hnumber]
    refine ⟨hread, ?_⟩
    intro htext
    rw [hread]
    intro mention hchars _
    obtain ⟨c, hmem, hc⟩ := mention.exists_isBlank
    rw [htext c (hchars ▸ hmem)] at hc
    cases hc

/--
A jump through a register, on a line that ends with some symbol.
-/
def registerJump (text : List Char) : InstructionLine where
  location := ⟨0, 0, 0x401130, [.ofByte 0 0xff, .ofByte 1 0xe0], 0⟩
  mnemonic := ⟨"jmp".toList, by decide, by decide⟩
  gap := 3
  operand := ⟨"*%rax".toList, by decide, by decide⟩
  remark := .symbol 0 text

theorem readLine_instructionLine_registerJump :
    (registerJump "call+0x5".toList).operand.chars.head? = some '*'
      ∧ String.ofList (registerJump "call+0x5".toList).chars = "401130:\tff e0\tjmp    *%rax <call+0x5>"
      ∧ readLine "401130:\tff e0\tjmp    *%rax <call+0x5>" = none := by
  have hoperand : (registerJump "call+0x5".toList).operand.chars.head? = some '*' := by decide
  have hline : String.ofList (registerJump "call+0x5".toList).chars = "401130:\tff e0\tjmp    *%rax <call+0x5>" := by
    decide +kernel
  have hword : (registerJump "call+0x5".toList).remark.text.all (!isBlank ·) = true := by decide +kernel
  have htext : ∀ c ∈ (registerJump "call+0x5".toList).remark.text, isBlank c = false := by
    intro c hc
    simpa only [Bool.not_eq_true'] using List.all_eq_true.mp hword c hc
  have hread := (readLine_instructionLine (.inr hoperand)).2 htext
  rw [hline] at hread
  exact ⟨hoperand, hline, hread⟩

/--
An instruction that is no transfer, with a comment on a symbol whose name looks like one.
-/
def misleadingLine : InstructionLine where
  location := ⟨0, 0, 0x401126, [.ofByte 0 0x48, .ofByte 1 0x8d], 0⟩
  mnemonic := ⟨"lea".toList, by decide, by decide⟩
  gap := 3
  operand := ⟨"0x2ee3(%rip),%rax".toList, by decide, by decide⟩
  remark := .comment 7 ⟨"404010".toList, by decide, by decide⟩ "call 5".toList

theorem readLine_misleadingLine :
    misleadingLine.mnemonic.chars ∉ mnemonics
      ∧ String.ofList misleadingLine.chars = "401126:\t48 8d\tlea    0x2ee3(%rip),%rax        # 404010 <call 5>"
      ∧ readLine (String.ofList misleadingLine.chars) = some ⟨0x401126, 5, true⟩
      ∧ readLine (String.ofList (registerJump "call 5".toList).chars) = some ⟨0x401130, 5, true⟩ := by
  decide +kernel

end CallScope.Disassembly
