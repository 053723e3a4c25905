import CallScope.Survey.Basic
import CallScope.Text.Blank
import CallScope.Text.WordCharacter

/-!
This module contains the reading of disassembly listings. A line gives an address, the octets there, and the
instruction that they are. Of interest are the calls and jumps that name their target.
-/

namespace CallScope.Disassembly

open CallScope.Text CallScope.Numeral

def mnemonics : List (List Char) :=
  ["callq", "call", "jmpq", "jmp", "jne", "je", "jge", "jg", "jle", "jl"].map String.toList

structure Operand where
  target : Nat
  isIndirect : Bool
  deriving DecidableEq, Repr

/--
Read a run of hexadecimal digits that no word character follows.
-/
def hexWord? (cs : List Char) : Option Nat :=
  match cs.takeWhile isHexDigit, cs.dropWhile isHexDigit with
  | [], _ => none
  | digits, [] => some (ofHexDigits digits)
  | digits, c :: _ => if isWordCharacter c then none else some (ofHexDigits digits)

def target? : List Char → Option Nat
  | '0' :: 'x' :: cs => hexWord? cs
  | cs => hexWord? cs

/--
Read a numeric operand. A star before it makes it indirect.
-/
def operand? : List Char → Option Operand
  | '*' :: cs => (target? cs).map (⟨·, true⟩)
  | cs => (target? cs).map (⟨·, false⟩)

def afterMnemonic? : List Char → Option Operand
  | [] => none
  | c :: cs => if isBlank c then operand? (cs.dropWhile isBlank) else none

def transferHere? (cs : List Char) : Option Operand :=
  mnemonics.findSome? fun mnemonic => (mnemonic.isPrefixOf? cs).bind afterMnemonic?

/--
Find the first transfer that begins a word before the line ends, where `before` is the character before the
text.
-/
def transfer? (before : Char) : List Char → Option Operand
  | [] => none
  | c :: cs =>
    let here := if isWordCharacter before then none else transferHere? (c :: cs)
    here.or (if c = '\n' then none else transfer? c cs)

/--
Read the address at the start of a line. The result holds the white space after its colon, which is one
character, and the rest of the line as well.
-/
def address? (line : List Char) : Option (Nat × Char × List Char) :=
  let cs := line.dropWhile isBlank
  match cs.takeWhile isHexDigit, cs.dropWhile isHexDigit with
  | digit :: digits, ':' :: c :: rest =>
    if isBlank c then some (ofHexDigits (digit :: digits), c, rest) else none
  | _, _ => none

def readLine (line : String) : Option Instruction := do
  let (source, before, rest) ← address? line.toList
  let operand ← transfer? before rest
  if operand.isIndirect then none else return { source, target := operand.target }

def instructions (lines : List String) : List Instruction :=
  lines.filterMap readLine

def instructionFeed {ε : Type} (lines : Feed ε String) : Feed ε Instruction :=
  ⟨instructions lines.items, lines.failure?⟩

end CallScope.Disassembly
