import CallScope.Survey.Basic
import CallScope.Text.Blank
import CallScope.Text.DecimalDigit

/-!
This module contains the reading of symbol listings. A listing names the program's entry point in its header
and has sections that begin with a heading. The rows of the section for `.symtab` are the symbols.
-/

namespace CallScope.SymbolListing

open CallScope.Text CallScope.Numeral

def entryLabel : List Char := "Entry point address:".toList

def sectionMark : List Char := ".symtab".toList

def hexNumber? : List Char → Option Nat
  | '0' :: 'x' :: cs =>
    match cs.takeWhile isHexDigit with
    | [] => none
    | digits => some (ofHexDigits digits)
  | _ => none

def entryHere? (cs : List Char) : Option Nat :=
  (entryLabel.isPrefixOf? cs).bind fun rest => hexNumber? (rest.dropWhile isBlank)

/--
Read the entry point at the first place in a line that gives one.
-/
def entryAddress? : List Char → Option Nat
  | [] => none
  | c :: cs => (entryHere? (c :: cs)).or (entryAddress? cs)

def isHeading : List Char → Bool
  | [] => false
  | c :: _ => 'A' ≤ c && c ≤ 'Z'

def hasPart (part : List Char) : List Char → Bool
  | [] => part.isEmpty
  | c :: cs => part.isPrefixOf (c :: cs) || hasPart part cs

/--
Read the next field of a row together with the white space that has to follow it.
-/
def field? (accepts : List Char → Bool) (cs : List Char) : Option (List Char × List Char) :=
  match cs.takeWhile (!isBlank ·), cs.dropWhile (!isBlank ·) with
  | [], _ => none
  | _, [] => none
  | field, rest => if accepts field then some (field, rest.dropWhile isBlank) else none

def isHexField (field : List Char) : Bool :=
  field.all isHexDigit

def isDecimalField (field : List Char) : Bool :=
  field.all isDecimalDigit

/--
Sizes are decimal or carry the mark `0x`.
-/
def isSizeField : List Char → Bool
  | '0' :: 'x' :: cs => cs ≠ [] && cs.all isHexDigit
  | field => isDecimalField field

/--
Skip the number of a row with its colon, and white space around them.
-/
def afterNumber? (cs : List Char) : Option (List Char) :=
  let cs := cs.dropWhile isBlank
  match cs.takeWhile isDecimalDigit, cs.dropWhile isDecimalDigit with
  | _ :: _, ':' :: rest => some (rest.dropWhile isBlank)
  | _, _ => none

/--
Read the address and the name in a row, which has a number, a value, a size, a type, a binding, a visibility, an
index and a name. Only rows with a numeric index count. The name ends with the line, and white space after it
is not part of it.
-/
def row? (line : List Char) : Option (Nat × List Char) := do
  let rest ← afterNumber? line
  let (value, rest) ← field? isHexField rest
  let (_, rest) ← field? isSizeField rest
  let (_, rest) ← field? (fun _ => true) rest
  let (_, rest) ← field? (fun _ => true) rest
  let (_, rest) ← field? (fun _ => true) rest
  let (_, rest) ← field? isDecimalField rest
  match dropEndWhile isBlank (rest.takeWhile (· ≠ '\n')) with
  | [] => none
  | name => return (ofHexDigits value, name)

/--
Read a line, knowing whether the section of symbols is open. The result tells whether it is open afterwards,
and what the line says. A line with the entry point opens and closes nothing.
-/
def readLine (inSymbols : Bool) (line : String) : Bool × Option SymbolFact :=
  let cs := line.toList
  match entryAddress? cs with
  | some address => (inSymbols, some (.entry address))
  | none =>
    if isHeading cs then (hasPart sectionMark cs, none)
    else if inSymbols then (true, (row? cs).map fun row => .symbol row.1 (String.ofList row.2))
    else (false, none)

def readLines (lines : List String) : List (Option SymbolFact) :=
  go false lines
where
  go (inSymbols : Bool) : List String → List (Option SymbolFact)
    | [] => []
    | line :: lines =>
      let read := readLine inSymbols line
      read.2 :: go read.1 lines

def facts (lines : List String) : List SymbolFact :=
  (readLines lines).filterMap id

def factFeed {ε : Type} (lines : Feed ε String) : Feed ε SymbolFact :=
  ⟨facts lines.items, lines.failure?⟩

end CallScope.SymbolListing
