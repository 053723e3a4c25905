import CallScope.Numeral.Positional
import CallScope.Text.Blank
import CallScope.Text.DecimalDigit

/-!
This module contains the reading of integer literals as people write them: an optional sign, then a decimal
numeral or one with a base mark (`0x`, `0o`, `0b`), with single underscores between digits. Decimal digits
of every script stand for their values.
-/

namespace CallScope.Numeral

open CallScope.Text

/--
The number of digits beyond which a decimal numeral is neither read nor written.
-/
def maxDecimalDigits : Nat := 4300

/--
The value of a digit, which is a decimal digit of any script or a letter of either case.
-/
def digitValue? (c : Char) : Option Nat :=
  match decimalValue? c with
  | some value => some value
  | none =>
    if 'a' ≤ c ∧ c ≤ 'z' then some (c.toNat - 'a'.toNat + 10)
    else if 'A' ≤ c ∧ c ≤ 'Z' then some (c.toNat - 'A'.toNat + 10)
    else none

def digitOf? (base : Nat) (c : Char) : Option Nat :=
  (digitValue? c).filter (· < base)

/--
Read a whole text as digits of a base. A single underscore may stand between two digits.
-/
def digits? (base : Nat) : List Char → Option (List Nat)
  | [] => none
  | [c] => (digitOf? base c).map ([·])
  | c :: '_' :: cs => do
    let digit ← digitOf? base c
    return digit :: (← digits? base cs)
  | c :: cs => do
    let digit ← digitOf? base c
    return digit :: (← digits? base cs)

def markedBase? : Char → Option Nat
  | 'x' | 'X' => some 16
  | 'o' | 'O' => some 8
  | 'b' | 'B' => some 2
  | _ => none

/--
Read a decimal numeral. It has no leading zero unless all its digits are zero.
-/
def decimal? (cs : List Char) : Option Nat := do
  let digits ← digits? 10 cs
  if digits.length ≤ maxDecimalDigits ∧ (digits.head? ≠ some 0 ∨ digits.all (· = 0)) then
    return ofDigits 10 digits
  else
    none

/--
Read what follows a base mark: digits, which one underscore may precede.
-/
def marked? (base : Nat) : List Char → Option Nat
  | '_' :: cs => (digits? base cs).map (ofDigits base)
  | cs => (digits? base cs).map (ofDigits base)

def magnitude? : List Char → Option Nat
  | zero :: mark :: cs =>
    match decimalValue? zero, markedBase? mark with
    | some 0, some base => marked? base cs
    | _, _ => decimal? (zero :: mark :: cs)
  | cs => decimal? cs

/--
Read an integer literal. White space around it does not count.
-/
def literal? (text : String) : Option Int :=
  match trim isMargin text.toList with
  | '-' :: cs => (magnitude? cs).map fun n => -(n : Int)
  | '+' :: cs => (magnitude? cs).map fun n => (n : Int)
  | cs => (magnitude? cs).map fun n => (n : Int)

end CallScope.Numeral
