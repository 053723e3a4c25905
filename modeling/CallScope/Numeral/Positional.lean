/-!
This module contains positional numerals: the values of digit sequences, and the decimal and hexadecimal
texts of integers.
-/

namespace CallScope.Numeral

/--
The number that digits in a base stand for, the first digit weighing most.
-/
def ofDigits (base : Nat) (digits : List Nat) : Nat :=
  digits.foldl (fun value digit => value * base + digit) 0

/--
Hexadecimal digits as listings write them, in lower case only.
-/
def isHexDigit (c : Char) : Bool :=
  ('0' ≤ c && c ≤ '9') || ('a' ≤ c && c ≤ 'f')

def hexDigitValue (c : Char) : Nat :=
  if c ≤ '9' then c.toNat - '0'.toNat else c.toNat - 'a'.toNat + 10

def ofHexDigits (cs : List Char) : Nat :=
  ofDigits 16 (cs.map hexDigitValue)

def hexDigits (n : Nat) : List Char :=
  Nat.toDigits 16 n

def decimalText (n : Int) : String :=
  (if n < 0 then "-" else "") ++ String.ofList (Nat.toDigits 10 n.natAbs)

/--
Write an integer in hexadecimal: a sign if it is negative, `0x`, and the digits without leading zeros.
-/
def hexText (n : Int) : String :=
  (if n < 0 then "-" else "") ++ "0x" ++ String.ofList (hexDigits n.natAbs)

end CallScope.Numeral
