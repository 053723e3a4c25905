import CallScope.Numeral.Positional

/-!
This module contains the binary numbers of 64 bits: the number nearest to a decimal, and the text of a number,
which has the fewest digits that are read as that number again. All of it is computed with natural numbers.
-/

namespace CallScope.Numeral

structure Fraction where
  numerator : Nat
  denominator : Nat
  deriving DecidableEq, Repr

namespace Fraction

def scale (x : Fraction) (base : Nat) (exponent : Int) : Fraction :=
  ⟨x.numerator * Nat.pow base (-exponent).toNat, x.denominator * Nat.pow base exponent.toNat⟩

def floor (x : Fraction) : Nat :=
  x.numerator / x.denominator

/--
The natural number nearest to a fraction. A half goes to the even neighbour.
-/
def round (x : Fraction) : Nat :=
  let rest := 2 * (x.numerator % x.denominator)
  if rest < x.denominator ∨ (rest = x.denominator ∧ x.floor % 2 = 0) then x.floor else x.floor + 1

/--
How many digits of a positive fraction stand before its decimal point. Every zero between the point and the
first other digit counts as one less than none.
-/
def point (x : Fraction) : Int :=
  if x.denominator ≤ x.numerator then (Nat.toDigits 10 x.floor).length
  else 1 - (Nat.toDigits 10 ((x.denominator - 1) / x.numerator)).length

end Fraction

/--
A number `mantissa * 2 ^ exponent` with a sign, or what lies beyond all of these.
-/
inductive Binary64 where
  | finite (negative : Bool) (mantissa : Nat) (exponent : Int)
  | infinite (negative : Bool)
  deriving DecidableEq, Repr

namespace Binary64

def mantissaBound : Nat := Nat.pow 2 53

def minExponent : Int := -1074

def maxExponent : Int := 971

/--
The least exponent at which the mantissa of a fraction stays below the bound.
-/
def exponentOf (x : Fraction) : Int :=
  let exponent := max ((x.numerator.log2 : Int) - x.denominator.log2 - 53) minExponent
  if x.numerator = 0 then minExponent
  else if (x.scale 2 exponent).floor < mantissaBound then exponent
  else exponent + 1

def ofFraction (negative : Bool) (x : Fraction) : Binary64 :=
  let exponent := exponentOf x
  let mantissa := (x.scale 2 exponent).round
  let (mantissa, exponent) :=
    if mantissa = mantissaBound then (mantissa / 2, exponent + 1) else (mantissa, exponent)
  if exponent ≤ maxExponent then .finite negative mantissa exponent else .infinite negative

def ofDecimal (negative : Bool) (digits : Nat) (exponent : Int) : Binary64 :=
  ofFraction negative (Fraction.scale ⟨digits, 1⟩ 10 (-exponent))

/--
The multiple of `10 ^ exponent` next to a fraction that is read as a given number, if there is one. Of two such
multiples it is the nearer one.
-/
def neighbour? (number : Binary64) (x : Fraction) (exponent : Int) : Option Nat :=
  let x := x.scale 10 exponent
  [x.round, x.floor, x.floor + 1].find? (ofDecimal false · exponent = number)

/--
The digits of the shortest decimal that is read as `mantissa * 2 ^ exponent`, and how many of them stand before
the point. No number needs more than 17 digits.
-/
def shortest (mantissa : Nat) (exponent : Int) : List Char × Int :=
  let x := Fraction.scale ⟨mantissa, 1⟩ 2 (-exponent)
  let found? := (List.range' 1 17).findSome? fun (count : Nat) =>
    (neighbour? (.finite false mantissa exponent) x (x.point - count)).map ((·, x.point - count))
  let (number, place) := found?.getD (x.numerator * Nat.pow 5 (-exponent).toNat, min exponent 0)
  let digits := Nat.toDigits 10 number
  ((digits.reverse.dropWhile (· = '0')).reverse, digits.length + place)

/--
Write digits with a point, or with a power of ten if that needs many zeros.
-/
def layout (digits : List Char) (point : Int) : List Char :=
  if point ≤ -4 ∨ 16 < point then
    let power := Nat.toDigits 10 (point - 1).natAbs
    digits.take 1 ++ (if digits.length = 1 then [] else '.' :: digits.drop 1)
      ++ ['e', if point ≤ 0 then '-' else '+'] ++ List.replicate (2 - power.length) '0' ++ power
  else if point ≤ 0 then
    ['0', '.'] ++ List.replicate (-point).toNat '0' ++ digits
  else if digits.length ≤ point then
    digits ++ List.replicate (point.toNat - digits.length) '0' ++ ['.', '0']
  else
    digits.take point.toNat ++ '.' :: digits.drop point.toNat

def sign (negative : Bool) : String :=
  if negative then "-" else ""

def text : Binary64 → String
  | .infinite negative => sign negative ++ "Infinity"
  | .finite negative mantissa exponent =>
    sign negative ++
      if mantissa = 0 then "0.0"
      else
        let (digits, point) := shortest mantissa exponent
        String.ofList (layout digits point)

end Binary64

end CallScope.Numeral
