import CallScope.Numeral.Positional
import CallScope.Text.Printable

/-!
This module contains the quotation of texts in messages.
-/

namespace CallScope.Text

def paddedHex (width code : Nat) : List Char :=
  let digits := Numeral.hexDigits code
  List.replicate (width - digits.length) '0' ++ digits

/--
Write a character between quotation marks `mark`. The mark itself, the backslash and what has no visible
form are escaped.
-/
def quotedChar (mark c : Char) : List Char :=
  if c = mark ∨ c = '\\' then ['\\', c]
  else if c = '\n' then ['\\', 'n']
  else if c = '\r' then ['\\', 'r']
  else if c = '\t' then ['\\', 't']
  else if isPrintable c then [c]
  else if c.toNat < 0x100 then ['\\', 'x'] ++ paddedHex 2 c.toNat
  else if c.toNat < 0x10000 then ['\\', 'u'] ++ paddedHex 4 c.toNat
  else ['\\', 'U'] ++ paddedHex 8 c.toNat

/--
The quotation mark for a text: the apostrophe, unless the text has apostrophes and no double quotation marks.
-/
def quotationMark (cs : List Char) : Char :=
  if cs.contains '\'' ∧ ¬ cs.contains '"' then '"' else '\''

def quoted (text : String) : String :=
  let mark := quotationMark text.toList
  String.ofList (mark :: text.toList.flatMap (quotedChar mark) ++ [mark])

end CallScope.Text
