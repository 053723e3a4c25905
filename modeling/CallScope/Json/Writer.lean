import CallScope.Json.Basic
import CallScope.Numeral.Literal
import CallScope.Text.Quoted

/-!
This module contains the writing of JSON in ASCII, on one line or with one item a line.
-/

namespace CallScope.Json

/--
How items are set apart: on one line with a blank after each comma, or one item a line, indented by two
blanks for each level.
-/
inductive Layout where
  | oneLine
  | indented
  deriving DecidableEq, Repr

def unitEscape (unit : Nat) : List Char :=
  ['\\', 'u'] ++ Text.paddedHex 4 unit

/--
Write a character of a JSON string: visible ASCII as it is, all else as an escape.
-/
def escape (c : Char) : List Char :=
  if c = '"' ∨ c = '\\' then ['\\', c]
  else if c = '\n' then ['\\', 'n']
  else if c = '\r' then ['\\', 'r']
  else if c = '\t' then ['\\', 't']
  else if c.toNat = 0x08 then ['\\', 'b']
  else if c.toNat = 0x0C then ['\\', 'f']
  else if 0x20 ≤ c.toNat ∧ c.toNat ≤ 0x7E then [c]
  else if c.toNat < 0x10000 then unitEscape c.toNat
  else
    let offset := c.toNat - 0x10000
    unitEscape (0xD800 + offset / 0x400) ++ unitEscape (0xDC00 + offset % 0x400)

def quote (text : String) : List Char :=
  '"' :: text.toList.flatMap escape ++ ['"']

namespace Layout

def lineBreak (layout : Layout) (depth : Nat) : List Char :=
  match layout with
  | .oneLine => []
  | .indented => '\n' :: List.replicate (2 * depth) ' '

def separator (layout : Layout) (depth : Nat) : List Char :=
  match layout with
  | .oneLine => [',', ' ']
  | .indented => ',' :: layout.lineBreak depth

end Layout

mutual

def chars (layout : Layout) (depth : Nat) : Json → List Char
  | .null => "null".toList
  | .bool true => "true".toList
  | .bool false => "false".toList
  | .int n => (Numeral.decimalText n).toList
  | .real x => x.text.toList
  | .str s => quote s
  | .arr [] => ['[', ']']
  | .arr (item :: items) =>
    '[' :: layout.lineBreak (depth + 1) ++ chars layout (depth + 1) item
      ++ itemChars layout (depth + 1) items ++ layout.lineBreak depth ++ [']']
  | .obj [] => ['\x7b', '\x7d']
  | .obj ((name, value) :: fields) =>
    '\x7b' :: layout.lineBreak (depth + 1) ++ quote name ++ [':', ' '] ++ chars layout (depth + 1) value
      ++ fieldChars layout (depth + 1) fields ++ layout.lineBreak depth ++ ['\x7d']

def itemChars (layout : Layout) (depth : Nat) : List Json → List Char
  | [] => []
  | item :: items => layout.separator depth ++ chars layout depth item ++ itemChars layout depth items

def fieldChars (layout : Layout) (depth : Nat) : List (String × Json) → List Char
  | [] => []
  | (name, value) :: fields =>
    layout.separator depth ++ quote name ++ [':', ' '] ++ chars layout depth value
      ++ fieldChars layout depth fields

end

def text (layout : Layout) (value : Json) : String :=
  String.ofList (chars layout 0 value)

mutual

/--
Decide whether every integer in a value has few enough digits to be written.
-/
def fits : Json → Bool
  | .int n => (Nat.toDigits 10 n.natAbs).length ≤ Numeral.maxDecimalDigits
  | .arr items => itemsFit items
  | .obj fields => fieldsFit fields
  | _ => true

def itemsFit : List Json → Bool
  | [] => true
  | item :: items => fits item && itemsFit items

def fieldsFit : List (String × Json) → Bool
  | [] => true
  | (_, value) :: fields => fits value && fieldsFit fields

end

def overlongMessage : String :=
  "Exceeds the limit (4300 digits) for integer string conversion; "
    ++ "use sys.set_int_max_str_digits() to increase the limit"

end CallScope.Json
