import CallScope.Json.Basic
import CallScope.Text.Quoted

/-!
This module contains the spelling of JSON values inside messages.
-/

namespace CallScope.Json

def realSpelling : Numeral.Binary64 → String
  | .infinite negative => Numeral.Binary64.sign negative ++ "inf"
  | x => x.text

mutual

/--
Spell a value that is part of another one. Its texts are quoted.
-/
def partSpelling : Json → String
  | .null => "None"
  | .bool true => "True"
  | .bool false => "False"
  | .int n => Numeral.decimalText n
  | .real x => realSpelling x
  | .str s => Text.quoted s
  | .arr items => "[" ++ ", ".intercalate (itemSpellings items) ++ "]"
  | .obj fields => "\x7b" ++ ", ".intercalate (fieldSpellings fields) ++ "\x7d"

def itemSpellings : List Json → List String
  | [] => []
  | item :: items => partSpelling item :: itemSpellings items

def fieldSpellings : List (String × Json) → List String
  | [] => []
  | (name, value) :: fields => (Text.quoted name ++ ": " ++ partSpelling value) :: fieldSpellings fields

end

/--
Spell a value. A text stands for itself.
-/
def spelling : Json → String
  | .str s => s
  | value => partSpelling value

end CallScope.Json
