import CallScope.Address
import CallScope.Numeral.Binary64

/-!
This module contains JSON values. A number is an integer of any size or a binary number of 64 bits. The fields
of an object keep their order.
-/

namespace CallScope

inductive Json where
  | null
  | bool (value : Bool)
  | int (value : Int)
  | real (value : Numeral.Binary64)
  | str (value : String)
  | arr (items : List Json)
  | obj (fields : List (String × Json))
  deriving Repr, Inhabited

namespace Json

inductive Kind where
  | null
  | bool
  | int
  | real
  | str
  | arr
  | obj
  deriving DecidableEq, Repr

def kind : Json → Kind
  | .null => .null
  | .bool _ => .bool
  | .int _ => .int
  | .real _ => .real
  | .str _ => .str
  | .arr _ => .arr
  | .obj _ => .obj

def text? : Json → Option String
  | .str text => some text
  | _ => none

def strs (texts : List String) : Json :=
  .arr (texts.map .str)

def ofOption {α : Type} (f : α → Json) : Option α → Json
  | none => .null
  | some a => f a

def ofAddress? (address? : Option Address) : Json :=
  ofOption (fun address => .str address.text) address?

end Json

end CallScope
