import CallScope.Console.Answer
import CallScope.Proofs.Numerals
import Mathlib.Data.List.TakeDrop

/-!
This module contains what the plain terminal makes of the texts of commands. A text is made of pieces, which are marks
and texts without marks. If each mark that ends another one finds it open, the marks are left out and the rest is
written as it is.
-/

namespace CallScope.Console

namespace Mark

variable {opened : List (List Char)} {body cs rest : List Char}

/--
A piece of a text: a text without marks, or a mark.
-/
inductive Piece where
  | plain (text : String)
  | mark (body : String)

namespace Piece

def chars : Piece → List Char
  | .plain text => text.toList
  | .mark body => '[' :: body.toList ++ [']']

def shown : Piece → List Char
  | .plain text => text.toList
  | .mark _ => []

def follow? (opened : List (List Char)) : Piece → Option (List (List Char))
  | .plain _ => some opened
  | .mark body => Mark.follow? opened body.toList

end Piece

end Mark

open Mark

/--
The names in an answer.
-/
def Answer.names : Answer → List String
  | .stats survey => (entryFunction? survey).toList
  | .location place => (place.symbol?.map (·.name)).toList
  | .callers name names => name :: names
  | .callees name names => name :: names
  | .reach root target found => root :: target :: found.callers

namespace Terminal

/--
A terminal shows some texts as they are: it writes a failure with such a message on one line, and it accepts every text
of an answer with such names.
-/
structure Shows (terminal : Terminal) (plain : String → Prop) : Prop where
  err_eq : ∀ message, plain message →
    terminal.err ("[red]Error:[/red] " ++ message) = some ("Error: " ++ message ++ "\n")
  out_isSome : ∀ answer : Answer, (∀ name ∈ answer.names, plain name) →
    ∀ text ∈ answer.texts, (terminal.out text).isSome = true

end Terminal

end CallScope.Console
