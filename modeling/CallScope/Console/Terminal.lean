import CallScope.Survey.Report
import CallScope.Text.Blank

/-!
This module contains terminals, which write texts with marks for their style, and the plain terminal, which leaves the
marks out. A mark is a word in brackets such as `[red]`, and `[/red]` or `[/]` ends it.
-/

namespace CallScope.Console

/--
How a command writes. `out` and `err` are what a text with marks becomes on the two streams, with the end of its line.
There is nothing to write if its marks do not fit together. `log` is the report of a notice.
-/
structure Terminal where
  out : String → Option String
  err : String → Option String
  log : Notice → String

/--
What breaks off a run without a report.
-/
inductive Breach where
  | malformed
  | overlong
  | marks
  deriving DecidableEq, Repr

/--
What was written, and what broke it off.
-/
structure Printed where
  text : String
  breach? : Option Breach := none
  deriving DecidableEq, Repr

/--
Write texts one after the other, up to the first one whose marks do not fit together.
-/
def Terminal.print (terminal : Terminal) : List String → Printed
  | [] => { text := "" }
  | text :: texts =>
    match terminal.out text with
    | none => { text := "", breach? := some .marks }
    | some written =>
      let rest := terminal.print texts
      { rest with text := written ++ rest.text }

namespace Mark

def isStart (c : Char) : Bool :=
  ('a' ≤ c && c ≤ 'z') || c = '#' || c = '/' || c = '@'

/--
Read what stands in the brackets of a mark, after the opening one. There are no brackets inside.
-/
def body? (cs : List Char) : Option (List Char) :=
  match cs.span fun c => c ≠ '[' && c ≠ ']' with
  | (c :: body, ']' :: _) => if isStart c then some (c :: body) else none
  | _ => none

def name (body : List Char) : List Char :=
  (Text.trim Text.isBlank (body.takeWhile (· ≠ '='))).map Char.toLower

/--
The marks that are open after one more, the last of them first. A mark that ends another one has to find it open.
-/
def follow? (opened : List (List Char)) : List Char → Option (List (List Char))
  | '/' :: ended =>
    match name ended, opened with
    | [], [] => none
    | [], _ :: opened => some opened
    | ended, opened => if ended ∈ opened then some (opened.erase ended) else none
  | body => some (name body :: opened)

/--
Leave the marks out of a text. There are `slashes` backslashes before it, and its first `skipped` characters belong to a
mark that has been read. Two backslashes before a mark stand for one, and a mark after an odd one is a text.
-/
def strip? (opened : List (List Char)) (slashes skipped : Nat) : List Char → Option (List Char)
  | [] => some (List.replicate slashes '\\')
  | c :: cs =>
    match skipped with
    | skipped + 1 => strip? opened slashes skipped cs
    | 0 =>
      if c = '\\' then strip? opened (slashes + 1) 0 cs
      else if c ≠ '[' then (strip? opened 0 0 cs).map (List.replicate slashes '\\' ++ c :: ·)
      else
        match body? cs with
        | none => (strip? opened 0 0 cs).map (List.replicate (slashes - 1) '\\' ++ '[' :: ·)
        | some body =>
          let before := List.replicate (slashes / 2) '\\'
          if slashes % 2 = 1 then (strip? opened 0 (body.length + 1) cs).map (before ++ '[' :: body ++ ']' :: ·)
          else (follow? opened body).bind fun opened => (strip? opened 0 (body.length + 1) cs).map (before ++ ·)

end Mark

/--
The terminal that shows no styles.
-/
def Terminal.plain : Terminal where
  out := line
  err := line
  log notice := notice.text ++ "\n"
where
  line (text : String) : Option String :=
    (Mark.strip? [] 0 0 text.toList).map fun cs => String.ofList cs ++ "\n"

end CallScope.Console
