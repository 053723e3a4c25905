import CallScope.Host.Launch
import CallScope.Text.Blank

/-!
This module contains readers, which hand out the lines of a tool one at a time. The tool starts when the first line is
asked for. If its reader is closed before the end the tool is killed, and its exit code does not count.
-/

namespace CallScope

/--
Where a reader stands. While the tool runs, `rest` is the text whose lines are still to come.
-/
inductive Reader where
  | idle
  | reading (rest : List Char) (exitCode : Int)
  | done
  deriving DecidableEq, Repr

namespace Reader

/--
What a reader does to the process of its tool.
-/
inductive Action where
  | start
  | kill
  | wait
  deriving DecidableEq, Repr

inductive Reply where
  | line (text : String)
  | exhausted
  | failed (fault : ToolFault)
  deriving DecidableEq, Repr

/--
What comes of asking a reader for one line.
-/
structure Turn where
  reply : Reply
  reader : Reader
  actions : List Action := []

/--
End a process. It is killed unless its output was read to the end.
-/
def endProcess (drained : Bool) : List Action :=
  if drained then [.wait] else [.kill, .wait]

def advance (tool : String) (text : List Char) (exitCode : Int) : Turn :=
  match Text.takeLine? text with
  | some (line, rest) =>
    { reply := .line (String.ofList (Text.dropEndWhile Text.isLineEnd line)), reader := .reading rest exitCode }
  | none =>
    { reply := if exitCode = 0 then .exhausted else .failed (.exited tool exitCode)
      reader := .done
      actions := endProcess true }

def next (launch : Launch) (tool : String) : Reader → Turn
  | .idle =>
    match launch with
    | .malformed => { reply := .failed .malformed, reader := .done }
    | .refused refusal => { reply := .failed (.refused tool refusal), reader := .done }
    | .mute => { reply := .failed (.mute tool), reader := .done }
    | .ran output exitCode =>
      let turn := advance tool (Text.Utf8.decode output) exitCode
      { turn with actions := .start :: turn.actions }
  | .reading rest exitCode => advance tool rest exitCode
  | .done => { reply := .exhausted, reader := .done }

def close : Reader → List Action
  | .reading .. => endProcess false
  | _ => []

/--
Lines in order, how reading them ended, and what was done to the process.
-/
structure Session where
  lines : List String
  ending : Feed.Ending ToolFault
  actions : List Action
  deriving DecidableEq, Repr

def Session.cons (text : String) (actions : List Action) (session : Session) : Session where
  lines := text :: session.lines
  ending := session.ending
  actions := actions ++ session.actions

/--
Ask for `count` lines, one after the other, and close the reader. Nothing more is asked for when there is no line.
-/
def take (launch : Launch) (tool : String) : Nat → Reader → Session
  | 0, reader => ⟨[], .closed, reader.close⟩
  | count + 1, reader =>
    let turn := reader.next launch tool
    match turn.reply with
    | .line text => (take launch tool count turn.reader).cons text turn.actions
    | .exhausted => ⟨[], .exhausted, turn.actions ++ turn.reader.close⟩
    | .failed fault => ⟨[], .failed fault, turn.actions ++ turn.reader.close⟩

/--
A bound on the lines that a reader hands out.
-/
def size (launch : Launch) : Reader → Nat
  | .idle =>
    match launch with
    | .ran output _ => (Text.Utf8.decode output).length
    | _ => 0
  | .reading rest _ => rest.length
  | .done => 0

theorem size_advance_lt {launch : Launch} {tool : String} {text : List Char} {exitCode : Int} {line : String}
    (h : (advance tool text exitCode).reply = .line line) :
    (advance tool text exitCode).reader.size launch < text.length := by
  unfold advance at h ⊢
  split at h
  · next hline => exact Text.length_lt_of_takeLine? hline
  · split at h <;> cases h

theorem size_next_lt {launch : Launch} {tool : String} {reader : Reader} {line : String}
    (h : (reader.next launch tool).reply = .line line) :
    (reader.next launch tool).reader.size launch < reader.size launch := by
  cases reader with
  | idle =>
    cases launch with
    | ran => exact size_advance_lt h
    | _ => cases h
  | reading => exact size_advance_lt h
  | done => cases h

/--
Ask for lines until there are no more.
-/
def readAll (launch : Launch) (tool : String) (reader : Reader) : Session :=
  let turn := reader.next launch tool
  match h : turn.reply with
  | .line text =>
    have := size_next_lt h
    (readAll launch tool turn.reader).cons text turn.actions
  | .exhausted => ⟨[], .exhausted, turn.actions⟩
  | .failed fault => ⟨[], .failed fault, turn.actions⟩
termination_by reader.size launch

end Reader

end CallScope
