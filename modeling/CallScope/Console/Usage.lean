/-!
This module contains the vocabulary of the command line: commands, options, and what can be wrong.
-/

namespace CallScope.Console

inductive Verb where
  | stats
  | lookup
  | callers
  | callees
  | reach
  deriving DecidableEq, Repr

inductive Setting where
  | readelf
  | objdump
  | root
  deriving DecidableEq, Repr

/--
What an option of a command does: it asks for JSON, or it gives a setting a value.
-/
inductive Switch where
  | json
  | setting (setting : Setting)
  deriving DecidableEq, Repr

inductive UsageFault where
  | noCommand
  | unknownCommand (name : String)
  | unknownOption (name : String)
  | valueMissing (name : String)
  | valueUnexpected (name : String)
  | argumentMissing
  | argumentUnexpected
  | noFile (path : String)
  | notFile (path : String)
  deriving DecidableEq, Repr

def UsageFault.message : UsageFault → String
  | .noCommand => "Missing command."
  | .unknownCommand name => "No such command '" ++ name ++ "'."
  | .unknownOption name => "No such option: " ++ name
  | .valueMissing name => "Option '" ++ name ++ "' requires an argument."
  | .valueUnexpected name => "Option '" ++ name ++ "' does not take a value."
  | .argumentMissing => "Missing argument."
  | .argumentUnexpected => "Got unexpected extra argument."
  | .noFile path => "File '" ++ path ++ "' does not exist."
  | .notFile path => "File '" ++ path ++ "' is a directory."

namespace Verb

def ofName? : String → Option Verb
  | "stats" => some .stats
  | "lookup" => some .lookup
  | "callers" => some .callers
  | "callees" => some .callees
  | "reach" => some .reach
  | _ => none

def longOption? (verb : Verb) : String → Option Switch
  | "--json" => some .json
  | "--readelf" => some (.setting .readelf)
  | "--objdump" => some (.setting .objdump)
  | "--root" => if verb = .reach then some (.setting .root) else none
  | _ => none

def shortOption? (verb : Verb) : Char → Option Switch
  | 'j' => some .json
  | 'r' => if verb = .reach then some (.setting .root) else none
  | _ => none

end Verb

end CallScope.Console
