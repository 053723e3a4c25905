import CallScope.Console.Usage

/-!
This module contains the sorting of the words on a command line. Options before the name of the command hold
for all commands. After it, options and arguments may come in any order, and `--` ends the options.
-/

namespace CallScope.Console

structure Words where
  json : Bool := false
  readelf? : Option String := none
  objdump? : Option String := none
  root? : Option String := none
  arguments : List String := []
  deriving DecidableEq, Repr

-- The last value that a setting gets is the one that counts.
def Words.set (words : Words) (value : String) : Setting → Words
  | .readelf => { words with readelf? := some value }
  | .objdump => { words with objdump? := some value }
  | .root => { words with root? := some value }

/--
The effect of a word with options. A setting that is still wanted takes the next word as its value.
-/
structure Effect where
  words : Words
  wanted? : Option Setting := none

/--
Read a word with a long option, which may hold a value after the first `=`.
-/
def longWord (verb : Verb) (words : Words) (word : String) : Except UsageFault Effect :=
  let name := String.ofList (word.toList.takeWhile (· ≠ '='))
  match verb.longOption? name, word.toList.dropWhile (· ≠ '=') with
  | none, _ => .error (.unknownOption name)
  | some .json, [] => .ok { words := { words with json := true } }
  | some .json, _ => .error (.valueUnexpected name)
  | some (.setting setting), [] => .ok { words, wanted? := some setting }
  | some (.setting setting), _ :: value => .ok { words := words.set (String.ofList value) setting }

/--
Read the letters of a word with short options. A setting takes the rest of the word as its value, if there is any.
-/
def shortWord (verb : Verb) (words : Words) : List Char → Except UsageFault Effect
  | [] => .ok { words }
  | c :: cs =>
    match verb.shortOption? c, cs with
    | none, _ => .error (.unknownOption (String.ofList ['-', c]))
    | some .json, _ => shortWord verb { words with json := true } cs
    | some (.setting setting), [] => .ok { words, wanted? := some setting }
    | some (.setting setting), value => .ok { words := words.set (String.ofList value) setting }

/--
Options begin with a hyphen, but a hyphen alone is none.
-/
def isOption (word : String) : Bool :=
  match word.toList with
  | '-' :: _ :: _ => true
  | _ => false

def optionWord (verb : Verb) (words : Words) (word : String) : Except UsageFault Effect :=
  match word.toList with
  | '-' :: '-' :: _ => longWord verb words word
  | cs => shortWord verb words (cs.drop 1)

def sortWords (verb : Verb) (words : Words) : List String → Except UsageFault Words
  | [] => .ok words
  | word :: rest =>
    if word = "--" then .ok { words with arguments := words.arguments ++ rest }
    else if isOption word then
      match optionWord verb words word with
      | .error fault => .error fault
      | .ok ⟨words, none⟩ => sortWords verb words rest
      | .ok ⟨words, some setting⟩ =>
        match rest with
        | [] => .error (.valueMissing word)
        | value :: rest => sortWords verb (words.set value setting) rest
    else sortWords verb { words with arguments := words.arguments ++ [word] } rest

/--
Read the options before the name of the command. The result tells whether they ask for reports on the work, and
holds the words after them.
-/
def leadingOptions (verbose : Bool) : List String → Except UsageFault (Bool × List String)
  | [] => .ok (verbose, [])
  | word :: rest =>
    if word = "--" then .ok (verbose, rest)
    else if !isOption word then .ok (verbose, word :: rest)
    else if word = "--verbose" ∨ (word.toList.drop 1).all (· = 'v') then leadingOptions true rest
    else .error (.unknownOption word)

end CallScope.Console
