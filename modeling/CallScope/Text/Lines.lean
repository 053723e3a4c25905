/-!
This module contains the division of a text into lines. A line ends with a line feed, a carriage return, or
a carriage return and a line feed, and the end is not part of the line. Nothing else ends a line.
-/

namespace CallScope.Text

/--
The two symbols that end lines, in any alphabet.
-/
structure LineEnds (α : Type) where
  lineFeed : α
  carriageReturn : α
  lineFeed_ne_carriageReturn : lineFeed ≠ carriageReturn

namespace LineEnds

theorem charLineFeed_ne : '\n' ≠ '\r' := by
  decide

theorem octetLineFeed_ne : (0x0A : UInt8) ≠ 0x0D := by
  decide

def ofChars : LineEnds Char := ⟨'\n', '\r', charLineFeed_ne⟩

def ofOctets : LineEnds UInt8 := ⟨0x0A, 0x0D, octetLineFeed_ne⟩

variable {α : Type} [DecidableEq α]

/--
Divide a text into lines. A last line without an end counts unless it is empty.
-/
def split (ends : LineEnds α) (text : List α) : List (List α) :=
  go [] [] false text
where
  -- `lines` and `line` hold what was read so far, the latest first. After a carriage return the line has
  -- ended already, so a line feed ends none.
  go (lines : List (List α)) (line : List α) (afterReturn : Bool) : List α → List (List α)
    | [] => (if line = [] then lines else line.reverse :: lines).reverse
    | x :: xs =>
      if x = ends.lineFeed then
        if afterReturn then go lines [] false xs else go (line.reverse :: lines) [] false xs
      else if x = ends.carriageReturn then go (line.reverse :: lines) [] true xs
      else go lines (x :: line) false xs

end LineEnds

def lines (text : List Char) : List String :=
  (LineEnds.ofChars.split text).map String.ofList

def isLineEnd (c : Char) : Bool :=
  c = '\n' || c = '\r'

/--
Take the first line off a text together with its end, which is handed over as a line feed whatever it is.
-/
def takeLine? (text : List Char) : Option (List Char × List Char) :=
  if text = [] then none else some (go [] text)
where
  -- `line` holds what was read so far, the latest first.
  go (line : List Char) : List Char → List Char × List Char
    | [] => (line.reverse, [])
    | '\n' :: cs => (('\n' :: line).reverse, cs)
    | '\r' :: '\n' :: cs => (('\n' :: line).reverse, cs)
    | '\r' :: cs => (('\n' :: line).reverse, cs)
    | c :: cs => go (c :: line) cs

theorem takeLine?.length_go_le (line text : List Char) : (go line text).2.length ≤ text.length - 1 := by
  fun_induction go line text with
  | case1 => simp
  | case2 => simp
  | case3 => simp
  | case4 => simp
  | case5 _ _ _ _ _ _ ih => exact Nat.le_trans ih (Nat.sub_le _ _)

/--
Every line takes at least one character with it.
-/
theorem length_lt_of_takeLine? {text line rest : List Char} (h : takeLine? text = some (line, rest)) :
    rest.length < text.length := by
  unfold takeLine? at h
  split at h
  · cases h
  · next hne =>
    have hrest : (takeLine?.go [] text).2 = rest := by simpa using congrArg Prod.snd (Option.some.inj h)
    have hle := takeLine?.length_go_le [] text
    have hpos := List.length_pos_iff.mpr hne
    rw [hrest] at hle
    omega

end CallScope.Text
