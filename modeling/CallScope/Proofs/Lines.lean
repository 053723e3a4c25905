import CallScope.Proofs.Characters
import CallScope.Text.Lines

/-!
This module contains the rules by which a text divides into lines. There is one division for every text, which `split`
finds and which taking off one line after the other comes to as well.
-/

namespace CallScope.Text

/--
The ways to end a line.
-/
inductive Terminator where
  | lineFeed
  | both
  | carriageReturn
  deriving DecidableEq, Repr

namespace LineEnds

variable {α : Type} {ends : LineEnds α}

def symbols (ends : LineEnds α) : Terminator → List α
  | .lineFeed => [ends.lineFeed]
  | .both => [ends.carriageReturn, ends.lineFeed]
  | .carriageReturn => [ends.carriageReturn]

/--
A carriage return ends a line by itself only if no line feed follows it.
-/
def Allows (ends : LineEnds α) (terminator : Terminator) (rest : List α) : Prop :=
  terminator = .carriageReturn → rest.head? ≠ some ends.lineFeed

/--
Nothing in a text ends a line.
-/
def Unbroken (ends : LineEnds α) (text : List α) : Prop :=
  ends.lineFeed ∉ text ∧ ends.carriageReturn ∉ text

/--
A text consists of lines, each with its end. What follows the last end is a line unless it is empty.
-/
inductive Divides (ends : LineEnds α) : List α → List (List α) → Prop where
  | nil : Divides ends [] []
  | last {line : List α} (hunbroken : ends.Unbroken line) (hne : line ≠ []) : Divides ends line [line]
  | line {line rest : List α} {terminator : Terminator} {lines : List (List α)} (hunbroken : ends.Unbroken line)
      (hallows : ends.Allows terminator rest) (hrest : Divides ends rest lines) :
      Divides ends (line ++ (ends.symbols terminator ++ rest)) (line :: lines)

@[simp]
theorem unbroken_nil : ends.Unbroken [] := by
  simp [Unbroken]

theorem unbroken_cons_iff {x : α} {xs : List α} :
    ends.Unbroken (x :: xs) ↔ (x ≠ ends.lineFeed ∧ x ≠ ends.carriageReturn) ∧ ends.Unbroken xs := by
  simp only [Unbroken, List.mem_cons, not_or, ne_eq, @eq_comm α x]
  exact and_and_and_comm

theorem Divides.unbroken_of_mem {text line : List α} {lines : List (List α)} (h : ends.Divides text lines)
    (hline : line ∈ lines) : ends.Unbroken line := by
  induction h with
  | nil => cases hline
  | last hunbroken =>
    cases List.mem_singleton.mp hline
    exact hunbroken
  | line hunbroken _ _ ih =>
    rcases List.mem_cons.mp hline with rfl | hline
    · exact hunbroken
    · exact ih hline

variable [DecidableEq α]

namespace split

theorem go_eq_append (lines : List (List α)) (line : List α) (afterReturn : Bool) (text : List α) :
    go ends lines line afterReturn text = lines.reverse ++ go ends [] line afterReturn text := by
  induction text generalizing lines line afterReturn with
  | nil =>
    unfold go
    split <;> simp
  | cons x xs ih =>
    unfold go
    split
    · split
      · rw [ih]
      · rw [ih, ih [line.reverse]]
        simp
    · split
      · rw [ih, ih [line.reverse]]
        simp
      · rw [ih]

theorem go_append_of_unbroken {text : List α} (h : ends.Unbroken text) (line rest : List α) :
    go ends [] line false (text ++ rest) = go ends [] (text.reverse ++ line) false rest := by
  induction text generalizing line with
  | nil => rfl
  | cons x xs ih =>
    rw [unbroken_cons_iff] at h
    rw [List.cons_append, go, if_neg h.1.1, if_neg h.1.2, ih h.2]
    simp

theorem go_true_eq_false {rest : List α} (h : rest.head? ≠ some ends.lineFeed) (lines : List (List α)) :
    go ends lines [] true rest = go ends lines [] false rest := by
  cases rest with
  | nil => rfl
  | cons x xs =>
    have hx : x ≠ ends.lineFeed := by simpa using h
    simp only [go, if_neg hx]

theorem go_symbols_append {terminator : Terminator} {rest : List α} (h : ends.Allows terminator rest) (line : List α) :
    go ends [] line false (ends.symbols terminator ++ rest) = line.reverse :: go ends [] [] false rest := by
  have hne := ends.lineFeed_ne_carriageReturn.symm
  rw [← List.singleton_append, ← List.reverse_singleton, ← go_eq_append]
  cases terminator with
  | lineFeed => simp [symbols, go]
  | both => simp [symbols, go, hne]
  | carriageReturn => simp [symbols, go, hne, go_true_eq_false (h rfl)]

end split

theorem split_of_unbroken {line : List α} (h : ends.Unbroken line) (hne : line ≠ []) : ends.split line = [line] := by
  have hgo := split.go_append_of_unbroken h [] []
  rw [List.append_nil, List.append_nil] at hgo
  rw [split, hgo, split.go]
  simp [hne]

theorem split_append {terminator : Terminator} {line rest : List α} (h : ends.Unbroken line)
    (hallows : ends.Allows terminator rest) :
    ends.split (line ++ (ends.symbols terminator ++ rest)) = line :: ends.split rest := by
  rw [split, split.go_append_of_unbroken h, split.go_symbols_append hallows, List.append_nil, List.reverse_reverse,
    split]

theorem Divides.split_eq {text : List α} {lines : List (List α)} (h : ends.Divides text lines) :
    ends.split text = lines := by
  induction h with
  | nil => rfl
  | last hunbroken hne => exact split_of_unbroken hunbroken hne
  | line hunbroken hallows _ ih => rw [split_append hunbroken hallows, ih]

/--
Find the first end of a line in a text.
-/
theorem exists_first_end (ends : LineEnds α) (text : List α) :
    ends.Unbroken text ∨ ∃ line terminator rest, text = line ++ (ends.symbols terminator ++ rest)
      ∧ ends.Unbroken line ∧ ends.Allows terminator rest := by
  induction text with
  | nil => exact .inl unbroken_nil
  | cons x xs ih =>
    by_cases hfeed : x = ends.lineFeed
    · exact .inr ⟨[], .lineFeed, xs, by simp [symbols, hfeed], unbroken_nil, by simp [Allows]⟩
    · by_cases hreturn : x = ends.carriageReturn
      · -- A carriage return takes a line feed after it along.
        by_cases hhead : xs.head? = some ends.lineFeed
        · obtain ⟨ys, rfl⟩ := List.head?_eq_some_iff.mp hhead
          exact .inr ⟨[], .both, ys, by simp [symbols, hreturn], unbroken_nil, by simp [Allows]⟩
        · exact .inr ⟨[], .carriageReturn, xs, by simp [symbols, hreturn], unbroken_nil, fun _ => hhead⟩
      · rcases ih with hxs | ⟨line, terminator, rest, rfl, hline, hallows⟩
        · exact .inl (unbroken_cons_iff.mpr ⟨⟨hfeed, hreturn⟩, hxs⟩)
        · exact .inr ⟨x :: line, terminator, rest, rfl, unbroken_cons_iff.mpr ⟨⟨hfeed, hreturn⟩, hline⟩, hallows⟩

theorem exists_divides (ends : LineEnds α) (text : List α) : ∃ lines, ends.Divides text lines := by
  induction hlength : text.length using Nat.strongRecOn generalizing text with
  | ind length ih =>
    rcases exists_first_end ends text with hunbroken | ⟨line, terminator, rest, rfl, hline, hallows⟩
    · by_cases hne : text = []
      · exact ⟨[], hne ▸ .nil⟩
      · exact ⟨[text], .last hunbroken hne⟩
    · have hshorter : rest.length < length := by
        rw [← hlength]
        cases terminator <;> simp [symbols] <;> omega
      obtain ⟨lines, hlines⟩ := ih rest.length hshorter rest rfl
      exact ⟨line :: lines, .line hline hallows hlines⟩

theorem divides_iff {text : List α} {lines : List (List α)} : ends.Divides text lines ↔ ends.split text = lines := by
  constructor
  · exact Divides.split_eq
  · rintro rfl
    obtain ⟨lines, hlines⟩ := exists_divides ends text
    rwa [hlines.split_eq]

end LineEnds

open LineEnds

variable {line rest : List Char} {terminator : Terminator}

namespace takeLine?

theorem go_append_of_unbroken (h : ofChars.Unbroken line) (read rest : List Char) :
    go read (line ++ rest) = go (line.reverse ++ read) rest := by
  induction line generalizing read with
  | nil => rfl
  | cons c cs ih =>
    rw [unbroken_cons_iff] at h
    rw [List.cons_append, go, ih h.2]
    · simp
    · exact h.1.1
    · intro cs' hc
      exact absurd hc h.1.2
    · exact h.1.2

theorem go_symbols_append (hallows : ofChars.Allows terminator rest) (read : List Char) :
    go read (ofChars.symbols terminator ++ rest) = (read.reverse ++ ['\n'], rest) := by
  cases terminator with
  | lineFeed => simp [symbols, ofChars, go]
  | both => simp [symbols, ofChars, go]
  | carriageReturn =>
    have hhead : rest.head? ≠ some '\n' := hallows rfl
    show go read ('\r' :: rest) = _
    rw [go]
    · simp
    · rintro cs rfl
      exact hhead rfl

end takeLine?

theorem takeLine?_append (h : ofChars.Unbroken line) (hallows : ofChars.Allows terminator rest) :
    takeLine? (line ++ (ofChars.symbols terminator ++ rest)) = some (line ++ ['\n'], rest) := by
  have hne : line ++ (ofChars.symbols terminator ++ rest) ≠ [] := by cases terminator <;> simp [symbols]
  rw [takeLine?, if_neg hne, takeLine?.go_append_of_unbroken h, takeLine?.go_symbols_append hallows]
  simp

theorem takeLine?_of_unbroken (h : ofChars.Unbroken line) (hne : line ≠ []) : takeLine? line = some (line, []) := by
  have hgo := takeLine?.go_append_of_unbroken h [] []
  rw [List.append_nil] at hgo
  rw [takeLine?, if_neg hne, hgo, takeLine?.go]
  simp

theorem isLineEnd_eq_false_of_unbroken {c : Char} (h : ofChars.Unbroken line) (hc : c ∈ line) : isLineEnd c = false := by
  have hfeed : c ≠ '\n' := ne_of_mem_of_not_mem hc h.1
  have hreturn : c ≠ '\r' := ne_of_mem_of_not_mem hc h.2
  simp [isLineEnd, hfeed, hreturn]

/--
The end of a line that was taken off goes without any character of the line itself.
-/
theorem dropEndWhile_of_unbroken (h : ofChars.Unbroken line) : dropEndWhile isLineEnd line = line := by
  apply dropEndWhile_eq_self
  intro c hc
  exact isLineEnd_eq_false_of_unbroken h hc

theorem dropEndWhile_concat (h : ofChars.Unbroken line) : dropEndWhile isLineEnd (line ++ ['\n']) = line := by
  have hend : isLineEnd '\n' = true := by decide
  have hline := dropEndWhile_of_unbroken h
  unfold dropEndWhile at hline ⊢
  rw [List.reverse_concat, List.dropWhile_cons_of_pos hend, hline]

end CallScope.Text
