import CallScope.Console.Run
import CallScope.Proofs.Results

/-!
This module contains where the words of the commands come from that a command line leads to. A tool or a binary is a
part of the line, of the environment or of the standard commands. So the system can take the commands unless one of
these holds a null character.
-/

namespace CallScope

namespace Text

def HasNoNull (text : String) : Prop :=
  '\x00' ∉ text.toList

instance (text : String) : Decidable (HasNoNull text) :=
  inferInstanceAs (Decidable ('\x00' ∉ text.toList))

theorem hasNoNull_ofList {cs text : List Char} (htext : '\x00' ∉ text) (h : cs ⊆ text) :
    HasNoNull (String.ofList cs) := by
  rw [HasNoNull, String.toList_ofList]
  exact fun hmem => htext (h hmem)

end Text

open Text (HasNoNull)

namespace Path

end Path

namespace Console

/--
No word that can become part of a command holds a null character.
-/
structure Words.HaveNoNull (words : Words) : Prop where
  readelf : ∀ tool, words.readelf? = some tool → HasNoNull tool
  objdump : ∀ tool, words.objdump? = some tool → HasNoNull tool
  arguments : ∀ argument ∈ words.arguments, HasNoNull argument

namespace Words.HaveNoNull

variable {verb : Verb} {words result : Words} {effect : Effect} {word value : String}

theorem set (h : words.HaveNoNull) (hvalue : HasNoNull value) (setting : Setting) :
    (words.set value setting).HaveNoNull := by
  cases setting with
  | readelf => exact ⟨fun tool htool => Option.some.inj htool ▸ hvalue, h.objdump, h.arguments⟩
  | objdump => exact ⟨h.readelf, fun tool htool => Option.some.inj htool ▸ hvalue, h.arguments⟩
  | root => exact ⟨h.readelf, h.objdump, h.arguments⟩

theorem longWord (h : words.HaveNoNull) (hword : HasNoNull word)
    (hread : Console.longWord verb words word = .ok effect) : effect.words.HaveNoNull := by
  simp only [Console.longWord] at hread
  split at hread
  · cases hread
  · cases hread
    exact ⟨h.readelf, h.objdump, h.arguments⟩
  · cases hread
  · cases hread
    exact h
  · next hrest =>
    cases hread
    apply h.set
    apply Text.hasNoNull_ofList hword
    intro c hc
    apply (List.dropWhile_sublist (· ≠ '=')).subset
    rw [hrest]
    exact List.mem_cons_of_mem _ hc

theorem shortWord {cs : List Char} (h : words.HaveNoNull) (hcs : '\x00' ∉ cs)
    (hread : Console.shortWord verb words cs = .ok effect) : effect.words.HaveNoNull := by
  induction cs generalizing words with
  | nil =>
    cases hread
    exact h
  | cons c cs ih =>
    rw [List.mem_cons, not_or] at hcs
    unfold Console.shortWord at hread
    split at hread
    · cases hread
    · apply ih _ hcs.2 hread
      exact ⟨h.readelf, h.objdump, h.arguments⟩
    · cases hread
      exact h
    · cases hread
      exact h.set (Text.hasNoNull_ofList hcs.2 (List.Subset.refl _)) _

theorem optionWord (h : words.HaveNoNull) (hword : HasNoNull word)
    (hread : Console.optionWord verb words word = .ok effect) : effect.words.HaveNoNull := by
  unfold Console.optionWord at hread
  split at hread
  · exact h.longWord hword hread
  · exact h.shortWord (fun hmem => hword (List.mem_of_mem_drop hmem)) hread

theorem append (h : words.HaveNoNull) {more : List String} (hmore : ∀ word ∈ more, HasNoNull word) :
    HaveNoNull { words with arguments := words.arguments ++ more } := by
  refine ⟨h.readelf, h.objdump, ?_⟩
  intro argument hargument
  rcases List.mem_append.mp hargument with hold | hnew
  · exact h.arguments argument hold
  · exact hmore argument hnew

theorem sortWords {line : List String} (h : words.HaveNoNull) (hline : ∀ word ∈ line, HasNoNull word)
    (hsort : Console.sortWords verb words line = .ok result) : result.HaveNoNull := by
  -- The induction goes along with the sorting, since an option may take the next word with it.
  fun_induction Console.sortWords verb words line with
  | case1 words =>
    cases hsort
    exact h
  | case2 words rest =>
    cases hsort
    exact h.append fun word hword => hline word (List.mem_cons_of_mem _ hword)
  | case3 => cases hsort
  | case4 words word rest _ _ next hread ih =>
    obtain ⟨hword, hrest⟩ := List.forall_mem_cons.mp hline
    exact ih (h.optionWord hword hread) hrest hsort
  | case5 => cases hsort
  | case6 words word _ _ next setting hread value rest ih =>
    obtain ⟨hword, hrest⟩ := List.forall_mem_cons.mp hline
    obtain ⟨hvalue, hrest⟩ := List.forall_mem_cons.mp hrest
    exact ih ((h.optionWord hword hread).set hvalue setting) hrest hsort
  | case7 words word rest _ _ ih =>
    obtain ⟨hword, hrest⟩ := List.forall_mem_cons.mp hline
    exact ih (h.append (by simpa using hword)) hrest hsort

end Words.HaveNoNull

variable {host : Host}

end Console

end CallScope
