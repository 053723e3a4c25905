import CallScope.Proofs.Reader
import CallScope.Proofs.Utf8

/-!
This module contains how the lines of a tool come from the octets that it writes. Octets may be divided into lines first
and read then, whatever they are, since no end of a line is ever part of another character. Lines that are written as
UTF-8 are read back as they were.
-/

namespace CallScope

open Text Text.LineEnds

namespace Text

open Utf8

theorem decode_symbols_append (terminator : Terminator) (octets rest : List UInt8) :
    decode (octets ++ (ofOctets.symbols terminator ++ rest))
      = decode octets ++ (ofChars.symbols terminator ++ decode rest) := by
  cases terminator with
  | lineFeed => exact decode_append_cons (by decide) octets rest
  | carriageReturn => exact decode_append_cons (by decide) octets rest
  | both =>
    have hreturn : decode (octets ++ 0x0D :: 0x0A :: rest) = decode octets ++ '\r' :: decode (0x0A :: rest) :=
      decode_append_cons (by decide) octets (0x0A :: rest)
    have hfeed : decode (0x0A :: rest) = '\n' :: decode rest := decode_append_cons (by decide) [] rest
    rw [hfeed] at hreturn
    exact hreturn

theorem unbroken_decode {octets : List UInt8} (h : ofOctets.Unbroken octets) : ofChars.Unbroken (decode octets) := by
  have hreads : Reads octets (decode octets) := decode_eq_iff.mp rfl
  constructor
  · intro hfeed
    exact h.1 (hreads.mem_of_lt (by decide) hfeed)
  · intro hreturn
    exact h.2 (hreads.mem_of_lt (by decide) hreturn)

theorem allows_decode {terminator : Terminator} {rest : List UInt8} (h : ofOctets.Allows terminator rest) :
    ofChars.Allows terminator (decode rest) := by
  intro hterminator hhead
  have hreads : Reads rest (decode rest) := decode_eq_iff.mp rfl
  exact h hterminator (hreads.head?_of_lt (by decide) hhead)

/--
Reading the octets of each line gives the lines of what is read.
-/
theorem divides_decode {output : List UInt8} {pieces : List (List UInt8)} (h : ofOctets.Divides output pieces) :
    ofChars.Divides (decode output) (pieces.map decode) := by
  induction h with
  | nil => exact .nil
  | last hunbroken hne => exact .last (unbroken_decode hunbroken) (decode_ne_nil hne)
  | line hunbroken hallows _ ih =>
    rw [decode_symbols_append]
    exact .line (unbroken_decode hunbroken) (allows_decode hallows) ih

theorem lines_decode {output : List UInt8} {pieces : List (List UInt8)} (h : ofOctets.Divides output pieces) :
    lines (decode output) = pieces.map fun piece => String.ofList (decode piece) := by
  rw [lines, (divides_decode h).split_eq, List.map_map]
  rfl

end Text

/--
How lines come from the octets of an output.
-/
structure LinesOf (output : List UInt8) (lines : List String) : Prop where
  /-- The lines are the pieces between the ends, each one read by itself. -/
  pieces : ∃ pieces, ofOctets.Divides output pieces ∧ (∀ other, ofOctets.Divides output other → other = pieces)
    ∧ (∀ piece ∈ pieces, Utf8.Reads piece (Utf8.decode piece))
    ∧ lines = pieces.map fun piece => String.ofList (Utf8.decode piece)
  /-- The end of a line stays, and so do all octets after it, whatever is broken off before it. -/
  decode_eq : ∀ before terminator after, output = before ++ (ofOctets.symbols terminator ++ after) →
    Utf8.decode output = Utf8.decode before ++ (ofChars.symbols terminator ++ Utf8.decode after)
  unbroken : ∀ line ∈ lines, '\n' ∉ line.toList ∧ '\r' ∉ line.toList
  /-- Nothing but the three ends divides the text, so without them there is a single line. -/
  divides : ofChars.Divides (Utf8.decode output) (lines.map String.toList)
  single : ofOctets.Unbroken output → output ≠ [] → lines = [String.ofList (Utf8.decode output)]

theorem linesOf_decode (output : List UInt8) : LinesOf output (Text.lines (Utf8.decode output)) := by
  obtain ⟨pieces, hpieces⟩ := exists_divides ofOctets output
  have hlines := lines_decode hpieces
  have hchars := divides_decode hpieces
  have hmap : (Text.lines (Utf8.decode output)).map String.toList = pieces.map Utf8.decode := by
    rw [hlines, List.map_map]
    simp
  refine ⟨⟨pieces, hpieces, ?_, fun piece _ => Utf8.decode_eq_iff.mp rfl, hlines⟩, ?_, ?_, ?_, ?_⟩
  · intro other hother
    rw [← hother.split_eq, hpieces.split_eq]
  · rintro before terminator after rfl
    apply decode_symbols_append
  · intro line hline
    apply hchars.unbroken_of_mem
    rw [← hmap]
    exact List.mem_map_of_mem hline
  · rw [hmap]
    exact hchars
  · intro hunbroken hne
    exact lines_decode (.last hunbroken hne)

namespace Host

theorem linesOf_read {host : Host} {command : Command} {output : List UInt8} {exitCode : Int}
    (h : host.launch command = .ran output exitCode) : LinesOf output (host.read command).lines := by
  rw [(partsAgree_of_ran h).read_lines]
  apply linesOf_decode

/--
A host where every tool does the same.
-/
def uniformHost (output : List UInt8) (exitCode : Int) : Host where
  environment? _ := none
  kind _ := .ok .regular
  launch _ := .ran output exitCode

/--
A character that is broken off by a line feed, a next line mark inside a line, an empty line, and an octet that begins
no character.
-/
def brokenOutput : List UInt8 :=
  [0xE2, 0x82, 0x0A, 0xC2, 0x85, 0x41, 0x0D, 0x0A, 0x0D, 0xFF]

theorem linesOf_read_brokenOutput :
    (uniformHost brokenOutput 1).launch ⟨"dump", []⟩ = .ran brokenOutput 1
      ∧ LinesOf brokenOutput ((uniformHost brokenOutput 1).read ⟨"dump", []⟩).lines
      ∧ ((uniformHost brokenOutput 1).read ⟨"dump", []⟩).lines = ["\uFFFD", "\u0085A", "", "\uFFFD"] := by
  have hlaunch : (uniformHost brokenOutput 1).launch ⟨"dump", []⟩ = .ran brokenOutput 1 := rfl
  refine ⟨hlaunch, linesOf_read hlaunch, ?_⟩
  rw [(partsAgree_of_ran hlaunch).read_lines]
  decide +kernel

end Host

section Written

variable {terminator : Terminator} {texts : List String}

/--
The octets of lines, each with the same end.
-/
def written (terminator : Terminator) (texts : List String) : List UInt8 :=
  texts.flatMap fun text => text.toUTF8.data.toList ++ ofOctets.symbols terminator

def writtenChars (terminator : Terminator) (texts : List String) : List Char :=
  texts.flatMap fun text => text.toList ++ ofChars.symbols terminator

theorem toUTF8_toList (text : String) : text.toUTF8.data.toList = text.toList.flatMap String.utf8EncodeChar := by
  rw [String.toUTF8_eq_toByteArray, ← String.utf8Encode_toList, List.utf8Encode, List.data_toByteArray]

theorem decode_toUTF8_append (text : String) (rest : List UInt8) :
    Utf8.decode (text.toUTF8.data.toList ++ rest) = text.toList ++ Utf8.decode rest := by
  rw [toUTF8_toList, Utf8.decode_flatMap_append]

theorem decode_written_append (terminator : Terminator) (texts : List String) (rest : List UInt8) :
    Utf8.decode (written terminator texts ++ rest) = writtenChars terminator texts ++ Utf8.decode rest := by
  induction texts with
  | nil => rfl
  | cons text texts ih =>
    have hend : Utf8.decode (ofOctets.symbols terminator ++ (written terminator texts ++ rest))
        = ofChars.symbols terminator ++ Utf8.decode (written terminator texts ++ rest) :=
      decode_symbols_append terminator [] _
    rw [written, List.flatMap_cons, List.append_assoc, List.append_assoc, decode_toUTF8_append, ← written, hend, ih]
    simp [writtenChars]

/--
After a carriage return by itself no line feed can come, so that the two are not taken for one end.
-/
theorem allows_writtenChars (htexts : ∀ text ∈ texts, ofChars.Unbroken text.toList) {last : List Char}
    (hlast : ofChars.Unbroken last) : ofChars.Allows terminator (writtenChars terminator texts ++ last) := by
  rintro rfl hhead
  have hmem := List.mem_of_mem_head? hhead
  rw [List.mem_append, writtenChars, List.mem_flatMap] at hmem
  rcases hmem with ⟨text, htext, hmem⟩ | hmem
  · rw [List.mem_append] at hmem
    rcases hmem with hmem | hmem
    · exact (htexts text htext).1 hmem
    · exact absurd hmem (by decide)
  · exact hlast.1 hmem

theorem divides_writtenChars_append (htexts : ∀ text ∈ texts, ofChars.Unbroken text.toList) {last : List Char}
    (hlast : ofChars.Unbroken last) :
    ofChars.Divides (writtenChars terminator texts ++ last)
      (texts.map String.toList ++ if last = [] then [] else [last]) := by
  induction texts with
  | nil =>
    by_cases hne : last = []
    · subst hne
      exact .nil
    · rw [if_neg hne]
      exact .last hlast hne
  | cons text texts ih =>
    have hrest : ∀ text ∈ texts, ofChars.Unbroken text.toList := fun text h => htexts text (List.mem_cons_of_mem _ h)
    have hline := Divides.line (htexts text List.mem_cons_self) (allows_writtenChars hrest hlast) (ih hrest)
    rw [writtenChars, List.flatMap_cons, List.append_assoc, List.append_assoc]
    exact hline

theorem lines_written_append (terminator : Terminator) (htexts : ∀ text ∈ texts, ofChars.Unbroken text.toList)
    (last : String) (hlast : ofChars.Unbroken last.toList) :
    Text.lines (Utf8.decode (written terminator texts ++ last.toUTF8.data.toList))
      = texts ++ if last = "" then [] else [last] := by
  have hdecode : Utf8.decode last.toUTF8.data.toList = last.toList := by
    rw [← List.append_nil last.toUTF8.data.toList, decode_toUTF8_append]
    apply List.append_nil
  rw [Text.lines, decode_written_append, hdecode, (divides_writtenChars_append htexts hlast).split_eq]
  have htexts : (texts.map String.toList).map String.ofList = texts := by simp
  rw [List.map_append, htexts]
  by_cases hempty : last = ""
  · simp [hempty]
  · simp [hempty, String.toList_eq_nil_iff]

end Written

namespace Host

theorem read_of_lines_eq {host : Host} {command : Command} {output : List UInt8} {texts : List String}
    (hlaunch : host.launch command = .ran output 0) (hlines : Text.lines (Utf8.decode output) = texts) :
    (host.read command).lines = texts ∧ (host.read command).ending = .exhausted := by
  have hagree := partsAgree_of_ran hlaunch
  refine ⟨hagree.read_lines.trans hlines, ?_⟩
  rw [hagree.read_ending, if_pos rfl]

theorem read_written (host : Host) (command : Command) (terminator : Terminator) (texts : List String)
    (htexts : ∀ text ∈ texts, '\n' ∉ text.toList ∧ '\r' ∉ text.toList) :
    (host.launch command = .ran (written terminator texts) 0 →
        (host.read command).lines = texts ∧ (host.read command).ending = .exhausted)
      ∧ ∀ init last, texts = init ++ [last] → last ≠ "" →
          host.launch command = .ran (written terminator init ++ last.toUTF8.data.toList) 0 →
            (host.read command).lines = texts ∧ (host.read command).ending = .exhausted := by
  constructor
  · intro hlaunch
    -- All lines have their end, so what follows the last end is empty.
    have hlines := lines_written_append terminator htexts "" unbroken_nil
    rw [if_pos rfl, List.append_nil] at hlines
    apply read_of_lines_eq hlaunch
    simpa using hlines
  · rintro init last rfl hlast hlaunch
    have hinit : ∀ text ∈ init, ofChars.Unbroken text.toList := fun text h => htexts text (List.mem_append_left _ h)
    have hlines := lines_written_append terminator hinit last (htexts last (by simp))
    rw [if_neg hlast] at hlines
    exact read_of_lines_eq hlaunch hlines

/--
An empty line, blanks at both ends, a byte order mark, a null character, and a character of four octets.
-/
def writtenTexts : List String :=
  ["", " a ", "\uFEFF\x00", "", "\u2028😀"]

theorem read_written_writtenTexts :
    (∀ text ∈ writtenTexts, '\n' ∉ text.toList ∧ '\r' ∉ text.toList)
      ∧ ((uniformHost (written .carriageReturn writtenTexts) 0).read ⟨"dump", []⟩).lines = writtenTexts
      ∧ ((uniformHost (written .both ["", " a ", "\uFEFF\x00", ""] ++ "\u2028😀".toUTF8.data.toList) 0).read
          ⟨"dump", []⟩).lines = writtenTexts := by
  have htexts : ∀ text ∈ writtenTexts, '\n' ∉ text.toList ∧ '\r' ∉ text.toList := by decide
  refine ⟨htexts, ((read_written _ _ .carriageReturn writtenTexts htexts).1 rfl).1, ?_⟩
  exact ((read_written _ _ .both writtenTexts htexts).2 ["", " a ", "\uFEFF\x00", ""] "\u2028😀" rfl (by decide) rfl).1

end Host

end CallScope
