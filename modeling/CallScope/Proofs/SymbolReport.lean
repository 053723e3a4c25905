import CallScope.Proofs.Listings
import CallScope.Proofs.SymbolRow
import Mathlib.Data.List.Basic

/-!
This module contains whole symbol listings as they are written, and the proof that reading them gives the entry point
and the rows of the table of symbols that have a number as their index.
-/

namespace CallScope.SymbolListing

open Text Numeral

variable {inSymbols : Bool} {line : String}

theorem readLine_row {row : Row} (h : entryAddress? row.chars = none) (inSymbols : Bool) :
    readLine inSymbols row.text = (inSymbols, if inSymbols && row.hasNumber then some row.fact else none) := by
  have htext : row.text.toList = row.chars := String.toList_ofList
  rw [readLine_of_body, htext, row?_chars]
  · cases inSymbols with
    | false => rfl
    | true => cases row.hasNumber <;> rfl
  · rw [htext, h]
  · rw [htext, isHeading_row]

/--
What the lines of a listing say, knowing whether the section of symbols is open.
-/
def factsFrom (inSymbols : Bool) (lines : List String) : List SymbolFact :=
  (readLines.go inSymbols lines).filterMap id

theorem factsFrom_cons {next : Bool} {fact? : Option SymbolFact} (h : readLine inSymbols line = (next, fact?))
    (lines : List String) : factsFrom inSymbols (line :: lines) = fact?.toList ++ factsFrom next lines := by
  unfold factsFrom
  rw [readLines.go, h]
  cases fact? with
  | none => rfl
  | some fact => rfl

theorem factsFrom_rows {rows : List Row} (h : ∀ row ∈ rows, entryAddress? row.chars = none) (inSymbols : Bool)
    (lines : List String) :
    factsFrom inSymbols (rows.map Row.text ++ lines)
      = (if inSymbols then (rows.filter Row.hasNumber).map Row.fact else []) ++ factsFrom inSymbols lines := by
  induction rows with
  | nil => cases inSymbols <;> rfl
  | cons row rows ih =>
    obtain ⟨hrow, hrows⟩ := List.forall_mem_cons.mp h
    rw [List.map_cons, List.cons_append, factsFrom_cons (readLine_row hrow inSymbols), ih hrows]
    cases inSymbols with
    | false => rfl
    | true => cases hnumber : row.hasNumber <;> simp [hnumber]

/--
A line that begins a section and does not name the entry point.
-/
structure Heading where
  text : String
  isHeading_text : isHeading text.toList = true
  entryAddress?_text : entryAddress? text.toList = none

/--
The line above the rows of a table. It is indented and names the column of the numbers first.
-/
structure Columns where
  indent : Gap
  others : List Char
  entryAddress?_chars : entryAddress? (indent.chars ++ ("Num:".toList ++ others)) = none

/--
A table of symbols with its heading, and empty lines after it.
-/
structure Table where
  heading : Heading
  columns? : Option Columns
  rows : List Row
  spacing : Nat

def Columns.text (columns : Columns) : String :=
  String.ofList (columns.indent.chars ++ ("Num:".toList ++ columns.others))

def Table.lines (table : Table) : List String :=
  table.heading.text :: (table.columns?.toList.map Columns.text
    ++ (table.rows.map Row.text ++ List.replicate table.spacing ""))

theorem readLine_columns (columns : Columns) (inSymbols : Bool) :
    readLine inSymbols columns.text = (inSymbols, none) := by
  have htext : columns.text.toList = columns.indent.chars ++ ("Num:".toList ++ columns.others) := String.toList_ofList
  have hnumber : afterNumber? columns.text.toList = none := by
    have hstart : NoBlankHead ("Num:".toList ++ columns.others) := by
      intro c hc
      cases hc
      decide
    have hdigit : isDecimalDigit 'N' = false := by decide +kernel
    rw [htext, afterNumber?, dropWhile_isBlank_append columns.indent.accepts_of_mem hstart]
    simp [hdigit]
  have hrow : row? columns.text.toList = none := by
    rw [row?, hnumber]
    rfl
  rw [readLine_of_body, hrow]
  · cases inSymbols <;> rfl
  · rw [htext, columns.entryAddress?_chars]
  · obtain ⟨c, cs, hindent, hc⟩ := columns.indent.exists_cons
    rw [htext, hindent]
    exact isHeading_cons_eq_false (.inl hc) _

theorem factsFrom_spacing (inSymbols : Bool) (count : Nat) (lines : List String) :
    factsFrom inSymbols (List.replicate count "" ++ lines) = factsFrom inSymbols lines := by
  have hempty : readLine inSymbols "" = (inSymbols, none) := by cases inSymbols <;> decide +kernel
  induction count with
  | zero => rfl
  | succ count ih =>
    rw [List.replicate_succ, List.cons_append, factsFrom_cons hempty, ih]
    rfl

theorem factsFrom_table {table : Table} (h : ∀ row ∈ table.rows, entryAddress? row.chars = none) (inSymbols : Bool)
    (lines : List String) :
    factsFrom inSymbols (table.lines ++ lines)
      = (if hasPart sectionMark table.heading.text.toList then (table.rows.filter Row.hasNumber).map Row.fact else [])
        ++ factsFrom (hasPart sectionMark table.heading.text.toList) lines := by
  have hheading := @readLine_of_heading inSymbols _ table.heading.entryAddress?_text table.heading.isHeading_text
  unfold Table.lines
  rw [List.cons_append, factsFrom_cons hheading]
  generalize hasPart sectionMark table.heading.text.toList = opened
  cases table.columns? with
  | none =>
    simp only [Option.toList_none, List.map_nil, List.nil_append, List.append_assoc]
    rw [factsFrom_rows h, factsFrom_spacing]
  | some columns =>
    simp only [Option.toList_some, Option.toList_none, List.map_cons, List.map_nil, List.cons_append, List.nil_append,
      List.append_assoc]
    rw [factsFrom_cons (readLine_columns columns opened), factsFrom_rows h, factsFrom_spacing]
    rfl

/--
A line that neither names the entry point nor opens the section of symbols.
-/
structure IsQuiet (line : String) : Prop where
  entryAddress?_eq : entryAddress? line.toList = none
  opens_nothing : isHeading line.toList = true → hasPart sectionMark line.toList = false

theorem readLine_of_isQuiet (h : IsQuiet line) : readLine false line = (false, none) := by
  cases hheading : isHeading line.toList with
  | true => rw [readLine_of_heading h.entryAddress?_eq hheading, h.opens_nothing hheading]
  | false =>
    rw [readLine_of_body h.entryAddress?_eq hheading]
    rfl

theorem factsFrom_of_isQuiet {quiet : List String} (h : ∀ line ∈ quiet, IsQuiet line) (lines : List String) :
    factsFrom false (quiet ++ lines) = factsFrom false lines := by
  induction quiet with
  | nil => rfl
  | cons line quiet ih =>
    obtain ⟨hline, hquiet⟩ := List.forall_mem_cons.mp h
    rw [List.cons_append, factsFrom_cons (readLine_of_isQuiet hline), ih hquiet]
    rfl

/--
The report on a program: a header that names its entry point in one of its lines, a table of the symbols for linking,
and the table of all symbols.
-/
structure Report where
  before : List String
  indent : Spacing
  gap : Spacing
  entry : Nat
  after : List String
  dynamic : Table
  symbols : Table
  isQuiet_before : ∀ line ∈ before, IsQuiet line
  isQuiet_after : ∀ line ∈ after, IsQuiet line
  hasPart_dynamic : hasPart sectionMark dynamic.heading.text.toList = false
  hasPart_symbols : hasPart sectionMark symbols.heading.text.toList = true

namespace Report

def entryLine (report : Report) : String :=
  String.ofList (report.indent.chars ++ (entryLabel ++ (report.gap.chars ++ '0' :: 'x' :: hexDigits report.entry)))

def lines (report : Report) : List String :=
  "ELF Header:" :: (report.before
    ++ report.entryLine :: (report.after ++ (report.dynamic.lines ++ (report.symbols.lines))))

end Report

theorem entryHere?_of_isBlank {c : Char} (h : isBlank c = true) (cs : List Char) : entryHere? (c :: cs) = none := by
  have hne : ('E' == c) = false := by
    rw [beq_eq_false_iff_ne]
    rintro rfl
    revert h
    decide
  show (List.isPrefixOf? ('E' :: _) (c :: cs)).bind _ = none
  simp [List.isPrefixOf?, hne]

theorem entryAddress?_append (spacing : Spacing) (cs : List Char) :
    entryAddress? (spacing.chars ++ cs) = entryAddress? cs := by
  obtain ⟨chars, hchars⟩ := spacing
  induction chars with
  | nil => rfl
  | cons c chars ih =>
    rw [List.all_cons, Bool.and_eq_true] at hchars
    obtain ⟨hc, hrest⟩ := hchars
    show (entryHere? (c :: (chars ++ cs))).or (entryAddress? (chars ++ cs)) = _
    rw [entryHere?_of_isBlank hc]
    exact ih hrest

theorem hexNumber?_hexDigits (n : Nat) : hexNumber? ('0' :: 'x' :: hexDigits n) = some n := by
  have hdigits : (hexDigits n).takeWhile isHexDigit = hexDigits n := by
    rw [List.takeWhile_eq_self_iff]
    intro c hc
    exact isHexDigit_of_mem_hexDigits hc
  simp only [hexNumber?, hdigits]
  split
  · next hnil => simp [hexDigits] at hnil
  · rw [ofHexDigits_hexDigits]

theorem entryHere?_entryLabel_append (gap : Spacing) (n : Nat) :
    entryHere? (entryLabel ++ (gap.chars ++ '0' :: 'x' :: hexDigits n)) = some n := by
  have hmark : NoBlankHead ('0' :: 'x' :: hexDigits n) := by
    intro c hc
    cases hc
    decide
  have hlabel : entryLabel.isPrefixOf? (entryLabel ++ (gap.chars ++ '0' :: 'x' :: hexDigits n))
      = some (gap.chars ++ '0' :: 'x' :: hexDigits n) := List.isPrefixOf?_eq_some_iff_append_eq.mpr rfl
  rw [entryHere?, hlabel, Option.bind_some, dropWhile_isBlank_append gap.isBlank_of_mem hmark, hexNumber?_hexDigits]

theorem entryAddress?_of_entryHere? {cs : List Char} {n : Nat} (h : entryHere? cs = some n) :
    entryAddress? cs = some n := by
  cases cs with
  | nil =>
    obtain ⟨rest, hrest, _⟩ := Option.bind_eq_some_iff.mp h
    have hlabel := (List.append_eq_nil_iff.mp (List.isPrefixOf?_eq_some_iff_append_eq.mp hrest)).1
    exact absurd hlabel (by decide)
  | cons c cs => rw [entryAddress?, h, Option.some_or]

theorem entryAddress?_entryLine (report : Report) : entryAddress? report.entryLine.toList = some report.entry := by
  unfold Report.entryLine
  rw [String.toList_ofList, entryAddress?_append]
  apply entryAddress?_of_entryHere?
  apply entryHere?_entryLabel_append

theorem facts_lines (report : Report)
    (h : ∀ row ∈ report.dynamic.rows ++ report.symbols.rows, entryAddress? row.chars = none) :
    facts report.lines = .entry report.entry :: (report.symbols.rows.filter Row.hasNumber).map Row.fact := by
  have hheader : IsQuiet "ELF Header:" := ⟨by decide +kernel, by decide +kernel⟩
  obtain ⟨hdynamic, hsymbols⟩ := List.forall_mem_append.mp h
  show factsFrom false _ = _
  unfold Report.lines
  rw [factsFrom_cons (readLine_of_isQuiet hheader), factsFrom_of_isQuiet report.isQuiet_before,
    factsFrom_cons (readLine_of_entry (entryAddress?_entryLine report)), factsFrom_of_isQuiet report.isQuiet_after,
    factsFrom_table hdynamic, report.hasPart_dynamic, ← List.append_nil report.symbols.lines, factsFrom_table hsymbols,
    report.hasPart_symbols]
  simp [factsFrom, readLines.go]

def sampleRow (address : Nat) (index : Word) (name : Name) : Row where
  indent := ⟨[' ', ' '], by decide⟩
  number := ⟨['7'], by decide, by decide⟩
  margin := ⟨[' '], by decide⟩
  padding := 4
  address
  size := .hex ⟨['1', 'c'], by decide, by decide⟩
  kind := ⟨"FUNC".toList, by decide, by decide⟩
  binding := ⟨"GLOBAL".toList, by decide, by decide⟩
  visibility := ⟨"DEFAULT".toList, by decide, by decide⟩
  index
  name
  gaps _ := ⟨[' ', '\t'], by decide, by decide⟩

/--
A report in which names look like other fields and the linker's table has a row with a number as well.
-/
def sampleReport : Report where
  before := ["  Class:                             ELF64"]
  indent := ⟨[' ', ' '], by decide⟩
  gap := ⟨[' '], by decide⟩
  entry := 0x401040
  after := [""]
  dynamic :=
    { heading := ⟨"Symbol table '.dynsym' contains 1 entry:", by decide +kernel, by decide +kernel⟩
      columns? := none
      rows := [sampleRow 0x401500 ⟨['1', '4'], by decide, by decide +kernel⟩
        ⟨"dyn".toList, by decide, by decide, by decide, by decide⟩]
      spacing := 1 }
  symbols :=
    { heading := ⟨"Symbol table '.symtab' contains 2 entries:", by decide +kernel, by decide +kernel⟩
      columns? := some ⟨⟨[' ', ' '], by decide, by decide⟩, "    Value  Size Type".toList, by decide +kernel⟩
      rows := [sampleRow 0 ⟨"UND".toList, by decide, by decide +kernel⟩
          ⟨"3 puts".toList, by decide, by decide, by decide, by decide⟩,
        sampleRow 0x401126 ⟨['1', '4'], by decide, by decide +kernel⟩
          ⟨"9: 00ff 14 .symtab".toList, by decide, by decide, by decide, by decide⟩]
      spacing := 0 }
  isQuiet_before := by
    simp only [List.mem_singleton, forall_eq]
    exact ⟨by decide +kernel, by decide +kernel⟩
  isQuiet_after := by
    simp only [List.mem_singleton, forall_eq]
    exact ⟨by decide +kernel, by decide +kernel⟩
  hasPart_dynamic := by decide +kernel
  hasPart_symbols := by decide +kernel

theorem facts_lines_sample :
    (∀ row ∈ sampleReport.dynamic.rows ++ sampleReport.symbols.rows, entryAddress? row.chars = none)
      ∧ sampleReport.lines.getLast? = some "  7: 0000401126 \t0x1c \tFUNC \tGLOBAL \tDEFAULT \t14 \t9: 00ff 14 .symtab"
      ∧ facts sampleReport.lines = [.entry 0x401040, .symbol 0x401126 "9: 00ff 14 .symtab"] := by
  have hrows : ∀ row ∈ sampleReport.dynamic.rows ++ sampleReport.symbols.rows, entryAddress? row.chars = none := by
    decide +kernel
  refine ⟨hrows, by decide +kernel, ?_⟩
  rw [facts_lines sampleReport hrows]
  decide +kernel

end CallScope.SymbolListing
