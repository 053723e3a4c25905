import CallScope.Proofs.JsonGrammar
import CallScope.Proofs.JsonText
import CallScope.Proofs.Numerals
import Mathlib.Data.List.TakeWhile

/-!
This module contains the reading of written JSON. The text of a value, in either layout, is JSON for that value and for
no other one.
-/

namespace CallScope.Json

open Text

variable {c : Char} {cs rest : List Char}

theorem toLower_of_isHexDigit (h : Numeral.isHexDigit c = true) : c.toLower = c := by
  have hcodes : ∀ code < 128, Numeral.isHexDigit (Char.ofNat code) = true →
      (Char.ofNat code).toLower = Char.ofNat code := by
    decide +kernel
  have hlt : c.toNat < 128 := by
    rw [Numeral.isHexDigit_iff] at h
    omega
  have hc := hcodes c.toNat hlt
  rw [Char.ofNat_toNat] at hc
  exact hc h

theorem isUnit_paddedHex {unit : Nat} (h : unit < 0x10000) : IsUnit (paddedHex 4 unit) unit := by
  -- The digits with the zeros before them are a run of hexadecimal digits in lower case.
  have hdigits : ∀ c ∈ paddedHex 4 unit, Numeral.isHexDigit c = true :=
    (Numeral.paddedHexDigits (4 - (Numeral.hexDigits unit).length) unit).accepts_of_mem
  have hlower : ∀ c ∈ paddedHex 4 unit, c.toLower = c := fun c hc => toLower_of_isHexDigit (hdigits c hc)
  constructor
  · have hlength : (Numeral.hexDigits unit).length ≤ 4 := (Nat.length_toDigits_le_iff (by decide) (by decide)).mpr h
    simp only [paddedHex, List.length_append, List.length_replicate]
    omega
  · intro c hc
    rw [hlower c hc]
    exact hdigits c hc
  · rw [List.map_congr_left hlower, List.map_id']
    exact Numeral.ofHexDigits_paddedHexDigits _ unit

theorem spells_unitEscape {unit : Nat} (hlt : unit < 0x10000) (hc : c.toNat = unit) : Spells (unitEscape unit) c := by
  subst hc
  simp only [unitEscape, List.cons_append, List.nil_append]
  exact .escaped (.unit (isUnit_paddedHex hlt))

theorem spells_unitEscape_append {offset : Nat} (hlt : offset < 0x100000) (hc : c.toNat = 0x10000 + offset) :
    Spells (unitEscape (0xD800 + offset / 0x400) ++ unitEscape (0xDC00 + offset % 0x400)) c := by
  simp only [unitEscape, List.cons_append, List.nil_append]
  apply Spells.escaped
  apply Escape.pair hc
  · apply isUnit_paddedHex
    omega
  · apply isUnit_paddedHex
    omega

theorem eq_of_toNat_eq {code : Nat} (h : c.toNat = code) : c = Char.ofNat code := by
  rw [← h, Char.ofNat_toNat]

theorem spells_escape (c : Char) : Spells (escape c) c := by
  unfold escape
  split
  · next hquote => rcases hquote with rfl | rfl <;> exact .escaped (.letter (by decide))
  next hquote =>
  split
  · next hc =>
    cases hc
    exact .escaped (.letter (by decide))
  split
  · next hc =>
    cases hc
    exact .escaped (.letter (by decide))
  split
  · next hc =>
    cases hc
    exact .escaped (.letter (by decide))
  split
  · next hc =>
    cases eq_of_toNat_eq hc
    exact .escaped (.letter (by decide))
  split
  · next hc =>
    cases eq_of_toNat_eq hc
    exact .escaped (.letter (by decide))
  split
  · next hvisible => exact .plain hvisible.1 (fun hc => hquote (.inl hc)) (fun hc => hquote (.inr hc))
  split
  · next hlt => exact spells_unitEscape hlt rfl
  · next hlt =>
    have hvalid := not_surrogate c
    apply spells_unitEscape_append <;> omega

theorem stringBody_escape (text rest : List Char) : StringBody (text.flatMap escape ++ '"' :: rest) text rest := by
  induction text with
  | nil => exact .close
  | cons c text ih =>
    rw [List.flatMap_cons, List.append_assoc]
    exact .next rfl (spells_escape c) ih

theorem reads_quote (text : String) (rest : List Char) : Reads (quote text ++ rest) (.value (.str text)) rest := by
  have hbody := stringBody_escape text.toList rest
  have hreads := Reads.str hbody
  rw [String.ofList_toList] at hreads
  simpa [quote] using hreads

theorem nameColon_quote (name : String) (rest : List Char) : NameColon (quote name ++ ':' :: rest) name rest := by
  have hbody := stringBody_escape name.toList (':' :: rest)
  have hname := NameColon.intro hbody rfl
  rw [String.ofList_toList] at hname
  simpa [quote] using hname

theorem isScalarChar_of_isDigit (h : c.isDigit = true) : isScalarChar c = true := by
  simp [isScalarChar, Char.isAlphanum, h]

theorem isWhole_toDigits (n : Nat) : isWhole (Nat.toDigits 10 n) = true := by
  have hne : Nat.toDigits 10 n ≠ [] := Nat.toDigits_ne_nil
  by_cases hzero : (Nat.toDigits 10 n).head? = some '0'
  · cases Numeral.eq_zero_of_head?_toDigits (by decide) (by decide) hzero
    decide
  · simp [isWhole, hne, hzero]

theorem unsigned?_toDigits (negative : Bool) (n : Nat) :
    unsigned? negative (Nat.toDigits 10 n) = some (.int (if negative then -(n : Int) else n)) := by
  have hdigits : ∀ c ∈ Nat.toDigits 10 n, c.isDigit = true :=
    fun c hc => Nat.isDigit_of_mem_toDigits (by decide) (by decide) hc
  have htake : (Nat.toDigits 10 n).takeWhile Char.isDigit = Nat.toDigits 10 n := by
    rw [List.takeWhile_eq_self_iff]
    exact hdigits
  have hdrop : (Nat.toDigits 10 n).dropWhile Char.isDigit = [] := by
    rw [List.dropWhile_eq_nil_iff]
    exact hdigits
  have hvalue : Nat.ofDigitChars 10 (Nat.toDigits 10 n) 0 = n := Nat.ofDigitChars_toDigits (by decide) (by decide)
  simp only [unsigned?, htake, hdrop, isWhole_toDigits, hvalue]
  rfl

theorem scalar?_of_isDigit {cs : List Char} (h : c.isDigit = true) : scalar? (c :: cs) = unsigned? false (c :: cs) := by
  have hword : ∀ first rest, first.isDigit = false → c :: cs ≠ first :: rest := by
    intro first rest hfirst heq
    cases heq
    rw [h] at hfirst
    cases hfirst
  have hnull : c :: cs ≠ "null".toList := hword 'n' _ (by decide)
  have htrue : c :: cs ≠ "true".toList := hword 't' _ (by decide)
  have hfalse : c :: cs ≠ "false".toList := hword 'f' _ (by decide)
  unfold scalar?
  rw [if_neg hnull, if_neg htrue, if_neg hfalse]
  split
  · next heq => exact absurd heq (hword '-' _ (by decide))
  · rfl

theorem scalar?_minus (cs : List Char) : scalar? ('-' :: cs) = unsigned? true cs := by
  rfl

theorem toList_decimalText (n : Int) :
    (Numeral.decimalText n).toList = (if n < 0 then ['-'] else []) ++ Nat.toDigits 10 n.natAbs := by
  unfold Numeral.decimalText
  split <;> simp

theorem scalar?_decimalText (n : Int) : scalar? (Numeral.decimalText n).toList = some (.int n) := by
  rw [toList_decimalText]
  by_cases hneg : n < 0
  · have habs : -(n.natAbs : Int) = n := by omega
    rw [if_pos hneg, List.singleton_append, scalar?_minus, unsigned?_toDigits, if_pos rfl, habs]
  · have habs : (n.natAbs : Int) = n := by omega
    obtain ⟨c, cs, hdigits⟩ := List.exists_cons_of_ne_nil (@Nat.toDigits_ne_nil n.natAbs 10)
    have hc : c.isDigit = true := by
      apply Nat.isDigit_of_mem_toDigits (b := 10) (n := n.natAbs) (by decide) (by decide)
      rw [hdigits]
      exact List.mem_cons_self
    rw [if_neg hneg, List.nil_append, hdigits, scalar?_of_isDigit hc, ← hdigits, unsigned?_toDigits, if_neg (by decide),
      habs]

theorem isScalarChar_of_mem_decimalText {n : Int} (h : c ∈ (Numeral.decimalText n).toList) : isScalarChar c = true := by
  rw [toList_decimalText, List.mem_append] at h
  rcases h with hsign | hdigit
  · split at hsign
    · cases List.mem_singleton.mp hsign
      decide
    · cases hsign
  · exact isScalarChar_of_isDigit (Nat.isDigit_of_mem_toDigits (by decide) (by decide) hdigit)

/--
Values without binary numbers, in which no object names a field twice.
-/
inductive IsPlain : Json → Prop where
  | null : IsPlain .null
  | bool {value : Bool} : IsPlain (.bool value)
  | int {n : Int} : IsPlain (.int n)
  | str {text : String} : IsPlain (.str text)
  | arr {items : List Json} : (∀ item ∈ items, IsPlain item) → IsPlain (.arr items)
  | obj {fields : List (String × Json)} : (fields.map Prod.fst).Nodup → (∀ field ∈ fields, IsPlain field.2) →
    IsPlain (.obj fields)

section

variable {layout : Layout} {depth : Nat}

theorem skip_lineBreak_append (layout : Layout) (depth : Nat) (cs : List Char) :
    skip (layout.lineBreak depth ++ cs) = skip cs := by
  apply List.dropWhile_append_of_pos
  intro c hc
  cases layout with
  | oneLine => cases hc
  | indented =>
    rcases List.mem_cons.mp hc with rfl | hc
    · decide
    · cases List.eq_of_mem_replicate hc
      decide

theorem exists_separator (layout : Layout) (depth : Nat) :
    ∃ gap, layout.separator depth = ',' :: gap ∧ ∀ cs, skip (gap ++ cs) = skip cs := by
  cases layout with
  | oneLine => exact ⟨[' '], rfl, fun _ => rfl⟩
  | indented => exact ⟨Layout.lineBreak .indented depth, rfl, skip_lineBreak_append .indented depth⟩

theorem stops_lineBreak_append (hc : isScalarChar c = false) :
    Stops isScalarChar (layout.lineBreak depth ++ c :: rest) := by
  cases layout with
  | oneLine => simpa [Layout.lineBreak, Stops] using hc
  | indented =>
    intro first hfirst
    cases hfirst
    decide

theorem stops_separator_append : Stops isScalarChar (layout.separator depth ++ rest) := by
  obtain ⟨gap, hgap, _⟩ := exists_separator layout depth
  rw [hgap]
  intro first hfirst
  cases hfirst
  decide

theorem stops_itemChars_append (layout : Layout) (depth : Nat) (items : List Json) (rest : List Char) :
    Stops isScalarChar (itemChars layout (depth + 1) items ++ (layout.lineBreak depth ++ ']' :: rest)) := by
  cases items with
  | nil => exact stops_lineBreak_append (by decide)
  | cons item items =>
    rw [itemChars_cons, List.append_assoc, List.append_assoc]
    exact stops_separator_append

theorem stops_fieldChars_append (layout : Layout) (depth : Nat) (fields : List (String × Json)) (rest : List Char) :
    Stops isScalarChar (fieldChars layout (depth + 1) fields ++ (layout.lineBreak depth ++ '\x7d' :: rest)) := by
  cases fields with
  | nil => exact stops_lineBreak_append (by decide)
  | cons field fields =>
    obtain ⟨name, value⟩ := field
    simp only [fieldChars_cons, List.append_assoc]
    exact stops_separator_append

end

/--
A field that follows some white space.
-/
theorem reads_field {gap more : List Char} {value : Json} (name : String)
    (hgap : ∀ cs, skip (gap ++ cs) = skip cs) (hvalue : Reads cs (.value value) more) :
    ∃ before, NameColon (skip (gap ++ (quote name ++ ':' :: ' ' :: cs))) name before
      ∧ Reads (skip before) (.value value) more := by
  refine ⟨' ' :: cs, ?_, ?_⟩
  · rw [hgap]
    exact nameColon_quote name (' ' :: cs)
  · have hskip : skip (' ' :: cs) = skip cs := rfl
    rw [hskip, hvalue.skip_eq]
    exact hvalue

mutual

theorem reads_chars (layout : Layout) (depth : Nat) : ∀ (value : Json) (rest : List Char), IsPlain value →
    Stops isScalarChar rest → Reads (chars layout depth value ++ rest) (.value value) rest
  | .null, _, _, hrest => .scalar rfl rfl rfl hrest
  | .bool true, _, _, hrest => .scalar rfl rfl rfl hrest
  | .bool false, _, _, hrest => .scalar rfl rfl rfl hrest
  | .int n, _, _, hrest => by
    apply Reads.scalar rfl (scalar?_decimalText n) _ hrest
    rw [List.all_eq_true]
    intro c hc
    exact isScalarChar_of_mem_decimalText hc
  | .real _, _, hplain, _ => by cases hplain
  | .str text, rest, _, _ => reads_quote text rest
  | .arr [], _, _, _ => .arrEmpty rfl
  | .arr (item :: items), rest, .arr hplain, _ => by
    obtain ⟨hfirst, hothers⟩ := List.forall_mem_cons.mp hplain
    have hitems := reads_itemChars layout depth items rest hothers
    have hitem := reads_chars layout (depth + 1) item _ hfirst (stops_itemChars_append layout depth items rest)
    simp only [chars_arr_cons, List.cons_append, List.append_assoc, List.nil_append]
    apply Reads.arr _ hitems
    rw [skip_lineBreak_append, hitem.skip_eq]
    exact hitem
  | .obj [], _, _, _ => .objEmpty rfl
  | .obj ((name, value) :: fields), rest, .obj _ hplain, _ => by
    obtain ⟨hfirst, hothers⟩ := List.forall_mem_cons.mp hplain
    have hfields := reads_fieldChars layout depth fields rest hothers
    have hvalue := reads_chars layout (depth + 1) value _ hfirst (stops_fieldChars_append layout depth fields rest)
    obtain ⟨before, hname, hbefore⟩ := reads_field name (skip_lineBreak_append layout (depth + 1)) hvalue
    simp only [chars_obj_cons, List.cons_append, List.append_assoc, List.nil_append]
    exact .obj hname hbefore hfields

theorem reads_itemChars (layout : Layout) (depth : Nat) : ∀ (items : List Json) (rest : List Char),
    (∀ item ∈ items, IsPlain item) →
    Reads (skip (itemChars layout (depth + 1) items ++ (layout.lineBreak depth ++ ']' :: rest))) (.items items) rest
  | [], rest, _ => by
    rw [itemChars, List.nil_append, skip_lineBreak_append]
    exact .itemsEnd
  | item :: items, rest, hplain => by
    obtain ⟨hfirst, hothers⟩ := List.forall_mem_cons.mp hplain
    have hitems := reads_itemChars layout depth items rest hothers
    have hitem := reads_chars layout (depth + 1) item _ hfirst (stops_itemChars_append layout depth items rest)
    obtain ⟨gap, hseparator, hgap⟩ := exists_separator layout (depth + 1)
    simp only [itemChars_cons, hseparator, List.cons_append, List.append_assoc]
    apply Reads.itemsNext _ hitems
    rw [hgap, hitem.skip_eq]
    exact hitem

theorem reads_fieldChars (layout : Layout) (depth : Nat) : ∀ (fields : List (String × Json)) (rest : List Char),
    (∀ field ∈ fields, IsPlain field.2) →
    Reads (skip (fieldChars layout (depth + 1) fields ++ (layout.lineBreak depth ++ '\x7d' :: rest)))
      (.fields fields) rest
  | [], rest, _ => by
    rw [fieldChars, List.nil_append, skip_lineBreak_append]
    exact .fieldsEnd
  | (name, value) :: fields, rest, hplain => by
    obtain ⟨hfirst, hothers⟩ := List.forall_mem_cons.mp hplain
    have hfields := reads_fieldChars layout depth fields rest hothers
    have hvalue := reads_chars layout (depth + 1) value _ hfirst (stops_fieldChars_append layout depth fields rest)
    obtain ⟨gap, hseparator, hgap⟩ := exists_separator layout (depth + 1)
    obtain ⟨before, hname, hbefore⟩ := reads_field name hgap hvalue
    simp only [fieldChars_cons, hseparator, List.cons_append, List.append_assoc, List.nil_append]
    exact .fieldsNext hname hbefore hfields

end

theorem denotes_text {value : Json} (layout : Layout) (h : IsPlain value) : Denotes (value.text layout) value := by
  have hreads := reads_chars layout 0 value [] h (by simp [Stops])
  refine ⟨[], ?_, rfl⟩
  rw [List.append_nil] at hreads
  rw [text, String.toList_ofList, hreads.skip_eq]
  exact hreads

end CallScope.Json
