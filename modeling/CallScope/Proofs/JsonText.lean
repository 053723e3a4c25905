import CallScope.Json.Writer
import CallScope.Proofs.Characters
import Mathlib.Algebra.Group.Nat.Defs

/-!
This module contains which characters the text of a JSON value has: visible ASCII only, except that the indented layout
breaks lines between items. It also contains when the integers in a value have few enough digits to be written.
-/

namespace CallScope

namespace Json

def IsVisible (c : Char) : Prop :=
  0x20 ≤ c.toNat ∧ c.toNat ≤ 0x7E

instance : DecidablePred IsVisible :=
  fun c => inferInstanceAs (Decidable (0x20 ≤ c.toNat ∧ c.toNat ≤ 0x7E))

variable {c : Char}

theorem isVisible_of_all {cs : List Char} (hcs : cs.all (IsVisible ·) = true) (h : c ∈ cs) : IsVisible c := by
  simpa using List.all_eq_true.mp hcs c h

theorem isVisible_of_isHexDigit (h : Numeral.isHexDigit c = true) : IsVisible c := by
  rw [Numeral.isHexDigit_iff] at h
  unfold IsVisible
  omega

theorem isVisible_of_mem_toDigits {n : Nat} (h : c ∈ Nat.toDigits 10 n) : IsVisible c := by
  have hdigit := Nat.isDigit_of_mem_toDigits (by decide) (by decide) h
  rw [Char.isDigit_iff_toNat] at hdigit
  exact ⟨Nat.le_trans (by decide) hdigit.1, Nat.le_trans hdigit.2 (by decide)⟩

theorem isVisible_of_mem_unitEscape {unit : Nat} (h : c ∈ unitEscape unit) : IsVisible c := by
  simp only [unitEscape, Text.paddedHex, List.mem_append, List.mem_replicate] at h
  rcases h with hmark | ⟨_, rfl⟩ | hdigit
  · exact isVisible_of_all (by decide) hmark
  · decide
  · exact isVisible_of_isHexDigit (Numeral.isHexDigit_of_mem_hexDigits hdigit)

theorem isVisible_of_mem_escape {source : Char} (h : c ∈ escape source) : IsVisible c := by
  unfold escape at h
  split at h
  · next hquote =>
    rcases hquote with rfl | rfl
    all_goals exact isVisible_of_all (by decide) h
  -- A control character with a name of its own is a backslash and a letter.
  iterate 5
    split at h
    · exact isVisible_of_all (by decide) h
  split at h
  · next hvisible =>
    cases List.mem_singleton.mp h
    exact hvisible
  split at h
  · exact isVisible_of_mem_unitEscape h
  · rcases List.mem_append.mp h with hhigh | hlow
    · exact isVisible_of_mem_unitEscape hhigh
    · exact isVisible_of_mem_unitEscape hlow

theorem isVisible_of_mem_quote {text : String} (h : c ∈ quote text) : IsVisible c := by
  simp only [quote, List.cons_append, List.mem_cons, List.mem_append, List.mem_flatMap, List.not_mem_nil,
    or_false] at h
  rcases h with rfl | ⟨_, _, hescape⟩ | rfl
  · decide
  · exact isVisible_of_mem_escape hescape
  · decide

theorem isVisible_of_mem_decimalText {n : Int} (h : c ∈ (Numeral.decimalText n).toList) : IsVisible c := by
  rw [Numeral.decimalText, String.toList_append, List.mem_append, String.toList_ofList] at h
  rcases h with hsign | hdigit
  · split at hsign
    · cases List.mem_singleton.mp hsign
      decide
    · cases hsign
  · exact isVisible_of_mem_toDigits hdigit

theorem isVisible_of_mem_layout {digits : List Char} {point : Int} (hdigits : ∀ d ∈ digits, IsVisible d)
    (h : c ∈ Numeral.Binary64.layout digits point) : IsVisible c := by
  have htake : ∀ n, ∀ d ∈ digits.take n, IsVisible d := fun n d hd => hdigits d (List.mem_of_mem_take hd)
  have hdrop : ∀ n, ∀ d ∈ '.' :: digits.drop n, IsVisible d := by
    intro n d hd
    rcases List.mem_cons.mp hd with rfl | hd
    · decide
    · exact hdigits d (List.mem_of_mem_drop hd)
  have hzeros : ∀ n, ∀ d ∈ List.replicate n '0', IsVisible d := by
    intro n d hd
    cases List.eq_of_mem_replicate hd
    decide
  unfold Numeral.Binary64.layout at h
  split at h
  · simp only [List.mem_append, or_assoc] at h
    rcases h with hfirst | hrest | hmark | hpadding | hpower
    · exact htake 1 c hfirst
    · split at hrest
      · cases hrest
      · exact hdrop 1 c hrest
    · split at hmark
      all_goals exact isVisible_of_all (by decide) hmark
    · exact hzeros _ c hpadding
    · exact isVisible_of_mem_toDigits hpower
  split at h
  · simp only [List.mem_append, or_assoc] at h
    rcases h with hmark | hpadding | hdigit
    · exact isVisible_of_all (by decide) hmark
    · exact hzeros _ c hpadding
    · exact hdigits c hdigit
  split at h
  · simp only [List.mem_append, or_assoc] at h
    rcases h with hdigit | hpadding | hmark
    · exact hdigits c hdigit
    · exact hzeros _ c hpadding
    · exact isVisible_of_all (by decide) hmark
  · rcases List.mem_append.mp h with hwhole | hpart
    · exact htake _ c hwhole
    · exact hdrop _ c hpart

theorem isVisible_of_mem_shortest {mantissa : Nat} {exponent : Int}
    (h : c ∈ (Numeral.Binary64.shortest mantissa exponent).1) : IsVisible c := by
  unfold Numeral.Binary64.shortest at h
  rw [List.mem_reverse] at h
  have hdigit := (List.dropWhile_sublist _).subset h
  rw [List.mem_reverse] at hdigit
  exact isVisible_of_mem_toDigits hdigit

theorem isVisible_of_mem_realText {x : Numeral.Binary64} (h : c ∈ x.text.toList) : IsVisible c := by
  have hsign : ∀ negative, ∀ d ∈ (Numeral.Binary64.sign negative).toList, IsVisible d := by
    intro negative d hd
    cases negative with
    | false => cases hd
    | true =>
      cases List.mem_singleton.mp hd
      decide
  cases x with
  | infinite negative =>
    rw [Numeral.Binary64.text, String.toList_append, List.mem_append] at h
    rcases h with hd | hword
    · exact hsign negative c hd
    · exact isVisible_of_all (by decide) hword
  | finite negative mantissa exponent =>
    rw [Numeral.Binary64.text, String.toList_append, List.mem_append] at h
    rcases h with hd | hnumber
    · exact hsign negative c hd
    · split at hnumber
      · exact isVisible_of_all (by decide) hnumber
      · rw [String.toList_ofList] at hnumber
        exact isVisible_of_mem_layout (fun d hd => isVisible_of_mem_shortest hd) hnumber

/--
The characters that a text in a layout may have.
-/
def Layout.Permits (layout : Layout) (c : Char) : Prop :=
  IsVisible c ∨ (layout = .indented ∧ c = '\n')

variable {layout : Layout} {depth : Nat}

theorem Layout.permits_of_mem_lineBreak (h : c ∈ layout.lineBreak depth) : layout.Permits c := by
  cases layout with
  | oneLine => cases h
  | indented =>
    rcases List.mem_cons.mp h with rfl | hblank
    · exact .inr ⟨rfl, rfl⟩
    · cases List.eq_of_mem_replicate hblank
      exact .inl (by decide)

theorem Layout.permits_of_mem_separator (h : c ∈ layout.separator depth) : layout.Permits c := by
  cases layout with
  | oneLine => exact .inl (isVisible_of_all rfl h)
  | indented =>
    rcases List.mem_cons.mp h with rfl | hbreak
    · exact .inl (by decide)
    · exact permits_of_mem_lineBreak hbreak

theorem chars_arr_cons (layout : Layout) (depth : Nat) (item : Json) (items : List Json) :
    chars layout depth (.arr (item :: items))
      = '[' :: layout.lineBreak (depth + 1) ++ chars layout (depth + 1) item
        ++ itemChars layout (depth + 1) items ++ layout.lineBreak depth ++ [']'] := by
  rfl

theorem chars_obj_cons (layout : Layout) (depth : Nat) (name : String) (value : Json) (fields : List (String × Json)) :
    chars layout depth (.obj ((name, value) :: fields))
      = '\x7b' :: layout.lineBreak (depth + 1) ++ quote name ++ [':', ' '] ++ chars layout (depth + 1) value
        ++ fieldChars layout (depth + 1) fields ++ layout.lineBreak depth ++ ['\x7d'] := by
  rfl

theorem itemChars_cons (layout : Layout) (depth : Nat) (item : Json) (items : List Json) :
    itemChars layout depth (item :: items)
      = layout.separator depth ++ chars layout depth item ++ itemChars layout depth items := by
  rfl

theorem fieldChars_cons (layout : Layout) (depth : Nat) (name : String) (value : Json)
    (fields : List (String × Json)) :
    fieldChars layout depth ((name, value) :: fields)
      = layout.separator depth ++ quote name ++ [':', ' '] ++ chars layout depth value
        ++ fieldChars layout depth fields := by
  rfl

mutual

theorem permits_of_mem_chars (layout : Layout) (depth : Nat) (c : Char) :
    ∀ value, c ∈ chars layout depth value → layout.Permits c
  | .null, h => .inl (isVisible_of_all rfl h)
  | .bool true, h => .inl (isVisible_of_all rfl h)
  | .bool false, h => .inl (isVisible_of_all rfl h)
  | .int _, h => .inl (isVisible_of_mem_decimalText h)
  | .real _, h => .inl (isVisible_of_mem_realText h)
  | .str _, h => .inl (isVisible_of_mem_quote h)
  | .arr [], h => .inl (isVisible_of_all rfl h)
  | .arr (item :: items), h => by
    simp only [chars_arr_cons, List.cons_append, List.mem_cons, List.mem_append, List.not_mem_nil, or_false,
      or_assoc] at h
    rcases h with rfl | hbreak | hitem | hitems | hbreak | rfl
    · exact .inl (by decide)
    · exact Layout.permits_of_mem_lineBreak hbreak
    · exact permits_of_mem_chars layout (depth + 1) c item hitem
    · exact permits_of_mem_itemChars layout (depth + 1) c items hitems
    · exact Layout.permits_of_mem_lineBreak hbreak
    · exact .inl (by decide)
  | .obj [], h => .inl (isVisible_of_all rfl h)
  | .obj ((name, value) :: fields), h => by
    simp only [chars_obj_cons, List.cons_append, List.mem_cons, List.mem_append, List.not_mem_nil, or_false,
      or_assoc] at h
    rcases h with rfl | hbreak | hname | rfl | rfl | hvalue | hfields | hbreak | rfl
    · exact .inl (by decide)
    · exact Layout.permits_of_mem_lineBreak hbreak
    · exact .inl (isVisible_of_mem_quote hname)
    · exact .inl (by decide)
    · exact .inl (by decide)
    · exact permits_of_mem_chars layout (depth + 1) c value hvalue
    · exact permits_of_mem_fieldChars layout (depth + 1) c fields hfields
    · exact Layout.permits_of_mem_lineBreak hbreak
    · exact .inl (by decide)

theorem permits_of_mem_itemChars (layout : Layout) (depth : Nat) (c : Char) :
    ∀ items, c ∈ itemChars layout depth items → layout.Permits c
  | [], h => by cases h
  | item :: items, h => by
    simp only [itemChars_cons, List.mem_append, or_assoc] at h
    rcases h with hseparator | hitem | hitems
    · exact Layout.permits_of_mem_separator hseparator
    · exact permits_of_mem_chars layout depth c item hitem
    · exact permits_of_mem_itemChars layout depth c items hitems

theorem permits_of_mem_fieldChars (layout : Layout) (depth : Nat) (c : Char) :
    ∀ fields, c ∈ fieldChars layout depth fields → layout.Permits c
  | [], h => by cases h
  | (name, value) :: fields, h => by
    simp only [fieldChars_cons, List.mem_cons, List.mem_append, List.not_mem_nil, or_false, or_assoc] at h
    rcases h with hseparator | hname | rfl | rfl | hvalue | hfields
    · exact Layout.permits_of_mem_separator hseparator
    · exact .inl (isVisible_of_mem_quote hname)
    · exact .inl (by decide)
    · exact .inl (by decide)
    · exact permits_of_mem_chars layout depth c value hvalue
    · exact permits_of_mem_fieldChars layout depth c fields hfields

end

section

variable {cs more : List Char}

/--
The line breaks of a text stand between items: after an opening bracket or a comma, or before a closing bracket.
-/
def BreaksBetween (cs : List Char) : Prop :=
  ∀ before after, cs = before ++ '\n' :: after →
    (∃ c ∈ before.getLast?, c ∈ ['[', '\x7b', ',']) ∨ ∃ c ∈ (after.dropWhile (· = ' ')).head?, c ∈ [']', '\x7d']

theorem breaksBetween_of_not_mem (h : '\n' ∉ cs) : BreaksBetween cs := by
  rintro before after rfl
  simp at h

theorem mem_head?_dropWhile_append {p : Char → Bool} (h : c ∈ (cs.dropWhile p).head?) :
    c ∈ ((cs ++ more).dropWhile p).head? := by
  rw [List.dropWhile_append]
  split
  · next hempty =>
    rw [List.isEmpty_iff] at hempty
    rw [hempty] at h
    cases h
  · rw [List.head?_append, Option.mem_def.mp h]
    rfl

theorem BreaksBetween.append (hcs : BreaksBetween cs) (hmore : BreaksBetween more) : BreaksBetween (cs ++ more) := by
  intro before after heq
  rcases List.append_eq_append_iff.mp heq with ⟨between, rfl, htail⟩ | ⟨between, rfl, htail⟩
  · rcases hmore between after htail with ⟨c, hlast, hc⟩ | hafter
    · refine .inl ⟨c, ?_, hc⟩
      rw [List.getLast?_append, Option.mem_def.mp hlast]
      rfl
    · exact .inr hafter
  · cases between with
    | nil =>
      rcases hmore [] after htail.symm with ⟨c, hlast, _⟩ | hafter
      · cases hlast
      · exact .inr hafter
    | cons first between =>
      cases htail
      rcases hcs before between rfl with hbefore | ⟨c, hhead, hc⟩
      · exact .inl hbefore
      · exact .inr ⟨c, mem_head?_dropWhile_append hhead, hc⟩

theorem breaksBetween_cons_lineBreak (hc : c ∈ ['[', '\x7b', ',']) : BreaksBetween (c :: layout.lineBreak depth) := by
  have hne : c ≠ '\n' := by
    rintro rfl
    revert hc
    decide
  cases layout with
  | oneLine => exact breaksBetween_of_not_mem (by simpa [Layout.lineBreak] using hne.symm)
  | indented =>
    intro before after heq
    rcases before with _ | ⟨first, _ | ⟨second, before⟩⟩
    · cases heq
      exact absurd rfl hne
    · cases heq
      exact .inl ⟨c, rfl, hc⟩
    -- There is only one line break, and it is the first character of the three.
    · have hblanks : List.replicate (2 * depth) ' ' = before ++ '\n' :: after := (List.cons.inj (List.cons.inj heq).2).2
      have hmem : '\n' ∈ List.replicate (2 * depth) ' ' := by simp [hblanks]
      cases List.eq_of_mem_replicate hmem

theorem breaksBetween_lineBreak_append (hc : c ∈ [']', '\x7d']) : BreaksBetween (layout.lineBreak depth ++ [c]) := by
  have hne : c ≠ '\n' := by
    rintro rfl
    revert hc
    decide
  have hblank : c ≠ ' ' := by
    rintro rfl
    revert hc
    decide
  cases layout with
  | oneLine => exact breaksBetween_of_not_mem (by simpa [Layout.lineBreak] using hne.symm)
  | indented =>
    intro before after heq
    cases before with
    | nil =>
      have htail : List.replicate (2 * depth) ' ' ++ [c] = after := (List.cons.inj heq).2
      refine .inr ⟨c, ?_, hc⟩
      rw [← htail, List.dropWhile_append_of_pos (by simp)]
      simp [hblank]
    | cons first before =>
      have htail : List.replicate (2 * depth) ' ' ++ [c] = before ++ '\n' :: after := (List.cons.inj heq).2
      have hmem : '\n' ∈ List.replicate (2 * depth) ' ' ++ [c] := by simp [htail]
      simp [hne.symm] at hmem

theorem breaksBetween_of_isVisible (h : ∀ c ∈ cs, IsVisible c) : BreaksBetween cs := by
  apply breaksBetween_of_not_mem
  intro hmem
  have hvisible := h '\n' hmem
  revert hvisible
  decide

theorem breaksBetween_separator (layout : Layout) (depth : Nat) : BreaksBetween (layout.separator depth) := by
  cases layout with
  | oneLine => exact breaksBetween_of_isVisible fun c hc => isVisible_of_all rfl hc
  | indented => exact breaksBetween_cons_lineBreak (by decide)

theorem breaksBetween_name (name : String) : BreaksBetween (quote name ++ [':', ' ']) := by
  apply breaksBetween_of_isVisible
  intro c hc
  rcases List.mem_append.mp hc with hc | hc
  · exact isVisible_of_mem_quote hc
  · exact isVisible_of_all (by decide) hc

mutual

theorem breaksBetween_chars (layout : Layout) (depth : Nat) : ∀ value, BreaksBetween (chars layout depth value)
  | .null => breaksBetween_of_isVisible fun _ hc => isVisible_of_all rfl hc
  | .bool true => breaksBetween_of_isVisible fun _ hc => isVisible_of_all rfl hc
  | .bool false => breaksBetween_of_isVisible fun _ hc => isVisible_of_all rfl hc
  | .int _ => breaksBetween_of_isVisible fun _ hc => isVisible_of_mem_decimalText hc
  | .real _ => breaksBetween_of_isVisible fun _ hc => isVisible_of_mem_realText hc
  | .str _ => breaksBetween_of_isVisible fun _ hc => isVisible_of_mem_quote hc
  | .arr [] => breaksBetween_of_isVisible fun _ hc => isVisible_of_all rfl hc
  | .arr (item :: items) => by
    rw [chars_arr_cons, List.append_assoc _ (layout.lineBreak depth)]
    apply BreaksBetween.append
    · apply BreaksBetween.append
      · apply BreaksBetween.append
        · exact breaksBetween_cons_lineBreak (by decide)
        · exact breaksBetween_chars layout (depth + 1) item
      · exact breaksBetween_itemChars layout (depth + 1) items
    · exact breaksBetween_lineBreak_append (by decide)
  | .obj [] => breaksBetween_of_isVisible fun _ hc => isVisible_of_all rfl hc
  | .obj ((name, value) :: fields) => by
    rw [chars_obj_cons, List.append_assoc _ (layout.lineBreak depth), List.append_assoc _ (quote name)]
    apply BreaksBetween.append
    · apply BreaksBetween.append
      · apply BreaksBetween.append
        · apply BreaksBetween.append
          · exact breaksBetween_cons_lineBreak (by decide)
          · exact breaksBetween_name name
        · exact breaksBetween_chars layout (depth + 1) value
      · exact breaksBetween_fieldChars layout (depth + 1) fields
    · exact breaksBetween_lineBreak_append (by decide)

theorem breaksBetween_itemChars (layout : Layout) (depth : Nat) : ∀ items, BreaksBetween (itemChars layout depth items)
  | [] => breaksBetween_of_not_mem List.not_mem_nil
  | item :: items => by
    rw [itemChars_cons]
    apply BreaksBetween.append
    · apply BreaksBetween.append
      · exact breaksBetween_separator layout depth
      · exact breaksBetween_chars layout depth item
    · exact breaksBetween_itemChars layout depth items

theorem breaksBetween_fieldChars (layout : Layout) (depth : Nat) :
    ∀ fields, BreaksBetween (fieldChars layout depth fields)
  | [] => breaksBetween_of_not_mem List.not_mem_nil
  | (name, value) :: fields => by
    rw [fieldChars_cons, List.append_assoc _ (quote name)]
    apply BreaksBetween.append
    · apply BreaksBetween.append
      · apply BreaksBetween.append
        · exact breaksBetween_separator layout depth
        · exact breaksBetween_name name
      · exact breaksBetween_chars layout depth value
    · exact breaksBetween_fieldChars layout depth fields

end

end

theorem newline_not_mem_text_oneLine (value : Json) : '\n' ∉ (value.text .oneLine).toList := by
  intro h
  rw [text, String.toList_ofList] at h
  rcases permits_of_mem_chars .oneLine 0 '\n' value h with hvisible | ⟨hlayout, _⟩
  · revert hvisible
    decide
  · cases hlayout

theorem newline_mem_text_indented (field : String × Json) (fields : List (String × Json)) :
    '\n' ∈ ((Json.obj (field :: fields)).text .indented).toList := by
  obtain ⟨name, value⟩ := field
  rw [text, String.toList_ofList, chars_obj_cons]
  simp [Layout.lineBreak]

@[simp]
theorem fits_obj_iff {fields : List (String × Json)} :
    (Json.obj fields).fits = true ↔ ∀ field ∈ fields, field.2.fits = true := by
  show fieldsFit fields = true ↔ _
  induction fields with
  | nil => simp [fieldsFit]
  | cons field fields ih =>
    show (field.2.fits && fieldsFit fields) = true ↔ _
    rw [Bool.and_eq_true, ih, List.forall_mem_cons]

@[simp]
theorem fits_str (text : String) : (Json.str text).fits = true := by
  rfl

@[simp]
theorem fits_strs (texts : List String) : (strs texts).fits = true := by
  show itemsFit (texts.map .str) = true
  induction texts with
  | nil => rfl
  | cons text texts ih => exact ih

@[simp]
theorem fits_ofOption {α : Type} {f : α → Json} (h : ∀ a, (f a).fits = true) (a? : Option α) :
    (ofOption f a?).fits = true := by
  cases a? with
  | none => rfl
  | some a => exact h a

end Json

end CallScope
