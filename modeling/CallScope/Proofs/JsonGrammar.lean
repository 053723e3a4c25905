import CallScope.Json.Writer
import CallScope.Proofs.Characters

/-!
This module contains the grammar of JSON texts as rules, which also say what value a text stands for. The rules relate a
text, a part of a value that it begins with, and what is left of it. No text stands for two values.

The fields of an object are those of the text, in the same order, even if two of them have one name.
-/

namespace CallScope.Json

open Text

variable {c : Char} {cs more rest : List Char}

def isSpace (c : Char) : Bool :=
  c = ' ' || c = '\t' || c = '\n' || c = '\r'

def skip (cs : List Char) : List Char :=
  cs.dropWhile isSpace

/--
The letters that stand for a character after a backslash.
-/
def letterEscapes : List (Char × Char) :=
  [('"', '"'), ('\\', '\\'), ('/', '/'), ('b', '\x08'), ('f', '\x0C'), ('n', '\n'), ('r', '\r'), ('t', '\t')]

/--
Four hexadecimal digits of either case are a unit of UTF-16.
-/
structure IsUnit (digits : List Char) (unit : Nat) : Prop where
  length_eq : digits.length = 4
  isHexDigit : ∀ c ∈ digits, Numeral.isHexDigit c.toLower = true
  value_eq : Numeral.ofHexDigits (digits.map Char.toLower) = unit

/--
What may stand after a backslash, and the character that it stands for.
-/
inductive Escape : List Char → Char → Prop where
  | letter {letter c : Char} : (letter, c) ∈ letterEscapes → Escape [letter] c
  | unit {digits : List Char} {c : Char} : IsUnit digits c.toNat → Escape ('u' :: digits) c
  | pair {high low : List Char} {offset : Nat} {c : Char} : c.toNat = 0x10000 + offset →
    IsUnit high (0xD800 + offset / 0x400) → IsUnit low (0xDC00 + offset % 0x400) →
    Escape ('u' :: (high ++ '\\' :: 'u' :: low)) c

/--
A character of a string, which may not be a control character as it is.
-/
inductive Spells : List Char → Char → Prop where
  | plain {c : Char} : 0x20 ≤ c.toNat → c ≠ '"' → c ≠ '\\' → Spells [c] c
  | escaped {cs : List Char} {c : Char} : Escape cs c → Spells ('\\' :: cs) c

/--
A string after its opening quotation mark.
-/
inductive StringBody : List Char → List Char → List Char → Prop where
  | close {rest : List Char} : StringBody ('"' :: rest) [] rest
  | next {all cs more text rest : List Char} {c : Char} : all = cs ++ more → Spells cs c → StringBody more text rest →
    StringBody all (c :: text) rest

/--
The characters of numbers and of the words for the other plain values.
-/
def isScalarChar (c : Char) : Bool :=
  c.isAlphanum || c = '+' || c = '-' || c = '.'

/--
The digits of a number before its point. There is no leading zero.
-/
def isWhole (digits : List Char) : Bool :=
  digits ≠ [] && (digits.head? ≠ some '0' || digits = ['0'])

/--
The digits after a point, if there is one, and what follows them.
-/
def fraction? : List Char → Option (List Char × List Char)
  | '.' :: cs =>
    if cs.takeWhile Char.isDigit = [] then none else some (cs.takeWhile Char.isDigit, cs.dropWhile Char.isDigit)
  | cs => some ([], cs)

/--
The power of ten after its mark, if there is one.
-/
def power? : List Char → Option Int
  | [] => some 0
  | mark :: cs =>
    let (factor, digits) : Int × List Char :=
      match cs with
      | '-' :: cs => (-1, cs)
      | '+' :: cs => (1, cs)
      | cs => (1, cs)
    if (mark = 'e' ∨ mark = 'E') ∧ digits ≠ [] ∧ digits.all Char.isDigit then
      some (factor * Nat.ofDigitChars 10 digits 0)
    else none

def unsigned? (negative : Bool) (cs : List Char) : Option Json := do
  let whole := cs.takeWhile Char.isDigit
  let rest := cs.dropWhile Char.isDigit
  if !isWhole whole then none
  else if rest = [] then
    let magnitude : Int := Nat.ofDigitChars 10 whole 0
    return .int (if negative then -magnitude else magnitude)
  else
    let (fraction, rest) ← fraction? rest
    let power ← power? rest
    return .real (.ofDecimal negative (Nat.ofDigitChars 10 (whole ++ fraction) 0) (power - fraction.length))

/--
Read a whole word as a number, `null`, `true` or `false`.
-/
def scalar? (word : List Char) : Option Json :=
  if word = "null".toList then some .null
  else if word = "true".toList then some (.bool true)
  else if word = "false".toList then some (.bool false)
  else
    match word with
    | '-' :: cs => unsigned? true cs
    | cs => unsigned? false cs

/--
What a text may begin with: a value, or the items or fields that are left of an array or object after its first.
-/
inductive Part where
  | value (value : Json)
  | items (items : List Json)
  | fields (fields : List (String × Json))

def Part.Alike : Part → Part → Prop
  | .value _, .value _ => True
  | .items _, .items _ => True
  | .fields _, .fields _ => True
  | _, _ => False

/--
A name and the colon after it.
-/
inductive NameColon : List Char → String → List Char → Prop where
  | intro {cs name more rest : List Char} : StringBody cs name more → skip more = ':' :: rest →
    NameColon ('"' :: cs) (String.ofList name) rest

inductive Reads : List Char → Part → List Char → Prop where
  | scalar {cs word rest : List Char} {value : Json} : cs = word ++ rest → scalar? word = some value →
    word.all isScalarChar = true → Stops isScalarChar rest → Reads cs (.value value) rest
  | str {cs text rest : List Char} : StringBody cs text rest → Reads ('"' :: cs) (.value (.str (String.ofList text))) rest
  | arrEmpty {cs rest : List Char} : skip cs = ']' :: rest → Reads ('[' :: cs) (.value (.arr [])) rest
  | arr {cs more rest : List Char} {item : Json} {items : List Json} : Reads (skip cs) (.value item) more →
    Reads (skip more) (.items items) rest → Reads ('[' :: cs) (.value (.arr (item :: items))) rest
  | itemsEnd {rest : List Char} : Reads (']' :: rest) (.items []) rest
  | itemsNext {cs more rest : List Char} {item : Json} {items : List Json} : Reads (skip cs) (.value item) more →
    Reads (skip more) (.items items) rest → Reads (',' :: cs) (.items (item :: items)) rest
  | objEmpty {cs rest : List Char} : skip cs = '\x7d' :: rest → Reads ('\x7b' :: cs) (.value (.obj [])) rest
  | obj {cs before more rest : List Char} {name : String} {value : Json} {fields : List (String × Json)} :
    NameColon (skip cs) name before → Reads (skip before) (.value value) more →
    Reads (skip more) (.fields fields) rest → Reads ('\x7b' :: cs) (.value (.obj ((name, value) :: fields))) rest
  | fieldsEnd {rest : List Char} : Reads ('\x7d' :: rest) (.fields []) rest
  | fieldsNext {cs before more rest : List Char} {name : String} {value : Json} {fields : List (String × Json)} :
    NameColon (skip cs) name before → Reads (skip before) (.value value) more →
    Reads (skip more) (.fields fields) rest → Reads (',' :: cs) (.fields ((name, value) :: fields)) rest

/--
A text is JSON for a value. White space may stand around it.
-/
def Denotes (text : String) (value : Json) : Prop :=
  ∃ rest, Reads (skip text.toList) (.value value) rest ∧ skip rest = []

theorem IsUnit.append_inj {digits digits' : List Char} {unit unit' : Nat} {more more' : List Char}
    (h : IsUnit digits unit) (h' : IsUnit digits' unit') (heq : digits ++ more = digits' ++ more') :
    unit = unit' ∧ more = more' := by
  obtain ⟨rfl, rfl⟩ := List.append_inj heq (h.length_eq.trans h'.length_eq.symm)
  exact ⟨h.value_eq.symm.trans h'.value_eq, rfl⟩

theorem letterEscapes_unique : ∀ pair ∈ letterEscapes, pair.1 ≠ 'u'
    ∧ ∀ other ∈ letterEscapes, pair.1 = other.1 → pair.2 = other.2 := by
  decide

theorem not_surrogate (c : Char) : c.toNat < 0xD800 ∨ 0xDFFF < c.toNat ∧ c.toNat < 0x110000 := by
  exact c.valid

/--
The first unit of a pair stands for no character of its own.
-/
theorem IsUnit.not_pair {digits high low more' : List Char} {c' : Char} {offset : Nat} (h : IsUnit digits c.toNat)
    (hc' : c'.toNat = 0x10000 + offset) (hhigh : IsUnit high (0xD800 + offset / 0x400)) :
    digits ++ more ≠ high ++ '\\' :: 'u' :: low ++ more' := by
  intro heq
  rw [List.append_assoc] at heq
  obtain ⟨hunit, _⟩ := h.append_inj hhigh heq
  have hvalid := not_surrogate c
  have hvalid' := not_surrogate c'
  omega

theorem Escape.append_inj {cs' more' : List Char} {c' : Char} (h : Escape cs c) (h' : Escape cs' c')
    (heq : cs ++ more = cs' ++ more') : c = c' ∧ more = more' := by
  cases h with
  | letter hletter =>
    obtain ⟨hunit, hunique⟩ := letterEscapes_unique _ hletter
    cases h' with
    | letter hletter' =>
      cases heq
      exact ⟨hunique _ hletter' rfl, rfl⟩
    | unit =>
      cases heq
      exact absurd rfl hunit
    | pair =>
      cases heq
      exact absurd rfl hunit
  | unit hdigits =>
    cases h' with
    | letter hletter' =>
      cases heq
      exact absurd rfl (letterEscapes_unique _ hletter').1
    | unit hdigits' =>
      obtain ⟨hunit, hmore⟩ := hdigits.append_inj hdigits' (List.tail_eq_of_cons_eq heq)
      exact ⟨Char.toNat_inj.mp hunit, hmore⟩
    | pair hc' hhigh' _ => exact absurd (List.tail_eq_of_cons_eq heq) (hdigits.not_pair hc' hhigh')
  | pair hc hhigh hlow =>
    cases h' with
    | letter hletter' =>
      cases heq
      exact absurd rfl (letterEscapes_unique _ hletter').1
    | unit hdigits' => exact absurd (List.tail_eq_of_cons_eq heq).symm (hdigits'.not_pair hc hhigh)
    | pair hc' hhigh' hlow' =>
      rw [List.cons_append, List.cons_append, List.append_assoc, List.append_assoc] at heq
      obtain ⟨hunit, hrest⟩ := hhigh.append_inj hhigh' (List.tail_eq_of_cons_eq heq)
      obtain ⟨hunit', hmore⟩ := hlow.append_inj hlow' (List.tail_eq_of_cons_eq (List.tail_eq_of_cons_eq hrest))
      refine ⟨Char.toNat_inj.mp ?_, hmore⟩
      omega

theorem Spells.append_inj {cs' more' : List Char} {c' : Char} (h : Spells cs c) (h' : Spells cs' c')
    (heq : cs ++ more = cs' ++ more') : c = c' ∧ more = more' := by
  cases h with
  | plain _ _ hbackslash =>
    cases h' with
    | plain =>
      cases heq
      exact ⟨rfl, rfl⟩
    | escaped =>
      cases heq
      exact absurd rfl hbackslash
  | escaped hescape =>
    cases h' with
    | plain _ _ hbackslash' =>
      cases heq
      exact absurd rfl hbackslash'
    | escaped hescape' => exact hescape.append_inj hescape' (List.tail_eq_of_cons_eq heq)

theorem Spells.append_ne_quote (h : Spells cs c) : '"' :: rest ≠ cs ++ more := by
  intro heq
  cases h with
  | plain _ hquote _ =>
    cases heq
    exact hquote rfl
  | escaped => cases heq

theorem StringBody.unique {text text' rest' : List Char} (h : StringBody cs text rest)
    (h' : StringBody cs text' rest') : text = text' ∧ rest = rest' := by
  induction h generalizing text' rest' with
  | close =>
    cases h' with
    | close => exact ⟨rfl, rfl⟩
    | next hall hc _ => exact absurd hall hc.append_ne_quote
  | next hall hc _ ih =>
    cases h' with
    | close => exact absurd hall hc.append_ne_quote
    | next hall' hc' hbody' =>
      obtain ⟨rfl, rfl⟩ := hc.append_inj hc' (hall.symm.trans hall')
      obtain ⟨rfl, rfl⟩ := ih hbody'
      exact ⟨rfl, rfl⟩

theorem NameColon.unique {name name' : String} {rest' : List Char} (h : NameColon cs name rest)
    (h' : NameColon cs name' rest') : name = name' ∧ rest = rest' := by
  obtain ⟨hbody, hcolon⟩ := h
  obtain ⟨hbody', hcolon'⟩ := h'
  obtain ⟨rfl, rfl⟩ := hbody.unique hbody'
  rw [hcolon] at hcolon'
  cases hcolon'
  exact ⟨rfl, rfl⟩

theorem exists_cons_of_scalar? {word : List Char} {value : Json} (h : scalar? word = some value)
    (hword : word.all isScalarChar = true) : ∃ c cs, word = c :: cs ∧ isScalarChar c = true := by
  cases word with
  | nil => cases h
  | cons c cs => exact ⟨c, cs, rfl, List.all_eq_true.mp hword c List.mem_cons_self⟩

/--
The text of a number or a word begins with none of the signs that other texts begin with.
-/
theorem not_scalar {word : List Char} {value : Json} (hc : isScalarChar c = false) (heq : c :: cs = word ++ rest)
    (h : scalar? word = some value) : word.all isScalarChar ≠ true := by
  intro hword
  obtain ⟨first, _, rfl, hfirst⟩ := exists_cons_of_scalar? h hword
  cases heq
  rw [hc] at hfirst
  cases hfirst

theorem isSpace_eq_false_of_isScalarChar (h : isScalarChar c = true) : isSpace c = false := by
  cases hspace : isSpace c with
  | false => rfl
  | true =>
    simp only [isSpace, Bool.or_eq_true, decide_eq_true_iff] at hspace
    rcases hspace with ((rfl | rfl) | rfl) | rfl
    all_goals exact absurd h (by decide)

theorem Reads.skip_eq {value : Json} (h : Reads cs (.value value) rest) : skip cs = cs := by
  apply dropWhile_of_stops
  intro c hc
  cases h with
  | scalar heq hvalue hword =>
    obtain ⟨first, _, rfl, hfirst⟩ := exists_cons_of_scalar? hvalue hword
    cases heq
    cases hc
    exact isSpace_eq_false_of_isScalarChar hfirst
  | str | arrEmpty | arr | objEmpty | obj =>
    cases hc
    decide

theorem Reads.not_bracket {value : Json} (h : Reads cs (.value value) more) : cs ≠ ']' :: rest := by
  rintro rfl
  cases h with
  | scalar heq hvalue hword => exact not_scalar (by decide) heq hvalue hword

theorem NameColon.not_brace {name : String} (h : NameColon cs name more) : cs ≠ '\x7d' :: rest := by
  rintro rfl
  cases h

theorem Reads.unique {part part' : Part} {rest' : List Char} (h : Reads cs part rest) (h' : Reads cs part' rest')
    (halike : part.Alike part') : part = part' ∧ rest = rest' := by
  induction h generalizing part' rest' with
  | scalar heq hvalue hword hstops =>
    cases h' with
    | scalar heq' hvalue' hword' hstops' =>
      obtain ⟨rfl, rfl⟩ := append_inj_of_stops (List.all_eq_true.mp hword) hstops (List.all_eq_true.mp hword') hstops'
        (heq.symm.trans heq')
      rw [hvalue] at hvalue'
      cases hvalue'
      exact ⟨rfl, rfl⟩
    | _ => exact absurd hword (not_scalar (by decide) heq hvalue)
  | str hbody =>
    cases h' with
    | scalar heq' hvalue' hword' => exact absurd hword' (not_scalar (by decide) heq' hvalue')
    | str hbody' =>
      obtain ⟨rfl, rfl⟩ := hbody.unique hbody'
      exact ⟨rfl, rfl⟩
  | arrEmpty hend =>
    cases h' with
    | scalar heq' hvalue' hword' => exact absurd hword' (not_scalar (by decide) heq' hvalue')
    | arrEmpty hend' =>
      rw [hend] at hend'
      cases hend'
      exact ⟨rfl, rfl⟩
    | arr hitem' => exact absurd hend hitem'.not_bracket
  | arr hitem _ ihitem ihitems =>
    cases h' with
    | scalar heq' hvalue' hword' => exact absurd hword' (not_scalar (by decide) heq' hvalue')
    | arrEmpty hend' => exact absurd hend' hitem.not_bracket
    | arr hitem' hitems' =>
      obtain ⟨hvalue, rfl⟩ := ihitem hitem' trivial
      cases hvalue
      obtain ⟨hitems, rfl⟩ := ihitems hitems' trivial
      cases hitems
      exact ⟨rfl, rfl⟩
  | itemsEnd =>
    cases h' with
    | scalar => exact halike.elim
    | itemsEnd => exact ⟨rfl, rfl⟩
  | itemsNext _ _ ihitem ihitems =>
    cases h' with
    | scalar | fieldsNext => exact halike.elim
    | itemsNext hitem' hitems' =>
      obtain ⟨hvalue, rfl⟩ := ihitem hitem' trivial
      cases hvalue
      obtain ⟨hitems, rfl⟩ := ihitems hitems' trivial
      cases hitems
      exact ⟨rfl, rfl⟩
  | objEmpty hend =>
    cases h' with
    | scalar heq' hvalue' hword' => exact absurd hword' (not_scalar (by decide) heq' hvalue')
    | objEmpty hend' =>
      rw [hend] at hend'
      cases hend'
      exact ⟨rfl, rfl⟩
    | obj hname' => exact absurd hend hname'.not_brace
  | obj hname _ _ ihvalue ihfields =>
    cases h' with
    | scalar heq' hvalue' hword' => exact absurd hword' (not_scalar (by decide) heq' hvalue')
    | objEmpty hend' => exact absurd hend' hname.not_brace
    | obj hname' hvalue' hfields' =>
      obtain ⟨rfl, rfl⟩ := hname.unique hname'
      obtain ⟨hvalue, rfl⟩ := ihvalue hvalue' trivial
      cases hvalue
      obtain ⟨hfields, rfl⟩ := ihfields hfields' trivial
      cases hfields
      exact ⟨rfl, rfl⟩
  | fieldsEnd =>
    cases h' with
    | scalar => exact halike.elim
    | fieldsEnd => exact ⟨rfl, rfl⟩
  | fieldsNext hname _ _ ihvalue ihfields =>
    cases h' with
    | scalar | itemsNext => exact halike.elim
    | fieldsNext hname' hvalue' hfields' =>
      obtain ⟨rfl, rfl⟩ := hname.unique hname'
      obtain ⟨hvalue, rfl⟩ := ihvalue hvalue' trivial
      cases hvalue
      obtain ⟨hfields, rfl⟩ := ihfields hfields' trivial
      cases hfields
      exact ⟨rfl, rfl⟩

theorem Denotes.unique {text : String} {value value' : Json} (h : Denotes text value) (h' : Denotes text value') :
    value = value' := by
  obtain ⟨_, hvalue, _⟩ := h
  obtain ⟨_, hvalue', _⟩ := h'
  obtain ⟨hpart, _⟩ := hvalue.unique hvalue' trivial
  exact Part.value.inj hpart

end CallScope.Json
