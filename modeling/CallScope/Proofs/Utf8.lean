import CallScope.Text.Utf8

/-!
This module contains the rules by which octets are read as characters, said of the octets alone. The reader knows at
every point which octets can follow, so it follows the rules, and they leave no choice. A character of a single octet
is never taken for a part of another one.
-/

namespace CallScope.Text.Utf8

open String (utf8EncodeChar)

/--
Some character begins with these octets.
-/
def Begins (part : List UInt8) : Prop :=
  ∃ c, part <+: utf8EncodeChar c

/--
What octets are read as. Every character stands for itself. What begins a character and does not go on with it, as far
as it does begin it, and an octet that begins none, are read as a replacement.
-/
inductive Reads : List UInt8 → List Char → Prop where
  | nil : Reads [] []
  | char {c : Char} {rest : List UInt8} {text : List Char} (hrest : Reads rest text) :
      Reads (utf8EncodeChar c ++ rest) (c :: text)
  | broken {part rest : List UInt8} {text : List Char} (hne : part ≠ []) (hbegins : Begins part)
      (hshort : ∀ c, part ≠ utf8EncodeChar c) (hend : ∀ octet ∈ rest.head?, ¬Begins (part ++ [octet]))
      (hrest : Reads rest text) : Reads (part ++ rest) (replacement :: text)
  | stray {octet : UInt8} {rest : List UInt8} {text : List Char} (h : ¬Begins [octet]) (hrest : Reads rest text) :
      Reads (octet :: rest) (replacement :: text)

/--
The value of one in an octet that `count` others follow.
-/
def weight : Nat → Nat
  | 0 => 1
  | count + 1 => 64 * weight count

/--
The octet of a code that `count` others follow, unless it is the first one.
-/
def continuation (code count : Nat) : UInt8 :=
  UInt8.ofNat (code / weight count % 64 + 0x80)

def trail (code : Nat) : Nat → List UInt8
  | 0 => []
  | count + 1 => continuation code count :: trail code count

/--
What marks the first octet of a character as one that `count` others follow.
-/
def mark : Nat → Nat
  | 1 => 0xC0
  | 2 => 0xE0
  | _ => 0xF0

/--
Decide whether some code has `bits` in its first octet and `count` octets after it.
-/
def isLead : Nat → Nat → Bool
  | 1, bits => 2 ≤ bits && bits < 0x20
  | 2, bits => bits < 0x10
  | 3, bits => bits ≤ 4
  | _, _ => false

/--
The least octet that may follow a first one. A lower one would spell a code that needs fewer octets.
-/
def lowest (count bits : Nat) : UInt8 :=
  if bits = 0 then if count = 2 then 0xA0 else 0x90 else 0x80

/--
The greatest octet that may follow a first one. A higher one would spell a surrogate or a code beyond the last.
-/
def highest (count bits : Nat) : UInt8 :=
  if count = 2 ∧ bits = 0xD then 0x9F else if count = 3 ∧ bits = 4 then 0x8F else 0xBF

/--
The codes that are written with `count` octets after the first.
-/
def Sized : Nat → Nat → Prop
  | 1, code => 0x80 ≤ code ∧ code < 0x800
  | 2, code => 0x800 ≤ code ∧ code < 0x10000 ∧ (code < 0xD800 ∨ 0xE000 ≤ code)
  | 3, code => 0x10000 ≤ code ∧ code < 0x110000
  | _, _ => False

def spelled (code count : Nat) : List UInt8 :=
  UInt8.ofNat (mark count + code / weight count) :: trail code count

theorem lt_of_isLead {count bits : Nat} (h : isLead count bits = true) : count < 4 ∧ bits < 0x20 := by
  match count with
  | 0 => simp [isLead] at h
  | 1 => simp [isLead] at h; omega
  | 2 => simp [isLead] at h; omega
  | 3 => simp [isLead] at h; omega
  | count + 4 => simp [isLead] at h

theorem first_of_isLead {count bits : Nat} (h : isLead count bits = true) :
    first (UInt8.ofNat (mark count + bits)) = ([], .inside count (lowest count bits) (highest count bits) bits) := by
  have hall : ∀ count < 4, ∀ bits < 0x20, isLead count bits = true →
      first (UInt8.ofNat (mark count + bits)) = ([], .inside count (lowest count bits) (highest count bits) bits) := by
    decide +kernel
  exact hall count (lt_of_isLead h).1 bits (lt_of_isLead h).2 h

/--
All that a first octet can do.
-/
theorem first_cases (octet : UInt8) :
    (octet.toNat < 0x80 ∧ first octet = ([Char.ofNat octet.toNat], .idle))
      ∨ first octet = ([replacement], .idle)
      ∨ ∃ count bits, isLead (count + 1) bits = true ∧ octet = UInt8.ofNat (mark (count + 1) + bits) := by
  have hall : ∀ n < 256,
      (n < 0x80 ∧ first (UInt8.ofNat n) = ([Char.ofNat n], .idle)) ∨ first (UInt8.ofNat n) = ([replacement], .idle)
        ∨ ∃ count < 3, isLead (count + 1) (n - mark (count + 1)) = true ∧ mark (count + 1) ≤ n := by
    decide +kernel
  rcases hall octet.toNat octet.toNat_lt with h | h | ⟨count, _, hlead, hmark⟩
  · rw [UInt8.ofNat_toNat] at h
    exact .inl h
  · rw [UInt8.ofNat_toNat] at h
    exact .inr (.inl h)
  · refine .inr (.inr ⟨count, _, hlead, ?_⟩)
    rw [Nat.add_sub_cancel' hmark, UInt8.ofNat_toNat]

theorem toNat_continuation (code count : Nat) : (continuation code count).toNat = code / weight count % 64 + 0x80 := by
  apply UInt8.toNat_ofNat_of_lt'
  simp only [UInt8.size]
  omega

theorem sized_iff (count code : Nat) :
    Sized (count + 1) code ↔ isLead (count + 1) (code / weight (count + 1)) = true
      ∧ lowest (count + 1) (code / weight (count + 1)) ≤ continuation code count
      ∧ continuation code count ≤ highest (count + 1) (code / weight (count + 1)) := by
  simp only [UInt8.le_iff_toNat_le, toNat_continuation, lowest, highest]
  match count with
  | 0 =>
    simp only [Sized, isLead, weight]
    simp
    split <;> simp <;> omega
  | 1 =>
    simp only [Sized, isLead, weight]
    simp
    split <;> split <;> simp <;> omega
  | 2 =>
    simp only [Sized, isLead, weight]
    simp
    split <;> split <;> simp <;> omega
  | count + 3 => simp [Sized, isLead]

theorem utf8EncodeChar_eq_spelled {c : Char} {count : Nat} (h : Sized count c.toNat) :
    utf8EncodeChar c = spelled c.toNat count := by
  simp only [utf8EncodeChar, Char.toNat_val, spelled]
  match count, h with
  | 1, h =>
    simp only [Sized] at h
    have hlead : c.toNat / 64 % 32 + 192 = mark 1 + c.toNat / weight 1 := by simp only [mark, weight]; omega
    rw [if_neg (by omega), if_pos (by omega), hlead]
    simp [trail, continuation, weight]
  | 2, h =>
    simp only [Sized] at h
    have hlead : c.toNat / 4096 % 16 + 224 = mark 2 + c.toNat / weight 2 := by simp only [mark, weight]; omega
    rw [if_neg (by omega), if_neg (by omega), if_pos (by omega), hlead]
    simp [trail, continuation, weight]
  | 3, h =>
    simp only [Sized] at h
    have hlead : c.toNat / 262144 % 8 + 240 = mark 3 + c.toNat / weight 3 := by simp only [mark, weight]; omega
    rw [if_neg (by omega), if_neg (by omega), if_neg (by omega), hlead]
    simp [trail, continuation, weight]

theorem exists_sized {c : Char} (h : 0x80 ≤ c.toNat) : ∃ count, Sized (count + 1) c.toNat := by
  have hvalid : c.toNat < 0xD800 ∨ 0xDFFF < c.toNat ∧ c.toNat < 0x110000 := c.valid
  by_cases htwo : c.toNat < 0x800
  · exact ⟨0, h, htwo⟩
  · by_cases hthree : c.toNat < 0x10000
    · exact ⟨1, by simp only [Sized]; omega⟩
    · exact ⟨2, by simp only [Sized]; omega⟩

theorem utf8EncodeChar_of_lt {c : Char} (h : c.toNat < 0x80) : utf8EncodeChar c = [UInt8.ofNat c.toNat] := by
  rw [utf8EncodeChar, Char.toNat_val]
  exact if_pos (by omega)

theorem toNat_ofNat_of_sized {count code : Nat} (h : Sized count code) : (Char.ofNat code).toNat = code := by
  have hvalid : code.isValidChar := by
    match count, h with
    | 1, h => simp only [Sized] at h; simp only [Nat.isValidChar]; omega
    | 2, h => simp only [Sized] at h; simp only [Nat.isValidChar]; omega
    | 3, h => simp only [Sized] at h; simp only [Nat.isValidChar]; omega
  rw [Char.ofNat, dif_pos hvalid]
  rfl

/--
Octets that have led the reader into a character.
-/
inductive Enters : List UInt8 → State → Prop where
  | lead {octet : UInt8} {state : State} (h : first octet = ([], state)) : Enters [octet] state
  | more {part : List UInt8} {octet low high : UInt8} {missing bits : Nat}
      (h : Enters part (.inside (missing + 2) low high bits)) (hlow : low ≤ octet) (hhigh : octet ≤ high) :
      Enters (part ++ [octet]) (.inside (missing + 1) 0x80 0xBF (bits * 64 + (octet.toNat - 0x80)))

theorem exists_isLead {octet : UInt8} {state : State} (h : first octet = ([], state)) :
    ∃ count bits, isLead (count + 1) bits = true ∧ octet = UInt8.ofNat (mark (count + 1) + bits)
      ∧ state = .inside (count + 1) (lowest (count + 1) bits) (highest (count + 1) bits) bits := by
  rcases first_cases octet with ⟨_, hfirst⟩ | hfirst | ⟨count, bits, hlead, rfl⟩
  · rw [h] at hfirst
    cases hfirst
  · rw [h] at hfirst
    cases hfirst
  · rw [first_of_isLead hlead] at h
    cases h
    exact ⟨count, bits, hlead, rfl, rfl⟩

theorem decodeFrom_eq_append (read : List Char) (state : State) (octets : List UInt8) :
    decodeFrom read state octets = read.reverse ++ decodeFrom [] state octets := by
  induction octets generalizing read state with
  | nil => simp [decodeFrom]
  | cons octet octets ih =>
    rw [decodeFrom, decodeFrom, ih, ih (_ ++ [])]
    simp

theorem decodeFrom_cons (state : State) (octet : UInt8) (octets : List UInt8) :
    decodeFrom [] state (octet :: octets) = (step state octet).1 ++ decodeFrom [] (step state octet).2 octets := by
  rw [decodeFrom, decodeFrom_eq_append]
  simp

theorem Enters.decodeFrom_append {part : List UInt8} {state : State} (h : Enters part state) (rest : List UInt8) :
    decodeFrom [] .idle (part ++ rest) = decodeFrom [] state rest := by
  induction h generalizing rest with
  | lead h => rw [List.singleton_append, decodeFrom_cons, step, h, List.nil_append]
  | more _ hlow hhigh ih =>
    rw [List.append_assoc, ih, List.singleton_append, decodeFrom_cons, step, if_pos ⟨hlow, hhigh⟩]
    rfl

theorem weight_pos (count : Nat) : 0 < weight count := by
  induction count with
  | zero => decide
  | succ count ih => simp only [weight]; omega

theorem div_weight_succ (code count : Nat) : code / weight (count + 1) = code / weight count / 64 := by
  rw [weight, Nat.mul_comm, Nat.div_div_eq_div_mul]

theorem Enters.exists_inside {part : List UInt8} {state : State} (h : Enters part state) :
    part ≠ [] ∧ ∃ missing low high bits, state = .inside (missing + 1) low high bits ∧ 0x80 ≤ low ∧ high ≤ 0xBF := by
  cases h with
  | lead h =>
    obtain ⟨count, bits, _, rfl, rfl⟩ := exists_isLead h
    refine ⟨by simp, count, _, _, bits, rfl, ?_, ?_⟩
    · unfold lowest
      split
      · split <;> decide
      · decide
    · unfold highest
      split
      · decide
      · split <;> decide
  | more => exact ⟨by simp, _, _, _, _, rfl, by decide, by decide⟩

/--
Every code that goes on from what has been read, within the bounds of the next octet, is spelled so.
-/
theorem Enters.spelled_eq {part : List UInt8} {low high : UInt8} {missing bits code : Nat}
    (h : Enters part (.inside (missing + 1) low high bits)) (hcode : code / weight (missing + 1) = bits)
    (hlow : low ≤ continuation code missing) (hhigh : continuation code missing ≤ high) :
    ∃ count, Sized count code ∧ spelled code count = part ++ trail code (missing + 1) := by
  generalize hstate : State.inside (missing + 1) low high bits = state at h
  induction h generalizing missing low high bits with
  | lead h =>
    obtain ⟨count, bits, hlead, rfl, rfl⟩ := exists_isLead h
    cases hstate
    refine ⟨missing + 1, (sized_iff missing code).mpr ?_, ?_⟩
    · rw [hcode]
      exact ⟨hlead, hlow, hhigh⟩
    · rw [spelled, hcode]
      rfl
  | @more part octet low' high' missing' bits' h hlow' hhigh' ih =>
    cases hstate
    obtain ⟨_, _, _, _, _, hstate, hlow'', hhigh''⟩ := h.exists_inside
    cases hstate
    have hge : 0x80 ≤ octet.toNat := UInt8.le_iff_toNat_le.mp (UInt8.le_trans hlow'' hlow')
    have hle : octet.toNat ≤ 0xBF := UInt8.le_iff_toNat_le.mp (UInt8.le_trans hhigh' hhigh'')
    have hnext : continuation code (missing' + 1) = octet := by
      rw [← UInt8.toNat_inj, toNat_continuation, hcode]
      omega
    have hbits : code / weight (missing' + 2) = bits' := by
      rw [div_weight_succ, hcode]
      omega
    obtain ⟨count, hsized, hspelled⟩ := ih hbits (hnext ▸ hlow') (hnext ▸ hhigh') rfl
    refine ⟨count, hsized, ?_⟩
    rw [hspelled, trail, hnext, List.append_assoc]
    rfl

theorem length_trail (code count : Nat) : (trail code count).length = count := by
  induction count with
  | zero => rfl
  | succ count ih => rw [trail, List.length_cons, ih]

theorem continuation_bounds (code count : Nat) : 0x80 ≤ continuation code count ∧ continuation code count ≤ 0xBF := by
  rw [UInt8.le_iff_toNat_le, UInt8.le_iff_toNat_le, toNat_continuation]
  constructor
  · exact Nat.le_add_left 0x80 _
  · show _ ≤ 0xBF
    omega

/--
The octets of a code lead from one state inside a character to the next.
-/
theorem Enters.append_of_trail {part taken rest : List UInt8} {octet low high : UInt8} {missing code : Nat}
    (h : Enters part (.inside (missing + 1) low high (code / weight (missing + 1))))
    (hlow : low ≤ continuation code missing) (hhigh : continuation code missing ≤ high)
    (htrail : trail code (missing + 1) = taken ++ octet :: rest) :
    ∃ low high, Enters (part ++ taken) (.inside (rest.length + 1) low high (code / weight (rest.length + 1)))
      ∧ low ≤ octet ∧ octet ≤ high ∧ octet = continuation code rest.length := by
  induction taken generalizing part low high missing with
  | nil =>
    rw [trail, List.nil_append] at htrail
    injection htrail with hoctet hrest
    subst hoctet hrest
    rw [length_trail, List.append_nil]
    exact ⟨low, high, h, hlow, hhigh, rfl⟩
  | cons next taken ih =>
    rw [trail, List.cons_append] at htrail
    injection htrail with hnext htrail
    subst hnext
    cases missing with
    | zero => simp [trail] at htrail
    | succ missing =>
      have hmore := h.more hlow hhigh
      have hbits : code / weight (missing + 2) * 64 + ((continuation code (missing + 1)).toNat - 0x80)
          = code / weight (missing + 1) := by
        rw [toNat_continuation, div_weight_succ]
        omega
      rw [hbits] at hmore
      have hbounds := continuation_bounds code missing
      rw [List.append_cons]
      exact ih hmore hbounds.1 hbounds.2 htrail

theorem enters_of_spelled {part rest : List UInt8} {octet : UInt8} {count code : Nat} (hsized : Sized (count + 1) code)
    (hspelled : spelled code (count + 1) = part ++ octet :: rest) (hne : part ≠ []) :
    ∃ low high, Enters part (.inside (rest.length + 1) low high (code / weight (rest.length + 1)))
      ∧ low ≤ octet ∧ octet ≤ high ∧ octet = continuation code rest.length := by
  obtain ⟨hlead, hlow, hhigh⟩ := (sized_iff count code).mp hsized
  cases part with
  | nil => contradiction
  | cons lead taken =>
    rw [spelled, List.cons_append] at hspelled
    injection hspelled with hoctet htrail
    subst hoctet
    exact (Enters.lead (first_of_isLead hlead)).append_of_trail hlow hhigh htrail

theorem Enters.eq {part : List UInt8} {state other : State} (h : Enters part state) (hother : Enters part other) :
    state = other := by
  induction h generalizing other with
  | lead h =>
    generalize hpart : [_] = part at hother
    cases hother with
    | lead hother =>
      cases hpart
      rw [h] at hother
      cases hother
      rfl
    | more hother =>
      have hlength := congrArg List.length hpart
      exact absurd (by simpa using hlength) hother.exists_inside.1
  | @more part octet low high missing bits h hlow hhigh ih =>
    generalize hpart : part ++ [octet] = whole at hother
    cases hother with
    | lead hother =>
      have hlength := congrArg List.length hpart
      exact absurd (by simpa using hlength) h.exists_inside.1
    | more hother =>
      obtain ⟨rfl, hoctet⟩ := List.append_inj' hpart rfl
      cases hoctet
      cases ih hother
      rfl

theorem exists_spelled {c : Char} {part : List UInt8} {octet : UInt8} {rest : List UInt8}
    (h : part ++ octet :: rest = utf8EncodeChar c) (hne : part ≠ []) :
    ∃ count, Sized (count + 1) c.toNat ∧ spelled c.toNat (count + 1) = part ++ octet :: rest := by
  by_cases hcode : c.toNat < 0x80
  · rw [utf8EncodeChar_of_lt hcode] at h
    have hlength := congrArg List.length h
    have hpos := List.length_pos_iff.mpr hne
    simp at hlength
    omega
  · obtain ⟨count, hsized⟩ := exists_sized (Nat.le_of_not_lt hcode)
    exact ⟨count, hsized, by rw [h, utf8EncodeChar_eq_spelled hsized]⟩

theorem begins_of_sized {part : List UInt8} {count code : Nat} (hsized : Sized count code)
    (h : part <+: spelled code count) : Begins part := by
  have hcode := toNat_ofNat_of_sized hsized
  refine ⟨Char.ofNat code, ?_⟩
  rwa [utf8EncodeChar_eq_spelled (hcode.symm ▸ hsized), hcode]

/--
Inside a character, the bounds of the next octet are exact.
-/
theorem Enters.begins_iff {part : List UInt8} {octet low high : UInt8} {missing bits : Nat}
    (h : Enters part (.inside (missing + 1) low high bits)) :
    Begins (part ++ [octet]) ↔ low ≤ octet ∧ octet ≤ high := by
  obtain ⟨hne, _, _, _, _, hstate, hlow, hhigh⟩ := h.exists_inside
  cases hstate
  constructor
  · rintro ⟨c, rest, hrest⟩
    rw [List.append_assoc, List.singleton_append] at hrest
    obtain ⟨count, hsized, hspelled⟩ := exists_spelled hrest hne
    obtain ⟨low', high', hother, hlow', hhigh', _⟩ := enters_of_spelled hsized hspelled hne
    cases h.eq hother
    exact ⟨hlow', hhigh'⟩
  · rintro ⟨hlow', hhigh'⟩
    have hge : 0x80 ≤ octet.toNat := UInt8.le_iff_toNat_le.mp (UInt8.le_trans hlow hlow')
    have hle : octet.toNat ≤ 0xBF := UInt8.le_iff_toNat_le.mp (UInt8.le_trans hhigh' hhigh)
    -- The least code that goes on with the octet.
    have hcode := Nat.mul_div_cancel (bits * 64 + (octet.toNat - 0x80)) (weight_pos missing)
    generalize (bits * 64 + (octet.toNat - 0x80)) * weight missing = code at hcode
    have hnext : continuation code missing = octet := by
      rw [← UInt8.toNat_inj, toNat_continuation, hcode]
      omega
    have hbits : code / weight (missing + 1) = bits := by
      rw [div_weight_succ, hcode]
      omega
    obtain ⟨count, hsized, hspelled⟩ := h.spelled_eq hbits (hnext ▸ hlow') (hnext ▸ hhigh')
    apply begins_of_sized hsized
    rw [hspelled, trail, hnext]
    exact ⟨trail code missing, by simp⟩

theorem Begins.of_append {part rest : List UInt8} (h : Begins (part ++ rest)) : Begins part := by
  obtain ⟨c, hc⟩ := h
  exact ⟨c, (List.prefix_append part rest).trans hc⟩

theorem lowest_le_highest (count bits : Nat) : lowest count bits ≤ highest count bits := by
  by_cases hzero : bits = 0
  · have hhighest : highest count bits = 0xBF := by simp [highest, hzero]
    rw [hhighest, lowest, if_pos hzero]
    split <;> decide
  · rw [lowest, if_neg hzero, highest]
    split
    · decide
    · split <;> decide

theorem utf8EncodeChar_ofNat {octet : UInt8} (h : octet.toNat < 0x80) :
    utf8EncodeChar (Char.ofNat octet.toNat) = [octet] := by
  have hcode : (Char.ofNat octet.toNat).toNat = octet.toNat := by
    rw [Char.ofNat, dif_pos (.inl (by omega))]
    rfl
  rw [utf8EncodeChar_of_lt (by omega), hcode, UInt8.ofNat_toNat]

theorem replaced_or_begins (octet : UInt8) : first octet = ([replacement], .idle) ∨ Begins [octet] := by
  rcases first_cases octet with ⟨hlt, _⟩ | hfirst | ⟨count, bits, hlead, rfl⟩
  · exact .inr ⟨Char.ofNat octet.toNat, [], (utf8EncodeChar_ofNat hlt).symm⟩
  · exact .inl hfirst
  · have hnext := (Enters.lead (first_of_isLead hlead)).begins_iff.mpr ⟨UInt8.le_refl _, lowest_le_highest _ _⟩
    exact .inr hnext.of_append

theorem decode_cons_of_lt {octet : UInt8} (h : octet.toNat < 0x80) (rest : List UInt8) :
    decode (octet :: rest) = Char.ofNat octet.toNat :: decode rest := by
  have hfirst : first octet = ([Char.ofNat octet.toNat], .idle) := if_pos (UInt8.lt_iff_toNat_lt.mpr h)
  rw [decode, decodeFrom_cons, step, hfirst]
  rfl

theorem decode_char_append (c : Char) (rest : List UInt8) : decode (utf8EncodeChar c ++ rest) = c :: decode rest := by
  by_cases hcode : c.toNat < 0x80
  · have htoNat : (UInt8.ofNat c.toNat).toNat = c.toNat := UInt8.toNat_ofNat_of_lt' (by simp only [UInt8.size]; omega)
    rw [utf8EncodeChar_of_lt hcode, List.singleton_append, decode_cons_of_lt (by omega), htoNat, Char.ofNat_toNat]
  · obtain ⟨count, hsized⟩ := exists_sized (Nat.le_of_not_lt hcode)
    rw [utf8EncodeChar_eq_spelled hsized]
    -- All octets but the last lead into the character, and the last one completes it.
    have hne : spelled c.toNat (count + 1) ≠ [] := by simp [spelled]
    have hspelled := (List.dropLast_concat_getLast hne).symm
    generalize (spelled c.toNat (count + 1)).dropLast = part, (spelled c.toNat (count + 1)).getLast hne = octet at hspelled
    have hpart : part ≠ [] := by
      rintro rfl
      have hlength := congrArg List.length hspelled
      simp [spelled, trail] at hlength
    obtain ⟨low, high, henters, hlow, hhigh, hoctet⟩ := enters_of_spelled hsized hspelled hpart
    have hbits : c.toNat / weight 1 * 64 + (octet.toNat - 0x80) = c.toNat := by
      rw [hoctet, toNat_continuation]
      simp only [weight, List.length_nil]
      omega
    rw [hspelled, List.append_assoc, decode, henters.decodeFrom_append, List.singleton_append, decodeFrom_cons, step,
      if_pos ⟨hlow, hhigh⟩]
    simp only [List.length_nil, Nat.zero_add, Nat.le_refl, if_true, hbits, Char.ofNat_toNat]
    rfl

theorem decode_broken_append {part rest : List UInt8} (hne : part ≠ []) (hbegins : Begins part)
    (hshort : ∀ c, part ≠ utf8EncodeChar c) (hend : ∀ octet ∈ rest.head?, ¬Begins (part ++ [octet])) :
    decode (part ++ rest) = replacement :: decode rest := by
  obtain ⟨c, after, hafter⟩ := hbegins
  cases after with
  | nil => exact absurd (by simpa using hafter) (hshort c)
  | cons octet after =>
    obtain ⟨count, hsized, hspelled⟩ := exists_spelled hafter hne
    obtain ⟨low, high, henters, _⟩ := enters_of_spelled hsized hspelled hne
    rw [decode, henters.decodeFrom_append]
    cases rest with
    | nil => rfl
    | cons octet rest =>
      have hbounds := (not_congr henters.begins_iff).mp (hend octet rfl)
      rw [decodeFrom_cons, step, if_neg hbounds, decode, decodeFrom_cons]
      rfl

theorem decode_stray_cons {octet : UInt8} (h : ¬Begins [octet]) (rest : List UInt8) :
    decode (octet :: rest) = replacement :: decode rest := by
  have hfirst := (replaced_or_begins octet).resolve_right h
  rw [decode, decodeFrom_cons, step, hfirst]
  rfl

theorem Reads.decode_eq {octets : List UInt8} {text : List Char} (h : Reads octets text) : decode octets = text := by
  induction h with
  | nil => rfl
  | char _ ih => rw [decode_char_append, ih]
  | broken hne hbegins hshort hend _ ih => rw [decode_broken_append hne hbegins hshort hend, ih]
  | stray h _ ih => rw [decode_stray_cons h, ih]

/--
Go on with a character as far as octets do.
-/
theorem exists_longest {part : List UInt8} (h : Begins part) (octets : List UInt8) :
    ∃ more rest, octets = more ++ rest ∧ Begins (part ++ more)
      ∧ ∀ octet ∈ rest.head?, ¬Begins (part ++ more ++ [octet]) := by
  induction octets generalizing part with
  | nil => exact ⟨[], [], rfl, by rwa [List.append_nil], by simp⟩
  | cons octet octets ih =>
    by_cases hnext : Begins (part ++ [octet])
    · obtain ⟨more, rest, rfl, hmore, hrest⟩ := ih hnext
      rw [List.append_assoc] at hmore hrest
      exact ⟨octet :: more, rest, rfl, hmore, hrest⟩
    · refine ⟨[], octet :: octets, rfl, by rwa [List.append_nil], ?_⟩
      simpa using hnext

theorem exists_reads (octets : List UInt8) : ∃ text, Reads octets text := by
  induction hlength : octets.length using Nat.strongRecOn generalizing octets with
  | ind length ih =>
    have hempty : Begins [] := ⟨'a', List.nil_prefix⟩
    obtain ⟨part, rest, rfl, hpart, hrest⟩ := exists_longest hempty octets
    rw [List.nil_append] at hpart hrest
    rw [List.length_append] at hlength
    by_cases hne : part = []
    · subst hne
      cases rest with
      | nil => exact ⟨[], .nil⟩
      | cons octet rest =>
        obtain ⟨text, htext⟩ := ih rest.length (by simp at hlength; omega) rest rfl
        exact ⟨_, .stray (hrest octet rfl) htext⟩
    · have hpos := List.length_pos_iff.mpr hne
      obtain ⟨text, htext⟩ := ih rest.length (by omega) rest rfl
      by_cases hchar : ∃ c, part = utf8EncodeChar c
      · obtain ⟨c, rfl⟩ := hchar
        exact ⟨_, .char htext⟩
      · exact ⟨_, .broken hne hpart (fun c hc => hchar ⟨c, hc⟩) hrest htext⟩

/--
Reading follows the rules, and they leave no choice.
-/
theorem decode_eq_iff {octets : List UInt8} {text : List Char} : decode octets = text ↔ Reads octets text := by
  constructor
  · rintro rfl
    obtain ⟨text, htext⟩ := exists_reads octets
    rwa [htext.decode_eq]
  · exact Reads.decode_eq

/--
After the first octet of a character, there are none of those that stand alone.
-/
theorem not_begins_append_of_lt {part : List UInt8} {octet : UInt8} (hne : part ≠ []) (h : octet.toNat < 0x80) :
    ¬Begins (part ++ [octet]) := by
  rintro ⟨c, rest, hrest⟩
  rw [List.append_assoc, List.singleton_append] at hrest
  obtain ⟨count, hsized, hspelled⟩ := exists_spelled hrest hne
  obtain ⟨_, _, _, _, _, hoctet⟩ := enters_of_spelled hsized hspelled hne
  rw [hoctet, toNat_continuation] at h
  omega

theorem Reads.append_cons {octets rest : List UInt8} {text after : List Char} {octet : UInt8} (h : Reads octets text)
    (hlt : octet.toNat < 0x80) (hrest : Reads rest after) :
    Reads (octets ++ octet :: rest) (text ++ Char.ofNat octet.toNat :: after) := by
  induction h with
  | nil =>
    rw [List.nil_append, ← List.singleton_append, ← utf8EncodeChar_ofNat hlt]
    exact .char hrest
  | char _ ih =>
    rw [List.append_assoc]
    exact .char ih
  | @broken part rest' _ hne hbegins hshort hend _ ih =>
    rw [List.append_assoc]
    refine .broken hne hbegins hshort ?_ ih
    cases rest' with
    | nil =>
      intro other hother
      cases hother
      exact not_begins_append_of_lt hne hlt
    | cons => exact hend
  | stray h _ ih => exact .stray h ih

/--
An octet that stands alone is read by itself wherever it is, and cuts off what is broken before it.
-/
theorem decode_append_cons {octet : UInt8} (h : octet.toNat < 0x80) (octets rest : List UInt8) :
    decode (octets ++ octet :: rest) = decode octets ++ Char.ofNat octet.toNat :: decode rest := by
  rw [decode_eq_iff]
  exact (decode_eq_iff.mp rfl).append_cons h (decode_eq_iff.mp rfl)

theorem not_replacement_of_lt {c : Char} (h : c.toNat < 0x80) : c ≠ replacement := by
  rintro rfl
  exact absurd h (by decide)

theorem Reads.mem_of_lt {octets : List UInt8} {text : List Char} {c : Char} (h : Reads octets text)
    (hlt : c.toNat < 0x80) (hc : c ∈ text) : UInt8.ofNat c.toNat ∈ octets := by
  induction h with
  | nil => cases hc
  | char _ ih =>
    rw [List.mem_append]
    rcases List.mem_cons.mp hc with rfl | hc
    · rw [utf8EncodeChar_of_lt hlt]
      exact .inl (List.mem_singleton_self _)
    · exact .inr (ih hc)
  | broken _ _ _ _ _ ih =>
    have hc := (List.mem_cons.mp hc).resolve_left (not_replacement_of_lt hlt)
    exact List.mem_append_right _ (ih hc)
  | stray _ _ ih =>
    have hc := (List.mem_cons.mp hc).resolve_left (not_replacement_of_lt hlt)
    exact List.mem_cons_of_mem _ (ih hc)

theorem Reads.head?_of_lt {octets : List UInt8} {text : List Char} {c : Char} (h : Reads octets text)
    (hlt : c.toNat < 0x80) (hc : text.head? = some c) : octets.head? = some (UInt8.ofNat c.toNat) := by
  cases h with
  | nil => cases hc
  | char =>
    cases hc
    rw [utf8EncodeChar_of_lt hlt]
    rfl
  | broken =>
    cases hc
    exact absurd rfl (not_replacement_of_lt hlt)
  | stray =>
    cases hc
    exact absurd rfl (not_replacement_of_lt hlt)

theorem decode_ne_nil {octets : List UInt8} (h : octets ≠ []) : decode octets ≠ [] := by
  intro hnil
  cases decode_eq_iff.mp hnil
  contradiction

theorem decode_flatMap_append (text : List Char) (rest : List UInt8) :
    decode (text.flatMap utf8EncodeChar ++ rest) = text ++ decode rest := by
  induction text with
  | nil => rfl
  | cons c text ih => rw [List.flatMap_cons, List.append_assoc, decode_char_append, ih, List.cons_append]

end CallScope.Text.Utf8
