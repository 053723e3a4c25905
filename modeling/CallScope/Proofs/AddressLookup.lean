import CallScope.Proofs.FrontEnds
import CallScope.Proofs.Numerals
import CallScope.Proofs.SymbolTable

/-!
This module contains what the service answers for an address. The answer depends on the address alone, whichever way it
is written, and the texts in it can be looked up again.
-/

namespace CallScope.Service

open Numeral

variable {survey : Survey} {text : String} {address : Address}

theorem lookup_of_literal? (survey : Survey) (h : literal? text = some address) :
    lookup survey text = location (survey.locate address) := by
  simp only [lookup, h]

theorem lookup_text (survey : Survey) (address : Address) :
    lookup survey address.text = location (survey.locate address) := by
  exact lookup_of_literal? survey (literal?_hexText address)

theorem field?_address_location (place : Location) :
    (location place).field? "address" = some (.str place.address.text) := by
  unfold location
  split <;> rfl

theorem field?_function_location (place : Location) :
    (location place).field? "function" = some (.ofOption (fun symbol => .str symbol.name) place.symbol?) := by
  unfold location
  split <;> simp [*, Json.field?, List.lookup_cons, Json.ofOption]

/--
An answer names the function that an address belongs to, with the text of its start and the distance from there.
-/
structure Names (survey : Survey) (answer : Json) (address : Address) (symbol : Symbol) (start : String) (offset : Int) :
    Prop where
  function_eq : answer.field? "function" = some (.str symbol.name)
  start_eq : answer.field? "start" = some (.str start)
  offset_eq : answer.field? "offset" = some (.int offset)
  mem : symbol ∈ survey.table.symbols
  isHexText : ∃ digits, IsHexText symbol.address digits start
  start_add_offset : symbol.address + offset = address
  offset_nonneg : 0 ≤ offset
  nothing_between : ∀ other ∈ survey.table.symbols, ¬(symbol.address < other.address ∧ other.address ≤ address)

theorem names_of_isFloor {symbol : Symbol} (h : survey.table.IsFloor address symbol) :
    Names survey (location (survey.locate address)) address symbol symbol.address.text (address - symbol.address) := by
  have hfloor : survey.table.floor? address = some symbol := SymbolTable.floor?_eq_some_iff.mpr h
  have hlocation : location (survey.locate address)
      = .obj [("address", .str address.text), ("function", .str symbol.name), ("start", .str symbol.address.text),
          ("offset", .int (address - symbol.address))] := by
    simp only [location, Survey.locate, hfloor]
    rfl
  constructor
  · simp [hlocation, Json.field?, List.lookup_cons]
  · simp [hlocation, Json.field?, List.lookup_cons]
  · simp [hlocation, Json.field?, List.lookup_cons]
  · exact h.mem
  · exact ⟨_, isHexText_hexText symbol.address⟩
  · rw [Int.add_comm, Int.sub_add_cancel]
  · exact Int.sub_nonneg.mpr h.le
  · rintro other hother ⟨hlt, hle⟩
    exact absurd (h.greatest other hother hle) (Int.not_le.mpr hlt)

/--
What an answer for an address says.
-/
structure Locates (survey : Survey) (answer : Json) (address : Address) : Prop where
  /-- The address stands in the answer in its only hexadecimal text, and asking for that text gives the same answer. -/
  address_eq : ∃ text digits, answer.field? "address" = some (.str text) ∧ IsHexText address digits text
    ∧ (∀ other otherDigits, IsHexText address otherDigits other → other = text) ∧ lookup survey text = answer
  null_iff : answer.field? "function" = some .null ↔ ¬∃ symbol ∈ survey.table.symbols, symbol.address ≤ address
  /-- Otherwise there is a function, and asking for its start gives that function with no distance. -/
  names : (∃ symbol ∈ survey.table.symbols, symbol.address ≤ address) → ∃ symbol start offset,
    Names survey answer address symbol start offset ∧ Names survey (lookup survey start) symbol.address symbol start 0
  lookup_eq : ∀ other, literal? other = some address → lookup survey other = answer

theorem function_eq_null_iff (survey : Survey) (address : Address) :
    (location (survey.locate address)).field? "function" = some .null
      ↔ ¬∃ symbol ∈ survey.table.symbols, symbol.address ≤ address := by
  rw [field?_function_location, Survey.locate]
  cases hfloor : survey.table.floor? address with
  | none =>
    have habove := SymbolTable.floor?_eq_none_iff.mp hfloor
    simp only [Json.ofOption, true_iff]
    rintro ⟨symbol, hmem, hle⟩
    exact absurd hle (Int.not_le.mpr (habove symbol hmem))
  | some symbol =>
    have hsymbol := SymbolTable.floor?_eq_some_iff.mp hfloor
    have hexists : ∃ symbol ∈ survey.table.symbols, symbol.address ≤ address := ⟨symbol, hsymbol.mem, hsymbol.le⟩
    simp [Json.ofOption, hexists]

theorem locates_lookup (survey : Survey) (h : literal? text = some address) :
    Locates survey (lookup survey text) address := by
  rw [lookup_of_literal? survey h]
  constructor
  · refine ⟨address.text, _, field?_address_location _, isHexText_hexText address, ?_, lookup_text survey address⟩
    intro other otherDigits hother
    exact hother.eq_hexText
  · apply function_eq_null_iff
  · rintro ⟨below, hbelow, hle⟩
    obtain ⟨symbol, hsymbol⟩ := SymbolTable.exists_isFloor hbelow hle
    -- The start of a function belongs to that function itself.
    have hstart := names_of_isFloor (SymbolTable.isFloor_self hsymbol.mem)
    rw [← lookup_text, Int.sub_self] at hstart
    exact ⟨symbol, symbol.address.text, address - symbol.address, names_of_isFloor hsymbol, hstart⟩
  · intro other hother
    exact lookup_of_literal? survey hother

/--
A survey with a function below zero and one above.
-/
def sparseSurvey : Survey where
  table := (SymbolTable.insert {} (-32) "low").insert 16 "high"

theorem locates_lookup_sparseSurvey :
    literal? "\t-0B1_1\n" = some (-3)
      ∧ Locates sparseSurvey (lookup sparseSurvey "\t-0B1_1\n") (-3)
      ∧ sparseSurvey.table.floor? (-3) = some ⟨-32, "low"⟩ := by
  have hliteral : literal? "\t-0B1_1\n" = some (-3) := by decide +kernel
  refine ⟨hliteral, locates_lookup sparseSurvey hliteral, ?_⟩
  decide +kernel

end CallScope.Service
