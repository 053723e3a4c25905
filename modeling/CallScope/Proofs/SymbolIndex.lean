import CallScope.Proofs.SymbolTable
import CallScope.SymbolTable.Index
import Mathlib.Data.List.Basic
import Mathlib.Data.List.Find

/-!
This module contains the proof that an index of symbols serves every request as the symbol table in it does, whenever
it was sorted last.
-/

namespace CallScope.SymbolIndex

open SymbolTable (Request Reply)

/--
All addresses before `low` are not above `address`, and all from `high` on are above it.
-/
structure Bracket (addresses : Array Address) (address : Address) (low high : Nat) : Prop where
  low_le_high : low ≤ high
  high_le_size : high ≤ addresses.size
  le_before : ∀ (i : Nat) (_ : i < addresses.size), i < low → addresses[i] ≤ address
  lt_after : ∀ (i : Nat) (_ : i < addresses.size), high ≤ i → address < addresses[i]

theorem getElem_le_getElem {addresses : Array Address} (hascending : addresses.toList.Pairwise (· < ·))
    {i j : Nat} (hle : i ≤ j) (hj : j < addresses.size) : addresses[i] ≤ addresses[j] := by
  cases Nat.eq_or_lt_of_le hle with
  | inl heq =>
    subst heq
    apply Int.le_refl
  | inr hlt =>
    apply Int.le_of_lt
    exact List.pairwise_iff_getElem.mp hascending i j (by simp; omega) (by simpa using hj) hlt

theorem rank.go_bracket {addresses : Array Address} {address : Address}
    (hascending : addresses.toList.Pairwise (· < ·)) (low high : Nat) (hhigh : high ≤ addresses.size)
    (h : Bracket addresses address low high) :
    Bracket addresses address (go addresses address low high hhigh) (go addresses address low high hhigh) := by
  fun_induction go addresses address low high hhigh with
  | case1 low high hhigh hlow middle hlt ih =>
    apply ih
    -- The address at the middle is too high, and with it all that follow.
    refine ⟨by omega, by omega, h.le_before, ?_⟩
    intro i hi hmiddle
    apply Int.lt_of_lt_of_le hlt
    exact getElem_le_getElem hascending hmiddle hi
  | case2 low high hhigh hlow middle hle ih =>
    apply ih
    refine ⟨by omega, hhigh, ?_, h.lt_after⟩
    intro i hi hmiddle
    apply Int.le_trans _ (Int.not_lt.mp hle)
    exact getElem_le_getElem hascending (by omega) (by omega)
  | case3 low high hhigh hlow =>
    have heq : low = high := by
      have := h.low_le_high
      omega
    subst heq
    exact h

theorem rank_bracket {addresses : Array Address} (hascending : addresses.toList.Pairwise (· < ·))
    (address : Address) :
    Bracket addresses address (rank addresses address) (rank addresses address) := by
  unfold rank
  apply rank.go_bracket hascending
  refine ⟨Nat.zero_le _, Nat.le_refl _, ?_, ?_⟩
  · intro i hi hlt
    omega
  · intro i hi hle
    omega

theorem filter_le_eq_take_rank {addresses : Array Address} (hascending : addresses.toList.Pairwise (· < ·))
    (address : Address) :
    addresses.toList.filter (· ≤ address) = addresses.toList.take (rank addresses address) := by
  have hbracket := rank_bracket hascending address
  conv => lhs; rw [← List.take_append_drop (rank addresses address) addresses.toList]
  rw [List.filter_append]
  have htake : (addresses.toList.take (rank addresses address)).filter (· ≤ address)
      = addresses.toList.take (rank addresses address) := by
    rw [List.filter_eq_self]
    intro a hmem
    obtain ⟨i, hi, rfl⟩ := List.mem_take_iff_getElem.mp hmem
    rw [decide_eq_true_iff]
    exact hbracket.le_before i (by simp at hi; omega) (by omega)
  have hdrop : (addresses.toList.drop (rank addresses address)).filter (· ≤ address) = [] := by
    rw [List.filter_eq_nil_iff]
    intro a hmem
    obtain ⟨i, hi, rfl⟩ := List.mem_drop_iff_getElem.mp hmem
    rw [decide_eq_true_iff, Int.not_le]
    exact hbracket.lt_after _ (by simp at hi; omega) (by omega)
  rw [htake, hdrop, List.append_nil]

variable {index : SymbolIndex}

theorem addresses_perm_keys (index : SymbolIndex) : index.addresses.toList.Perm index.names.keys := by
  rw [List.perm_ext_iff_of_nodup index.nodup_addresses Std.ExtTreeMap.nodup_keys]
  intro address
  rw [index.mem_addresses_iff, Std.ExtTreeMap.mem_keys]

theorem size_addresses (index : SymbolIndex) : index.addresses.size = index.size := by
  rw [← Array.length_toList, (addresses_perm_keys index).length_eq]
  apply Std.ExtTreeMap.length_keys

theorem addresses_eq_keys (h : index.isSorted = true) : index.addresses.toList = index.names.keys := by
  apply List.Perm.eq_of_pairwise _ (index.ascending_of_isSorted h) (SymbolTable.pairwise_keys index.toSymbolTable)
  · exact addresses_perm_keys index
  · intro a b _ _ hab hba
    exact absurd (Int.lt_trans hab hba) (Int.lt_irrefl a)

theorem addresses_eq_map_symbols (h : index.isSorted = true) :
    index.addresses.toList = index.toSymbolTable.symbols.map (·.address) := by
  rw [addresses_eq_keys h, SymbolTable.map_address_symbols]

theorem symbolAt?_of_mem {symbol : Symbol} (h : symbol ∈ index.toSymbolTable.symbols) :
    index.symbolAt? symbol.address = some symbol := by
  unfold symbolAt?
  rw [SymbolTable.mem_symbols_iff.mp h]
  rfl

theorem symbols_eq (h : index.isSorted = true) : index.symbols = index.toSymbolTable.symbols := by
  unfold symbols
  rw [addresses_eq_map_symbols h, List.filterMap_map]
  conv => rhs; rw [← List.filterMap_some (l := index.toSymbolTable.symbols)]
  apply List.filterMap_congr
  intro symbol hmem
  exact symbolAt?_of_mem hmem

theorem addressOf?_eq (h : index.isSorted = true) (name : String) :
    index.addressOf? name = index.toSymbolTable.addressOf? name := by
  unfold addressOf? SymbolTable.addressOf?
  rw [addresses_eq_map_symbols h, List.find?_map]
  congr 1
  apply List.find?_congr
  intro symbol hmem
  simp [SymbolTable.mem_symbols_iff.mp hmem]

theorem floor?_eq (h : index.isSorted = true) (address : Address) :
    index.floor? address = index.toSymbolTable.floor? address := by
  have hbracket := rank_bracket (index.ascending_of_isSorted h) address
  have hlast : (index.addresses.toList.take (rank index.addresses address)).getLast?
      = (index.toSymbolTable.floor? address).map (·.address) := by
    rw [← filter_le_eq_take_rank (index.ascending_of_isSorted h), addresses_eq_map_symbols h,
      SymbolTable.floor?_eq_getLast?, List.filter_map, List.getLast?_map]
    rfl
  unfold floor?
  cases hrank : rank index.addresses address with
  | zero =>
    rw [hrank, List.take_zero, List.getLast?_nil] at hlast
    exact (Option.map_eq_none_iff.mp hlast.symm).symm
  | succ count =>
    have hcount : count < index.addresses.toList.length := by
      have hsize := hbracket.high_le_size
      rw [Array.length_toList]
      omega
    rw [hrank, List.getLast?_take, if_neg (Nat.succ_ne_zero count), Nat.add_sub_cancel,
      List.getElem?_eq_getElem hcount, Option.some_or, ← List.getElem?_eq_getElem hcount,
      Array.getElem?_toList] at hlast
    show index.addresses[count]?.bind index.symbolAt? = _
    rw [hlast]
    cases hfloor : index.toSymbolTable.floor? address with
    | none => rfl
    | some symbol => exact symbolAt?_of_mem (SymbolTable.isFloor_of_floor? hfloor).mem

theorem isSorted_sort (index : SymbolIndex) : index.sort.isSorted = true := by
  unfold sort
  split
  · assumption
  · rfl

@[simp]
theorem toSymbolTable_sort (index : SymbolIndex) : index.sort.toSymbolTable = index.toSymbolTable := by
  unfold sort
  split
  · rfl
  · rfl

theorem toSymbolTable_insert (index : SymbolIndex) (address : Address) (name : String) :
    (index.insert address name).toSymbolTable = index.toSymbolTable.insert address name := by
  unfold insert SymbolTable.insert
  split
  · rfl
  · split
    · rfl
    · rfl

theorem serve_eq (index : SymbolIndex) (request : Request) :
    (index.serve request).1.toSymbolTable = (index.toSymbolTable.serve request).1
      ∧ (index.serve request).2 = (index.toSymbolTable.serve request).2 := by
  have hsorted := isSorted_sort index
  cases request with
  | insert address name => exact ⟨toSymbolTable_insert index address name, rfl⟩
  | recordEntryPoint address =>
    simp only [serve, SymbolTable.serve, SymbolTable.recordEntryPoint]
    cases index.entryPoint? with
    | none => exact ⟨rfl, rfl⟩
    | some recorded => exact ⟨rfl, rfl⟩
  | floor address => simp [serve, SymbolTable.serve, floor?_eq hsorted]
  | nameAt address => simp [serve, SymbolTable.serve, floor?_eq hsorted, SymbolTable.nameAt?]
  | addressOf name => simp [serve, SymbolTable.serve, addressOf?_eq hsorted]
  | symbols => simp [serve, SymbolTable.serve, symbols_eq hsorted]
  | size => simp [serve, SymbolTable.serve, size_addresses]
  | contains address => exact ⟨rfl, rfl⟩
  | entryPoint => exact ⟨rfl, rfl⟩
  | hasEntryPoint => exact ⟨rfl, rfl⟩

theorem toSymbolTable_serveAll (index : SymbolIndex) (requests : List Request) :
    (index.serveAll requests).toSymbolTable = index.toSymbolTable.serveAll requests := by
  induction requests generalizing index with
  | nil => rfl
  | cons request requests ih =>
    rw [serveAll, SymbolTable.serveAll, List.foldl_cons, List.foldl_cons, ← (serve_eq index request).1]
    apply ih

end CallScope.SymbolIndex
