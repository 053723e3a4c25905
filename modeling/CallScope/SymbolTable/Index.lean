import CallScope.SymbolTable.Request

/-!
This module contains an index of symbols that sorts its addresses only when a request needs them in order. Listings
give symbols mostly in ascending order, so most of the time there is nothing to sort.
-/

namespace CallScope

/--
A symbol table with its addresses in an array, each of them once. If the index counts as sorted, they ascend.
-/
structure SymbolIndex extends SymbolTable where
  addresses : Array Address := #[]
  isSorted : Bool := true
  mem_addresses_iff : ∀ address, address ∈ addresses.toList ↔ address ∈ names := by simp
  nodup_addresses : addresses.toList.Nodup := by simp
  ascending_of_isSorted : isSorted = true → addresses.toList.Pairwise (· < ·) := by simp

namespace SymbolIndex

open SymbolTable (Request Reply)

theorem lt_of_mem_of_not_lt_back? {addresses : Array Address} {address : Address}
    (hascending : addresses.toList.Pairwise (· < ·)) (hnew : address ∉ addresses.toList)
    (hback : ¬addresses.back?.any (address < ·)) :
    ∀ a ∈ addresses.toList, a < address := by
  rw [← Array.getLast?_toList] at hback
  cases hlast : addresses.toList.getLast? with
  | none =>
    rw [List.getLast?_eq_none_iff] at hlast
    simp [hlast]
  | some last =>
    obtain ⟨init, hinit⟩ := List.getLast?_eq_some_iff.mp hlast
    rw [hinit] at hascending hnew ⊢
    have hle : last ≤ address := by simpa [hlast] using hback
    have hne : last ≠ address := by
      rintro rfl
      simp at hnew
    have hlt := Int.lt_iff_le_and_ne.mpr ⟨hle, hne⟩
    intro a hmem
    rcases List.mem_append.mp hmem with hmem | hmem
    · apply Int.lt_trans _ hlt
      exact (List.pairwise_append.mp hascending).2.2 a hmem last (List.mem_singleton_self last)
    · rw [List.mem_singleton] at hmem
      rw [hmem]
      exact hlt

theorem pairwise_lt_mergeSort {addresses : List Address} (hnodup : addresses.Nodup) :
    (addresses.mergeSort (· ≤ ·)).Pairwise (· < ·) := by
  have hle : (addresses.mergeSort (· ≤ ·)).Pairwise fun a b => decide (a ≤ b) = true := by
    apply List.pairwise_mergeSort
    · intro a b c hab hbc
      rw [decide_eq_true_iff] at hab hbc ⊢
      exact Int.le_trans hab hbc
    · intro a b
      rw [Bool.or_eq_true, decide_eq_true_iff, decide_eq_true_iff]
      exact Int.le_total a b
  have hne := (List.mergeSort_perm addresses (· ≤ ·)).nodup_iff.mpr hnodup
  apply List.Pairwise.imp _ (hle.and hne)
  intro a b h
  exact Int.lt_iff_le_and_ne.mpr ⟨of_decide_eq_true h.1, h.2⟩

/--
Store a symbol. A new address goes to the end of the array, and the index no longer counts as sorted if the
address before it is higher.
-/
def insert (index : SymbolIndex) (address : Address) (name : String) : SymbolIndex :=
  if address = Address.undefined ∨ index.lastStored = some address then index
  else if hmem : address ∈ index.names then
    { index with
      names := index.names.insert address name
      lastStored := some address
      mem_addresses_iff a := by
        rw [index.mem_addresses_iff, Std.ExtTreeMap.mem_insert, Std.LawfulEqOrd.compare_eq_iff_eq]
        constructor
        · exact .inr
        · rintro (rfl | h)
          · exact hmem
          · exact h }
  else
    have hnew : address ∉ index.addresses.toList := mt (index.mem_addresses_iff address).mp hmem
    { index with
      names := index.names.insert address name
      lastStored := some address
      addresses := index.addresses.push address
      isSorted := index.isSorted && !index.addresses.back?.any (address < ·)
      mem_addresses_iff a := by
        rw [Array.toList_push, List.mem_append, index.mem_addresses_iff, List.mem_singleton,
          Std.ExtTreeMap.mem_insert, Std.LawfulEqOrd.compare_eq_iff_eq, or_comm, eq_comm]
      nodup_addresses := by
        rw [Array.toList_push, List.nodup_append]
        refine ⟨index.nodup_addresses, by simp, ?_⟩
        intro a ha b hb
        rw [List.mem_singleton] at hb
        subst hb
        rintro rfl
        exact hnew ha
      ascending_of_isSorted h := by
        rw [Bool.and_eq_true, Bool.not_eq_true'] at h
        have hascending := index.ascending_of_isSorted h.1
        rw [Array.toList_push, List.pairwise_append]
        refine ⟨hascending, by simp, ?_⟩
        intro a ha b hb
        rw [List.mem_singleton] at hb
        subst hb
        exact lt_of_mem_of_not_lt_back? hascending hnew (by simp [h.2]) a ha }

def sort (index : SymbolIndex) : SymbolIndex :=
  if index.isSorted then index
  else
    have hperm := List.mergeSort_perm index.addresses.toList (· ≤ ·)
    { index with
      addresses := (index.addresses.toList.mergeSort (· ≤ ·)).toArray
      isSorted := true
      mem_addresses_iff a := by
        rw [List.toList_toArray, hperm.mem_iff, index.mem_addresses_iff]
      nodup_addresses := by
        rw [List.toList_toArray, hperm.nodup_iff]
        exact index.nodup_addresses
      ascending_of_isSorted _ := by
        rw [List.toList_toArray]
        exact pairwise_lt_mergeSort index.nodup_addresses }

/--
Count the addresses in an ascending array that are not above `address`, by bisection.
-/
def rank (addresses : Array Address) (address : Address) : Nat :=
  go 0 addresses.size (Nat.le_refl _)
where
  go (low high : Nat) (hhigh : high ≤ addresses.size) : Nat :=
    if hlow : low < high then
      let middle := (low + high) / 2
      if address < addresses[middle] then go low middle (by omega) else go (middle + 1) high hhigh
    else low
  termination_by high - low

def symbolAt? (index : SymbolIndex) (address : Address) : Option Symbol :=
  index.names[address]?.map fun name => ⟨address, name⟩

/--
Find the symbol that an address belongs to. In this and the requests below the array is in order.
-/
def floor? (index : SymbolIndex) (address : Address) : Option Symbol :=
  match rank index.addresses address with
  | 0 => none
  | count + 1 => index.addresses[count]?.bind index.symbolAt?

def symbols (index : SymbolIndex) : List Symbol :=
  index.addresses.toList.filterMap index.symbolAt?

def addressOf? (index : SymbolIndex) (name : String) : Option Address :=
  index.addresses.toList.find? (index.names[·]? = some name)

/--
Serve a request. What needs the addresses in order sorts them first, and they stay so.
-/
def serve (index : SymbolIndex) : Request → SymbolIndex × Reply
  | .insert address name => (index.insert address name, .done)
  | .recordEntryPoint address =>
    match index.entryPoint? with
    | some recorded => (index, .refused (.duplicate address recorded))
    | none => ({ index with entryPoint? := some address }, .done)
  | .floor address => (index.sort, .symbol (index.sort.floor? address))
  | .nameAt address => (index.sort, .name ((index.sort.floor? address).map (·.name)))
  | .addressOf name => (index.sort, .address (index.sort.addressOf? name))
  | .symbols => (index.sort, .symbols index.sort.symbols)
  | .size => (index, .count index.addresses.size)
  | .contains address => (index, .truth (index.names.contains address))
  | .entryPoint => (index, .ofEntryPoint index.entryPoint)
  | .hasEntryPoint => (index, .truth index.hasEntryPoint)

def serveAll (index : SymbolIndex) (requests : List Request) : SymbolIndex :=
  requests.foldl (fun index request => (index.serve request).1) index

end SymbolIndex

end CallScope
