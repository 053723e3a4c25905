import CallScope.Proofs.SymbolIndex
import Mathlib.Data.Set.Card

/-!
This module contains what a store of symbols replies after any sequence of requests. The replies depend on the
symbols that were stored, and not on the questions that were asked in between.
-/

namespace CallScope.SymbolTable

/--
The addresses that requests store. The undefined address is never stored.
-/
def storedAddresses (requests : List Request) : Set Address :=
  {address | address ≠ 0 ∧ ∃ name, Request.insert address name ∈ requests}

variable {table : SymbolTable} {address : Address}

/--
The address that was stored last is still there.
-/
def KeepsLast (table : SymbolTable) : Prop :=
  ∀ address, table.lastStored = some address → address ∈ table.names

theorem keepsLast_empty : KeepsLast {} := by
  intro address h
  cases h

theorem mem_names_insert (h : table.KeepsLast) {a : Address} {name : String} :
    a ∈ (table.insert address name).names ↔ a ∈ table.names ∨ (address ≠ 0 ∧ address = a) := by
  unfold insert
  split
  · next hdropped =>
    rcases hdropped with hundefined | hlast
    · simp [show address = 0 from hundefined]
    -- The repetition is dropped, but its address is there since it was stored last.
    · have hmem := h address hlast
      constructor
      · exact .inl
      · rintro (ha | ⟨_, rfl⟩)
        · exact ha
        · exact hmem
  · next hstored =>
    have hdefined : address ≠ 0 := fun heq => hstored (.inl heq)
    simp only [Std.ExtTreeMap.mem_insert, Std.LawfulEqOrd.compare_eq_iff_eq]
    rw [or_comm]
    simp [hdefined]

theorem keepsLast_insert (h : table.KeepsLast) (address : Address) (name : String) :
    (table.insert address name).KeepsLast := by
  unfold insert
  split
  · exact h
  · intro a ha
    cases ha
    apply Std.ExtTreeMap.mem_insert_self

theorem serveAll_cons (table : SymbolTable) (request : Request) (requests : List Request) :
    table.serveAll (request :: requests) = (table.serve request).1.serveAll requests := by
  rfl

/--
Only the request to store a symbol changes what the symbols are.
-/
theorem serve_cases (table : SymbolTable) (request : Request) :
    (∃ address name, request = .insert address name ∧ (table.serve request).1 = table.insert address name)
      ∨ ((∀ address name, request ≠ .insert address name)
          ∧ (table.serve request).1.names = table.names ∧ (table.serve request).1.lastStored = table.lastStored) := by
  cases request with
  | insert address name => exact .inl ⟨address, name, rfl, rfl⟩
  | recordEntryPoint address =>
    refine .inr ⟨by simp, ?_⟩
    simp only [serve, recordEntryPoint]
    cases table.entryPoint? with
    | none => exact ⟨rfl, rfl⟩
    | some recorded => exact ⟨rfl, rfl⟩
  | _ => exact .inr ⟨by simp, rfl, rfl⟩

theorem keepsLast_serve (h : table.KeepsLast) (request : Request) : (table.serve request).1.KeepsLast := by
  rcases serve_cases table request with ⟨address, name, _, hserve⟩ | ⟨_, hnames, hlast⟩
  · rw [hserve]
    exact keepsLast_insert h address name
  · unfold KeepsLast
    rw [hnames, hlast]
    exact h

theorem mem_names_serve (h : table.KeepsLast) (request : Request) :
    address ∈ (table.serve request).1.names
      ↔ address ∈ table.names ∨ (address ≠ 0 ∧ ∃ name, request = .insert address name) := by
  rcases serve_cases table request with ⟨a, name, rfl, hserve⟩ | ⟨hother, hnames, _⟩
  · rw [hserve, mem_names_insert h]
    apply or_congr_right
    constructor
    · rintro ⟨hdefined, rfl⟩
      exact ⟨hdefined, name, rfl⟩
    · rintro ⟨hdefined, _, heq⟩
      cases heq
      exact ⟨hdefined, rfl⟩
  · rw [hnames]
    simp [hother]

theorem mem_storedAddresses_cons {request : Request} {requests : List Request} :
    address ∈ storedAddresses (request :: requests)
      ↔ (address ≠ 0 ∧ ∃ name, request = .insert address name) ∨ address ∈ storedAddresses requests := by
  unfold storedAddresses
  simp only [Set.mem_ofPred_eq, List.mem_cons, exists_or, and_or_left, eq_comm]

theorem mem_names_serveAll (h : table.KeepsLast) (requests : List Request) :
    address ∈ (table.serveAll requests).names ↔ address ∈ table.names ∨ address ∈ storedAddresses requests := by
  induction requests generalizing table with
  | nil => simp [serveAll, storedAddresses]
  | cons request requests ih =>
    rw [serveAll, List.foldl_cons]
    have hrest := ih (keepsLast_serve h request)
    unfold serveAll at hrest
    rw [hrest, mem_names_serve h, mem_storedAddresses_cons, or_assoc]

theorem serve_of_isUpdate_eq_false {request : Request} (h : request.isUpdate = false) :
    (table.serve request).1 = table := by
  cases request with
  | insert address name => cases h
  | recordEntryPoint address => cases h
  | _ => rfl

theorem serveAll_filter_isUpdate (table : SymbolTable) (requests : List Request) :
    table.serveAll (requests.filter (·.isUpdate)) = table.serveAll requests := by
  unfold serveAll
  induction requests generalizing table with
  | nil => rfl
  | cons request requests ih =>
    rw [List.foldl_cons]
    cases hupdate : request.isUpdate with
    | true =>
      rw [List.filter_cons_of_pos hupdate, List.foldl_cons]
      apply ih
    | false =>
      rw [List.filter_cons_of_neg (by simp [hupdate]), serve_of_isUpdate_eq_false hupdate]
      apply ih

/--
What a store replies when it holds `symbols` and their addresses are those in `stored`.
-/
structure Replies (stored : Set Address) (symbols : List Symbol) (reply : Request → Reply) : Prop where
  ascending : symbols.Pairwise fun a b => a.address < b.address
  mem_addresses_iff : ∀ address, address ∈ symbols.map (·.address) ↔ address ∈ stored
  reply_symbols : reply .symbols = .symbols symbols
  reply_size : reply .size = .count stored.ncard
  reply_contains : ∀ address, ∃ answer, reply (.contains address) = .truth answer ∧ (answer = true ↔ address ∈ stored)
  reply_floor : ∀ address, ∃ symbol?, reply (.floor address) = .symbol symbol?
    ∧ reply (.nameAt address) = .name (symbol?.map (·.name))
    ∧ (symbol? = none ↔ ∀ start ∈ stored, ¬start ≤ address)
    ∧ ∀ symbol, symbol? = some symbol ↔
        symbol ∈ symbols ∧ symbol.address ≤ address ∧ ∀ start ∈ stored, start ≤ address → start ≤ symbol.address
  reply_addressOf : ∀ name, ∃ address?, reply (.addressOf name) = .address address?
    ∧ (address? = none ↔ ∀ symbol ∈ symbols, symbol.name ≠ name)
    ∧ ∀ address, address? = some address ↔
        ∃ before after, symbols = before ++ ⟨address, name⟩ :: after ∧ ∀ symbol ∈ before, symbol.name ≠ name

theorem ncard_names (table : SymbolTable) : {address | address ∈ table.names}.ncard = table.size := by
  have hkeys : {address | address ∈ table.names} = (table.names.keys.toFinset : Set Address) := by
    ext address
    simp
  rw [hkeys, Set.ncard_coe_finset, List.toFinset_card_of_nodup Std.ExtTreeMap.nodup_keys]
  apply Std.ExtTreeMap.length_keys

theorem forall_mem_symbols_iff {p : Address → Prop} :
    (∀ symbol ∈ table.symbols, p symbol.address) ↔ ∀ address ∈ table.names, p address := by
  simp only [← mem_map_address_symbols_iff, List.forall_mem_map]

theorem replies_serve (table : SymbolTable) :
    Replies {address | address ∈ table.names} table.symbols fun request => (table.serve request).2 where
  ascending := pairwise_symbols table
  mem_addresses_iff _ := mem_map_address_symbols_iff
  reply_symbols := rfl
  reply_size := by
    rw [ncard_names]
    rfl
  reply_contains address := ⟨table.contains address, rfl, Std.ExtTreeMap.contains_iff_mem⟩
  reply_floor address := by
    refine ⟨table.floor? address, rfl, rfl, ?_, ?_⟩
    · rw [floor?_eq_none_iff, forall_mem_symbols_iff (p := fun start => address < start)]
      simp only [Set.mem_ofPred_eq, Int.not_le]
    · intro symbol
      rw [floor?_eq_some_iff]
      have hgreatest := @forall_mem_symbols_iff table fun start => start ≤ address → start ≤ symbol.address
      constructor
      · intro h
        exact ⟨h.mem, h.le, hgreatest.mp h.greatest⟩
      · rintro ⟨hmem, hle, h⟩
        exact ⟨hmem, hle, hgreatest.mpr h⟩
  reply_addressOf name :=
    ⟨table.addressOf? name, rfl, addressOf?_eq_none_iff, fun _ => addressOf?_eq_some_iff⟩

theorem names_serveAll_empty (requests : List Request) :
    {address | address ∈ (serveAll {} requests).names} = storedAddresses requests := by
  ext address
  rw [Set.mem_ofPred_eq, mem_names_serveAll keepsLast_empty]
  simp

end CallScope.SymbolTable

namespace CallScope.SymbolIndex

open SymbolTable (Request Reply Replies storedAddresses)

theorem reply_serveAll (requests : List Request) (request : Request) :
    ((serveAll {} requests).serve request).2 = ((SymbolTable.serveAll {} requests).serve request).2 := by
  rw [(serve_eq _ request).2, toSymbolTable_serveAll]

theorem replies_of_history (requests : List Request) :
    (∃ symbols, Replies (storedAddresses requests) symbols fun request => ((serveAll {} requests).serve request).2)
      ∧ (∀ request, ((serveAll {} requests).serve request).2
          = ((serveAll {} (requests.filter (·.isUpdate))).serve request).2)
      ∧ ∀ request, ((serveAll {} requests).serve request).2
          = ((SymbolTable.serveAll {} requests).serve request).2 := by
  refine ⟨⟨(SymbolTable.serveAll {} requests).symbols, ?_⟩, ?_, reply_serveAll requests⟩
  · simp only [reply_serveAll]
    rw [← SymbolTable.names_serveAll_empty]
    apply SymbolTable.replies_serve
  · intro request
    rw [reply_serveAll, reply_serveAll, SymbolTable.serveAll_filter_isUpdate]

end CallScope.SymbolIndex
