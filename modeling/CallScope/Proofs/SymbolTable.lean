import CallScope.SymbolTable.Floor

/-!
This module contains what the answers of a symbol table say about the symbols in it.
-/

namespace CallScope.SymbolTable

variable {table : SymbolTable} {address : Address} {name : String} {symbol : Symbol}

theorem mem_symbols_iff : symbol ∈ table.symbols ↔ table.names[symbol.address]? = some symbol.name := by
  unfold symbols
  rw [List.mem_map]
  constructor
  · rintro ⟨entry, hentry, rfl⟩
    exact Std.ExtTreeMap.mem_toList_iff_getElem?_eq_some.mp hentry
  · intro h
    exact ⟨(symbol.address, symbol.name), Std.ExtTreeMap.mem_toList_iff_getElem?_eq_some.mpr h, rfl⟩

theorem map_address_symbols (table : SymbolTable) : table.symbols.map (·.address) = table.names.keys := by
  unfold symbols
  rw [List.map_map, ← Std.ExtTreeMap.map_fst_toList_eq_keys]
  rfl

theorem mem_map_address_symbols_iff : address ∈ table.symbols.map (·.address) ↔ address ∈ table.names := by
  rw [map_address_symbols, Std.ExtTreeMap.mem_keys]

theorem pairwise_keys (table : SymbolTable) : table.names.keys.Pairwise (· < ·) := by
  apply List.Pairwise.imp _ Std.ExtTreeMap.ordered_keys
  intro a b h
  exact Int.compare_eq_lt.mp h

theorem pairwise_symbols (table : SymbolTable) : table.symbols.Pairwise fun a b => a.address < b.address := by
  have h := pairwise_keys table
  rw [← map_address_symbols, List.pairwise_map] at h
  exact h

theorem eq_of_mem_symbols {other : Symbol} (hsymbol : symbol ∈ table.symbols) (hother : other ∈ table.symbols)
    (haddress : symbol.address = other.address) : symbol = other := by
  rw [mem_symbols_iff] at hsymbol hother
  cases symbol
  cases other
  simp_all

/--
Of the symbols that do not start above an address, the one that starts last.
-/
structure IsFloor (table : SymbolTable) (address : Address) (symbol : Symbol) : Prop where
  mem : symbol ∈ table.symbols
  le : symbol.address ≤ address
  greatest : ∀ other ∈ table.symbols, other.address ≤ address → other.address ≤ symbol.address

theorem IsFloor.eq {other : Symbol} (hsymbol : table.IsFloor address symbol) (hother : table.IsFloor address other) :
    symbol = other := by
  apply eq_of_mem_symbols hsymbol.mem hother.mem
  apply Int.le_antisymm
  · exact hother.greatest symbol hsymbol.mem hsymbol.le
  · exact hsymbol.greatest other hother.mem hother.le

theorem isFloor_of_floor? (h : table.floor? address = some symbol) : table.IsFloor address symbol := by
  rw [floor?_eq_getLast?] at h
  -- The symbols that do not start above the address ascend, so every other one starts before the last.
  obtain ⟨init, hinit⟩ := List.getLast?_eq_some_iff.mp h
  have hmem : ∀ s, s ∈ init ++ [symbol] ↔ s ∈ table.symbols ∧ s.address ≤ address := by
    intro s
    rw [← hinit, List.mem_filter, decide_eq_true_iff]
  have hpairwise : (init ++ [symbol]).Pairwise fun a b => a.address < b.address := by
    rw [← hinit]
    exact (pairwise_symbols table).filter _
  obtain ⟨hsymbol, hle⟩ := (hmem symbol).mp (by simp)
  refine ⟨hsymbol, hle, ?_⟩
  intro other hother hotherLe
  rcases List.mem_append.mp ((hmem other).mpr ⟨hother, hotherLe⟩) with hinner | hlast
  · apply Int.le_of_lt
    exact (List.pairwise_append.mp hpairwise).2.2 other hinner symbol (List.mem_singleton_self symbol)
  · cases List.mem_singleton.mp hlast
    apply Int.le_refl

theorem floor?_eq_none_iff : table.floor? address = none ↔ ∀ symbol ∈ table.symbols, address < symbol.address := by
  rw [floor?_eq_getLast?, List.getLast?_eq_none_iff, List.filter_eq_nil_iff]
  simp only [decide_eq_true_iff, Int.not_le]

theorem floor?_eq_some_iff : table.floor? address = some symbol ↔ table.IsFloor address symbol := by
  constructor
  · apply isFloor_of_floor?
  · intro h
    cases hfloor : table.floor? address with
    | none =>
      have hlt := floor?_eq_none_iff.mp hfloor symbol h.mem
      exact absurd h.le (Int.not_le.mpr hlt)
    | some other => rw [h.eq (isFloor_of_floor? hfloor)]

theorem exists_isFloor (hsymbol : symbol ∈ table.symbols) (hle : symbol.address ≤ address) :
    ∃ floor, table.IsFloor address floor := by
  cases hfloor : table.floor? address with
  | none => exact absurd hle (Int.not_le.mpr (floor?_eq_none_iff.mp hfloor symbol hsymbol))
  | some floor => exact ⟨floor, floor?_eq_some_iff.mp hfloor⟩

/--
The function that an address belongs to has the given name.
-/
def BelongsTo (table : SymbolTable) (address : Address) (name : String) : Prop :=
  ∃ symbol, table.IsFloor address symbol ∧ symbol.name = name

theorem nameAt?_eq_some_iff : table.nameAt? address = some name ↔ table.BelongsTo address name := by
  unfold nameAt? BelongsTo
  rw [Option.map_eq_some_iff]
  simp only [floor?_eq_some_iff]

theorem nameAt?_eq_none_iff : table.nameAt? address = none ↔ ∀ symbol ∈ table.symbols, address < symbol.address := by
  unfold nameAt?
  rw [Option.map_eq_none_iff, floor?_eq_none_iff]

/--
The function of the entry point, if there are both.
-/
def entryFunction? (table : SymbolTable) : Option String :=
  table.entryPoint?.bind table.nameAt?

theorem bind_toOption_entryPoint (table : SymbolTable) :
    table.entryPoint.toOption.bind table.nameAt? = table.entryFunction? := by
  unfold entryPoint entryFunction?
  cases table.entryPoint? <;> rfl

theorem entryFunction?_of_hasEntryPoint (h : table.hasEntryPoint = false) : table.entryFunction? = none := by
  rw [hasEntryPoint, Option.isSome_eq_false_iff, Option.isNone_iff_eq_none] at h
  rw [entryFunction?, h]
  rfl

theorem entryFunction?_eq_none_iff :
    table.entryFunction? = none ↔ table.entryPoint? = none
      ∨ ∃ entry, table.entryPoint? = some entry ∧ ∀ symbol ∈ table.symbols, entry < symbol.address := by
  unfold entryFunction?
  cases table.entryPoint? with
  | none => simp
  | some entry => simp [nameAt?_eq_none_iff]

def lowest? (table : SymbolTable) : Option Address :=
  (table.symbols.map (·.address)).min?

/--
Decide whether an address lies below the lowest symbol. Without symbols, all addresses do.
-/
def isBelow (table : SymbolTable) (address : Address) : Bool :=
  table.lowest?.all (address < ·)

theorem isBelow_iff : table.isBelow address = true ↔ table.nameAt? address = none := by
  rw [nameAt?_eq_none_iff]
  unfold isBelow lowest?
  cases hlowest : (table.symbols.map (·.address)).min? with
  | none =>
    rw [List.min?_eq_none_iff, List.map_eq_nil_iff] at hlowest
    simp [hlowest]
  | some lowest =>
    obtain ⟨hmem, hle⟩ := List.min?_eq_some_iff.mp hlowest
    simp only [List.mem_map] at hmem hle
    simp only [Option.all_some, decide_eq_true_iff]
    constructor
    · intro hlt symbol hsymbol
      apply Int.lt_of_lt_of_le hlt
      apply hle
      exact ⟨symbol, hsymbol, rfl⟩
    · intro h
      obtain ⟨symbol, hsymbol, rfl⟩ := hmem
      apply h symbol hsymbol

theorem isFloor_self (h : symbol ∈ table.symbols) : table.IsFloor symbol.address symbol := by
  refine ⟨h, Int.le_refl _, ?_⟩
  intro other _ hle
  exact hle

theorem addressOf?_eq_some_iff :
    table.addressOf? name = some address ↔
      ∃ before after, table.symbols = before ++ ⟨address, name⟩ :: after ∧ ∀ symbol ∈ before, symbol.name ≠ name := by
  unfold addressOf?
  simp only [Option.map_eq_some_iff, List.find?_eq_some_iff_append, decide_eq_true_iff]
  constructor
  · rintro ⟨symbol, ⟨rfl, before, after, hsymbols, hbefore⟩, rfl⟩
    exact ⟨before, after, hsymbols, by simpa using hbefore⟩
  · rintro ⟨before, after, hsymbols, hbefore⟩
    exact ⟨⟨address, name⟩, ⟨rfl, before, after, hsymbols, by simpa using hbefore⟩, rfl⟩

theorem addressOf?_eq_none_iff : table.addressOf? name = none ↔ ∀ symbol ∈ table.symbols, symbol.name ≠ name := by
  unfold addressOf?
  rw [Option.map_eq_none_iff, List.find?_eq_none]
  simp only [decide_eq_true_iff, ne_eq]

theorem exists_addressOf?_of_nameAt? (h : table.nameAt? address = some name) :
    ∃ start, table.addressOf? name = some start ∧ table.nameAt? start = some name := by
  obtain ⟨symbol, hfloor, hname⟩ := nameAt?_eq_some_iff.mp h
  cases hstart : table.addressOf? name with
  | none => exact absurd hname (addressOf?_eq_none_iff.mp hstart symbol hfloor.mem)
  | some start =>
    obtain ⟨before, after, hsymbols, _⟩ := addressOf?_eq_some_iff.mp hstart
    have hmem : ⟨start, name⟩ ∈ table.symbols := by simp [hsymbols]
    exact ⟨start, rfl, nameAt?_eq_some_iff.mpr ⟨_, isFloor_self hmem, rfl⟩⟩

end CallScope.SymbolTable
