import CallScope.SymbolTable

/-!
This module contains the law of floor lookup: of the symbols that do not start above an address, `floor?`
finds the last one.
-/

namespace CallScope.SymbolTable

open Std.DTreeMap.Internal

section Search

variable {α β : Type}

def treeEntries (tree : Impl α fun _ => β) : List (α × β) :=
  tree.toListModel.map fun entry => (entry.1, entry.2)

theorem treeEntries_inner {size : Nat} {k : α} {v : β} {l r : Impl α fun _ => β} :
    treeEntries (.inner size k v l r) = treeEntries l ++ (k, v) :: treeEntries r := by
  simp [treeEntries]

variable [Ord α]

theorem compare_lt_of_mem_right {size : Nat} {k : α} {v : β} {l r : Impl α fun _ => β}
    (h : (Impl.inner size k v l r).Ordered) :
    ∀ entry ∈ treeEntries r, compare k entry.1 = .lt := by
  intro entry hmem
  obtain ⟨e, he, rfl⟩ := List.mem_map.mp hmem
  exact h.compare_right he

variable [Std.TransOrd α]

theorem filter_isLE_eq_nil {key : α} {entries : List (α × β)}
    (h : ∀ entry ∈ entries, compare key entry.1 = .lt) :
    entries.filter (fun entry => (compare entry.1 key).isLE) = [] := by
  rw [List.filter_eq_nil_iff]
  intro entry hmem
  rw [Std.OrientedCmp.gt_of_lt (h entry hmem)]
  decide

theorem getEntryLE?_go_eq (key : α) {tree : Impl α fun _ => β} (h : tree.Ordered) (best : Option (α × β)) :
    Impl.Const.getEntryLE?.go key best tree
      = ((treeEntries tree).filter fun entry => (compare entry.1 key).isLE).getLast?.or best := by
  induction tree generalizing best with
  | leaf => simp [Impl.Const.getEntryLE?.go, treeEntries]
  | inner size k v l r ihl ihr =>
    have hright := compare_lt_of_mem_right h
    rw [Impl.Const.getEntryLE?.go, treeEntries_inner, List.filter_append]
    split
    · rename_i hlt
      have hnil : ∀ entry ∈ (k, v) :: treeEntries r, compare key entry.1 = .lt := by
        intro entry hmem
        rcases List.mem_cons.mp hmem with rfl | hmem
        · exact hlt
        · exact Std.TransCmp.lt_trans hlt (hright entry hmem)
      rw [ihl h.left, filter_isLE_eq_nil hnil, List.append_nil]
    · rename_i heq
      have hnil : ∀ entry ∈ treeEntries r, compare key entry.1 = .lt := fun entry hmem =>
        Std.TransCmp.lt_of_eq_of_lt heq (hright entry hmem)
      have hle : (compare k key).isLE := by
        rw [Std.OrientedCmp.eq_symm heq]
        rfl
      simp [filter_isLE_eq_nil hnil, hle]
    · rename_i hgt
      have hle : (compare k key).isLE := by
        rw [Std.OrientedCmp.lt_of_gt hgt]
        rfl
      rw [ihr h.right]
      simp [hle, List.getLast?_append, List.getLast?_cons]

end Search

theorem getEntryLE?_eq_getLast? (names : Std.ExtTreeMap Address String) (address : Address) :
    names.getEntryLE? address = (names.toList.filter fun entry => entry.1 ≤ address).getLast? := by
  obtain ⟨⟨quotient⟩⟩ := names
  induction quotient using Quotient.ind with
  | _ tree =>
    show Impl.Const.getEntryLE?.go address none tree.inner
      = ((Impl.Const.toList tree.inner).filter _).getLast?
    rw [getEntryLE?_go_eq address tree.wf.ordered, Option.or_none, Impl.Const.toList_eq_toListModel_map]
    congr 1
    apply List.filter_congr
    intro entry _
    rw [Bool.eq_iff_iff, Int.isLE_compare, decide_eq_true_iff]

theorem floor?_eq_getLast? (table : SymbolTable) (address : Address) :
    table.floor? address = (table.symbols.filter fun symbol => symbol.address ≤ address).getLast? := by
  simp only [floor?, symbols, getEntryLE?_eq_getLast?, List.filter_map, List.getLast?_map]
  rfl

end CallScope.SymbolTable
