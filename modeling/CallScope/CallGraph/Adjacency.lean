import Std.Data.ExtTreeMap
import Std.Data.ExtTreeSet

/-!
This module contains one direction of a graph between names: for each name that has neighbours, the set of
them. Names without neighbours have no row, so two adjacencies with the same arcs are equal.
-/

namespace CallScope

abbrev NameSet := Std.ExtTreeSet String

structure Adjacency where
  rows : Std.ExtTreeMap String NameSet := ∅
  rows_ne_empty : ∀ (name : String) (row : NameSet),
    rows[name]? = some row → row ≠ ∅ := by simp

namespace Adjacency

instance : EmptyCollection Adjacency := ⟨{}⟩

def row (a : Adjacency) (name : String) : NameSet :=
  a.rows[name]?.getD ∅

def insert (a : Adjacency) (source target : String) : Adjacency where
  rows := a.rows.insert source ((a.row source).insert target)
  rows_ne_empty name row h := by
    rw [Std.ExtTreeMap.getElem?_insert] at h
    split at h
    · cases h
      exact Std.ExtTreeSet.insert_ne_empty
    · exact a.rows_ne_empty name row h

def names (a : Adjacency) : List String :=
  a.rows.keys

@[simp]
theorem mem_row_empty {source target : String} : target ∉ (∅ : Adjacency).row source := by
  show target ∉ ((∅ : Std.ExtTreeMap String NameSet)[source]?).getD ∅
  simp

@[simp]
theorem mem_row_insert {a : Adjacency} {source target s t : String} :
    t ∈ (a.insert source target).row s ↔ (source = s ∧ target = t) ∨ t ∈ a.row s := by
  simp only [row, insert, Std.ExtTreeMap.getElem?_insert]
  by_cases h : source = s
  · subst h
    simp
  · simp [h]

end Adjacency

end CallScope
