import Mathlib.Data.List.Nodup

/-!
# Keyed tables

A table is a list of rows, in the order of their insertion, in which no key
occurs twice.  Its operations are those of a statement on one table: look up a
key, change the rows that satisfy a condition, insert a row.
-/

namespace ChainworksForge.Support

variable {κ ρ : Type}

/-- A list of rows with distinct keys. -/
structure Table (key : ρ → κ) where
  rows : List ρ
  distinct : (rows.map key).Nodup

namespace Table

variable [DecidableEq κ] {key : ρ → κ} (table : Table key)

def empty : Table key := ⟨[], List.nodup_nil⟩

/-- The table of one row. -/
def singleton (row : ρ) : Table key := ⟨[row], List.nodup_singleton _⟩

/-- The row of a key. -/
def find (k : κ) : Option ρ :=
  table.rows.find? fun row => key row = k

/-- Change the rows that satisfy a condition. -/
def update (condition : ρ → Bool) (change : ρ → ρ)
    (hkey : ∀ row, key (change row) = key row := by intro; rfl) : Table key where
  rows := table.rows.map fun row => if condition row then change row else row
  distinct := by
    have hkeys : key ∘ (fun row => if condition row then change row else row) =
        key := by
      funext row
      by_cases hrow : condition row = true <;> simp [hrow, hkey]
    rw [List.map_map, hkeys]
    exact table.distinct

theorem find_eq_some_iff {k : κ} {row : ρ} :
    table.find k = some row ↔ row ∈ table.rows ∧ key row = k := by
  constructor
  · intro hfind
    exact ⟨List.mem_of_find?_eq_some hfind,
      by simpa using List.find?_some hfind⟩
  · rintro ⟨hmem, rfl⟩
    cases hfind : table.find (key row) with
    | none =>
        have hnone := List.find?_eq_none.1 hfind row hmem
        simp at hnone
    | some other =>
        have hother : other ∈ table.rows := List.mem_of_find?_eq_some hfind
        have hkey : key other = key row := by simpa using List.find?_some hfind
        rw [List.inj_on_of_nodup_map table.distinct hother hmem hkey]

theorem find_of_mem {row : ρ} (hmem : row ∈ table.rows) :
    table.find (key row) = some row :=
  table.find_eq_some_iff.2 ⟨hmem, rfl⟩

theorem find_eq_none_iff {k : κ} :
    table.find k = none ↔ k ∉ table.rows.map key := by
  simp [find, List.mem_map]

/-- Insert a row whose key is not taken. -/
def add (row : ρ) (hfree : table.find (key row) = none) : Table key where
  rows := table.rows ++ [row]
  distinct := by
    rw [List.map_append, List.map_singleton]
    have hout := table.find_eq_none_iff.1 hfree
    exact table.distinct.append (List.nodup_singleton _)
      (List.disjoint_singleton.2 hout)

/-- Insert a row; a taken key is a conflict. -/
def insert (row : ρ) : Option (Table key) :=
  if h : table.find (key row) = none then some (table.add row h) else none

/-- Insert a row unless its key is taken. -/
def insertOrIgnore (row : ρ) : Table key := (table.insert row).getD table

section Laws

variable {condition : ρ → Bool} {change : ρ → ρ}
  {hkey : ∀ row, key (change row) = key row} {k : κ} {row : ρ}

omit [DecidableEq κ] in
theorem mem_update {row : ρ} :
    row ∈ (table.update condition change hkey).rows ↔
      ∃ old ∈ table.rows, (if condition old then change old else old) = row := by
  simp [update]

theorem find_update :
    (table.update condition change hkey).find k =
      (table.find k).map fun row => if condition row then change row else row := by
  have hsame : ((fun row => decide (key row = k)) ∘ fun row =>
      if condition row then change row else row) =
        fun row => decide (key row = k) := by
    funext row
    by_cases hrow : condition row = true <;> simp [hrow, hkey]
  simp only [find, update, List.find?_map, hsame]

omit [DecidableEq κ] in
/-- A change that leaves the rows it meets leaves the table. -/
theorem update_eq_self (hkey : ∀ row, key (change row) = key row)
    (hsame : ∀ row ∈ table.rows, condition row = true → change row = row) :
    table.update condition change hkey = table := by
  cases table with
  | mk rows distinct =>
      simp only [update, mk.injEq]
      refine (List.map_congr_left fun row hrow => ?_).trans (List.map_id rows)
      by_cases hcondition : condition row = true
      · rw [if_pos hcondition]
        exact hsame row hrow hcondition
      · rw [if_neg hcondition]
        rfl

theorem insert_eq_some_iff {table' : Table key} :
    table.insert row = some table' ↔
      ∃ h : table.find (key row) = none, table.add row h = table' := by
  by_cases h : table.find (key row) = none <;> simp [insert, h]

theorem find_add (h : table.find (key row) = none) :
    (table.add row h).find k = if key row = k then some row else table.find k := by
  by_cases hk : key row = k
  · subst hk
    rw [if_pos rfl, find_eq_some_iff]
    simp [add]
  · rw [if_neg hk]
    simp [find, add, hk]

theorem find_insertOrIgnore :
    (table.insertOrIgnore row).find k =
      (table.find k).or (if key row = k then some row else none) := by
  by_cases h : table.find (key row) = none
  · have hadd : table.insertOrIgnore row = table.add row h := by
      simp [insertOrIgnore, insert, h]
    rw [hadd, find_add]
    by_cases hk : key row = k
    · subst hk
      simp [h]
    · simp [hk]
  · have hkeep : table.insertOrIgnore row = table := by
      simp [insertOrIgnore, insert, h]
    rw [hkeep]
    by_cases hk : key row = k
    · subst hk
      obtain ⟨found, hfound⟩ := Option.ne_none_iff_exists'.1 h
      simp [hfound]
    · simp [hk]

/-- A taken key stays taken by the same row. -/
theorem find_insertOrIgnore_of_some {found : ρ} (h : table.find k = some found) :
    (table.insertOrIgnore row).find k = some found := by
  rw [find_insertOrIgnore, h]
  rfl

end Laws

/-- A change of the row of one key leaves the rows of the others. -/
theorem find_update_of_ne {condition : ρ → Bool} {change : ρ → ρ} {k k' : κ}
    (hcondition : ∀ row, condition row = true → key row = k') (hne : k ≠ k')
    (hkey : ∀ row, key (change row) = key row) :
    (table.update condition change hkey).find k = table.find k := by
  rw [find_update]
  cases hfind : table.find k with
  | none => rfl
  | some row =>
      have hrow : key row = k := (table.find_eq_some_iff.1 hfind).2
      have hother : ¬condition row = true :=
        fun htrue => hne (hrow.symm.trans (hcondition row htrue))
      rw [Option.map_some, if_neg hother]

/-! ## Tables that only grow -/

/-- Every key of the first table is a key of the second. -/
def KeepsKeys (table table' : Table key) : Prop :=
  ∀ k, (table.find k).isSome = true → (table'.find k).isSome = true

theorem KeepsKeys.refl : KeepsKeys table table := fun _ h => h

theorem KeepsKeys.trans {table₁ table₂ table₃ : Table key}
    (h₁ : KeepsKeys table₁ table₂) (h₂ : KeepsKeys table₂ table₃) :
    KeepsKeys table₁ table₃ :=
  fun k h => h₂ k (h₁ k h)

theorem keepsKeys_update {condition : ρ → Bool} {change : ρ → ρ}
    (hkey : ∀ row, key (change row) = key row) :
    KeepsKeys table (table.update condition change hkey) := by
  intro k h
  rw [find_update, Option.isSome_map]
  exact h

theorem keepsKeys_insertOrIgnore (row : ρ) :
    KeepsKeys table (table.insertOrIgnore row) := by
  intro k h
  obtain ⟨found, hfound⟩ := Option.isSome_iff_exists.1 h
  rw [find_insertOrIgnore_of_some table hfound]
  rfl

theorem keepsKeys_of_insert {row : ρ} {table' : Table key}
    (hinsert : table.insert row = some table') : KeepsKeys table table' := by
  have hsame : table.insertOrIgnore row = table' := by
    rw [insertOrIgnore, hinsert]
    rfl
  rw [← hsame]
  exact table.keepsKeys_insertOrIgnore row

end Table

end ChainworksForge.Support
