import Mathlib.Data.List.Basic
import Mathlib.Data.List.Induction
import Mathlib.Order.Lattice

/-!
# Maps in ascending order of keys

A map is written entry by entry and holds, in the order of the keys, the last entry
written under each key.  Up to the order the entries of the map are the writes that no
later write replaces.
-/

namespace ChainworksForge.Support

section Map

variable {κ ν : Type} [LinearOrder κ]

/-- Write an entry; an entry under the same key is replaced. -/
def insertEntry (key : κ) (value : ν) : List (κ × ν) → List (κ × ν)
  | [] => [(key, value)]
  | entry :: rest =>
      if key < entry.1 then (key, value) :: entry :: rest
      else if key = entry.1 then (key, value) :: rest
      else entry :: insertEntry key value rest

/-- The entries that a map holds after some more writes. -/
def writeAll (writes entries : List (κ × ν)) : List (κ × ν) :=
  writes.foldl (fun entries write => insertEntry write.1 write.2 entries) entries

/-- The keys of a map are strictly ascending. -/
def AscendingKeys (entries : List (κ × ν)) : Prop :=
  entries.Pairwise fun first second => first.1 < second.1

theorem mem_insertEntry {key : κ} {value : ν} {entries : List (κ × ν)} {e : κ × ν}
    (he : e ∈ insertEntry key value entries) : e = (key, value) ∨ e ∈ entries := by
  induction entries with
  | nil => exact .inl (List.mem_singleton.1 he)
  | cons entry rest ih =>
      rw [insertEntry] at he
      split_ifs at he
      · exact List.mem_cons.1 he
      · exact (List.mem_cons.1 he).imp_right (List.mem_cons_of_mem entry)
      · rcases List.mem_cons.1 he with rfl | he
        · exact .inr List.mem_cons_self
        · exact (ih he).imp_right (List.mem_cons_of_mem entry)

theorem AscendingKeys.insertEntry {key : κ} {value : ν} {entries : List (κ × ν)}
    (h : AscendingKeys entries) : AscendingKeys (insertEntry key value entries) := by
  induction entries with
  | nil => exact List.pairwise_singleton _ _
  | cons entry rest ih =>
      obtain ⟨hentry, hrest⟩ := List.pairwise_cons.1 h
      rw [Support.insertEntry]
      split_ifs with hlt heq
      · refine List.pairwise_cons.2 ⟨?_, h⟩
        intro e he
        rcases List.mem_cons.1 he with rfl | he
        · exact hlt
        · exact lt_trans hlt (hentry e he)
      · refine List.pairwise_cons.2 ⟨?_, hrest⟩
        intro e he
        exact heq ▸ hentry e he
      · refine List.pairwise_cons.2 ⟨?_, ih hrest⟩
        intro e he
        rcases mem_insertEntry he with rfl | he
        · exact lt_of_le_of_ne (not_lt.1 hlt) (Ne.symm heq)
        · exact hentry e he

/-- A write removes the entry of its key and adds its own. -/
theorem insertEntry_perm {key : κ} {value : ν} {entries : List (κ × ν)}
    (h : AscendingKeys entries) :
    (insertEntry key value entries).Perm
      ((key, value) :: entries.filter fun e => e.1 ≠ key) := by
  induction entries with
  | nil => exact List.Perm.refl _
  | cons entry rest ih =>
      obtain ⟨hentry, hrest⟩ := List.pairwise_cons.1 h
      have habove : ∀ {bound : κ}, key ≤ bound → (∀ e ∈ rest, bound < e.1) →
          rest.filter (fun e => e.1 ≠ key) = rest := by
        intro bound hle hbound
        refine List.filter_eq_self.2 fun e he => ?_
        exact decide_eq_true (ne_of_gt (lt_of_le_of_lt hle (hbound e he)))
      rw [Support.insertEntry]
      split_ifs with hlt heq
      · rw [List.filter_cons_of_pos (by simpa using ne_of_gt hlt), habove hlt.le hentry]
      · rw [List.filter_cons_of_neg (by simp [heq]), habove heq.le hentry]
      · rw [List.filter_cons_of_pos (by simpa using Ne.symm heq)]
        exact ((ih hrest).cons entry).trans (List.Perm.swap _ _ _)

end Map

section Writes

variable {κ ν : Type} [DecidableEq κ]

/-- The writes that no later write replaces. -/
def lastWrites : List (κ × ν) → List (κ × ν)
  | [] => []
  | write :: rest =>
      if write.1 ∈ rest.map Prod.fst then lastWrites rest
      else write :: lastWrites rest

theorem lastWrites_concat (writes : List (κ × ν)) (write : κ × ν) :
    lastWrites (writes ++ [write]) =
      (lastWrites writes).filter (fun e => e.1 ≠ write.1) ++ [write] := by
  induction writes with
  | nil => rfl
  | cons first rest ih =>
      rw [List.cons_append, lastWrites, lastWrites, ih, List.map_append, List.map_cons,
        List.map_nil]
      by_cases hlater : first.1 ∈ rest.map Prod.fst
      · rw [if_pos hlater, if_pos (List.mem_append_left _ hlater)]
      rw [if_neg hlater]
      by_cases hsame : first.1 = write.1
      · rw [if_pos (List.mem_append_right _ (List.mem_singleton.2 hsame)),
          List.filter_cons_of_neg (by simp [hsame])]
      · rw [if_neg, List.filter_cons_of_pos (by simp [hsame]), List.cons_append]
        rw [List.mem_append, List.mem_singleton]
        exact not_or.2 ⟨hlater, hsame⟩

/-- A selection of keys does not change which writes are last. -/
theorem lastWrites_filter_key (select : κ → Bool) (writes : List (κ × ν)) :
    lastWrites (writes.filter fun w => select w.1) =
      (lastWrites writes).filter fun w => select w.1 := by
  induction writes with
  | nil => rfl
  | cons write rest ih =>
      let chosen : κ × ν → Bool := fun w => select w.1
      by_cases hwrite : chosen write = true
      · have hlater : write.1 ∈ (rest.filter fun w => select w.1).map Prod.fst ↔
            write.1 ∈ rest.map Prod.fst := by
          simp only [List.mem_map, List.mem_filter]
          constructor
          · rintro ⟨w, ⟨hw, -⟩, hsame⟩
            exact ⟨w, hw, hsame⟩
          · rintro ⟨w, hw, hsame⟩
            exact ⟨w, ⟨hw, by rwa [hsame]⟩, hsame⟩
        rw [List.filter_cons_of_pos (p := chosen) hwrite, lastWrites, lastWrites, ih]
        by_cases hrest : write.1 ∈ rest.map Prod.fst
        · rw [if_pos hrest, if_pos (hlater.2 hrest)]
        · rw [if_neg hrest, if_neg (hrest ∘ hlater.1), List.filter_cons_of_pos (p := chosen) hwrite]
      · rw [List.filter_cons_of_neg (p := chosen) hwrite, ih, lastWrites]
        split_ifs
        · rfl
        · rw [List.filter_cons_of_neg (p := chosen) hwrite]

theorem lastWrites_sublist (writes : List (κ × ν)) :
    (lastWrites writes).Sublist writes := by
  induction writes with
  | nil => exact List.Sublist.refl _
  | cons write rest ih =>
      rw [lastWrites]
      split_ifs
      · exact ih.cons write
      · exact ih.cons_cons write

/-- Every write of some kind is kept, and selected, exactly when none of them is replaced
by a later write and all of them are selected. -/
theorem filter_lastWrites_eq_iff {kind select : κ × ν → Bool}
    (hselect : ∀ w, select w = true → kind w = true) (writes : List (κ × ν)) :
    (lastWrites writes).filter select = writes.filter kind ↔
      ∀ front w back, writes = front ++ w :: back → kind w = true →
        select w = true ∧ w.1 ∉ back.map Prod.fst := by
  induction writes with
  | nil => simp [lastWrites]
  | cons write rest ih =>
      have hsub : ((lastWrites rest).filter select).Sublist (rest.filter kind) := by
        refine ((lastWrites_sublist rest).filter select).trans ?_
        exact List.monotone_filter_right rest hselect
      have hsplit : (∀ front w back, write :: rest = front ++ w :: back → kind w = true →
            select w = true ∧ w.1 ∉ back.map Prod.fst) ↔
          (kind write = true → select write = true ∧ write.1 ∉ rest.map Prod.fst) ∧
            (lastWrites rest).filter select = rest.filter kind := by
        rw [ih]
        constructor
        · intro h
          refine ⟨h [] write rest rfl, fun front w back hrest => ?_⟩
          exact h (write :: front) w back (by rw [hrest, List.cons_append])
        · rintro ⟨hwrite, hrest⟩ front w back hwrites
          cases front with
          | nil =>
              obtain ⟨rfl, rfl⟩ := List.cons.inj hwrites
              exact hwrite
          | cons first front =>
              obtain ⟨-, rfl⟩ := List.cons.inj hwrites
              exact hrest front w back rfl
      rw [hsplit, lastWrites]
      have hshort : (lastWrites rest).filter select ≠ write :: rest.filter kind := by
        intro heq
        have hle := hsub.length_le
        rw [heq, List.length_cons] at hle
        exact absurd hle (Nat.not_succ_le_self _)
      by_cases hlater : write.1 ∈ rest.map Prod.fst
      · rw [if_pos hlater]
        by_cases hkind : kind write = true
        · rw [List.filter_cons_of_pos hkind]
          exact iff_of_false hshort fun h => (h.1 hkind).2 hlater
        · rw [List.filter_cons_of_neg hkind]
          exact ⟨fun h => ⟨fun hk => absurd hk hkind, h⟩, fun h => h.2⟩
      · rw [if_neg hlater]
        by_cases hkind : kind write = true
        · rw [List.filter_cons_of_pos hkind]
          by_cases hsel : select write = true
          · rw [List.filter_cons_of_pos hsel, List.cons_inj_right]
            exact ⟨fun h => ⟨fun _ => ⟨hsel, hlater⟩, h⟩, fun h => h.2⟩
          · rw [List.filter_cons_of_neg hsel]
            exact iff_of_false hshort fun h => hsel (h.1 hkind).1
        · rw [List.filter_cons_of_neg hkind,
            List.filter_cons_of_neg fun hsel => hkind (hselect write hsel)]
          exact ⟨fun h => ⟨fun hk => absurd hk hkind, h⟩, fun h => h.2⟩

end Writes

/-- A map that was empty holds the writes that no later one replaces. -/
theorem writeAll_perm {κ ν : Type} [LinearOrder κ] [equality : DecidableEq κ]
    (writes : List (κ × ν)) :
    AscendingKeys (writeAll writes []) ∧
      (writeAll writes []).Perm (lastWrites writes) := by
  obtain rfl : equality = LinearOrder.toDecidableEq := Subsingleton.elim _ _
  induction writes using List.reverseRecOn with
  | nil => exact ⟨List.Pairwise.nil, List.Perm.refl _⟩
  | append_singleton writes write ih =>
      obtain ⟨hascending, hperm⟩ := ih
      have hstep : writeAll (writes ++ [write]) [] =
          insertEntry write.1 write.2 (writeAll writes []) := by
        rw [writeAll, List.foldl_append]
        rfl
      rw [hstep, lastWrites_concat]
      refine ⟨hascending.insertEntry, ?_⟩
      refine (insertEntry_perm hascending).trans ?_
      exact ((hperm.filter _).cons write).trans (List.perm_append_singleton _ _).symm

end ChainworksForge.Support
