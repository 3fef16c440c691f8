import ChainworksForge.Support.Text
import Mathlib.Data.List.Basic

/-!
# Encodings that can be read back

Fields are joined by a separator, blocks of one width are written one after the other,
and integers are written in decimal.  Each encoding determines what was written: for
the joined fields it is enough that one of two sides keeps the separator out of its
fields, if both have the same number of them.
-/

namespace ChainworksForge.Support

section Joined

variable {α : Type} [DecidableEq α] (c : α)

/-- The separators of joined fields are those of the fields and one between any two. -/
theorem count_intercalate (fields : List (List α)) (hfields : fields ≠ []) :
    (List.intercalate [c] fields).count c + 1 =
      (fields.map (List.count c)).sum + fields.length := by
  induction fields with
  | nil => exact absurd rfl hfields
  | cons field rest ih =>
      cases rest with
      | nil => simp
      | cons other rest =>
          have hrest := ih (by simp)
          rw [List.intercalate_cons_cons, List.count_append, List.count_append,
            List.count_singleton_self, List.map_cons, List.sum_cons, List.length_cons]
          omega

/-- Joined fields determine the fields, if one side keeps the separator out of them. -/
theorem intercalate_inj {fields fields' : List (List α)}
    (hlength : fields.length = fields'.length) (hout : ∀ field ∈ fields, c ∉ field)
    (hjoined : List.intercalate [c] fields = List.intercalate [c] fields') :
    fields = fields' := by
  rcases eq_or_ne fields [] with rfl | hne
  · exact (List.length_eq_zero_iff.1 hlength.symm).symm
  have hne' : fields' ≠ [] := by
    rintro rfl
    exact hne (List.length_eq_zero_iff.1 hlength)
  -- the other side has as many separators, so its fields have none either
  have hcount := count_intercalate c fields hne
  have hcount' := count_intercalate c fields' hne'
  have hzero : (fields.map (List.count c)).sum = 0 := by
    rw [List.sum_eq_zero_iff_forall_eq_nat]
    intro n hn
    obtain ⟨field, hfield, rfl⟩ := List.mem_map.1 hn
    exact List.count_eq_zero.2 (hout field hfield)
  have hzero' : (fields'.map (List.count c)).sum = 0 := by
    rw [hjoined] at hcount
    omega
  have hout' : ∀ field ∈ fields', c ∉ field := by
    intro field hfield
    rw [List.sum_eq_zero_iff_forall_eq_nat] at hzero'
    exact List.count_eq_zero.1 (hzero' _ (List.mem_map_of_mem hfield))
  rw [← List.splitOn_intercalate c hout hne, hjoined,
    List.splitOn_intercalate c hout' hne']

end Joined

/-- Blocks of one width are determined by what they are written to. -/
theorem flatten_inj_of_length {α : Type} {width : ℕ} (hwidth : 0 < width)
    {blocks blocks' : List (List α)} (hblocks : ∀ block ∈ blocks, block.length = width)
    (hblocks' : ∀ block ∈ blocks', block.length = width)
    (hflat : blocks.flatten = blocks'.flatten) : blocks = blocks' := by
  induction blocks generalizing blocks' with
  | nil =>
      cases blocks' with
      | nil => rfl
      | cons block rest =>
          have hlength := hblocks' block List.mem_cons_self
          have hempty : block = [] := by
            rw [List.flatten_nil, List.flatten_cons] at hflat
            exact (List.append_eq_nil_iff.1 hflat.symm).1
          rw [hempty, List.length_nil] at hlength
          omega
  | cons block rest ih =>
      cases blocks' with
      | nil =>
          have hlength := hblocks block List.mem_cons_self
          have hempty : block = [] := by
            rw [List.flatten_nil, List.flatten_cons] at hflat
            exact (List.append_eq_nil_iff.1 hflat).1
          rw [hempty, List.length_nil] at hlength
          omega
      | cons block' rest' =>
          have hlength : block.length = block'.length :=
            (hblocks block List.mem_cons_self).trans
              (hblocks' block' List.mem_cons_self).symm
          rw [List.flatten_cons, List.flatten_cons] at hflat
          obtain ⟨rfl, hrest⟩ := List.append_inj hflat hlength
          rw [ih (fun b hb => hblocks b (List.mem_cons_of_mem _ hb))
            (fun b hb => hblocks' b (List.mem_cons_of_mem _ hb)) hrest]

/-- Two lists with the same codes are related entry by entry, if equal codes relate
their entries. -/
theorem forall₂_of_map_eq {α β : Type} {R : α → α → Prop} {code : α → β}
    {l l' : List α} (hcodes : l.map code = l'.map code)
    (h : ∀ a ∈ l, ∀ a' ∈ l', code a = code a' → R a a') : List.Forall₂ R l l' := by
  induction l generalizing l' with
  | nil =>
      rw [List.map_nil, eq_comm, List.map_eq_nil_iff] at hcodes
      rw [hcodes]
      exact .nil
  | cons a rest ih =>
      cases l' with
      | nil => cases hcodes
      | cons a' rest' =>
          rw [List.map_cons, List.map_cons, List.cons.injEq] at hcodes
          refine .cons (h a List.mem_cons_self a' List.mem_cons_self hcodes.1) ?_
          refine ih hcodes.2 fun b hb b' hb' => ?_
          exact h b (List.mem_cons_of_mem _ hb) b' (List.mem_cons_of_mem _ hb')

/-! ## Decimal integers -/

/-- The decimal text of an integer. -/
def intText (n : ℤ) : Text := (toString n).toList

theorem intText_ofNat (n : ℕ) : intText (Int.ofNat n) = Nat.toDigits 10 n := by
  simp [intText, Int.repr, Nat.repr]

theorem intText_negSucc (n : ℕ) :
    intText (Int.negSucc n) = '-' :: Nat.toDigits 10 (n + 1) := by
  simp [intText, Int.repr, Nat.repr]

theorem isDigit_or_minus {n : ℤ} {c : Char} (hc : c ∈ intText n) :
    c.isDigit = true ∨ c = '-' := by
  cases n with
  | ofNat n =>
      rw [intText_ofNat] at hc
      exact .inl (Nat.isDigit_of_mem_toDigits (by decide) (by decide) hc)
  | negSucc n =>
      rw [intText_negSucc, List.mem_cons] at hc
      rcases hc with rfl | hc
      · exact .inr rfl
      · exact .inl (Nat.isDigit_of_mem_toDigits (by decide) (by decide) hc)

theorem toDigits_inj {n m : ℕ} (h : Nat.toDigits 10 n = Nat.toDigits 10 m) : n = m := by
  rw [← Nat.ofDigitChars_ten_toDigits (n := n), h, Nat.ofDigitChars_ten_toDigits]

theorem minus_not_mem_toDigits (n : ℕ) : '-' ∉ Nat.toDigits 10 n := by
  intro h
  have hdigit := Nat.isDigit_of_mem_toDigits (by decide) (by decide) h
  cases hdigit

theorem intText_inj {n m : ℤ} (h : intText n = intText m) : n = m := by
  cases n with
  | ofNat n =>
      cases m with
      | ofNat m =>
          rw [intText_ofNat, intText_ofNat] at h
          rw [toDigits_inj h]
      | negSucc m =>
          rw [intText_ofNat, intText_negSucc] at h
          refine absurd ?_ (minus_not_mem_toDigits n)
          rw [h]
          exact List.mem_cons_self
  | negSucc n =>
      cases m with
      | ofNat m =>
          rw [intText_ofNat, intText_negSucc] at h
          refine absurd ?_ (minus_not_mem_toDigits m)
          rw [← h]
          exact List.mem_cons_self
      | negSucc m =>
          rw [intText_negSucc, intText_negSucc, List.cons.injEq] at h
          have hsucc := toDigits_inj h.2
          rw [Nat.succ_injective hsucc]

end ChainworksForge.Support
