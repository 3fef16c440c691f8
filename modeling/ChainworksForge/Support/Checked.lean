import Mathlib.Data.List.Basic

/-!
# Checked computations

Rules for computations that stop at the first failed check.  A computation
that succeeds has passed every check on its way; the lemmas below read these
facts off one step at a time.
-/

namespace ChainworksForge.Support

variable {ε α β : Type}

/-- Continue when the condition holds. -/
def ensure (condition : Bool) (message : ε) : Except ε Unit :=
  if condition then .ok () else .error message

/-- The value of an optional result; its absence is a failure. -/
def required (value : Option α) (message : ε) : Except ε α :=
  match value with
  | some a => .ok a
  | none => .error message

/-- Report a failure under another message. -/
def withContext (x : Except ε α) (message : ε) : Except ε α :=
  match x with
  | .ok a => .ok a
  | .error _ => .error message

theorem bind_eq_ok_iff (x : Except ε α) (f : α → Except ε β) (b : β) :
    (x >>= f) = .ok b ↔ ∃ a, x = .ok a ∧ f a = .ok b := by
  cases x with
  | error e => simp [bind, Except.bind]
  | ok a => simp [bind, Except.bind]

theorem pure_eq_ok_iff (a b : α) :
    (pure a : Except ε α) = .ok b ↔ a = b := by
  simp [pure, Except.pure]

theorem map_eq_ok_iff {x : Except ε α} {f : α → β} {b : β} :
    x.map f = .ok b ↔ ∃ a, x = .ok a ∧ f a = b := by
  cases x with
  | error e => simp [Except.map]
  | ok a => simp [Except.map]

theorem ensure_eq_ok_iff (condition : Bool) (message : ε) (u : Unit) :
    ensure condition message = .ok u ↔ condition = true := by
  cases condition with
  | false => simp [ensure]
  | true => simp [ensure]

/-- Two continuations that agree up to a map agree after any computation. -/
theorem bind_eq_map_bind {γ : Type} (x : Except ε α) {f : α → Except ε β} {g : α → Except ε γ}
    {h : γ → β} (hagree : ∀ a, f a = (g a).map h) : (x >>= f) = (x >>= g).map h := by
  cases x with
  | error e => rfl
  | ok a => exact hagree a

theorem required_eq_ok_iff (value : Option α) (message : ε) (a : α) :
    required value message = .ok a ↔ value = some a := by
  cases value with
  | none => simp [required]
  | some b => simp [required]

theorem isOk_eq_true_iff (x : Except ε α) : x.isOk = true ↔ ∃ a, x = .ok a := by
  cases x with
  | error e => simp [Except.isOk, Except.toBool]
  | ok a => simp [Except.isOk, Except.toBool]

theorem withContext_eq_ok_iff (x : Except ε α) (message : ε) (a : α) :
    withContext x message = .ok a ↔ x = .ok a := by
  cases x with
  | error e => simp [withContext]
  | ok b => simp [withContext]

/-- A check of every element succeeds exactly when each check does. -/
theorem forM_eq_ok_iff (check : α → Except ε Unit) (l : List α) (u : Unit) :
    l.forM check = .ok u ↔ ∀ a ∈ l, check a = .ok () := by
  induction l with
  | nil => simp [pure, Except.pure]
  | cons a l ih =>
      have hcons : (a :: l).forM check = check a >>= fun _ => l.forM check := rfl
      rw [hcons, bind_eq_ok_iff, List.forall_mem_cons, ← ih]
      constructor
      · rintro ⟨v, hv, hrest⟩
        exact ⟨hv, hrest⟩
      · rintro ⟨hv, hrest⟩
        exact ⟨(), hv, hrest⟩

/-- A checked map that succeeds relates every input to its output, in order. -/
theorem mapM_eq_ok_iff (f : α → Except ε β) (l : List α) (bs : List β) :
    l.mapM f = .ok bs ↔ List.Forall₂ (fun a b => f a = .ok b) l bs := by
  induction l generalizing bs with
  | nil =>
      rw [List.mapM_nil, pure_eq_ok_iff]
      constructor
      · rintro rfl
        exact .nil
      · rintro ⟨⟩
        rfl
  | cons a l ih =>
      simp only [List.mapM_cons, bind_eq_ok_iff, pure_eq_ok_iff, ih]
      constructor
      · rintro ⟨b, hb, bs', hbs', rfl⟩
        exact .cons hb hbs'
      · intro hforall
        cases hforall with
        | cons hb hbs' => exact ⟨_, hb, _, hbs', rfl⟩

/-- Every output of a checked map comes from one of its inputs. -/
theorem exists_of_mem_mapM
    (f : α → Except ε β) (l : List α) (bs : List β) (hmap : l.mapM f = .ok bs)
    (b : β) (hb : b ∈ bs) :
    ∃ a ∈ l, f a = .ok b := by
  rw [mapM_eq_ok_iff] at hmap
  induction hmap with
  | nil => cases hb
  | cons hhead _ ih =>
      rcases List.mem_cons.1 hb with rfl | hb
      · exact ⟨_, List.mem_cons_self, hhead⟩
      · obtain ⟨a, ha, hfa⟩ := ih hb
        exact ⟨a, List.mem_cons_of_mem _ ha, hfa⟩

/-- What every step of a checked loop preserves holds after the loop. -/
theorem foldlM_preserves {f : β → α → Except ε β} {P : β → Prop} {l : List α}
    (hstep : ∀ b a b', a ∈ l → P b → f b a = .ok b' → P b')
    {b b' : β} (hb : P b) (hloop : l.foldlM f b = .ok b') : P b' := by
  induction l generalizing b with
  | nil =>
      obtain rfl : b = b' := by simpa [pure_eq_ok_iff] using hloop
      exact hb
  | cons a l ih =>
      rw [List.foldlM_cons] at hloop
      obtain ⟨c, hc, hrest⟩ := (bind_eq_ok_iff _ _ _).1 hloop
      exact ih (fun b a b' ha => hstep b a b' (List.mem_cons_of_mem _ ha))
        (hstep b a c List.mem_cons_self hb hc) hrest

/-- What every step of a loop preserves holds after the loop. -/
theorem foldl_preserves {f : β → α → β} {P : β → Prop} {l : List α}
    (hstep : ∀ b a, a ∈ l → P b → P (f b a)) {b : β} (hb : P b) :
    P (l.foldl f b) := by
  induction l generalizing b with
  | nil => exact hb
  | cons a l ih =>
      exact ih (fun b a ha => hstep b a (List.mem_cons_of_mem _ ha))
        (hstep b a List.mem_cons_self hb)

/-! ## Loops over fetched rows -/

section Rows

variable {κ : Type} (key : α → κ) (Fetched : β → α → Prop) {P : β → Prop}
  {l : List α}

/-- In a checked loop over rows with distinct keys whose steps leave the rows of
other keys alone, every step finds its row as it was fetched. -/
theorem foldlM_rows_preserves {f : β → α → Except ε β}
    (hdistinct : (l.map key).Nodup)
    (hstep : ∀ b a b', a ∈ l → Fetched b a → P b → f b a = .ok b' → P b')
    (hother : ∀ b a b' other, f b a = .ok b' → key other ≠ key a →
      Fetched b other → Fetched b' other)
    {b b' : β} (hrows : ∀ a ∈ l, Fetched b a) (hb : P b)
    (hloop : l.foldlM f b = .ok b') : P b' := by
  induction l generalizing b with
  | nil =>
      obtain rfl : b = b' := by simpa [pure_eq_ok_iff] using hloop
      exact hb
  | cons a l ih =>
      rw [List.foldlM_cons] at hloop
      obtain ⟨c, hc, hrest⟩ := (bind_eq_ok_iff _ _ _).1 hloop
      obtain ⟨hfresh, hdistinct⟩ := List.nodup_cons.1 hdistinct
      refine ih hdistinct
        (fun b a b' ha => hstep b a b' (List.mem_cons_of_mem _ ha)) ?_
        (hstep b a c List.mem_cons_self (hrows a List.mem_cons_self) hb hc) hrest
      intro other hmem
      have hne : key other ≠ key a :=
        fun hsame => hfresh (hsame ▸ List.mem_map_of_mem hmem)
      exact hother b a c other hc hne (hrows other (List.mem_cons_of_mem _ hmem))

/-- The same for a loop without checks. -/
theorem foldl_rows_preserves {f : β → α → β} (hdistinct : (l.map key).Nodup)
    (hstep : ∀ b a, a ∈ l → Fetched b a → P b → P (f b a))
    (hother : ∀ b a other, key other ≠ key a → Fetched b other →
      Fetched (f b a) other)
    {b : β} (hrows : ∀ a ∈ l, Fetched b a) (hb : P b) :
    P (l.foldl f b) := by
  have hloop : l.foldlM (fun b a => (pure (f b a) : Except Unit β)) b =
      .ok (l.foldl f b) := List.foldlM_pure
  refine foldlM_rows_preserves key Fetched hdistinct (fun b a b' ha hrow hb hsame => ?_)
    (fun b a b' other hsame hne hrow => ?_) hrows hb hloop
  · obtain rfl := (pure_eq_ok_iff _ _).1 hsame
    exact hstep b a ha hrow hb
  · obtain rfl := (pure_eq_ok_iff _ _).1 hsame
    exact hother b a other hne hrow

end Rows

end ChainworksForge.Support
