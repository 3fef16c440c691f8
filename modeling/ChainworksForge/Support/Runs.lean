import Mathlib.Data.List.Basic

/-!
# Runs of a transition function

A run applies a list of events to a state, one after the other.  What every event
keeps is kept by every run, and what an event brings about once and for all is
brought about at most once.
-/

namespace ChainworksForge.Support

variable {σ α : Type} (step : σ → α → σ)

/-- The state after a list of events. -/
def runFrom (s : σ) (events : List α) : σ := events.foldl step s

@[simp]
theorem runFrom_nil (s : σ) : runFrom step s [] = s := rfl

@[simp]
theorem runFrom_cons (s : σ) (a : α) (events : List α) :
    runFrom step s (a :: events) = runFrom step (step s a) events := rfl

theorem runFrom_append (s : σ) (events later : List α) :
    runFrom step s (events ++ later) = runFrom step (runFrom step s events) later :=
  List.foldl_append

theorem runFrom_concat (s : σ) (events : List α) (a : α) :
    runFrom step s (events ++ [a]) = step (runFrom step s events) a := by
  rw [runFrom_append, runFrom_cons, runFrom_nil]

/-- A reflexive and transitive relation that every event respects relates the ends of
every run. -/
theorem runFrom_related {R : σ → σ → Prop} (hrefl : ∀ s, R s s)
    (htrans : ∀ {s t u}, R s t → R t u → R s u) (hstep : ∀ s a, R s (step s a))
    (s : σ) (events : List α) : R s (runFrom step s events) := by
  induction events generalizing s with
  | nil => exact hrefl s
  | cons a events ih => exact htrans (hstep s a) (ih (step s a))

/-- An invariant that every event keeps holds after every run. -/
theorem runFrom_invariant {P : σ → Prop} (hstep : ∀ s a, P s → P (step s a))
    {s : σ} (hs : P s) (events : List α) : P (runFrom step s events) := by
  induction events generalizing s with
  | nil => exact hs
  | cons a events ih => exact ih (hstep s a hs)

/-- Every event of a run meets a condition on the state before it. -/
def RunMeets (C : σ → α → Prop) (s : σ) : List α → Prop
  | [] => True
  | a :: events => C s a ∧ RunMeets C (step s a) events

instance RunMeets.decidable {C : σ → α → Prop} [∀ s a, Decidable (C s a)] (s : σ) :
    (events : List α) → Decidable (RunMeets step C s events)
  | [] => inferInstanceAs (Decidable True)
  | a :: events =>
      have := RunMeets.decidable (C := C) (step s a) events
      inferInstanceAs (Decidable (C s a ∧ RunMeets step C (step s a) events))

/-- An invariant that every event keeps under a condition holds after every run whose
events meet the condition. -/
theorem runFrom_invariant_of_meets {P : σ → Prop} {C : σ → α → Prop}
    (hstep : ∀ s a, C s a → P s → P (step s a)) {s : σ} (hs : P s) {events : List α}
    (hmeets : RunMeets step C s events) : P (runFrom step s events) := by
  induction events generalizing s with
  | nil => exact hs
  | cons a events ih => exact ih (hstep s a hmeets.1 hs) hmeets.2

theorem runMeets_append {C : σ → α → Prop} {s : σ} (events later : List α) :
    RunMeets step C s (events ++ later) ↔
      RunMeets step C s events ∧ RunMeets step C (runFrom step s events) later := by
  induction events generalizing s with
  | nil => simp [RunMeets]
  | cons a events ih =>
      rw [List.cons_append, RunMeets, RunMeets, ih, runFrom_cons, and_assoc]

/-- A condition on the events alone. -/
theorem runMeets_of_forall {C : α → Prop} {s : σ} {events : List α}
    (h : ∀ a ∈ events, C a) : RunMeets step (fun _ => C) s events := by
  induction events generalizing s with
  | nil => trivial
  | cons a events ih =>
      exact ⟨h a List.mem_cons_self, ih fun b hb => h b (List.mem_cons_of_mem _ hb)⟩

/-- A condition on what a run shows of its states is met by the run that is shown. -/
theorem runMeets_of_shown {τ : Type} {shown : τ → σ} {fullStep : τ → α → τ}
    (hshown : ∀ t a, shown (fullStep t a) = step (shown t) a) {C : σ → α → Prop} {t : τ}
    {events : List α} (hmeets : RunMeets step C (shown t) events) :
    RunMeets fullStep (fun t => C (shown t)) t events := by
  induction events generalizing t with
  | nil => trivial
  | cons a events ih =>
      refine ⟨hmeets.1, ih ?_⟩
      rw [hshown]
      exact hmeets.2

/-- An event brings about a fact that did not hold before it. -/
def BringsAbout (P : σ → Prop) (s : σ) (events : List α) (a : α) : Prop :=
  ¬P (runFrom step s events) ∧ P (runFrom step s (events ++ [a]))

/-- A fact that stays is brought about by at most one event of a run. -/
theorem bringsAbout_at_most_once {P : σ → Prop} (hstep : ∀ s a, P s → P (step s a))
    {s : σ} {events between : List α} {a b : α}
    (hfirst : BringsAbout step P s events a) :
    ¬BringsAbout step P s (events ++ a :: between) b := by
  rintro ⟨hnot, -⟩
  refine hnot ?_
  rw [List.append_cons, runFrom_append]
  exact runFrom_invariant step hstep hfirst.2 between

end ChainworksForge.Support
