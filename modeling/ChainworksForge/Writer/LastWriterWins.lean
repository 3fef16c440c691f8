import ChainworksForge.Writer.Coalescing

/-!
# When the last writer wins

The entry of a key is the survivor of the key's writes in the window, in the order of
their submission: the comparison of the counters decides as the order of submission
does.  So what a window drains is given by the writes that it took in, and the order of
execution is that of the drains, less what a full lane or a deadline takes out.

Two orders of stamps make an older observation win: inside a window, stamps that fall
after a write without one, and from one window to the next, stamps that fall at all.
-/

namespace ChainworksForge.Writer

open ChainworksForge.Support

/-- The writes of a key. -/
def ofKey (k : Text) (writes : List CoalescedEntry) : List CoalescedEntry :=
  writes.filter fun entry => entry.key = k

theorem mem_ofKey {k : Text} {writes : List CoalescedEntry} {entry : CoalescedEntry} :
    entry ∈ ofKey k writes ↔ entry ∈ writes ∧ entry.key = k := by
  simp [ofKey]

theorem ofKey_concat (k : Text) (writes : List CoalescedEntry) (entry : CoalescedEntry) :
    ofKey k (writes ++ [entry]) =
      if entry.key = k then ofKey k writes ++ [entry] else ofKey k writes := by
  by_cases h : entry.key = k <;> simp [ofKey, h]

/-! ## Windows -/

/-- A drain takes the survivor of every key, and nothing else. -/
structure Window.IsClosed (window : Window) : Prop where
  drained_iff : ∀ entry, entry ∈ window.drained ↔
    survivor CoalescedEntry.observedAt (ofKey entry.key window.writes) = some entry
  distinct : (window.drained.map CoalescedEntry.key).Nodup
  small : window.drained.length ≤ coalesceMaxKeys

/-- What holds of the intake between two inputs. -/
structure Intake.Sound (s : Intake) : Prop where
  counters : ∀ entry ∈ s.window, entry.monoCounter < s.classBMono
  kept : ∀ k, s.coalescing.entries.find k =
    survivor CoalescedEntry.observedAt (ofKey k s.window)
  small : s.coalescing.entries.rows.length ≤ coalesceMaxKeys
  closed : ∀ window ∈ s.windows, window.IsClosed

theorem intake_new_sound : Intake.new.Sound where
  counters := by simp [Intake.new]
  kept _ := rfl
  small := Nat.zero_le _
  closed := by simp [Intake.new]

namespace Intake.Sound

variable {s : Intake} (h : s.Sound)

include h

theorem drain : s.drain.1.Sound where
  counters := by simp [Intake.drain]
  kept _ := rfl
  small := Nat.zero_le _
  closed := by
    intro window hwindow
    rcases List.mem_append.1 hwindow with hwindow | hwindow
    · exact h.closed window hwindow
    · obtain rfl := List.mem_singleton.1 hwindow
      refine ⟨?_, s.coalescing.entries.distinct, h.small⟩
      intro entry
      rw [← h.kept, Table.find_eq_some_iff]
      exact (and_iff_left rfl).symm

theorem countFlush (answers : List (ℕ × WriteResult)) :
    (s.countFlush answers).1.Sound := by
  rw [Intake.countFlush]
  split
  · exact h.drain
  · exact h

/-- The counters agree with the order of submission. -/
theorem newer_eq {existing : CoalescedEntry} {op : WriteOperation}
    (hexisting : s.coalescing.entries.find op.idempotencyKey = some existing) :
    newer CoalescedEntry.observedAt existing ⟨op, s.classBMono⟩ =
      if (CoalescedEntry.newWins ⟨op, s.classBMono⟩ existing) then ⟨op, s.classBMono⟩
      else existing := by
  rw [h.kept] at hexisting
  have hmem := mem_ofKey.1 (isSurvivor_of_survivor hexisting).mem
  have hcounter := h.counters existing hmem.1
  cases hnew : op.observedAt with
  | none => simp [newer, CoalescedEntry.newWins, CoalescedEntry.observedAt, hnew, hcounter]
  | some new =>
      cases hold : existing.op.observedAt with
      | none =>
          simp [newer, CoalescedEntry.newWins, CoalescedEntry.observedAt, hnew, hold,
            hcounter]
      | some old =>
          simp [newer, CoalescedEntry.newWins, CoalescedEntry.observedAt, hnew, hold]

/-- Taking a write keeps the intake sound when the entry of its key becomes the choice
between the old entry and the write. -/
theorem take {entry : CoalescedEntry} {coalescing : CoalescingBuffer}
    (hcounter : entry.monoCounter = s.classBMono)
    (hown : coalescing.entries.find entry.key =
      some ((s.coalescing.entries.find entry.key).elim entry fun old =>
        newer CoalescedEntry.observedAt old entry))
    (hothers : ∀ k, entry.key ≠ k →
      coalescing.entries.find k = s.coalescing.entries.find k)
    (hsmall : coalescing.entries.rows.length ≤ coalesceMaxKeys) :
    (s.take entry coalescing).Sound where
  counters := by
    intro other hother
    rcases List.mem_append.1 hother with hother | hother
    · exact Nat.lt_succ_of_lt (h.counters other hother)
    · rw [List.mem_singleton.1 hother, hcounter]
      exact Nat.lt_succ_self _
  kept k := by
    change coalescing.entries.find k =
      survivor CoalescedEntry.observedAt (ofKey k (s.window ++ [entry]))
    rw [ofKey_concat]
    by_cases hk : entry.key = k
    · subst hk
      rw [if_pos rfl, survivor_concat, ← h.kept, hown]
    · rw [if_neg hk, hothers k hk, h.kept]
  small := hsmall
  closed := h.closed

theorem submitClassB (op : WriteOperation) : (s.submitClassB op).1.Sound := by
  rw [Intake.submitClassB]
  simp only
  split
  · rename_i existing hexisting
    have hnewer := h.newer_eq hexisting
    split
    · rename_i hwins
      apply Intake.Sound.countFlush
      apply h.take rfl
      · change (s.coalescing.merged.replace ⟨op, s.classBMono⟩).entries.find
          op.idempotencyKey = _
        simp only [CoalescingBuffer.replace, CoalescingBuffer.merged,
          CoalescedEntry.key, Table.find_update, hexisting, Option.map_some]
        have hkey := (Table.find_eq_some_iff _).1 hexisting
        simp only [CoalescedEntry.key] at hkey
        simp [CoalescedEntry.inPlaceOf, CoalescedEntry.key, hkey.2, hnewer, hwins]
      · intro k hk
        apply Table.find_update_of_ne _ _ (Ne.symm hk) (CoalescedEntry.key_inPlaceOf _)
        simp
      · simpa [CoalescingBuffer.replace, CoalescingBuffer.merged, Table.update] using
          h.small
    · rename_i hwins
      apply Intake.Sound.countFlush
      apply h.take rfl
      · change s.coalescing.entries.find op.idempotencyKey =
          some ((s.coalescing.entries.find op.idempotencyKey).elim _ _)
        rw [hexisting, Option.elim_some, hnewer, if_neg hwins]
      · intro k hk
        rfl
      · exact h.small
  · rename_i hfree
    split
    · exact ⟨fun entry hentry => Nat.lt_succ_of_lt (h.counters entry hentry), h.kept,
        h.small, h.closed⟩
    · rename_i hroom
      apply Intake.Sound.countFlush
      apply h.take rfl
      · change (s.coalescing.entries.insertOrIgnore ⟨op, s.classBMono⟩).find
          op.idempotencyKey = some ((s.coalescing.entries.find op.idempotencyKey).elim _ _)
        rw [Table.find_insertOrIgnore, hfree]
        simp [CoalescedEntry.key]
      · intro k hk
        change (s.coalescing.entries.insertOrIgnore ⟨op, s.classBMono⟩).find k = _
        rw [Table.find_insertOrIgnore, if_neg hk, Option.or_none]
      · have hadd : s.coalescing.entries.insertOrIgnore ⟨op, s.classBMono⟩ =
            s.coalescing.entries.add ⟨op, s.classBMono⟩ hfree := by
          simp [Table.insertOrIgnore, Table.insert, CoalescedEntry.key, hfree]
        simp only [hadd, Table.add, List.length_append, List.length_singleton]
        omega

theorem receive (input : Input) : (s.receive input).1.Sound := by
  cases input with
  | submit op => exact h.submitClassB op
  | tick => exact h.drain
  | shutdown => exact h.drain

end Intake.Sound

/-- An input leaves the windows alone, or it ends one and sends what the window
drained. -/
theorem receive_windows (s : Intake) (input : Input) :
    ((s.receive input).1.windows = s.windows ∧ (s.receive input).2.flushed = []) ∨
      ∃ window, (s.receive input).1.windows = s.windows ++ [window] ∧
        (s.receive input).2.flushed = window.drained := by
  have hcount : ∀ (t : Intake) (answers : List (ℕ × WriteResult)),
      t.windows = s.windows →
      ((t.countFlush answers).1.windows = s.windows ∧
          (t.countFlush answers).2.flushed = []) ∨
        ∃ window, (t.countFlush answers).1.windows = s.windows ++ [window] ∧
          (t.countFlush answers).2.flushed = window.drained := by
    intro t answers ht
    rw [Intake.countFlush]
    split
    · exact Or.inr ⟨⟨t.window, t.coalescing.entries.rows⟩, by rw [← ht]; rfl, rfl⟩
    · exact Or.inl ⟨ht, rfl⟩
  cases input with
  | submit op =>
      rw [Intake.receive, Intake.submitClassB]
      simp only
      split
      · split
        · exact hcount _ _ rfl
        · exact hcount _ _ rfl
      · split
        · exact Or.inl ⟨rfl, rfl⟩
        · exact hcount _ _ rfl
  | tick => exact Or.inr ⟨⟨s.window, s.coalescing.entries.rows⟩, rfl, rfl⟩
  | shutdown => exact Or.inr ⟨⟨s.window, s.coalescing.entries.rows⟩, rfl, rfl⟩

/-! ## The order of execution -/

/-- What a flush adds to the lane: all of its entries when there is room for them. -/
theorem flushEntriesToLane_eq (s : DbWriter) (entries : List CoalescedEntry) :
    ∃ sent answers, s.flushEntriesToLane entries =
        { s with lane := s.lane ++ sent, answers } ∧
      sent.Sublist entries ∧
      (s.lane.length + entries.length ≤ laneCapacity → sent = entries) := by
  induction entries generalizing s with
  | nil => exact ⟨[], s.answers, by rw [List.append_nil]; rfl, List.Sublist.refl _, by simp⟩
  | cons entry entries ih =>
      obtain ⟨sent, answers, heq, hsub, hall⟩ := ih (s.send entry)
      by_cases hroom : s.lane.length < laneCapacity
      · have hsend : s.send entry = { s with lane := s.lane ++ [entry] } := if_pos hroom
        rw [hsend] at heq hall
        refine ⟨entry :: sent, answers, ?_, hsub.cons_cons entry, ?_⟩
        · rw [DbWriter.flushEntriesToLane, List.foldl_cons, hsend]
          rw [DbWriter.flushEntriesToLane] at heq
          rw [heq]
          simp
        · intro hlen
          have hrest : (s.lane ++ [entry]).length + entries.length ≤ laneCapacity := by
            rw [List.length_append, List.length_singleton]
            rw [List.length_cons] at hlen
            omega
          rw [hall hrest]
      · have hsend : s.send entry =
            { s with answers := s.answers ++ [(entry.monoCounter, .writeFailed)] } :=
          if_neg hroom
        rw [hsend] at heq
        refine ⟨sent, answers, ?_, hsub.cons entry, ?_⟩
        · rw [DbWriter.flushEntriesToLane, List.foldl_cons, hsend]
          exact heq
        · intro hlen
          simp only [List.length_cons] at hlen
          omega

/-- The state of an intake after a sequence of inputs. -/
def Intake.after (inputs : List Input) : Intake :=
  runFrom (fun s input => (s.receive input).1) Intake.new inputs

/-- The writes of the windows that a sequence of inputs ends. -/
def windowsOf (inputs : List Input) : List (List CoalescedEntry) :=
  (Intake.after inputs).windows.map Window.writes

/-- What a step does to the intake and to the messages. -/
theorem step_input_eq (s : DbWriter) (input : Input) :
    ∃ sent answers, s.step (.input input) =
        ⟨(s.intake.receive input).1, s.lane ++ sent, s.executed, answers⟩ ∧
      sent.Sublist (s.intake.receive input).2.flushed ∧
      (s.lane.length + (s.intake.receive input).2.flushed.length ≤ laneCapacity →
        sent = (s.intake.receive input).2.flushed) := by
  obtain ⟨sent, answers, heq, hsub, hall⟩ := flushEntriesToLane_eq
    { s with
      intake := (s.intake.receive input).1
      answers := s.answers ++ (s.intake.receive input).2.answers }
    (s.intake.receive input).2.flushed
  exact ⟨sent, answers, heq, hsub, hall⟩

theorem step_execute_intake (s : DbWriter) (outcome : Outcome) :
    (s.step (.execute outcome)).intake = s.intake := by
  rw [DbWriter.step, DbWriter.executeMessage]
  split <;> rfl

/-- The intake sees the inputs only. -/
theorem run_intake (events : List Event) :
    (DbWriter.run events).intake = Intake.after (events.filterMap Event.input?) := by
  induction events using List.reverseRecOn with
  | nil => rfl
  | append_singleton events event ih =>
      rw [DbWriter.run, runFrom_concat, List.filterMap_append]
      change (DbWriter.step (DbWriter.run events) event).intake = _
      cases event with
      | input received =>
          obtain ⟨sent, answers, heq, -⟩ := step_input_eq (DbWriter.run events) received
          have hone : [Event.input received].filterMap Event.input? = [received] := rfl
          rw [heq, ih, hone, Intake.after, Intake.after, runFrom_concat]
      | execute outcome =>
          rw [step_execute_intake, ih, List.filterMap_cons_none rfl, List.filterMap_nil,
            List.append_nil]

/-- The entries of the ended windows, in the order of the drains. -/
def Intake.drained (s : Intake) : List CoalescedEntry :=
  s.windows.flatMap Window.drained

theorem receive_drained (s : Intake) (input : Input) :
    (s.receive input).1.drained = s.drained ++ (s.receive input).2.flushed := by
  rcases receive_windows s input with ⟨hwindows, hflushed⟩ | ⟨window, hwindows, hflushed⟩
  · rw [Intake.drained, hwindows, hflushed, List.append_nil]
    rfl
  · rw [Intake.drained, hwindows, hflushed, List.flatMap_append, List.flatMap_singleton]
    rfl

/-- Messages are executed in the order of the drains. -/
structure DbWriter.Sound (s : DbWriter) : Prop where
  intake : s.intake.Sound
  fifo : (s.executed ++ s.lane).Sublist s.intake.drained

theorem step_sound (s : DbWriter) (event : Event) (h : s.Sound) : (s.step event).Sound := by
  cases event with
  | input received =>
      obtain ⟨sent, answers, heq, hsub, -⟩ := step_input_eq s received
      rw [heq]
      refine ⟨h.intake.receive received, ?_⟩
      simp only
      rw [receive_drained, ← List.append_assoc]
      exact h.fifo.append hsub
  | execute outcome =>
      refine ⟨by rw [step_execute_intake]; exact h.intake, ?_⟩
      rw [step_execute_intake]
      have hfifo := h.fifo
      rw [DbWriter.step, DbWriter.executeMessage]
      split
      · exact hfifo
      · rename_i entry lane hlane
        rw [hlane] at hfifo
        by_cases hexpired : outcome = .expired
        · rw [if_pos hexpired]
          refine List.Sublist.trans ?_ hfifo
          exact (List.Sublist.refl _).append (List.sublist_cons_self entry lane)
        · rw [if_neg hexpired, List.append_assoc]
          exact hfifo

theorem run_sound (events : List Event) : (DbWriter.run events).Sound :=
  runFrom_invariant DbWriter.step step_sound
    ⟨intake_new_sound, List.Sublist.refl _⟩ events

/-! ## The last writer -/

/-- What the documentation of the writer asks of it: a drained entry is not older than a
write of its key in its window, it is the last one when none of them is stamped, and no
write is executed after a newer one of its key. -/
structure LastWriterWins (s : DbWriter) : Prop where
  newest : ∀ window ∈ s.intake.windows, ∀ entry ∈ window.drained,
    ∀ other ∈ window.writes, other.key = entry.key →
      ¬Outdated CoalescedEntry.observedAt entry other
  last : ∀ window ∈ s.intake.windows, ∀ entry ∈ window.drained,
    (∀ other ∈ window.writes, other.key = entry.key → other.observedAt = none) →
      (ofKey entry.key window.writes).getLast? = some entry
  ordered : s.executed.Pairwise fun earlier later =>
    earlier.key = later.key → ¬Outdated CoalescedEntry.observedAt later earlier

/-- The stamps of a key do not fall: inside a window, those after its last unstamped
write reach every stamp of the window, and from one window to a later one, they reach
the ones that counted there. -/
structure StampsRise (windows : List (List CoalescedEntry)) : Prop where
  within : ∀ writes ∈ windows, ∀ k,
    Reaches CoalescedEntry.observedAt (ofKey k writes) (ofKey k writes)
  across : windows.Pairwise fun earlier later => ∀ k,
    Reaches CoalescedEntry.observedAt
      (stampedTail CoalescedEntry.observedAt (ofKey k earlier)) (ofKey k later)

namespace Window.IsClosed

variable {window later : Window} (h : window.IsClosed) (hlater : later.IsClosed)

include h

theorem isSurvivor {entry : CoalescedEntry} (hentry : entry ∈ window.drained) :
    IsSurvivor CoalescedEntry.observedAt (ofKey entry.key window.writes) entry :=
  isSurvivor_of_survivor ((h.drained_iff entry).1 hentry)

/-- A key with a write has an entry. -/
theorem exists_drained {k : Text} (hne : ofKey k window.writes ≠ []) :
    ∃ entry ∈ window.drained, entry.key = k := by
  obtain ⟨entry, hentry⟩ := Option.isSome_iff_exists.1
    (survivor_isSome CoalescedEntry.observedAt hne)
  have hkey := (mem_ofKey.1 (isSurvivor_of_survivor hentry).mem).2
  subst hkey
  exact ⟨entry, (h.drained_iff entry).2 hentry, rfl⟩

theorem newest_iff :
    (∀ entry ∈ window.drained, ∀ other ∈ window.writes, other.key = entry.key →
        ¬Outdated CoalescedEntry.observedAt entry other) ↔
      ∀ k, Reaches CoalescedEntry.observedAt (ofKey k window.writes)
        (ofKey k window.writes) := by
  constructor
  · intro hnewest k
    by_cases hne : ofKey k window.writes = []
    · rw [hne]
      exact Or.inl rfl
    · obtain ⟨entry, hentry, rfl⟩ := h.exists_drained hne
      rw [(h.isSurvivor hentry).reaches_iff]
      intro other hother
      exact hnewest entry hentry other (mem_ofKey.1 hother).1 (mem_ofKey.1 hother).2
  · intro hreach entry hentry other hother hkey
    have hnone := (h.isSurvivor hentry).reaches_iff.1 (hreach entry.key)
    exact hnone other (mem_ofKey.2 ⟨hother, hkey⟩)

include hlater

theorem ordered_iff :
    (∀ entry ∈ window.drained, ∀ next ∈ later.drained, entry.key = next.key →
        ¬Outdated CoalescedEntry.observedAt next entry) ↔
      ∀ k, Reaches CoalescedEntry.observedAt
        (stampedTail CoalescedEntry.observedAt (ofKey k window.writes))
        (ofKey k later.writes) := by
  constructor
  · intro hordered k
    by_cases hne : ofKey k window.writes = []
    · rw [hne]
      exact Or.inr fun v hv => absurd hv List.not_mem_nil
    by_cases hnext : ofKey k later.writes = []
    · rw [hnext]
      exact Or.inl rfl
    · obtain ⟨entry, hentry, rfl⟩ := h.exists_drained hne
      obtain ⟨next, hmem, hkey⟩ := hlater.exists_drained hnext
      have hsurvivor := hlater.isSurvivor hmem
      rw [hkey] at hsurvivor
      rw [hsurvivor.reaches_iff, (h.isSurvivor hentry).outdated_iff]
      exact hordered entry hentry next hmem hkey.symm
  · intro hreach entry hentry next hmem hkey
    have hsurvivor := hlater.isSurvivor hmem
    rw [← hkey] at hsurvivor
    exact (h.isSurvivor hentry).outdated_iff.1 (hsurvivor.reaches_iff.1 (hreach entry.key))

end Window.IsClosed

/-- The order of all that was drained. -/
def Intake.DrainsInOrder (s : Intake) : Prop :=
  s.drained.Pairwise fun earlier later =>
    earlier.key = later.key → ¬Outdated CoalescedEntry.observedAt later earlier

/-- The condition on the stamps, read on the drained entries. -/
theorem stampsRise_iff {s : Intake} (h : s.Sound) :
    StampsRise (s.windows.map Window.writes) ↔
      (∀ window ∈ s.windows, ∀ entry ∈ window.drained, ∀ other ∈ window.writes,
        other.key = entry.key → ¬Outdated CoalescedEntry.observedAt entry other) ∧
      s.DrainsInOrder := by
  have hwindow : ∀ window ∈ s.windows, window.drained.Pairwise fun earlier later =>
      earlier.key = later.key → ¬Outdated CoalescedEntry.observedAt later earlier := by
    intro window hmem
    refine (List.pairwise_map.1 (h.closed window hmem).distinct).imp ?_
    intro earlier later hne hkey
    exact absurd hkey hne
  have hacross : (s.windows.map Window.writes).Pairwise (fun earlier later => ∀ k,
      Reaches CoalescedEntry.observedAt
        (stampedTail CoalescedEntry.observedAt (ofKey k earlier)) (ofKey k later)) ↔
      s.DrainsInOrder := by
    rw [Intake.DrainsInOrder, Intake.drained, List.pairwise_flatMap, List.pairwise_map,
      and_iff_right hwindow]
    refine List.Pairwise.iff_of_mem ?_
    intro window later hmem hlater
    exact ((h.closed window hmem).ordered_iff (h.closed later hlater)).symm
  constructor
  · intro hrise
    refine ⟨?_, hacross.1 hrise.across⟩
    intro window hmem
    exact (h.closed window hmem).newest_iff.2
      (hrise.within window.writes (List.mem_map_of_mem hmem))
  · rintro ⟨hnewest, hordered⟩
    refine ⟨?_, hacross.2 hordered⟩
    intro writes hwrites
    obtain ⟨window, hmem, rfl⟩ := List.mem_map.1 hwrites
    exact (h.closed window hmem).newest_iff.1 (hnewest window hmem)

/-- Among writes without stamps the last one is drained, whatever the others do. -/
theorem last_of_unstamped {s : Intake} (h : s.Sound) :
    ∀ window ∈ s.windows, ∀ entry ∈ window.drained,
      (∀ other ∈ window.writes, other.key = entry.key → other.observedAt = none) →
        (ofKey entry.key window.writes).getLast? = some entry := by
  intro window hmem entry hentry hnone
  have hsurvivor := (h.closed window hmem).isSurvivor hentry
  have hwrite := mem_ofKey.1 hsurvivor.mem
  exact hsurvivor.unstamped (hnone entry hwrite.1 rfl)

/-! ## A prompt executor -/

/-- The executor empties the lane after every input. -/
def promptly (inputs : List Input) : List Event :=
  inputs.flatMap fun input =>
    .input input :: List.replicate coalesceMaxKeys (.execute .committed)

theorem filterMap_promptly (inputs : List Input) :
    (promptly inputs).filterMap Event.input? = inputs := by
  induction inputs with
  | nil => rfl
  | cons input inputs ih =>
      have hone : (Event.input input :: List.replicate coalesceMaxKeys
          (Event.execute .committed)).filterMap Event.input? = [input] := by
        simp [Event.input?]
      rw [promptly, List.flatMap_cons, List.filterMap_append, hone]
      exact congrArg (List.cons input) ih

theorem run_executes (n : ℕ) (s : DbWriter) (hlane : s.lane.length ≤ n) :
    let s' := runFrom DbWriter.step s (List.replicate n (.execute .committed))
    s'.intake = s.intake ∧ s'.lane = [] ∧ s'.executed = s.executed ++ s.lane := by
  induction n generalizing s with
  | zero =>
      have hnil : s.lane = [] := List.eq_nil_of_length_eq_zero (Nat.le_zero.1 hlane)
      simp [hnil]
  | succ n ih =>
      rw [List.replicate_succ, runFrom_cons]
      cases hs : s.lane with
      | nil =>
          have hstep : s.step (.execute .committed) = s := by
            simp [DbWriter.step, DbWriter.executeMessage, hs]
          rw [hstep]
          have hrun := ih s (by simp [hs])
          rwa [hs] at hrun
      | cons entry lane =>
          have hstep : s.step (.execute .committed) =
              ⟨s.intake, lane, s.executed ++ [entry],
                s.answers ++ [(entry.monoCounter, .committed)]⟩ := by
            simp [DbWriter.step, DbWriter.executeMessage, hs, Outcome.result]
          have hlen : lane.length ≤ n := by
            rw [hs, List.length_cons] at hlane
            omega
          have hrun := ih (s.step (.execute .committed)) (by rw [hstep]; exact hlen)
          rw [hstep] at hrun ⊢
          simpa using hrun

/-- The lane is empty, and all that was drained has been executed. -/
structure DbWriter.Prompt (s : DbWriter) : Prop where
  sound : s.Sound
  empty : s.lane = []
  all : s.executed = s.intake.drained

theorem flushed_length {s : Intake} (h : s.Sound) (input : Input) :
    (s.receive input).2.flushed.length ≤ coalesceMaxKeys := by
  rcases receive_windows s input with ⟨-, hflushed⟩ | ⟨window, hwindows, hflushed⟩
  · rw [hflushed]
    exact Nat.zero_le _
  · rw [hflushed]
    refine ((h.receive input).closed window ?_).small
    rw [hwindows]
    exact List.mem_append_right _ (List.mem_singleton_self window)

theorem prompt_input {s : DbWriter} (h : s.Prompt) (input : Input) :
    (runFrom DbWriter.step s (.input input ::
      List.replicate coalesceMaxKeys (.execute .committed))).Prompt := by
  have hsmall := flushed_length h.sound.intake input
  obtain ⟨sent, answers, heq, -, hall⟩ := step_input_eq s input
  have hsent : sent = (s.intake.receive input).2.flushed := by
    apply hall
    rw [h.empty]
    exact le_trans (by simpa using hsmall) (by decide)
  have hlane : (s.step (.input input)).lane = (s.intake.receive input).2.flushed := by
    rw [heq, h.empty, hsent, List.nil_append]
  have hrun := run_executes coalesceMaxKeys (s.step (.input input)) (by rw [hlane]; exact hsmall)
  obtain ⟨hintake, hempty, hexecuted⟩ := hrun
  refine ⟨runFrom_invariant DbWriter.step step_sound h.sound _, ?_, ?_⟩
  · rw [runFrom_cons]
    exact hempty
  · rw [runFrom_cons, hexecuted, hintake, hlane, heq]
    simp only
    rw [receive_drained, h.all]

theorem prompt_run (inputs : List Input) : (DbWriter.run (promptly inputs)).Prompt := by
  induction inputs using List.reverseRecOn with
  | nil => exact ⟨run_sound [], rfl, rfl⟩
  | append_singleton inputs input ih =>
      rw [DbWriter.run, promptly, List.flatMap_append, List.flatMap_singleton,
        runFrom_append]
      exact prompt_input ih input

/-- The last writer wins, however the executor runs beside a sequence of inputs, exactly
when the stamps of its windows rise. -/
theorem last_writer_wins_iff (inputs : List Input) :
    (∀ events, events.filterMap Event.input? = inputs →
      LastWriterWins (DbWriter.run events)) ↔ StampsRise (windowsOf inputs) := by
  constructor
  · intro hwins
    have hprompt := prompt_run inputs
    have hall := hwins (promptly inputs) (filterMap_promptly inputs)
    have hintake := run_intake (promptly inputs)
    rw [filterMap_promptly] at hintake
    rw [windowsOf, ← hintake, stampsRise_iff hprompt.sound.intake]
    refine ⟨hall.newest, ?_⟩
    rw [Intake.DrainsInOrder, ← hprompt.all]
    exact hall.ordered
  · rintro hrise events rfl
    have hsound := run_sound events
    rw [windowsOf, ← run_intake, stampsRise_iff hsound.intake] at hrise
    refine ⟨hrise.1, last_of_unstamped hsound.intake, ?_⟩
    exact (hrise.2.sublist hsound.fifo).sublist (List.sublist_append_left _ _)

/-! ## Stamps that fall -/

/-- A write of one key, by its stamp. -/
def sampleWrite (observedAt : Option ℕ) : Event :=
  .input (.submit ⟨.coalescedProjection, "sample".toList, "key".toList, observedAt⟩)

/-- A write without a stamp lets an older observation win inside its window, and an
older observation of a later window is executed last. -/
theorem older_observation_wins :
    ¬LastWriterWins (DbWriter.run [sampleWrite (some 5), sampleWrite none,
        sampleWrite (some 3), .input .tick, .execute .committed]) ∧
      ¬LastWriterWins (DbWriter.run [sampleWrite (some 5), .input .tick,
        sampleWrite (some 3), .input .tick, .execute .committed, .execute .committed]) := by
  constructor
  · intro hwins
    refine hwins.newest _ (List.mem_singleton_self _) _ (List.mem_singleton_self _) _
      List.mem_cons_self rfl ?_
    exact ⟨3, 5, rfl, rfl, by decide⟩
  · intro hwins
    refine (List.pairwise_cons.1 hwins.ordered).1 _ (List.mem_singleton_self _) rfl ?_
    exact ⟨3, 5, rfl, rfl, by decide⟩

end ChainworksForge.Writer
