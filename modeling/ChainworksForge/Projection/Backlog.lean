import ChainworksForge.Projection.Invalidation
import Mathlib.Data.List.Basic
import Mathlib.Data.List.Nodup
import Mathlib.Data.List.Sublists

/-!
# The backlog is bounded and keyed

Over every run the rows of a pair that wait stay within the two bounds, a key has at most
one of them, and what the log says of a key is what a map of the accepted records says.
-/

namespace ChainworksForge.Projection

open ChainworksForge.Support

variable {log log' : List Invalidation} {pair pair' : Pair} {primaryKey : Text}

/-! ## Rows that wait -/

theorem isPendingAt_eq (row : Invalidation) (pair : Pair) (primaryKey : Text) :
    row.isPendingAt pair primaryKey =
      (decide (row.primaryKey = primaryKey) && row.isPendingOf pair) := by
  simp only [Invalidation.isPendingAt, Invalidation.isPendingOf, Bool.decide_and]
  rw [Bool.and_left_comm]

/-- The rows of a key are among those of the pair. -/
theorem existingRows_eq (log : List Invalidation) (pair : Pair) (primaryKey : Text) :
    existingRows log pair primaryKey =
      (pendingRows log pair).filter fun row => row.primaryKey = primaryKey := by
  rw [existingRows, pendingRows, List.filter_filter]
  exact List.filter_congr fun row _ => isPendingAt_eq row pair primaryKey

/-- The rows of the pair at the other keys. -/
def otherRows (log : List Invalidation) (pair : Pair) (primaryKey : Text) :
    List Invalidation :=
  (pendingRows log pair).filter fun row => !decide (row.primaryKey = primaryKey)

theorem totalBytes_filter_add (rows : List Invalidation) (p : Invalidation → Bool) :
    totalBytes rows = totalBytes (rows.filter p) + totalBytes (rows.filter fun row => !p row) := by
  induction rows with
  | nil => rfl
  | cons row rows ih =>
      cases hp : p row with
      | true =>
          rw [List.filter_cons_of_pos hp, List.filter_cons_of_neg (by simp [hp])]
          simp only [totalBytes, List.map_cons, List.sum_cons] at ih ⊢
          omega
      | false =>
          rw [List.filter_cons_of_neg (by simp [hp]), List.filter_cons_of_pos (by simp [hp])]
          simp only [totalBytes, List.map_cons, List.sum_cons] at ih ⊢
          omega

theorem totalBytes_le_of_sublist {rows rows' : List Invalidation}
    (hsub : rows.Sublist rows') : totalBytes rows ≤ totalBytes rows' := by
  induction hsub with
  | slnil => exact le_rfl
  | cons row _ ih => exact ih.trans (Nat.le_add_left _ _)
  | cons_cons row _ ih => exact Nat.add_le_add_left ih _

theorem length_pendingRows (log : List Invalidation) (pair : Pair) (primaryKey : Text) :
    (pendingRows log pair).length =
      (existingRows log pair primaryKey).length + (otherRows log pair primaryKey).length := by
  rw [existingRows_eq, otherRows]
  exact List.length_eq_length_filter_add _

theorem totalBytes_pendingRows (log : List Invalidation) (pair : Pair) (primaryKey : Text) :
    totalBytes (pendingRows log pair) =
      totalBytes (existingRows log pair primaryKey) +
        totalBytes (otherRows log pair primaryKey) := by
  rw [existingRows_eq, otherRows]
  exact totalBytes_filter_add _ _

/-- A record is throttled exactly when the rows of the other keys leave no room for it. -/
theorem exceedsBacklog_iff {sizeBytes : ℕ} :
    ExceedsBacklog log pair primaryKey sizeBytes ↔
      maxInvalidationRows < (otherRows log pair primaryKey).length + 1 ∨
        maxInvalidationBytes < totalBytes (otherRows log pair primaryKey) + sizeBytes := by
  have hcount := length_pendingRows log pair primaryKey
  have hbytes := totalBytes_pendingRows log pair primaryKey
  simp only [ExceedsBacklog]
  omega

/-! ## The log after an operation -/

/-- The log after an accepted record. -/
def replaceRow (log : List Invalidation) (row : Invalidation) : List Invalidation :=
  log.filter (fun old => !old.isPendingAt row.pair row.primaryKey) ++ [row]

theorem pendingRows_replaceRow_self {row : Invalidation} (hwaits : row.isConsumed = false) :
    pendingRows (replaceRow log row) row.pair =
      otherRows log row.pair row.primaryKey ++ [row] := by
  have hrow : row.isPendingOf row.pair = true := decide_eq_true ⟨rfl, hwaits⟩
  rw [pendingRows, replaceRow, List.filter_append, List.filter_filter, otherRows,
    pendingRows, List.filter_filter, List.filter_singleton, hrow, cond_true]
  congr 1
  refine List.filter_congr fun old _ => ?_
  rw [isPendingAt_eq]
  cases old.isPendingOf row.pair <;> simp

theorem pendingRows_replaceRow_of_ne {row : Invalidation} (hne : row.pair ≠ pair) :
    pendingRows (replaceRow log row) pair = pendingRows log pair := by
  have hrow : row.isPendingOf pair = false := decide_eq_false fun h => hne h.1
  rw [pendingRows, replaceRow, List.filter_append, List.filter_filter,
    List.filter_singleton, hrow, cond_false, List.append_nil, pendingRows]
  refine List.filter_congr fun old _ => ?_
  cases hold : old.isPendingOf pair with
  | false => rfl
  | true =>
      have hpair := (of_decide_eq_true hold).1
      have hother : old.isPendingAt row.pair row.primaryKey = false :=
        decide_eq_false fun h => hne (h.1.symm.trans hpair)
      rw [hother]
      rfl

theorem isPendingOf_consume (now : ℤ) (condition : Invalidation → Bool) (row : Invalidation)
    (pair : Pair) :
    (row.consume now condition).isPendingOf pair =
      (!condition row && row.isPendingOf pair) := by
  rw [Invalidation.consume]
  split_ifs with hconsumed
  · rw [hconsumed.1]
    exact decide_eq_false fun h => Bool.noConfusion h.2
  · cases hcondition : condition row with
    | false => rfl
    | true =>
        have hwaits : row.isConsumed ≠ false := fun hwaits => hconsumed ⟨hcondition, hwaits⟩
        exact decide_eq_false fun h => hwaits h.2

theorem pendingRows_consume (store : Store) (now : ℤ) (condition : Invalidation → Bool)
    (pair : Pair) :
    pendingRows (store.consume now condition).log pair =
      (pendingRows store.log pair).filter fun row => !condition row := by
  rw [pendingRows, Store.consume, List.filter_map, pendingRows, List.filter_filter]
  have hpending : store.log.filter
      ((fun row => row.isPendingOf pair) ∘ Invalidation.consume now condition) =
        store.log.filter fun row => !condition row && row.isPendingOf pair :=
    List.filter_congr fun row _ => isPendingOf_consume now condition row pair
  rw [hpending]
  refine (List.map_congr_left fun row hrow => ?_).trans (List.map_id _)
  have hcondition := (Bool.and_eq_true _ _ ▸ (List.mem_filter.1 hrow).2).1
  exact if_neg fun h => by simp [h.1] at hcondition

theorem pendingRows_clear (log : List Invalidation) (pair pair' : Pair) :
    pendingRows (log.filter fun row => !row.isPendingOf pair) pair' =
      if pair' = pair then [] else pendingRows log pair' := by
  rw [pendingRows, List.filter_filter]
  by_cases hpair : pair' = pair
  · subst hpair
    rw [if_pos rfl]
    exact List.filter_eq_nil_iff.2 fun row _ => by simp
  · rw [if_neg hpair, pendingRows]
    refine List.filter_congr fun row _ => ?_
    cases hrow : row.isPendingOf pair' with
    | false => rfl
    | true =>
        have hrow' := (of_decide_eq_true hrow).1
        have hother : row.isPendingOf pair = false :=
          decide_eq_false fun h => hpair (hrow'.symm.trans h.1)
        rw [hother]
        rfl

theorem pendingRows_reap (store : Store) (now : ℤ) (pair : Pair) :
    pendingRows (store.reapConsumedLog now).log pair = pendingRows store.log pair := by
  rw [pendingRows, Store.reapConsumedLog, List.filter_filter, pendingRows]
  refine List.filter_congr fun row _ => ?_
  cases hrow : row.isPendingOf pair with
  | false => rfl
  | true =>
      have hwaits := (of_decide_eq_true hrow).2
      rw [Store.isReapable, hwaits]
      rfl

/-! ## The invariant -/

structure BacklogInvariant (log : List Invalidation) : Prop where
  keys : ∀ pair, ((pendingRows log pair).map Invalidation.primaryKey).Nodup
  rows : ∀ pair, ((pendingRows log pair).length : ℤ) ≤ maxInvalidationRows
  bytes : ∀ pair, (totalBytes (pendingRows log pair) : ℤ) ≤ maxInvalidationBytes

theorem BacklogInvariant.of_sublist (hinvariant : BacklogInvariant log)
    (hsub : ∀ pair, (pendingRows log' pair).Sublist (pendingRows log pair)) :
    BacklogInvariant log' where
  keys pair := (hinvariant.keys pair).sublist ((hsub pair).map _)
  rows pair := (Int.ofNat_le.2 (hsub pair).length_le).trans (hinvariant.rows pair)
  bytes pair :=
    (Int.ofNat_le.2 (totalBytes_le_of_sublist (hsub pair))).trans (hinvariant.bytes pair)

theorem BacklogInvariant.replaceRow (hinvariant : BacklogInvariant log) {row : Invalidation}
    (hwaits : row.isConsumed = false)
    (hfits : ¬ExceedsBacklog log row.pair row.primaryKey row.sizeBytes) :
    BacklogInvariant (replaceRow log row) := by
  rw [exceedsBacklog_iff, not_or, not_lt, not_lt] at hfits
  refine ⟨fun pair => ?_, fun pair => ?_, fun pair => ?_⟩
  · by_cases hpair : row.pair = pair
    · subst hpair
      rw [pendingRows_replaceRow_self hwaits, List.map_append]
      refine List.Nodup.append ((hinvariant.keys _).sublist (List.filter_sublist.map _))
        (List.nodup_singleton _) (List.disjoint_singleton.2 fun hkey => ?_)
      obtain ⟨old, hold, hsame⟩ := List.mem_map.1 hkey
      simpa [hsame] using (List.mem_filter.1 hold).2
    · rw [pendingRows_replaceRow_of_ne hpair]
      exact hinvariant.keys pair
  · by_cases hpair : row.pair = pair
    · subst hpair
      rw [pendingRows_replaceRow_self hwaits, List.length_append]
      exact_mod_cast hfits.1
    · rw [pendingRows_replaceRow_of_ne hpair]
      exact hinvariant.rows pair
  · by_cases hpair : row.pair = pair
    · subst hpair
      rw [pendingRows_replaceRow_self hwaits, totalBytes, List.map_append, List.sum_append]
      simpa [totalBytes] using hfits.2
    · rw [pendingRows_replaceRow_of_ne hpair]
      exact hinvariant.bytes pair

theorem backlogInvariant_empty : BacklogInvariant Store.empty.log :=
  ⟨fun _ => List.nodup_nil, fun _ => Int.zero_le_ofNat _, fun _ => Int.zero_le_ofNat _⟩

/-! ## The operations keep it -/

section Operations

variable {store : Store}

/-- An accepted record replaces the row of its key; a throttled one leaves the log. -/
theorem log_recordInvalidationInternal (store : Store) (pair : Pair) (now : ℤ)
    (primaryKey kind : Text) (payloadJson : Option Text) :
    (store.recordInvalidationInternal pair now primaryKey kind payloadJson).1.log =
      if ExceedsBacklog store.log pair primaryKey (payloadSize payloadJson) then store.log
      else replaceRow store.log
        ⟨pair, primaryKey, kind, payloadJson, payloadSize payloadJson, now, false, none⟩ := by
  rw [Store.recordInvalidationInternal]
  split
  · rfl
  · rfl

theorem BacklogInvariant.record (hinvariant : BacklogInvariant store.log) (pair : Pair)
    (now : ℤ) (primaryKey kind : Text) (payloadJson : Option Text) :
    BacklogInvariant
      (store.recordInvalidationInternal pair now primaryKey kind payloadJson).1.log := by
  rw [log_recordInvalidationInternal]
  split
  · exact hinvariant
  next hfits => exact hinvariant.replaceRow rfl hfits

theorem BacklogInvariant.consume (hinvariant : BacklogInvariant store.log) (now : ℤ)
    (condition : Invalidation → Bool) :
    BacklogInvariant (store.consume now condition).log :=
  hinvariant.of_sublist fun pair =>
    pendingRows_consume store now condition pair ▸ List.filter_sublist

theorem BacklogInvariant.perform (hinvariant : BacklogInvariant store.log) (event : Event) :
    BacklogInvariant (perform store event).log := by
  cases event with
  | record pair primaryKey kind payloadJson now =>
      exact hinvariant.record pair now primaryKey kind payloadJson
  | terminal runId now => exact hinvariant.record _ now runId _ none
  | markConsumed pair beforeMs now => exact hinvariant.consume now _
  | markConsumedEntity pair primaryKey beforeMs now => exact hinvariant.consume now _
  | clearBacklog pair now =>
      refine hinvariant.of_sublist fun pair' => ?_
      refine (pendingRows_clear store.log pair pair').symm ▸ ?_
      split
      · exact List.nil_sublist _
      · exact .refl _
  | clearPoison pair now => exact hinvariant
  | freeze pair now => exact hinvariant
  | reap now =>
      exact hinvariant.of_sublist fun pair => (pendingRows_reap store now pair).symm ▸ .refl _

end Operations

theorem backlogInvariant_run (events : List Event) :
    BacklogInvariant (storeAfter events).log :=
  runFrom_invariant perform (P := fun store => BacklogInvariant store.log)
    (fun _ event hinvariant => hinvariant.perform event) backlogInvariant_empty events

/-- Over every run, the rows of a pair that wait are bounded in number and in bytes, and no
key has two of them. -/
theorem backlog_bounded_and_keyed (events : List Event) (pair : Pair) :
    ((pendingRows (storeAfter events).log pair).length : ℤ) ≤
        maxInvalidationRows ∧
      (totalBytes (pendingRows (storeAfter events).log pair) : ℤ) ≤
        maxInvalidationBytes ∧
      ((pendingRows (storeAfter events).log pair).map
        Invalidation.primaryKey).Nodup :=
  ⟨(backlogInvariant_run events).rows pair, (backlogInvariant_run events).bytes pair,
    (backlogInvariant_run events).keys pair⟩

/-! ## The log as a map -/

/-- What an accepted record said. -/
structure Entry where
  invalidationKind : Text
  payloadJson : Option Text
  sizeBytes : ℕ
  createdAtMs : ℤ
deriving DecidableEq

def Invalidation.entry (row : Invalidation) : Entry :=
  ⟨row.invalidationKind, row.payloadJson, row.sizeBytes, row.createdAtMs⟩

/-- What is stale, by pair and key, with the record that said so last. -/
abbrev Backlog := Pair → Text → Option Entry

/-- What an event does to what is stale; a throttled record does nothing. -/
def Backlog.step (backlog : Backlog) (throttled : Bool) : Event → Backlog
  | .record pair primaryKey kind payloadJson now =>
      if throttled then backlog
      else Function.update backlog pair (Function.update (backlog pair) primaryKey
        (some ⟨kind, payloadJson, payloadSize payloadJson, now⟩))
  | .terminal runId now =>
      if throttled then backlog
      else Function.update backlog Store.runSummaries
        (Function.update (backlog Store.runSummaries) runId
          (some ⟨"upsert".toList, none, 0, now⟩))
  | .markConsumed pair beforeMs _ => fun pair' primaryKey =>
      if pair' = pair then
        (backlog pair' primaryKey).filter fun entry => beforeMs < entry.createdAtMs
      else backlog pair' primaryKey
  | .markConsumedEntity pair key beforeMs _ => fun pair' primaryKey =>
      if pair' = pair ∧ primaryKey = key then
        (backlog pair' primaryKey).filter fun entry => beforeMs < entry.createdAtMs
      else backlog pair' primaryKey
  | .clearBacklog pair _ => fun pair' primaryKey =>
      if pair' = pair then none else backlog pair' primaryKey
  | .clearPoison _ _ => backlog
  | .freeze _ _ => backlog
  | .reap _ => backlog

/-- The record of the event is throttled. -/
def Throttles (store : Store) : Event → Prop
  | .record pair primaryKey _ payloadJson _ =>
      ExceedsBacklog store.log pair primaryKey (payloadSize payloadJson)
  | .terminal runId _ => ExceedsBacklog store.log Store.runSummaries runId 0
  | _ => False

instance decidableThrottles (store : Store) : (event : Event) → Decidable (Throttles store event)
  | .record _ _ _ _ _ => decidableExceedsBacklog _ _ _ _
  | .terminal _ _ => decidableExceedsBacklog _ _ _ _
  | .markConsumed _ _ _ => instDecidableFalse
  | .markConsumedEntity _ _ _ _ => instDecidableFalse
  | .clearBacklog _ _ => instDecidableFalse
  | .clearPoison _ _ => instDecidableFalse
  | .freeze _ _ => instDecidableFalse
  | .reap _ => instDecidableFalse

/-- What the log says of a key. -/
def backlogOf (log : List Invalidation) : Backlog := fun pair primaryKey =>
  (existingRows log pair primaryKey).head?.map Invalidation.entry

section Refinement

variable {store : Store}

theorem existingRows_congr (hsame : pendingRows log' pair = pendingRows log pair)
    (primaryKey : Text) : existingRows log' pair primaryKey = existingRows log pair primaryKey := by
  rw [existingRows_eq, existingRows_eq, hsame]

/-- A key has one row that waits at most. -/
theorem BacklogInvariant.length_existingRows_le (hinvariant : BacklogInvariant log)
    (pair : Pair) (primaryKey : Text) : (existingRows log pair primaryKey).length ≤ 1 := by
  have hkeys := hinvariant.keys pair
  rw [existingRows_eq, ← List.countP_eq_length_filter]
  have hcount : (pendingRows log pair).countP (fun row => decide (row.primaryKey = primaryKey)) =
      ((pendingRows log pair).map Invalidation.primaryKey).count primaryKey := by
    rw [List.count, List.countP_map]
    exact List.countP_congr fun row _ => by simp
  rw [hcount]
  exact List.nodup_iff_count_le_one.1 hkeys primaryKey

theorem head?_filter_of_length_le_one {rows : List Invalidation} {p : Invalidation → Bool}
    (hone : rows.length ≤ 1) : (rows.filter p).head? = rows.head?.filter p := by
  match rows, hone with
  | [], _ => rfl
  | [row], _ => cases hp : p row <;> simp [hp, Option.filter]

theorem existingRows_replaceRow {row : Invalidation} (hwaits : row.isConsumed = false)
    (pair : Pair) (primaryKey : Text) :
    existingRows (replaceRow log row) pair primaryKey =
      if pair = row.pair ∧ primaryKey = row.primaryKey then [row]
      else existingRows log pair primaryKey := by
  by_cases hpair : row.pair = pair
  · subst hpair
    rw [existingRows_eq, pendingRows_replaceRow_self hwaits, List.filter_append, otherRows,
      List.filter_filter, List.filter_singleton]
    by_cases hkey : row.primaryKey = primaryKey
    · subst hkey
      rw [if_pos ⟨rfl, rfl⟩, decide_eq_true rfl, cond_true, List.filter_eq_nil_iff.2,
        List.nil_append]
      simp
    · rw [if_neg fun h => hkey h.2.symm, decide_eq_false hkey, cond_false, List.append_nil,
        existingRows_eq]
      refine List.filter_congr fun old _ => ?_
      by_cases hold : old.primaryKey = primaryKey
      · have hother : ¬old.primaryKey = row.primaryKey := fun h => hkey (h.symm.trans hold)
        rw [decide_eq_false hother]
        exact Bool.and_true _
      · rw [decide_eq_false hold]
        rfl
  · rw [if_neg fun h => hpair h.1.symm]
    exact existingRows_congr (pendingRows_replaceRow_of_ne hpair) primaryKey

/-- An accepted record sets its key. -/
theorem backlogOf_replaceRow {row : Invalidation} (hwaits : row.isConsumed = false) :
    backlogOf (replaceRow log row) =
      Function.update (backlogOf log) row.pair
        (Function.update (backlogOf log row.pair) row.primaryKey (some row.entry)) := by
  funext pair primaryKey
  rw [backlogOf, existingRows_replaceRow hwaits]
  by_cases hpair : pair = row.pair
  · subst hpair
    rw [Function.update_self]
    by_cases hkey : primaryKey = row.primaryKey
    · subst hkey
      rw [if_pos ⟨rfl, rfl⟩, Function.update_self]
      rfl
    · rw [if_neg fun h => hkey h.2, Function.update_of_ne hkey]
      rfl
  · rw [if_neg fun h => hpair h.1, Function.update_of_ne hpair]
    rfl

/-- A rebuild takes from a key what satisfies its condition. -/
theorem backlogOf_consume (hinvariant : BacklogInvariant store.log) (now : ℤ)
    (condition : Invalidation → Bool) (pair : Pair) (primaryKey : Text) :
    backlogOf (store.consume now condition).log pair primaryKey =
      ((existingRows store.log pair primaryKey).head?.filter fun row => !condition row).map
        Invalidation.entry := by
  have hone := hinvariant.length_existingRows_le pair primaryKey
  rw [backlogOf, existingRows_eq, pendingRows_consume, List.filter_filter,
    ← head?_filter_of_length_le_one hone, existingRows_eq, List.filter_filter]
  simp only [Bool.and_comm]

/-- The row of a key is one of the pair and the key. -/
theorem of_head?_existingRows {row : Invalidation}
    (hhead : (existingRows log pair primaryKey).head? = some row) :
    row.pair = pair ∧ row.primaryKey = primaryKey ∧ row.isConsumed = false :=
  of_decide_eq_true (List.mem_filter.1 (List.mem_of_head? hhead)).2

/-- What the log says of a key after an event is what the map of the accepted records
says. -/
theorem backlogOf_perform (hinvariant : BacklogInvariant store.log) (event : Event) :
    backlogOf (perform store event).log =
      (backlogOf store.log).step (Throttles store event) event := by
  cases event with
  | record pair primaryKey kind payloadJson now =>
      rw [perform, log_recordInvalidationInternal, Backlog.step]
      split
      next hexceeds => exact (if_pos (decide_eq_true hexceeds)).symm
      next hfits =>
        exact (backlogOf_replaceRow rfl).trans (if_neg (mt of_decide_eq_true hfits)).symm
  | terminal runId now =>
      have hlog : (perform store (.terminal runId now)).log =
          (store.recordInvalidationInternal Store.runSummaries now runId "upsert".toList
            none).1.log := rfl
      rw [hlog, log_recordInvalidationInternal, Backlog.step]
      split
      next hexceeds => exact (if_pos (decide_eq_true hexceeds)).symm
      next hfits =>
        exact (backlogOf_replaceRow rfl).trans (if_neg (mt of_decide_eq_true hfits)).symm
  | markConsumed pair beforeMs now =>
      funext pair' primaryKey
      refine (backlogOf_consume hinvariant now _ pair' primaryKey).trans ?_
      simp only [Backlog.step, backlogOf]
      cases hhead : (existingRows store.log pair' primaryKey).head? with
      | none => split <;> rfl
      | some row =>
          obtain ⟨rfl, rfl, -⟩ := of_head?_existingRows hhead
          by_cases hpair : row.pair = pair
          · by_cases hold : row.createdAtMs ≤ beforeMs
            · simp [hpair, hold, Option.filter, Invalidation.entry]
            · simp [hpair, hold, Option.filter, Invalidation.entry, not_le.1 hold]
          · simp [hpair, Option.filter]
  | markConsumedEntity pair key beforeMs now =>
      funext pair' primaryKey
      refine (backlogOf_consume hinvariant now _ pair' primaryKey).trans ?_
      simp only [Backlog.step, backlogOf]
      cases hhead : (existingRows store.log pair' primaryKey).head? with
      | none => split <;> rfl
      | some row =>
          obtain ⟨rfl, rfl, -⟩ := of_head?_existingRows hhead
          by_cases hkey : row.pair = pair ∧ row.primaryKey = key
          · by_cases hold : row.createdAtMs ≤ beforeMs
            · simp [hkey, hold, Option.filter, Invalidation.entry]
            · simp [hkey, hold, Option.filter, Invalidation.entry, not_le.1 hold]
          · rw [if_neg hkey]
            have hkeeps : (decide (row.pair = pair ∧ row.primaryKey = key ∧
                row.createdAtMs ≤ beforeMs)) = false :=
              decide_eq_false fun h => hkey ⟨h.1, h.2.1⟩
            simp [Option.filter, hkeeps]
  | clearBacklog pair now =>
      funext pair' primaryKey
      have hpending : pendingRows (perform store (.clearBacklog pair now)).log pair' =
          if pair' = pair then [] else pendingRows store.log pair' :=
        pendingRows_clear store.log pair pair'
      simp only [Backlog.step]
      by_cases hpair : pair' = pair
      · rw [if_pos hpair] at hpending ⊢
        rw [backlogOf, existingRows_eq, hpending]
        rfl
      · rw [if_neg hpair] at hpending ⊢
        rw [backlogOf, existingRows_congr hpending]
        rfl
  | clearPoison pair now => rfl
  | freeze pair now => rfl
  | reap now =>
      funext pair primaryKey
      exact congrArg (fun rows => rows.head?.map Invalidation.entry)
        (existingRows_congr (pendingRows_reap store now pair) primaryKey)

end Refinement

/-- Over every run, the log refines the map of the accepted records: what waits for a key is
what its last accepted record said, until a rebuild that began later or an operator takes
it. -/
theorem log_refines_backlog (events : List Event) (event : Event) :
    backlogOf (perform (storeAfter events) event).log =
      (backlogOf (storeAfter events).log).step
        (Throttles (storeAfter events) event) event :=
  backlogOf_perform (backlogInvariant_run events) event

/-! ## Throttled records -/

/-- A poisoned cursor says why. -/
def IsPoisonedFor (store : Store) (pair : Pair) (reason : Text) : Prop :=
  ∃ cursor, store.cursors pair = some cursor ∧ cursor.isPoisoned = true ∧
    cursor.lastError = some reason

theorem recordInvalidationInternal_of_exceeds {store : Store} (now : ℤ) (kind : Text)
    {payloadJson : Option Text}
    (hexceeds : ExceedsBacklog store.log pair primaryKey (payloadSize payloadJson)) :
    (store.recordInvalidationInternal pair now primaryKey kind payloadJson).1.log = store.log ∧
      IsPoisonedFor
        (store.recordInvalidationInternal pair now primaryKey kind payloadJson).1 pair
        "projection_invalidation_backlog_exceeded".toList ∧
      (store.recordInvalidationInternal pair now primaryKey kind payloadJson).2 =
        some ⟨backlogThrottleMs⟩ := by
  rw [Store.recordInvalidationInternal, if_pos hexceeds]
  refine ⟨rfl, ?_, rfl⟩
  rw [IsPoisonedFor, Store.cursors_upsertCursor_self]
  cases store.cursors pair with
  | none => exact ⟨_, rfl, rfl, rfl⟩
  | some cursor => exact ⟨_, rfl, rfl, rfl⟩

/-- The row of a key makes room for one that is no larger. -/
theorem BacklogInvariant.not_exceeds_of_entry (hinvariant : BacklogInvariant log)
    {entry : Entry} {sizeBytes : ℕ} (hentry : backlogOf log pair primaryKey = some entry)
    (hsize : sizeBytes ≤ entry.sizeBytes) : ¬ExceedsBacklog log pair primaryKey sizeBytes := by
  obtain ⟨row, hhead, rfl⟩ := Option.map_eq_some_iff.1 hentry
  have hmem := List.mem_of_head? hhead
  have hcount : 1 ≤ (existingRows log pair primaryKey).length := List.length_pos_of_mem hmem
  have hbytes : row.sizeBytes ≤ totalBytes (existingRows log pair primaryKey) :=
    totalBytes_le_of_sublist (List.singleton_sublist.2 hmem)
  have hlength := length_pendingRows log pair primaryKey
  have htotal := totalBytes_pendingRows log pair primaryKey
  have hrows := hinvariant.rows pair
  have hpending := hinvariant.bytes pair
  have hrow : row.entry.sizeBytes = row.sizeBytes := rfl
  rw [exceedsBacklog_iff]
  omega

/-- Over every run, a record is throttled exactly when the rows of the other keys of its
pair leave no room for it; a throttled record leaves the log and poisons the cursor; and a
record of a key that waits with no smaller payload is never throttled. -/
theorem throttled_iff_no_room (events : List Event) (pair : Pair) (now : ℤ)
    (primaryKey kind : Text) (payloadJson : Option Text) :
    (((storeAfter events).recordInvalidationInternal pair now primaryKey kind payloadJson).2 =
        some ⟨backlogThrottleMs⟩ ↔
      maxInvalidationRows < (otherRows (storeAfter events).log pair primaryKey).length + 1 ∨
        maxInvalidationBytes <
          totalBytes (otherRows (storeAfter events).log pair primaryKey) +
            payloadSize payloadJson) ∧
    (((storeAfter events).recordInvalidationInternal pair now primaryKey kind
        payloadJson).2 ≠ none →
      ((storeAfter events).recordInvalidationInternal pair now primaryKey kind
          payloadJson).1.log = (storeAfter events).log ∧
        IsPoisonedFor
          ((storeAfter events).recordInvalidationInternal pair now primaryKey kind
            payloadJson).1 pair "projection_invalidation_backlog_exceeded".toList) ∧
    ∀ entry, backlogOf (storeAfter events).log pair primaryKey = some entry →
      payloadSize payloadJson ≤ entry.sizeBytes →
      ((storeAfter events).recordInvalidationInternal pair now primaryKey kind
        payloadJson).2 = none := by
  have hinvariant := backlogInvariant_run events
  generalize storeAfter events = store at hinvariant ⊢
  by_cases hexceeds : ExceedsBacklog store.log pair primaryKey (payloadSize payloadJson)
  · obtain ⟨hlog, hpoisoned, hthrottled⟩ :=
      recordInvalidationInternal_of_exceeds now kind hexceeds
    refine ⟨iff_of_true hthrottled (exceedsBacklog_iff.1 hexceeds),
      fun _ => ⟨hlog, hpoisoned⟩, fun entry hentry hsize => ?_⟩
    exact absurd hexceeds (hinvariant.not_exceeds_of_entry hentry hsize)
  · have hnone :
        (store.recordInvalidationInternal pair now primaryKey kind payloadJson).2 = none := by
      rw [Store.recordInvalidationInternal, if_neg hexceeds]
    refine ⟨iff_of_false ?_ (mt exceedsBacklog_iff.2 hexceeds), fun hsome => ?_,
      fun _ _ _ => hnone⟩
    · rw [hnone]
      exact (Option.some_ne_none _).symm
    · exact absurd hnone hsome

/-! ## Poisoned cursors -/

/-- The operator clears the poison of the pair. -/
def Event.Clears (pair : Pair) : Event → Prop
  | .clearBacklog cleared _ => cleared = pair
  | .clearPoison cleared _ => cleared = pair
  | _ => False

/-- The cursor of the pair is poisoned. -/
def IsPoisoned (store : Store) (pair : Pair) : Prop :=
  ∃ cursor, store.cursors pair = some cursor ∧ cursor.isPoisoned = true

section Poison

variable {store : Store}

/-- A change that leaves the poison of its cursor leaves that of every cursor. -/
theorem IsPoisoned.upsertCursor (hpoisoned : IsPoisoned store pair) (pair' : Pair)
    (fresh : ProjectionCursor) {change : ProjectionCursor → ProjectionCursor}
    (hchange : ∀ cursor, cursor.isPoisoned = true → (change cursor).isPoisoned = true) :
    IsPoisoned (store.upsertCursor pair' fresh change) pair := by
  obtain ⟨cursor, hcursor, hpoison⟩ := hpoisoned
  by_cases hpair : pair = pair'
  · subst hpair
    refine ⟨change cursor, ?_, hchange cursor hpoison⟩
    rw [Store.cursors_upsertCursor_self, hcursor, Option.elim_some]
  · refine ⟨cursor, ?_, hpoison⟩
    exact (store.cursors_upsertCursor_of_ne pair' fresh change hpair).trans hcursor

theorem IsPoisoned.record (hpoisoned : IsPoisoned store pair) (pair' : Pair) (now : ℤ)
    (primaryKey kind : Text) (payloadJson : Option Text) :
    IsPoisoned (store.recordInvalidationInternal pair' now primaryKey kind payloadJson).1
      pair := by
  rw [Store.recordInvalidationInternal]
  split
  · exact hpoisoned.upsertCursor pair' _ fun _ _ => rfl
  · exact hpoisoned

theorem IsPoisoned.clearPoison (hpoisoned : IsPoisoned store pair) {pair' : Pair} (now : ℤ)
    (hother : pair' ≠ pair) : IsPoisoned (store.clearPoison pair' now) pair := by
  obtain ⟨cursor, hcursor, hpoison⟩ := hpoisoned
  refine ⟨cursor, ?_, hpoison⟩
  exact (store.cursors_updateCursor_of_ne pair' _ (Ne.symm hother)).trans hcursor

theorem IsPoisoned.perform (hpoisoned : IsPoisoned store pair) {event : Event}
    (hclears : ¬event.Clears pair) : IsPoisoned (perform store event) pair := by
  cases event with
  | record pair' primaryKey kind payloadJson now => exact hpoisoned.record pair' now _ _ _
  | terminal runId now =>
      exact (hpoisoned.record _ now runId _ none).upsertCursor _ _ fun _ hpoison => hpoison
  | markConsumed => exact hpoisoned
  | markConsumedEntity => exact hpoisoned
  | clearBacklog pair' now => exact IsPoisoned.clearPoison hpoisoned now hclears
  | clearPoison pair' now => exact hpoisoned.clearPoison now hclears
  | freeze pair' now => exact hpoisoned.upsertCursor pair' _ fun _ _ => rfl
  | reap now => exact hpoisoned

/-- Only the reaper takes consumed rows, and it spares those of a poisoned pair. -/
theorem consumed_mem_perform (hpoisoned : IsPoisoned store pair) {row : Invalidation}
    (hpair : row.pair = pair) (hconsumed : row.isConsumed = true) (hmem : row ∈ store.log)
    (event : Event) : row ∈ (perform store event).log := by
  have hkept (now : ℤ) (condition : Invalidation → Bool) :
      row ∈ (store.consume now condition).log :=
    List.mem_map.2 ⟨row, hmem, if_neg fun h => by simp [hconsumed] at h⟩
  have hrecord (pair' : Pair) (now : ℤ) (primaryKey kind : Text)
      (payloadJson : Option Text) :
      row ∈ (store.recordInvalidationInternal pair' now primaryKey kind payloadJson).1.log := by
    rw [log_recordInvalidationInternal]
    split
    · exact hmem
    · refine List.mem_append_left _ (List.mem_filter.2 ⟨hmem, ?_⟩)
      simp [Invalidation.isPendingAt, hconsumed]
  cases event with
  | record => exact hrecord _ _ _ _ _
  | terminal => exact hrecord _ _ _ _ _
  | markConsumed => exact hkept _ _
  | markConsumedEntity => exact hkept _ _
  | clearBacklog =>
      refine List.mem_filter.2 ⟨hmem, ?_⟩
      simp [Invalidation.isPendingOf, hconsumed]
  | clearPoison => exact hmem
  | freeze => exact hmem
  | reap now =>
      obtain ⟨cursor, hcursor, hpoison⟩ := hpoisoned
      refine List.mem_filter.2 ⟨hmem, ?_⟩
      subst hpair
      cases hat : row.consumedAtMs with
      | none => simp [Store.isReapable, hat]
      | some consumedAtMs => simp [Store.isReapable, hat, hcursor, hpoison]

end Poison

/-- From any state, until an operator clears it, a poisoned cursor stays poisoned whatever
is recorded, rebuilt, frozen or reaped, and the consumed rows of its pair stay in the
log. -/
theorem poison_stays_until_cleared (store : Store) (pair : Pair) (events : List Event)
    (hpoisoned : IsPoisoned store pair) (hclears : ∀ event ∈ events, ¬event.Clears pair) :
    IsPoisoned (runFrom perform store events) pair ∧
      ∀ row ∈ store.log, row.pair = pair → row.isConsumed = true →
        row ∈ (runFrom perform store events).log := by
  have hrun := runFrom_invariant_of_meets perform
    (P := fun later => IsPoisoned later pair ∧
      ∀ row ∈ store.log, row.pair = pair → row.isConsumed = true → row ∈ later.log)
    (fun later event hclears h => ⟨h.1.perform hclears, fun row hrow hpair hconsumed =>
      consumed_mem_perform h.1 hpair hconsumed (h.2 row hrow hpair hconsumed) event⟩)
    ⟨hpoisoned, fun row hrow _ _ => hrow⟩ (runMeets_of_forall perform hclears)
  exact hrun

/-- A pair of which the cursor was frozen and one row consumed. -/
def frozenStore : Store :=
  runFrom perform Store.empty
    [.record Store.runSummaries ['r'] "upsert".toList none 1,
      .markConsumed Store.runSummaries 1 2, .freeze Store.runSummaries 3]

theorem poison_stays_until_cleared_reaped :
    IsPoisoned (runFrom perform frozenStore [.terminal ['s'] 4, .reap 100000000])
        Store.runSummaries ∧
      ∀ row ∈ frozenStore.log, row.pair = Store.runSummaries → row.isConsumed = true →
        row ∈ (runFrom perform frozenStore [.terminal ['s'] 4, .reap 100000000]).log :=
  poison_stays_until_cleared frozenStore Store.runSummaries _ ⟨_, rfl, rfl⟩ fun event hevent => by
    rcases List.mem_pair.1 hevent with rfl | rfl
    · exact id
    · exact id

end ChainworksForge.Projection
