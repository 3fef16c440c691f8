import ChainworksForge.Provider.ClockReset

/-!
# When the classifier stops

Texts are cut only where they can be.  What stops the program is arithmetic: a stated
duration that is too long, or an instant after the last second of the calendar.
-/

namespace ChainworksForge.Provider

open Support NaiveDate

/-! ## The slices -/

/-- The part of a message between its first opening and its last closing brace can be cut
out. -/
theorem jsonSlice_returns (message : Text) : ∃ slice, jsonSlice message = .ok slice := by
  rw [jsonSlice]
  by_cases hobject : Text.startsWith (Text.trim message) ['\x7b'] = true
  · exact ⟨_, if_pos hobject⟩
  rw [if_neg hobject]
  cases hfind : Text.find ['\x7b'] (Text.trim message) with
  | none => exact ⟨none, rfl⟩
  | some start =>
      cases hrfind : Text.rfind '\x7d' (Text.trim message) with
      | none => exact ⟨none, rfl⟩
      | some stop =>
          simp only
          by_cases hle : stop ≤ start
          · exact ⟨none, if_pos hle⟩
          rw [if_neg hle]
          obtain ⟨⟨front, back⟩, hfront, rfl⟩ := Option.map_eq_some_iff.1 hfind
          obtain ⟨⟨front', back'⟩, hfront', rfl⟩ := Option.map_eq_some_iff.1 hrfind
          have hopen := Text.splitFirst_eq_some hfront
          have hclose := Text.rsplitOnce_eq_some hfront'
          rw [List.append_assoc] at hopen
          -- the text before the opening brace is a part of the text before the closing one
          replace hle : ¬Text.byteLength front' ≤ Text.byteLength front := hle
          obtain ⟨middle, rfl⟩ : front <+: front' := by
            rcases List.prefix_or_prefix_of_prefix (hopen ▸ List.prefix_append front _)
              (hclose ▸ List.prefix_append front' _) with hfirst | ⟨middle, rfl⟩
            · exact hfirst
            · rw [Text.byteLength_append] at hle
              omega
          have hstop : Text.sliceTo (Text.byteLength (front ++ middle) + 1)
              (Text.trim message) = some (front ++ (middle ++ ['\x7d'])) := by
            have hbytes : Text.byteLength (front ++ middle) + 1 =
                Text.byteLength (front ++ (middle ++ ['\x7d'])) := by
              rw [← List.append_assoc, Text.byteLength_append (front ++ middle)]
              rfl
            have hwhole : Text.trim message = (front ++ (middle ++ ['\x7d'])) ++ back' := by
              rw [hclose]
              simp
            rw [hbytes, hwhole, Text.sliceTo_append]
          rw [hstop, Option.bind_some, Text.sliceFrom_append]
          exact ⟨_, rfl⟩

theorem typedPayload_returns (readers : Readers) (message : Text) :
    ∃ observation, observationFromTypedPayload readers message = .ok observation := by
  obtain ⟨slice, hslice⟩ := jsonSlice_returns message
  rw [observationFromTypedPayload, hslice]
  cases slice with
  | none => exact ⟨_, rfl⟩
  | some slice => exact ⟨_, rfl⟩

theorem find_of_findFirst {fragments : List Text} {text : Text} {start length : ℕ}
    (h : findFirst fragments text = some (start, length)) :
    ∃ fragment, Text.find fragment text = some start ∧ Text.byteLength fragment = length := by
  obtain ⟨fragment, -, hfound⟩ := List.exists_of_findSome?_eq_some h
  obtain ⟨offset, hoffset, hpair⟩ := Option.map_eq_some_iff.1 hfound
  obtain ⟨rfl, rfl⟩ := Prod.mk.inj hpair
  exact ⟨fragment, hoffset, rfl⟩

/-- A message is cut behind the words that announce a reset, and again behind the time. -/
theorem namedReset_returns (message : Text) : ∃ reset, namedReset message = .ok reset := by
  rw [namedReset]
  cases hfirst : findFirst ["resets at ".toList, "reset at ".toList, "resets ".toList]
      (lower message) with
  | none => exact ⟨none, rfl⟩
  | some found =>
      obtain ⟨fragment, hfind, hlength⟩ := find_of_findFirst hfirst
      obtain ⟨back, hback⟩ := Text.sliceFrom_of_find_lower hfind
      rw [hlength] at hback
      simp only [hback, required, bind, Except.bind]
      cases htoken : (Text.words (trimStart back)).head? with
      | none => exact ⟨none, rfl⟩
      | some token =>
          simp only
          cases htime : parseResetTimeToken token with
          | none => exact ⟨none, rfl⟩
          | some resetTime =>
              obtain ⟨rest, hrest⟩ := Text.exists_append_of_head_words htoken
              have htrimmed : trimStart back = token ++ rest := by
                rw [← hrest, trimStart, List.dropWhile_idempotent]
              simp only [htrimmed, Text.sliceFrom_append]
              cases Text.stripFront (trimStart rest) ['('] with
              | none => exact ⟨none, rfl⟩
              | some inParentheses =>
                  cases hclose : Text.splitOnce ')' inParentheses with
                  | none => exact ⟨none, by simp only [hclose]; rfl⟩
                  | some halves => exact ⟨_, by simp only [hclose]; rfl⟩

/-! ## Relative resets -/

/-- A part of a compact duration. -/
structure DurationPart where
  digits : Text
  unit : Char

namespace DurationPart

variable (part : DurationPart)

def text : Text := part.digits ++ [part.unit]

/-- The part has a number of 63 bits and a unit. -/
def Readable : Prop :=
  part.digits ≠ [] ∧ (∀ c ∈ part.digits, c.isDigit = true) ∧
    digitsValue part.digits < 2 ^ 63 ∧ (unitSecs part.unit).isSome = true

def secs : ℤ := digitsValue part.digits * (unitSecs part.unit).getD 0

end DurationPart

/-- The seconds of the parts that can be read, up to the first that cannot, and whether
there is no such part. -/
def leadingParts (digits : Text) : Text → List ℤ × Bool
  | [] => ([], digits.isEmpty)
  | ch :: rest =>
      if ch.isDigit then leadingParts (digits ++ [ch]) rest
      else
        match parseI64 digits, unitSecs ch with
        | some value, some unit =>
            (value * unit :: (leadingParts [] rest).1, (leadingParts [] rest).2)
        | _, _ => ([], false)

/-- The seconds of all parts of a token, if it consists of parts and states a time. -/
def statedSecs (token : Text) : Option ℤ :=
  if (leadingParts [] token).2 = true ∧ 0 < (leadingParts [] token).1.sum then
    some (leadingParts [] token).1.sum
  else none

theorem unitSecs_not_digit {ch : Char} (h : (unitSecs ch).isSome = true) :
    ch.isDigit = false := by
  unfold unitSecs at h
  split_ifs at h with hd hh hm hs
  · rw [hd]
    rfl
  · rw [hh]
    rfl
  · rw [hm]
    rfl
  · rw [hs]
    rfl
  · cases h

theorem unitSecs_pos {ch : Char} {unit : ℤ} (h : unitSecs ch = some unit) : 0 < unit := by
  unfold unitSecs at h
  split_ifs at h
  all_goals
    rw [← Option.some_inj.1 h]
    decide

theorem parseI64_nonneg {digits : Text} {value : ℤ} (h : parseI64 digits = some value) :
    0 ≤ value := by
  unfold parseI64 at h
  split_ifs at h
  rw [← Option.some_inj.1 h]
  exact Int.natCast_nonneg _

theorem leadingParts_digits (front digits rest : Text) (hdigits : ∀ c ∈ digits, c.isDigit = true) :
    leadingParts front (digits ++ rest) = leadingParts (front ++ digits) rest := by
  induction digits generalizing front with
  | nil => rw [List.nil_append, List.append_nil]
  | cons c digits ih =>
      rw [List.cons_append, leadingParts, if_pos (hdigits c List.mem_cons_self),
        ih _ fun d hd => hdigits d (List.mem_cons_of_mem _ hd), List.append_assoc,
        List.singleton_append]

theorem leadingParts_part {part : DurationPart} (hpart : part.Readable) (rest : Text) :
    leadingParts [] (part.text ++ rest) =
      (part.secs :: (leadingParts [] rest).1, (leadingParts [] rest).2) := by
  obtain ⟨hne, hdigits, hvalue, hunit⟩ := hpart
  obtain ⟨unit, hsome⟩ := Option.isSome_iff_exists.1 hunit
  have hparse : parseI64 part.digits = some (digitsValue part.digits : ℤ) :=
    if_pos ⟨hne, hvalue⟩
  rw [DurationPart.text, List.append_assoc, leadingParts_digits _ _ _ hdigits,
    List.nil_append, List.singleton_append, leadingParts,
    if_neg (by rw [unitSecs_not_digit hunit]; exact Bool.false_ne_true), hparse, hsome]
  simp only [DurationPart.secs, hsome, Option.getD_some]

/-- A token that consists of parts is read whole. -/
theorem leadingParts_flatMap {parts : List DurationPart}
    (hparts : ∀ part ∈ parts, part.Readable) :
    leadingParts [] (parts.flatMap DurationPart.text) = (parts.map DurationPart.secs, true) := by
  induction parts with
  | nil => rfl
  | cons part parts ih =>
      rw [List.flatMap_cons, leadingParts_part (hparts part List.mem_cons_self),
        ih fun p hp => hparts p (List.mem_cons_of_mem _ hp)]
      rfl

theorem leadingParts_sum_nonneg (digits token : Text) : 0 ≤ (leadingParts digits token).1.sum := by
  induction token generalizing digits with
  | nil => exact le_rfl
  | cons ch rest ih =>
      rw [leadingParts]
      by_cases hdigit : ch.isDigit = true
      · rw [if_pos hdigit]
        exact ih _
      rw [if_neg hdigit]
      cases hvalue : parseI64 digits with
      | none => exact le_rfl
      | some value =>
          cases hunit : unitSecs ch with
          | none => exact le_rfl
          | some unit =>
              rw [List.sum_cons]
              exact add_nonneg (mul_nonneg (parseI64_nonneg hvalue) (unitSecs_pos hunit).le)
                (ih [])

theorem durationOf_eq {secs : ℤ} (hnonneg : 0 ≤ secs) (hle : secs ≤ maxDurationSecs)
    (panic : Panic) : durationOf secs panic = .ok secs :=
  if_pos ⟨le_trans (by decide) hnonneg, hle⟩

theorem durationOf_eq_error {secs : ℤ} (hlt : maxDurationSecs < secs) (panic : Panic) :
    durationOf secs panic = .error panic :=
  if_neg fun h => absurd h.2 (not_le.2 hlt)

/-- The loop returns what the parts add up to, unless this is too long. -/
theorem compactDurationFrom_spec (token : Text) (total : ℤ) (digits : Text) (sawUnit : Bool)
    (htotal : 0 ≤ total ∧ total ≤ maxDurationSecs) (hunit : 0 < total → sawUnit = true) :
    (total + (leadingParts digits token).1.sum ≤ maxDurationSecs →
      compactDurationFrom total digits sawUnit token =
        .ok (if (leadingParts digits token).2 = true ∧
            0 < total + (leadingParts digits token).1.sum then
          some (total + (leadingParts digits token).1.sum) else none)) ∧
    (maxDurationSecs < total + (leadingParts digits token).1.sum →
      ∃ panic, compactDurationFrom total digits sawUnit token = .error panic) := by
  induction token generalizing total digits sawUnit with
  | nil =>
      simp only [leadingParts, compactDurationFrom, List.sum_nil, add_zero, List.isEmpty_iff]
      refine ⟨fun _ => ?_, fun hlt => absurd htotal.2 (not_le.2 hlt)⟩
      by_cases hstated : digits = [] ∧ 0 < total
      · rw [if_pos hstated, if_neg]
        rintro (hdigits | hsaw | hzero)
        · exact hdigits hstated.1
        · rw [hunit hstated.2] at hsaw
          cases hsaw
        · omega
      · rw [if_neg hstated, if_pos]
        by_cases hdigits : digits = []
        · exact .inr (.inr (not_lt.1 fun hpos => hstated ⟨hdigits, hpos⟩))
        · exact .inl hdigits
  | cons ch rest ih =>
      rw [leadingParts, compactDurationFrom]
      by_cases hdigit : ch.isDigit = true
      · rw [if_pos hdigit, if_pos hdigit]
        exact ih total (digits ++ [ch]) sawUnit htotal hunit
      rw [if_neg hdigit, if_neg hdigit]
      cases hvalue : parseI64 digits with
      | none => exact ⟨fun _ => rfl, fun hlt => absurd hlt (by simpa using htotal.2)⟩
      | some value =>
          cases hsecs : unitSecs ch with
          | none => exact ⟨fun _ => rfl, fun hlt => absurd hlt (by simpa using htotal.2)⟩
          | some unit =>
              have hpart : 0 ≤ value * unit :=
                mul_nonneg (parseI64_nonneg hvalue) (unitSecs_pos hsecs).le
              have hrest := leadingParts_sum_nonneg [] rest
              simp only [List.sum_cons, ← add_assoc]
              by_cases hnext : total + value * unit ≤ maxDurationSecs
              · rw [durationOf_eq hpart (by omega)]
                simp only [bind, Except.bind]
                rw [durationOf_eq (by omega) hnext]
                exact ih (total + value * unit) [] true ⟨by omega, hnext⟩ fun _ => rfl
              · refine ⟨fun hle => absurd hle (by omega), fun _ => ?_⟩
                by_cases hlong : value * unit ≤ maxDurationSecs
                · rw [durationOf_eq hpart hlong]
                  simp only [bind, Except.bind]
                  rw [durationOf_eq_error (not_le.1 hnext)]
                  exact ⟨_, rfl⟩
                · rw [durationOf_eq_error (not_le.1 hlong)]
                  exact ⟨_, rfl⟩

/-- A duration is parsed when its parts are not too long together. -/
theorem parseCompactDuration_spec (token : Text) :
    ((leadingParts [] token).1.sum ≤ maxDurationSecs →
      parseCompactDuration token = .ok (statedSecs token)) ∧
    (maxDurationSecs < (leadingParts [] token).1.sum →
      ∃ panic, parseCompactDuration token = .error panic) := by
  have hloop := compactDurationFrom_spec token 0 [] false ⟨le_rfl, by decide⟩
    fun h => absurd h (lt_irrefl 0)
  simpa only [zero_add, parseCompactDuration, statedSecs] using hloop

theorem statedSecs_pos {token : Text} {secs : ℤ} (h : statedSecs token = some secs) :
    0 < secs := by
  rw [statedSecs] at h
  split_ifs at h with hstated
  rw [← Option.some_inj.1 h]
  exact hstated.2

/-- The seconds of the relative reset that a message states. -/
def relativeSecs (message : Text) : Option ℤ := (relativeToken message).bind statedSecs

/-- The parts of a relative reset add up to a duration, and the reset to an instant. -/
def RelativeInRange (message : Text) (now : UtcTime) : Prop :=
  (∀ token, relativeToken message = some token →
    (leadingParts [] token).1.sum ≤ maxDurationSecs) ∧
  ∀ secs, relativeSecs message = some secs → now.seconds + secs ≤ lastSecond

section Instant

variable {message : Text} {now : UtcTime} (hnow : now.date.Representable)

include hnow

theorem extractRelativeReset_eq (hrange : RelativeInRange message now) :
    extractRelativeResetRetryAfter message now =
      .ok ((relativeSecs message).map now.plusSeconds) := by
  rw [extractRelativeResetRetryAfter, relativeSecs]
  cases htoken : relativeToken message with
  | none => rfl
  | some token =>
      simp only [Option.bind_some, (parseCompactDuration_spec token).1 (hrange.1 token htoken),
        bind, Except.bind]
      cases hsecs : statedSecs token with
      | none => rfl
      | some secs =>
          have hlast := hrange.2 secs (by rw [relativeSecs, htoken, Option.bind_some, hsecs])
          have hdate := (representable_plusSeconds_iff hnow (statedSecs_pos hsecs).le).2 hlast
          simp only [addDuration_eq hdate]
          rfl

theorem extractRelativeReset_error (hrange : ¬RelativeInRange message now) :
    ∃ panic, extractRelativeResetRetryAfter message now = .error panic := by
  rw [extractRelativeResetRetryAfter]
  unfold RelativeInRange relativeSecs at hrange
  cases htoken : relativeToken message with
  | none => simp [htoken] at hrange
  | some token =>
      simp only
      by_cases hlong : (leadingParts [] token).1.sum ≤ maxDurationSecs
      · simp only [htoken, Option.some.injEq, forall_eq', Option.bind_some, not_and, hlong,
          forall_const, not_forall, not_le] at hrange
        obtain ⟨secs, hsecs, hlast⟩ := hrange
        have hdate := (representable_plusSeconds_iff hnow (statedSecs_pos hsecs).le).not.2
          (not_le.2 hlast)
        simp only [(parseCompactDuration_spec token).1 hlong, hsecs, bind, Except.bind,
          addDuration_eq_error hdate]
        exact ⟨_, rfl⟩
      · obtain ⟨panic, hpanic⟩ := (parseCompactDuration_spec token).2 (not_le.1 hlong)
        simp only [hpanic, bind, Except.bind]
        exact ⟨_, rfl⟩

/-! ## Resets at a time of the clock -/

/-- An instant whose wall clock is asked for has another two hours after it. -/
def ClockInRange (message : Text) (now : UtcTime) : Prop :=
  ∀ resetTime timezone, namedReset message = .ok (some (resetTime, timezone)) →
    zoneOf timezone = some .nicosia → now.seconds + 7200 ≤ lastSecond

theorem extractResetClock_returns (hrange : ClockInRange message now) :
    ∃ retryAfter, extractResetClockRetryAfter message now = .ok retryAfter := by
  obtain ⟨reset, hreset⟩ := namedReset_returns message
  rw [extractResetClockRetryAfter, hreset]
  cases reset with
  | none => exact ⟨none, rfl⟩
  | some reset =>
      obtain ⟨resetTime, timezone⟩ := reset
      simp only [bind, Except.bind]
      cases hzone : zoneOf timezone with
      | none =>
          refine ⟨none, ?_⟩
          rw [retryAfterForLocalReset, timezoneOffsetSecondsForUtc, hzone]
          rfl
      | some zone =>
          have hspec := retryAfterForLocalReset_eq resetTime hzone hnow fun hnicosia =>
            hrange resetTime timezone hreset (by rw [hzone, hnicosia])
          rcases le_or_gt (targetDay zone now.seconds resetTime) lastDay with hlast | hlast
          · obtain ⟨retryAfter, hok, -⟩ := hspec.1 hlast
            exact ⟨_, hok⟩
          · exact ⟨_, hspec.2 hlast⟩

theorem extractResetClock_error (hrange : ¬ClockInRange message now) :
    ∃ panic, extractResetClockRetryAfter message now = .error panic := by
  unfold ClockInRange at hrange
  simp only [not_forall, not_le] at hrange
  obtain ⟨resetTime, timezone, hreset, hzone, hlast⟩ := hrange
  have hdate := (representable_plusSeconds_iff hnow (by omega)).not.2 (not_le.2 hlast)
  rw [extractResetClockRetryAfter, hreset]
  simp only [bind, Except.bind, retryAfterForLocalReset, timezoneOffsetSecondsForUtc, hzone,
    addDuration_eq_error hdate]
  exact ⟨_, rfl⟩

end Instant

/-! ## The classifier -/

/-- A message about a quota that states no retry time in full. -/
def AsksForReset (readers : Readers) (message : Text) : Prop :=
  observationFromTypedPayload readers message = .ok none ∧
    isExplicitProviderQuotaMessage (lower message) = true ∧
    statedRetryAfter readers message = none

/-- A message states a relative reset by its parts. -/
def StatesRelativeReset (readers : Readers) (message : Text) (parts : List DurationPart) :
    Prop :=
  AsksForReset readers message ∧ (∀ part ∈ parts, part.Readable) ∧
    0 < (parts.map DurationPart.secs).sum ∧
    relativeToken message = some (parts.flatMap DurationPart.text)

/-- What is computed for a message stays in range. -/
def InRange (readers : Readers) (message : Text) (now : UtcTime) : Prop :=
  AsksForReset readers message → RelativeInRange message now ∧
    (relativeSecs message = none → ClockInRange message now)

/-- The classifier reports the relative reset that a message states. -/
def ReportsRelativeReset (readers : Readers) (message : Text) (now : UtcTime)
    (observation : RuntimeFailureObservation) : Prop :=
  ∀ parts, StatesRelativeReset readers message parts →
    ∃ retryAfter, observation = .providerQuota (some retryAfter) ∧
      retryAfter.seconds = now.seconds + (parts.map DurationPart.secs).sum ∧
      retryAfter.frac = now.frac % 1000000000

theorem relativeSecs_of_parts {message : Text} {parts : List DurationPart}
    (hparts : ∀ part ∈ parts, part.Readable) (hpos : 0 < (parts.map DurationPart.secs).sum)
    (htoken : relativeToken message = some (parts.flatMap DurationPart.text)) :
    relativeSecs message = some (parts.map DurationPart.secs).sum := by
  rw [relativeSecs, htoken, Option.bind_some, statedSecs, leadingParts_flatMap hparts,
    if_pos ⟨rfl, hpos⟩]

/-- A message that asks for no reset is classified. -/
theorem observation_returns_of_not_asks {readers : Readers} {message : Text} (now : UtcTime)
    (hasks : ¬AsksForReset readers message) :
    ∃ observation, observationFromAcpErrorMessageAt readers message now = .ok observation := by
  obtain ⟨typed, htyped⟩ := typedPayload_returns readers message
  rw [observationFromAcpErrorMessageAt, htyped]
  cases typed with
  | some observation => exact ⟨observation, rfl⟩
  | none =>
      simp only [bind, Except.bind]
      by_cases hquota : isExplicitProviderQuotaMessage (lower message) = true
      · cases hstated : statedRetryAfter readers message with
        | none => exact absurd ⟨htyped, hquota, hstated⟩ hasks
        | some retryAfter =>
            simp only [hquota, extractRetryAfterFromMessageAt, hstated]
            exact ⟨_, rfl⟩
      · simp only [hquota]
        exact ⟨_, rfl⟩

/-- A message that asks for a reset is answered with what is read from it. -/
theorem observation_of_asks {readers : Readers} {message : Text} (now : UtcTime)
    (hasks : AsksForReset readers message) :
    observationFromAcpErrorMessageAt readers message now =
      (do
        match ← extractRelativeResetRetryAfter message now with
        | some retryAfter => return some retryAfter
        | none => extractResetClockRetryAfter message now).map .providerQuota := by
  rw [observationFromAcpErrorMessageAt, hasks.1]
  simp only [bind, Except.bind, hasks.2.1, extractRetryAfterFromMessageAt, hasks.2.2]
  cases extractRelativeResetRetryAfter message now with
  | error panic => rfl
  | ok retryAfter =>
      cases retryAfter with
      | some retryAfter => rfl
      | none =>
          simp only
          cases extractResetClockRetryAfter message now <;> rfl

theorem observation_returns_iff (readers : Readers) (message : Text) (now : UtcTime)
    (hnow : now.date.Representable) :
    (∃ observation, observationFromAcpErrorMessageAt readers message now = .ok observation ∧
      ReportsRelativeReset readers message now observation) ↔ InRange readers message now := by
  by_cases hasks : AsksForReset readers message
  swap
  · obtain ⟨observation, hok⟩ := observation_returns_of_not_asks now hasks
    exact ⟨fun _ h => absurd h hasks,
      fun _ => ⟨observation, hok, fun _ hstates => absurd hstates.1 hasks⟩⟩
  rw [observation_of_asks now hasks]
  constructor
  · rintro ⟨observation, hok, -⟩ -
    by_contra hrange
    by_cases hrelative : RelativeInRange message now
    · simp only [hrelative, true_and, Classical.not_imp] at hrange
      obtain ⟨panic, hpanic⟩ := extractResetClock_error hnow hrange.2
      rw [extractRelativeReset_eq hnow hrelative, hrange.1] at hok
      simp [bind, Except.bind, hpanic, Except.map] at hok
    · obtain ⟨panic, hpanic⟩ := extractRelativeReset_error hnow hrelative
      rw [hpanic] at hok
      cases hok
  · intro hrange
    obtain ⟨hrelative, hclock⟩ := hrange hasks
    rw [extractRelativeReset_eq hnow hrelative]
    cases hsecs : relativeSecs message with
    | some secs =>
        refine ⟨_, rfl, fun parts hstates => ?_⟩
        have hparts := relativeSecs_of_parts hstates.2.1 hstates.2.2.1 hstates.2.2.2
        rw [hsecs, Option.some_inj] at hparts
        have hpos := hstates.2.2.1
        refine ⟨_, rfl, ?_, ?_⟩
        · rw [UtcTime.seconds_plusSeconds, UtcTime.borrowed_of_nonneg _ (by omega), hparts,
            add_zero]
        · exact UtcTime.frac_plusSeconds _ (by omega)
    | none =>
        obtain ⟨retryAfter, hok⟩ := extractResetClock_returns hnow (hclock hsecs)
        refine ⟨_, by simp only [Option.map_none, bind, Except.bind, hok]; rfl,
          fun parts hstates => ?_⟩
        have hparts := relativeSecs_of_parts hstates.2.1 hstates.2.2.1 hstates.2.2.2
        rw [hsecs] at hparts
        cases hparts

/-- The morning of 26 April 2026. -/
def aprilMorning : UtcTime where
  date := ⟨2026, 4, 26, by decide, by decide⟩
  secs := 26645
  frac := 0
  secs_valid := by decide
  frac_valid := .inl (by decide)

/-- Readers that find nothing. -/
def noReaders : Readers := ⟨fun _ => none, fun _ => none⟩

/-- A reset after twelve hours, 21 minutes and a second is reported. -/
theorem short_reset_returns :
    ∃ observation, observationFromAcpErrorMessageAt noReaders
        "Quota exhausted. It will reset after 12h21m1s.".toList aprilMorning = .ok observation ∧
      ReportsRelativeReset noReaders "Quota exhausted. It will reset after 12h21m1s.".toList
        aprilMorning observation := by
  refine (observation_returns_iff _ _ _ (by decide)).2 fun _ => ?_
  have htoken : relativeToken "Quota exhausted. It will reset after 12h21m1s.".toList =
      some "12h21m1s".toList := by
    decide +kernel
  have hsecs : statedSecs "12h21m1s".toList = some 44461 := by decide +kernel
  have hrelative : relativeSecs "Quota exhausted. It will reset after 12h21m1s.".toList =
      some 44461 := by
    rw [relativeSecs, htoken, Option.bind_some, hsecs]
  refine ⟨⟨fun token h => ?_, fun secs h => ?_⟩, fun h => ?_⟩
  · rw [htoken, Option.some_inj] at h
    rw [← h]
    decide +kernel
  · rw [hrelative, Option.some_inj] at h
    rw [← h]
    decide +kernel
  · rw [hrelative] at h
    cases h

/-- A reset after a number of days with 17 digits stops the program. -/
theorem long_reset_panics :
    ¬∀ (readers : Readers) (message : Text) (now : UtcTime), now.date.Representable →
      ∃ observation, observationFromAcpErrorMessageAt readers message now = .ok observation ∧
        ReportsRelativeReset readers message now observation := by
  intro h
  obtain ⟨observation, hok, -⟩ := h noReaders
    "rate limit; reset after 99999999999999999d".toList aprilMorning (by decide)
  have hpanics : (observationFromAcpErrorMessageAt noReaders
      "rate limit; reset after 99999999999999999d".toList aprilMorning).isOk = false := by
    decide +kernel
  rw [hok] at hpanics
  cases hpanics

end ChainworksForge.Provider
