import ChainworksForge.Support.ByteSlice
import ChainworksForge.Support.Calendar
import ChainworksForge.Support.Json

/-!
# The failures of a provider

The message of a failed agent is read for what went wrong.  A message about a quota is
also read for the time from which the provider can be asked again.  Arithmetic on times
and slices of texts stop the program when they are out of range, which is modelled as an
error.
-/

namespace ChainworksForge.Provider

open Support

inductive RuntimeFailureObservation where
  | providerQuota (retryAfter : Option UtcTime)
  | providerPermissionRequired
  | providerPermissionRejected
  | providerTimeout (supervisionClassification : Option Text)
  | providerToolSessionControlFailure
  | toolOutputBudgetPreflightDenied
  | toolOutputBudgetExceeded
  | sessionIdentityConflict
  | providerInternalError
  | acpInitializeHandshakeFailed
  | transportEpipe
  | transportProtocolError
  | transportClosed
  | mcpStartupTimeout
  | xcodeMcpBrokerUnresponsive
  | mcpPermissionModalStall
  | xcodeHostEnvironmentError

/-- The places at which the program stops. -/
inductive Panic where
  | durationOutOfBounds
  | durationOverflow
  | dateTimeOverflow
  | sliceOutOfBounds
  | invalidDate
deriving DecidableEq

/-- The readers of other packages that the classifier calls. -/
structure Readers where
  parseJson : Text → Option Json
  parseFromRfc3339 : Text → Option UtcTime

def lower (text : Text) : Text := text.map Text.asciiLower

/-! ## Relative times -/

/-- The seconds of the longest duration. -/
def maxDurationSecs : ℤ := 9223372036854775

/-- A duration of whole seconds. -/
def durationOf (secs : ℤ) (panic : Panic) : Except Panic ℤ :=
  if -maxDurationSecs ≤ secs ∧ secs ≤ maxDurationSecs then .ok secs else .error panic

/-- The seconds of a unit of a compact duration. -/
def unitSecs (ch : Char) : Option ℤ :=
  if ch = 'd' then some 86400
  else if ch = 'h' then some 3600
  else if ch = 'm' then some 60
  else if ch = 's' then some 1
  else none

/-- The value of a run of digits. -/
def digitsValue (digits : Text) : ℕ :=
  digits.foldl (fun value digit => 10 * value + (digit.toNat - 48)) 0

def parseI64 (digits : Text) : Option ℤ :=
  if digits ≠ [] ∧ digitsValue digits < 2 ^ 63 then some (digitsValue digits) else none

/-- The loop over the characters of a compact duration. -/
def compactDurationFrom (total : ℤ) (digits : Text) (sawUnit : Bool) :
    Text → Except Panic (Option ℤ)
  | [] => .ok (if digits ≠ [] ∨ sawUnit = false ∨ total ≤ 0 then none else some total)
  | ch :: rest =>
      if ch.isDigit then compactDurationFrom total (digits ++ [ch]) sawUnit rest
      else
        match parseI64 digits, unitSecs ch with
        | some value, some unit => do
            let part ← durationOf (value * unit) .durationOutOfBounds
            let total ← durationOf (total + part) .durationOverflow
            compactDurationFrom total [] true rest
        | _, _ => .ok none

def parseCompactDuration (token : Text) : Except Panic (Option ℤ) :=
  compactDurationFrom 0 [] false token

/-- An instant some seconds later. -/
def addDuration (t : UtcTime) (secs : ℤ) : Except Panic UtcTime :=
  required (t.checkedAdd secs) .dateTimeOverflow

def isQuoteOrComma (c : Char) : Bool := c = '"' || c = '\'' || c = ',' || c = ';'

def isTokenPunctuation (c : Char) : Bool := isQuoteOrComma c || c = '.'

/-- The token that names a relative reset. -/
def relativeToken (message : Text) : Option Text := do
  let lower := lower message
  let (_, tail) ← (Text.splitFirst "reset after ".toList lower).or
    ((Text.splitFirst "resets after ".toList lower).or
      (Text.splitFirst "retry after ".toList lower))
  let token ← (Text.words tail).head?
  return Text.trimMatches isTokenPunctuation token

def extractRelativeResetRetryAfter (message : Text) (now : UtcTime) :
    Except Panic (Option UtcTime) :=
  match relativeToken message with
  | none => .ok none
  | some token => do
      match ← parseCompactDuration token with
      | none => return none
      | some duration => return some (← addDuration now duration)

/-! ## Times of the clock -/

structure NaiveTime where
  hour : ℕ
  minute : ℕ
  hour_valid : hour < 24
  minute_valid : minute < 60
deriving DecidableEq

/-- The seconds of a time of the clock. -/
def NaiveTime.secs (time : NaiveTime) : ℕ := time.hour * 3600 + time.minute * 60

theorem NaiveTime.secs_lt (time : NaiveTime) : time.secs < 86400 := by
  have hhour := time.hour_valid
  have hminute := time.minute_valid
  unfold NaiveTime.secs
  omega

def fromHmsOpt (hour minute : ℕ) : Option NaiveTime :=
  if h : hour < 24 ∧ minute < 60 then some ⟨hour, minute, h.1, h.2⟩ else none

/-- A number of 32 bits, which may have a sign in front of its digits. -/
def parseU32 (part : Text) : Option ℕ :=
  let digits := (Text.stripFront part ['+']).getD part
  if digits ≠ [] ∧ digits.all Char.isDigit ∧ digitsValue digits < 2 ^ 32 then
    some (digitsValue digits)
  else none

def withSuffix (hour : ℕ) (suffix : Option Bool) : ℕ :=
  match suffix with
  | some false => if hour = 12 then 0 else hour
  | some true => if hour < 12 then hour + 12 else hour
  | none => hour

def parseResetTimeToken (token : Text) : Option NaiveTime := do
  let lower := lower (Text.trimMatches isTokenPunctuation token)
  let (rawTime, suffix) :=
    match Text.stripBack lower "am".toList with
    | some raw => (raw, some false)
    | none =>
        match Text.stripBack lower "pm".toList with
        | some raw => (raw, some true)
        | none => (lower, none)
  match Text.splitOn ':' rawTime with
  | [hour] => fromHmsOpt (withSuffix (← parseU32 hour) suffix) 0
  | [hour, minute] =>
      let hour ← parseU32 hour
      let minute ← parseU32 minute
      fromHmsOpt (withSuffix hour suffix) minute
  | _ => none

def lastDayOfMonth (year : ℤ) (month : ℕ) : ℕ :=
  if month ∈ [1, 3, 5, 7, 8, 10, 12] then 31
  else if month ∈ [4, 6, 9, 11] then 30
  else if month = 2 then if isLeapYear year then 29 else 28
  else 30

/-- A date of the calendar. -/
def fromYmdOpt (year : ℤ) (month day : ℕ) : Option NaiveDate :=
  if h : (1 ≤ month ∧ month ≤ 12) ∧ 1 ≤ day ∧ day ≤ daysInMonth year month then
    let date : NaiveDate := ⟨year, month, day, h.1, h.2⟩
    if date.Representable then some date else none
  else none

/-- The loop that goes back to a Sunday. -/
def lastSundayFrom (year : ℤ) (month : ℕ) : ℕ → Except Panic ℕ
  | 0 => .error .invalidDate
  | day + 1 => do
      let date ← required (fromYmdOpt year month (day + 1)) .invalidDate
      if date.daysFromSunday = 0 then return day + 1
      else lastSundayFrom year month day

def lastSundayOfMonth (year : ℤ) (month : ℕ) : Except Panic ℕ :=
  lastSundayFrom year month (lastDayOfMonth year month)

/-- The flag `dst` of a date. -/
def isDstOfLocalDate (date : NaiveDate) : Except Panic Bool :=
  if 4 ≤ date.month ∧ date.month ≤ 9 then .ok true
  else if date.month = 3 then
    (lastSundayOfMonth date.year 3).map fun sunday => decide (sunday ≤ date.day)
  else if date.month = 10 then
    (lastSundayOfMonth date.year 10).map fun sunday => decide (date.day < sunday)
  else .ok false

def nicosiaOffsetSecondsForLocalDate (date : NaiveDate) : Except Panic ℤ :=
  (isDstOfLocalDate date).map fun dst => if dst then 3 * 3600 else 2 * 3600

inductive Zone where
  | utc
  | nicosia
deriving DecidableEq

/-- The zones that are supported. -/
def zoneOf (timezone : Text) : Option Zone :=
  if timezone = "UTC".toList ∨ timezone = "Etc/UTC".toList then some .utc
  else if timezone = "Asia/Nicosia".toList then some .nicosia
  else none

def timezoneOffsetSecondsForUtc (timezone : Text) (now : UtcTime) :
    Except Panic (Option ℤ) :=
  match zoneOf timezone with
  | some .utc => .ok (some 0)
  | some .nicosia => do
      let shifted ← addDuration now 7200
      return some (← nicosiaOffsetSecondsForLocalDate shifted.date)
  | none => .ok none

def timezoneOffsetSecondsForLocalDate (timezone : Text) (date : NaiveDate) :
    Except Panic (Option ℤ) :=
  match zoneOf timezone with
  | some .utc => .ok (some 0)
  | some .nicosia => do return some (← nicosiaOffsetSecondsForLocalDate date)
  | none => .ok none

/-- A date with a time of the clock. -/
def andTime (date : NaiveDate) (time : NaiveTime) : NaiveDateTime where
  date := date
  secs := time.secs
  frac := 0
  secs_valid := time.secs_lt
  frac_valid := .inl (by omega)

/-- The day after, if the calendar has it. -/
def nextDay (date : NaiveDate) : Option NaiveDate :=
  let next := NaiveDate.ofNumDaysFromCe (date.numDaysFromCe + 1)
  if next.Representable then some next else none

/-- The date of the reset: today, or tomorrow when the time has passed. -/
def targetDate (localNow : NaiveDateTime) (resetTime : NaiveTime) : Option NaiveDate :=
  if (andTime localNow.date resetTime).time ≤ localNow.time then nextDay localNow.date
  else some localNow.date

def retryAfterForLocalReset (now : UtcTime) (resetTime : NaiveTime) (timezone : Text) :
    Except Panic (Option UtcTime) := do
  let some offsetNow ← timezoneOffsetSecondsForUtc timezone now | return none
  let localNow ← addDuration now offsetNow
  let some date := targetDate localNow resetTime | return none
  let some offsetTarget ← timezoneOffsetSecondsForLocalDate timezone date | return none
  return some (← addDuration (andTime date resetTime) (-offsetTarget))

/-- The first of the fragments that occurs in a text, at its byte offset. -/
def findFirst (fragments : List Text) (text : Text) : Option (ℕ × ℕ) :=
  fragments.findSome? fun fragment =>
    (Text.find fragment text).map fun start => (start, Text.byteLength fragment)

def trimStart (text : Text) : Text := text.dropWhile Text.isWhitespace

/-- The time of the clock and the zone that a message names. -/
def namedReset (message : Text) : Except Panic (Option (NaiveTime × Text)) := do
  let some (start, markerLength) :=
    findFirst ["resets at ".toList, "reset at ".toList, "resets ".toList] (lower message)
    | return none
  let tail := trimStart (← required (Text.sliceFrom (start + markerLength) message)
    .sliceOutOfBounds)
  let some timeToken := (Text.words tail).head? | return none
  let some resetTime := parseResetTimeToken timeToken | return none
  let tailAfterTime := trimStart (← required
    (Text.sliceFrom (Text.byteLength timeToken) tail) .sliceOutOfBounds)
  let some inParentheses := Text.stripFront tailAfterTime ['('] | return none
  let some (timezone, _) := Text.splitOnce ')' inParentheses | return none
  return some (resetTime, Text.trim timezone)

def extractResetClockRetryAfter (message : Text) (now : UtcTime) :
    Except Panic (Option UtcTime) := do
  let some (resetTime, timezone) ← namedReset message | return none
  retryAfterForLocalReset now resetTime timezone

/-! ## Classification -/

/-- The time that a message states in full. -/
def statedRetryAfter (readers : Readers) (message : Text) : Option UtcTime :=
  ["retry_after=".toList, "retry-after=".toList, "retry_after:".toList].findSome?
    fun marker => do
      let (_, tail) ← Text.splitFirst marker message
      readers.parseFromRfc3339
        (Text.trimMatches isQuoteOrComma ((Text.words tail).head?.getD []))

def extractRetryAfterFromMessageAt (readers : Readers) (message : Text) (now : UtcTime) :
    Except Panic (Option UtcTime) :=
  match statedRetryAfter readers message with
  | some retryAfter => .ok (some retryAfter)
  | none => do
      match ← extractRelativeResetRetryAfter message now with
      | some retryAfter => return some retryAfter
      | none => extractResetClockRetryAfter message now

def isExplicitProviderQuotaMessage (lower : Text) : Bool :=
  ["provider_quota", "provider quota", "quota exceeded", "quota exhausted", "rate limit",
    "rate_limit", "provider limit", "usage limit", "hit your limit",
    "hit your session limit", "out of extra usage", "out of usage", "credits exhausted",
    "exhausted your capacity", "capacity on this model"].any
      (fun fragment => Text.contains lower fragment.toList) ||
    (Text.contains lower "usage credits".toList && Text.contains lower "required".toList &&
      Text.contains lower "long context".toList)

/-- The part of a message that may be an object. -/
def jsonSlice (message : Text) : Except Panic (Option Text) :=
  let trimmed := Text.trim message
  if Text.startsWith trimmed ['\x7b'] then .ok (some trimmed)
  else
    match Text.find ['\x7b'] trimmed, Text.rfind '\x7d' trimmed with
    | some start, some stop =>
        if stop ≤ start then .ok none
        else
          (required ((Text.sliceTo (stop + 1) trimmed).bind (Text.sliceFrom start))
            .sliceOutOfBounds).map some
    | _, _ => .ok none

def typedObservation (value : Json) : Option RuntimeFailureObservation := do
  let observationKind ← value.getStr "observation_kind"
  let failureScope := value.getStr "failure_scope"
  let hostEnvErrorKind := value.getStr "host_env_error_kind"
  if observationKind = "xcode_host_env_unavailable".toList then
    some .xcodeHostEnvironmentError
  else if observationKind = "backend_start_failed".toList ∧
      (failureScope = some "host_environment".toList ∨ hostEnvErrorKind.isSome) then
    some .xcodeHostEnvironmentError
  else if observationKind = "backend_start_failed".toList ∧
      failureScope = some "startup".toList then
    some .mcpStartupTimeout
  else if Text.contains observationKind "permission_modal".toList ||
      Text.contains observationKind "modal_stall".toList ||
      observationKind = "tools_list_waited_on_modal".toList then
    some .mcpPermissionModalStall
  else none

def observationFromTypedPayload (readers : Readers) (message : Text) :
    Except Panic (Option RuntimeFailureObservation) := do
  let some slice ← jsonSlice message | return none
  return (readers.parseJson slice).bind typedObservation

/-- The observation of a message that is about no quota. -/
def otherObservation (lower : Text) : RuntimeFailureObservation :=
  let has := fun fragment : String => Text.contains lower fragment.toList
  if has "epipe" || has "broken pipe" then .transportEpipe
  else if has "acp: initialize handshake" then .acpInitializeHandshakeFailed
  else if has "provider_session_id mismatch before prompt" ||
      has "provider_session_id mismatch" || has "session identity conflict" then
    .sessionIdentityConflict
  else if has "provider_stream_silent_with_local_activity" then
    .providerTimeout (some "provider_stream_silent_with_local_activity".toList)
  else if has "provider_stream_silent_no_local_activity" then
    .providerTimeout (some "provider_stream_silent_no_local_activity".toList)
  else if has "tool_output_budget_preflight_denied" then .toolOutputBudgetPreflightDenied
  else if has "tool_output_budget_exceeded" || has "codex_unbounded_tool_output" then
    .toolOutputBudgetExceeded
  else if has "codex_tool_session_control_failure" || has "codex_tool_stdin_closed" ||
      has "codex_turn_aborted_after_open_process" then
    .providerToolSessionControlFailure
  else if has "idle" && has "timeout" then
    .providerTimeout (some "idle_hang_before_first_progress".toList)
  else if has "xcode" && has "host" && has "environment" then .xcodeHostEnvironmentError
  else if has "xcode" && (has "permission" || has "modal") then .mcpPermissionModalStall
  else if has "xcode_mcp_initialize_timeout" || has "xcode_mcp_warmup_failed" ||
      (has "xcode" && has "mcp" && has "timeout") then
    .xcodeMcpBrokerUnresponsive
  else if has "permission" && has "required" then .providerPermissionRequired
  else if has "permission" && has "reject" then .providerPermissionRejected
  else if has "mcp" && has "startup" && has "timeout" then .mcpStartupTimeout
  else if has "protocol" || has "json-rpc" then .transportProtocolError
  else if has "stdout closed" || has "transport closed" ||
      has "session closed during active prompt" || has "acp: send session/prompt" ||
      has "write acp message to subprocess stdin" then
    .transportClosed
  else .providerInternalError

def observationFromAcpErrorMessageAt (readers : Readers) (message : Text) (now : UtcTime) :
    Except Panic RuntimeFailureObservation := do
  if let some observation ← observationFromTypedPayload readers message then
    return observation
  let lower := lower message
  if isExplicitProviderQuotaMessage lower then
    return .providerQuota (← extractRetryAfterFromMessageAt readers message now)
  return otherObservation lower

def providerQuotaRetryAfterFromMessageAt (readers : Readers) (message : Text)
    (now : UtcTime) : Except Panic (Option UtcTime) :=
  (observationFromAcpErrorMessageAt readers message now).map fun observation =>
    match observation with
    | .providerQuota retryAfter => retryAfter
    | _ => none

end ChainworksForge.Provider
