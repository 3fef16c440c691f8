import ChainworksForge.Session.Store
import ChainworksForge.Support.Encoding

/-!
# The budget of a live session

The usage of a generation is turned into signals, and the signals decide whether
its session may be used again, has to be compacted or is given up.  Ratios are
doubles.
-/

namespace ChainworksForge.Session

open ChainworksForge.Support

structure BudgetSignals where
  turnCount : ℤ
  estimatedInputTokens : ℤ
  cumulativePromptTokens : ℤ
  cumulativeCostCents : ℤ
  idleAgeSeconds : F64
  transcriptGrowthRatio : Option F64
  cachedTokenShare : Option F64
  normalizedSavingsVersusFresh : Option F64
  effectivePromptSizeFraction : Option F64
  compactionChurnCount : ℤ
deriving DecidableEq

structure BudgetConfig where
  maxTurns : ℤ := 20
  maxEstimatedInputTokens : ℤ := 128000
  maxCumulativePromptTokens : ℤ := 1000000
  maxCumulativeCostCents : ℤ := 500
  maxIdleAgeSeconds : F64 := .fin 14400
  maxTranscriptGrowthRatio : F64 := .fin 2
deriving DecidableEq

inductive BudgetDecision where
  | continueReuse
  | compact (reason : Text)
  | invalidate (reason : Text)
deriving DecidableEq

/-- The text `name value exceeded bound`. -/
def exceeded (name : String) (value bound : Text) : Text :=
  name.toList ++ " ".toList ++ value ++ " exceeded ".toList ++ bound

/-- The decision on a generation; `display` writes a double. -/
def evaluate (display : F64 → Text) (signals : BudgetSignals) (config : BudgetConfig) :
    BudgetDecision :=
  if config.maxTurns ≤ signals.turnCount then
    .compact (exceeded "turn_count" (intText signals.turnCount)
      (intText config.maxTurns))
  else if config.maxEstimatedInputTokens ≤ signals.estimatedInputTokens then
    .compact (exceeded "estimated_input_tokens" (intText signals.estimatedInputTokens)
      (intText config.maxEstimatedInputTokens))
  else if config.maxCumulativePromptTokens ≤ signals.cumulativePromptTokens then
    .invalidate (exceeded "cumulative_prompt_tokens"
      (intText signals.cumulativePromptTokens)
      (intText config.maxCumulativePromptTokens))
  else if config.maxCumulativeCostCents ≤ signals.cumulativeCostCents then
    .invalidate (exceeded "cumulative_cost_cents" (intText signals.cumulativeCostCents)
      (intText config.maxCumulativeCostCents))
  else if config.maxIdleAgeSeconds.le signals.idleAgeSeconds then
    .invalidate (exceeded "idle_age_seconds" (display signals.idleAgeSeconds)
      (display config.maxIdleAgeSeconds))
  else if F64.lt (.fin (1 / 2)) (signals.effectivePromptSizeFraction.getD (.fin 0)) then
    .compact "effective_prompt_size_fraction exceeded 0.5".toList
  else if F64.lt (signals.cachedTokenShare.getD (.fin 1)) (.ofRat (1 / 5)) &&
      50000 < signals.estimatedInputTokens then
    .compact "low_cached_token_share_with_large_prompt".toList
  else if F64.lt config.maxTranscriptGrowthRatio
      (signals.transcriptGrowthRatio.getD (.fin 1)) then
    .compact (exceeded "transcript_growth_ratio"
      (display (signals.transcriptGrowthRatio.getD (.fin 0)))
      (display config.maxTranscriptGrowthRatio))
  else if F64.lt (signals.normalizedSavingsVersusFresh.getD (.fin 0))
      (.ofRat (-(1 / 20))) then
    .invalidate "normalized_savings_versus_fresh below -0.05".toList
  else if 3 ≤ signals.compactionChurnCount then
    .invalidate "compaction_churn_count exceeded".toList
  else .continueReuse

/-! ## The signals of a generation -/

/-- The conversion of an integer to a double. -/
def f64 (n : ℤ) : F64 := .ofRat n

/-- The prompt a fresh session would start with: the mean over the turns so far. -/
def freshBaselineEstimate (generation : SessionGeneration) : ℤ :=
  max 1 (generation.cumulativePromptTokens.tdiv (max 1 generation.turnCount))

def cachedTokenShare (generation : SessionGeneration) : Option F64 :=
  generation.latestCachedInputTokens.bind fun cachedTokens =>
    if 0 < generation.estimatedInputTokens then
      some ((f64 cachedTokens).div (f64 generation.estimatedInputTokens))
    else none

def savingsVersusFresh (generation : SessionGeneration) (cacheShare : F64) : F64 :=
  let freshCostCents := (f64 (freshBaselineEstimate generation)).div (.fin 1000)
  let reuseCostCents :=
    ((f64 generation.estimatedInputTokens).div (.fin 1000)).mul
      (F64.sub (.fin 1) (cacheShare.mul (.fin (1 / 2))))
  freshCostCents.sub reuseCostCents

/-- Whole seconds between two moments, rounded towards zero. -/
def secondsBetween (earlier later : ℤ) : ℤ := (later - earlier).tdiv 1000000000

def budgetSignalsFromGeneration (db : Store) (now : ℤ)
    (generation : SessionGeneration) : BudgetSignals where
  turnCount := generation.turnCount
  estimatedInputTokens := generation.estimatedInputTokens
  cumulativePromptTokens := generation.cumulativePromptTokens
  cumulativeCostCents := generation.cumulativeCostCents
  idleAgeSeconds :=
    f64 (secondsBetween (generation.lastActivityAt.getD generation.createdAt) now)
  transcriptGrowthRatio :=
    some ((f64 generation.estimatedInputTokens).div
      (f64 (freshBaselineEstimate generation)))
  cachedTokenShare := cachedTokenShare generation
  normalizedSavingsVersusFresh :=
    (cachedTokenShare generation).map (savingsVersusFresh generation)
  effectivePromptSizeFraction := generation.latestModelContextWindow.bind fun window =>
    if 0 < window then some ((f64 generation.estimatedInputTokens).div (f64 window))
    else none
  compactionChurnCount := countGenerationEvents db generation.id .compacted

end ChainworksForge.Session
