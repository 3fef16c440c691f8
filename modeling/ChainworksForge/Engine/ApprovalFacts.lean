import ChainworksForge.Engine.StepEffects

/-!
# The approval facts of a manual gate

Every visit of a manual gate asks for a new approval of its logical state.  The
facts `approval.granted` and `approval.rejected` of an ordinary run do not look
at the visit: they are matched when any approval of the state was ever decided
that way.  The facts therefore follow the decision of the current visit exactly
when no earlier visit was decided the other way.
-/

namespace ChainworksForge.Engine

open ChainworksForge.Support ChainworksForge.Workflow ChainworksForge.Condition

/-- The approvals that were asked for a state, in the order of its visits. -/
def Database.visits (db : Database) (stateId : String) : List ApprovalRow :=
  db.approvals.filter fun row => row.stageId = stateId

/-- Every arrival at a manual gate is a visit with an approval of its own. -/
theorem visits_enterState_manualGate
    (plan : RunPlan) (world : World) (stateId : String) (state : CompiledState)
    (pending : Option StageExecution) (db : Database)
    (hgate : state.isManualGate = true)
    (hwork : (state.isEnd && state.tasks.isEmpty) = false) :
    (enterState plan world stateId state pending db).database.visits stateId =
      db.visits stateId ++
        [{ id := db.approvals.length, stageId := stateId,
           decision := .requested }] := by
  have hvisits : ((db.requestApproval stateId).visits stateId) =
      db.visits stateId ++
        [{ id := db.approvals.length, stageId := stateId,
           decision := .requested }] := by
    simp [Database.visits, Database.requestApproval]
  unfold enterState
  rw [hwork, hgate]
  simp only [Bool.false_eq_true, if_false, if_true]
  unfold awaitApproval
  dsimp only
  split_ifs
  · exact hvisits
  · exact hvisits

/-- The condition that asks for a decision. -/
def approvalFact (grant : Bool) : Text :=
  if grant then "approval.granted == true".toList
  else "approval.rejected == true".toList

section Facts

variable (plan : RunPlan) (world : World) (db : Database) (stateId : String)

/-- A fact of a state is matched. -/
def FactMatched (grant : Bool) : Prop :=
  ∃ evaluation,
    evaluateConditionClassified (world.context plan db stateId)
        (approvalFact grant) = some evaluation ∧
      evaluation.result = .matched

/-- Of the two facts exactly that of one decision is matched. -/
def FactsFollow (grant : Bool) : Prop :=
  FactMatched plan world db stateId grant ∧
    ¬FactMatched plan world db stateId (!grant)

/-- No approval binding of a carried-forward run decides the facts. -/
def World.IsOrdinary (world : World) : Prop :=
  ∀ decision, world.reads.authorizes decision = .ok none

variable {plan world db stateId}

theorem evaluate_approvalFact (ctx : Context) (grant : Bool) :
    evaluateConditionClassified ctx (approvalFact grant) =
      some (evaluateApproval ctx (decisionOf grant)) := by
  cases grant with
  | true => rfl
  | false => rfl

/-- A fact is matched as soon as one visit was decided that way. -/
theorem factMatched_iff (hordinary : world.IsOrdinary) (grant : Bool) :
    FactMatched plan world db stateId grant ↔
      ∃ row ∈ db.visits stateId, row.decision = decisionOf grant := by
  have hauthorizes : (world.context plan db stateId).authorizes
      (decisionOf grant) = .ok none := hordinary _
  have hany : ((world.context plan db stateId).approvals.any fun a =>
      a.stageId = (world.context plan db stateId).currentStateId ∧
        a.decision = decisionOf grant) = true ↔
      ∃ row ∈ db.visits stateId, row.decision = decisionOf grant := by
    simp [World.context, Database.visits, String.toList_inj, and_assoc]
  unfold FactMatched
  rw [← hany, evaluate_approvalFact, evaluateApproval, hauthorizes]
  simp only [Option.some.injEq, exists_eq_left']
  cases (world.context plan db stateId).approvals.any fun a =>
      a.stageId = (world.context plan db stateId).currentStateId ∧
        a.decision = decisionOf grant with
  | true => simp [ClassifiedConditionEvaluation.ofBool,
      ClassifiedConditionEvaluation.matched, ClassifiedConditionEvaluation.new]
  | false => simp [ClassifiedConditionEvaluation.ofBool,
      ClassifiedConditionEvaluation.notMatched,
      ClassifiedConditionEvaluation.new]

/-- The facts follow the current visit exactly when no earlier visit was
decided the other way. -/
theorem factsFollow_iff
    (hordinary : world.IsOrdinary) {earlier : List ApprovalRow}
    {current : ApprovalRow} {grant : Bool}
    (hvisits : db.visits stateId = earlier ++ [current])
    (hcurrent : current.decision = decisionOf grant) :
    FactsFollow plan world db stateId grant ↔
      ∀ row ∈ earlier, row.decision ≠ decisionOf (!grant) := by
  have hother : current.decision ≠ decisionOf (!grant) := by
    rw [hcurrent]
    cases grant <;> simp [decisionOf]
  rw [FactsFollow, factMatched_iff hordinary, factMatched_iff hordinary,
    hvisits]
  constructor
  · rintro ⟨-, hnone⟩ row hrow hdecision
    exact hnone ⟨row, List.mem_append_left _ hrow, hdecision⟩
  · intro hearlier
    refine ⟨⟨current, by simp, hcurrent⟩, ?_⟩
    rintro ⟨row, hrow, hdecision⟩
    obtain hrow | hrow := List.mem_append.mp hrow
    · exact hearlier row hrow hdecision
    · rw [List.mem_singleton.mp hrow] at hdecision
      exact hother hdecision

end Facts

/-! ## Decisions in a run -/

/-- A step that decides an approval. -/
def Decides (db : Database) : Event → Bool → ApprovalRow → Prop
  | .decideStage grant stageId, decided, approval =>
      decided = grant ∧
        (db.approvals.find? fun row =>
          row.stageId = stageId ∧ row.isOpen) = some approval
  | .resolveApproval grant approvalId, decided, approval =>
      decided = grant ∧
        (db.approvals.find? fun row =>
          row.id = approvalId ∧ row.isOpen) = some approval
  | _, _, _ => False

/-- What is decided agrees with every earlier decision on the same state. -/
def DecidesAlike (db : Database) (event : Event) : Prop :=
  ∀ grant approval, Decides db event grant approval →
    ∀ row ∈ db.visits approval.stageId, row.decision ≠ decisionOf (!grant)

theorem settleApproval_approvals
    (plan : RunPlan) (grant : Bool) (approval : ApprovalRow) (db : Database) :
    (settleApproval plan grant approval db).approvals =
      (db.decideApproval approval.id (decisionOf grant)).approvals := by
  unfold settleApproval
  dsimp only
  split <;> rfl

/-- A step asks for approvals or decides one. -/
theorem approvals_apply (plan : RunPlan) (db : Database) (event : Event) :
    AsksApprovals db (db.apply plan event) ∨
      ∃ grant approval, Decides db event grant approval ∧
        (db.apply plan event).approvals =
          (db.decideApproval approval.id (decisionOf grant)).approvals := by
  have hrecord : ∀ activity, (recordActivity activity db).approvals =
      db.approvals := by
    intro activity
    unfold recordActivity
    split_ifs <;> rfl
  cases event with
  | advance world =>
      obtain ⟨bare, acting, h⟩ := stepEffect_advanceRun plan world db
      exact .inl h.approvals
  | advanceTargeted world target =>
      obtain ⟨bare, acting, h⟩ :=
        stepEffect_advanceRunTargeted plan world target db
      exact .inl h.approvals
  | activity activity => exact .inl (.of_eq (hrecord activity))
  | finishSingleTask activity item completed =>
      refine .inl (.of_eq ?_)
      unfold Database.apply finishSingleTask
      dsimp only
      by_cases hitem : item ∈ db.invokes ∧ item.status.inFlight ∧
          item.totalTasks ≤ 1
      · rw [if_pos hitem]
        exact hrecord activity
      · rw [if_neg hitem]
  | decideStage grant stageId =>
      unfold Database.apply decideStage
      dsimp only
      split
      · exact .inl (.of_eq rfl)
      · rename_i approval happroval
        exact .inr ⟨grant, approval, ⟨rfl, happroval⟩,
          settleApproval_approvals plan grant approval db⟩
  | resolveApproval grant approvalId =>
      unfold Database.apply resolveApproval
      dsimp only
      split
      · exact .inl (.of_eq rfl)
      · rename_i approval happroval
        refine .inr ⟨grant, approval, ⟨rfl, happroval⟩, ?_⟩
        rw [← settleApproval_approvals plan grant approval db]
        split_ifs <;> rfl
  | retryStage world stageId =>
      unfold Database.apply retryStage
      dsimp only
      split
      · exact .inl (.of_eq rfl)
      · rename_i stage _
        have hattempt : StepEffect (fun _ => True) stage.id (cancelInFlight db stage)
            (supersedeStage world (cancelInFlight db stage) stage .pending) :=
          stepEffect_supersedeStage world _ stage .pending
        exact .inl (AsksApprovals.trans (.of_eq rfl) hattempt.approvals)
  | retryAgentExecution world stageId source =>
      unfold Database.apply retryAgentExecution
      dsimp only
      split
      · exact .inl (.of_eq rfl)
      · rename_i stage _
        have hretry : StepEffect (fun _ => True) stage.id db
            (scheduleTargetedRetry world db stage source).database :=
          stepEffect_scheduleTargetedRetry world db stage source
        exact .inl hretry.approvals

/-- Approvals are numbered, and no state has been decided both ways. -/
structure Agreed (approvals : List ApprovalRow) : Prop where
  ids : approvals.map (·.id) = List.range approvals.length
  alike : ∀ a ∈ approvals, ∀ b ∈ approvals, a.stageId = b.stageId →
    a.decision = .granted → b.decision ≠ .rejected

namespace Agreed

theorem of_asksApproval
    {before after : List ApprovalRow} (h : Agreed before)
    (hasks : AsksApproval before after) : Agreed after := by
  obtain ⟨stageId, rfl⟩ := hasks
  refine ⟨?_, ?_⟩
  · rw [List.map_append, h.ids, List.length_append, List.length_singleton,
      List.range_succ, List.map_singleton]
  · intro a ha b hb hstage hgranted hrejected
    -- a new row is neither granted nor rejected
    obtain ha | ha := List.mem_append.mp ha
    · obtain hb | hb := List.mem_append.mp hb
      · exact h.alike a ha b hb hstage hgranted hrejected
      · simp [List.mem_singleton.mp hb] at hrejected
    · simp [List.mem_singleton.mp ha] at hgranted

theorem of_asksApprovals
    {before after : List ApprovalRow} (h : Agreed before)
    (hasks : Relation.ReflTransGen AsksApproval before after) :
    Agreed after := by
  induction hasks with
  | refl => exact h
  | tail _ hstep ih => exact ih.of_asksApproval hstep

/-- Deciding an approval like every earlier one of its state. -/
theorem decideApproval
    {db : Database} (h : Agreed db.approvals) {approval : ApprovalRow}
    (happroval : approval ∈ db.approvals) {grant : Bool}
    (halike : ∀ row ∈ db.visits approval.stageId,
      row.decision ≠ decisionOf (!grant)) :
    Agreed (db.decideApproval approval.id (decisionOf grant)).approvals := by
  have hnodup : (db.approvals.map (·.id)).Nodup := by
    rw [h.ids]
    exact List.nodup_range
  -- a row after the decision is an old one, or the decided one
  have hrow : ∀ row ∈
      (db.decideApproval approval.id (decisionOf grant)).approvals,
      row ∈ db.approvals ∨
        (row.stageId = approval.stageId ∧ row.decision = decisionOf grant) := by
    intro row hmem
    obtain ⟨before, hbefore, rfl⟩ := List.mem_map.mp hmem
    by_cases hid : before.id = approval.id
    · obtain rfl := List.inj_on_of_nodup_map hnodup hbefore happroval hid
      exact .inr (by simp)
    · exact .inl (by rwa [if_neg hid])
  have hothers : ∀ row ∈ db.approvals, row.stageId = approval.stageId →
      row.decision ≠ decisionOf (!grant) := by
    intro row hmem hstage
    exact halike row (List.mem_filter.mpr ⟨hmem, by simpa using hstage⟩)
  refine ⟨?_, ?_⟩
  · have hids : (db.decideApproval approval.id
        (decisionOf grant)).approvals.map (·.id) = db.approvals.map (·.id) := by
      rw [Database.decideApproval, List.map_map]
      refine List.map_congr_left fun row _ => ?_
      rw [Function.comp_apply]
      split_ifs <;> rfl
    rw [hids, h.ids, Database.decideApproval, List.length_map]
  · intro a ha b hb hstage hgranted hrejected
    obtain ha | ⟨hastage, hadecision⟩ := hrow a ha
    · obtain hb | ⟨hbstage, hbdecision⟩ := hrow b hb
      · exact h.alike a ha b hb hstage hgranted hrejected
      · have hne := hothers a ha (hstage.trans hbstage)
        rw [hbdecision] at hrejected
        rw [hgranted] at hne
        cases grant <;> simp [decisionOf] at hrejected hne
    · rw [hadecision] at hgranted
      obtain hb | ⟨-, hbdecision⟩ := hrow b hb
      · have hne := hothers b hb (hstage.symm.trans hastage)
        rw [hrejected] at hne
        cases grant <;> simp [decisionOf] at hgranted hne
      · rw [hbdecision, hgranted] at hrejected
        simp at hrejected

/-- A step that decides alike keeps the agreement. -/
theorem apply
    {plan : RunPlan} {db : Database} {event : Event}
    (h : Agreed db.approvals) (halike : DecidesAlike db event) :
    Agreed (db.apply plan event).approvals := by
  obtain hasks | ⟨grant, approval, hdecides, happrovals⟩ :=
    approvals_apply plan db event
  · exact h.of_asksApprovals hasks
  · have hmem : approval ∈ db.approvals := by
      cases event with
      | decideStage => exact List.mem_of_find?_eq_some hdecides.2
      | resolveApproval => exact List.mem_of_find?_eq_some hdecides.2
      | _ => exact absurd hdecides (by simp [Decides])
    rw [happrovals]
    exact h.decideApproval hmem (halike grant approval hdecides)

end Agreed

/--
At every point of every run, once the current visit of a state is decided, its
facts follow that decision exactly when no earlier visit of the state was
decided the other way.  In a run that decides every state alike they always
follow it.
-/
theorem approvalFacts_follow_iff
    (plan : RunPlan) (start : Database) (hstart : start.approvals = [])
    (events : List Event) (world : World) (hordinary : world.IsOrdinary)
    (stateId : String) (earlier : List ApprovalRow) (current : ApprovalRow)
    (grant : Bool)
    (hvisits : (start.applyAll plan events).visits stateId =
      earlier ++ [current])
    (hdecided : current.decision = decisionOf grant) :
    (FactsFollow plan world (start.applyAll plan events) stateId grant ↔
      ∀ row ∈ earlier, row.decision ≠ decisionOf (!grant)) ∧
    (RunMeets plan DecidesAlike start events →
      FactsFollow plan world (start.applyAll plan events) stateId grant) := by
  have hiff : FactsFollow plan world (start.applyAll plan events) stateId
      grant ↔ ∀ row ∈ earlier, row.decision ≠ decisionOf (!grant) :=
    factsFollow_iff hordinary hvisits hdecided
  refine ⟨hiff, fun hrun => hiff.mpr fun row hrow hother => ?_⟩
  have hinitial : Agreed start.approvals := by
    rw [hstart]
    exact ⟨rfl, by simp⟩
  have hstep : ∀ db event, Agreed db.approvals → DecidesAlike db event →
      Agreed (db.apply plan event).approvals :=
    fun _ _ h halike => h.apply halike
  have hagreed : Agreed (start.applyAll plan events).approvals :=
    invariant_applyAll hstep hinitial hrun
  have hvisit : ∀ visit ∈ earlier ++ [current],
      visit ∈ (start.applyAll plan events).approvals ∧
        visit.stageId = stateId := by
    intro visit hvisit
    rw [← hvisits] at hvisit
    simpa [Database.visits] using hvisit
  obtain ⟨hrowMem, hrowState⟩ := hvisit row (List.mem_append_left _ hrow)
  obtain ⟨hcurrentMem, hcurrentState⟩ := hvisit current (by simp)
  cases grant with
  | true =>
      exact hagreed.alike current hcurrentMem row hrowMem
        (hcurrentState.trans hrowState.symm) hdecided hother
  | false =>
      exact hagreed.alike row hrowMem current hcurrentMem
        (hrowState.trans hcurrentState.symm) hother hdecided

/-! ## A gate that is visited again -/

/-- A gate that is asked again after every rejection. -/
def gateState : CompiledState :=
  { plainState "gate"
      [{ toState := "done", condition := "approval.granted == true" },
        { toState := "gate", condition := "approval.rejected == true" }] with
    stateType := some "manual_gate"
    isManualGate := true }

/-- The plan with this gate alone. -/
def gatePlan : RunPlan where
  initialState := "gate"
  states := [("gate", gateState)]

/-- A first visit that is rejected and a second one that is decided. -/
def gateRun (grant : Bool) : List Event :=
  [.advance (quietWorld 1), .resolveApproval false 0, .advance (quietWorld 2),
    .advance (quietWorld 3), .resolveApproval grant 1]

theorem approvalFacts_follow_second_rejection :
    FactsFollow gatePlan (quietWorld 4)
      ((runningDatabase "gate").applyAll gatePlan (gateRun false)) "gate"
      false := by
  refine (approvalFacts_follow_iff gatePlan (runningDatabase "gate") rfl
    (gateRun false) (quietWorld 4) (fun _ => rfl) "gate"
    [{ id := 0, stageId := "gate", decision := .rejected }]
    { id := 1, stageId := "gate", decision := .rejected } false
    (by decide +kernel) rfl).2 ?_
  have hadvance : ∀ (db : Database) (world : World),
      DecidesAlike db (.advance world) := fun _ _ _ _ h => h.elim
  have hreject : ∀ (db : Database) (approvalId : Nat),
      (∀ row ∈ db.approvals, row.decision ≠ .granted) →
        DecidesAlike db (.resolveApproval false approvalId) := by
    rintro db approvalId hnone grant approval ⟨rfl, -⟩ row hrow
    exact hnone row (List.mem_of_mem_filter hrow)
  exact ⟨hadvance _ _, hreject _ _ (by decide +kernel), hadvance _ _,
    hadvance _ _, hreject _ _ (by decide +kernel), trivial⟩

/-- A rejection of the first visit is still matched after the grant of the
second one. -/
theorem rejection_outlives_grant :
    ((runningDatabase "gate").applyAll gatePlan (gateRun true)).visits "gate" =
      [{ id := 0, stageId := "gate", decision := .rejected },
        { id := 1, stageId := "gate", decision := .granted }] ∧
    ¬FactsFollow gatePlan (quietWorld 4)
      ((runningDatabase "gate").applyAll gatePlan (gateRun true)) "gate"
      true := by
  have hvisits : ((runningDatabase "gate").applyAll gatePlan
      (gateRun true)).visits "gate" =
        [{ id := 0, stageId := "gate", decision := .rejected },
          { id := 1, stageId := "gate", decision := .granted }] := by
    decide +kernel
  refine ⟨hvisits, ?_⟩
  rintro ⟨-, hnone⟩
  refine hnone ((factMatched_iff (fun _ => rfl) false).mpr ?_)
  rw [hvisits]
  exact ⟨_, List.mem_cons_self, rfl⟩

end ChainworksForge.Engine
