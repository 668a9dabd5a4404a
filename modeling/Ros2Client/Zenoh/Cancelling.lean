import Ros2Client.Action.CancelPolicy
import Ros2Client.Zenoh.ActionMessages
import Ros2Client.Zenoh.Service

open Std (TreeMap)

namespace Ros2Client.Zenoh

def CancelGoalRequest.codec : CdrEncoding CancelGoalRequest :=
  (cdrGoalId.pair cdrTime).via (fun fields => .ok ⟨⟨fields.1, fields.2⟩⟩)
    (fun request => (request.goalInfo.goalId, request.goalInfo.stamp))

def ActionServer.surfacedCancel :
    Except ServiceError (Option (RmwRequestId × CancelGoalRequest)) → Option (RmwRequestId × GoalId)
  | .ok (some (id, req)) => some (id, req.goalInfo.goalId)
  | _ => none

def ActionServer.tryReceiveCancel (ext : ZenohExt) (respCodec : CdrEncoding CancelGoalResponse)
    (cancelGoal : QueryServer) : QueryServer × Option (RmwRequestId × GoalId) :=
  let (cancelGoal, received) := Server.tryReceiveRequest ext CancelGoalRequest.codec respCodec cancelGoal
  (cancelGoal, surfacedCancel received)

def ActionClient.cancelGoal (goalId : GoalId) : CancelGoalRequest := ⟨⟨goalId, Time.zero⟩⟩

def ActionClient.cancelAllGoals : CancelGoalRequest := ⟨⟨GoalId.zero, Time.zero⟩⟩

/-- The goals of a table, each with its acceptance time, that the client asks to cancel. -/
def CancelGoalRequest.selected (request : CancelGoalRequest) (goals : TreeMap GoalId Time) : Set GoalId :=
  {goalId | ∃ accepted, goals[goalId]? = some accepted ∧ CancelPolicy request.goalInfo goalId (some accepted)}

/-- The goals that an application cancels by the documentation of `try_receive_cancel`. -/
def readAsDocumented (surfaced : GoalId) (goals : TreeMap GoalId Time) : Set GoalId :=
  {goalId | goalId ∈ goals ∧ (surfaced = GoalId.zero ∨ goalId = surfaced)}

def SurfacesEnough (first second : CancelGoalRequest) : Prop :=
  ∀ firstId secondId surfaced,
    ActionServer.surfacedCancel (.ok (some (firstId, first))) = some (firstId, surfaced) →
    ActionServer.surfacedCancel (.ok (some (secondId, second))) = some (secondId, surfaced) →
    ∀ goals, CancelGoalRequest.selected first goals = CancelGoalRequest.selected second goals

def ReadAsAsked (request : CancelGoalRequest) : Prop :=
  ∀ id surfaced, ActionServer.surfacedCancel (.ok (some (id, request))) = some (id, surfaced) →
    ∀ goals, readAsDocumented surfaced goals = CancelGoalRequest.selected request goals

/-- The stamp of the request leaves no goal out that its goal id asks for, and adds none. -/
def Undated (request : GoalInfo) : Prop :=
  request.stamp = Time.zero ∨ (request.goalId = GoalId.zero ∧ request.stamp = ⟨Int64.maxValue⟩)

def SameDates (first second : GoalInfo) : Prop :=
  first.stamp = second.stamp ∨ (Undated first ∧ Undated second)

instance (request : GoalInfo) : Decidable (Undated request) := inferInstanceAs (Decidable (_ ∨ _))

instance (first second : GoalInfo) : Decidable (SameDates first second) := inferInstanceAs (Decidable (_ ∨ _))

theorem cancelPolicy_iff (request : GoalInfo) (goalId : GoalId) (accepted : Time) :
    CancelPolicy request goalId (some accepted) ↔
      (request.goalId ≠ GoalId.zero ∧ goalId = request.goalId) ∨
      (request.goalId = GoalId.zero ∧ request.stamp = Time.zero) ∨
      (request.stamp ≠ Time.zero ∧ accepted ≤ request.stamp) := by
  unfold CancelPolicy AcceptedBy
  by_cases named : request.goalId = GoalId.zero <;> by_cases dated : request.stamp = Time.zero
  all_goals simp [named, dated]

theorem mem_selected_singleton (request : CancelGoalRequest) (goalId : GoalId) (accepted : Time) :
    goalId ∈ CancelGoalRequest.selected request ((∅ : TreeMap GoalId Time).insert goalId accepted) ↔
      CancelPolicy request.goalInfo goalId (some accepted) := by
  simp [CancelGoalRequest.selected, TreeMap.getElem?_insert]

/-- Two requests select the same goals of every table when the policy says the same of every goal. -/
theorem selected_eq_iff (first second : CancelGoalRequest) :
    (∀ goals, CancelGoalRequest.selected first goals = CancelGoalRequest.selected second goals) ↔
      ∀ goalId accepted, CancelPolicy first.goalInfo goalId (some accepted) ↔
        CancelPolicy second.goalInfo goalId (some accepted) := by
  constructor
  · intro same goalId accepted
    rw [← mem_selected_singleton, ← mem_selected_singleton, same]
  · intro same goals
    ext goalId
    simp only [CancelGoalRequest.selected, Set.mem_ofPred_eq, same]

theorem undated_cancelPolicy {request : GoalInfo} (undated : Undated request) (goalId : GoalId) (accepted : Time) :
    CancelPolicy request goalId (some accepted) ↔ request.goalId = GoalId.zero ∨ goalId = request.goalId := by
  have latest := accepted.le_maxValue
  rw [cancelPolicy_iff]
  rcases undated with stamp | ⟨zero, stamp⟩
  · simp only [stamp, ne_eq, not_true_eq_false, false_and, or_false, and_true]
    tauto
  · simp [zero, stamp, latest, show (⟨Int64.maxValue⟩ : Time) ≠ Time.zero by decide]

theorem exists_other_goal (goalId : GoalId) : ∃ other : GoalId, other ≠ goalId := by
  refine ⟨goalId + 1, ?_⟩
  bv_omega

/-- A goal other than the one that a request names, accepted at one of three times, tells apart
    what the stamps ask for. -/
theorem sameDates_of_agree {first second : GoalInfo} (ids : first.goalId = second.goalId)
    (agree : ∀ goalId accepted,
      CancelPolicy first goalId (some accepted) ↔ CancelPolicy second goalId (some accepted)) :
    SameDates first second := by
  obtain ⟨other, apart⟩ := exists_other_goal second.goalId
  have reach : ∀ accepted : Time,
      ((second.goalId = GoalId.zero ∧ first.stamp = Time.zero) ∨ (first.stamp ≠ Time.zero ∧ accepted ≤ first.stamp) ↔
        (second.goalId = GoalId.zero ∧ second.stamp = Time.zero) ∨
          (second.stamp ≠ Time.zero ∧ accepted ≤ second.stamp)) := by
    intro accepted
    have same := agree other accepted
    simpa only [cancelPolicy_iff, ids, apart, and_false, false_or] using same
  have atFirst := reach first.stamp
  have atSecond := reach second.stamp
  have atEnd := reach ⟨Int64.maxValue⟩
  have below (time : Time) : (⟨Int64.maxValue⟩ : Time) ≤ time → time = ⟨Int64.maxValue⟩ :=
    fun above => Time.le_antisymm time.le_maxValue above
  have firstExact := Time.le_refl first.stamp
  have secondExact := Time.le_refl second.stamp
  have antisymm : first.stamp ≤ second.stamp → second.stamp ≤ first.stamp → first.stamp = second.stamp :=
    Time.le_antisymm
  unfold SameDates Undated
  grind

theorem agree_of_sameDates {first second : GoalInfo} (ids : first.goalId = second.goalId)
    (dates : SameDates first second) (goalId : GoalId) (accepted : Time) :
    CancelPolicy first goalId (some accepted) ↔ CancelPolicy second goalId (some accepted) := by
  rcases dates with stamps | ⟨undated, undated'⟩
  · have same : first = second := by
      cases first
      cases second
      simp_all
    rw [same]
  · rw [undated_cancelPolicy undated, undated_cancelPolicy undated', ids]

/-- The documented reading of an id is the selection of a request for the id without a stamp. -/
theorem readAsDocumented_eq (surfaced : GoalId) (goals : TreeMap GoalId Time) :
    readAsDocumented surfaced goals = CancelGoalRequest.selected (ActionClient.cancelGoal surfaced) goals := by
  ext goalId
  have undated : Undated ⟨surfaced, Time.zero⟩ := .inl rfl
  have policy := undated_cancelPolicy undated goalId
  simp only [readAsDocumented, CancelGoalRequest.selected, ActionClient.cancelGoal, Set.mem_ofPred_eq, policy,
    TreeMap.mem_iff_isSome_getElem?, Option.isSome_iff_exists, exists_and_right]

theorem surfacesEnough_iff (first second : CancelGoalRequest) :
    SurfacesEnough first second ↔
      (first.goalInfo.goalId = second.goalInfo.goalId → SameDates first.goalInfo second.goalInfo) := by
  constructor
  · intro enough ids
    apply sameDates_of_agree ids
    apply (selected_eq_iff first second).mp
    exact enough ⟨⟨List.replicate 16 0, rfl⟩, 0⟩ ⟨⟨List.replicate 16 0, rfl⟩, 0⟩ second.goalInfo.goalId
      (by rw [← ids]; rfl) rfl
  · intro dates firstId secondId surfaced handed handed'
    cases handed
    have ids : second.goalInfo.goalId = first.goalInfo.goalId := congrArg Prod.snd (Option.some.inj handed')
    apply (selected_eq_iff first second).mpr
    exact agree_of_sameDates ids.symm (dates ids.symm)

theorem readAsAsked_iff (request : CancelGoalRequest) : ReadAsAsked request ↔ Undated request.goalInfo := by
  have reading : ReadAsAsked request ↔
      ∀ goals, CancelGoalRequest.selected (ActionClient.cancelGoal request.goalInfo.goalId) goals =
        CancelGoalRequest.selected request goals := by
    constructor
    · intro asked goals
      rw [← readAsDocumented_eq]
      exact asked ⟨⟨List.replicate 16 0, rfl⟩, 0⟩ _ rfl goals
    · intro same id surfaced handed goals
      cases handed
      rw [readAsDocumented_eq, same]
  rw [reading, selected_eq_iff]
  constructor
  · intro agree
    have dates : SameDates (ActionClient.cancelGoal request.goalInfo.goalId).goalInfo request.goalInfo :=
      sameDates_of_agree rfl agree
    rcases dates with stamps | ⟨_, undated⟩
    · exact .inl stamps.symm
    · exact undated
  · intro undated
    exact agree_of_sameDates rfl (.inr ⟨.inl rfl, undated⟩)

theorem try_receive_cancel_surfaces_enough_iff (first second : CancelGoalRequest) :
    (SurfacesEnough first second ↔
      (first.goalInfo.goalId = second.goalInfo.goalId → SameDates first.goalInfo second.goalInfo)) ∧
    (ReadAsAsked first ↔ Undated first.goalInfo) :=
  ⟨surfacesEnough_iff first second, readAsAsked_iff first⟩

/-- "Cancel everything" and "cancel what was accepted by time 100" reach the application as one
    and the same goal id. -/
theorem dropped_stamp_confuses_requests :
    ¬ SurfacesEnough ActionClient.cancelAllGoals ⟨⟨GoalId.zero, ⟨100⟩⟩⟩ ∧ ¬ ReadAsAsked ⟨⟨GoalId.zero, ⟨100⟩⟩⟩ := by
  constructor
  · intro enough
    have dates := (surfacesEnough_iff _ _).mp enough rfl
    revert dates
    decide
  · intro asked
    have undated := (readAsAsked_iff _).mp asked
    revert undated
    decide

end Ros2Client.Zenoh
