import Mathlib.Logic.Basic

namespace Transition

structure Responder (State Request Response : Type) where
  answer : State → Request → Response × State

namespace Responder

variable {State Other Request Timed Response : Type}

def run (responder : Responder State Request Response) : State → List Request → List Response × State
  | state, [] => ([], state)
  | state, request :: rest =>
    let (response, state) := responder.answer state request
    let (responses, state) := responder.run state rest
    (response :: responses, state)

def comap (responder : Responder State Request Response) (form : Timed → Request) :
    Responder State Timed Response where
  answer state request := responder.answer state (form request)

def Always (responder : Responder State Request Response) (condition : State → Request → Prop) :
    State → List Request → Prop
  | _, [] => True
  | state, request :: rest =>
    condition state request ∧ responder.Always condition (responder.answer state request).2 rest

/-- In related states the answers are the same if and only if the condition holds, and then the states stay related. -/
structure Follows (first : Responder State Request Response) (second : Responder Other Request Response)
    (related : State → Other → Prop) (condition : State → Request → Prop) : Prop where
  same_iff : ∀ {state other}, related state other → ∀ request,
    ((first.answer state request).1 = (second.answer other request).1 ↔ condition state request)
  related : ∀ {state other}, related state other → ∀ request, condition state request →
    related (first.answer state request).2 (second.answer other request).2

theorem run_comap (responder : Responder State Request Response) (form : Timed → Request) (state : State)
    (requests : List Timed) : (responder.comap form).run state requests = responder.run state (requests.map form) := by
  induction requests generalizing state with
  | nil => rfl
  | cons request rest ih =>
    simp only [run, List.map_cons, ih]
    rfl

theorem always_comap (responder : Responder State Request Response) (form : Timed → Request)
    (condition : State → Request → Prop) (state : State) (requests : List Timed) :
    (responder.comap form).Always (fun state request => condition state (form request)) state requests ↔
      responder.Always condition state (requests.map form) := by
  induction requests generalizing state with
  | nil => rfl
  | cons request rest ih => exact and_congr_right fun _ => ih _

variable {first : Responder State Request Response} {second : Responder Other Request Response}
  {related : State → Other → Prop} {condition : State → Request → Prop}

theorem Follows.run_same_iff (follows : first.Follows second related condition) {state : State} {other : Other}
    (start : related state other) (requests : List Request) :
    (first.run state requests).1 = (second.run other requests).1 ↔ first.Always condition state requests := by
  induction requests generalizing state other with
  | nil => exact iff_of_true rfl trivial
  | cons request rest ih =>
    show _ :: _ = _ :: _ ↔ _ ∧ _
    rw [List.cons.injEq, follows.same_iff start request]
    apply and_congr_right
    intro held
    exact ih (follows.related start request held)

theorem Follows.run_related (follows : first.Follows second related condition) {state : State} {other : Other}
    (start : related state other) (requests : List Request) (held : first.Always condition state requests) :
    related (first.run state requests).2 (second.run other requests).2 := by
  induction requests generalizing state other with
  | nil => exact start
  | cons request rest ih => exact ih (follows.related start request held.1) held.2

section Invariant

variable (responder : Responder State Request Response) (invariant : State → Prop) (free : Request → Prop)
  (kept : ∀ state, invariant state → ∀ request, free request → invariant (responder.answer state request).2)

include kept

/-- Where an invariant makes the condition one on the request alone, so it is for a run. -/
theorem always_iff (condition : State → Request → Prop)
    (decides : ∀ state, invariant state → ∀ request, condition state request ↔ free request)
    {state : State} (start : invariant state) (requests : List Request) :
    responder.Always condition state requests ↔ ∀ request ∈ requests, free request := by
  induction requests generalizing state with
  | nil => simp [Always]
  | cons request rest ih =>
    rw [Always, List.forall_mem_cons, decides state start request]
    apply and_congr_right
    intro held
    exact ih (kept state start request held)

theorem run_invariant {state : State} (start : invariant state) (requests : List Request)
    (held : ∀ request ∈ requests, free request) : invariant (responder.run state requests).2 := by
  induction requests generalizing state with
  | nil => exact start
  | cons request rest ih =>
    exact ih (kept state start request (held request List.mem_cons_self)) fun later member =>
      held later (List.mem_cons_of_mem _ member)

end Invariant

end Responder

end Transition
