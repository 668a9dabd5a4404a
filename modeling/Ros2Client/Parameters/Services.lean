import Ros2Client.Interfaces.Rcl
import Ros2Client.Zenoh.Parameters

open Std (TreeMap)

namespace Ros2Client

def ParameterValue.toParameterTypeRaw (p : ParameterValue) : UInt8 := p.toParameterType.code

def ParameterStore.describe (store : ParameterStore) (name : Str) : ParameterDescriptor :=
  match store[name]? with
  | some value => .fromValue name value
  | none => .unknown name

def Spinner.getParameters (parameters : ParameterStore) (req : GetParametersRequest) : GetParametersResponse :=
  ⟨req.names.map fun name => (parameters[name]?.getD .notSet).toRaw⟩

def Spinner.getParameterTypes (parameters : ParameterStore) (req : GetParameterTypesRequest) :
    GetParameterTypesResponse :=
  ⟨req.names.map fun name => (parameters[name]?.getD .notSet).toParameterTypeRaw⟩

def Spinner.describeParameters (parameters : ParameterStore) (req : DescribeParametersRequest) :
    DescribeParametersResponse :=
  ⟨req.names.map fun name => (parameters.describe name).toRaw⟩

/-- The answers about a list of names: one entry for each name, of one type in all three, and with the
stored value behind it. -/
structure AnswersAgree (store : ParameterStore) (names : List Str) (got : GetParametersResponse)
    (types : GetParameterTypesResponse) (described : DescribeParametersResponse) : Prop where
  complete : got.values.length = names.length ∧ types.values.length = names.length ∧
    described.values.length = names.length
  entries : ∀ (index : Nat) (name : Str), names[index]? = some name →
    ∃ value descriptor, got.values[index]? = some value ∧ described.values[index]? = some descriptor ∧
      types.values[index]? = some value.ptype ∧ descriptor.type = value.ptype ∧ descriptor.name = name ∧
      ParameterValue.ofRaw value = store[name]?.getD .notSet

theorem describe_type (store : ParameterStore) (name : Str) :
    (store.describe name).toRaw.type = (store[name]?.getD .notSet).toRaw.ptype ∧
      (store.describe name).toRaw.name = name := by
  rw [ParameterValue.toRaw_ptype]
  cases found : store[name]? <;>
    simp [ParameterStore.describe, found, ParameterDescriptor.toRaw, ParameterDescriptor.fromValue,
      ParameterDescriptor.unknown, ParameterValue.toParameterType]

theorem answersAgree_of_map (store : ParameterStore) (names : List Str) :
    AnswersAgree store names ⟨names.map fun name => (store[name]?.getD .notSet).toRaw⟩
      ⟨names.map fun name => (store[name]?.getD .notSet).toParameterType.code⟩
      ⟨names.map fun name => (store.describe name).toRaw⟩ := by
  refine ⟨by simp, ?_⟩
  intro index name found
  obtain ⟨type, named⟩ := describe_type store name
  refine ⟨(store[name]?.getD .notSet).toRaw, (store.describe name).toRaw, ?_, ?_, ?_, type, named,
    ParameterValue.ofRaw_toRaw _⟩
  · simp [found]
  · simp [found]
  · simp [found, ParameterValue.toRaw_ptype]

theorem parameter_services_agree (store : ParameterStore) (server : Zenoh.ParameterServer) (names : List Str) :
    AnswersAgree store names (Spinner.getParameters store ⟨names⟩) (Spinner.getParameterTypes store ⟨names⟩)
      (Spinner.describeParameters store ⟨names⟩) ∧
    AnswersAgree server.store names (server.handleGetParameters ⟨names⟩) (server.handleGetParameterTypes ⟨names⟩)
      (server.handleDescribeParameters ⟨names⟩) := by
  refine ⟨answersAgree_of_map store names, ?_⟩
  have agree := answersAgree_of_map server.store names
  simp only [← TreeMap.getD_eq_getD_getElem?] at agree
  exact agree

end Ros2Client
