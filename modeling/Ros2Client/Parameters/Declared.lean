import Ros2Client.Parameters.SimTime
import Ros2Client.Zenoh.Parameters

open Std (TreeMap)

namespace Ros2Client

variable {World : Type}

def lastDeclared (declared : List Parameter) (name : Str) : Option ParameterValue :=
  (declared.reverse.find? (·.name = name)).map (·.value)

/-- Each declared name has the last value declared for it, `use_sim_time` is off if it was not declared,
and there is nothing else. -/
def StartsDeclared (declared : List Parameter) (store : ParameterStore) : Prop :=
  ∀ name, store[name]? = (lastDeclared declared name).or
    (if name = useSimTimeName then some (.boolean false) else none)

structure DeclaredSurvives (declared : List Parameter) (dds zenoh : ParameterStore) : Prop where
  onDds : StartsDeclared declared dds
  onZenoh : StartsDeclared declared zenoh
  alike : ∀ name : Str, dds[name]? = zenoh[name]?

theorem lastDeclared_concat (declared : List Parameter) (parameter : Parameter) (name : Str) :
    lastDeclared (declared ++ [parameter]) name =
      if parameter.name = name then some parameter.value else lastDeclared declared name := by
  unfold lastDeclared
  rw [List.reverse_append, List.reverse_singleton, List.singleton_append, List.find?_cons]
  split <;> simp_all

theorem ofDeclared_lookup (declared : List Parameter) (name : Str) :
    (ParameterStore.ofDeclared declared)[name]? = lastDeclared declared name := by
  induction declared using List.reverseRecOn with
  | nil => rfl
  | append_singleton declared parameter ih =>
    rw [lastDeclared_concat, ParameterStore.ofDeclared, List.foldl_append]
    show ((ParameterStore.ofDeclared declared).insert parameter.name parameter.value)[name]? = _
    rw [TreeMap.getElem?_insert, ih]
    simp only [Std.compare_eq_iff_eq]

theorem zenoh_startsDeclared (nodeFqn : Str) (declared : List Parameter) :
    StartsDeclared declared (Zenoh.ParameterServer.new nodeFqn declared).store := by
  intro name
  have present : useSimTimeName ∈ ParameterStore.ofDeclared declared ↔
      (lastDeclared declared useSimTimeName).isSome = true := by
    rw [TreeMap.mem_iff_isSome_getElem?, ofDeclared_lookup]
  simp only [Zenoh.ParameterServer.new, TreeMap.getElem?_insertIfNew, present, ofDeclared_lookup,
    Std.compare_eq_iff_eq]
  by_cases named : useSimTimeName = name
  · subst named
    cases lastDeclared declared useSimTimeName <;> simp
  · simp [named, Ne.symm named]

theorem dds_startsDeclared_iff (declared : List Parameter) :
    StartsDeclared declared (ParameterStore.ofDeclared (declared ++ [⟨useSimTimeName, .boolean false⟩])) ↔
      ∀ value, lastDeclared declared useSimTimeName = some value → value = .boolean false := by
  unfold StartsDeclared
  simp only [ofDeclared_lookup, lastDeclared_concat]
  constructor
  · intro starts value last
    have entry := starts useSimTimeName
    rw [if_pos rfl, last] at entry
    exact (Option.some.inj entry).symm
  · intro off name
    by_cases named : useSimTimeName = name
    · subst named
      cases last : lastDeclared declared useSimTimeName with
      | none => simp
      | some value => simp [off value last]
    · simp [named, Ne.symm named]

/-- On Zenoh what was declared survives. On DDS it does if and only if no other value than false was
declared last for `use_sim_time`. -/
theorem declared_parameters_survive_iff {nodeName : NodeName} {options : NodeOptions World} {world : World}
    {node : Node World} {shared : Shared World} (nodeFqn : Str)
    (created : Node.new nodeName options world = (.ok node, shared)) :
    StartsDeclared options.declaredParameters
      (Zenoh.ParameterServer.new nodeFqn options.declaredParameters).store ∧
    (DeclaredSurvives options.declaredParameters shared.parameters
        (Zenoh.ParameterServer.new nodeFqn options.declaredParameters).store ↔
      ∀ value, lastDeclared options.declaredParameters useSimTimeName = some value → value = .boolean false) := by
  have zenoh := zenoh_startsDeclared nodeFqn options.declaredParameters
  rw [(new_shared created).2]
  refine ⟨zenoh, ?_⟩
  rw [← dds_startsDeclared_iff]
  constructor
  · intro survives
    exact survives.onDds
  · intro dds
    exact ⟨dds, zenoh, fun name => (dds name).trans (zenoh name).symm⟩

def simTimeOptions : NodeOptions Unit :=
  { plainOptions with declaredParameters := [⟨useSimTimeName, .boolean true⟩] }

/-- The application declares a gain twice, and `use_sim_time` to be on and then to be off. -/
def repeatedOptions : NodeOptions Unit :=
  { plainOptions with
    declaredParameters := [⟨"gain".toList, .integer 1⟩, ⟨useSimTimeName, .boolean true⟩, ⟨"gain".toList, .integer 2⟩,
      ⟨useSimTimeName, .boolean false⟩] }

theorem repeated_parameters_survive :
    ∃ node shared, Node.new plainName repeatedOptions () = (.ok node, shared) ∧
      lastDeclared repeatedOptions.declaredParameters "gain".toList = some (.integer 2) ∧
      DeclaredSurvives repeatedOptions.declaredParameters shared.parameters
        (Zenoh.ParameterServer.new "/talker".toList repeatedOptions.declaredParameters).store := by
  have created : Node.new plainName repeatedOptions () =
      (.ok plainNode, (Node.new plainName repeatedOptions ()).2) := rfl
  refine ⟨plainNode, _, created, rfl, (declared_parameters_survive_iff "/talker".toList created).2.mpr ?_⟩
  intro value last
  cases last
  rfl

theorem declared_sim_time_overridden :
    ¬ ∀ (nodeName : NodeName) (options : NodeOptions Unit) (node : Node Unit) (shared : Shared Unit) (nodeFqn : Str),
      Node.new nodeName options () = (.ok node, shared) →
        DeclaredSurvives options.declaredParameters shared.parameters
          (Zenoh.ParameterServer.new nodeFqn options.declaredParameters).store := by
  intro survives
  have created : Node.new plainName simTimeOptions () =
      (.ok plainNode, (Node.new plainName simTimeOptions ()).2) := rfl
  have survived := survives plainName simTimeOptions plainNode _ "/talker".toList created
  have dds := survived.onDds
  rw [(new_shared created).2, dds_startsDeclared_iff] at dds
  exact absurd (dds (.boolean true) rfl) (by decide)

end Ros2Client
