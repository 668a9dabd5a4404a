import Ros2Client.Interfaces.Rcl
import Ros2Client.Parameters.Interleaving

namespace Ros2Client.Zenoh

structure ParameterEvent where
  stamp : Time
  node : Str
  newParameters : List Raw.Parameter
  changedParameters : List Raw.Parameter
  deletedParameters : List Raw.Parameter
deriving DecidableEq

structure ParameterServer where
  nodeFqn : Str
  store : ParameterStore
  published : List ParameterEvent

/-- The store of a new server: `use_sim_time` is added where it was not given. -/
def ParameterServer.new (nodeFqn : Str) (initialParameters : List Parameter) : ParameterServer where
  nodeFqn := nodeFqn
  store := (ParameterStore.ofDeclared initialParameters).insertIfNew useSimTimeName (.boolean false)
  published := []

def ParameterServer.publishEvent (server : ParameterServer) (now : Time)
    (newParameters changedParameters deletedParameters : List Raw.Parameter) : ParameterServer :=
  let event := { stamp := now, node := server.nodeFqn, newParameters, changedParameters, deletedParameters }
  { server with published := server.published ++ [event] }

def ParameterServer.setAndNotify (server : ParameterServer) (now : Time) (name : Str) (value : ParameterValue) :
    Except Str Unit × ParameterServer :=
  let rawParam : Raw.Parameter := ⟨name, value.toRaw⟩
  let alreadySet := server.store.contains name
  let server := { server with store := server.store.insert name value }
  if alreadySet then (.ok (), server.publishEvent now [] [rawParam] [])
  else (.ok (), server.publishEvent now [rawParam] [] [])

def ParameterServer.setParameter (server : ParameterServer) (now : Time) (name : Str) (value : ParameterValue) :
    ParameterServer :=
  (server.setAndNotify now name value).2

def ParameterServer.handleSetParameters (server : ParameterServer) :
    List (Raw.Parameter × Time) → List Raw.SetParametersResult × ParameterServer
  | [] => ([], server)
  | (raw, now) :: rest =>
    let parameter := Parameter.ofRaw raw
    let (result, server) := server.setAndNotify now parameter.name parameter.value
    let (results, server) := server.handleSetParameters rest
    (.of result :: results, server)

def ParameterServer.handleGetParameters (server : ParameterServer) (req : GetParametersRequest) :
    GetParametersResponse :=
  ⟨req.names.map fun name => (server.store.getD name .notSet).toRaw⟩

def ParameterServer.handleGetParameterTypes (server : ParameterServer) (req : GetParameterTypesRequest) :
    GetParameterTypesResponse :=
  ⟨req.names.map fun name => (server.store.getD name .notSet).toParameterType.code⟩

/-- Not implemented, and every entry fails. -/
def ParameterServer.handleSetParametersAtomically (req : SetParametersRequest) : SetParametersResponse :=
  ⟨req.parameter.map fun _ => .of (.error "Setting parameters atomically is not implemented.".toList)⟩

def ParameterServer.handleListParameters (server : ParameterServer) (req : ListParametersRequest) :
    ListParametersResponse :=
  let names := server.store.keys.filter fun name =>
    req.prefixes.isEmpty || req.prefixes.any fun p => p.isPrefixOf name
  ⟨⟨names, []⟩⟩

def ParameterServer.handleDescribeParameters (server : ParameterServer) (req : DescribeParametersRequest) :
    DescribeParametersResponse :=
  let describe (name : Str) : ParameterDescriptor :=
    match server.store[name]? with
    | some value => .fromValue name value
    | none => .unknown name
  ⟨req.names.map fun name => (describe name).toRaw⟩

end Ros2Client.Zenoh
