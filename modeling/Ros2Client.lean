import Ros2Client.Transition.Runs
import Ros2Client.Transition.Responders
import Ros2Client.Transition.KeyedUpdates
import Ros2Client.Transition.Feeds
import Ros2Client.Transition.Channel
import Ros2Client.Transition.EventLog
import Ros2Client.Transition.Threads
import Ros2Client.Transition.Traces
import Ros2Client.Transition.Histories
import Ros2Client.Transition.Components
import Ros2Client.Text.Str
import Ros2Client.Text.Source
import Ros2Client.Text.Fields
import Ros2Client.Text.Delimited
import Ros2Client.Wire.Codec
import Ros2Client.Parsing.Combinators
import Ros2Client.Parsing.Characters
import Ros2Client.Parsing.Locality
import Ros2Client.Parsing.Lookahead
import Ros2Client.Interfaces.Time
import Ros2Client.Interfaces.Rcl
import Ros2Client.Interfaces.WireTime
import Ros2Client.Interfaces.Duration
import Ros2Client.Interfaces.StdDuration
import Ros2Client.Interfaces.SteadyTime
import Ros2Client.Interfaces.WideString
import Ros2Client.Names.Name
import Ros2Client.Names.Resolution
import Ros2Client.Names.TypeName
import Ros2Client.Names.DdsTopics
import Ros2Client.Names.Parsing
import Ros2Client.Names.ServiceNames
import Ros2Client.Qos.Profile
import Ros2Client.Qos.Dds
import Ros2Client.Service.Identity
import Ros2Client.Service.Wrappers
import Ros2Client.Service.Cdr
import Ros2Client.Service.Endpoints
import Ros2Client.Service.Framing
import Ros2Client.Service.Traffic
import Ros2Client.Service.Delivery
import Ros2Client.Service.Correlation
import Ros2Client.Service.Receivers
import Ros2Client.Service.NoResponseLost
import Ros2Client.Service.SharedClient
import Ros2Client.Service.RawEndpoints
import Ros2Client.Node.Spinner
import Ros2Client.Node.MatchWait
import Ros2Client.Node.Wakeup
import Ros2Client.Node.MatchTables
import Ros2Client.Node.StatusFanOut
import Ros2Client.Node.Discovery
import Ros2Client.Node.DiscoverySteps
import Ros2Client.Node.LiveNodes
import Ros2Client.Node.ExternalNodes
import Ros2Client.Node.DiscoveryNetwork
import Ros2Client.Node.SeenNodes
import Ros2Client.Node.FailedSpinner
import Ros2Client.Action.Messages
import Ros2Client.Action.Server
import Ros2Client.Action.Calls
import Ros2Client.Action.Interleaving
import Ros2Client.Action.Effects
import Ros2Client.Action.LifeCycle
import Ros2Client.Action.ResultDelivery
import Ros2Client.Action.ResultRequests
import Ros2Client.Action.AcceptedTime
import Ros2Client.Action.AnswerSteps
import Ros2Client.Action.GoalAnswers
import Ros2Client.Action.Flushing
import Ros2Client.Action.CancelPolicy
import Ros2Client.Action.FailedCalls
import Ros2Client.Action.Promises
import Ros2Client.Action.Closing
import Ros2Client.Action.WireOrder
import Ros2Client.Action.ResultTruth
import Ros2Client.Action.StatusOrder
import Ros2Client.Action.Client
import Ros2Client.Action.Network
import Ros2Client.Action.NetworkInvariant
import Ros2Client.Action.EndToEnd
import Ros2Client.Action.RawServer
import Ros2Client.Parameters.Value
import Ros2Client.Parameters.Setting
import Ros2Client.Parameters.Interleaving
import Ros2Client.Parameters.SimTime
import Ros2Client.Parameters.Undeclaring
import Ros2Client.Parameters.Replay
import Ros2Client.Parameters.Declared
import Ros2Client.Parameters.Services
import Ros2Client.Parameters.Backends
import Ros2Client.Zenoh.QosEncoding
import Ros2Client.Zenoh.QosDecoding
import Ros2Client.Zenoh.QosOverflow
import Ros2Client.Zenoh.KeyExpr
import Ros2Client.Zenoh.GraphCache
import Ros2Client.Zenoh.WaitFor
import Ros2Client.Zenoh.NoMissedEntity
import Ros2Client.Zenoh.Liveliness
import Ros2Client.Zenoh.TypeDescription
import Ros2Client.Zenoh.TypeHash
import Ros2Client.Zenoh.JsonText
import Ros2Client.Zenoh.HashedText
import Ros2Client.Zenoh.DataPlane
import Ros2Client.Zenoh.Payload
import Ros2Client.Zenoh.Service
import Ros2Client.Zenoh.Answering
import Ros2Client.Zenoh.PendingQueries
import Ros2Client.Zenoh.AnswersOnce
import Ros2Client.Zenoh.Displacement
import Ros2Client.Zenoh.FailedResponses
import Ros2Client.Zenoh.Creation
import Ros2Client.Zenoh.Session
import Ros2Client.Zenoh.Identities
import Ros2Client.Zenoh.GraphHistory
import Ros2Client.Zenoh.GraphEvents
import Ros2Client.Zenoh.TokenNetwork
import Ros2Client.Zenoh.TokenParts
import Ros2Client.Zenoh.TokenOwners
import Ros2Client.Zenoh.SharedGraph
import Ros2Client.Zenoh.LiveGraph
import Ros2Client.Zenoh.Topics
import Ros2Client.Zenoh.TopicSteps
import Ros2Client.Zenoh.SharedTopics
import Ros2Client.Zenoh.TopicTruth
import Ros2Client.Zenoh.ActionMessages
import Ros2Client.Zenoh.Parameters
import Ros2Client.Zenoh.SpinOnce
import Ros2Client.Zenoh.Cancelling
import Ros2Client.Zenoh.ServedQueries
import Ros2Client.Zenoh.RawActionServer
import Ros2Client.Zenoh.ServiceCalls
import Ros2Client.Zenoh.CallTruth
import Ros2Client.Msggen.StringParser
import Ros2Client.Msggen.StringGrammar
import Ros2Client.Msggen.Parser
import Ros2Client.Msggen.Lines
import Ros2Client.Msggen.Numerals
import Ros2Client.Msggen.Types
import Ros2Client.Msggen.Printing
import Ros2Client.Msggen.RoundTrip
import Ros2Client.Msggen.Completeness
import Ros2Client.Msggen.Floats
import Ros2Client.Msggen.Heads
import Ros2Client.Msggen.Panics
import Ros2Client.Msggen.Generation
import Ros2Client.Msggen.GeneratedText
