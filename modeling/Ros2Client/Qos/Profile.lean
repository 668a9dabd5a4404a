import Ros2Client.Interfaces.StdDuration

namespace Ros2Client

inductive Reliability
  | bestEffort
  | reliable
deriving DecidableEq

inductive Durability
  | volatile
  | transientLocal
deriving DecidableEq

inductive History
  | keepLast (depth : UInt64)
  | keepAll
deriving DecidableEq

inductive Liveliness
  | automatic
  | manualByTopic
deriving DecidableEq

/-- A quality-of-service profile; an absent duration is infinite. -/
structure QosProfile where
  reliability : Reliability
  durability : Durability
  history : History
  deadline : Option StdDuration
  lifespan : Option StdDuration
  liveliness : Liveliness
  livelinessLease : Option StdDuration
deriving DecidableEq

def QosProfile.subscriptionDefault : QosProfile where
  reliability := .bestEffort
  durability := .volatile
  history := .keepLast 1
  deadline := none
  lifespan := none
  liveliness := .automatic
  livelinessLease := none

end Ros2Client
