import Ros2Client.Interfaces.Time

namespace Ros2Client

structure GUID where
  bytes : List UInt8
  size : bytes.length = 16
deriving DecidableEq

structure SequenceNumber where
  value : Int64
deriving DecidableEq

/-- The number RTPS reserves for "unknown": high word -1, low word 0. -/
def SequenceNumber.unknown : SequenceNumber := ⟨-4294967296⟩

structure SampleIdentity where
  writerGuid : GUID
  sequenceNumber : SequenceNumber
deriving DecidableEq

structure RmwRequestId where
  writerGuid : GUID
  sequenceNumber : SequenceNumber
deriving DecidableEq

def RmwRequestId.ofSampleIdentity (identity : SampleIdentity) : RmwRequestId :=
  ⟨identity.writerGuid, identity.sequenceNumber⟩

def SampleIdentity.ofRequestId (requestId : RmwRequestId) : SampleIdentity :=
  ⟨requestId.writerGuid, requestId.sequenceNumber⟩

@[simp] theorem RmwRequestId.ofSampleIdentity_ofRequestId (requestId : RmwRequestId) :
    RmwRequestId.ofSampleIdentity (.ofRequestId requestId) = requestId := rfl

end Ros2Client
