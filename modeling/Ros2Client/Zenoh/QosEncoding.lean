import Ros2Client.Qos.Profile
import Ros2Client.Text.Str

open Text

namespace Ros2Client

def reliabilityCode : Reliability → Str
  | .reliable => "1".toList
  | .bestEffort => "2".toList

def durabilityCode : Durability → Str
  | .transientLocal => "1".toList
  | .volatile => "2".toList

def livelinessCode : Liveliness → Str
  | .automatic => "1".toList
  | .manualByTopic => "3".toList

def durationFields : Option StdDuration → Str × Str
  | none => ([], [])
  | some duration => (decimal duration.secs.toNat, decimal duration.subsecNanos.toNat)

/-- The compact text of a profile. What equals the default is left out, except for the depth. -/
def encodeQos (profile : QosProfile) : Str :=
  let rel := if profile.reliability = .reliable then [] else reliabilityCode profile.reliability
  let dur := if profile.durability = .volatile then [] else durabilityCode profile.durability
  let (hist, depth) := match profile.history with
    | .keepLast depth => ([], depth)
    | .keepAll => ("2".toList, 0)
  let liv := if profile.liveliness = .automatic then [] else livelinessCode profile.liveliness
  let (dlSec, dlNsec) := durationFields profile.deadline
  let (lsSec, lsNsec) := durationFields profile.lifespan
  let (leaseSec, leaseNsec) := durationFields profile.livelinessLease
  rel ++ ":".toList ++ dur ++ ":".toList ++ hist ++ ",".toList ++ decimal depth.toNat ++ ":".toList ++
    dlSec ++ ",".toList ++ dlNsec ++ ":".toList ++ lsSec ++ ",".toList ++ lsNsec ++ ":".toList ++
    liv ++ ",".toList ++ leaseSec ++ ",".toList ++ leaseNsec

theorem slash_not_mem_durationFields (duration : Option StdDuration) :
    '/' ∉ (durationFields duration).1 ∧ '/' ∉ (durationFields duration).2 := by
  cases duration with
  | none => simp [durationFields]
  | some duration => exact ⟨not_mem_decimal rfl _, not_mem_decimal rfl _⟩

theorem slash_not_mem_encodeQos (profile : QosProfile) : '/' ∉ encodeQos profile := by
  have deadline := slash_not_mem_durationFields profile.deadline
  have lifespan := slash_not_mem_durationFields profile.lifespan
  have lease := slash_not_mem_durationFields profile.livelinessLease
  have depth : ∀ number, '/' ∉ decimal number := not_mem_decimal rfl
  unfold encodeQos
  cases profile.reliability <;> cases profile.durability <;> cases profile.history <;>
    cases profile.liveliness <;>
    simp [reliabilityCode, durabilityCode, livelinessCode, deadline, lifespan, lease, depth]

end Ros2Client
