import Ros2Client.Zenoh.TypeDescription

namespace Ros2Client

def wildcard : Str := "*".toList

def placeholderHash : Str := "RIHS01_0000000000000000000000000000000000000000000000000000000000000000".toList

def stdMsgsScalars : List (Str × Str × UInt8) :=
  [("std_msgs::msg::dds_::Bool_".toList, "std_msgs/msg/Bool".toList, 15),
   ("std_msgs::msg::dds_::Float32_".toList, "std_msgs/msg/Float32".toList, 10),
   ("std_msgs::msg::dds_::Float64_".toList, "std_msgs/msg/Float64".toList, 11),
   ("std_msgs::msg::dds_::Int32_".toList, "std_msgs/msg/Int32".toList, 6),
   ("std_msgs::msg::dds_::Int64_".toList, "std_msgs/msg/Int64".toList, 8),
   ("std_msgs::msg::dds_::UInt32_".toList, "std_msgs/msg/UInt32".toList, 7),
   ("std_msgs::msg::dds_::UInt64_".toList, "std_msgs/msg/UInt64".toList, 9)]

def scalarHash (sha256 : List UInt8 → List UInt8) (rosName : Str) (typeId : UInt8) : Str :=
  TypeDescription.rihs01 sha256 ⟨⟨rosName, [Field.new "data".toList (.scalar typeId)]⟩, []⟩

def knownTypeHash (sha256 : List UInt8 → List UInt8) (ddsTypeName : Str) : Option Str :=
  if ddsTypeName = "std_msgs::msg::dds_::String_".toList then
    some "RIHS01_df668c740482bbd48fb39d76a70dfd4bd59db1288021743503259e948f6b1a18".toList
  else if ddsTypeName = "example_interfaces::srv::dds_::AddTwoInts_".toList then
    some "RIHS01_e118de6bf5eeb66a2491b5bda11202e7b68f198d6f67922cf30364858239c81a".toList
  else
    (stdMsgsScalars.find? (·.1 = ddsTypeName)).map fun (_, rosName, typeId) => scalarHash sha256 rosName typeId

def senderHash (sha256 : List UInt8 → List UInt8) (ddsTypeName : Str) : Str :=
  (knownTypeHash sha256 ddsTypeName).getD placeholderHash

theorem slash_not_mem_senderHash (sha256 : List UInt8 → List UInt8) (ddsTypeName : Str) :
    '/' ∉ senderHash sha256 ddsTypeName := by
  have placeholder : '/' ∉ placeholderHash := by decide
  unfold senderHash knownTypeHash
  split
  · rw [Option.getD_some]
    decide
  · split
    · rw [Option.getD_some]
      decide
    · cases stdMsgsScalars.find? (·.1 = ddsTypeName) with
      | none => exact placeholder
      | some scalar => exact TypeDescription.slash_not_mem_rihs01 _ _

end Ros2Client
