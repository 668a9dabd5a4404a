import Ros2Client.Text.Str

open Text

namespace Ros2Client

structure FieldType where
  typeId : UInt8
  capacity : UInt64
  stringCapacity : UInt64
  nestedTypeName : Str
deriving DecidableEq

def FieldType.scalar (typeId : UInt8) : FieldType := ⟨typeId, 0, 0, []⟩

structure Field where
  name : Str
  fieldType : FieldType
  defaultValue : Str
deriving DecidableEq

def Field.new (name : Str) (fieldType : FieldType) : Field := ⟨name, fieldType, []⟩

structure IndividualTypeDescription where
  typeName : Str
  fields : List Field
deriving DecidableEq

structure TypeDescription where
  typeDescription : IndividualTypeDescription
  referencedTypeDescriptions : List IndividualTypeDescription
deriving DecidableEq

def hexDigits (count number : Nat) : Str :=
  (List.range count).reverse.map fun place => Nat.digitChar (number / 16 ^ place % 16)

def unicodeEscape (unit : Nat) : Str := "\\u".toList ++ hexDigits 4 unit

def escapeChar (char : Char) : Str :=
  if char = '"' then "\\\"".toList
  else if char = '\\' then "\\\\".toList
  else if char = '\n' then "\\n".toList
  else if char = '\r' then "\\r".toList
  else if char = '\t' then "\\t".toList
  else if char.toNat = 0x08 then "\\b".toList
  else if char.toNat = 0x0c then "\\f".toList
  else if char.toNat < 0x20 then unicodeEscape char.toNat
  else if char.toNat < 0x80 then [char]
  else (encodeUtf16 char).flatMap unicodeEscape

def writeJsonString (text : Str) : Str := "\"".toList ++ text.flatMap escapeChar ++ "\"".toList

def writeFieldType (fieldType : FieldType) : Str :=
  "\x7b\"type_id\": ".toList ++ decimal fieldType.typeId.toNat ++
  ", \"capacity\": ".toList ++ decimal fieldType.capacity.toNat ++
  ", \"string_capacity\": ".toList ++ decimal fieldType.stringCapacity.toNat ++
  ", \"nested_type_name\": ".toList ++ writeJsonString fieldType.nestedTypeName ++ "\x7d".toList

/-- The text of a field; its default value does not enter the hash. -/
def writeField (field : Field) : Str :=
  "\x7b\"name\": ".toList ++ writeJsonString field.name ++
  ", \"type\": ".toList ++ writeFieldType field.fieldType ++ "\x7d".toList

def writeItd (description : IndividualTypeDescription) : Str :=
  "\x7b\"type_name\": ".toList ++ writeJsonString description.typeName ++
  ", \"fields\": [".toList ++ ", ".toList.intercalate (description.fields.map writeField) ++ "]\x7d".toList

/-- The canonical text that is hashed, with the referenced types in the order of their names. -/
def TypeDescription.hashableJson (description : TypeDescription) : Str :=
  let refs := description.referencedTypeDescriptions.mergeSort fun first second =>
    (compare first.typeName second.typeName).isLE
  "\x7b\"type_description\": ".toList ++ writeItd description.typeDescription ++
  ", \"referenced_type_descriptions\": [".toList ++ ", ".toList.intercalate (refs.map writeItd) ++ "]\x7d".toList

def asBytes (text : Str) : List UInt8 := text.flatMap String.utf8EncodeChar

def TypeDescription.rihs01 (sha256 : List UInt8 → List UInt8) (description : TypeDescription) : Str :=
  "RIHS01_".toList ++ (sha256 (asBytes description.hashableJson)).flatMap (hexDigits 2 ·.toNat)

theorem slash_not_mem_hexDigits (count number : Nat) : '/' ∉ hexDigits count number := by
  intro member
  obtain ⟨place, _, digit⟩ := List.mem_map.mp member
  have small : number / 16 ^ place % 16 < 16 := Nat.mod_lt _ (by decide)
  have none : ∀ value < 16, Nat.digitChar value ≠ '/' := by decide
  exact none _ small digit

theorem TypeDescription.slash_not_mem_rihs01 (sha256 : List UInt8 → List UInt8) (description : TypeDescription) :
    '/' ∉ description.rihs01 sha256 := by
  intro member
  rcases List.mem_append.mp member with label | digits
  · revert label
    decide
  · obtain ⟨byte, _, digit⟩ := List.mem_flatMap.mp digits
    exact slash_not_mem_hexDigits 2 byte.toNat digit

end Ros2Client
