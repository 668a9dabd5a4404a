import Ros2Client.Msggen.Heads

open Parsing

namespace Ros2Client.Msggen

variable {Double : Type} {f64FromStr : Str → Option Double}

def rustBytestring : Str := "String".toList

def rustWideString : Str := "WString".toList

def rustPrimitives : List (Str × Str) :=
  [("bool".toList, "bool".toList), ("byte".toList, "u8".toList), ("char".toList, "u8".toList),
    ("float32".toList, "f32".toList), ("float64".toList, "f64".toList), ("int8".toList, "i8".toList),
    ("int16".toList, "i16".toList), ("int32".toList, "i32".toList), ("int64".toList, "i64".toList),
    ("uint8".toList, "u8".toList), ("uint16".toList, "u16".toList), ("uint32".toList, "u32".toList),
    ("uint64".toList, "u64".toList), ("string".toList, rustBytestring), ("wstring".toList, rustWideString)]

def escapeKeywords (id : Str) : Str := if id = "type".toList then "r#".toList ++ id else id

def translateBase : BaseTypeName → Option Str
  | .primitive name => rustPrimitives.lookup name
  | .boundedString _ => some rustBytestring
  | .complexType none typeName => some typeName
  | .complexType (some packageName) typeName => some ("super::".toList ++ packageName ++ "::".toList ++ typeName)

def translateType (t : TypeName) : Option Str := do
  let base ← translateBase t.base
  match t.arraySpec with
  | none => return base
  | some (.static size) => return "[".toList ++ base ++ ";".toList ++ Text.decimal size.toNat ++ "]".toList
  | some .unbounded | some (.bounded _) => return "Vec<".toList ++ base ++ ">".toList

section Printing

variable (showF64 : Double → Str)

/-- The text of a value, for a given way to display a double; a string has to be UTF-8. -/
def translateValue : Value Double → Option Str
  | .bool true => some "true".toList
  | .bool false => some "false".toList
  | .float f => some (showF64 f)
  | .int i => some (if i < 0 then '-' :: Text.decimal i.toInt.natAbs else Text.decimal i.toInt.natAbs)
  | .uint u => some (Text.decimal u.toNat)
  | .string v => (String.fromUTF8? ⟨v.toArray⟩).map String.toList

def isNotField : Item Double → Bool
  | .field _ _ _ => false
  | .constant _ _ _ => true

def notYet (lines : List (Line Double)) : List (Line Double) := lines.takeWhile (·.1.all isNotField)

def gotField (lines : List (Line Double)) : List (Line Double) := lines.dropWhile (·.1.all isNotField)

def writeComment : Option Comment → Str
  | some comment => "// ".toList ++ comment.text ++ "\n".toList
  | none => "\n".toList

/-- A line in front of the first field; there a field is a panic. -/
def writeConstant : Line Double → Option Str
  | (none, comment) => some (writeComment comment)
  | (some (.field _ _ _), _) => none
  | (some (.constant typeName constName value), comment) => do
    let rustType ← translateType typeName
    let rustValue ← translateValue showF64 value
    return "pub const ".toList ++ constName ++ " : ".toList ++ rustType ++ " = ".toList ++ rustValue ++ ";".toList ++
      writeComment comment

def writeField : Line Double → Option Str
  | (none, none) => some (writeComment none)
  | (none, some comment) => some ("  ".toList ++ writeComment (some comment))
  | (some (.field typeName fieldName _), comment) => do
    let rustType ← translateType typeName
    return "  pub ".toList ++ (escapeKeywords fieldName ++ " : ".toList ++ rustType ++ ", ".toList) ++
      writeComment comment
  | (some (.constant _ constName _), comment) =>
    some ("  pub ".toList ++ ("// skipped constant ".toList ++ constName ++ " in the middle of struct".toList) ++
      writeComment comment)

def writeLines {σ : Type} (write : Line Double → Option (List σ)) : List (Line Double) → Option (List σ)
  | [] => some []
  | line :: lines => do
    let text ← write line
    let rest ← writeLines write lines
    return text ++ rest

def printStructDefinition (name : Str) (lines : List (Line Double)) : Option Str := do
  let constants ← writeLines (writeConstant showF64) (notYet lines)
  let fields ← writeLines writeField (gotField lines)
  return constants ++ ("\n".toList ++ ("#[derive(Debug, Serialize, Deserialize)]\n".toList ++
    ("pub struct ".toList ++ name ++ " \x7b\n".toList ++ (fields ++ "\x7d\n".toList))))

end Printing

end Ros2Client.Msggen
