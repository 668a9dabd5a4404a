import Ros2Client.Msggen.StringParser
import Ros2Client.Text.Fields

open Parsing

namespace Ros2Client.Msggen

structure Comment where
  text : Str
deriving DecidableEq

inductive BaseTypeName
  | primitive (name : Str)
  | boundedString (bound : UInt64)
  | complexType (packageName : Option Str) (typeName : Str)
deriving DecidableEq

inductive ArraySpecifier
  | static (size : UInt64)
  | unbounded
  | bounded (bound : UInt64)
deriving DecidableEq

structure TypeName where
  base : BaseTypeName
  arraySpec : Option ArraySpecifier
deriving DecidableEq

inductive Value (Double : Type)
  | bool (value : Bool)
  | float (value : Double)
  | int (value : Int64)
  | uint (value : UInt64)
  | string (bytes : List UInt8)
deriving DecidableEq

inductive Item (Double : Type)
  | field (typeName : TypeName) (fieldName : Str) (defaultValue : Option (Value Double))
  | constant (typeName : TypeName) (constName : Str) (value : Value Double)
deriving DecidableEq

abbrev Line (Double : Type) := Option (Item Double) × Option Comment

def primitiveNames : List Str :=
  ["bool".toList, "byte".toList, "char".toList, "float32".toList, "float64".toList, "int8".toList, "int16".toList,
    "int32".toList, "int64".toList, "uint8".toList, "uint16".toList, "uint32".toList, "uint64".toList,
    "string".toList, "wstring".toList]

def wordPart : Parser Char Str := .alt [alphanumeric1, tag "_".toList]

def identifier : Parser Char Str := wordPart.many1.recognize

/-- `u64::from_str(s).expect("bad uint")`, on digits. -/
def uintValue : Parser Char UInt64 := digit1.expect fun digits => (Text.parseUnsigned 64 digits).map .ofNat

def arraySpecifierInner : Parser Char ArraySpecifier :=
  .alt [
    ((tag "<=".toList).preceded uintValue).map .bounded,
    uintValue.map .static,
    space0.map fun _ => .unbounded]

def arraySpecifier : Parser Char ArraySpecifier := (char '[').delimited arraySpecifierInner (char ']')

def boundedString : Parser Char BaseTypeName := ((tag "string<=".toList).preceded uintValue).map .boundedString

def primitiveType : Parser Char BaseTypeName := (Parser.alt (primitiveNames.map tag)).map .primitive

def complexType : Parser Char BaseTypeName :=
  ((identifier.terminated (tag "/".toList)).opt.pair identifier).map
    fun (packageName, typeName) => .complexType packageName typeName

def baseType : Parser Char BaseTypeName := .alt [boundedString, primitiveType, complexType]

def typeSpec : Parser Char TypeName := do
  let (base, arraySpec) ← baseType.pair arraySpecifier.opt
  return ⟨base, arraySpec⟩

def digitPart : Parser Char Char := (oneOf "0123456789".toList).terminated (char '_').many0

def decimal : Parser Char Str := digitPart.many1.recognize

section

variable {Double : Type} (f64FromStr : Str → Option Double)

def exponent : Parser Char Str := do
  let _ ← oneOf "eE".toList
  let _ ← (oneOf "+-".toList).opt
  decimal

def float : Parser Char Double :=
  Parser.expect f64FromStr (.alt [
    Parser.recognize do
      let _ ← char '.'
      let _ ← decimal
      exponent.opt,
    Parser.recognize do
      let _ ← decimal
      let _ ← ((char '.').preceded decimal).opt
      exponent,
    Parser.recognize do
      let _ ← decimal
      let _ ← char '.'
      decimal.opt])

/-- `-(i as i64)`; the overflow is a panic where overflows are checked. -/
def negated (i : UInt64) : Option Int64 := if i.toInt64 = Int64.minValue then none else some (-i.toInt64)

def boolValue : Parser Char (Value Double) :=
  .alt [
    (tag "false".toList).value (.bool false),
    (tag "true".toList).value (.bool true)]

def stringValue : Parser Char (Value Double) :=
  parseString.map fun text => .string (text.flatMap String.utf8EncodeChar)

def intValue : Parser Char (Value Double) := (((tag "-".toList).preceded uintValue).expect negated).map .int

def valueSpec : Parser Char (Value Double) :=
  .alt [boolValue, (float f64FromStr).map .float, intValue, uintValue.map .uint, stringValue]

def comment : Parser Char Comment := ((tag "#".toList).pair notLineEnding).recognize.map .mk

def field : Parser Char (Item Double) := do
  let typeName ← typeSpec
  let _ ← space0
  let fieldName ← identifier
  return .field typeName fieldName none

def constant : Parser Char (Item Double) := do
  let typeName ← typeSpec
  let _ ← space0
  let constName ← identifier
  let _ ← space0
  let _ ← tag "=".toList
  let _ ← space0
  let value ← valueSpec f64FromStr
  return .constant typeName constName value

def item : Parser Char (Option (Item Double)) :=
  (space0.delimited (.alt [constant f64FromStr, field]) space0).map some

def justSpace : Parser Char (Option (Item Double)) := space0.value none

def line : Parser Char (Option (Item Double) × Option Comment) :=
  ((Parser.alt [item f64FromStr, justSpace]).pair comment.opt).terminated lineEnding

def msgSpec : Parser Char (List (Option (Item Double) × Option Comment)) := (line f64FromStr).many0

end

end Ros2Client.Msggen
