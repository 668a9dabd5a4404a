import Ros2Client.Text.Str

namespace Ros2Client

/-- An `f64` by its bits. -/
structure F64 where
  bits : UInt64
deriving DecidableEq

inductive ParameterValue
  | notSet
  | boolean (value : Bool)
  | integer (value : Int64)
  | double (value : F64)
  | string (value : Str)
  | byteArray (value : List UInt8)
  | booleanArray (value : List Bool)
  | integerArray (value : List Int64)
  | doubleArray (value : List F64)
  | stringArray (value : List Str)
deriving DecidableEq

structure Parameter where
  name : Str
  value : ParameterValue
deriving DecidableEq

inductive ParameterType
  | notSet
  | bool
  | integer
  | double
  | string
  | byteArray
  | boolArray
  | integerArray
  | doubleArray
  | stringArray
deriving DecidableEq

def ParameterValue.toParameterType : ParameterValue → ParameterType
  | .notSet => .notSet
  | .boolean _ => .bool
  | .integer _ => .integer
  | .double _ => .double
  | .string _ => .string
  | .byteArray _ => .byteArray
  | .booleanArray _ => .boolArray
  | .integerArray _ => .integerArray
  | .doubleArray _ => .doubleArray
  | .stringArray _ => .stringArray

def ParameterType.code : ParameterType → UInt8
  | .notSet => 0
  | .bool => 1
  | .integer => 2
  | .double => 3
  | .string => 4
  | .byteArray => 5
  | .boolArray => 6
  | .integerArray => 7
  | .doubleArray => 8
  | .stringArray => 9

inductive NumericRange
  | notSpecified
  | integerRange (fromValue toValue step : Int64)
  | floatingPointRange (fromValue toValue step : F64)
deriving DecidableEq

structure ParameterDescriptor where
  name : Str
  paramType : ParameterType
  description : Str
  additionalConstraints : Str
  readOnly : Bool
  dynamicTyping : Bool
  range : NumericRange
deriving DecidableEq

def ParameterDescriptor.unknown (name : Str) : ParameterDescriptor where
  name := name
  paramType := .notSet
  description := "unknown parameter".toList
  additionalConstraints := []
  readOnly := true
  dynamicTyping := false
  range := .notSpecified

def ParameterDescriptor.fromValue (name : Str) (value : ParameterValue) : ParameterDescriptor where
  name := name
  paramType := value.toParameterType
  description := "(description missing, not implemented)".toList
  additionalConstraints := []
  readOnly := false
  dynamicTyping := false
  range := .notSpecified

namespace Raw

def ParameterType.notSet : UInt8 := 0

def ParameterType.bool : UInt8 := 1

def ParameterType.integer : UInt8 := 2

def ParameterType.double : UInt8 := 3

def ParameterType.string : UInt8 := 4

def ParameterType.byteArray : UInt8 := 5

def ParameterType.boolArray : UInt8 := 6

def ParameterType.integerArray : UInt8 := 7

def ParameterType.doubleArray : UInt8 := 8

def ParameterType.stringArray : UInt8 := 9

structure ParameterValue where
  ptype : UInt8
  booleanValue : Bool
  intValue : Int64
  doubleValue : F64
  stringValue : Str
  byteArray : List UInt8
  boolArray : List Bool
  intArray : List Int64
  doubleArray : List F64
  stringArray : List Str
deriving DecidableEq

structure Parameter where
  name : Str
  value : ParameterValue
deriving DecidableEq

structure SetParametersResult where
  successful : Bool
  reason : Str
deriving DecidableEq

structure IntegerRange where
  fromValue : Int64
  toValue : Int64
  step : Int64
deriving DecidableEq

structure FloatingPointRange where
  fromValue : F64
  toValue : F64
  step : F64
deriving DecidableEq

structure ParameterDescriptor where
  name : Str
  type : UInt8
  description : Str
  additionalConstraints : Str
  readOnly : Bool
  dynamicTyping : Bool
  floatingPointRange : List FloatingPointRange
  integerRange : List IntegerRange
deriving DecidableEq

end Raw

def ParameterDescriptor.toRaw (p : ParameterDescriptor) : Raw.ParameterDescriptor where
  name := p.name
  type := p.paramType.code
  description := p.description
  additionalConstraints := p.additionalConstraints
  readOnly := p.readOnly
  dynamicTyping := p.dynamicTyping
  floatingPointRange :=
    match p.range with
    | .floatingPointRange fromValue toValue step => [⟨fromValue, toValue, step⟩]
    | _ => []
  integerRange :=
    match p.range with
    | .integerRange fromValue toValue step => [⟨fromValue, toValue, step⟩]
    | _ => []

def ParameterValue.ofRaw (rpv : Raw.ParameterValue) : ParameterValue :=
  if rpv.ptype = Raw.ParameterType.notSet then .notSet
  else if rpv.ptype = Raw.ParameterType.bool then .boolean rpv.booleanValue
  else if rpv.ptype = Raw.ParameterType.integer then .integer rpv.intValue
  else if rpv.ptype = Raw.ParameterType.double then .double rpv.doubleValue
  else if rpv.ptype = Raw.ParameterType.string then .string rpv.stringValue
  else if rpv.ptype = Raw.ParameterType.byteArray then .byteArray rpv.byteArray
  else if rpv.ptype = Raw.ParameterType.boolArray then .booleanArray rpv.boolArray
  else if rpv.ptype = Raw.ParameterType.integerArray then .integerArray rpv.intArray
  else if rpv.ptype = Raw.ParameterType.doubleArray then .doubleArray rpv.doubleArray
  else if rpv.ptype = Raw.ParameterType.stringArray then .stringArray rpv.stringArray
  else .notSet

def Parameter.ofRaw (rp : Raw.Parameter) : Parameter := ⟨rp.name, .ofRaw rp.value⟩

def Raw.ParameterValue.blank : Raw.ParameterValue where
  ptype := ParameterType.notSet
  booleanValue := false
  intValue := 0
  doubleValue := ⟨0⟩
  stringValue := []
  byteArray := []
  boolArray := []
  intArray := []
  doubleArray := []
  stringArray := []

def ParameterValue.toRaw : ParameterValue → Raw.ParameterValue
  | .notSet => .blank
  | .boolean value => { Raw.ParameterValue.blank with ptype := Raw.ParameterType.bool, booleanValue := value }
  | .integer value => { Raw.ParameterValue.blank with ptype := Raw.ParameterType.integer, intValue := value }
  | .double value => { Raw.ParameterValue.blank with ptype := Raw.ParameterType.double, doubleValue := value }
  | .string value => { Raw.ParameterValue.blank with ptype := Raw.ParameterType.string, stringValue := value }
  | .byteArray value => { Raw.ParameterValue.blank with ptype := Raw.ParameterType.byteArray, byteArray := value }
  | .booleanArray value => { Raw.ParameterValue.blank with ptype := Raw.ParameterType.boolArray, boolArray := value }
  | .integerArray value => { Raw.ParameterValue.blank with ptype := Raw.ParameterType.integerArray, intArray := value }
  | .doubleArray value => { Raw.ParameterValue.blank with ptype := Raw.ParameterType.doubleArray, doubleArray := value }
  | .stringArray value => { Raw.ParameterValue.blank with ptype := Raw.ParameterType.stringArray, stringArray := value }

def Raw.SetParametersResult.of : Except Str Unit → Raw.SetParametersResult
  | .ok () => ⟨true, []⟩
  | .error reason => ⟨false, reason⟩

@[simp] theorem ParameterValue.ofRaw_toRaw (value : ParameterValue) : ofRaw value.toRaw = value := by
  cases value <;> rfl

/-- The type code of a value is the one that stands in its wire form. -/
theorem ParameterValue.toRaw_ptype (value : ParameterValue) : value.toRaw.ptype = value.toParameterType.code := by
  cases value <;> rfl

end Ros2Client
