import Ros2Client.Msggen.Floats
import Ros2Client.Msggen.Types

open Parsing

namespace Ros2Client.Msggen

variable {Double : Type}

def IsIdentifier : Str → Prop
  | [] => False
  | first :: rest =>
    first.isAlpha = true ∧ rest.all isWordChar = true ∧ first :: rest ∉ primitiveNames

instance : DecidablePred IsIdentifier
  | [] => inferInstanceAs (Decidable False)
  | _ :: _ => inferInstanceAs (Decidable (_ ∧ _ ∧ _))

def BaseTypeName.Regular : BaseTypeName → Prop
  | .primitive name => name ∈ primitiveNames
  | .boundedString _ => True
  | .complexType packageName typeName => (∀ name ∈ packageName, IsIdentifier name) ∧ IsIdentifier typeName

instance : DecidablePred BaseTypeName.Regular
  | .primitive name => inferInstanceAs (Decidable (name ∈ primitiveNames))
  | .boundedString _ => inferInstanceAs (Decidable True)
  | .complexType _ _ => inferInstanceAs (Decidable (_ ∧ _))

def Value.Regular : Value Double → Prop
  | .bool _ => True
  | .uint _ => True
  | .int value => value < 0 ∧ Int64.minValue < value
  | .float _ => False
  | .string _ => False

instance : DecidablePred (Value.Regular : Value Double → Prop)
  | .bool _ => inferInstanceAs (Decidable True)
  | .uint _ => inferInstanceAs (Decidable True)
  | .int _ => inferInstanceAs (Decidable (_ ∧ _))
  | .float _ => inferInstanceAs (Decidable False)
  | .string _ => inferInstanceAs (Decidable False)

def Item.Regular : Item Double → Prop
  | .field typeName fieldName defaultValue =>
    typeName.base.Regular ∧ IsIdentifier fieldName ∧ defaultValue = none
  | .constant typeName constName value => typeName.base.Regular ∧ IsIdentifier constName ∧ value.Regular

instance : DecidablePred (Item.Regular : Item Double → Prop)
  | .field _ _ _ => inferInstanceAs (Decidable (_ ∧ _ ∧ _))
  | .constant _ _ _ => inferInstanceAs (Decidable (_ ∧ _ ∧ _))

def Comment.Regular (comment : Comment) : Prop := comment.text.head? = some '#' ∧ '\n' ∉ comment.text

instance : DecidablePred Comment.Regular := fun _ => inferInstanceAs (Decidable (_ ∧ _))

def Line.Regular (line : Line Double) : Prop :=
  (∀ item ∈ line.1, item.Regular) ∧ ∀ comment ∈ line.2, comment.Regular

instance : DecidablePred (Line.Regular : Line Double → Prop) := fun _ => inferInstanceAs (Decidable (_ ∧ _))

def BaseTypeName.render : BaseTypeName → Str
  | .primitive name => name
  | .boundedString bound => "string<=".toList ++ Text.decimal bound.toNat
  | .complexType none typeName => typeName
  | .complexType (some packageName) typeName => packageName ++ '/' :: typeName

def ArraySpecifier.render : ArraySpecifier → Str
  | .static size => '[' :: (Text.decimal size.toNat ++ [']'])
  | .unbounded => ['[', ']']
  | .bounded bound => '[' :: '<' :: '=' :: (Text.decimal bound.toNat ++ [']'])

def TypeName.render (typeName : TypeName) : Str :=
  typeName.base.render ++ (typeName.arraySpec.map ArraySpecifier.render).getD []

/-- The values of regular constants; the others have no text here. -/
def Value.render : Value Double → Str
  | .bool false => "false".toList
  | .bool true => "true".toList
  | .uint value => Text.decimal value.toNat
  | .int value => '-' :: Text.decimal value.toInt.natAbs
  | .float _ => []
  | .string _ => []

def Item.render : Item Double → Str
  | .field typeName fieldName _ => typeName.render ++ ' ' :: fieldName
  | .constant typeName constName value => typeName.render ++ ' ' :: (constName ++ '=' :: value.render)

def Line.render (gap : Str) (line : Line Double) : Str :=
  (line.1.map Item.render).getD [] ++ (line.2.map fun comment => gap ++ comment.text).getD [] ++ ['\n']

def render (gap : Str) (lines : List (Line Double)) : Str := lines.flatMap (Line.render gap)

def BaseTypeName.leading : BaseTypeName → Option Str
  | .complexType packageName typeName => some (packageName.getD typeName)
  | _ => none

/-- The complex type does not begin like a primitive one. -/
def BaseTypeName.Distinct (base : BaseTypeName) : Prop :=
  ∀ name ∈ base.leading, ∀ word ∈ primitiveNames, ¬word <+: name

instance : DecidablePred BaseTypeName.Distinct := fun base =>
  inferInstanceAs (Decidable (∀ name ∈ base.leading, ∀ word ∈ primitiveNames, ¬word <+: name))

def Item.typeName : Item Double → TypeName
  | .field typeName _ _ => typeName
  | .constant typeName _ _ => typeName

def Line.Distinct (line : Line Double) : Prop :=
  (∀ item ∈ line.1, item.typeName.base.Distinct) ∧ ∀ comment ∈ line.2, '\r' ∉ comment.text

instance : DecidablePred (Line.Distinct : Line Double → Prop) := fun _ => inferInstanceAs (Decidable (_ ∧ _))

section Words

theorem isWordChar_of_isAlpha {letter : Char} (alpha : letter.isAlpha = true) : isWordChar letter = true := by
  simp [isWordChar, Char.isAlphanum, alpha]

theorem IsIdentifier.all {name : Str} (valid : IsIdentifier name) : ∀ letter ∈ name, isWordChar letter = true := by
  cases name with
  | nil => exact absurd valid id
  | cons first name =>
    intro letter member
    rcases List.mem_cons.mp member with rfl | later
    · exact isWordChar_of_isAlpha valid.1
    · exact List.all_eq_true.mp valid.2.1 letter later

theorem IsIdentifier.ne_nil {name : Str} (valid : IsIdentifier name) : name ≠ [] := by
  rintro rfl
  exact valid

theorem IsIdentifier.begins {name : Str} (valid : IsIdentifier name) :
    ∃ first rest, name = first :: rest ∧ first.isAlpha = true := by
  cases name with
  | nil => exact absurd valid id
  | cons first rest => exact ⟨first, rest, rfl, valid.1⟩

theorem IsIdentifier.not_primitive {name : Str} (valid : IsIdentifier name) : name ∉ primitiveNames := by
  cases name with
  | nil => exact absurd valid id
  | cons first rest => exact valid.2.2

theorem IsIdentifier.isWord {name : Str} (valid : IsIdentifier name) : IsWord name := ⟨valid.ne_nil, valid.all⟩

end Words

section Types

variable {rest : Str}

theorem uintValue_append (number : UInt64) (stops : Stops Char.isDigit rest) :
    uintValue (Text.decimal number.toNat ++ rest) = .done rest number := by
  have digits : digit1 (Text.decimal number.toNat ++ rest) = .done rest (Text.decimal number.toNat) :=
    takeWhile1_append Nat.toDigits_ne_nil (fun _ member => Text.decimal_isDigit member) stops
  have small := number.toNat_lt
  apply Parser.expect_of_done digits
  simp [Text.parseUnsigned, Text.parseDecimal_decimal, small]

/-- A decimal number begins with a digit. -/
theorem decimal_begins (number : Nat) :
    ∃ digit digits, Text.decimal number = digit :: digits ∧ digit.isDigit = true := by
  cases text : Text.decimal number with
  | nil => exact absurd text Nat.toDigits_ne_nil
  | cons digit digits => exact ⟨digit, digits, rfl, Text.decimal_isDigit (text ▸ List.mem_cons_self)⟩

theorem ArraySpecifier.render_begins (spec : ArraySpecifier) : ∃ inner, spec.render = '[' :: inner := by
  cases spec <;> exact ⟨_, rfl⟩

theorem arraySpecifier_append (spec : ArraySpecifier) (rest : Str) :
    arraySpecifier (spec.render ++ rest) = .done rest spec := by
  have bracket : Stops Char.isDigit (']' :: rest) := .cons (by decide) rest
  cases spec with
  | static size =>
    have goes : ¬Stops Char.isDigit (Text.decimal size.toNat ++ ']' :: rest) := by
      obtain ⟨digit, digits, text, isDigit⟩ := decimal_begins size.toNat
      rw [text]
      intro stops
      exact absurd (stops digit rfl) (by simp [isDigit])
    rw [ArraySpecifier.render, List.cons_append, List.append_assoc]
    exact arraySpecifier_static goes (uintValue_append size bracket)
  | unbounded =>
    have none : ∀ letter ∈ ([] : Str), isSpace letter = true := by simp
    exact arraySpecifier_unbounded none rest
  | bounded bound =>
    rw [ArraySpecifier.render, List.cons_append, List.cons_append, List.cons_append, List.append_assoc]
    exact arraySpecifier_bounded (uintValue_append bound bracket)

def EndsName (letter : Char) : Prop := letter ∈ [' ', '\t', '[', '/']

theorem EndsName.not_word {letter : Char} (ends : EndsName letter) : isWordChar letter = false := by
  have other : [' ', '\t', '[', '/'].any isWordChar = false := by decide
  simpa using List.any_eq_false.mp other letter ends

theorem EndsName.stringBound {letter : Char} (ends : EndsName letter) : letter ∉ "string<=".toList := by
  have other : [' ', '\t', '[', '/'].all (!"string<=".toList.contains ·) = true := by decide
  simpa using List.all_eq_true.mp other letter ends

theorem not_bounded_of_ends {name : Str} {next : Char} (ends : EndsName next) (member : name ∈ primitiveNames) :
    ¬BeginsBounded (name ++ next :: rest) := by
  have unbounded : ∀ word ∈ primitiveNames, ¬"string<=".toList <+: word := by decide
  rintro ⟨digit, more, begins, -⟩
  have found : "string<=".toList <+: name ++ next :: rest := begins ▸ List.prefix_append _ _
  exact unbounded name member (prefix_of_prefix_append found ends.stringBound)

theorem BaseTypeName.render_qualified (packageName typeName rest : Str) :
    (BaseTypeName.complexType (some packageName) typeName).render ++ rest =
      packageName ++ '/' :: (typeName ++ rest) := by
  change (packageName ++ '/' :: typeName) ++ rest = _
  rw [List.append_assoc, List.cons_append]

theorem BaseTypeName.render_bounded (bound : UInt64) (rest : Str) :
    (BaseTypeName.boundedString bound).render ++ rest =
      "string<=".toList ++ (Text.decimal bound.toNat ++ rest) := by
  change ("string<=".toList ++ Text.decimal bound.toNat) ++ rest = _
  rw [List.append_assoc]

theorem baseType_append {base : BaseTypeName} {next : Char} (boundary : next = ' ' ∨ next = '[')
    (regular : base.Regular) (distinct : base.Distinct) (rest : Str) :
    baseType (base.render ++ next :: rest) = .done (next :: rest) base := by
  have ends : EndsName next := by rcases boundary with rfl | rfl <;> simp [EndsName]
  have stops : Stops isWordChar (next :: rest) := .cons ends.not_word rest
  cases base with
  | primitive name => exact baseType_primitive regular (not_bounded_of_ends ends regular)
  | boundedString bound =>
    have digits : Stops Char.isDigit (next :: rest) := by
      rcases boundary with rfl | rfl <;> exact .cons (by decide) rest
    rw [BaseTypeName.render_bounded]
    exact baseType_bounded (uintValue_append bound digits)
  | complexType packageName typeName =>
    have separate := distinct _ rfl
    cases packageName with
    | none =>
      have other : (next :: rest).head? ≠ some '/' := by rcases boundary with rfl | rfl <;> simp
      exact baseType_alone regular.2.isWord separate stops other
    | some packageName =>
      rw [BaseTypeName.render_qualified]
      exact baseType_packaged (regular.1 packageName rfl).isWord separate regular.2.isWord stops

theorem typeSpec_append {typeName : TypeName} (regular : typeName.base.Regular) (distinct : typeName.base.Distinct)
    (rest : Str) :
    typeSpec (typeName.render ++ ' ' :: rest) = .done (' ' :: rest) typeName := by
  obtain ⟨base, arraySpec⟩ := typeName
  cases arraySpec with
  | none =>
    have read := baseType_append (.inl rfl) regular distinct rest
    have single : arraySpecifier (' ' :: rest) = .error :=
      Parser.delimited_of_error (satisfy_of_stops (.cons (by decide) rest))
    rw [TypeName.render, Option.map_none, Option.getD_none, List.append_nil]
    exact typeSpec_of_done read (Parser.opt_of_error single)
  | some spec =>
    obtain ⟨inner, shape⟩ := spec.render_begins
    have array := arraySpecifier_append spec (' ' :: rest)
    rw [TypeName.render, Option.map_some, Option.getD_some, List.append_assoc]
    rw [shape, List.cons_append] at array ⊢
    exact typeSpec_of_done (baseType_append (.inr rfl) regular distinct _) (Parser.opt_of_done array)

end Types

section Values

variable {rest : Str}

def EndsValue (rest : Str) : Prop := ∀ letter ∈ rest.head?, letter ∈ [' ', '\t', '#', '\r', '\n']

theorem EndsValue.stops (ends : EndsValue rest) {kind : Char → Bool}
    (other : [' ', '\t', '#', '\r', '\n'].any kind = false) : Stops kind rest := by
  intro letter head
  simpa using List.any_eq_false.mp other letter (ends letter head)

theorem char_of_ends (ends : EndsValue rest) {letter : Char} (other : letter ∉ [' ', '\t', '#', '\r', '\n']) :
    char letter rest = .error := by
  apply satisfy_of_stops
  apply ends.stops
  rw [List.any_eq_false]
  intro next member
  rw [decide_eq_true_eq]
  rintro rfl
  exact other member

/-- Digits alone are no floating-point number. -/
theorem float_digits {f64FromStr : Str → Option Double} {digits : Str} (number : IsDecimal digits)
    (ends : EndsValue rest) : float f64FromStr (digits ++ rest) = .error := by
  have read := number.read_until (ends.stops (by decide))
  have point : char '.' rest = .error := char_of_ends ends (by decide)
  have noExponent : exponent rest = .error := Parser.bind_of_error (satisfy_of_stops (ends.stops (by decide)))
  have noScientific : scientificForm (digits ++ rest) = .error := by
    rw [scientificForm, Parser.bind_of_done read,
      Parser.bind_of_done (Parser.opt_of_error (Parser.preceded_of_error point)), noExponent]
  have noPoint : pointForm (digits ++ rest) = .error := by
    rw [pointForm, Parser.bind_of_done read, Parser.bind_of_error point]
  apply Parser.expect_of_error
  change floatText (digits ++ rest) = .error
  rw [floatText, Parser.alt_of_error (Parser.recognize_of_error (number.noFraction rest)),
    Parser.alt_of_error (Parser.recognize_of_error noScientific),
    Parser.alt_of_error (Parser.recognize_of_error noPoint), Parser.alt_nil]

/-- The magnitude of a negative number, read as unsigned and negated. -/
theorem negated_natAbs {value : Int64} (negative : value < 0) (proper : Int64.minValue < value) :
    negated (.ofNat value.toInt.natAbs) = some value := by
  have below : value.toInt < 0 := Int64.lt_iff_toInt_lt.mp negative
  have above : -9223372036854775808 < value.toInt := Int64.lt_iff_toInt_lt.mp proper
  have cast : (UInt64.ofNat value.toInt.natAbs).toInt64 = Int64.ofNat value.toInt.natAbs := rfl
  have magnitude : (Int64.ofNat value.toInt.natAbs).toInt = -value.toInt := by
    rw [Int64.toInt_ofNat_of_lt (by omega)]
    omega
  have fits : Int64.ofNat value.toInt.natAbs ≠ Int64.minValue := by
    intro same
    have number : -value.toInt = -9223372036854775808 := by rw [← magnitude, same]; rfl
    omega
  have back : -(value.toInt.natAbs : Int) = value.toInt := by omega
  rw [negated, cast, if_neg fits, Int64.neg_ofNat, back, Int64.ofInt_toInt]

theorem valueSpec_uint {f64FromStr : Str → Option Double} (value : UInt64) (ends : EndsValue rest) :
    valueSpec f64FromStr (Text.decimal value.toNat ++ rest) = .done rest (.uint value) := by
  obtain ⟨digit, digits, text, isDigit⟩ := decimal_begins value.toNat
  have other : ∀ letter : Char, letter.isDigit = false → letter ≠ digit := by
    rintro letter outside rfl
    rw [isDigit] at outside
    cases outside
  have noBool : (boolValue : Parser Char (Value Double)) (Text.decimal value.toNat ++ rest) = .error := by
    rw [text]
    exact boolValue_of_head (other 'f' (by decide)) (other 't' (by decide))
  have noFloat : float f64FromStr (Text.decimal value.toNat ++ rest) = .error :=
    float_digits (.of_digits Nat.toDigits_ne_nil fun _ member => Text.decimal_isDigit member) ends
  have noMinus : tag "-".toList (Text.decimal value.toNat ++ rest) = .error := by
    rw [text]
    exact tag_of_head (other '-' (by decide))
  have noInt : (intValue : Parser Char (Value Double)) (Text.decimal value.toNat ++ rest) = .error :=
    Parser.map_of_error _ (Parser.expect_of_error (Parser.preceded_of_error noMinus))
  rw [valueSpec, Parser.alt_of_error noBool, Parser.alt_of_error (Parser.map_of_error _ noFloat),
    Parser.alt_of_error noInt]
  exact Parser.alt_of_done (Parser.map_of_done _ (uintValue_append value (ends.stops (by decide))))

theorem valueSpec_int {f64FromStr : Str → Option Double} {value : Int64} (negative : value < 0)
    (proper : Int64.minValue < value) (ends : EndsValue rest) :
    valueSpec f64FromStr ('-' :: (Text.decimal value.toInt.natAbs ++ rest)) = .done rest (.int value) := by
  have above : -9223372036854775808 < value.toInt := Int64.lt_iff_toInt_lt.mp proper
  have below := value.toInt_lt
  have fits : value.toInt.natAbs < 2 ^ 64 := by omega
  have size : (UInt64.ofNat value.toInt.natAbs).toNat = value.toInt.natAbs := UInt64.toNat_ofNat_of_lt' fits
  have magnitude := uintValue_append (.ofNat value.toInt.natAbs) (ends.stops (by decide))
  rw [size] at magnitude
  have read : (intValue : Parser Char (Value Double)) ('-' :: (Text.decimal value.toInt.natAbs ++ rest)) =
      .done rest (.int value) :=
    Parser.map_of_done _ (Parser.expect_of_done (Parser.preceded_of_done (tag_append ['-'] _) magnitude)
      (negated_natAbs negative proper))
  rw [valueSpec, Parser.alt_of_error (boolValue_of_head (by decide) (by decide)),
    Parser.alt_of_error (Parser.map_of_error _ float_minus)]
  exact Parser.alt_of_done read

theorem valueSpec_append {f64FromStr : Str → Option Double} {value : Value Double} (regular : value.Regular)
    (ends : EndsValue rest) : valueSpec f64FromStr (value.render ++ rest) = .done rest value := by
  cases value with
  | bool truth =>
    cases truth with
    | false => exact Parser.alt_of_done (Parser.alt_of_done (Parser.value_of_done _ (tag_append _ rest)))
    | true =>
      have other : tag "false".toList ("true".toList ++ rest) = .error := tag_of_head (by decide)
      have read : (boolValue : Parser Char (Value Double)) ("true".toList ++ rest) = .done rest (.bool true) := by
        rw [boolValue, Parser.alt_of_error (Parser.value_of_error _ other)]
        exact Parser.alt_of_done (Parser.value_of_done _ (tag_append _ rest))
      exact Parser.alt_of_done read
  | uint value => exact valueSpec_uint value ends
  | int value => exact valueSpec_int regular.1 regular.2 ends
  | float value => exact absurd regular id
  | string bytes => exact absurd regular id

end Values

end Ros2Client.Msggen
