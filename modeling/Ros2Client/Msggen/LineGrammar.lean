import Ros2Client.Msggen.Heads
import Ros2Client.Msggen.RoundTrip
import Ros2Client.Msggen.StringGrammar

open Parsing

namespace Ros2Client.Msggen

variable {Double : Type}

def Blank (text : Str) : Prop := ∀ letter ∈ text, isSpace letter = true

/-- `package_name/typename` or `typename`, and the identifier it begins with. -/
inductive ComplexText : Str → Str → Prop
  | alone {name : Str} : IsIdentifier name → ComplexText name name
  | packaged {package name : Str} : IsIdentifier package → IsIdentifier name →
      ComplexText (package ++ '/' :: name) package

inductive TypeText : Str → Prop
  | primitive {name : Str} : name ∈ primitiveNames → TypeText name
  | boundedString {digits : Str} : IsBound digits → TypeText ("string<=".toList ++ digits)
  | complexType {text leading : Str} : ComplexText text leading → TypeText text

/-- A well-formed value. What an `i64` or a `u64` has to hold of it fits. -/
inductive ValueForm : Str → Prop
  | bool {text : Str} : text = "false".toList ∨ text = "true".toList → ValueForm text
  | uint {digits : Str} : IsBound digits → ValueForm digits
  | int {digits : Str} : IsBound digits → leadingNumber digits < 2 ^ 63 → ValueForm ('-' :: digits)
  | float {number : Str} : FloatText number → '_' ∉ number → ValueForm number
  | negativeFloat {number : Str} : FloatText number → '_' ∉ number → leadingNumber number < 2 ^ 63 →
      ValueForm ('-' :: number)
  | string {body string : Str} : Spells body string → '\n' ∉ body → ValueForm ('"' :: (body ++ ['"']))

inductive Declaration : Str → Str → Prop
  | intro {base array blanks name : Str} : TypeText base → array = [] ∨ ArrayText array → blanks ≠ [] →
      Blank blanks → IsIdentifier name → Declaration base (base ++ (array ++ (blanks ++ name)))

inductive ItemText : Str → Prop
  | field {base head : Str} : Declaration base head → ItemText head
  | defaultValue {base head blanks value : Str} : Declaration base head → blanks ≠ [] → Blank blanks →
      ValueForm value → ItemText (head ++ (blanks ++ value))
  | constant {base head blanks blanks' value : Str} : Declaration base head → Blank blanks → Blank blanks' →
      ValueForm value → ItemText (head ++ (blanks ++ '=' :: (blanks' ++ value)))

/-- An item whose type begins like a primitive one, that has a default value, or a negative floating-point number. -/
inductive MisreadItem : Str → Prop
  | typeName {base head leading word item : Str} : Declaration base head → ComplexText base leading →
      word ∈ primitiveNames → word <+: leading → head <+: item → MisreadItem item
  | defaultValue {base head blanks value : Str} : Declaration base head → blanks ≠ [] → Blank blanks →
      ValueForm value → MisreadItem (head ++ (blanks ++ value))
  | negativeFloat {base head blanks blanks' number : Str} : Declaration base head → Blank blanks → Blank blanks' →
      FloatText number → '_' ∉ number → leadingNumber number < 2 ^ 63 →
      MisreadItem (head ++ (blanks ++ '=' :: (blanks' ++ '-' :: number)))

structure LineText (content item comment : Str) : Prop where
  parts : ∃ before after, Blank before ∧ Blank after ∧ content = before ++ (item ++ (after ++ comment))
  itemText : item = [] ∨ ItemText item
  marked : comment = [] ∨ comment.head? = some '#'
  unbroken : '\n' ∉ comment

def WellFormed (content : Str) : Prop := ∃ item comment, LineText content item comment

/-- A well-formed line with a misread item, or a carriage return in its comment. -/
def Misread (content : Str) : Prop :=
  ∃ item comment, LineText content item comment ∧ (MisreadItem item ∨ '\r' ∈ comment)

/-- A carriage return in front of a newline belongs to the line ending. -/
def EndsLine (content ending : Str) : Prop := ending = ['\r', '\n'] ∨ ending = ['\n'] ∧ content.getLast? ≠ some '\r'

def LineEnds (content tail : Str) : Prop := tail = [] ∨ ∃ ending rest, tail = ending ++ rest ∧ EndsLine content ending

inductive WellFormedText : Str → Prop
  | last {content : Str} : WellFormed content → WellFormedText content
  | line {content ending rest : Str} : WellFormed content → EndsLine content ending → WellFormedText rest →
      WellFormedText (content ++ (ending ++ rest))

/-- What is read as a value; the numbers from `2 ^ 63` on wrap. -/
inductive ReadableValue : Str → Prop
  | bool {text : Str} : text = "false".toList ∨ text = "true".toList → ReadableValue text
  | float {number : Str} : FloatText number → '_' ∉ number → ReadableValue number
  | int {digits : Str} : IsBound digits → leadingNumber digits ≠ 2 ^ 63 → ReadableValue ('-' :: digits)
  | uint {digits : Str} : IsBound digits → ReadableValue digits
  | string {body string : Str} : Spells body string → ReadableValue ('"' :: (body ++ ['"']))

inductive ReadableItem : Str → Str → Prop
  | field {base array blanks name behind : Str} : BaseText base (array ++ (blanks ++ (name ++ behind))) →
      array = [] ∨ ArrayText array → Blank blanks → IsWord name →
      ReadableItem (base ++ (array ++ (blanks ++ name))) behind
  | constant {item value behind : Str} : ValueText (item ++ behind) (value ++ behind) → ReadableValue value →
      ReadableItem item behind

def ReadableComment (comment : Str) : Prop :=
  comment = [] ∨ ∃ words, comment = '#' :: words ∧ ∀ letter ∈ words, isBreak letter = false

inductive ReadableLine : Str → Prop
  | blank {blanks comment : Str} : Blank blanks → ReadableComment comment → ReadableLine (blanks ++ comment)
  | item {before item after comment : Str} : Blank before → ReadableItem item (after ++ comment) → Blank after →
      ReadableComment comment → ReadableLine (before ++ (item ++ (after ++ comment)))

inductive ReadableLines : Str → Prop
  | nil : ReadableLines []
  | line {content ending rest : Str} : ReadableLine content → ending = ['\n'] ∨ ending = ['\r', '\n'] →
      ReadableLines rest → ReadableLines (content ++ (ending ++ rest))

section Texts

variable {base text leading head number value item comment content rest behind : Str}

theorem Blank.append (blank : Blank text) (blank' : Blank rest) : Blank (text ++ rest) := by
  intro letter member
  rcases List.mem_append.mp member with member | member
  · exact blank letter member
  · exact blank' letter member

theorem leadingNumber_of_bound (bound : IsBound text) : leadingNumber text = Nat.ofDigitChars 10 text 0 := by
  rw [leadingNumber, List.takeWhile_eq_self_iff.mpr bound.2.1]

theorem not_mem_of_alpha {letter : Char} (alpha : letter.isAlpha = true) : letter ∉ ['=', '#', '\r', '\n'] := by
  have others : ['=', '#', '\r', '\n'].any Char.isAlpha = false := by decide
  intro member
  exact List.any_eq_false.mp others letter member alpha

theorem ComplexText.leading_identifier (given : ComplexText text leading) : IsIdentifier leading := by
  cases given with
  | alone valid => exact valid
  | packaged valid _ => exact valid

/-- What stands behind a type is an array specifier or a blank. -/
theorem array_ends {array blanks : Str} (parts : array = [] ∨ ArrayText array) (present : blanks ≠ [])
    (blank : Blank blanks) (rest : Str) :
    ∃ letter tail, array ++ (blanks ++ rest) = letter :: tail ∧ letter ∈ [' ', '\t', '['] := by
  rcases parts with rfl | given
  · obtain ⟨letter, more, rfl⟩ := List.exists_cons_of_ne_nil present
    have space := blank letter (by simp)
    rw [isSpace, Bool.or_eq_true, decide_eq_true_eq, decide_eq_true_eq] at space
    refine ⟨letter, more ++ rest, rfl, ?_⟩
    rcases space with rfl | rfl <;> decide
  · obtain ⟨inner, rfl⟩ := given.begins
    exact ⟨'[', _, rfl, by decide⟩

theorem TypeText.baseText (given : TypeText base)
    (distinct : ∀ leading, ComplexText base leading → ∀ word ∈ primitiveNames, ¬word <+: leading) {letter : Char}
    (ends : letter ∈ [' ', '\t', '[']) (rest : Str) : BaseText base (letter :: rest) := by
  have others : [' ', '\t', '['].all (fun letter => !letter.isDigit && !isWordChar letter && letter ≠ '/') = true := by
    decide
  have other := List.all_eq_true.mp others letter ends
  simp only [Bool.and_eq_true, Bool.not_eq_true', decide_eq_true_eq] at other
  obtain ⟨⟨noDigit, noWord⟩, noSlash⟩ := other
  have endsName : EndsName letter := by
    rw [EndsName]
    simp only [List.mem_cons, List.not_mem_nil, or_false] at ends ⊢
    rcases ends with rfl | rfl | rfl <;> simp
  have stops : Stops isWordChar (letter :: rest) := .cons noWord rest
  cases given with
  | primitive member => exact .primitive member (not_bounded_of_ends endsName member)
  | boundedString bound => exact .boundedString bound (.cons noDigit rest)
  | complexType given =>
    cases given with
    | alone valid => exact .complexType valid.isWord (distinct _ (.alone valid)) stops (by simpa using noSlash)
    | packaged valid valid' => exact .packaged valid.isWord (distinct _ (.packaged valid valid')) valid'.isWord stops

theorem ValueForm.readable_or (given : ValueForm value) : ReadableValue value ∨
    ∃ number, value = '-' :: number ∧ FloatText number ∧ '_' ∉ number ∧ leadingNumber number < 2 ^ 63 := by
  cases given with
  | bool named => exact .inl (.bool named)
  | uint bound => exact .inl (.uint bound)
  | int bound fits => exact .inl (.int bound fits.ne)
  | float number plain => exact .inl (.float number plain)
  | negativeFloat number plain fits => exact .inr ⟨_, rfl, number, plain, fits⟩
  | string spelled unbroken => exact .inl (.string spelled)

theorem ReadableValue.begins (given : ReadableValue value) : ∃ letter more, value = letter :: more ∧
    (letter ∈ ['f', 't', '.', '-', '"'] ∨ letter.isDigit = true) := by
  have digits : ∀ {text}, IsBound text → ∃ letter more, text = letter :: more ∧ letter.isDigit = true := by
    intro text bound
    obtain ⟨letter, more, rfl⟩ := List.exists_cons_of_ne_nil bound.1
    exact ⟨letter, more, rfl, bound.2.1 letter (by simp)⟩
  cases given with
  | bool named => rcases named with rfl | rfl <;> exact ⟨_, _, rfl, .inl (by decide)⟩
  | float number plain =>
    obtain ⟨letter, more, rfl, begins⟩ := number.begins
    exact ⟨letter, more, rfl, begins.imp_left fun point => by simp [point]⟩
  | int bound fits => exact ⟨'-', _, rfl, .inl (by decide)⟩
  | uint bound =>
    obtain ⟨letter, more, rfl, isDigit⟩ := digits bound
    exact ⟨letter, more, rfl, .inr isDigit⟩
  | string spelled => exact ⟨'"', _, rfl, .inl (by decide)⟩

/-- A value begins with none of the letters that end what stands in front of it. -/
theorem ValueForm.begins (given : ValueForm value) : ∃ letter more, value = letter :: more ∧
    isSpace letter = false ∧ letter ∉ ['=', '#', '\r', '\n'] := by
  have begins : ∃ letter more, value = letter :: more ∧
      (letter ∈ ['f', 't', '.', '-', '"'] ∨ letter.isDigit = true) := by
    rcases given.readable_or with readable | ⟨number, rfl, -⟩
    · exact readable.begins
    · exact ⟨'-', number, rfl, .inl (by decide)⟩
  obtain ⟨letter, more, rfl, begins⟩ := begins
  refine ⟨letter, more, rfl, ?_⟩
  rcases begins with member | isDigit
  · have others : ['f', 't', '.', '-', '"'].all (fun letter => !isSpace letter &&
        !(['=', '#', '\r', '\n'].contains letter)) = true := by decide
    simpa using List.all_eq_true.mp others letter member
  · have others : ['=', '#', '\r', '\n'].any Char.isDigit = false := by decide
    refine ⟨not_space_of_word (by simp [isWordChar, Char.isAlphanum, isDigit]), fun member => ?_⟩
    exact List.any_eq_false.mp others letter member isDigit

theorem swallowed_or (base : Str) :
    (∃ leading, ComplexText base leading ∧ ∃ word ∈ primitiveNames, word <+: leading) ∨
      ∀ leading, ComplexText base leading → ∀ word ∈ primitiveNames, ¬word <+: leading := by
  by_cases swallowed : ∃ leading, ComplexText base leading ∧ ∃ word ∈ primitiveNames, word <+: leading
  · exact .inl swallowed
  · refine .inr fun leading complex word member found => swallowed ?_
    exact ⟨leading, complex, word, member, found⟩

theorem Declaration.valueText (given : Declaration base head)
    (distinct : ∀ leading, ComplexText base leading → ∀ word ∈ primitiveNames, ¬word <+: leading) {blanks blanks' : Str}
    (blank : Blank blanks) (blank' : Blank blanks') (stops : Stops isSpace value) :
    ValueText (head ++ (blanks ++ '=' :: (blanks' ++ value))) value := by
  obtain ⟨typed, parts, present, gap, valid⟩ := given
  obtain ⟨letter, tail, same, member⟩ := array_ends parts present gap _
  have text := ValueText.intro (same ▸ typed.baseText distinct member tail) parts gap valid.isWord blank blank' stops
  simpa using text

/-- An item that is not misread is read, whatever may stand behind a value. -/
theorem ItemText.readable_or (given : ItemText item) :
    MisreadItem item ∨ ∀ behind, EndsValue behind → ReadableItem item behind := by
  have declared : ∀ {base head : Str}, Declaration base head → head <+: item → MisreadItem item ∨
      ∀ leading, ComplexText base leading → ∀ word ∈ primitiveNames, ¬word <+: leading := by
    intro base head given begins
    rcases swallowed_or base with swallowed | distinct
    · obtain ⟨leading, complex, word, member, found⟩ := swallowed
      exact .inl (.typeName given complex member found begins)
    · exact .inr distinct
  cases given with
  | field given =>
    refine (declared given List.prefix_rfl).imp_right fun distinct behind ends => ?_
    obtain ⟨typed, parts, present, blank, valid⟩ := given
    refine .field ?_ parts blank valid.isWord
    obtain ⟨letter, tail, same, member⟩ := array_ends parts present blank _
    rw [same]
    exact typed.baseText distinct member tail
  | defaultValue given present blank valued => exact .inl (.defaultValue given present blank valued)
  | @constant _ _ _ _ value given blank blank' valued =>
    rcases valued.readable_or with readable | ⟨number, rfl, float, plain, fits⟩
    · refine (declared given (List.prefix_append _ _)).imp_right fun distinct behind ends => ?_
      have stops : Stops isSpace (value ++ behind) := by
        obtain ⟨letter, more, rfl, noSpace, -⟩ := valued.begins
        exact .cons noSpace _
      exact .constant (by simpa using given.valueText distinct blank blank' stops) readable
    · exact .inl (.negativeFloat given blank blank' float plain fits)

theorem readableComment (given : comment = [] ∨ comment.head? = some '#') (plain : '\r' ∉ comment)
    (unbroken : '\n' ∉ comment) : ReadableComment comment := by
  refine given.imp_right fun begins => ?_
  obtain ⟨words, rfl⟩ := List.head?_eq_some_iff.mp begins
  refine ⟨words, rfl, fun letter member => ?_⟩
  rw [isBreak, Bool.or_eq_false_iff, decide_eq_false_iff_not, decide_eq_false_iff_not]
  constructor
  · intro same
    exact plain (same ▸ List.mem_cons_of_mem _ member)
  · intro same
    exact unbroken (same ▸ List.mem_cons_of_mem _ member)

theorem endsItem_of_mark (given : comment = [] ∨ comment.head? = some '#') : EndsItem comment := by
  intro letter head
  rcases given with rfl | begins
  · cases head
  · rw [begins] at head
    cases head
    decide

theorem WellFormed.readable_or (given : WellFormed content) : Misread content ∨ ReadableLine content := by
  obtain ⟨item, comment, line⟩ := given
  obtain ⟨before, after, blank, blank', same⟩ := line.parts
  by_cases plain : '\r' ∉ comment
  · have commented := readableComment line.marked plain line.unbroken
    rcases line.itemText with rfl | given
    · rw [same, List.nil_append, ← List.append_assoc]
      exact .inr (.blank (blank.append blank') commented)
    · rcases given.readable_or with misread | readable
      · exact .inl ⟨item, comment, line, .inl misread⟩
      · have ends : EndsValue (after ++ comment) := (endsItem_of_mark line.marked).endsValue blank'
        rw [same]
        exact .inr (.item blank (readable _ ends) blank' commented)
  · exact .inl ⟨item, comment, line, .inr (not_not.mp plain)⟩

end Texts

section Printed

theorem isBound_decimal (number : UInt64) : IsBound (Text.decimal number.toNat) :=
  ⟨Nat.toDigits_ne_nil, fun _ member => Text.decimal_isDigit member,
    Nat.ofDigitChars_ten_toDigits.trans_lt number.toNat_lt⟩

theorem typeText_render {base : BaseTypeName} (regular : base.Regular) : TypeText base.render := by
  cases base with
  | primitive name => exact .primitive regular
  | boundedString bound => exact .boundedString (isBound_decimal bound)
  | complexType packageName typeName =>
    cases packageName with
    | none => exact .complexType (.alone regular.2)
    | some packageName => exact .complexType (.packaged (regular.1 packageName rfl) regular.2)

theorem arrayText_render (spec : Option ArraySpecifier) :
    (spec.map ArraySpecifier.render).getD [] = [] ∨ ArrayText ((spec.map ArraySpecifier.render).getD []) := by
  cases spec with
  | none => exact .inl rfl
  | some spec =>
    right
    cases spec with
    | static size => exact .static (isBound_decimal size)
    | unbounded => exact @ArrayText.unbounded [] (by simp)
    | bounded bound => exact .bounded (isBound_decimal bound)

theorem valueForm_render {value : Value Double} (regular : value.Regular) : ValueForm value.render := by
  cases value with
  | bool truth => cases truth <;> exact .bool (by simp [Value.render])
  | uint value => exact .uint (isBound_decimal value)
  | int value =>
    have negative : value.toInt < 0 := Int64.lt_iff_toInt_lt.mp regular.1
    have proper : -9223372036854775808 < value.toInt := Int64.lt_iff_toInt_lt.mp regular.2
    have small : value.toInt.natAbs < 2 ^ 63 := by omega
    have magnitude := isBound_decimal (.ofNat value.toInt.natAbs)
    have fits : value.toInt.natAbs < 2 ^ 64 := by omega
    rw [UInt64.toNat_ofNat_of_lt' fits] at magnitude
    refine .int magnitude ?_
    rw [leadingNumber_of_bound magnitude]
    exact Nat.ofDigitChars_ten_toDigits.trans_lt small
  | float value => exact absurd regular id
  | string bytes => exact absurd regular id

theorem declaration_render {typeName : TypeName} {name : Str} (regular : typeName.base.Regular)
    (valid : IsIdentifier name) : Declaration typeName.base.render (typeName.render ++ ' ' :: name) := by
  have blank : Blank [' '] := by simp [Blank, isSpace]
  rw [TypeName.render, List.append_assoc]
  exact .intro (typeText_render regular) (arrayText_render typeName.arraySpec) (by simp) blank valid

theorem itemText_render {item : Item Double} (regular : item.Regular) : ItemText item.render := by
  cases item with
  | field typeName fieldName defaultValue => exact .field (declaration_render regular.1 regular.2.1)
  | constant typeName constName value =>
    have none : Blank [] := by simp [Blank]
    have text := ItemText.constant (declaration_render regular.1 regular.2.1) none none (valueForm_render regular.2.2)
    simpa [Item.render] using text

theorem getLast?_append_ne {text rest : Str} (absent : '\r' ∉ rest) (before : text.getLast? ≠ some '\r') :
    (text ++ rest).getLast? ≠ some '\r' := by
  rw [List.getLast?_append]
  cases last : rest.getLast? with
  | none => simpa using before
  | some letter =>
    intro same
    cases same
    exact absent (List.mem_of_getLast? last)

theorem item_render_last {item : Item Double} (regular : item.Regular) : item.render.getLast? ≠ some '\r' := by
  have noWord : ∀ {text : Str}, (∀ letter ∈ text, isWordChar letter = true) → '\r' ∉ text := by
    intro text all member
    exact absurd (all '\r' member) (by decide)
  have digits : ∀ number, '\r' ∉ Text.decimal number := fun number member =>
    absurd (Text.decimal_isDigit member) (by decide)
  cases item with
  | field typeName fieldName defaultValue =>
    rw [Item.render, ← List.singleton_append, ← List.append_assoc]
    exact getLast?_append_ne (noWord regular.2.1.all) (by simp)
  | constant typeName constName value =>
    have plain : '\r' ∉ value.render := by
      cases value with
      | bool truth => cases truth <;> simp [Value.render]
      | uint value => exact digits _
      | int value => simp [Value.render, digits]
      | float value => exact absurd regular.2.2 id
      | string bytes => exact absurd regular.2.2 id
    have whole : (Item.constant typeName constName value).render =
        typeName.render ++ ' ' :: constName ++ ['='] ++ value.render := by simp [Item.render]
    rw [whole]
    exact getLast?_append_ne plain (by rw [List.getLast?_concat]; simp)

/-- What is printed of a regular line is a well-formed one with its line ending. -/
theorem Line.wellFormed {gap : Str} (blank : Blank gap) {line : Line Double} (regular : Line.Regular line) :
    ∃ content ending, line.render gap = content ++ ending ∧ EndsLine content ending ∧ WellFormed content := by
  obtain ⟨blanks, inside, shape⟩ := Line.render_append gap line []
  have spaces : Blank blanks := fun letter member => blank letter (inside letter member)
  have noBlank : Blank [] := by simp [Blank]
  obtain ⟨item, comment⟩ := line
  have text : (item.map Item.render).getD [] = [] ∨ ItemText ((item.map Item.render).getD []) := by
    cases item with
    | none => exact .inl rfl
    | some item => exact .inr (itemText_render (regular.1 item rfl))
  have formed : ∀ comment : Str, comment = [] ∨ comment.head? = some '#' → '\n' ∉ comment →
      WellFormed ((item.map Item.render).getD [] ++ (blanks ++ comment)) := fun comment marked unbroken =>
    ⟨_, comment, ⟨[], blanks, noBlank, spaces, rfl⟩, text, marked, unbroken⟩
  rw [List.append_nil] at shape
  cases comment with
  | none =>
    refine ⟨_, ['\n'], ?_, .inr ⟨rfl, ?_⟩, formed [] (.inl rfl) (by simp)⟩
    · simpa using shape
    · rw [List.append_nil]
      refine getLast?_append_ne (fun member => absurd (spaces '\r' member) (by decide)) ?_
      cases item with
      | none => simp
      | some item => exact item_render_last (regular.1 item rfl)
  | some comment =>
    obtain ⟨begins, unbroken⟩ := regular.2 comment rfl
    obtain ⟨words, same⟩ := List.head?_eq_some_iff.mp begins
    rw [same] at unbroken
    by_cases last : words.getLast? = some '\r'
    · obtain ⟨front, rfl⟩ := List.getLast?_eq_some_iff.mp last
      have unbroken' : '\n' ∉ '#' :: front := fun member => unbroken (List.mem_append_left ['\r'] member)
      refine ⟨_, ['\r', '\n'], ?_, .inl rfl, formed ('#' :: front) (.inr rfl) unbroken'⟩
      simpa [same] using shape
    · refine ⟨_, ['\n'], ?_, .inr ⟨rfl, ?_⟩, formed ('#' :: words) (.inr rfl) unbroken⟩
      · simpa [same] using shape
      · rw [List.getLast?_append, List.getLast?_append]
        cases words with
        | nil => simp
        | cons letter words => simpa [List.getLast?_cons] using last

end Printed

end Ros2Client.Msggen
