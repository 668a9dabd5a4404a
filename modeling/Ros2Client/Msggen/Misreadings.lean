import Ros2Client.Msggen.LineReading

open Parsing

namespace Ros2Client.Msggen

variable {Double : Type} {f64FromStr : Str → Option Double}

/-- Behind the item that is read, the line goes on. -/
def Leftover (f64FromStr : Str → Option Double) (input : Str) : Prop :=
  ∃ letter rest found, item f64FromStr input = .done (letter :: rest) (some found) ∧
    letter ∉ ['#', '\r', '\n']

section Refusals

variable {input rest words tail content : Str} {letter : Char}

theorem line_refused {found : Option (Item Double)} (read : Parser.alt [item f64FromStr, justSpace] input =
    .done (letter :: rest) found) (noComment : comment (letter :: rest) = .error) (goes : isBreak letter = false) :
    line f64FromStr input = .error := by
  rw [isBreak, Bool.or_eq_false_iff, decide_eq_false_iff_not, decide_eq_false_iff_not] at goes
  have noEnding : lineEnding (letter :: rest) = .error := by
    unfold lineEnding
    split
    · rename_i same
      cases same
      exact absurd rfl goes.2
    · rename_i same
      cases same
      exact absurd rfl goes.1
    · rfl
  rw [line_eq]
  exact Parser.terminated_of_error_right (Parser.pair_of_done read (Parser.opt_of_error noComment)) noEnding

theorem Leftover.refused (given : Leftover f64FromStr input) : line f64FromStr input = .error := by
  obtain ⟨letter, rest, found, read, goes⟩ := given
  simp only [List.mem_cons, List.not_mem_nil, or_false, not_or] at goes
  exact line_refused (Parser.alt_of_done read) (comment_refused goes.1 rest) (by simp [isBreak, goes.2])

/-- A carriage return that begins no line ending. -/
theorem comment_broken (member : '\r' ∈ words) (unbroken : '\n' ∉ words) (ends : LineEnds words tail) :
    comment ('#' :: (words ++ tail)) = .error := by
  obtain ⟨broken, front, more, before, isBroken, whole, -⟩ := List.exists_of_eraseP (p := isBreak) member (by decide)
  have same : broken = '\r' := by
    rw [isBreak, Bool.or_eq_true, decide_eq_true_eq, decide_eq_true_eq] at isBroken
    refine isBroken.resolve_right fun newline => unbroken ?_
    simp [whole, newline]
  subst same
  have all : ∀ letter ∈ front, (!isBreak letter) = true := by simpa using before
  have dropped : (words ++ tail).dropWhile (!isBreak ·) = '\r' :: (more ++ tail) := by
    have stops : Stops (!isBreak ·) ('\r' :: (more ++ tail)) := .cons (by decide) _
    rw [whole, List.append_assoc, List.cons_append]
    exact (takeWhile_append_of_stops all stops).2
  have other : (more ++ tail).head? ≠ some '\n' := by
    cases more with
    | cons letter more =>
      intro newline
      cases newline
      exact unbroken (by simp [whole])
    | nil =>
      have last : words.getLast? = some '\r' := by simp [whole]
      rcases ends with rfl | ⟨ending, rest, rfl, shape⟩
      · simp
      · rcases shape with rfl | ⟨rfl, noReturn⟩
        · simp
        · exact absurd last noReturn
  have refused : notLineEnding (words ++ tail) = .error := by
    unfold notLineEnding
    rw [dropped]
    split
    case h_1 same =>
      injection same with _ same
      rw [same] at other
      exact absurd rfl other
    case h_2 => rfl
    case h_3 noReturn => exact absurd rfl (noReturn _)
  have marked : tag "#".toList ('#' :: (words ++ tail)) = .done (words ++ tail) ['#'] := tag_append ['#'] _
  exact Parser.map_of_error _ (Parser.recognize_of_error (Parser.pair_of_error_right marked refused))

end Refusals

section Items

variable {base head leading word before blanks value number behind : Str}

/-- A primitive name at the front of an identifier is no bounded string. -/
theorem not_bounded_of_word {more : Str} (member : word ∈ primitiveNames) (stops : ¬Stops isWordChar more) :
    ¬BeginsBounded (word ++ more) := by
  intro ⟨digit, rest, same, _⟩
  have shorter : word <+: "string<=".toList ∨ "string<=".toList <+: word :=
    List.prefix_or_prefix_of_prefix ⟨more, rfl⟩ ⟨digit :: rest, same.symm⟩
  have names : ∀ word ∈ primitiveNames, ¬"string<=".toList <+: word ∧
      (word <+: "string<=".toList → word = "string".toList) := by decide
  have isString := (names word member).2 (shorter.resolve_right (names word member).1)
  rw [isString] at same
  have left : more = '<' :: '=' :: digit :: rest := @List.append_cancel_left _ "string".toList _ _ same
  rw [left] at stops
  exact stops (.cons (by decide) _)

/-- Behind a complex type's identifier stands a slash, an array specifier, or the name behind the blanks. -/
theorem Declaration.tail (given : Declaration base head) (complex : ComplexText base leading) (behind : Str) :
    ∃ tail letter rest, head ++ behind = leading ++ tail ∧ Stops isWordChar tail ∧
      tail.dropWhile isSpace = letter :: rest ∧ letter ∉ ['=', '#', '\r', '\n'] := by
  obtain ⟨-, parts, present, blank, valid⟩ := given
  rename_i array blanks name
  cases complex with
  | @packaged _ typeName _ _ =>
    let more := typeName ++ (array ++ (blanks ++ (name ++ behind)))
    exact ⟨'/' :: more, '/', more, by simp [more], .cons (by decide) _, rfl, by decide⟩
  | alone valid' =>
    obtain ⟨letter, tail, same, member⟩ := array_ends parts present blank (name ++ behind)
    have others : [' ', '\t', '['].any isWordChar = false := by decide
    have stops : Stops isWordChar (letter :: tail) := .cons (by simpa using List.any_eq_false.mp others letter member) _
    refine ⟨array ++ (blanks ++ (name ++ behind)), ?_⟩
    rcases parts with rfl | bracketed
    · obtain ⟨first, more, rfl, alpha⟩ := valid.begins
      have dropped := (takeWhile_append_of_stops blank (valid.stops_space behind)).2
      refine ⟨first, more ++ behind, by simp, same ▸ stops, dropped, ?_⟩
      exact not_mem_of_alpha alpha
    · obtain ⟨inner, rfl⟩ := bracketed.begins
      exact ⟨'[', _, by simp, same ▸ stops, rfl, by decide⟩

/-- Of a type that begins like a primitive one, the rest of its identifier is read as the name. -/
theorem swallowed_leftover (given : Declaration base head) (complex : ComplexText base leading)
    (member : word ∈ primitiveNames) (found : word <+: leading) (blank : Blank before) (behind : Str) :
    Leftover f64FromStr (before ++ (head ++ behind)) := by
  obtain ⟨more, rfl⟩ := found
  obtain ⟨tail, letter, rest, whole, stops, dropped, goes⟩ := given.tail complex behind
  have valid := complex.leading_identifier
  have word' : IsWord more := by
    refine ⟨?_, fun letter inside => valid.all letter (List.mem_append_right _ inside)⟩
    intro none
    rw [none, List.append_nil] at valid
    exact valid.not_primitive member
  have unbounded : ¬BeginsBounded (word ++ (more ++ tail)) := by
    refine not_bounded_of_word member ?_
    obtain ⟨letter, rest, rfl⟩ := List.exists_cons_of_ne_nil word'.1
    intro ends
    have inside := word'.2 letter (by simp)
    rw [ends letter rfl] at inside
    cases inside
  have typed : BaseText word ([] ++ ([] ++ (more ++ tail))) := .primitive member unbounded
  have blank' : Blank [] := by simp [Blank]
  have unequal : Stops (· = '=') (tail.dropWhile isSpace) := by
    rw [dropped]
    exact .cons (by simp at goes; simp [goes]) rest
  obtain ⟨found, read⟩ := field_read typed (.inl rfl) blank' word' stops
  have refused : constant f64FromStr (word ++ ([] ++ ([] ++ (more ++ tail)))) = .error :=
    constant_unequal typed (.inl rfl) blank' word' stops unequal
  have item := item_of_alternatives blank (typed.stops_space _) (alternatives_of_field refused read)
  rw [dropped] at item
  refine ⟨letter, rest, found, ?_, fun inside => goes (List.mem_cons_of_mem _ inside)⟩
  rw [whole, List.append_assoc]
  exact item

/-- A declaration whose type is its own, in front of what may stand behind it. -/
theorem Declaration.read (given : Declaration base head) (f64FromStr : Str → Option Double)
    (distinct : ∀ leading, ComplexText base leading → ∀ word ∈ primitiveNames, ¬word <+: leading)
    (stops : Stops isWordChar behind) : Stops isSpace (head ++ behind) ∧
      (∃ found, (field : Parser Char (Item Double)) (head ++ behind) = .done behind found) ∧
      (Stops (· = '=') (behind.dropWhile isSpace) → constant f64FromStr (head ++ behind) = .error) := by
  obtain ⟨typed, parts, present, blank, valid⟩ := given
  obtain ⟨letter, tail, same, member⟩ := array_ends parts present blank _
  have typed := same ▸ typed.baseText distinct member tail
  simp only [List.append_assoc]
  exact ⟨typed.stops_space _, field_read typed parts blank valid.isWord stops,
    constant_unequal typed parts blank valid.isWord stops⟩

theorem defaultValue_leftover (given : Declaration base head) (present : blanks ≠ []) (blank' : Blank blanks)
    (valued : ValueForm value) (blank : Blank before) (behind : Str) :
    Leftover f64FromStr (before ++ (head ++ (blanks ++ (value ++ behind)))) := by
  rcases swallowed_or base with ⟨leading, complex, word, member, found⟩ | distinct
  · exact swallowed_leftover given complex member found blank _
  obtain ⟨letter, more, rfl, noSpace, goes⟩ := valued.begins
  have endsValue : EndsValue (blanks ++ (letter :: more ++ behind)) := by
    obtain ⟨first, gap, rfl⟩ := List.exists_cons_of_ne_nil present
    have space := blank' first (by simp)
    intro first head
    cases head
    rw [isSpace, Bool.or_eq_true, decide_eq_true_eq, decide_eq_true_eq] at space
    rcases space with rfl | rfl <;> decide
  have dropped : (blanks ++ (letter :: more ++ behind)).dropWhile isSpace = letter :: (more ++ behind) :=
    (takeWhile_append_of_stops blank' (.cons noSpace _)).2
  have unequal : Stops (· = '=') ((blanks ++ (letter :: more ++ behind)).dropWhile isSpace) := by
    rw [dropped]
    exact .cons (by simp at goes; simp [goes]) _
  obtain ⟨noBlank, ⟨found, read⟩, refused⟩ := given.read f64FromStr distinct (endsValue.stops (by decide))
  have item := item_of_alternatives blank noBlank (alternatives_of_field (refused unequal) read)
  rw [dropped] at item
  exact ⟨letter, more ++ behind, found, item, fun inside => goes (List.mem_cons_of_mem _ inside)⟩

/-- Up to its point or its exponent, a number is digits. -/
theorem FloatText.split (given : FloatText number) (plain : '_' ∉ number) : ∃ digits letter more,
    number = digits ++ letter :: more ∧ (∀ digit ∈ digits, digit.isDigit = true) ∧ letter ∈ ['.', 'e', 'E'] := by
  cases given with
  | @fraction digits last given parts => exact ⟨[], '.', digits ++ last, rfl, by simp, by decide⟩
  | @scientific whole fraction last given parts given' =>
    simp only [List.mem_append, not_or] at plain
    obtain ⟨-, all⟩ := given.all_digits plain.1
    rcases parts with rfl | ⟨digits, -, rfl⟩
    · obtain ⟨mark, sign, digits, rfl, marks, -, -⟩ := given'
      exact ⟨whole, mark, sign ++ digits, rfl, all, List.mem_cons_of_mem _ marks⟩
    · exact ⟨whole, '.', digits ++ last, rfl, all, by decide⟩
  | @point whole digits given parts =>
    simp only [List.mem_append, not_or] at plain
    obtain ⟨-, all⟩ := given.all_digits plain.1
    exact ⟨whole, '.', digits, rfl, all, by decide⟩

theorem constant_of_valueText {text : Str} (f64FromStr : Str → Option Double) (given : ValueText text value) :
    ∃ head : TypeName × Str,
    constant f64FromStr text =
      (valueSpec f64FromStr value).bind fun rest value => .done rest (.constant head.1 head.2 value) := by
  obtain ⟨head, read⟩ := given.read
  refine ⟨head, ?_⟩
  rw [constant_eq, read]
  rfl

theorem valueSpec_minus {letter : Char} (noDigit : letter.isDigit = false) (rest : Str) :
    valueSpec f64FromStr ('-' :: letter :: rest) = .error := by
  have noUint : uintValue (letter :: rest) = .error := uintValue_of_stops (.cons noDigit rest)
  have noUint' : uintValue ('-' :: letter :: rest) = .error := uintValue_of_stops (.cons (by decide) _)
  have noInt : (intValue : Parser Char (Value Double)) ('-' :: letter :: rest) = .error :=
    Parser.map_of_error _ (Parser.expect_of_error ((Parser.bind_of_done (tag_append ['-'] _)).trans noUint))
  have noString : parseString ('-' :: letter :: rest) = .error := Parser.bind_of_error rfl
  rw [valueSpec, Parser.alt_of_error (boolValue_of_number (.inr (.inl rfl)) _),
    Parser.alt_of_error (Parser.map_of_error _ float_minus), Parser.alt_of_error noInt,
    Parser.alt_of_error (Parser.map_of_error _ noUint'), Parser.alt_singleton]
  exact Parser.map_of_error _ noString

theorem negativeFloat_leftover (given : Declaration base head) {blanks' : Str} (gap : Blank blanks)
    (gap' : Blank blanks')
    (float : FloatText number) (plain : '_' ∉ number) (fits : leadingNumber number < 2 ^ 63) (blank : Blank before)
    (behind : Str) :
    Leftover f64FromStr (before ++ (head ++ (blanks ++ '=' :: (blanks' ++ '-' :: (number ++ behind))))) := by
  rcases swallowed_or base with ⟨leading, complex, word, member, found⟩ | distinct
  · exact swallowed_leftover given complex member found blank _
  obtain ⟨digits, letter, more, rfl, all, marks⟩ := float.split plain
  have others : ['.', 'e', 'E'].all (fun letter => !letter.isDigit && !isSpace letter &&
      !(['#', '\r', '\n'].contains letter)) = true := by decide
  have other := List.all_eq_true.mp others letter marks
  simp only [Bool.and_eq_true, Bool.not_eq_true', List.contains_eq_mem, decide_eq_false_iff_not] at other
  obtain ⟨⟨noDigit, noSpace⟩, goes⟩ := other
  have minus : Stops isSpace ('-' :: (digits ++ letter :: more ++ behind)) := .cons (by decide) _
  obtain ⟨constantHead, asConstant⟩ := constant_of_valueText f64FromStr (given.valueText distinct gap gap' minus)
  have stops : Stops isWordChar (blanks ++ '=' :: (blanks' ++ '-' :: (digits ++ letter :: more ++ behind))) :=
    stops_blanks gap (by decide) (.cons (by decide) _)
  obtain ⟨noBlank, ⟨found, asField⟩, -⟩ := given.read f64FromStr distinct stops
  cases digits with
  | nil =>
    -- without digits in front of the point there is no value, and the item is a field
    rw [List.nil_append, List.cons_append, valueSpec_minus noDigit] at asConstant
    have item := item_of_alternatives blank noBlank (alternatives_of_field asConstant asField)
    rw [(takeWhile_append_of_stops gap (.cons (by decide) _)).2] at item
    exact ⟨'=', _, found, item, by decide⟩
  | cons digit digits =>
    have leading : (digit :: digits ++ letter :: more).takeWhile Char.isDigit = digit :: digits :=
      (takeWhile_append_of_stops all (.cons noDigit more)).1
    rw [leadingNumber, leading] at fits
    have bound : IsBound (digit :: digits) := ⟨List.cons_ne_nil _ _, all, by omega⟩
    have magnitude : leadingNumber (digit :: digits) ≠ 2 ^ 63 := by
      rw [leadingNumber_of_bound bound]
      exact fits.ne
    have stops' : Stops Char.isDigit (letter :: (more ++ behind)) := .cons noDigit _
    obtain ⟨value, read⟩ := intValue_read bound magnitude stops'
    have valued : valueSpec f64FromStr ('-' :: (digit :: digits ++ letter :: more ++ behind)) =
        .done (letter :: (more ++ behind)) value := by
      rw [valueSpec, Parser.alt_of_error (boolValue_of_number (.inr (.inl rfl)) _),
        Parser.alt_of_error (Parser.map_of_error _ float_minus), List.append_assoc]
      exact Parser.alt_of_done read
    rw [valued] at asConstant
    have item := item_of_alternatives blank noBlank (Parser.alt_of_done asConstant)
    rw [(takeWhile_of_stops (.cons noSpace _)).2] at item
    exact ⟨letter, more ++ behind, _, item, goes⟩

/-- An item that is misread leaves a part of the line, whatever stands behind it. -/
theorem MisreadItem.leftover {item : Str} (given : MisreadItem item) (blank : Blank before) (behind : Str) :
    Leftover f64FromStr (before ++ (item ++ behind)) := by
  cases given with
  | typeName given complex member found begins =>
    obtain ⟨more, rfl⟩ := begins
    rw [List.append_assoc]
    exact swallowed_leftover given complex member found blank _
  | defaultValue given present gap valued =>
    simp only [List.append_assoc]
    exact defaultValue_leftover given present gap valued blank behind
  | negativeFloat given gap gap' float plain fits =>
    simp only [List.append_assoc, List.cons_append]
    exact negativeFloat_leftover given gap gap' float plain fits blank behind

end Items

section Lines

variable {content tail : Str}

/-- An item that is not misread is read up to a comment, whatever is wrong with that. -/
theorem itemOrSpace_read (documented : ∀ text, (f64FromStr text).isSome = isF64 text) {item before after next : Str}
    (given : item = [] ∨ ItemText item) (right : ¬MisreadItem item) (blank : Blank before) (blank' : Blank after)
    (ends : EndsItem next) : ∃ found,
    Parser.alt [Msggen.item f64FromStr, justSpace] (before ++ (item ++ (after ++ next))) = .done next found := by
  rcases given with rfl | given
  · have spaces := takeWhile0_append (blank.append blank') (ends.stops (by decide))
    have refused : Msggen.item f64FromStr ((before ++ after) ++ next) = .error :=
      item_refused (blank.append blank') ends
    rw [List.nil_append, ← List.append_assoc, Parser.alt_of_error refused]
    exact ⟨none, Parser.alt_of_done (Parser.value_of_done _ spaces)⟩
  · have readable := given.readable_or.resolve_left right (after ++ next) (ends.endsValue blank')
    obtain ⟨found, read⟩ := item_read documented readable blank blank' ends
    exact ⟨some found, Parser.alt_of_done read⟩

theorem Misread.refused (documented : ∀ text, (f64FromStr text).isSome = isF64 text) (given : Misread content)
    (ends : LineEnds content tail) : line f64FromStr (content ++ tail) = .error := by
  obtain ⟨item, comment, text, fault⟩ := given
  obtain ⟨before, after, blank, blank', rfl⟩ := text.parts
  simp only [List.append_assoc]
  by_cases misread : MisreadItem item
  · exact (misread.leftover blank _).refused
  have member := fault.resolve_left misread
  rcases text.marked with rfl | marked
  · cases member
  obtain ⟨words, rfl⟩ := List.head?_eq_some_iff.mp marked
  have member' : '\r' ∈ words := (List.mem_cons.mp member).resolve_left (by decide)
  have unbroken : '\n' ∉ words := fun newline => text.unbroken (List.mem_cons_of_mem _ newline)
  have ends' : LineEnds words tail := by
    refine ends.imp_right fun ended => ?_
    obtain ⟨ending, rest, rfl, shape⟩ := ended
    refine ⟨ending, rest, rfl, shape.imp_right fun newline => ⟨newline.1, ?_⟩⟩
    obtain ⟨letter, more, rfl⟩ := List.exists_cons_of_ne_nil (List.ne_nil_of_mem member')
    simpa [List.getLast?_append, List.getLast?_cons] using newline.2
  have goes : EndsItem ('#' :: words ++ tail) := by
    intro letter head
    cases head
    decide
  obtain ⟨found, read⟩ := itemOrSpace_read documented text.itemText misread blank blank' goes
  exact line_refused read (comment_broken member' unbroken ends') (by decide)

end Lines

end Ros2Client.Msggen
