import Ros2Client.Msggen.LineGrammar

open Parsing

namespace Ros2Client.Msggen

variable {Double : Type} {f64FromStr : Str → Option Double}

section Values

variable {value number input rest behind : Str}

theorem FloatText.letters (given : FloatText number) {letter : Char} (member : letter ∈ number) :
    isDecimalChar letter = true ∨ letter ∈ ['.', 'e', 'E', '+', '-'] := by
  have decimals : ∀ {digits : Str}, IsDecimal digits → letter ∈ digits → isDecimalChar letter = true := by
    intro digits given inside
    obtain ⟨digit, more, rfl, isDigit, all⟩ := given
    rcases List.mem_cons.mp inside with rfl | inside
    · simp [isDecimalChar, isDigit]
    · exact all letter inside
  have exponents : ∀ {text : Str}, IsExponent text → letter ∈ text →
      isDecimalChar letter = true ∨ letter ∈ ['.', 'e', 'E', '+', '-'] := by
    intro text given inside
    obtain ⟨mark, sign, digits, rfl, marks, signs, given⟩ := given
    rw [List.mem_cons, List.mem_append] at inside
    rcases inside with rfl | inside | inside
    · simp only [List.mem_cons, List.not_mem_nil, or_false] at marks
      rcases marks with rfl | rfl <;> exact .inr (by decide)
    · simp only [List.mem_cons, List.not_mem_nil, or_false] at signs
      rcases signs with rfl | rfl | rfl
      · cases inside
      · exact .inr (by simp_all)
      · exact .inr (by simp_all)
    · exact .inl (decimals given inside)
  cases given with
  | fraction given parts =>
    rw [List.mem_cons, List.mem_append] at member
    rcases member with rfl | inside | inside
    · exact .inr (by decide)
    · exact .inl (decimals given inside)
    · rcases parts with rfl | given
      · cases inside
      · exact exponents given inside
  | scientific given parts last =>
    rw [List.mem_append, List.mem_append] at member
    rcases member with inside | inside | inside
    · exact .inl (decimals given inside)
    · rcases parts with rfl | ⟨digits, given, rfl⟩
      · cases inside
      · rcases List.mem_cons.mp inside with rfl | inside
        · exact .inr (by decide)
        · exact .inl (decimals given inside)
    · exact exponents last inside
  | point given parts =>
    rw [List.mem_append, List.mem_cons] at member
    rcases member with inside | rfl | inside
    · exact .inl (decimals given inside)
    · exact .inr (by decide)
    · rcases parts with rfl | given
      · cases inside
      · exact .inl (decimals given inside)

/-- A number is read up to the end of the value. -/
theorem FloatText.read_until (given : FloatText number) (ends : EndsValue behind) :
    floatText (number ++ behind) = .done behind number := by
  obtain ⟨rest, longer, read, front, rfl⟩ := given.read behind
  obtain ⟨whole, given'⟩ := floatText_eq_done read
  have same : number ++ front = longer := by
    rw [← List.append_assoc] at whole
    exact List.append_cancel_right whole
  cases front with
  | nil =>
    rw [List.append_nil] at same
    rw [same]
    exact same ▸ read
  | cons letter front =>
    have member : letter ∈ longer := by simp [← same]
    have others : [' ', '\t', '#', '\r', '\n'].all (fun letter => !isDecimalChar letter &&
        !(['.', 'e', 'E', '+', '-'].contains letter)) = true := by decide
    have other := List.all_eq_true.mp others letter (ends letter rfl)
    rcases given'.letters member with isDecimal | special
    · simp [isDecimal] at other
    · simp [special] at other

theorem float_of_head {letter : Char} (other : letter ≠ '.') (noDigit : letter.isDigit = false) (rest : Str) :
    float f64FromStr (letter :: rest) = .error := by
  apply float_error.mpr
  intro ⟨number, found, given⟩
  obtain ⟨first, more, rfl, begins⟩ := given.begins
  have same : first = letter := (List.cons_prefix_cons.mp found).1
  subst same
  rcases begins with rfl | isDigit
  · exact other rfl
  · rw [noDigit] at isDigit
    cases isDigit

theorem intValue_read (bound : IsBound value) (fits : leadingNumber value ≠ 2 ^ 63)
    (stops : Stops Char.isDigit behind) :
    ∃ found, (intValue : Parser Char (Value Double)) ('-' :: (value ++ behind)) = .done behind found := by
  obtain ⟨number, read⟩ := uintValue_read bound stops
  obtain ⟨-, -, -, -, -, small, same⟩ := uintValue_eq_done read
  have leading : leadingNumber (value ++ behind) = leadingNumber value := by
    rw [leadingNumber, (takeWhile_append_of_stops bound.2.1 stops).1, leadingNumber_of_bound bound]
  obtain ⟨result, converts⟩ : ∃ result, negated number = some result := by
    rw [← Option.isSome_iff_exists, ← Option.ne_none_iff_isSome, ne_eq, negated_eq_none, same,
      UInt64.toNat_ofNat_of_lt' small, leading]
    exact fits
  have preceded := Parser.preceded_of_done (tag_append ['-'] (value ++ behind)) read
  exact ⟨_, Parser.map_of_done _ (Parser.expect_of_done preceded converts)⟩

theorem valueSpec_read (documented : ∀ text, (f64FromStr text).isSome = isF64 text) (given : ReadableValue value)
    (ends : EndsValue behind) : ∃ found, valueSpec f64FromStr (value ++ behind) = .done behind found := by
  cases given with
  | bool named =>
    rcases named with rfl | rfl
    · exact ⟨_, @valueSpec_append _ _ _ (.bool false) trivial ends⟩
    · exact ⟨_, @valueSpec_append _ _ _ (.bool true) trivial ends⟩
  | float given plain =>
    obtain ⟨result, converts⟩ := Option.isSome_iff_exists.mp ((documented value).trans (given.isF64 plain))
    have read : float f64FromStr (value ++ behind) = .done behind result :=
      Parser.expect_of_done (given.read_until ends) converts
    obtain ⟨letter, more, rfl, begins⟩ := given.begins
    rw [List.cons_append] at read ⊢
    rw [valueSpec, Parser.alt_of_error (boolValue_of_number (begins.imp_right .inr) _)]
    exact ⟨_, Parser.alt_of_done (Parser.map_of_done _ read)⟩
  | int bound fits =>
    obtain ⟨found, read⟩ := intValue_read bound fits (ends.stops (by decide))
    rw [List.cons_append, valueSpec, Parser.alt_of_error (boolValue_of_number (.inr (.inl rfl)) _),
      Parser.alt_of_error (Parser.map_of_error _ float_minus)]
    exact ⟨_, Parser.alt_of_done read⟩
  | uint bound =>
    obtain ⟨number, read⟩ := uintValue_read bound (ends.stops (by decide))
    have noFloat : float f64FromStr (value ++ behind) = .error := float_digits (.of_digits bound.1 bound.2.1) ends
    obtain ⟨digit, more, rfl⟩ := List.exists_cons_of_ne_nil bound.1
    have isDigit := bound.2.1 digit (by simp)
    rw [List.cons_append] at read noFloat ⊢
    rw [valueSpec, Parser.alt_of_error (boolValue_of_number (.inr (.inr isDigit)) _),
      Parser.alt_of_error (Parser.map_of_error _ noFloat), Parser.alt_of_error (intValue_of_digit isDigit _)]
    exact ⟨_, Parser.alt_of_done (Parser.map_of_done _ read)⟩
  | @string body string spelled =>
    have read : parseString ('"' :: (body ++ '"' :: behind)) = .done behind string :=
      parseString_iff.mpr ⟨body, rfl, spelled⟩
    have noInt : (intValue : Parser Char (Value Double)) ('"' :: (body ++ '"' :: behind)) = .error :=
      Parser.map_of_error _ (Parser.expect_of_error (Parser.preceded_of_error (tag_of_head (by decide))))
    have noUint : uintValue ('"' :: (body ++ '"' :: behind)) = .error := uintValue_of_stops (.cons (by decide) _)
    rw [List.cons_append, List.append_assoc, List.singleton_append, valueSpec,
      Parser.alt_of_error (boolValue_of_head (by decide) (by decide)),
      Parser.alt_of_error (Parser.map_of_error _ (float_of_head (by decide) (by decide) _)),
      Parser.alt_of_error noInt, Parser.alt_of_error (Parser.map_of_error _ noUint), Parser.alt_singleton]
    exact ⟨_, Parser.map_of_done _ read⟩

theorem valueSpec_eq_done (documented : ∀ text, (f64FromStr text).isSome = isF64 text) {found : Value Double}
    (read : valueSpec f64FromStr input = .done rest found) : ∃ value, input = value ++ rest ∧ ReadableValue value := by
  rw [valueSpec] at read
  rcases Parser.alt_eq_done.mp read with read | ⟨-, read⟩
  · rcases Parser.alt_eq_done.mp read with read | ⟨-, read⟩
    · obtain ⟨_, _, tagged, same⟩ := Parser.bind_eq_done.mp read
      cases same
      exact ⟨_, (tag_eq_done tagged).2, .bool (.inl rfl)⟩
    · rw [Parser.alt_singleton] at read
      obtain ⟨_, _, tagged, same⟩ := Parser.bind_eq_done.mp read
      cases same
      exact ⟨_, (tag_eq_done tagged).2, .bool (.inr rfl)⟩
  rcases Parser.alt_eq_done.mp read with read | ⟨-, read⟩
  · obtain ⟨result, read, -⟩ := Parser.map_eq_done.mp read
    obtain ⟨number, text, converts⟩ := Parser.expect_eq_done.mp read
    obtain ⟨whole, given⟩ := floatText_eq_done text
    have valid := documented number
    rw [converts] at valid
    exact ⟨number, whole, .float given (isF64_plain valid.symm)⟩
  rcases Parser.alt_eq_done.mp read with read | ⟨-, read⟩
  · obtain ⟨result, read, -⟩ := Parser.map_eq_done.mp read
    obtain ⟨number, signed, converts⟩ := Parser.expect_eq_done.mp read
    obtain ⟨middle, _, marked, numbered⟩ := Parser.bind_eq_done.mp signed
    obtain ⟨-, rfl⟩ := tag_eq_done marked
    obtain ⟨digits, rfl, bound, stops⟩ := uintValue_bound numbered
    obtain ⟨-, -, -, -, -, small, same⟩ := uintValue_eq_done numbered
    refine ⟨'-' :: digits, rfl, .int bound fun least => ?_⟩
    have none : negated number = none := by
      rw [negated_eq_none, same, UInt64.toNat_ofNat_of_lt' small, leadingNumber,
        (takeWhile_append_of_stops bound.2.1 stops).1, ← leadingNumber_of_bound bound, least]
    rw [none] at converts
    cases converts
  rcases Parser.alt_eq_done.mp read with read | ⟨-, read⟩
  · obtain ⟨number, numbered, -⟩ := Parser.map_eq_done.mp read
    obtain ⟨digits, whole, bound, -⟩ := uintValue_bound numbered
    exact ⟨digits, whole, .uint bound⟩
  · rw [Parser.alt_singleton] at read
    obtain ⟨string, read, -⟩ := Parser.map_eq_done.mp read
    obtain ⟨body, whole, spelled⟩ := parseString_iff.mp read
    exact ⟨'"' :: (body ++ ['"']), by simp [whole], .string spelled⟩

end Values

section Items

variable {base array blanks name head item before after next input rest behind content : Str}

theorem BaseText.stops_space (given : BaseText base behind) (rest : Str) : Stops isSpace (base ++ rest) := by
  have words : ∀ {name : Str}, IsWord name → ∀ rest, Stops isSpace (name ++ rest) := by
    intro name word rest
    obtain ⟨letter, more, rfl⟩ := List.exists_cons_of_ne_nil word.1
    exact .cons (not_space_of_word (word.2 letter (by simp))) _
  cases given with
  | boundedString bound stops => exact .cons (by decide) _
  | primitive member unbounded =>
    refine words ⟨?_, fun letter inside => primitiveNames_word member inside⟩ rest
    intro none
    rw [none] at member
    exact absurd member (by decide)
  | complexType word distinct stops other => exact words word rest
  | packaged word distinct word' stops =>
    rw [List.append_assoc]
    exact words word _

theorem ReadableItem.stops_space (given : ReadableItem item behind) : Stops isSpace (item ++ behind) := by
  cases given with
  | field typed parts blank word =>
    rw [List.append_assoc]
    exact typed.stops_space _
  | constant text readable =>
    generalize item ++ behind = whole at text
    cases text with
    | intro typed parts blank word blank' blank'' stops => exact typed.stops_space _

theorem field_read (typed : BaseText base (array ++ (blanks ++ (name ++ behind))))
    (parts : array = [] ∨ ArrayText array)
    (blank : Blank blanks) (word : IsWord name) (stops : Stops isWordChar behind) : ∃ found,
    (field : Parser Char (Item Double)) (base ++ (array ++ (blanks ++ (name ++ behind)))) = .done behind found := by
  obtain ⟨typeName, read, spaces, named⟩ := head_read typed parts blank word stops
  refine ⟨.field typeName name none, ?_⟩
  rw [field, Parser.bind_of_done read, Parser.bind_of_done spaces, Parser.bind_of_done named]
  rfl

/-- Without an equals sign behind the name, there is no constant. -/
theorem constant_unequal (typed : BaseText base (array ++ (blanks ++ (name ++ behind))))
    (parts : array = [] ∨ ArrayText array) (blank : Blank blanks) (word : IsWord name) (stops : Stops isWordChar behind)
    (unequal : Stops (· = '=') (behind.dropWhile isSpace)) :
    constant f64FromStr (base ++ (array ++ (blanks ++ (name ++ behind)))) = .error := by
  obtain ⟨typeName, read, spaces, named⟩ := head_read typed parts blank word stops
  have spaces' : space0 behind = .done (behind.dropWhile isSpace) (behind.takeWhile isSpace) := rfl
  have noValue : tag "=".toList (behind.dropWhile isSpace) = .error := tag_of_stops unequal
  rw [constant, Parser.bind_of_done read, Parser.bind_of_done spaces, Parser.bind_of_done named,
    Parser.bind_of_done spaces', Parser.bind_of_error noValue]

theorem item_of_alternatives {found : Item Double} (blank : Blank before) (stops : Stops isSpace input)
    (read : Parser.alt [constant f64FromStr, field] input = .done rest found) :
    Msggen.item f64FromStr (before ++ input) = .done (rest.dropWhile isSpace) (some found) := by
  rw [item_eq, (takeWhile_append_of_stops blank stops).2, read]
  rfl

theorem alternatives_of_field {found : Item Double} (refused : constant f64FromStr input = .error)
    (read : field input = .done rest found) : Parser.alt [constant f64FromStr, field] input = .done rest found := by
  rw [Parser.alt_of_error refused]
  exact Parser.alt_of_done read

theorem alternatives_read (documented : ∀ text, (f64FromStr text).isSome = isF64 text)
    (given : ReadableItem item behind) (ends : EndsValue behind)
    (unequal : Stops (· = '=') (behind.dropWhile isSpace)) :
    ∃ found, Parser.alt [constant f64FromStr, field] (item ++ behind) = .done behind found := by
  cases given with
  | field typed parts blank word =>
    have stops : Stops isWordChar behind := ends.stops (by decide)
    obtain ⟨found, read⟩ := field_read typed parts blank word stops
    simp only [List.append_assoc]
    exact ⟨found, alternatives_of_field (constant_unequal typed parts blank word stops unequal) read⟩
  | constant text readable =>
    obtain ⟨head, headed⟩ := text.read
    obtain ⟨value, valued⟩ := valueSpec_read documented readable ends
    refine ⟨.constant head.1 head.2 value, Parser.alt_of_done ?_⟩
    rw [constant_eq, headed]
    change (valueSpec f64FromStr _).bind _ = _
    rw [valued]
    rfl

theorem item_read (documented : ∀ text, (f64FromStr text).isSome = isF64 text)
    (given : ReadableItem item (after ++ next)) (blank : Blank before) (blank' : Blank after) (ends : EndsItem next) :
    ∃ found, Msggen.item f64FromStr (before ++ (item ++ (after ++ next))) = .done next (some found) := by
  have endsValue : EndsValue (after ++ next) := ends.endsValue blank'
  have dropped : (after ++ next).dropWhile isSpace = next :=
    (takeWhile_append_of_stops blank' (ends.stops (by decide))).2
  have read : ∃ found, Parser.alt [constant f64FromStr, field] (item ++ (after ++ next)) =
      .done (after ++ next) found :=
    alternatives_read documented given endsValue (dropped.symm ▸ ends.stops (by decide))
  obtain ⟨found, read⟩ := read
  have whole := item_of_alternatives blank given.stops_space read
  rw [dropped] at whole
  exact ⟨found, whole⟩

theorem alternatives_eq_done (documented : ∀ text, (f64FromStr text).isSome = isF64 text) {found : Item Double}
    (read : Parser.alt [constant f64FromStr, field] input = .done rest found) :
    ∃ item, input = item ++ rest ∧ ReadableItem item rest := by
  rcases Parser.alt_eq_done.mp read with read | ⟨-, read⟩
  · rw [constant_eq] at read
    obtain ⟨value, head, headed, read⟩ := Outcome.bind_eq_done.mp read
    obtain ⟨_, _, valued, same⟩ := Outcome.bind_eq_done.mp read
    cases same
    have text := constantHead_eq_done headed
    obtain ⟨value, rfl, readable⟩ := valueSpec_eq_done documented valued
    obtain ⟨front, whole⟩ := text.suffix
    rw [← whole, ← List.append_assoc] at text ⊢
    exact ⟨front ++ value, rfl, .constant text readable⟩
  · rw [Parser.alt_singleton] at read
    obtain ⟨_, _, typed, read⟩ := Parser.bind_eq_done.mp read
    obtain ⟨_, _, spaces, read⟩ := Parser.bind_eq_done.mp read
    obtain ⟨_, _, named, same⟩ := Parser.bind_eq_done.mp read
    cases same
    obtain ⟨rfl, word, -⟩ := identifier_eq_done named
    obtain ⟨rfl, blank, -⟩ := space0_eq_done spaces
    obtain ⟨base, array, rfl, given, parts⟩ := typeSpec_eq_done typed
    exact ⟨_, by simp, .field given parts blank word⟩

end Items

section Contents

variable {content comment : Str}

theorem ReadableComment.endsItem (given : ReadableComment comment) : EndsItem comment := by
  apply endsItem_of_mark
  refine given.imp_right fun commented => ?_
  obtain ⟨words, rfl, -⟩ := commented
  rfl

theorem commentOpt_read (given : ReadableComment comment) : ∃ found, Msggen.comment.opt comment = .done [] found := by
  rcases given with rfl | ⟨words, rfl, plain⟩
  · exact ⟨none, rfl⟩
  · have read := comment_of_end plain (.inl rfl)
    rw [List.append_nil] at read
    exact ⟨_, Parser.opt_of_done read⟩

theorem commentOpt_readable {found : Option Comment} (read : Msggen.comment.opt comment = .done [] found) :
    ReadableComment comment := by
  rcases Parser.opt_eq_done read with same | ⟨text, read⟩
  · exact .inl same.symm
  · obtain ⟨whole, words, marked, plain⟩ := comment_eq_done read
    rw [List.append_nil] at whole
    exact .inr ⟨words, whole.trans marked, plain⟩

/-- The lines that are read are those of the grammar. -/
theorem lineContent_iff (documented : ∀ text, (f64FromStr text).isSome = isF64 text) :
    (∃ found, lineContent f64FromStr content = .done [] found) ↔ ReadableLine content := by
  constructor
  · intro ⟨⟨item, text⟩, read⟩
    obtain ⟨comment, first, last⟩ := Parser.pair_eq_done.mp read
    have commented := commentOpt_readable last
    have front := List.takeWhile_append_dropWhile (p := isSpace) (l := content)
    have blank : Blank (content.takeWhile isSpace) := fun _ member => List.mem_takeWhile_imp member
    rcases Parser.alt_eq_done.mp first with read | ⟨-, read⟩
    · rw [item_eq] at read
      obtain ⟨rest, _, inner, same⟩ := Outcome.bind_eq_done.mp read
      cases same
      obtain ⟨item, whole, readable⟩ := alternatives_eq_done documented inner
      have back := List.takeWhile_append_dropWhile (p := isSpace) (l := rest)
      rw [← front, whole]
      rw [← back] at readable ⊢
      exact .item blank readable (fun _ member => List.mem_takeWhile_imp member) commented
    · rw [Parser.alt_singleton] at read
      obtain ⟨_, _, spaces, same⟩ := Parser.bind_eq_done.mp read
      cases same
      cases spaces
      rw [← front]
      exact .blank blank commented
  · intro given
    cases given with
    | blank blank commented =>
      obtain ⟨text, last⟩ := commentOpt_read commented
      have ends := commented.endsItem
      have spaces := takeWhile0_append blank (ends.stops (by decide))
      have first : Parser.alt [item f64FromStr, justSpace] _ = .done _ none :=
        (Parser.alt_of_error (item_refused blank ends)).trans (Parser.alt_of_done (Parser.value_of_done _ spaces))
      exact ⟨(none, text), Parser.pair_of_done first last⟩
    | item blank readable blank' commented =>
      obtain ⟨text, last⟩ := commentOpt_read commented
      obtain ⟨found, read⟩ := item_read documented readable blank blank' commented.endsItem
      exact ⟨(some found, text), Parser.pair_of_done (Parser.alt_of_done read) last⟩

end Contents

end Ros2Client.Msggen
