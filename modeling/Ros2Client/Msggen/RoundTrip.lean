import Ros2Client.Msggen.Printing

open Parsing

namespace Ros2Client.Msggen

variable {Double : Type} {f64FromStr : Str → Option Double}

def EndsItem (rest : Str) : Prop := ∀ letter ∈ rest.head?, letter ∈ ['#', '\r', '\n']

section Items

variable {blanks rest : Str}

theorem EndsItem.stops (ends : EndsItem rest) {kind : Char → Bool} (other : ['#', '\r', '\n'].any kind = false) :
    Stops kind rest := by
  intro letter head
  simpa using List.any_eq_false.mp other letter (ends letter head)

theorem EndsItem.endsValue (ends : EndsItem rest) (blank : ∀ letter ∈ blanks, isSpace letter = true) :
    EndsValue (blanks ++ rest) := by
  intro letter head
  cases blanks with
  | nil =>
    have ended : letter ∈ ['#', '\r', '\n'] := ends letter head
    have wider : ['#', '\r', '\n'].all [' ', '\t', '#', '\r', '\n'].contains = true := by decide
    simpa using List.all_eq_true.mp wider letter ended
  | cons first blanks =>
    cases head
    have space := blank letter (by simp)
    rw [isSpace, Bool.or_eq_true, decide_eq_true_eq, decide_eq_true_eq] at space
    rcases space with rfl | rfl <;> decide

theorem IsIdentifier.stops_space {name : Str} (valid : IsIdentifier name) (rest : Str) :
    Stops isSpace (name ++ rest) := by
  cases name with
  | nil => exact absurd valid id
  | cons first name => exact .cons (not_space_of_word (isWordChar_of_isAlpha valid.1)) _

theorem leading_begins {base : BaseTypeName} {name : Str} (leads : name ∈ base.leading) : name <+: base.render := by
  cases base with
  | primitive name => cases leads
  | boundedString bound => cases leads
  | complexType packageName typeName =>
    cases packageName with
    | none =>
      cases leads
      exact List.prefix_refl _
    | some packageName =>
      cases leads
      exact ⟨'/' :: typeName, rfl⟩

/-- The text of a type begins with a letter. -/
theorem TypeName.stops_space {typeName : TypeName} (regular : typeName.base.Regular) (rest : Str) :
    Stops isSpace (typeName.render ++ rest) := by
  rw [TypeName.render, List.append_assoc]
  obtain ⟨base, arraySpec⟩ := typeName
  cases base with
  | primitive name =>
    cases name with
    | nil =>
      have named : [] ∉ primitiveNames := by decide
      exact absurd regular named
    | cons letter name => exact .cons (not_space_of_word (primitiveNames_word regular List.mem_cons_self)) _
  | boundedString bound => exact .cons (by decide) _
  | complexType packageName typeName =>
    cases packageName with
    | none => exact regular.2.stops_space _
    | some packageName =>
      rw [BaseTypeName.render_qualified]
      exact (regular.1 packageName rfl).stops_space _

theorem space0_one {text : Str} (stops : Stops isSpace text) : space0 (' ' :: text) = .done text [' '] := by
  have blank : [' '].all isSpace = true := by decide
  exact takeWhile0_append (List.all_eq_true.mp blank) stops

theorem Value.stops_space {value : Value Double} (regular : value.Regular) (rest : Str) :
    Stops isSpace (value.render ++ rest) := by
  cases value with
  | bool truth => cases truth <;> exact .cons (by decide) _
  | uint value =>
    obtain ⟨digit, digits, text, isDigit⟩ := decimal_begins value.toNat
    have word : isWordChar digit = true := by simp [isWordChar, Char.isAlphanum, isDigit]
    change Stops isSpace (Text.decimal value.toNat ++ rest)
    rw [text]
    exact .cons (not_space_of_word word) _
  | int value => exact .cons (by decide) _
  | float value => exact absurd regular id
  | string bytes => exact absurd regular id

theorem field_append {typeName : TypeName} {name : Str} (regular : typeName.base.Regular)
    (distinct : typeName.base.Distinct) (valid : IsIdentifier name) (ends : EndsValue rest) :
    (field : Parser Char (Item Double)) (typeName.render ++ ' ' :: (name ++ rest)) =
      .done rest (.field typeName name none) := by
  have read := typeSpec_append regular distinct (name ++ rest)
  have named := identifier_append valid.ne_nil valid.all (ends.stops (by decide))
  rw [field, Parser.bind_of_done read, Parser.bind_of_done (space0_one (valid.stops_space rest)),
    Parser.bind_of_done named]
  rfl

/-- A field is tried as a constant first. -/
theorem constant_refused {typeName : TypeName} {name : Str} (regular : typeName.base.Regular)
    (distinct : typeName.base.Distinct) (valid : IsIdentifier name) (blank : ∀ letter ∈ blanks, isSpace letter = true)
    (ends : EndsItem rest) :
    constant f64FromStr (typeName.render ++ ' ' :: (name ++ (blanks ++ rest))) = .error := by
  have read := typeSpec_append regular distinct (name ++ (blanks ++ rest))
  have named := identifier_append valid.ne_nil valid.all ((ends.endsValue blank).stops (by decide))
  have spaces : space0 (blanks ++ rest) = .done rest blanks := takeWhile0_append blank (ends.stops (by decide))
  have noValue : tag "=".toList rest = .error := tag_of_stops (ends.stops (by decide))
  rw [constant, Parser.bind_of_done read, Parser.bind_of_done (space0_one (valid.stops_space _)),
    Parser.bind_of_done named, Parser.bind_of_done spaces, Parser.bind_of_error noValue]

theorem constant_append {typeName : TypeName} {name : Str} {value : Value Double} (regular : typeName.base.Regular)
    (distinct : typeName.base.Distinct) (valid : IsIdentifier name) (plain : value.Regular) (ends : EndsValue rest) :
    constant f64FromStr (typeName.render ++ ' ' :: (name ++ '=' :: (value.render ++ rest))) =
      .done rest (.constant typeName name value) := by
  have read := typeSpec_append regular distinct (name ++ '=' :: (value.render ++ rest))
  have equals : Stops isWordChar ('=' :: (value.render ++ rest)) := .cons (by decide) _
  have named := identifier_append valid.ne_nil valid.all equals
  have noSpace : space0 ('=' :: (value.render ++ rest)) = .done ('=' :: (value.render ++ rest)) [] :=
    takeWhile0_of_stops (.cons (by decide) _)
  have sign : tag "=".toList ('=' :: (value.render ++ rest)) = .done (value.render ++ rest) "=".toList :=
    tag_append ['='] _
  have noSpace' : space0 (value.render ++ rest) = .done (value.render ++ rest) [] :=
    takeWhile0_of_stops (Value.stops_space plain rest)
  rw [constant, Parser.bind_of_done read, Parser.bind_of_done (space0_one (valid.stops_space _)),
    Parser.bind_of_done named, Parser.bind_of_done noSpace, Parser.bind_of_done sign, Parser.bind_of_done noSpace',
    Parser.bind_of_done (valueSpec_append plain ends)]
  rfl

theorem item_append {item : Item Double} (regular : item.Regular)
    (distinct : item.typeName.base.Distinct) (blank : ∀ letter ∈ blanks, isSpace letter = true) (ends : EndsItem rest) :
    Msggen.item f64FromStr (item.render ++ (blanks ++ rest)) = .done rest (some item) := by
  have spaces : space0 (blanks ++ rest) = .done rest blanks := takeWhile0_append blank (ends.stops (by decide))
  apply Parser.map_of_done
  cases item with
  | field typeName fieldName defaultValue =>
    obtain ⟨type, valid, rfl⟩ := regular
    have shape : (Item.field typeName fieldName none : Item Double).render ++ (blanks ++ rest) =
        typeName.render ++ ' ' :: (fieldName ++ (blanks ++ rest)) := by
      rw [Item.render, List.append_assoc, List.cons_append]
    have read : Parser.alt [constant f64FromStr, field] (typeName.render ++ ' ' :: (fieldName ++ (blanks ++ rest))) =
        .done (blanks ++ rest) (.field typeName fieldName none) := by
      rw [Parser.alt_of_error (constant_refused type distinct valid blank ends)]
      exact Parser.alt_of_done (field_append type distinct valid (ends.endsValue blank))
    rw [shape]
    exact Parser.delimited_of_done (takeWhile0_of_stops (TypeName.stops_space type _)) read spaces
  | constant typeName constName value =>
    obtain ⟨type, valid, plain⟩ := regular
    have shape : (Item.constant typeName constName value).render ++ (blanks ++ rest) =
        typeName.render ++ ' ' :: (constName ++ '=' :: (value.render ++ (blanks ++ rest))) := by
      rw [Item.render]
      simp only [List.append_assoc, List.cons_append]
    have read : Parser.alt [constant f64FromStr, field]
        (typeName.render ++ ' ' :: (constName ++ '=' :: (value.render ++ (blanks ++ rest)))) =
        .done (blanks ++ rest) (.constant typeName constName value) :=
      Parser.alt_of_done (constant_append type distinct valid plain (ends.endsValue blank))
    rw [shape]
    exact Parser.delimited_of_done (takeWhile0_of_stops (TypeName.stops_space type _)) read spaces

theorem item_refused (blank : ∀ letter ∈ blanks, isSpace letter = true) (ends : EndsItem rest) :
    item f64FromStr (blanks ++ rest) = .error := by
  have spaces : space0 (blanks ++ rest) = .done rest blanks := takeWhile0_append blank (ends.stops (by decide))
  have untyped : typeSpec rest = .error := typeSpec_of_stops (ends.stops (by decide))
  have noConstant : constant f64FromStr rest = .error := Parser.bind_of_error untyped
  have noField : (field : Parser Char (Item Double)) rest = .error := Parser.bind_of_error untyped
  apply Parser.map_of_error
  rw [Parser.delimited, Parser.bind_of_done spaces, Parser.bind_of_error]
  rw [Parser.alt_of_error noConstant, Parser.alt_of_error noField, Parser.alt_nil]

end Items

section Lines

variable {gap rest : Str}

theorem comment_append {comment : Comment} (regular : comment.Regular) (plain : '\r' ∉ comment.text) (rest : Str) :
    Msggen.comment (comment.text ++ '\n' :: rest) = .done ('\n' :: rest) comment := by
  obtain ⟨text⟩ := comment
  obtain ⟨begins, unbroken⟩ := regular
  obtain ⟨words, rfl⟩ := List.head?_eq_some_iff.mp begins
  have breaks : ∀ letter ∈ words, isBreak letter = false := by
    intro letter member
    rw [isBreak, Bool.or_eq_false_iff, decide_eq_false_iff_not, decide_eq_false_iff_not]
    constructor
    · rintro rfl
      exact plain (List.mem_cons_of_mem _ member)
    · rintro rfl
      exact unbroken (List.mem_cons_of_mem _ member)
  exact comment_of_end breaks (.inr ⟨rest, ['\n'], rfl⟩)

theorem comment_plain {input : Str} {comment : Comment} (read : Msggen.comment input = .done rest comment) :
    '\r' ∉ comment.text := by
  obtain ⟨-, words, shape, breaks⟩ := comment_eq_done read
  rw [shape]
  intro member
  rcases List.mem_cons.mp member with mark | inside
  · exact absurd mark (by decide)
  · exact absurd (breaks '\r' inside) (by decide)

theorem commentOpt_append {comment : Option Comment} (regular : ∀ text ∈ comment, text.Regular)
    (plain : ∀ text ∈ comment, '\r' ∉ text.text) (rest : Str) :
    Msggen.comment.opt ((comment.map Comment.text).getD [] ++ '\n' :: rest) = .done ('\n' :: rest) comment := by
  cases comment with
  | none =>
    exact Parser.opt_of_error (comment_refused (by decide) rest)
  | some comment => exact Parser.opt_of_done (comment_append (regular comment rfl) (plain comment rfl) rest)

/-- The blanks of a line, and what stands behind them. -/
theorem Line.render_append (gap : Str) (line : Line Double) (rest : Str) : ∃ blanks, (∀ letter ∈ blanks, letter ∈ gap) ∧
    line.render gap ++ rest = (line.1.map Item.render).getD [] ++
      (blanks ++ ((line.2.map Comment.text).getD [] ++ '\n' :: rest)) := by
  obtain ⟨item, comment⟩ := line
  cases comment with
  | none => exact ⟨[], by simp, by simp [Line.render]⟩
  | some comment => exact ⟨gap, fun _ member => member, by simp [Line.render]⟩

theorem endsItem_comment {comment : Option Comment} (regular : ∀ text ∈ comment, text.Regular) (rest : Str) :
    EndsItem ((comment.map Comment.text).getD [] ++ '\n' :: rest) := by
  cases comment with
  | none =>
    intro letter head
    cases head
    decide
  | some comment =>
    obtain ⟨words, text⟩ := List.head?_eq_some_iff.mp (regular comment rfl).1
    rw [Option.map_some, Option.getD_some, text]
    intro letter head
    cases head
    decide

theorem line_append {line : Line Double} (blank : ∀ letter ∈ gap, isSpace letter = true) (regular : Line.Regular line)
    (distinct : Line.Distinct line) (rest : Str) :
    Msggen.line f64FromStr (line.render gap ++ rest) = .done rest line := by
  obtain ⟨blanks, inside, shape⟩ := Line.render_append gap line rest
  have blank' : ∀ letter ∈ blanks, isSpace letter = true := fun letter member => blank letter (inside letter member)
  obtain ⟨item, comment⟩ := line
  have ends := endsItem_comment regular.2 rest
  have last := commentOpt_append regular.2 distinct.2 rest
  have ending : lineEnding ('\n' :: rest) = .done rest ['\n'] := rfl
  have first : Parser.alt [Msggen.item f64FromStr, justSpace] ((item.map Item.render).getD [] ++
      (blanks ++ ((comment.map Comment.text).getD [] ++ '\n' :: rest))) =
      .done ((comment.map Comment.text).getD [] ++ '\n' :: rest) item := by
    cases item with
    | none =>
      have spaces := takeWhile0_append blank' (ends.stops (by decide))
      rw [Option.map_none, Option.getD_none, List.nil_append, Parser.alt_of_error (item_refused blank' ends)]
      exact Parser.alt_of_done (Parser.value_of_done _ spaces)
    | some item => exact Parser.alt_of_done (item_append (regular.1 item rfl) (distinct.1 item rfl) blank' ends)
  rw [shape]
  exact Parser.terminated_of_done (Parser.pair_of_done first last) ending

end Lines

section Swallowed

variable {input rest word : Str}

/-- A text that begins like a primitive type is never read as a complex one. -/
theorem typeSpec_swallows {typeName : TypeName} (member : word ∈ primitiveNames) (found : word <+: input)
    (read : typeSpec input = .done rest typeName) : typeName.base.leading = none := by
  obtain ⟨middle, ⟨base, arraySpec⟩, parts, joined⟩ := Parser.bind_eq_done.mp read
  cases joined
  obtain ⟨last, based, -⟩ := Parser.pair_eq_done.mp parts
  rw [baseType] at based
  rcases Parser.alt_eq_done.mp based with bounded | ⟨-, others⟩
  · obtain ⟨bound, -, rfl⟩ := Parser.map_eq_done.mp bounded
    rfl
  · rcases Parser.alt_eq_done.mp others with primitive | ⟨refused, -⟩
    · obtain ⟨name, -, rfl⟩ := Parser.map_eq_done.mp primitive
      rfl
    · obtain ⟨tail, name, taken⟩ := alt_tags_of_begins member found
      rw [primitiveType, Parser.map_of_done _ taken] at refused
      cases refused

theorem alternatives_swallow {item : Item Double} (member : word ∈ primitiveNames) (found : word <+: input)
    (read : Parser.alt [constant f64FromStr, field] input = .done rest item) :
    item.typeName.base.leading = none := by
  rcases Parser.alt_eq_done.mp read with asConstant | ⟨-, others⟩
  · obtain ⟨middle, typeName, typed, more⟩ := Parser.bind_eq_done.mp asConstant
    obtain ⟨_, _, -, more⟩ := Parser.bind_eq_done.mp more
    obtain ⟨_, _, -, more⟩ := Parser.bind_eq_done.mp more
    obtain ⟨_, _, -, more⟩ := Parser.bind_eq_done.mp more
    obtain ⟨_, _, -, more⟩ := Parser.bind_eq_done.mp more
    obtain ⟨_, _, -, more⟩ := Parser.bind_eq_done.mp more
    obtain ⟨_, _, -, joined⟩ := Parser.bind_eq_done.mp more
    cases joined
    exact typeSpec_swallows member found typed
  · rcases Parser.alt_eq_done.mp others with asField | ⟨-, none⟩
    · obtain ⟨middle, typeName, typed, more⟩ := Parser.bind_eq_done.mp asField
      obtain ⟨_, _, -, more⟩ := Parser.bind_eq_done.mp more
      obtain ⟨_, _, -, joined⟩ := Parser.bind_eq_done.mp more
      cases joined
      exact typeSpec_swallows member found typed
    · cases none

theorem item_swallows {item : Item Double} (member : word ∈ primitiveNames) (found : word <+: input)
    (read : Msggen.item f64FromStr input = .done rest (some item)) : item.typeName.base.leading = none := by
  obtain ⟨item', delimited, same⟩ := Parser.map_eq_done.mp read
  cases same
  obtain ⟨before, blanks, after, spaces, inner⟩ := Parser.delimited_eq_done delimited
  have stops : Stops isSpace input := by
    obtain ⟨tail, rfl⟩ := found
    cases word with
    | nil =>
      have named : [] ∉ primitiveNames := by decide
      exact absurd member named
    | cons letter word => exact .cons (not_space_of_word (primitiveNames_word member List.mem_cons_self)) _
  have unmoved : space0 input = .done input [] := takeWhile0_of_stops stops
  rw [unmoved] at spaces
  cases spaces
  exact alternatives_swallow member found inner

theorem line_swallows {item : Item Double} {comment : Option Comment} (member : word ∈ primitiveNames)
    (found : word <+: input) (read : line f64FromStr input = .done rest (some item, comment)) :
    item.typeName.base.leading = none := by
  obtain ⟨middle, parts⟩ := Parser.terminated_eq_done read
  obtain ⟨last, first, -⟩ := Parser.pair_eq_done.mp parts
  rcases Parser.alt_eq_done.mp first with asItem | ⟨-, others⟩
  · exact item_swallows member found asItem
  · rcases Parser.alt_eq_done.mp others with blank | ⟨-, none⟩
    · obtain ⟨_, _, -, joined⟩ := Parser.bind_eq_done.mp blank
      cases joined
    · cases none

theorem line_comment_plain {item : Option (Item Double)} {comment : Comment}
    (read : line f64FromStr input = .done rest (item, some comment)) : '\r' ∉ comment.text := by
  obtain ⟨middle, parts⟩ := Parser.terminated_eq_done read
  obtain ⟨last, -, commented⟩ := Parser.pair_eq_done.mp parts
  exact comment_plain (Parser.opt_eq_some.mp commented)

theorem Item.base_begins (item : Item Double) : item.typeName.base.render <+: item.render := by
  cases item with
  | field typeName fieldName defaultValue => exact ⟨_, (List.append_assoc _ _ _).symm⟩
  | constant typeName constName value => exact ⟨_, (List.append_assoc _ _ _).symm⟩

theorem line_distinct {gap : Str} {line : Line Double} {tail : Str}
    (read : Msggen.line f64FromStr (line.render gap ++ tail) = .done rest line) : Line.Distinct line := by
  obtain ⟨item, comment⟩ := line
  refine ⟨?_, ?_⟩
  · intro item' present name leads word member begins
    cases present
    have found : word <+: Line.render gap (some item', comment) ++ tail := by
      obtain ⟨blanks, -, shape⟩ := Line.render_append gap (some item', comment) tail
      rw [shape]
      exact ((begins.trans (leading_begins leads)).trans item'.base_begins).trans (List.prefix_append _ _)
    have none := line_swallows member found read
    rw [none] at leads
    cases leads
  · intro comment' present
    cases present
    exact line_comment_plain read

end Swallowed

theorem Line.render_ne_nil (gap : Str) (line : Line Double) : line.render gap ≠ [] := by simp [Line.render]

theorem msg_spec_inverts_iff (f64FromStr : Str → Option Double) (gap : Str)
    (blank : ∀ letter ∈ gap, isSpace letter = true) (lines : List (Line Double))
    (regular : ∀ line ∈ lines, Line.Regular line) :
    msgSpec f64FromStr (render gap lines) = .done [] lines ↔ ∀ line ∈ lines, Line.Distinct line := by
  induction lines with
  | nil =>
    have ended : line f64FromStr [] = .error := rfl
    simp only [render, List.flatMap_nil, List.not_mem_nil, false_implies, implies_true, iff_true]
    exact Parser.many0_of_error ended
  | cons line lines ih =>
    have shape : render gap (line :: lines) = line.render gap ++ render gap lines := List.flatMap_cons
    have first := regular line (by simp)
    have further := ih fun other member => regular other (by simp [member])
    rw [shape, List.forall_mem_cons, ← further]
    constructor
    · intro read
      rcases Parser.many0_eq_done read with ⟨-, -, none⟩ | ⟨middle, result, further', readLine, -, readLines, same⟩
      · cases none
      · cases same
        have distinct := line_distinct readLine
        rw [line_append blank first distinct] at readLine
        cases readLine
        exact ⟨distinct, readLines⟩
    · intro ⟨distinct, readLines⟩
      have length : (render gap lines).length < (line.render gap ++ render gap lines).length := by
        have present := List.length_pos_of_ne_nil (Line.render_ne_nil gap line)
        rw [List.length_append]
        omega
      exact Parser.many0_of_done (line_append blank first distinct _) length readLines

/-- A constant, a qualified array with a comment, and a blank line. -/
theorem msg_spec_inverts_sample :
    let lines : List (Line Unit) :=
      [(some (.constant ⟨.primitive "int32".toList, none⟩ ['X'] (.int (-5))), none),
        (some (.field ⟨.complexType (some ['p']) ['P'], some (.bounded 3)⟩ ['q'] none), some ⟨['#', ' ', 'c']⟩),
        (none, none)]
    msgSpec (fun _ => some ()) (render [' '] lines) = .done [] lines := by
  intro lines
  have regular : ∀ line ∈ lines, Line.Regular line := by decide
  have distinct : ∀ line ∈ lines, Line.Distinct line := by decide
  have blank : [' '].all isSpace = true := by decide
  exact (msg_spec_inverts_iff _ [' '] (List.all_eq_true.mp blank) lines regular).mpr distinct

/-- A type whose name begins with that of a primitive type. -/
theorem boolean_type_swallowed :
    let lines : List (Line Unit) := [(some (.field ⟨.complexType none "boolean_t".toList, none⟩ ['x'] none), none)]
    (∀ line ∈ lines, Line.Regular line) ∧
      msgSpec (fun _ => some ()) (render [] lines) = .done "boolean_t x\n".toList [] ∧
      msgSpec (fun _ => some ()) (render [] lines) ≠ .done [] lines := by
  decide

end Ros2Client.Msggen
