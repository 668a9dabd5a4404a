import Ros2Client.Msggen.Numerals

open Parsing

namespace Ros2Client.Msggen

def isWordChar (letter : Char) : Bool := letter.isAlphanum || letter = '_'

def IsWord (text : Str) : Prop := text ≠ [] ∧ ∀ letter ∈ text, isWordChar letter = true

def IsBound (digits : Str) : Prop :=
  digits ≠ [] ∧ (∀ letter ∈ digits, letter.isDigit = true) ∧ Nat.ofDigitChars 10 digits 0 < 2 ^ 64

def BeginsBounded (text : Str) : Prop := ∃ digit rest, text = "string<=".toList ++ digit :: rest ∧ digit.isDigit = true

/-- The text of a type without its array specifier, and the text behind it. -/
inductive BaseText : Str → Str → Prop
  | boundedString {digits behind : Str} : IsBound digits → Stops Char.isDigit behind →
      BaseText ("string<=".toList ++ digits) behind
  | primitive {name behind : Str} : name ∈ primitiveNames → ¬BeginsBounded (name ++ behind) → BaseText name behind
  | complexType {name behind : Str} : IsWord name → (∀ word ∈ primitiveNames, ¬word <+: name) →
      Stops isWordChar behind → behind.head? ≠ some '/' → BaseText name behind
  | packaged {package name behind : Str} : IsWord package → (∀ word ∈ primitiveNames, ¬word <+: package) →
      IsWord name → Stops isWordChar behind → BaseText (package ++ '/' :: name) behind

/-- `[10]`, `[<=10]` or `[]`. -/
inductive ArrayText : Str → Prop
  | static {digits : Str} : IsBound digits → ArrayText ('[' :: (digits ++ [']']))
  | bounded {digits : Str} : IsBound digits → ArrayText ('[' :: ("<=".toList ++ digits ++ [']']))
  | unbounded {blanks : Str} : (∀ letter ∈ blanks, isSpace letter = true) → ArrayText ('[' :: (blanks ++ [']']))

section Words

variable {rest : Str}

theorem not_space_of_word {letter : Char} (word : isWordChar letter = true) : isSpace letter = false := by
  rw [isSpace, Bool.or_eq_false_iff, decide_eq_false_iff_not, decide_eq_false_iff_not]
  constructor
  · rintro rfl
    exact absurd word (by decide)
  · rintro rfl
    exact absurd word (by decide)

/-- Blanks and what stands behind them have nothing of a kind that no blank has. -/
theorem stops_blanks {kind : Char → Bool} {blanks behind : Str} (blank : ∀ letter ∈ blanks, isSpace letter = true)
    (other : [' ', '\t'].any kind = false) (stops : Stops kind behind) : Stops kind (blanks ++ behind) := by
  cases blanks with
  | nil => exact stops
  | cons letter blanks =>
    have space := blank letter (by simp)
    rw [isSpace, Bool.or_eq_true, decide_eq_true_eq, decide_eq_true_eq] at space
    exact .cons (by simpa using List.any_eq_false.mp other letter (by simpa using space)) _

theorem wordPart_of_stops (stops : Stops isWordChar rest) : wordPart rest = .error := by
  have alphanumeric : alphanumeric1 rest = .error := by
    apply takeWhile1_of_stops
    intro letter head
    have other := stops letter head
    simp [isWordChar] at other
    exact other.1
  have underscore : tag "_".toList rest = .error := by
    apply tag_refused
    rintro ⟨tail, rfl⟩
    exact absurd (stops '_' rfl) (by decide)
  rw [wordPart, Parser.alt_of_error alphanumeric, Parser.alt_of_error underscore, Parser.alt_nil]

/-- A stretch ends inside the identifier or at its end. -/
theorem wordPart_of_word (letter : Char) (text : Str) (word : isWordChar letter = true) :
    ∃ rest part, wordPart (letter :: text) = .done rest part ∧ rest.length < (letter :: text).length ∧
      rest.dropWhile isWordChar = (letter :: text).dropWhile isWordChar := by
  by_cases alphanumeric : letter.isAlphanum = true
  · have read : alphanumeric1 (letter :: text) =
        .done (text.dropWhile Char.isAlphanum) (letter :: text.takeWhile Char.isAlphanum) := by
      simp [alphanumeric1, takeWhile1, alphanumeric]
    refine ⟨_, _, Parser.alt_of_done read, ?_, ?_⟩
    · exact Nat.lt_succ_of_le (List.dropWhile_sublist _).length_le
    · rw [List.dropWhile_cons_of_pos word]
      exact dropWhile_dropWhile (fun other inside => by simp [isWordChar, inside]) text
  · have underscore : letter = '_' := by
      simpa [isWordChar, alphanumeric] using word
    have refused : alphanumeric1 (letter :: text) = .error :=
      takeWhile1_of_stops (.cons (by simpa using alphanumeric) text)
    have read : wordPart (letter :: text) = .done text ['_'] := by
      rw [wordPart, Parser.alt_of_error refused, underscore]
      exact Parser.alt_of_done (tag_append ['_'] text)
    refine ⟨text, ['_'], read, by simp, ?_⟩
    rw [List.dropWhile_cons_of_pos word]

theorem identifier_append {name : Str} (present : name ≠ []) (all : ∀ letter ∈ name, isWordChar letter = true)
    (stops : Stops isWordChar rest) : identifier (name ++ rest) = .done rest name := by
  cases name with
  | nil => exact absurd rfl present
  | cons letter name =>
    obtain ⟨middle, part, read, -, same⟩ := wordPart_of_word letter (name ++ rest) (all letter (by simp))
    obtain ⟨parts, further⟩ := many0_of_stretches (fun _ => wordPart_of_stops) wordPart_of_word middle
    rw [same, ← List.cons_append, (takeWhile_append_of_stops all stops).2] at further
    exact Parser.recognize_of_done (Parser.many1_of_done read further)

theorem identifier_of_stops (stops : Stops isWordChar rest) : identifier rest = .error :=
  Parser.recognize_of_error (Parser.bind_of_error (wordPart_of_stops stops))

end Words

section Bounds

variable {digits behind input rest name : Str}

theorem uintValue_read (bound : IsBound digits) (stops : Stops Char.isDigit behind) :
    ∃ number, uintValue (digits ++ behind) = .done behind number := by
  obtain ⟨present, all, fits⟩ := bound
  obtain ⟨taken, dropped⟩ := takeWhile_append_of_stops all stops
  have fits' : leadingNumber (digits ++ behind) < 2 ^ 64 := by rwa [leadingNumber, taken]
  rw [uintValue_of_digits (by rwa [taken]), if_pos fits', dropped]
  exact ⟨_, rfl⟩

theorem uintValue_bound {number : UInt64} (read : uintValue input = .done rest number) :
    ∃ digits, input = digits ++ rest ∧ IsBound digits ∧ Stops Char.isDigit rest := by
  obtain ⟨digits, rfl, present, all, stops, fits, -⟩ := uintValue_eq_done read
  rw [List.all_eq_true] at all
  rw [leadingNumber, (takeWhile_append_of_stops all stops).1] at fits
  exact ⟨digits, rfl, ⟨present, all, fits⟩, stops⟩

theorem boundedString_error : boundedString input = .error ↔ ¬BeginsBounded input := by
  rw [boundedString, Parser.map_eq_error]
  by_cases found : "string<=".toList <+: input
  · obtain ⟨rest, rfl⟩ := found
    have marked := tag_append "string<=".toList rest
    rw [Parser.preceded, Parser.bind_of_done marked, uintValue_error]
    constructor
    · rintro stops ⟨digit, more, same, isDigit⟩
      rw [List.append_cancel_left same] at stops
      exact absurd (stops digit rfl) (by simp [isDigit])
    · intro unbounded
      by_contra goes
      obtain ⟨digit, more, rfl, isDigit⟩ := begins_of_not_stops goes
      exact unbounded ⟨digit, more, rfl, isDigit⟩
  · refine iff_of_true (Parser.preceded_of_error (tag_refused found)) ?_
    rintro ⟨digit, more, rfl, -⟩
    exact found (List.prefix_append _ _)

/-- A number behind a mark. -/
theorem marked_panicked {mark : Str} : (tag mark).preceded uintValue input = .panicked ↔
    ∃ bound, input = mark ++ bound ∧ TooLarge bound := by
  have never : Parser.Never .panicked (tag mark) := .tag _
  rw [Parser.preceded, Parser.bind_eq_panicked]
  constructor
  · rintro (failed | ⟨bound, _, marked, failed⟩)
    · exact absurd failed (never input)
    · exact ⟨bound, (tag_eq_done marked).2, uintValue_panicked.mp failed⟩
  · rintro ⟨bound, rfl, large⟩
    exact .inr ⟨bound, _, tag_append _ _, uintValue_panicked.mpr large⟩

theorem boundedString_panicked : boundedString input = .panicked ↔
    ∃ bound, input = "string<=".toList ++ bound ∧ TooLarge bound := by
  rw [boundedString, Parser.map_eq_panicked, marked_panicked]

theorem identifier_eq_done (read : identifier input = .done rest name) :
    input = name ++ rest ∧ IsWord name ∧ Stops isWordChar rest := by
  have present : input.takeWhile isWordChar ≠ [] := by
    intro none
    have stops : Stops isWordChar input := by
      have dropped := List.takeWhile_append_dropWhile (p := isWordChar) (l := input)
      rw [none, List.nil_append] at dropped
      rw [← dropped]
      exact stops_dropWhile isWordChar input
    rw [identifier_of_stops stops] at read
    cases read
  have all : ∀ letter ∈ input.takeWhile isWordChar, isWordChar letter = true := fun _ member =>
    List.mem_takeWhile_imp member
  have stops := stops_dropWhile isWordChar input
  have again := identifier_append present all stops
  rw [List.takeWhile_append_dropWhile, read] at again
  cases again
  exact ⟨List.takeWhile_append_dropWhile.symm, ⟨present, all⟩, stops⟩

end Bounds

section Bases

variable {base behind input rest : Str} {found : BaseTypeName}

theorem primitiveNames_word {word : Str} (member : word ∈ primitiveNames) {letter : Char} (inside : letter ∈ word) :
    isWordChar letter = true := by
  have all : ∀ word ∈ primitiveNames, word.all isWordChar = true := by decide
  exact List.all_eq_true.mp (all word member) letter inside

theorem not_mem_primitive {letter : Char} (other : isWordChar letter = false) {word : Str}
    (member : word ∈ primitiveNames) : letter ∉ word := by
  intro inside
  rw [primitiveNames_word member inside] at other
  cases other

theorem primitiveType_append {name : Str} (member : name ∈ primitiveNames) (behind : Str) :
    primitiveType (name ++ behind) = .done behind (.primitive name) := by
  have separate : ∀ word ∈ primitiveNames, ∀ other ∈ primitiveNames, word <+: other → word = other := by decide
  exact Parser.map_of_done _ (alt_tags_append member separate behind)

theorem primitiveType_error : primitiveType input = .error ↔ ∀ word ∈ primitiveNames, ¬word <+: input := by
  constructor
  · rintro refused word member ⟨rest, rfl⟩
    rw [primitiveType_append member] at refused
    cases refused
  · intro none
    exact Parser.map_of_error _ (alt_tags_refused none)

/-- No primitive name goes beyond a word it stands at the front of. -/
theorem primitive_within {name word : Str} (member : word ∈ primitiveNames) (stops : Stops isWordChar behind)
    (found : word <+: name ++ behind) : word <+: name := by
  cases behind with
  | nil => rwa [List.append_nil] at found
  | cons letter behind => exact prefix_of_prefix_append found (not_mem_primitive (stops letter rfl) member)

theorem not_bounded_of_distinct (distinct : ∀ word ∈ primitiveNames, ¬word <+: input) : ¬BeginsBounded input := by
  rintro ⟨digit, rest, rfl, -⟩
  have shorter : "string".toList <+: "string<=".toList := by decide
  exact distinct "string".toList (by decide) (shorter.trans (List.prefix_append _ _))

theorem baseType_of_distinct (distinct : ∀ word ∈ primitiveNames, ¬word <+: input) :
    baseType input = complexType input := by
  rw [baseType, Parser.alt_of_error (boundedString_error.mpr (not_bounded_of_distinct distinct)),
    Parser.alt_of_error (primitiveType_error.mpr distinct), Parser.alt_singleton]

theorem baseType_bounded {digits : Str} {number : UInt64} (read : uintValue (digits ++ behind) = .done behind number) :
    baseType ("string<=".toList ++ (digits ++ behind)) = .done behind (.boundedString number) :=
  Parser.alt_of_done (Parser.map_of_done _ (Parser.preceded_of_done (tag_append _ _) read))

theorem baseType_primitive {name : Str} (member : name ∈ primitiveNames) (unbounded : ¬BeginsBounded (name ++ behind)) :
    baseType (name ++ behind) = .done behind (.primitive name) := by
  rw [baseType, Parser.alt_of_error (boundedString_error.mpr unbounded)]
  exact Parser.alt_of_done (primitiveType_append member behind)

theorem baseType_alone {name : Str} (word : IsWord name) (distinct : ∀ word ∈ primitiveNames, ¬word <+: name)
    (stops : Stops isWordChar behind) (other : behind.head? ≠ some '/') :
    baseType (name ++ behind) = .done behind (.complexType none name) := by
  have named := identifier_append word.1 word.2 stops
  have alone : identifier.terminated (tag "/".toList) (name ++ behind) = .error := by
    apply Parser.terminated_of_error_right named
    apply tag_refused
    rintro ⟨rest, rfl⟩
    exact other rfl
  rw [baseType_of_distinct fun _ member found => distinct _ member (primitive_within member stops found)]
  exact Parser.map_of_done _ (Parser.pair_of_done (Parser.opt_of_error alone) named)

theorem baseType_packaged {package name : Str} (word : IsWord package)
    (distinct : ∀ word ∈ primitiveNames, ¬word <+: package) (word' : IsWord name) (stops : Stops isWordChar behind) :
    baseType (package ++ '/' :: (name ++ behind)) = .done behind (.complexType (some package) name) := by
  have slash : Stops isWordChar ('/' :: (name ++ behind)) := .cons (by decide) _
  have named := identifier_append word'.1 word'.2 stops
  have qualified : identifier.terminated (tag "/".toList) (package ++ '/' :: (name ++ behind)) =
      .done (name ++ behind) package :=
    Parser.terminated_of_done (identifier_append word.1 word.2 slash) (tag_append ['/'] _)
  rw [baseType_of_distinct fun _ member found => distinct _ member (primitive_within member slash found)]
  exact Parser.map_of_done _ (Parser.pair_of_done (Parser.opt_of_done qualified) named)

theorem BaseText.read (given : BaseText base behind) : ∃ found, baseType (base ++ behind) = .done behind found := by
  cases given with
  | boundedString bound stops =>
    obtain ⟨number, read⟩ := uintValue_read bound stops
    rw [List.append_assoc]
    exact ⟨_, baseType_bounded read⟩
  | primitive member unbounded => exact ⟨_, baseType_primitive member unbounded⟩
  | complexType word distinct stops other => exact ⟨_, baseType_alone word distinct stops other⟩
  | packaged word distinct word' stops =>
    rw [List.append_assoc, List.cons_append]
    exact ⟨_, baseType_packaged word distinct word' stops⟩

theorem complexType_eq_done (read : complexType input = .done rest found)
    (distinct : ∀ word ∈ primitiveNames, ¬word <+: input) : ∃ base, input = base ++ rest ∧ BaseText base rest := by
  obtain ⟨⟨package, name⟩, parts, -⟩ := Parser.map_eq_done.mp read
  obtain ⟨middle, first, named⟩ := Parser.pair_eq_done.mp parts
  obtain ⟨rfl, word, stops⟩ := identifier_eq_done named
  cases package with
  | none =>
    obtain ⟨alone, rfl⟩ := Parser.opt_eq_none.mp first
    refine ⟨name, rfl, .complexType word (fun _ member found => ?_) stops ?_⟩
    · exact distinct _ member (found.trans (List.prefix_append _ _))
    · intro slash
      obtain ⟨more, rfl⟩ := List.head?_eq_some_iff.mp slash
      have slashed : identifier.terminated (tag "/".toList) (name ++ '/' :: more) = .done more name :=
        Parser.terminated_of_done named (tag_append ['/'] more)
      rw [slashed] at alone
      cases alone
  | some package =>
    obtain ⟨before, _, packaged, slashed⟩ := Parser.bind_eq_done.mp (Parser.opt_eq_some.mp first)
    obtain ⟨_, _, slash, same⟩ := Parser.bind_eq_done.mp slashed
    cases same
    obtain ⟨-, rfl⟩ := tag_eq_done slash
    obtain ⟨rfl, word', -⟩ := identifier_eq_done packaged
    refine ⟨package ++ '/' :: name, by simp, .packaged word' (fun _ member found => ?_) word stops⟩
    exact distinct _ member (found.trans (List.prefix_append _ _))

theorem baseType_eq_done (read : baseType input = .done rest found) :
    ∃ base, input = base ++ rest ∧ BaseText base rest := by
  rw [baseType] at read
  rcases Parser.alt_eq_done.mp read with bounded | ⟨unbounded, read⟩
  · obtain ⟨number, inner, -⟩ := Parser.map_eq_done.mp bounded
    obtain ⟨middle, _, marked, numbered⟩ := Parser.bind_eq_done.mp inner
    obtain ⟨-, rfl⟩ := tag_eq_done marked
    obtain ⟨digits, rfl, bound, stops⟩ := uintValue_bound numbered
    exact ⟨"string<=".toList ++ digits, by simp, .boundedString bound stops⟩
  rcases Parser.alt_eq_done.mp read with primitive | ⟨distinct, read⟩
  · obtain ⟨name, tagged, -⟩ := Parser.map_eq_done.mp primitive
    obtain ⟨member, rfl⟩ := alt_tags_eq_done tagged
    exact ⟨name, rfl, .primitive member (boundedString_error.mp unbounded)⟩
  · rw [Parser.alt_singleton] at read
    exact complexType_eq_done read (primitiveType_error.mp distinct)

theorem baseType_panicked : baseType input = .panicked ↔
    ∃ bound, input = "string<=".toList ++ bound ∧ TooLarge bound := by
  rw [← boundedString_panicked, baseType]
  have others : Parser.Never .panicked (Parser.alt [primitiveType, complexType]) :=
    .alt_cons primitiveType_never (.alt_cons complexType_never .alt_nil)
  constructor
  · exact fun failed => Parser.Never.halted_of_alt others failed
  · exact fun failed => Parser.alt_eq_panicked.mpr (.inl failed)

end Bases

section Arrays

variable {input rest inner : Str} {found : ArraySpecifier}

def ArrayTooLarge (inner : Str) : Prop := TooLarge inner ∨ ∃ bound, inner = "<=".toList ++ bound ∧ TooLarge bound

theorem marked_refused (isDigit : ¬Stops Char.isDigit inner) : tag "<=".toList inner = .error := by
  obtain ⟨digit, more, rfl, digits⟩ := begins_of_not_stops isDigit
  apply tag_of_head
  rintro rfl
  exact absurd digits (by decide)

theorem IsBound.goes {digits : Str} (bound : IsBound digits) (behind : Str) :
    ¬Stops Char.isDigit (digits ++ behind) := by
  obtain ⟨present, all, -⟩ := bound
  cases digits with
  | nil => exact absurd rfl present
  | cons digit digits =>
    intro stops
    exact absurd (stops digit rfl) (by simp [all digit])

theorem arraySpecifier_of_inner {spec : ArraySpecifier} (read : arraySpecifierInner inner = .done (']' :: rest) spec) :
    arraySpecifier ('[' :: inner) = .done rest spec :=
  Parser.delimited_of_done (satisfy_of_true rfl) read (satisfy_of_true rfl)

theorem arraySpecifier_static {digits : Str} {size : UInt64} (goes : ¬Stops Char.isDigit (digits ++ ']' :: rest))
    (read : uintValue (digits ++ ']' :: rest) = .done (']' :: rest) size) :
    arraySpecifier ('[' :: (digits ++ ']' :: rest)) = .done rest (.static size) := by
  apply arraySpecifier_of_inner
  rw [arraySpecifierInner, Parser.alt_of_error (Parser.map_of_error _ (Parser.preceded_of_error (marked_refused goes)))]
  exact Parser.alt_of_done (Parser.map_of_done _ read)

theorem arraySpecifier_bounded {digits : Str} {bound : UInt64}
    (read : uintValue (digits ++ ']' :: rest) = .done (']' :: rest) bound) :
    arraySpecifier ('[' :: ("<=".toList ++ (digits ++ ']' :: rest))) = .done rest (.bounded bound) := by
  apply arraySpecifier_of_inner
  exact Parser.alt_of_done (Parser.map_of_done _ (Parser.preceded_of_done (tag_append _ _) read))

theorem arraySpecifier_unbounded {blanks : Str} (blank : ∀ letter ∈ blanks, isSpace letter = true) (rest : Str) :
    arraySpecifier ('[' :: (blanks ++ ']' :: rest)) = .done rest .unbounded := by
  have spaces : space0 (blanks ++ ']' :: rest) = .done (']' :: rest) blanks :=
    takeWhile0_append blank (.cons (by decide) rest)
  have other : Stops (· = '<') (blanks ++ ']' :: rest) := stops_blanks blank (by decide) (.cons (by decide) rest)
  have unmarked : tag "<=".toList (blanks ++ ']' :: rest) = .error := by
    apply tag_refused
    intro ⟨tail, begins⟩
    rw [← begins] at other
    exact absurd (other '<' rfl) (by decide)
  have unsized : Stops Char.isDigit (blanks ++ ']' :: rest) := stops_blanks blank (by decide) (.cons (by decide) rest)
  apply arraySpecifier_of_inner
  rw [arraySpecifierInner, Parser.alt_of_error (Parser.map_of_error _ (Parser.preceded_of_error unmarked)),
    Parser.alt_of_error (Parser.map_of_error _ (uintValue_of_stops unsized))]
  exact Parser.alt_of_done (Parser.map_of_done _ spaces)

theorem ArrayText.begins {array : Str} (given : ArrayText array) : ∃ inner, array = '[' :: inner := by
  cases given <;> exact ⟨_, rfl⟩

theorem ArrayText.read {array : Str} (given : ArrayText array) (rest : Str) :
    ∃ found, arraySpecifier (array ++ rest) = .done rest found := by
  have stops : Stops Char.isDigit (']' :: rest) := .cons (by decide) rest
  cases given with
  | static bound =>
    obtain ⟨size, read⟩ := uintValue_read bound stops
    rw [List.cons_append, List.append_assoc]
    exact ⟨_, arraySpecifier_static (bound.goes _) read⟩
  | bounded bound =>
    obtain ⟨number, read⟩ := uintValue_read bound stops
    rw [List.cons_append, List.append_assoc, List.append_assoc]
    exact ⟨_, arraySpecifier_bounded read⟩
  | unbounded blank =>
    rw [List.cons_append, List.append_assoc]
    exact ⟨_, arraySpecifier_unbounded blank rest⟩

theorem arraySpecifier_eq_done (read : arraySpecifier input = .done rest found) :
    ∃ array, input = array ++ rest ∧ ArrayText array := by
  obtain ⟨inner, _, opened, read⟩ := Parser.bind_eq_done.mp read
  obtain ⟨middle, _, inside, read⟩ := Parser.bind_eq_done.mp read
  obtain ⟨_, _, closed, same⟩ := Parser.bind_eq_done.mp read
  cases same
  obtain ⟨rfl, bracket⟩ := satisfy_eq_done opened
  obtain ⟨rfl, bracket'⟩ := satisfy_eq_done closed
  rw [of_decide_eq_true bracket]
  rw [of_decide_eq_true bracket'] at inside
  rw [arraySpecifierInner] at inside
  rcases Parser.alt_eq_done.mp inside with bounded | ⟨-, inside⟩
  · obtain ⟨number, inside, -⟩ := Parser.map_eq_done.mp bounded
    obtain ⟨_, _, marked, numbered⟩ := Parser.bind_eq_done.mp inside
    obtain ⟨-, rfl⟩ := tag_eq_done marked
    obtain ⟨digits, rfl, bound, -⟩ := uintValue_bound numbered
    exact ⟨_, by simp, .bounded bound⟩
  rcases Parser.alt_eq_done.mp inside with sized | ⟨-, inside⟩
  · obtain ⟨number, numbered, -⟩ := Parser.map_eq_done.mp sized
    obtain ⟨digits, rfl, bound, -⟩ := uintValue_bound numbered
    exact ⟨_, by simp, .static bound⟩
  · rw [Parser.alt_singleton] at inside
    obtain ⟨blanks, spaces, -⟩ := Parser.map_eq_done.mp inside
    injection spaces with dropped taken
    have whole := List.takeWhile_append_dropWhile (p := isSpace) (l := inner)
    rw [dropped] at whole
    rw [← whole]
    exact ⟨'[' :: (inner.takeWhile isSpace ++ [']']), by simp, .unbounded fun _ member => List.mem_takeWhile_imp member⟩

theorem arraySpecifierInner_panicked : arraySpecifierInner inner = .panicked ↔ ArrayTooLarge inner := by
  have spaces : Parser.Never .panicked (space0.map fun _ => ArraySpecifier.unbounded) := .map _ (.takeWhile0 _)
  rw [arraySpecifierInner, Parser.alt_eq_panicked, Parser.alt_eq_panicked, Parser.alt_singleton, Parser.map_eq_panicked,
    Parser.map_eq_panicked, Parser.map_eq_error, marked_panicked, uintValue_panicked]
  constructor
  · rintro (large | ⟨-, large | ⟨-, failed⟩⟩)
    · exact .inr large
    · exact .inl large
    · exact absurd failed (spaces inner)
  · rintro (large | large)
    · obtain ⟨digit, more, rfl, isDigit⟩ := large.begins
      have goes : ¬Stops Char.isDigit (digit :: more) := fun stops => absurd (stops digit rfl) (by simp [isDigit])
      exact .inr ⟨Parser.preceded_of_error (marked_refused goes), .inl large⟩
    · exact .inl large

theorem arraySpecifier_panicked : arraySpecifier input = .panicked ↔
    ∃ inner, input = '[' :: inner ∧ ArrayTooLarge inner := by
  have opening : Parser.Never .panicked (char '[') := .satisfy _
  have closing : ∀ spec : ArraySpecifier, Parser.Never .panicked ((char ']').value spec) :=
    fun _ => .value _ (.satisfy _)
  rw [arraySpecifier, Parser.delimited, Parser.bind_eq_panicked]
  constructor
  · rintro (failed | ⟨inner, _, opened, failed⟩)
    · exact absurd failed (opening input)
    obtain ⟨rfl, bracket⟩ := satisfy_eq_done opened
    refine ⟨inner, by rw [of_decide_eq_true bracket], ?_⟩
    rcases Parser.bind_eq_panicked.mp failed with failed | ⟨middle, spec, -, failed⟩
    · exact arraySpecifierInner_panicked.mp failed
    · exact absurd failed (closing spec middle)
  · rintro ⟨inner, rfl, large⟩
    refine .inr ⟨inner, '[', satisfy_of_true (by decide), ?_⟩
    exact Parser.bind_eq_panicked.mpr (.inl (arraySpecifierInner_panicked.mpr large))

end Arrays

theorem typeSpec_of_done {input middle rest : Str} {base : BaseTypeName} {arraySpec : Option ArraySpecifier}
    (read : baseType input = .done middle base) (read' : arraySpecifier.opt middle = .done rest arraySpec) :
    typeSpec input = .done rest ⟨base, arraySpec⟩ :=
  Parser.bind_of_done (Parser.pair_of_done read read')

/-- A type begins with a letter, a digit or an underscore. -/
theorem typeSpec_of_stops {rest : Str} (stops : Stops isWordChar rest) : typeSpec rest = .error := by
  have distinct : ∀ word ∈ primitiveNames, ¬word <+: rest := by
    rintro word member ⟨tail, rfl⟩
    cases word with
    | nil => exact absurd member (by decide)
    | cons letter word =>
      have inside := primitiveNames_word member List.mem_cons_self
      rw [stops letter rfl] at inside
      cases inside
  have complex : complexType rest = .error := by
    apply Parser.map_of_error
    have unnamed := identifier_of_stops stops
    exact Parser.pair_of_error_right (Parser.opt_of_error (Parser.terminated_of_error unnamed)) unnamed
  apply Parser.bind_of_error
  apply Parser.pair_of_error
  rw [baseType_of_distinct distinct, complex]

end Ros2Client.Msggen
