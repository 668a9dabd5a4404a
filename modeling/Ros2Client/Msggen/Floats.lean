import Ros2Client.Msggen.Numerals

open Parsing

namespace Ros2Client.Msggen

variable {Double : Type} {f64FromStr : Str → Option Double}

def IsExponent (text : Str) : Prop :=
  ∃ mark sign digits, text = mark :: (sign ++ digits) ∧ mark ∈ ['e', 'E'] ∧ sign ∈ [[], ['+'], ['-']] ∧ IsDecimal digits

/-- `.42`, `.42e42`; `42e42`, `42.42e42`; `42.`, `42.42`. -/
inductive FloatText : Str → Prop
  | fraction {digits exponent : Str} : IsDecimal digits → exponent = [] ∨ IsExponent exponent →
      FloatText ('.' :: (digits ++ exponent))
  | scientific {whole fraction exponent : Str} : IsDecimal whole →
      fraction = [] ∨ (∃ digits, IsDecimal digits ∧ fraction = '.' :: digits) → IsExponent exponent →
      FloatText (whole ++ (fraction ++ exponent))
  | point {whole digits : Str} : IsDecimal whole → digits = [] ∨ IsDecimal digits → FloatText (whole ++ '.' :: digits)

section Exponents

variable {input rest text tail digits : Str}

theorem IsExponent.stops (given : IsExponent text) (tail : Str) : Stops isDecimalChar (text ++ tail) := by
  obtain ⟨mark, sign, digits, rfl, marks, -, -⟩ := given
  have other : ['e', 'E'].any isDecimalChar = false := by decide
  exact .cons (by simpa using List.any_eq_false.mp other mark marks) _

theorem exponent_eq_done (read : exponent input = .done rest digits) :
    ∃ text, input = text ++ rest ∧ IsExponent text := by
  obtain ⟨behind, mark, marked, read⟩ := Parser.bind_eq_done.mp read
  obtain ⟨last, sign, signed, read⟩ := Parser.bind_eq_done.mp read
  obtain ⟨rfl, number⟩ := decimal_eq_done read
  obtain ⟨rfl, marks⟩ := satisfy_eq_done marked
  cases sign with
  | none =>
    obtain ⟨-, rfl⟩ := Parser.opt_eq_none.mp signed
    exact ⟨mark :: ([] ++ digits), by simp, mark, [], digits, rfl, by simpa using marks, by simp, number⟩
  | some sign =>
    obtain ⟨rfl, signs⟩ := satisfy_eq_done (Parser.opt_eq_some.mp signed)
    refine ⟨mark :: ([sign] ++ digits), by simp, mark, [sign], digits, rfl, by simpa using marks, ?_, number⟩
    simpa using signs

theorem IsExponent.read (given : IsExponent text) (tail : Str) :
    ∃ rest digits, exponent (text ++ tail) = .done rest digits ∧ rest <:+ tail := by
  obtain ⟨mark, sign, digits, rfl, marks, signs, number⟩ := given
  have marked : oneOf "eE".toList (mark :: (sign ++ digits ++ tail)) = .done (sign ++ digits ++ tail) mark :=
    satisfy_of_true (by simpa using marks)
  obtain ⟨found, signed⟩ :
      ∃ found, (oneOf "+-".toList).opt (sign ++ digits ++ tail) = .done (digits ++ tail) found := by
    simp only [List.mem_cons, List.not_mem_nil, or_false] at signs
    rcases signs with rfl | rfl | rfl
    · obtain ⟨digit, more, rfl, isDigit, -⟩ := number
      refine ⟨none, Parser.opt_of_error (satisfy_of_stops (.cons ?_ _))⟩
      rw [Bool.eq_false_iff]
      intro member
      have other : "+-".toList.all (!·.isDigit) = true := by decide
      have refused := List.all_eq_true.mp other digit (by simpa using member)
      rw [isDigit] at refused
      cases refused
    · exact ⟨_, Parser.opt_of_done (satisfy_of_true (by decide))⟩
    · exact ⟨_, Parser.opt_of_done (satisfy_of_true (by decide))⟩
  have read : exponent (mark :: (sign ++ digits) ++ tail) = decimal (digits ++ tail) := by
    rw [List.cons_append, exponent, Parser.bind_of_done marked, Parser.bind_of_done signed]
  exact ⟨tail.dropWhile isDecimalChar, _, read.trans (number.read tail), List.dropWhile_suffix _⟩

end Exponents

section Recognition

variable {input rest number other tail digits : Str}

/-- A parser that always reads on or refuses has something to give where it is optional. -/
theorem opt_total {α : Type} {parser : Parser Char α} (complete : parser.Never .incomplete)
    (sound : parser.Never .panicked) (input : Str) : ∃ rest found, parser.opt input = .done rest found := by
  cases outcome : parser input with
  | done rest value => exact ⟨rest, some value, Parser.opt_of_done outcome⟩
  | error => exact ⟨input, none, Parser.opt_of_error outcome⟩
  | incomplete => exact absurd outcome (complete input)
  | panicked => exact absurd outcome (sound input)

theorem decimalOpt_eq_done {found : Option Str} (read : decimal.opt input = .done rest found) :
    ∃ digits, input = digits ++ rest ∧ (digits = [] ∨ IsDecimal digits) := by
  rcases Parser.opt_eq_done read with rfl | ⟨digits, read⟩
  · exact ⟨[], rfl, .inl rfl⟩
  · obtain ⟨whole, number⟩ := decimal_eq_done read
    exact ⟨digits, whole, .inr number⟩

theorem exponentOpt_eq_done {found : Option Str} (read : exponent.opt input = .done rest found) :
    ∃ text, input = text ++ rest ∧ (text = [] ∨ IsExponent text) := by
  rcases Parser.opt_eq_done read with rfl | ⟨_, read⟩
  · exact ⟨[], rfl, .inl rfl⟩
  · obtain ⟨text, whole, given⟩ := exponent_eq_done read
    exact ⟨text, whole, .inr given⟩

theorem fractionOpt_eq_done {found : Option Str} (read : ((char '.').preceded decimal).opt input = .done rest found) :
    ∃ text, input = text ++ rest ∧ (text = [] ∨ ∃ digits, IsDecimal digits ∧ text = '.' :: digits) := by
  rcases Parser.opt_eq_done read with rfl | ⟨digits, read⟩
  · exact ⟨[], rfl, .inl rfl⟩
  · obtain ⟨middle, point, pointed, numbered⟩ := Parser.bind_eq_done.mp read
    obtain ⟨rfl, number⟩ := decimal_eq_done numbered
    obtain ⟨whole, same⟩ := satisfy_eq_done pointed
    rw [of_decide_eq_true same] at whole
    exact ⟨'.' :: digits, whole, .inr ⟨digits, number, rfl⟩⟩

theorem recognized_float {α : Type} {parser : Parser Char α} {text : Str}
    (read : parser.recognize input = .done rest number) (whole : input = text ++ rest) (given : FloatText text) :
    input = number ++ rest ∧ FloatText number := by
  rw [whole] at read ⊢
  rw [Parser.recognize_unique read]
  exact ⟨rfl, given⟩

theorem floatText_eq_done (read : floatText input = .done rest number) :
    input = number ++ rest ∧ FloatText number := by
  rcases Parser.alt_eq_done.mp read with recognized | ⟨-, read⟩
  · obtain ⟨_, inner, -⟩ := Parser.recognize_eq_done recognized
    obtain ⟨_, point, pointed, inner⟩ := Parser.bind_eq_done.mp inner
    obtain ⟨_, digits, numbered, inner⟩ := Parser.bind_eq_done.mp inner
    obtain ⟨text, rfl, last⟩ := exponentOpt_eq_done inner
    obtain ⟨rfl, given⟩ := decimal_eq_done numbered
    obtain ⟨whole, same⟩ := satisfy_eq_done pointed
    rw [of_decide_eq_true same, ← List.append_assoc] at whole
    exact recognized_float recognized whole (.fraction given last)
  rcases Parser.alt_eq_done.mp read with recognized | ⟨-, read⟩
  · obtain ⟨_, inner, -⟩ := Parser.recognize_eq_done recognized
    obtain ⟨_, digits, numbered, inner⟩ := Parser.bind_eq_done.mp inner
    obtain ⟨_, _, broken, inner⟩ := Parser.bind_eq_done.mp inner
    obtain ⟨last, rfl, given⟩ := exponent_eq_done inner
    obtain ⟨fraction, rfl, parts⟩ := fractionOpt_eq_done broken
    obtain ⟨whole, given'⟩ := decimal_eq_done numbered
    rw [← List.append_assoc, ← List.append_assoc, List.append_assoc digits] at whole
    exact recognized_float recognized whole (.scientific given' parts given)
  rw [Parser.alt_singleton] at read
  obtain ⟨_, inner, -⟩ := Parser.recognize_eq_done read
  obtain ⟨_, digits, numbered, inner⟩ := Parser.bind_eq_done.mp inner
  obtain ⟨_, point, pointed, inner⟩ := Parser.bind_eq_done.mp inner
  obtain ⟨last, rfl, given⟩ := decimalOpt_eq_done inner
  obtain ⟨rfl, same⟩ := satisfy_eq_done pointed
  obtain ⟨whole, given'⟩ := decimal_eq_done numbered
  rw [of_decide_eq_true same, ← List.cons_append, ← List.append_assoc] at whole
  exact recognized_float read whole (.point given' given)

theorem IsDecimal.noFraction (given : IsDecimal digits) (tail : Str) : fractionForm (digits ++ tail) = .error := by
  obtain ⟨digit, more, rfl, isDigit, -⟩ := given
  apply Parser.bind_of_error
  apply satisfy_of_stops
  apply Stops.cons
  rw [decide_eq_false_iff_not]
  rintro rfl
  exact absurd isDigit (by decide)

/-- A decimal number is read up to the point or the exponent behind it. -/
theorem IsDecimal.read_until (given : IsDecimal digits) (stops : Stops isDecimalChar tail) :
    decimal (digits ++ tail) = .done tail digits := by
  obtain ⟨taken, dropped⟩ := takeWhile_of_stops stops
  rw [given.read, taken, dropped, List.append_nil]

theorem fractionOpt_of_exponent {fraction last : Str}
    (parts : fraction = [] ∨ ∃ digits, IsDecimal digits ∧ fraction = '.' :: digits) (given : IsExponent last)
    (tail : Str) : Stops isDecimalChar (fraction ++ (last ++ tail)) ∧
      ∃ found, ((char '.').preceded decimal).opt (fraction ++ (last ++ tail)) = .done (last ++ tail) found := by
  have stops := given.stops tail
  rcases parts with rfl | ⟨digits, number, rfl⟩
  · refine ⟨stops, none, Parser.opt_of_error (Parser.preceded_of_error (satisfy_of_stops ?_))⟩
    obtain ⟨mark, sign, digits, rfl, marks, -, -⟩ := given
    have other : ['e', 'E'].any (· = '.') = false := by decide
    exact .cons (by simpa using List.any_eq_false.mp other mark marks) _
  · refine ⟨.cons (by decide) _, some digits, Parser.opt_of_done ?_⟩
    exact Parser.preceded_of_done (satisfy_of_true (by decide)) (number.read_until stops)

theorem decimalOpt_read (given : digits = [] ∨ IsDecimal digits) (tail : Str) :
    ∃ rest found, decimal.opt (digits ++ tail) = .done rest found ∧ rest <:+ tail := by
  rcases given with rfl | number
  · obtain ⟨rest, found, read⟩ := opt_total decimal_never decimal_never tail
    exact ⟨rest, found, read, decimal_local.opt.suffix read⟩
  · exact ⟨_, _, Parser.opt_of_done (number.read tail), List.dropWhile_suffix _⟩

/-- Behind a point, an exponent stands only behind all of the digits. -/
theorem scientific_beyond {whole found : Str} (parts : digits = [] ∨ IsDecimal digits)
    (first : decimal (whole ++ '.' :: (digits ++ tail)) = .done ('.' :: (digits ++ tail)) whole)
    (read : scientificForm (whole ++ '.' :: (digits ++ tail)) = .done rest found) : rest <:+ tail := by
  rw [scientificForm, Parser.bind_of_done first] at read
  obtain ⟨middle, _, broken, read⟩ := Parser.bind_eq_done.mp read
  have shrinks := exponent_local.suffix read
  rcases Parser.opt_eq_done broken with rfl | ⟨_, fraction⟩
  · obtain ⟨text, whole', given⟩ := exponent_eq_done read
    obtain ⟨mark, sign, digits, rfl, marks, -, -⟩ := given
    injection whole' with same
    rw [← same] at marks
    exact absurd marks (by decide)
  · obtain ⟨middle', _, pointed, numbered⟩ := Parser.bind_eq_done.mp fraction
    obtain ⟨same, -⟩ := satisfy_eq_done pointed
    injection same with _ same
    rw [← same] at numbered
    obtain ⟨rest', found', read', inside⟩ := decimalOpt_read parts tail
    rw [Parser.opt_of_done numbered] at read'
    cases read'
    exact shrinks.trans inside

/-- Of the numbers that stand at the front of a text the longest one is read. -/
theorem FloatText.read (given : FloatText other) (tail : Str) :
    ∃ rest number, floatText (other ++ tail) = .done rest number ∧ rest <:+ tail := by
  cases given with
  | @fraction digits last number parts =>
    obtain ⟨rest, found, read, inside⟩ : ∃ rest found, exponent.opt ((last ++ tail).dropWhile isDecimalChar) =
        .done rest found ∧ rest <:+ tail := by
      rcases parts with rfl | given
      · obtain ⟨rest, found, read⟩ := opt_total exponent_never exponent_never (tail.dropWhile isDecimalChar)
        exact ⟨rest, found, read, (exponent_local.opt.suffix read).trans (List.dropWhile_suffix _)⟩
      · obtain ⟨rest, digits, read, inside⟩ := given.read tail
        rw [(takeWhile_of_stops (given.stops tail)).2]
        exact ⟨rest, some digits, Parser.opt_of_done read, inside⟩
    have pointed : char '.' ('.' :: (digits ++ last) ++ tail) = .done (digits ++ (last ++ tail)) '.' := by
      rw [List.cons_append, List.append_assoc]
      exact satisfy_of_true (by decide)
    have whole : fractionForm ('.' :: (digits ++ last) ++ tail) = .done rest found := by
      rw [fractionForm, Parser.bind_of_done pointed, Parser.bind_of_done (number.read _), read]
    obtain ⟨text, recognized⟩ := Parser.recognize_of_read whole
    exact ⟨rest, text, Parser.alt_of_done recognized, inside⟩
  | @scientific whole fraction last number parts given =>
    obtain ⟨stops, found, broken⟩ := fractionOpt_of_exponent parts given tail
    obtain ⟨rest, digits, read, inside⟩ := given.read tail
    rw [List.append_assoc, List.append_assoc]
    have joined : scientificForm (whole ++ (fraction ++ (last ++ tail))) = .done rest digits := by
      rw [scientificForm, Parser.bind_of_done (number.read_until stops), Parser.bind_of_done broken, read]
    obtain ⟨text, recognized⟩ := Parser.recognize_of_read joined
    rw [floatText, Parser.alt_of_error (Parser.recognize_of_error (number.noFraction _))]
    exact ⟨rest, text, Parser.alt_of_done recognized, inside⟩
  | @point whole digits number parts =>
    obtain ⟨rest, found, read, inside⟩ := decimalOpt_read parts tail
    rw [List.append_assoc, List.cons_append]
    have first := number.read_until (.cons (by decide) _ : Stops isDecimalChar ('.' :: (digits ++ tail)))
    have pointed : char '.' ('.' :: (digits ++ tail)) = .done (digits ++ tail) '.' := satisfy_of_true (by decide)
    rw [floatText, Parser.alt_of_error (Parser.recognize_of_error (number.noFraction _))]
    cases outcome : scientificForm (whole ++ '.' :: (digits ++ tail)) with
    | done rest' digits' =>
      obtain ⟨text, recognized⟩ := Parser.recognize_of_read outcome
      exact ⟨rest', text, Parser.alt_of_done recognized, scientific_beyond parts first outcome⟩
    | error =>
      have joined : pointForm (whole ++ '.' :: (digits ++ tail)) = .done rest found := by
        rw [pointForm, Parser.bind_of_done first, Parser.bind_of_done pointed, read]
      obtain ⟨text, recognized⟩ := Parser.recognize_of_read joined
      rw [Parser.alt_of_error (Parser.recognize_of_error outcome)]
      exact ⟨rest, text, Parser.alt_of_done recognized, inside⟩
    | incomplete => exact absurd outcome (@scientificForm_never .incomplete _)
    | panicked => exact absurd outcome (@scientificForm_never .panicked _)

end Recognition

def dropSign : Str → Str
  | '+' :: rest => rest
  | '-' :: rest => rest
  | text => text

/-- `('e' | 'E') Sign? Digit+`, or nothing. -/
def isExponentOpt : Str → Bool
  | [] => true
  | mark :: rest => (mark = 'e' || mark = 'E') && (dropSign rest).all Char.isDigit && !(dropSign rest).isEmpty

/-- `(Digit+ | Digit+ '.' Digit* | Digit* '.' Digit+) Exp?` -/
def isNumber (text : Str) : Bool :=
  match text.dropWhile Char.isDigit with
  | '.' :: rest =>
    (!(text.takeWhile Char.isDigit).isEmpty || !(rest.takeWhile Char.isDigit).isEmpty) &&
      isExponentOpt (rest.dropWhile Char.isDigit)
  | rest => !(text.takeWhile Char.isDigit).isEmpty && isExponentOpt rest

/-- The documented grammar of `f64::from_str`: `Sign? ('inf' | 'infinity' | 'nan' | Number)`, whatever the case. -/
def isF64 (text : Str) : Bool :=
  isNumber (dropSign text) ||
    ["inf".toList, "infinity".toList, "nan".toList].contains ((dropSign text).map Char.toLower)

section Conversion

variable {text tail digits : Str}

theorem underscore_dropSign (member : '_' ∈ text) : '_' ∈ dropSign text := by
  unfold dropSign
  split <;> simpa using member

theorem underscore_not_digits (all : ∀ letter ∈ digits, letter.isDigit = true) : '_' ∉ digits := by
  intro member
  exact absurd (all '_' member) (by decide)

theorem isExponentOpt_plain (given : isExponentOpt text = true) : '_' ∉ text := by
  cases text with
  | nil => simp
  | cons mark rest =>
    simp only [isExponentOpt, Bool.and_eq_true, Bool.or_eq_true, decide_eq_true_eq, List.all_eq_true] at given
    obtain ⟨⟨marks, all⟩, -⟩ := given
    rw [List.mem_cons, not_or]
    refine ⟨?_, fun member => underscore_not_digits all (underscore_dropSign member)⟩
    rcases marks with rfl | rfl <;> decide

theorem isNumber_plain (given : isNumber text = true) : '_' ∉ text := by
  have front : '_' ∉ text.takeWhile Char.isDigit := underscore_not_digits fun _ member => List.mem_takeWhile_imp member
  rw [← List.takeWhile_append_dropWhile (p := Char.isDigit) (l := text), List.mem_append, not_or]
  refine ⟨front, ?_⟩
  unfold isNumber at given
  split at given
  · rename_i rest split
    rw [split, List.mem_cons, not_or]
    refine ⟨by decide, ?_⟩
    rw [← List.takeWhile_append_dropWhile (p := Char.isDigit) (l := rest), List.mem_append, not_or]
    exact ⟨underscore_not_digits fun _ member => List.mem_takeWhile_imp member,
      isExponentOpt_plain (Bool.and_eq_true_iff.mp given).2⟩
  · exact isExponentOpt_plain (Bool.and_eq_true_iff.mp given).2

/-- No number that is converted has an underscore. -/
theorem isF64_plain (given : isF64 text = true) : '_' ∉ text := by
  intro member
  have member' := underscore_dropSign member
  rcases Bool.or_eq_true_iff.mp given with number | named
  · exact isNumber_plain number member'
  · have names : ["inf".toList, "infinity".toList, "nan".toList].all (!·.contains '_') = true := by decide
    have plain := List.all_eq_true.mp names _ (List.contains_iff_mem.mp named)
    have lower : '_' ∈ (dropSign text).map Char.toLower := List.mem_map.mpr ⟨'_', member', by decide⟩
    rw [List.contains_iff_mem.mpr lower] at plain
    cases plain

theorem IsDecimal.all_digits (given : IsDecimal text) (plain : '_' ∉ text) :
    text ≠ [] ∧ ∀ letter ∈ text, letter.isDigit = true := by
  obtain ⟨digit, more, rfl, isDigit, all⟩ := given
  refine ⟨by simp, ?_⟩
  intro letter member
  rcases List.mem_cons.mp member with rfl | inside
  · exact isDigit
  · have kind := all letter inside
    rw [isDecimalChar, Bool.or_eq_true, decide_eq_true_eq] at kind
    rcases kind with isDigit' | rfl
    · exact isDigit'
    · exact absurd member plain

theorem dropSign_of_digits (present : digits ≠ []) (all : ∀ letter ∈ digits, letter.isDigit = true) (tail : Str) :
    dropSign (digits ++ tail) = digits ++ tail := by
  cases digits with
  | nil => exact absurd rfl present
  | cons digit more =>
    have isDigit := all digit (by simp)
    unfold dropSign
    split
    case h_1 same =>
      cases same
      exact absurd isDigit (by decide)
    case h_2 same =>
      cases same
      exact absurd isDigit (by decide)
    case h_3 => rfl

theorem IsExponent.isExponentOpt (given : IsExponent text) (plain : '_' ∉ text) : isExponentOpt text = true := by
  obtain ⟨mark, sign, digits, rfl, marks, signs, number⟩ := given
  simp only [List.mem_cons, List.mem_append, not_or] at plain
  obtain ⟨present, all⟩ := number.all_digits plain.2.2
  have unsigned : dropSign (sign ++ digits) = digits := by
    simp only [List.mem_cons, List.not_mem_nil, or_false] at signs
    rcases signs with rfl | rfl | rfl
    · simpa using dropSign_of_digits present all []
    · rfl
    · rfl
  simp only [List.mem_cons, List.not_mem_nil, or_false] at marks
  simpa [Msggen.isExponentOpt, unsigned, marks, present] using all

theorem exponentOpt_plain (parts : text = [] ∨ IsExponent text) (plain : '_' ∉ text) :
    isExponentOpt text = true ∧ Stops Char.isDigit text := by
  rcases parts with rfl | given
  · exact ⟨rfl, by simp [Stops]⟩
  · refine ⟨given.isExponentOpt plain, ?_⟩
    obtain ⟨mark, sign, digits, rfl, marks, -, -⟩ := given
    have other : ['e', 'E'].any Char.isDigit = false := by decide
    exact .cons (by simpa using List.any_eq_false.mp other mark marks) _

/-- Digits on one side of the point are enough. -/
theorem isNumber_point {whole last : Str} (all : ∀ letter ∈ whole, letter.isDigit = true)
    (all' : ∀ letter ∈ digits, letter.isDigit = true) (present : whole ≠ [] ∨ digits ≠ [])
    (parts : last = [] ∨ IsExponent last) (plain : '_' ∉ last) :
    isNumber (whole ++ '.' :: (digits ++ last)) = true := by
  obtain ⟨given, stops⟩ := exponentOpt_plain parts plain
  obtain ⟨taken, dropped⟩ := takeWhile_append_of_stops all
    (.cons (by decide) _ : Stops Char.isDigit ('.' :: (digits ++ last)))
  obtain ⟨taken', dropped'⟩ := takeWhile_append_of_stops all' stops
  rw [isNumber, taken, dropped]
  simp only [taken', dropped', given, Bool.and_true, Bool.or_eq_true, Bool.not_eq_true', List.isEmpty_eq_false_iff]
  exact present

theorem isNumber_whole {whole last : Str} (all : ∀ letter ∈ whole, letter.isDigit = true) (present : whole ≠ [])
    (given : IsExponent last) (plain : '_' ∉ last) : isNumber (whole ++ last) = true := by
  obtain ⟨shape, stops⟩ := exponentOpt_plain (.inr given) plain
  obtain ⟨taken, dropped⟩ := takeWhile_append_of_stops all stops
  rw [isNumber, taken, dropped]
  obtain ⟨mark, sign, digits, rfl, marks, -, -⟩ := given
  simp only [List.mem_cons, List.not_mem_nil, or_false] at marks
  rcases marks with rfl | rfl <;> exact Bool.and_eq_true_iff.mpr ⟨by simpa using present, shape⟩

/-- Without underscores, every number that is read is converted. -/
theorem FloatText.isF64 (given : FloatText text) (plain : '_' ∉ text) : isF64 text = true := by
  apply Bool.or_eq_true_iff.mpr
  left
  cases given with
  | @fraction digits last number parts =>
    simp only [List.mem_cons, List.mem_append, not_or] at plain
    obtain ⟨present, all⟩ := number.all_digits plain.2.1
    have none : ∀ letter ∈ ([] : Str), letter.isDigit = true := by simp
    exact isNumber_point none all (.inr present) parts plain.2.2
  | @scientific whole fraction last number parts given =>
    simp only [List.mem_append, not_or] at plain
    obtain ⟨present, all⟩ := number.all_digits plain.1
    rw [dropSign_of_digits present all]
    rcases parts with rfl | ⟨digits, number', rfl⟩
    · exact isNumber_whole all present given plain.2.2
    · obtain ⟨present', all'⟩ := number'.all_digits fun member => plain.2.1 (List.mem_cons_of_mem _ member)
      exact isNumber_point all all' (.inl present) (.inr given) plain.2.2
  | @point whole digits number parts =>
    simp only [List.mem_append, List.mem_cons, not_or] at plain
    obtain ⟨present, all⟩ := number.all_digits plain.1
    have all' : ∀ letter ∈ digits, letter.isDigit = true := by
      rcases parts with rfl | number'
      · simp
      · exact (number'.all_digits plain.2.2).2
    rw [dropSign_of_digits present all, ← List.append_nil digits]
    exact isNumber_point all all' (.inl present) (.inl rfl) (by simp)

variable {value : Str}

theorem float_panicked (documented : ∀ text, (f64FromStr text).isSome = Msggen.isF64 text) :
    float f64FromStr value = .panicked ↔ ∃ number, number <+: value ∧ FloatText number ∧ '_' ∈ number := by
  rw [float_eq, Parser.expect_eq_panicked]
  constructor
  · rintro (failed | ⟨rest, number, read, refused⟩)
    · exact absurd failed (@floatText_never .panicked value)
    · obtain ⟨rfl, given⟩ := floatText_eq_done read
      refine ⟨number, List.prefix_append _ _, given, ?_⟩
      by_contra plain
      have converts := documented number
      rw [refused, given.isF64 plain] at converts
      cases converts
  · rintro ⟨other, ⟨tail, rfl⟩, given, member⟩
    obtain ⟨rest, number, read, inside⟩ := given.read tail
    refine .inr ⟨rest, number, read, ?_⟩
    obtain ⟨more, rfl⟩ := inside
    obtain ⟨whole, -⟩ := floatText_eq_done read
    rw [← List.append_assoc] at whole
    have member' : '_' ∈ number := by
      rw [← List.append_cancel_right whole]
      exact List.mem_append_left _ member
    rw [← Option.not_isSome_iff_eq_none, documented]
    exact fun converts => isF64_plain converts member'

theorem float_error : float f64FromStr value = .error ↔ ¬∃ number, number <+: value ∧ FloatText number := by
  rw [float_eq]
  constructor
  · rintro refused ⟨other, ⟨tail, rfl⟩, given⟩
    obtain ⟨rest, number, read, -⟩ := given.read tail
    cases converts : f64FromStr number with
    | some result =>
      rw [Parser.expect_of_done read converts] at refused
      cases refused
    | none =>
      rw [Parser.expect_eq_panicked.mpr (.inr ⟨rest, number, read, converts⟩)] at refused
      cases refused
  · intro none
    cases outcome : floatText value with
    | done rest number =>
      obtain ⟨rfl, given⟩ := floatText_eq_done outcome
      exact absurd ⟨number, List.prefix_append _ _, given⟩ none
    | error => exact Parser.expect_of_error outcome
    | incomplete => exact absurd outcome (@floatText_never .incomplete value)
    | panicked => exact absurd outcome (@floatText_never .panicked value)

theorem FloatText.begins {number : Str} (given : FloatText number) :
    ∃ letter more, number = letter :: more ∧ (letter = '.' ∨ letter.isDigit = true) := by
  cases given with
  | fraction number parts => exact ⟨'.', _, rfl, .inl rfl⟩
  | scientific number parts last =>
    obtain ⟨digit, more, rfl, isDigit, -⟩ := number
    exact ⟨digit, _, rfl, .inr isDigit⟩
  | point number parts =>
    obtain ⟨digit, more, rfl, isDigit, -⟩ := number
    exact ⟨digit, _, rfl, .inr isDigit⟩

theorem float_minus {rest : Str} : float f64FromStr ('-' :: rest) = .error := by
  apply float_error.mpr
  intro ⟨number, found, given⟩
  obtain ⟨letter, more, rfl, begins⟩ := given.begins
  have same : letter = '-' := (List.cons_prefix_cons.mp found).1
  rw [same] at begins
  exact absurd begins (by decide)

end Conversion

end Ros2Client.Msggen
