import Ros2Client.Msggen.Lines

open Parsing

namespace Ros2Client.Msggen

variable {Double : Type} {f64FromStr : Str → Option Double}

def leadingNumber (text : Str) : Nat := Nat.ofDigitChars 10 (text.takeWhile Char.isDigit) 0

def TooLarge (text : Str) : Prop := 2 ^ 64 ≤ leadingNumber text

section Unsigned

variable {text rest : Str}

theorem leadingNumber_of_stops (stops : Stops Char.isDigit text) : leadingNumber text = 0 := by
  rw [leadingNumber, (takeWhile_of_stops stops).1]
  rfl

theorem begins_of_not_stops (goes : ¬Stops Char.isDigit text) :
    ∃ digit more, text = digit :: more ∧ digit.isDigit = true := by
  cases text with
  | nil => exact absurd (by simp [Stops]) goes
  | cons letter more =>
    cases isDigit : letter.isDigit with
    | true => exact ⟨letter, more, rfl, isDigit⟩
    | false => exact absurd (.cons isDigit more) goes

theorem TooLarge.begins (large : TooLarge text) : ∃ digit more, text = digit :: more ∧ digit.isDigit = true := by
  apply begins_of_not_stops
  intro stops
  rw [TooLarge, leadingNumber_of_stops stops] at large
  omega

theorem uintValue_of_digits (present : text.takeWhile Char.isDigit ≠ []) : uintValue text =
    if leadingNumber text < 2 ^ 64 then .done (text.dropWhile Char.isDigit) (.ofNat (leadingNumber text))
    else .panicked := by
  have isDigit : (text.takeWhile Char.isDigit).all Char.isDigit = true :=
    List.all_eq_true.mpr fun _ member => List.mem_takeWhile_imp member
  let numeral : Text.Numeral (leadingNumber text + 1) := ⟨_, present, isDigit, Nat.lt_succ_self _⟩
  have parsed : Text.parseDecimal (text.takeWhile Char.isDigit) = some (leadingNumber text) :=
    numeral.parseDecimal_digits
  have read : digit1 text = .done (text.dropWhile Char.isDigit) (text.takeWhile Char.isDigit) := by
    rw [digit1, takeWhile1, if_neg (by simpa using present)]
  rw [uintValue, Parser.expect, read]
  simp only [Outcome.bind, Text.parseUnsigned, parsed]
  by_cases fits : leadingNumber text < 2 ^ 64
  · rw [if_pos fits, Option.filter_some, if_pos (by simpa using fits)]
    rfl
  · rw [if_neg fits, Option.filter_some, if_neg (by simpa using fits)]
    rfl

theorem digits_of_not_stops (goes : ¬Stops Char.isDigit text) : text.takeWhile Char.isDigit ≠ [] := by
  obtain ⟨digit, more, rfl, isDigit⟩ := begins_of_not_stops goes
  simp [isDigit]

theorem uintValue_of_stops (stops : Stops Char.isDigit text) : uintValue text = .error :=
  Parser.expect_of_error (takeWhile1_of_stops stops)

theorem uintValue_panicked : uintValue text = .panicked ↔ TooLarge text := by
  by_cases stops : Stops Char.isDigit text
  · rw [uintValue_of_stops stops, TooLarge, leadingNumber_of_stops stops]
    simp
  · rw [uintValue_of_digits (digits_of_not_stops stops), TooLarge, ← Nat.not_lt]
    split <;> simp_all

theorem uintValue_error : uintValue text = .error ↔ Stops Char.isDigit text := by
  refine ⟨?_, uintValue_of_stops⟩
  intro refused
  by_contra goes
  rw [uintValue_of_digits (digits_of_not_stops goes)] at refused
  split at refused <;> cases refused

theorem uintValue_eq_done {number : UInt64} (read : uintValue text = .done rest number) :
    ∃ digits, text = digits ++ rest ∧ digits ≠ [] ∧ digits.all Char.isDigit = true ∧ Stops Char.isDigit rest ∧
      leadingNumber text < 2 ^ 64 ∧ number = .ofNat (leadingNumber text) := by
  by_cases stops : Stops Char.isDigit text
  · rw [uintValue_of_stops stops] at read
    cases read
  · have present := digits_of_not_stops stops
    rw [uintValue_of_digits present] at read
    split at read
    · rename_i fits
      cases read
      refine ⟨_, List.takeWhile_append_dropWhile.symm, present,
        List.all_eq_true.mpr fun _ member => List.mem_takeWhile_imp member, stops_dropWhile _ text, fits, rfl⟩
    · cases read

end Unsigned

section Signed

/-- The one number that has no negation is the one that is negative already. -/
theorem negated_eq_none {number : UInt64} : negated number = none ↔ number.toNat = 2 ^ 63 := by
  rw [negated]
  constructor
  · intro none
    split at none
    · rename_i same
      have cast : number = Int64.minValue.toUInt64 := by rw [← same, UInt64.toUInt64_toInt64]
      rw [cast]
      decide
    · cases none
  · intro same
    have cast : number = UInt64.ofNat (2 ^ 63) := by rw [← same, UInt64.ofNat_toNat]
    rw [cast]
    decide

theorem boolValue_of_number {letter : Char} (begins : letter = '.' ∨ letter = '-' ∨ letter.isDigit = true)
    (rest : Str) :
    (boolValue : Parser Char (Value Double)) (letter :: rest) = .error := by
  apply boolValue_of_head
  · rintro rfl
    exact absurd begins (by decide)
  · rintro rfl
    exact absurd begins (by decide)

theorem intValue_of_digit {digit : Char} (isDigit : digit.isDigit = true) (rest : Str) :
    (intValue : Parser Char (Value Double)) (digit :: rest) = .error := by
  have other : '-' ≠ digit := by
    rintro rfl
    exact absurd isDigit (by decide)
  exact Parser.map_of_error _ (Parser.expect_of_error (Parser.preceded_of_error (tag_of_head other)))

end Signed

def isDecimalChar (letter : Char) : Bool := letter.isDigit || letter = '_'

def IsDecimal (text : Str) : Prop :=
  ∃ digit more, text = digit :: more ∧ digit.isDigit = true ∧ ∀ letter ∈ more, isDecimalChar letter = true

section Decimals

variable {text rest : Str} {digit : Char}

theorem mem_digits {digit : Char} (isDigit : digit.isDigit = true) : digit ∈ "0123456789".toList := by
  have bounds : 48 ≤ digit.toNat ∧ digit.toNat ≤ 57 := by
    simpa [Char.isDigit, UInt32.le_iff_toNat_le] using isDigit
  have value : digit = Char.ofNat digit.toNat := (Char.ofNat_toNat digit).symm
  have all : ∀ place < 10, Char.ofNat (48 + place) ∈ "0123456789".toList := by decide
  have found := all (digit.toNat - 48) (by omega)
  rwa [Nat.add_sub_cancel' bounds.1, ← value] at found

theorem isDigit_iff_mem {letter : Char} : "0123456789".toList.contains letter = true ↔ letter.isDigit = true := by
  constructor
  · intro member
    have all : "0123456789".toList.all Char.isDigit = true := by decide
    exact List.all_eq_true.mp all letter (by simpa using member)
  · intro isDigit
    simpa using mem_digits isDigit

theorem digitPart_digit (isDigit : digit.isDigit = true) (text : Str) :
    digitPart (digit :: text) = .done (text.dropWhile (· = '_')) digit := by
  have first : oneOf "0123456789".toList (digit :: text) = .done text digit :=
    satisfy_of_true (isDigit_iff_mem.mpr isDigit)
  obtain ⟨values, further⟩ : ∃ values, (char '_').many0 text = .done (text.dropWhile (· = '_')) values := by
    apply many0_of_stretches
    · intro input stops
      exact satisfy_of_stops stops
    · intro item input same
      refine ⟨input, item, satisfy_of_true same, by simp, ?_⟩
      simp [of_decide_eq_true same]
  exact Parser.terminated_of_done first further

theorem digitPart_refused {input : Str} (stops : Stops Char.isDigit input) : digitPart input = .error := by
  apply Parser.terminated_of_error
  apply satisfy_of_stops
  intro letter head
  have other := stops letter head
  rw [Bool.eq_false_iff] at other ⊢
  exact fun member => other (isDigit_iff_mem.mp member)

/-- Behind a digit and its underscores, what is left of a number begins with a digit again. -/
theorem many0_digitPart_of_stops (stops : Stops (· = '_') text) :
    ∃ values, digitPart.many0 text = .done (text.dropWhile isDecimalChar) values := by
  induction length : text.length using Nat.strongRecOn generalizing text with
  | ind count ih =>
    cases text with
    | nil => exact ⟨[], Parser.many0_of_error (digitPart_refused (by simp [Stops]))⟩
    | cons letter more =>
      cases isDigit : letter.isDigit with
      | true =>
        have shorter : (more.dropWhile (· = '_')).length < (letter :: more).length :=
          Nat.lt_succ_of_le (List.dropWhile_sublist _).length_le
        obtain ⟨values, further⟩ := ih _ (by omega) (stops_dropWhile _ more) rfl
        have same : (more.dropWhile (· = '_')).dropWhile isDecimalChar = (letter :: more).dropWhile isDecimalChar := by
          rw [dropWhile_dropWhile (fun item inside => by simp [isDecimalChar, of_decide_eq_true inside]),
            List.dropWhile_cons_of_pos (by simp [isDecimalChar, isDigit])]
        rw [same] at further
        exact ⟨_, Parser.many0_of_done (digitPart_digit isDigit more) shorter further⟩
      | false =>
        have other : letter ≠ '_' := by simpa using stops letter rfl
        have ended : isDecimalChar letter = false := by simp [isDecimalChar, isDigit, other]
        rw [List.dropWhile_cons_of_neg (by simp [ended])]
        exact ⟨[], Parser.many0_of_error (digitPart_refused (.cons isDigit more))⟩

theorem decimal_of_digit (isDigit : digit.isDigit = true) (text : Str) : decimal (digit :: text) =
    .done (text.dropWhile isDecimalChar) (digit :: text.takeWhile isDecimalChar) := by
  obtain ⟨values, further⟩ := many0_digitPart_of_stops (stops_dropWhile (· = '_') text)
  rw [dropWhile_dropWhile (fun item inside => by simp [isDecimalChar, of_decide_eq_true inside])] at further
  have read := Parser.many1_of_done (digitPart_digit isDigit text) further
  have whole : digit :: text = (digit :: text.takeWhile isDecimalChar) ++ text.dropWhile isDecimalChar := by
    rw [List.cons_append, List.takeWhile_append_dropWhile]
  rw [whole] at read ⊢
  exact Parser.recognize_of_done read

theorem decimal_refused (stops : Stops Char.isDigit text) : decimal text = .error :=
  Parser.recognize_of_error (Parser.bind_of_error (digitPart_refused stops))

theorem IsDecimal.of_digits {digits : Str} (present : digits ≠ []) (all : ∀ digit ∈ digits, digit.isDigit = true) :
    IsDecimal digits := by
  cases digits with
  | nil => exact absurd rfl present
  | cons digit digits =>
    refine ⟨digit, digits, rfl, all digit (by simp), ?_⟩
    intro letter member
    simp [isDecimalChar, all letter (by simp [member])]

theorem IsDecimal.read {digits : Str} (number : IsDecimal digits) (tail : Str) : decimal (digits ++ tail) =
    .done (tail.dropWhile isDecimalChar) (digits ++ tail.takeWhile isDecimalChar) := by
  obtain ⟨digit, more, rfl, isDigit, all⟩ := number
  rw [List.cons_append, decimal_of_digit isDigit, List.dropWhile_append_of_pos all, List.takeWhile_append_of_pos all]
  rfl

theorem decimal_eq_done {digits : Str} (read : decimal text = .done rest digits) :
    text = digits ++ rest ∧ IsDecimal digits := by
  by_cases stops : Stops Char.isDigit text
  · rw [decimal_refused stops] at read
    cases read
  · obtain ⟨digit, more, rfl, isDigit⟩ := begins_of_not_stops stops
    rw [decimal_of_digit isDigit] at read
    cases read
    refine ⟨by simp, digit, _, rfl, isDigit, fun letter member => List.mem_takeWhile_imp member⟩

end Decimals

end Ros2Client.Msggen
