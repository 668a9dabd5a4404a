import Ros2Client.Msggen.Floats
import Ros2Client.Msggen.Heads
import Ros2Client.Msggen.Completeness

open Parsing

namespace Ros2Client.Msggen

variable {Double : Type} {f64FromStr : Str → Option Double}

def BeginsFloat (value : Str) : Prop := ∃ number, number <+: value ∧ FloatText number

/-- The text begins with a number that is read as one and has no conversion. -/
inductive Unconvertible : Str → Prop
  | float {number value : Str} : number <+: value → FloatText number → '_' ∈ number → Unconvertible value
  | unsigned {value : Str} : ¬BeginsFloat value → TooLarge value → Unconvertible value
  | negative {magnitude : Str} : TooLarge magnitude ∨ leadingNumber magnitude = 2 ^ 63 →
      Unconvertible ('-' :: magnitude)

def LineUnconvertible (text : Str) : Prop :=
  TypeTooLarge (text.dropWhile isSpace) ∨ ∃ value, ValueText (text.dropWhile isSpace) value ∧ Unconvertible value

section Values

variable {value : Str}

theorem intValue_panicked : (intValue : Parser Char (Value Double)) value = .panicked ↔
    ∃ magnitude, value = '-' :: magnitude ∧ (TooLarge magnitude ∨ leadingNumber magnitude = 2 ^ 63) := by
  rw [intValue, Parser.map_eq_panicked, Parser.expect_eq_panicked, marked_panicked]
  constructor
  · rintro (⟨magnitude, rfl, large⟩ | ⟨rest, number, read, failed⟩)
    · exact ⟨magnitude, rfl, .inl large⟩
    · obtain ⟨magnitude, _, marked, numbered⟩ := Parser.bind_eq_done.mp read
      obtain ⟨-, rfl⟩ := tag_eq_done marked
      obtain ⟨_, -, -, -, -, fits, rfl⟩ := uintValue_eq_done numbered
      rw [negated_eq_none, UInt64.toNat_ofNat_of_lt' fits] at failed
      exact ⟨magnitude, rfl, .inr failed⟩
  · rintro ⟨magnitude, rfl, large | least⟩
    · exact .inl ⟨magnitude, rfl, large⟩
    · have goes : ¬Stops Char.isDigit magnitude := by
        intro stops
        rw [leadingNumber_of_stops stops] at least
        omega
      have numbered := uintValue_of_digits (digits_of_not_stops goes)
      rw [if_pos (by omega), least] at numbered
      exact .inr ⟨_, _, Parser.preceded_of_done (tag_append ['-'] magnitude) numbered, by decide⟩

theorem valueSpec_panicked (documented : ∀ text, (f64FromStr text).isSome = isF64 text) :
    valueSpec f64FromStr value = .panicked ↔ Unconvertible value := by
  have bools : Parser.Never .panicked (boolValue : Parser Char (Value Double)) := boolValue_never
  have strings : Parser.Never .panicked (stringValue : Parser Char (Value Double)) := .map _ parseString_never
  rw [valueSpec, Parser.alt_eq_panicked, Parser.alt_eq_panicked, Parser.alt_eq_panicked, Parser.alt_eq_panicked,
    Parser.alt_singleton, Parser.map_eq_panicked, Parser.map_eq_panicked, Parser.map_eq_error,
    float_panicked documented,
    float_error, intValue_panicked, uintValue_panicked]
  constructor
  · rintro (failed | ⟨-, ⟨number, found, given, member⟩ |
      ⟨noFloat, ⟨magnitude, rfl, large⟩ | ⟨-, large | ⟨-, failed⟩⟩⟩⟩)
    · exact absurd failed (bools value)
    · exact .float found given member
    · exact .negative large
    · exact .unsigned noFloat large
    · exact absurd failed (strings value)
  · intro failed
    cases failed with
    | @float number _ found given member =>
      obtain ⟨letter, more, rfl, begins⟩ := given.begins
      obtain ⟨rest, rfl⟩ := found
      exact .inr ⟨boolValue_of_number (begins.imp_right .inr) _, .inl ⟨_, ⟨rest, rfl⟩, given, member⟩⟩
    | unsigned noFloat large =>
      obtain ⟨digit, more, rfl, isDigit⟩ := large.begins
      exact .inr ⟨boolValue_of_number (.inr (.inr isDigit)) _,
        .inr ⟨noFloat, .inr ⟨intValue_of_digit isDigit _, .inl large⟩⟩⟩
    | @negative magnitude large =>
      have noFloat : float f64FromStr ('-' :: magnitude) = .error := float_minus
      exact .inr ⟨boolValue_of_number (.inr (.inl rfl)) _, .inr ⟨float_error.mp noFloat, .inl ⟨magnitude, rfl, large⟩⟩⟩

end Values

section Lines

variable {text : Str}

theorem constantHead_panicked : constantHead text = .panicked ↔ TypeTooLarge text := by
  rw [← typeSpec_panicked]
  constructor
  · intro failed
    rcases Parser.bind_eq_panicked.mp failed with failed | ⟨middle, typeName, -, failed⟩
    · exact failed
    · have never : Parser.Never .panicked (do
          let _ ← space0
          let constName ← identifier
          let _ ← space0
          let _ ← tag "=".toList
          let _ ← space0
          return (typeName, constName)) :=
        .bind (.takeWhile0 _) fun _ => .bind identifier_never fun _ => .bind (.takeWhile0 _) fun _ =>
          .bind (.tag _) fun _ => .bind (.takeWhile0 _) fun _ => .pure _
      exact absurd failed (never middle)
  · exact fun failed => Parser.bind_eq_panicked.mpr (.inl failed)

theorem constant_panicked (documented : ∀ text, (f64FromStr text).isSome = isF64 text) :
    constant f64FromStr text = .panicked ↔
      TypeTooLarge text ∨ ∃ value, ValueText text value ∧ Unconvertible value := by
  rw [constant_eq, Outcome.bind_eq_panicked, constantHead_panicked]
  refine or_congr_right ?_
  constructor
  · intro ⟨value, head, read, failed⟩
    rcases Outcome.bind_eq_panicked.mp failed with failed | ⟨_, _, -, none⟩
    · exact ⟨value, constantHead_eq_done read, (valueSpec_panicked documented).mp failed⟩
    · cases none
  · intro ⟨value, given, failed⟩
    obtain ⟨head, read⟩ := given.read
    exact ⟨value, head, read, Outcome.bind_eq_panicked.mpr (.inl ((valueSpec_panicked documented).mpr failed))⟩

/-- A field that panics is a constant that does. -/
theorem constant_of_field (failed : (field : Parser Char (Item Double)) text = .panicked) :
    constant f64FromStr text = .panicked := by
  have typed : typeSpec text = .panicked := by
    rcases Parser.bind_eq_panicked.mp failed with failed | ⟨middle, typeName, -, failed⟩
    · exact failed
    · have never : Parser.Never .panicked (do
          let _ ← space0
          let fieldName ← identifier
          return (.field typeName fieldName none : Item Double)) :=
        .bind (.takeWhile0 _) fun _ => .bind identifier_never fun _ => .pure _
      exact absurd failed (never middle)
  exact Parser.bind_eq_panicked.mpr (.inl typed)

theorem item_panicked :
    item f64FromStr text = .panicked ↔ constant f64FromStr (text.dropWhile isSpace) = .panicked := by
  rw [item_eq, Outcome.bind_eq_panicked, Parser.alt_eq_panicked, Parser.alt_singleton]
  constructor
  · rintro ((failed | ⟨refused, failed⟩) | ⟨_, _, -, none⟩)
    · exact failed
    · exact constant_of_field failed
    · cases none
  · exact fun failed => .inl (.inl failed)

theorem lineEnding_never (input : Str) : lineEnding input ≠ .panicked := by
  unfold lineEnding
  split <;> exact nofun

theorem line_panicked (documented : ∀ text, (f64FromStr text).isSome = isF64 text) :
    line f64FromStr text = .panicked ↔ LineUnconvertible text := by
  have spaces : Parser.Never .panicked (justSpace : Parser Char (Option (Item Double))) := justSpace_never
  have comments : Parser.Never .panicked comment := comment_never
  rw [LineUnconvertible, ← constant_panicked documented, ← item_panicked]
  constructor
  · intro failed
    rcases Parser.bind_eq_panicked.mp failed with failed | ⟨middle, found, -, failed⟩
    · rcases Parser.pair_eq_panicked.mp failed with failed | ⟨middle, found, -, failed⟩
      · rw [Parser.alt_eq_panicked, Parser.alt_singleton] at failed
        exact failed.resolve_right fun others => spaces text others.2
      · exact absurd (Parser.opt_eq_panicked.mp failed) (comments middle)
    · rcases Parser.bind_eq_panicked.mp failed with failed | ⟨_, _, -, none⟩
      · exact absurd failed (lineEnding_never middle)
      · cases none
  · intro failed
    have first : Parser.alt [item f64FromStr, justSpace] text = .panicked := Parser.alt_eq_panicked.mpr (.inl failed)
    exact Parser.bind_eq_panicked.mpr (.inl (Parser.pair_eq_panicked.mpr (.inl first)))

end Lines

theorem conversions_succeed_iff (f64FromStr : Str → Option Double)
    (documented : ∀ text, (f64FromStr text).isSome = isF64 text) (text : Str) :
    msgSpec f64FromStr text ≠ .panicked ↔
      ¬∃ lines rest, Lines f64FromStr text lines rest ∧ LineUnconvertible rest := by
  rw [not_iff_not, msgSpec, Parser.many0_eq_panicked_iff]
  constructor
  · intro ⟨lines, rest, reads, failed⟩
    exact ⟨lines, rest, reads_line_iff.mp reads, (line_panicked documented).mp failed⟩
  · intro ⟨lines, rest, cut, failed⟩
    exact ⟨lines, rest, reads_line_iff.mpr cut, (line_panicked documented).mpr failed⟩

/-- A number with a point and without underscores. -/
theorem conversions_succeed_float : ¬∃ lines rest,
    Lines (fun text => if isF64 text then some (3 / 2 : Rat) else none) "float64 X=1.5\n".toList lines rest ∧
      LineUnconvertible rest := by
  refine (conversions_succeed_iff _ ?_ _).mp (by decide)
  intro text
  cases isF64 text <;> rfl

/-- A bound of 65 bits, an underscore in front of a point, and the least number of 64 bits. -/
theorem conversions_fail : ∃ f64FromStr : Str → Option Rat, (∀ text, (f64FromStr text).isSome = isF64 text) ∧
    msgSpec f64FromStr "int32[18446744073709551616] x\n".toList = .panicked ∧
    msgSpec f64FromStr "float64 X=1_0.5\n".toList = .panicked ∧
    msgSpec f64FromStr "int64 X=-9223372036854775808\n".toList = .panicked := by
  refine ⟨fun text => if isF64 text then some (3 / 2) else none, ?_,
    by decide +kernel, by decide +kernel, by decide +kernel⟩
  intro text
  dsimp only
  cases isF64 text <;> rfl

end Ros2Client.Msggen
