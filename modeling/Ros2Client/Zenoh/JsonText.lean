import Ros2Client.Text.Delimited
import Ros2Client.Zenoh.TypeDescription

open Text

namespace Ros2Client

theorem hexDigits_four (unit : Nat) : hexDigits 4 unit = [Nat.digitChar (unit / 4096 % 16),
    Nat.digitChar (unit / 256 % 16), Nat.digitChar (unit / 16 % 16), Nat.digitChar (unit % 16)] := by
  simp [hexDigits, List.range_succ]

theorem digitChar_inj {first second : Nat} (small : first < 16) (small' : second < 16)
    (same : Nat.digitChar first = Nat.digitChar second) : first = second := by
  have all : ∀ a < 16, ∀ b < 16, Nat.digitChar a = Nat.digitChar b → a = b := by decide
  exact all first small second small' same

/-- The escapes of two code units. -/
theorem unicodeEscape_inj {first second : Nat} (small : first < 65536) (small' : second < 65536) {rest rest' : Str}
    (same : unicodeEscape first ++ rest = unicodeEscape second ++ rest') : first = second ∧ rest = rest' := by
  simp only [unicodeEscape, List.append_assoc, List.append_cancel_left_eq, hexDigits_four, List.cons_append,
    List.nil_append, List.cons.injEq] at same
  obtain ⟨top, high, low, last, rests⟩ := same
  have top' := digitChar_inj (by omega) (by omega) top
  have high' := digitChar_inj (by omega) (by omega) high
  have low' := digitChar_inj (by omega) (by omega) low
  have last' := digitChar_inj (by omega) (by omega) last
  exact ⟨by omega, rests⟩

theorem utf16_one {char : Char} (small : char.toNat < 0x10000) :
    (encodeUtf16 char).flatMap unicodeEscape = unicodeEscape char.toNat := by
  simp [encodeUtf16, small]

theorem utf16_two {char : Char} (large : ¬char.toNat < 0x10000) : (encodeUtf16 char).flatMap unicodeEscape =
    unicodeEscape (0xD800 + (char.toNat - 0x10000) / 0x400) ++
      unicodeEscape (0xDC00 + (char.toNat - 0x10000) % 0x400) := by
  simp [encodeUtf16, large]

theorem scalar_bound (char : Char) : char.toNat < 0xD800 ∨ 0xDFFF < char.toNat ∧ char.toNat < 0x110000 := char.valid

/-- A character is no surrogate, so the first unit tells whether a second one follows. -/
theorem utf16_determines : Determines (fun char => (encodeUtf16 char).flatMap unicodeEscape) id := by
  intro first second rest rest' same
  have valid := scalar_bound first
  have valid' := scalar_bound second
  by_cases small : first.toNat < 0x10000
  · by_cases small' : second.toNat < 0x10000
    · simp only [utf16_one small, utf16_one small'] at same
      obtain ⟨units, rests⟩ := unicodeEscape_inj small small' same
      exact ⟨Char.toNat_inj.mp units, rests⟩
    · simp only [utf16_one small, utf16_two small', List.append_assoc] at same
      have units := (unicodeEscape_inj small (by omega) same).1
      omega
  · by_cases small' : second.toNat < 0x10000
    · simp only [utf16_two small, utf16_one small', List.append_assoc] at same
      have units := (unicodeEscape_inj (by omega) small' same).1
      omega
    · simp only [utf16_two small, utf16_two small', List.append_assoc] at same
      obtain ⟨high, lows⟩ := unicodeEscape_inj (by omega) (by omega) same
      obtain ⟨low, rests⟩ := unicodeEscape_inj (by omega) (by omega) lows
      have chars : first.toNat = second.toNat := by omega
      exact ⟨Char.toNat_inj.mp chars, rests⟩

theorem utf16_begins (char : Char) : ∃ tail, (encodeUtf16 char).flatMap unicodeEscape = '\\' :: 'u' :: tail := by
  by_cases small : char.toNat < 0x10000
  · rw [utf16_one small]
    exact ⟨_, rfl⟩
  · rw [utf16_two small]
    exact ⟨_, rfl⟩

def shortEscapes : List (Char × Char) :=
  [('"', '"'), ('\\', '\\'), ('n', '\n'), ('r', '\r'), ('t', '\t'), ('b', '\x08'), ('f', '\x0c')]

theorem escapeChar_short {letter char : Char} (short : (letter, char) ∈ shortEscapes) :
    escapeChar char = ['\\', letter] := by
  simp only [shortEscapes, List.mem_cons, Prod.mk.injEq, List.not_mem_nil, or_false] at short
  rcases short with ⟨rfl, rfl⟩ | ⟨rfl, rfl⟩ | ⟨rfl, rfl⟩ | ⟨rfl, rfl⟩ | ⟨rfl, rfl⟩ | ⟨rfl, rfl⟩ | ⟨rfl, rfl⟩ <;> rfl

/-- A character goes out as a short escape, as itself or as code units. -/
theorem escapeChar_cases (char : Char) :
    (∃ letter, (letter, char) ∈ shortEscapes ∧ escapeChar char = ['\\', letter]) ∨
    (escapeChar char = [char] ∧ char ≠ '"' ∧ char ≠ '\\' ∧ 0x20 ≤ char.toNat ∧ char.toNat < 0x80) ∨
    (escapeChar char = (encodeUtf16 char).flatMap unicodeEscape ∧ (char.toNat < 0x20 ∨ 0x80 ≤ char.toNat)) := by
  by_cases short : ∃ letter, (letter, char) ∈ shortEscapes
  · obtain ⟨letter, member⟩ := short
    exact .inl ⟨letter, member, escapeChar_short member⟩
  · right
    have backspace : char.toNat = 0x08 ↔ char = '\x08' := Char.toNat_inj (c := char) (d := '\x08')
    have feed : char.toNat = 0x0c ↔ char = '\x0c' := Char.toNat_inj (c := char) (d := '\x0c')
    simp only [shortEscapes, List.mem_cons, Prod.mk.injEq, List.not_mem_nil, or_false, exists_or, exists_eq_left,
      not_or] at short
    obtain ⟨quote, slash, newline, ret, tab, back, form⟩ := short
    unfold escapeChar
    simp only [quote, slash, newline, ret, tab, backspace, feed, back, form, if_false]
    by_cases control : char.toNat < 0x20
    · rw [if_pos control, utf16_one (by omega)]
      exact .inr ⟨rfl, .inl control⟩
    · by_cases ascii : char.toNat < 0x80
      · rw [if_neg control, if_pos ascii]
        exact .inl ⟨rfl, quote, slash, by omega, ascii⟩
      · rw [if_neg control, if_neg ascii]
        exact .inr ⟨rfl, .inr (by omega)⟩

theorem shortEscapes_letter {letter char : Char} (short : (letter, char) ∈ shortEscapes) : letter ≠ 'u' := by
  rintro rfl
  simp [shortEscapes] at short

theorem shortEscapes_inj {letter first second : Char} (short : (letter, first) ∈ shortEscapes)
    (short' : (letter, second) ∈ shortEscapes) : first = second := by
  have all : ∀ entry ∈ shortEscapes, ∀ entry' ∈ shortEscapes, entry.1 = entry'.1 → entry.2 = entry'.2 := by decide
  exact all _ short _ short' rfl

theorem escapeChar_determines : Determines escapeChar id := by
  intro first second rest rest' same
  obtain ⟨units, unitsText⟩ := utf16_begins first
  obtain ⟨units', unitsText'⟩ := utf16_begins second
  -- The first two characters of an escape tell the three kinds apart.
  rcases escapeChar_cases first with ⟨letter, short, text⟩ | ⟨text, -, plain, -⟩ | ⟨text, -⟩
  · rcases escapeChar_cases second with ⟨letter', short', text'⟩ | ⟨text', -, plain', -⟩ | ⟨text', -⟩
    · simp only [text, text', List.cons_append, List.nil_append, List.cons.injEq, true_and] at same
      obtain ⟨rfl, rests⟩ := same
      exact ⟨shortEscapes_inj short short', rests⟩
    · simp only [text, text', List.cons_append, List.cons.injEq] at same
      exact absurd same.1.symm plain'
    · simp only [text, text', unitsText', List.cons_append, List.cons.injEq] at same
      exact absurd same.2.1 (shortEscapes_letter short)
  · rcases escapeChar_cases second with ⟨letter', short', text'⟩ | ⟨text', -⟩ | ⟨text', -⟩
    · simp only [text, text', List.cons_append, List.cons.injEq] at same
      exact absurd same.1 plain
    · simp only [text, text', List.cons_append, List.nil_append, List.cons.injEq] at same
      exact same
    · simp only [text, text', unitsText', List.cons_append, List.cons.injEq] at same
      exact absurd same.1 plain
  · rcases escapeChar_cases second with ⟨letter', short', text'⟩ | ⟨text', -, plain', -⟩ | ⟨text', -⟩
    · simp only [text, text', unitsText, List.cons_append, List.cons.injEq] at same
      exact absurd same.2.1.symm (shortEscapes_letter short')
    · simp only [text, text', unitsText, List.cons_append, List.cons.injEq] at same
      exact absurd same.1.symm plain'
    · rw [text, text'] at same
      exact utf16_determines first second rest rest' same

theorem escapeChar_begins (char : Char) : ∃ head tail, escapeChar char = head :: tail ∧ head ≠ '"' := by
  rcases escapeChar_cases char with ⟨letter, -, text⟩ | ⟨text, other, -⟩ | ⟨text, -⟩
  · exact ⟨_, _, text, by decide⟩
  · exact ⟨_, _, text, other⟩
  · obtain ⟨tail, units⟩ := utf16_begins char
    exact ⟨_, _, text.trans units, by decide⟩

theorem writeJsonString_determines : Determines writeJsonString id := by
  intro first second rest rest' same
  have quote : "\"".toList.head? = some '"' := rfl
  have body := (escapeChar_determines.run quote escapeChar_begins).after "\"".toList
  obtain ⟨chars, rests⟩ := body first second rest rest' (by simpa only [writeJsonString, List.append_assoc] using same)
  exact ⟨by simpa using chars, rests⟩

/-- `ESCAPE_DCT` of Python's `json.encoder`. -/
def pythonShort (char : Char) : Option Str :=
  if char = '\\' then some "\\\\".toList
  else if char = '"' then some "\\\"".toList
  else if char = '\x08' then some "\\b".toList
  else if char = '\x0c' then some "\\f".toList
  else if char = '\n' then some "\\n".toList
  else if char = '\r' then some "\\r".toList
  else if char = '\t' then some "\\t".toList
  else none

def Printable (char : Char) : Prop := 0x20 ≤ char.toNat ∧ char.toNat ≤ 0x7e

instance (char : Char) : Decidable (Printable char) := inferInstanceAs (Decidable (_ ∧ _))

/-- `py_encode_basestring_ascii`: what is outside `' '..'~'` becomes one or two lowercase escapes. -/
def pythonEscape (char : Char) : Str :=
  match pythonShort char with
  | some text => text
  | none =>
    if Printable char then [char]
    else if char.toNat < 0x10000 then "\\u".toList ++ hexDigits 4 char.toNat
    else
      let n := char.toNat - 0x10000
      "\\u".toList ++ hexDigits 4 (0xd800 ||| (n >>> 10 &&& 0x3ff)) ++
        "\\u".toList ++ hexDigits 4 (0xdc00 ||| (n &&& 0x3ff))

/-- `json.dumps(text)` with `ensure_ascii=True`. -/
def pythonDumps (text : Str) : Str := "\"".toList ++ text.flatMap pythonEscape ++ "\"".toList

theorem pythonEscape_units {char : Char} (short : pythonShort char = none) (outside : ¬Printable char) :
    pythonEscape char = (encodeUtf16 char).flatMap unicodeEscape := by
  have valid := scalar_bound char
  simp only [pythonEscape, short]
  rw [if_neg outside]
  by_cases small : char.toNat < 0x10000
  · rw [if_pos small, utf16_one small, unicodeEscape]
  · have high : 0xd800 ||| ((char.toNat - 0x10000) >>> 10 &&& 0x3ff) =
        0xD800 + (char.toNat - 0x10000) / 0x400 := by
      rw [Nat.shiftRight_eq_div_pow, Nat.and_two_pow_sub_one_eq_mod _ 10, Nat.mod_eq_of_lt (by omega)]
      exact (Nat.two_pow_add_eq_or_of_lt (i := 10) (by omega) 54).symm
    have low : 0xdc00 ||| (char.toNat - 0x10000 &&& 0x3ff) = 0xDC00 + (char.toNat - 0x10000) % 0x400 := by
      rw [Nat.and_two_pow_sub_one_eq_mod _ 10]
      exact (Nat.two_pow_add_eq_or_of_lt (i := 10) (Nat.mod_lt _ (by decide)) 55).symm
    rw [if_neg small, utf16_two small, high, low]
    simp only [unicodeEscape, List.append_assoc]

theorem pythonShort_of_mem {letter char : Char} (short : (letter, char) ∈ shortEscapes) :
    pythonShort char = some ['\\', letter] := by
  simp only [shortEscapes, List.mem_cons, Prod.mk.injEq, List.not_mem_nil, or_false] at short
  rcases short with ⟨rfl, rfl⟩ | ⟨rfl, rfl⟩ | ⟨rfl, rfl⟩ | ⟨rfl, rfl⟩ | ⟨rfl, rfl⟩ | ⟨rfl, rfl⟩ | ⟨rfl, rfl⟩ <;> rfl

theorem pythonShort_of_not_mem {char : Char} (plain : ¬∃ letter, (letter, char) ∈ shortEscapes) :
    pythonShort char = none := by
  simp only [shortEscapes, List.mem_cons, Prod.mk.injEq, List.not_mem_nil, or_false, exists_or, exists_eq_left,
    not_or] at plain
  simp [pythonShort, plain]

/-- The two writers agree on every character but U+007F. -/
theorem pythonEscape_eq {char : Char} (other : char ≠ '\x7f') : pythonEscape char = escapeChar char := by
  have delete : char.toNat ≠ 0x7f := fun same => other (Char.toNat_inj.mp same)
  by_cases short : ∃ letter, (letter, char) ∈ shortEscapes
  · obtain ⟨letter, member⟩ := short
    rw [escapeChar_short member, pythonEscape, pythonShort_of_mem member]
  · have long := pythonShort_of_not_mem short
    rcases escapeChar_cases char with ⟨letter, member, -⟩ | ⟨text, -, -, low, high⟩ | ⟨text, outside⟩
    · exact absurd ⟨letter, member⟩ short
    · have printable : Printable char := ⟨low, by omega⟩
      rw [text, pythonEscape, long]
      exact if_pos printable
    · rw [text]
      apply pythonEscape_units long
      unfold Printable
      omega

theorem unicodeEscape_printable {unit : Nat} {char : Char} (member : char ∈ unicodeEscape unit) : Printable char := by
  have label : "\\u".toList.all (fun letter => decide (Printable letter)) = true := by decide
  have digits : ∀ value < 16, Printable (Nat.digitChar value) := by decide
  rcases List.mem_append.mp member with front | back
  · exact of_decide_eq_true (List.all_eq_true.mp label char front)
  · obtain ⟨place, -, rfl⟩ := List.mem_map.mp back
    exact digits _ (Nat.mod_lt _ (by decide))

theorem pythonEscape_printable {source char : Char} (member : char ∈ pythonEscape source) : Printable char := by
  by_cases short : ∃ letter, (letter, source) ∈ shortEscapes
  · obtain ⟨letter, entry⟩ := short
    have letters : ∀ entry ∈ shortEscapes, Printable entry.1 := by decide
    rw [pythonEscape, pythonShort_of_mem entry] at member
    simp only [List.mem_cons, List.not_mem_nil, or_false] at member
    rcases member with rfl | rfl
    · decide
    · exact letters _ entry
  · have long := pythonShort_of_not_mem short
    by_cases printable : Printable source
    · simp only [pythonEscape, long, if_pos printable, List.mem_singleton] at member
      rwa [member]
    · rw [pythonEscape_units long printable, List.mem_flatMap] at member
      obtain ⟨unit, -, inside⟩ := member
      exact unicodeEscape_printable inside

theorem json_string_python_iff (text : Str) : writeJsonString text = pythonDumps text ↔ '\x7f' ∉ text := by
  constructor
  · intro same member
    have raw : '\x7f' ∈ pythonDumps text := by
      rw [← same, writeJsonString]
      simp only [List.mem_append, List.mem_flatMap]
      exact .inl (.inr ⟨_, member, by decide⟩)
    simp only [pythonDumps, List.mem_append, List.mem_flatMap] at raw
    rcases raw with (quote | ⟨source, -, inside⟩) | quote
    · exact absurd quote (by decide)
    · exact absurd (pythonEscape_printable inside) (by decide)
    · exact absurd quote (by decide)
  · intro absent
    rw [writeJsonString, pythonDumps]
    have chars : text.flatMap escapeChar = text.flatMap pythonEscape := by
      apply List.flatMap_congr
      intro char member
      exact (pythonEscape_eq fun same => absent (same ▸ member)).symm
    rw [chars]

theorem json_string_delete_differs : writeJsonString ['\x7f'] ≠ pythonDumps ['\x7f'] := by decide

end Ros2Client
