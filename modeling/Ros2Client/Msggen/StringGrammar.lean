import Ros2Client.Msggen.StringParser

open Parsing

namespace Ros2Client.Msggen

def hexNumber (digits : Str) : Nat := digits.foldl (fun number digit => number * 16 + hexValue digit) 0

def isBlank (item : Char) : Bool := isSpace item || isBreak item

def isPlain (item : Char) : Bool := !(['"', '\\'].contains item)

/-- What a text between quotation marks stands for: characters that stand for themselves, escaped ones, code points,
    and escaped white space, which stands for nothing and goes as far as it can. -/
inductive Spells : Str → Str → Prop
  | nil : Spells [] []
  | plain {char : Char} {body string : Str} : isPlain char = true → Spells body string →
      Spells (char :: body) (char :: string)
  | escaped {escape : Char × Char} {body string : Str} : escape ∈ escapes → Spells body string →
      Spells ('\\' :: escape.1 :: body) (escape.2 :: string)
  | codePoint {digits : Str} {char : Char} {body string : Str} : digits ≠ [] → digits.length ≤ 6 →
      (∀ digit ∈ digits, isAsciiHexdigit digit = true) → hexNumber digits = char.toNat → Spells body string →
      Spells ('\\' :: 'u' :: '\x7b' :: (digits ++ '\x7d' :: body)) (char :: string)
  | blanks {blanks body string : Str} : blanks ≠ [] → (∀ item ∈ blanks, isBlank item = true) →
      Stops isBlank body → Spells body string → Spells ('\\' :: (blanks ++ body)) string

section CodePoints

variable {digits input rest : Str} {number : Nat} {char : Char}

theorem fromStrRadix_eq_some :
    fromStrRadix digits = some number ↔ hexNumber digits = number ∧ number < 2 ^ 32 := by
  simp only [fromStrRadix, hexNumber, Option.filter_eq_some_iff, Option.some.injEq, decide_eq_true_eq]

theorem fromU32_eq_some : fromU32 number = some char ↔ number = char.toNat := by
  unfold fromU32
  constructor
  · intro made
    split at made
    · rename_i valid
      cases made
      have built : Char.ofNat number = Char.ofNatAux number valid := dif_pos valid
      rw [built]
      rfl
    · cases made
  · intro same
    have valid : number.isValidChar := same ▸ char.valid
    rw [if_pos valid, same, Char.ofNat_toNat]

/-- Every number of a character is one of 32 bits, so the conversion of the digits gives way to that of the number. -/
theorem codePoint_iff {digits : Str} :
    (fromStrRadix digits).bind fromU32 = some char ↔ hexNumber digits = char.toNat := by
  rw [Option.bind_eq_some_iff]
  simp only [fromStrRadix_eq_some, fromU32_eq_some]
  constructor
  · intro read
    obtain ⟨number, ⟨same, -⟩, found⟩ := read
    rw [same, found]
  · intro same
    have small : char.toNat < 2 ^ 32 := char.val.toNat_lt
    exact ⟨char.toNat, ⟨same, small⟩, rfl⟩

theorem parseUnicode_iff : parseUnicode input = .done rest char ↔ ∃ digits, digits ≠ [] ∧ digits.length ≤ 6 ∧
    (∀ digit ∈ digits, isAsciiHexdigit digit = true) ∧ hexNumber digits = char.toNat ∧
    input = 'u' :: '\x7b' :: (digits ++ '\x7d' :: rest) := by
  constructor
  · intro read
    obtain ⟨number, read', found⟩ := Parser.mapOpt_eq_done.mp read
    obtain ⟨digits, delimited, converted⟩ := Parser.mapOpt_eq_done.mp read'
    obtain ⟨afterU, _, first, delimited⟩ := Parser.bind_eq_done.mp delimited
    obtain ⟨afterBrace, _, second, inner⟩ := Parser.bind_eq_done.mp delimited
    obtain ⟨behind, digits', taken, closed⟩ := Parser.bind_eq_done.mp inner
    obtain ⟨rfl, rfl⟩ := streamingChar_value_eq_done closed
    obtain ⟨whole, least, most, all⟩ := streamingTakeWhileMN_eq_done taken
    have digits_ne : digits ≠ [] := by
      intro none
      rw [none] at least
      simp at least
    have same : hexNumber digits = char.toNat := codePoint_iff.mp (by rw [converted]; exact found)
    refine ⟨digits, digits_ne, most, all, same, ?_⟩
    rw [(streamingChar_eq_done first).1, (streamingChar_eq_done second).1, whole]
  · intro spelled
    obtain ⟨digits, digits_ne, most, all, same, whole⟩ := spelled
    have least : 1 ≤ digits.length := List.length_pos_iff.mpr digits_ne
    have taken : Streaming.takeWhileMN 1 6 isAsciiHexdigit (digits ++ '\x7d' :: rest) = .done ('\x7d' :: rest) digits :=
      streamingTakeWhileMN_append least most all (by decide) rest
    obtain ⟨number, converted, found⟩ := Option.bind_eq_some_iff.mp (codePoint_iff.mpr same)
    rw [whole]
    apply Parser.mapOpt_eq_done.mpr
    refine ⟨number, Parser.mapOpt_eq_done.mpr ⟨digits, ?_, converted⟩, found⟩
    exact Parser.preceded_of_done (streamingChar_cons _ _)
      (Parser.delimited_of_done (streamingChar_cons _ _) taken (streamingChar_cons _ _))

end CodePoints

section Fragments

variable {input body string blanks rest : Str} {char : Char} {fragment : StringFragment}
  {fragments : List StringFragment}

def StringFragment.text : StringFragment → Str
  | .literal text => text
  | .escapedChar char => [char]
  | .escapedWS => []

theorem foldl_append (fragments : List StringFragment) (string : Str) :
    fragments.foldl StringFragment.append string = string ++ fragments.flatMap StringFragment.text := by
  induction fragments generalizing string with
  | nil => simp
  | cons fragment fragments ih =>
    have single : StringFragment.append string fragment = string ++ fragment.text := by
      cases fragment <;> simp [StringFragment.append, StringFragment.text]
    rw [List.foldl_cons, ih, single, List.flatMap_cons, List.append_assoc]

theorem isPlain_eq_false : isPlain char = false ↔ char = '"' ∨ char = '\\' := by
  simp only [isPlain, List.contains_cons, List.contains_nil, Bool.or_false, Bool.not_eq_false', Bool.or_eq_true,
    beq_iff_eq]

theorem Spells.plains {text : Str} (plain : ∀ item ∈ text, isPlain item = true) (spelled : Spells body string) :
    Spells (text ++ body) (text ++ string) := by
  induction text with
  | nil => exact spelled
  | cons item text ih =>
    have later : ∀ other ∈ text, isPlain other = true := fun other member => plain other (by simp [member])
    exact .plain (plain item (by simp)) (ih later)

/-- Each string can be written, the quotation mark and the backslash behind a backslash. -/
theorem exists_spelling (string : Str) : ∃ body, Spells body string := by
  induction string with
  | nil => exact ⟨[], .nil⟩
  | cons char string ih =>
    obtain ⟨body, spelled⟩ := ih
    cases plain : isPlain char with
    | true => exact ⟨char :: body, .plain plain spelled⟩
    | false =>
      have member : (char, char) ∈ escapes := by
        rcases isPlain_eq_false.mp plain with rfl | rfl <;> decide
      exact ⟨'\\' :: char :: body, .escaped member spelled⟩

theorem parseEscapedChar_spells (read : parseEscapedChar input = .done rest char) (spelled : Spells body string) :
    ∃ front, input = front ++ rest ∧ Spells (front ++ body) (char :: string) := by
  rw [parseEscapedChar_eq] at read
  obtain ⟨after, _, opened, read⟩ := Parser.bind_eq_done.mp read
  rw [(streamingChar_eq_done opened).1]
  rcases Parser.alt_eq_done.mp read with unicode | ⟨-, others⟩
  · obtain ⟨digits, present, most, all, same, rfl⟩ := parseUnicode_iff.mp unicode
    refine ⟨'\\' :: 'u' :: '\x7b' :: (digits ++ ['\x7d']), by simp, ?_⟩
    simpa using Spells.codePoint present most all same spelled
  · obtain ⟨escape, member, rfl, rfl⟩ := alt_escapes_eq_done others
    exact ⟨['\\', escape.1], rfl, .escaped member spelled⟩

/-- The fragment in front of a text that spells a string spells its own part of a longer one. -/
theorem parseFragment_spells (read : parseFragment input = .done (body ++ '"' :: rest) fragment)
    (spelled : Spells body string) :
    ∃ front, input = front ++ (body ++ '"' :: rest) ∧ Spells (front ++ body) (fragment.text ++ string) := by
  rcases Parser.alt_eq_done.mp read with literal | ⟨-, read⟩
  · obtain ⟨text, inner, rfl⟩ := Parser.map_eq_done.mp literal
    obtain ⟨middle, text', stretch, kept⟩ := Outcome.bind_eq_done.mp inner
    split at kept
    · cases kept
      obtain ⟨whole, -, plain, -⟩ := streamingTakeWhile1_eq_done stretch
      exact ⟨text, whole, spelled.plains plain⟩
    · cases kept
  rcases Parser.alt_eq_done.mp read with escaped | ⟨-, read⟩
  · obtain ⟨letter, inner, rfl⟩ := Parser.map_eq_done.mp escaped
    exact parseEscapedChar_spells inner spelled
  rcases Parser.alt_eq_done.mp read with blank | ⟨-, none⟩
  · obtain ⟨middle, blanks, inner, same⟩ := Parser.bind_eq_done.mp blank
    cases same
    obtain ⟨after, _, opened, stretch⟩ := Parser.bind_eq_done.mp inner
    obtain ⟨rfl, present, all, letter, more, split, ends⟩ := streamingTakeWhile1_eq_done stretch
    have stops : Stops isBlank body := by
      intro item head
      cases body with
      | nil => cases head
      | cons first body =>
        cases head
        cases split
        exact ends
    exact ⟨'\\' :: blanks, by rw [(streamingChar_eq_done opened).1]; rfl, .blanks present all stops spelled⟩
  · cases none

theorem Reads.spells (reads : parseFragment.Reads input fragments ('"' :: rest)) :
    ∃ body, input = body ++ '"' :: rest ∧ Spells body (fragments.flatMap StringFragment.text) := by
  generalize ends : '"' :: rest = last at reads
  induction reads with
  | none last =>
    subst ends
    exact ⟨[], rfl, .nil⟩
  | more read shorter reads ih =>
    subst ends
    obtain ⟨body, whole, spelled⟩ := ih rfl
    rw [whole] at read
    obtain ⟨front, same, longer⟩ := parseFragment_spells read spelled
    exact ⟨front ++ body, by rw [same, List.append_assoc], longer⟩

theorem parseFragment_literal {text : Str} {item : Char} (present : text ≠ [])
    (plain : ∀ letter ∈ text, isPlain letter = true) (ends : isPlain item = false) (rest : Str) :
    parseFragment (text ++ item :: rest) = .done (item :: rest) (.literal text) := by
  have stretch : Streaming.isNot ['"', '\\'] (text ++ item :: rest) = .done (item :: rest) text :=
    streamingTakeWhile1_append present plain ends rest
  have read : parseLiteral (text ++ item :: rest) = .done (item :: rest) text := by
    rw [parseLiteral, Parser.verify, stretch]
    simp [Outcome.bind, present]
  exact Parser.alt_of_done (Parser.map_of_done _ read)

theorem parseFragment_escapedChar (read : parseEscapedChar ('\\' :: input) = .done rest char) :
    parseFragment ('\\' :: input) = .done rest (.escapedChar char) := by
  rw [parseFragment, Parser.alt_of_error (Parser.map_of_error _ (parseLiteral_refused (.inr rfl) input))]
  exact Parser.alt_of_done (Parser.map_of_done _ read)

theorem parseFragment_blanks {item : Char} (present : blanks ≠ []) (all : ∀ item ∈ blanks, isBlank item = true)
    (ends : isBlank item = false) (rest : Str) :
    parseFragment ('\\' :: (blanks ++ item :: rest)) = .done (item :: rest) .escapedWS := by
  have stretch : parseEscapedWhitespace ('\\' :: (blanks ++ item :: rest)) = .done (item :: rest) blanks :=
    Parser.preceded_of_done (streamingChar_cons _ _) (streamingTakeWhile1_append present all ends rest)
  have noEscape : parseEscapedChar ('\\' :: (blanks ++ item :: rest)) = .error := by
    cases blanks with
    | nil => exact absurd rfl present
    | cons space blanks => exact parseEscapedChar_blank (all space (by simp)) _
  rw [parseFragment, Parser.alt_of_error (Parser.map_of_error _ (parseLiteral_refused (.inr rfl) _)),
    Parser.alt_of_error (Parser.map_of_error _ noEscape)]
  exact Parser.alt_of_done (Parser.value_of_done _ stretch)

/-- A plain character in front joins the literal behind it, or is one of its own. -/
theorem many0_plain (plain : isPlain char = true)
    (read : parseFragment.many0 (body ++ '"' :: rest) = .done ('"' :: rest) fragments) :
    ∃ longer, parseFragment.many0 (char :: (body ++ '"' :: rest)) = .done ('"' :: rest) longer ∧
      longer.flatMap StringFragment.text = char :: fragments.flatMap StringFragment.text := by
  have ahead : ∃ text item more, body ++ '"' :: rest = text ++ item :: more ∧
      (∀ letter ∈ text, isPlain letter = true) ∧ isPlain item = false := by
    have quote : '"' ∈ body ++ '"' :: rest := by simp
    obtain ⟨item, text, more, before, ends, whole, -⟩ :=
      List.exists_of_eraseP (p := fun item => !isPlain item) quote rfl
    refine ⟨text, item, more, whole, ?_, by simpa using ends⟩
    intro letter member
    simpa using before letter member
  obtain ⟨text, item, more, whole, all, ends⟩ := ahead
  rw [whole] at read ⊢
  have allLonger : ∀ letter ∈ char :: text, isPlain letter = true := by
    intro letter member
    rcases List.mem_cons.mp member with rfl | inside
    · exact plain
    · exact all letter inside
  have first := parseFragment_literal (List.cons_ne_nil char text) allLonger ends more
  have shorter : (item :: more).length < (char :: (text ++ item :: more)).length := by
    simp only [List.length_cons, List.length_append]
    omega
  cases text with
  | nil => exact ⟨.literal [char] :: fragments, Parser.many0_of_done first shorter read, rfl⟩
  | cons letter text =>
    have next := parseFragment_literal (List.cons_ne_nil letter text) all ends more
    rcases Parser.many0_eq_done read with ⟨refused, -, -⟩ | ⟨middle, fragment, further, found, -, others, same⟩
    · rw [next] at refused
      cases refused
    · rw [next] at found
      cases found
      subst same
      exact ⟨.literal (char :: letter :: text) :: further, Parser.many0_of_done first shorter others, rfl⟩

theorem Spells.reads (spelled : Spells body string) (rest : Str) :
    ∃ fragments, parseFragment.many0 (body ++ '"' :: rest) = .done ('"' :: rest) fragments ∧
      fragments.flatMap StringFragment.text = string := by
  have further {input middle : Str} {fragment : StringFragment} {fragments : List StringFragment}
      (first : parseFragment input = .done middle fragment) (shorter : middle.length < input.length)
      (others : parseFragment.many0 middle = .done ('"' :: rest) fragments) :
      parseFragment.many0 input = .done ('"' :: rest) (fragment :: fragments) :=
    Parser.many0_of_done first shorter others
  induction spelled with
  | nil => exact ⟨[], Parser.many0_of_error (parseFragment_quote rest), rfl⟩
  | plain plain _ ih =>
    obtain ⟨fragments, read, rfl⟩ := ih
    exact many0_plain plain read
  | @escaped escape body _ member _ ih =>
    obtain ⟨fragments, read, rfl⟩ := ih
    have first := parseFragment_escapedChar (parseEscapedChar_escape member (body ++ '"' :: rest))
    exact ⟨_, further first (by simp only [List.length_cons, List.length_append]; omega) read, rfl⟩
  | @codePoint digits char body _ present most all same _ ih =>
    obtain ⟨fragments, read, rfl⟩ := ih
    let written := 'u' :: '\x7b' :: (digits ++ '\x7d' :: (body ++ '"' :: rest))
    have unicode : parseUnicode written = .done (body ++ '"' :: rest) char :=
      parseUnicode_iff.mpr ⟨digits, present, most, all, same, rfl⟩
    have escaped : parseEscapedChar ('\\' :: written) = .done (body ++ '"' :: rest) char :=
      Parser.preceded_of_done (streamingChar_cons '\\' written) (Parser.alt_of_done unicode)
    have first := parseFragment_escapedChar escaped
    simp only [List.cons_append, List.append_assoc]
    exact ⟨_, further first (by simp only [List.length_cons, List.length_append]; omega) read, rfl⟩
  | @blanks blanks body _ present all stops _ ih =>
    obtain ⟨fragments, read, rfl⟩ := ih
    -- the closing quotation mark ends the blanks where the body does not go on
    have ahead : ∃ item more, body ++ '"' :: rest = item :: more ∧ isBlank item = false := by
      cases body with
      | nil => exact ⟨'"', rest, rfl, rfl⟩
      | cons item body => exact ⟨item, body ++ '"' :: rest, rfl, stops item rfl⟩
    obtain ⟨item, more, whole, ends⟩ := ahead
    rw [List.cons_append, List.append_assoc, whole]
    rw [whole] at read
    have first := parseFragment_blanks present all ends more
    exact ⟨_, further first (by simp only [List.length_cons, List.length_append]; omega) read, rfl⟩

theorem parseString_iff : parseString input = .done rest string ↔
    ∃ body, input = '"' :: (body ++ '"' :: rest) ∧ Spells body string := by
  constructor
  · intro read
    obtain ⟨after, _, opened, read⟩ := Parser.bind_eq_done.mp read
    obtain ⟨middle, built, folded, closed⟩ := Parser.bind_eq_done.mp read
    obtain ⟨rfl, rfl⟩ := streamingChar_value_eq_done closed
    obtain ⟨_, fragments, inner, same⟩ := Parser.bind_eq_done.mp folded
    cases same
    obtain ⟨body, whole, spelled⟩ := Reads.spells (Parser.many0_eq_done_iff.mp inner).1
    refine ⟨body, ?_, ?_⟩
    · rw [(streamingChar_eq_done opened).1, whole]
    · rw [foldl_append]
      exact spelled
  · intro written
    obtain ⟨body, whole, spelled⟩ := written
    obtain ⟨fragments, read, same⟩ := spelled.reads rest
    have built :
        parseFragment.foldMany0 [] StringFragment.append (body ++ '"' :: rest) = .done ('"' :: rest) string := by
      rw [Parser.foldMany0, Parser.bind_of_done read, foldl_append, same]
      rfl
    rw [whole]
    exact Parser.delimited_of_done (streamingChar_cons _ _) built (streamingChar_cons _ _)

/-- A string is read exactly where the text between two quotation marks spells it, whatever stands behind them, and
    each string can be written so. -/
theorem strings_read_as_spelled :
    (∀ input rest string, parseString input = .done rest string ↔
      ∃ body, input = '"' :: (body ++ '"' :: rest) ∧ Spells body string) ∧
    ∀ string, ∃ body, ∀ rest, parseString ('"' :: (body ++ '"' :: rest)) = .done rest string := by
  refine ⟨fun _ _ _ => parseString_iff, ?_⟩
  intro string
  obtain ⟨body, spelled⟩ := exists_spelling string
  refine ⟨body, ?_⟩
  intro rest
  exact parseString_iff.mpr ⟨body, rfl, spelled⟩

end Fragments

end Ros2Client.Msggen
