import Ros2Client.Parsing.Lookahead
import Ros2Client.Text.Str

open Parsing

namespace Ros2Client.Msggen

def isAsciiHexdigit (digit : Char) : Bool :=
  digit.isDigit || ('a' ≤ digit && digit ≤ 'f') || ('A' ≤ digit && digit ≤ 'F')

def hexValue (digit : Char) : Nat :=
  if digit.isDigit then digit.toNat - '0'.toNat
  else if 'a' ≤ digit then digit.toNat - 'a'.toNat + 10
  else digit.toNat - 'A'.toNat + 10

def fromStrRadix (hex : Str) : Option Nat :=
  some (hex.foldl (fun number digit => number * 16 + hexValue digit) 0) |>.filter (· < 2 ^ 32)

def fromU32 (number : Nat) : Option Char := if number.isValidChar then some (.ofNat number) else none

def parseUnicode : Parser Char Char :=
  let parseHex := Streaming.takeWhileMN 1 6 isAsciiHexdigit
  let parseDelimitedHex := (Streaming.char 'u').preceded
    ((Streaming.char '\x7b').delimited parseHex (Streaming.char '\x7d'))
  let parseU32 := parseDelimitedHex.mapOpt fromStrRadix
  parseU32.mapOpt fromU32

def parseEscapedChar : Parser Char Char :=
  (Streaming.char '\\').preceded (.alt [
    parseUnicode,
    (Streaming.char 'n').value '\n',
    (Streaming.char 'r').value '\r',
    (Streaming.char 't').value '\t',
    (Streaming.char 'b').value '\x08',
    (Streaming.char 'f').value '\x0c',
    (Streaming.char '\\').value '\\',
    (Streaming.char '/').value '/',
    (Streaming.char '"').value '"'])

def parseEscapedWhitespace : Parser Char Str := (Streaming.char '\\').preceded Streaming.multispace1

def parseLiteral : Parser Char Str := (Streaming.isNot ['"', '\\']).verify (!·.isEmpty)

inductive StringFragment
  | literal (text : Str)
  | escapedChar (char : Char)
  | escapedWS
deriving DecidableEq

def parseFragment : Parser Char StringFragment :=
  .alt [
    parseLiteral.map .literal,
    parseEscapedChar.map .escapedChar,
    parseEscapedWhitespace.value .escapedWS]

def StringFragment.append (string : Str) : StringFragment → Str
  | .literal text => string ++ text
  | .escapedChar char => string ++ [char]
  | .escapedWS => string

def parseString : Parser Char Str :=
  let buildString := parseFragment.foldMany0 [] StringFragment.append
  (Streaming.char '"').delimited buildString (Streaming.char '"')

section Local

variable (stop : Char → Bool)

theorem parseUnicode_local : Parser.Local stop parseUnicode :=
  .mapOpt (.mapOpt (.preceded (.streamingChar 'u')
    (.delimited (.streamingChar '\x7b') (.streamingTakeWhileMN 1 6 isAsciiHexdigit) (.streamingChar '\x7d'))))

theorem parseEscapedChar_local : Parser.Local stop parseEscapedChar := by
  refine Parser.Local.preceded (.streamingChar _) (.alt ?_)
  intro parser member
  simp only [List.mem_cons, List.not_mem_nil, or_false] at member
  rcases member with rfl | rfl | rfl | rfl | rfl | rfl | rfl | rfl | rfl
  · exact parseUnicode_local stop
  all_goals exact .value _ (.streamingChar _)

theorem parseFragment_local : Parser.Local stop parseFragment := by
  refine Parser.Local.alt_cons ?_ (.alt_cons ?_ (.alt_cons ?_ .alt_nil))
  · exact .map _ (.verify (.streamingTakeWhile1 _))
  · exact .map _ (parseEscapedChar_local stop)
  · exact .value _ (.preceded (.streamingChar _) (.streamingTakeWhile1 _))

theorem parseString_local : Parser.Local stop parseString :=
  .delimited (.streamingChar _) (.foldMany0 (parseFragment_local stop) _ _) (.streamingChar _)

end Local

theorem parseString_never : Parser.Never .panicked parseString := by
  refine Parser.Never.delimited (.streamingChar _) (.foldMany0 ?_ _ _) (.streamingChar _)
  refine Parser.Never.alt_cons ?_ (.alt_cons ?_ (.alt_cons ?_ .alt_nil))
  · exact .map _ (.verify (.streamingTakeWhile1 _))
  · refine Parser.Never.map _ (.preceded (.streamingChar _) (.alt ?_))
    intro parser member
    simp only [List.mem_cons, List.not_mem_nil, or_false] at member
    rcases member with rfl | rfl | rfl | rfl | rfl | rfl | rfl | rfl | rfl
    · exact .mapOpt (.mapOpt (.preceded (.streamingChar _)
        (.delimited (.streamingChar _) (.streamingTakeWhileMN _ _ _) (.streamingChar _))))
    all_goals exact .value _ (.streamingChar _)
  · exact .value _ (.preceded (.streamingChar _) (.streamingTakeWhile1 _))

section Delimited

variable {input text rest : Str}

theorem parseUnicode_selfDelimiting : parseUnicode.SelfDelimiting := by
  refine Parser.SelfDelimiting.mapOpt (Parser.SelfDelimiting.mapOpt ?_)
  refine (streamingChar_selfDelimiting _).bind (.streamingChar _) (fun _ => ?_) fun _ =>
    .delimited (.streamingChar _) (.streamingTakeWhileMN _ _ _) (.streamingChar _)
  refine (streamingChar_selfDelimiting _).bind (.streamingChar _) (fun _ => ?_) fun _ =>
    .bind (.streamingTakeWhileMN _ _ _) fun _ => .value _ (.streamingChar _)
  exact (streamingTakeWhileMN_oneAhead _ _).bind (.streamingTakeWhileMN _ _ _)
    (fun digits => streamingChar_value_selfDelimiting _ digits) fun digits => streamingChar_value_consuming _ digits

def escapes : List (Char × Char) :=
  [('n', '\n'), ('r', '\r'), ('t', '\t'), ('b', '\x08'), ('f', '\x0c'), ('\\', '\\'), ('/', '/'), ('"', '"')]

theorem parseEscapedChar_eq : parseEscapedChar = (Streaming.char '\\').preceded
    (.alt (parseUnicode :: escapes.map fun escape => (Streaming.char escape.1).value escape.2)) := rfl

theorem parseEscapedChar_escape {escape : Char × Char} (member : escape ∈ escapes) (rest : Str) :
    parseEscapedChar ('\\' :: escape.1 :: rest) = .done rest escape.2 := by
  simp only [escapes, List.mem_cons, List.not_mem_nil, or_false] at member
  rcases member with rfl | rfl | rfl | rfl | rfl | rfl | rfl | rfl <;> rfl

theorem alt_escapes_eq_done {escapes : List (Char × Char)} {letter : Char}
    (read : Parser.alt (escapes.map fun escape => (Streaming.char escape.1).value escape.2) input = .done rest letter) :
    ∃ escape ∈ escapes, input = escape.1 :: rest ∧ letter = escape.2 := by
  induction escapes with
  | nil => cases read
  | cons escape escapes ih =>
    rcases Parser.alt_eq_done.mp read with found | ⟨-, others⟩
    · obtain ⟨whole, same⟩ := streamingChar_value_eq_done found
      exact ⟨escape, by simp, whole, same⟩
    · obtain ⟨other, member, found⟩ := ih others
      exact ⟨other, by simp [member], found⟩

theorem parseEscapedChar_begins {letter : Char} (read : parseEscapedChar input = .done rest letter) :
    ∃ more, input = '\\' :: more := by
  obtain ⟨middle, _, opened, -⟩ := Parser.bind_eq_done.mp read
  exact ⟨middle, (streamingChar_eq_done opened).1⟩

theorem parseEscapedChar_selfDelimiting : parseEscapedChar.SelfDelimiting := by
  intro text rest letter read other
  rw [parseEscapedChar_eq] at read
  obtain ⟨after, _, opened, read⟩ := Parser.bind_eq_done.mp read
  obtain ⟨whole, -⟩ := streamingChar_eq_done opened
  rcases Parser.alt_eq_done.mp read with unicode | ⟨-, others⟩
  · obtain ⟨digits, rfl⟩ := (parseUnicode_local fun _ => false).suffix unicode
    have split : text = '\\' :: digits := List.append_cancel_right whole
    rw [split]
    exact Parser.preceded_of_done (streamingChar_cons _ _)
      (Parser.alt_of_done (parseUnicode_selfDelimiting _ _ _ unicode other))
  · obtain ⟨escape, member, rfl, rfl⟩ := alt_escapes_eq_done others
    have joined : text ++ rest = ['\\', escape.1] ++ rest := whole
    have split : text = ['\\', escape.1] := List.append_cancel_right joined
    rw [split]
    exact parseEscapedChar_escape member other

theorem parseEscapedChar_blank {blank : Char} (space : (isSpace blank || isBreak blank) = true) (rest : Str) :
    parseEscapedChar ('\\' :: blank :: rest) = .error := by
  simp only [isSpace, isBreak, Bool.or_eq_true, decide_eq_true_eq] at space
  rcases space with (rfl | rfl) | rfl | rfl <;> rfl

theorem parseLiteral_refused {letter : Char} (ends : letter = '"' ∨ letter = '\\') (rest : Str) :
    parseLiteral (letter :: rest) = .error := by
  have refused : Streaming.isNot ['"', '\\'] (letter :: rest) = .error := by
    apply streamingTakeWhile1_refused
    rcases ends with rfl | rfl <;> rfl
  rw [parseLiteral, Parser.verify, refused]
  rfl

theorem parseFragment_oneAhead : parseFragment.OneAhead := by
  intro text rest item value read other
  rcases Parser.alt_eq_done.mp read with literal | ⟨-, read⟩
  · have ahead : (parseLiteral.map StringFragment.literal).OneAhead :=
      Parser.OneAhead.map _ (Parser.OneAhead.verify (streamingTakeWhile1_oneAhead _))
    exact Parser.alt_of_done (ahead _ _ _ _ literal other)
  rcases Parser.alt_eq_done.mp read with escaped | ⟨-, read⟩
  · obtain ⟨letter, inner, rfl⟩ := Parser.map_eq_done.mp escaped
    have again := parseEscapedChar_selfDelimiting _ _ _ inner (item :: other)
    obtain ⟨more, begins⟩ := parseEscapedChar_begins again
    have noLiteral : parseLiteral (text ++ item :: other) = .error := by
      rw [begins]
      exact parseLiteral_refused (.inr rfl) more
    rw [parseFragment, Parser.alt_of_error (Parser.map_of_error _ noLiteral)]
    exact Parser.alt_of_done (Parser.map_of_done _ again)
  rcases Parser.alt_eq_done.mp read with blank | ⟨-, none⟩
  · obtain ⟨middle, blanks, inner, same⟩ := Parser.bind_eq_done.mp blank
    cases same
    obtain ⟨after, _, opened, stretch⟩ := Parser.bind_eq_done.mp inner
    obtain ⟨whole, -⟩ := streamingChar_eq_done opened
    obtain ⟨rfl, present, all, letter, more, split, ends⟩ := streamingTakeWhile1_eq_done stretch
    cases split
    have text_eq : text = '\\' :: blanks := List.append_cancel_right whole
    have again : parseEscapedWhitespace (text ++ item :: other) = .done (item :: other) blanks := by
      rw [text_eq]
      exact Parser.preceded_of_done (streamingChar_cons _ _) (streamingTakeWhile1_append present all ends other)
    have noLiteral : parseLiteral (text ++ item :: other) = .error := by
      rw [text_eq]
      exact parseLiteral_refused (.inr rfl) _
    have noEscape : parseEscapedChar (text ++ item :: other) = .error := by
      rw [text_eq]
      cases blanks with
      | nil => exact absurd rfl present
      | cons space blanks => exact parseEscapedChar_blank (all space (by simp)) _
    rw [parseFragment, Parser.alt_of_error (Parser.map_of_error _ noLiteral),
      Parser.alt_of_error (Parser.map_of_error _ noEscape)]
    exact Parser.alt_of_done (Parser.value_of_done _ again)
  · cases none

theorem parseFragment_quote (rest : Str) : parseFragment ('"' :: rest) = .error := by
  have noEscape : parseEscapedChar ('"' :: rest) = .error := rfl
  have noBlank : parseEscapedWhitespace ('"' :: rest) = .error := rfl
  rw [parseFragment, Parser.alt_of_error (Parser.map_of_error _ (parseLiteral_refused (.inl rfl) rest)),
    Parser.alt_of_error (Parser.map_of_error _ noEscape), Parser.alt_of_error (Parser.value_of_error _ noBlank),
    Parser.alt_nil]

/-- The fragments up to a closing quotation mark. -/
theorem many0_parseFragment {fragments : List StringFragment}
    (read : parseFragment.many0 (text ++ '"' :: rest) = .done ('"' :: rest) fragments) (other : Str) :
    parseFragment.many0 (text ++ '"' :: other) = .done ('"' :: other) fragments := by
  induction fragments generalizing text with
  | nil =>
    rcases Parser.many0_eq_done read with ⟨-, whole, -⟩ | ⟨_, _, _, -, -, -, same⟩
    · have none : text = [] := List.append_left_eq_self.mp whole.symm
      rw [none]
      exact Parser.many0_of_error (parseFragment_quote other)
    · cases same
  | cons fragment fragments ih =>
    rcases Parser.many0_eq_done read with ⟨-, -, none⟩ | ⟨middle, result, further, first, shorter, others, same⟩
    · cases none
    · cases same
      have inside : ∀ {input rest : Str} {value : List StringFragment},
          parseFragment.many0 input = .done rest value → rest <:+ input :=
        (parseFragment_local fun _ => false).many0.suffix
      obtain ⟨later, rfl⟩ := inside others
      obtain ⟨earlier, whole⟩ := (parseFragment_local fun _ => false).suffix first
      have split : text = earlier ++ later := by
        rw [← List.append_assoc] at whole
        exact (List.append_cancel_right whole).symm
      subst split
      have again : parseFragment (earlier ++ (later ++ '"' :: other)) = .done (later ++ '"' :: other) fragment := by
        rw [List.append_assoc] at first
        cases later with
        | nil => exact parseFragment_oneAhead _ _ _ _ first other
        | cons letter later => exact parseFragment_oneAhead _ _ _ _ first (later ++ '"' :: other)
      rw [List.append_assoc]
      refine Parser.many0_of_done again ?_ (ih others)
      simp only [List.length_append, List.length_cons] at shorter ⊢
      omega

theorem parseString_selfDelimiting : parseString.SelfDelimiting := by
  intro text rest string read other
  obtain ⟨after, _, opened, read⟩ := Parser.bind_eq_done.mp read
  obtain ⟨middle, built, folded, closed⟩ := Parser.bind_eq_done.mp read
  obtain ⟨rfl, rfl⟩ := streamingChar_value_eq_done closed
  obtain ⟨_, fragments, inner, same⟩ := Parser.bind_eq_done.mp folded
  cases same
  obtain ⟨whole, -⟩ := streamingChar_eq_done opened
  obtain ⟨body, rfl⟩ := (parseFragment_local fun _ => false).many0.suffix inner
  have joined : text ++ rest = '"' :: (body ++ ['"']) ++ rest := by simpa using whole
  have shape : text ++ other = '"' :: (body ++ '"' :: other) := by
    rw [List.append_cancel_right joined]
    simp
  rw [shape]
  refine Parser.delimited_of_done (streamingChar_cons _ _) ?_ (streamingChar_cons '"' other)
  exact Parser.bind_of_done (many0_parseFragment inner other)

end Delimited

end Ros2Client.Msggen
