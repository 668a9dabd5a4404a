import Ros2Client.Msggen.Parser
import Ros2Client.Parsing.Locality

open Parsing

namespace Ros2Client.Msggen

variable {Double : Type} {f64FromStr : Str → Option Double}

def lineContent (f64FromStr : Str → Option Double) : Parser Char (Option (Item Double) × Option Comment) :=
  (Parser.alt [item f64FromStr, justSpace]).pair comment.opt

theorem line_eq : line f64FromStr = (lineContent f64FromStr).terminated lineEnding := rfl

def constantHead : Parser Char (TypeName × Str) := do
  let typeName ← typeSpec
  let _ ← space0
  let constName ← identifier
  let _ ← space0
  let _ ← tag "=".toList
  let _ ← space0
  return (typeName, constName)

def fractionForm : Parser Char (Option Str) := do
  let _ ← char '.'
  let _ ← decimal
  exponent.opt

def scientificForm : Parser Char Str := do
  let _ ← decimal
  let _ ← ((char '.').preceded decimal).opt
  exponent

def pointForm : Parser Char (Option Str) := do
  let _ ← decimal
  let _ ← char '.'
  decimal.opt

def floatText : Parser Char Str := .alt [fractionForm.recognize, scientificForm.recognize, pointForm.recognize]

theorem float_eq : float f64FromStr = floatText.expect f64FromStr := rfl

theorem constant_eq (input : Str) : constant f64FromStr input = (constantHead input).bind fun rest head =>
    (valueSpec f64FromStr rest).bind fun rest value => .done rest (.constant head.1 head.2 value) := by
  change _ = Outcome.bind (Outcome.bind _ _) _
  rw [Outcome.bind_assoc]
  change Outcome.bind _ _ = _
  congr 1
  funext rest typeName
  change Outcome.bind _ _ = Outcome.bind (Outcome.bind _ _) _
  rw [Outcome.bind_assoc]
  congr 1
  funext rest _
  change Outcome.bind _ _ = Outcome.bind (Outcome.bind _ _) _
  rw [Outcome.bind_assoc]
  congr 1
  funext rest constName
  change Outcome.bind _ _ = Outcome.bind (Outcome.bind _ _) _
  rw [Outcome.bind_assoc]
  congr 1
  funext rest _
  change Outcome.bind _ _ = Outcome.bind (Outcome.bind _ _) _
  rw [Outcome.bind_assoc]
  congr 1

/-- The item between the blanks of a line. -/
theorem item_eq (input : Str) : item f64FromStr input =
    (Parser.alt [constant f64FromStr, field] (input.dropWhile isSpace)).bind fun rest found =>
      .done (rest.dropWhile isSpace) (some found) := by
  change Outcome.bind (Outcome.bind _ _) _ = _
  rw [Outcome.bind_assoc]
  rfl

section Local

theorem apart_breaks {kind : Char → Bool} (other : ['\r', '\n'].any kind = false) (letter : Char)
    (broken : isBreak letter = true) : kind letter = false := by
  simp only [isBreak, Bool.or_eq_true, decide_eq_true_eq] at broken
  simp only [List.any_cons, List.any_nil, Bool.or_false, Bool.or_eq_false_iff] at other
  rcases broken with rfl | rfl
  · exact other.1
  · exact other.2

theorem tag_local {text : Str} (plain : text.any isBreak = false) : Parser.Local isBreak (tag text) := by
  apply Parser.Local.tag
  intro letter member
  simpa using List.any_eq_false.mp plain letter member

theorem space0_local : Parser.Local isBreak space0 := .takeWhile0 (apart_breaks (by decide))

theorem identifier_local : Parser.Local isBreak identifier := by
  apply Parser.Local.recognize
  apply Parser.Local.many1
  refine Parser.Local.alt_cons ?_ (.alt_cons ?_ .alt_nil)
  · exact .takeWhile1 (apart_breaks (by decide))
  · exact tag_local (by decide)

theorem uintValue_local : Parser.Local isBreak uintValue :=
  Parser.Local.expect (.takeWhile1 (apart_breaks (by decide)))

theorem arraySpecifier_local : Parser.Local isBreak arraySpecifier := by
  refine Parser.Local.delimited (.satisfy (apart_breaks (by decide))) ?_ (.satisfy (apart_breaks (by decide)))
  refine Parser.Local.alt_cons ?_ (.alt_cons ?_ (.alt_cons ?_ .alt_nil))
  · exact .map _ (.preceded (tag_local (by decide)) uintValue_local)
  · exact .map _ uintValue_local
  · exact .map _ space0_local

theorem primitiveType_local : Parser.Local isBreak primitiveType := by
  apply Parser.Local.map
  apply Parser.Local.alt
  intro parser member
  obtain ⟨name, known, rfl⟩ := List.mem_map.mp member
  have plain : primitiveNames.all (fun name => !name.any isBreak) = true := by decide
  exact tag_local (by simpa using List.all_eq_true.mp plain name known)

theorem complexType_local : Parser.Local isBreak complexType :=
  .map _ (.pair (.opt (.terminated identifier_local (tag_local (by decide)))) identifier_local)

theorem baseType_local : Parser.Local isBreak baseType := by
  refine Parser.Local.alt_cons ?_ (.alt_cons ?_ (.alt_cons ?_ .alt_nil))
  · exact .map _ (.preceded (tag_local (by decide)) uintValue_local)
  · exact primitiveType_local
  · exact complexType_local

theorem typeSpec_local : Parser.Local isBreak typeSpec :=
  .bind (.pair baseType_local (.opt arraySpecifier_local)) fun _ => .pure _

theorem decimal_local : Parser.Local isBreak decimal :=
  .recognize (.many1 (.terminated (.satisfy (apart_breaks (by decide))) (.many0 (.satisfy (apart_breaks (by decide))))))

theorem exponent_local : Parser.Local isBreak exponent :=
  .bind (.satisfy (apart_breaks (by decide))) fun _ =>
    .bind (.opt (.satisfy (apart_breaks (by decide)))) fun _ => decimal_local

theorem float_local : Parser.Local isBreak (float f64FromStr) := by
  have point : Parser.Local isBreak (char '.') := .satisfy (apart_breaks (by decide))
  apply Parser.Local.expect
  refine Parser.Local.alt_cons ?_ (.alt_cons ?_ (.alt_cons ?_ .alt_nil))
  · exact .recognize (.bind point fun _ => .bind decimal_local fun _ => .opt exponent_local)
  · exact .recognize (.bind decimal_local fun _ => .bind (.opt (.preceded point decimal_local)) fun _ => exponent_local)
  · exact .recognize (.bind decimal_local fun _ => .bind point fun _ => .opt decimal_local)

theorem boolValue_local : Parser.Local isBreak (boolValue : Parser Char (Value Double)) := by
  refine Parser.Local.alt_cons ?_ (.alt_cons ?_ .alt_nil) <;> exact .value _ (tag_local (by decide))

theorem valueSpec_local : Parser.Local isBreak (valueSpec f64FromStr) := by
  refine Parser.Local.alt_cons ?_ (.alt_cons ?_ (.alt_cons ?_ (.alt_cons ?_ (.alt_cons ?_ .alt_nil))))
  · exact boolValue_local
  · exact .map _ float_local
  · exact .map _ (.expect (.preceded (tag_local (by decide)) uintValue_local))
  · exact .map _ uintValue_local
  · exact .map _ (parseString_local isBreak)

theorem constantHead_local : Parser.Local isBreak constantHead :=
  .bind typeSpec_local fun _ => .bind space0_local fun _ => .bind identifier_local fun _ => .bind space0_local fun _ =>
    .bind (tag_local (by decide)) fun _ => .bind space0_local fun _ => .pure _

theorem field_local : Parser.Local isBreak (field : Parser Char (Item Double)) :=
  .bind typeSpec_local fun _ => .bind space0_local fun _ => .bind identifier_local fun _ => .pure _

theorem constant_local : Parser.Local isBreak (constant f64FromStr) :=
  .bind typeSpec_local fun _ => .bind space0_local fun _ => .bind identifier_local fun _ => .bind space0_local fun _ =>
    .bind (tag_local (by decide)) fun _ => .bind space0_local fun _ => .bind valueSpec_local fun _ => .pure _

theorem item_local : Parser.Local isBreak (item f64FromStr) := by
  refine Parser.Local.map _ (.delimited space0_local (.alt_cons ?_ (.alt_cons ?_ .alt_nil)) space0_local)
  · exact constant_local
  · exact field_local

theorem itemOrSpace_local : Parser.Local isBreak (Parser.alt [item f64FromStr, justSpace]) := by
  refine Parser.Local.alt_cons ?_ (.alt_cons ?_ .alt_nil)
  · exact item_local
  · exact .value _ space0_local

end Local

section Never

variable {halt : Halt}

theorem identifier_never : Parser.Never halt identifier := by
  apply Parser.Never.recognize
  apply Parser.Never.many1
  refine Parser.Never.alt_cons ?_ (.alt_cons ?_ .alt_nil)
  · exact .takeWhile1 _
  · exact .tag _

theorem primitiveType_never : Parser.Never halt primitiveType := by
  apply Parser.Never.map
  apply Parser.Never.alt
  intro parser member
  obtain ⟨name, -, rfl⟩ := List.mem_map.mp member
  exact .tag name

theorem complexType_never : Parser.Never halt complexType :=
  .map _ (.pair (.opt (.terminated identifier_never (.tag _))) identifier_never)

theorem decimal_never : Parser.Never halt decimal :=
  .recognize (.many1 (.terminated (.satisfy _) (.many0 (.satisfy _))))

theorem exponent_never : Parser.Never halt exponent :=
  .bind (.satisfy _) fun _ => .bind (.opt (.satisfy _)) fun _ => decimal_never

theorem scientificForm_never : Parser.Never halt scientificForm :=
  .bind decimal_never fun _ => .bind (.opt (.preceded (.satisfy _) decimal_never)) fun _ => exponent_never

theorem floatText_never : Parser.Never halt floatText := by
  refine Parser.Never.alt_cons ?_ (.alt_cons ?_ (.alt_cons ?_ .alt_nil))
  · exact .recognize (.bind (.satisfy _) fun _ => .bind decimal_never fun _ => .opt exponent_never)
  · exact .recognize scientificForm_never
  · exact .recognize (.bind decimal_never fun _ => .bind (.satisfy _) fun _ => .opt decimal_never)

theorem boolValue_never : Parser.Never halt (boolValue : Parser Char (Value Double)) := by
  refine Parser.Never.alt_cons ?_ (.alt_cons ?_ .alt_nil) <;> exact .value _ (.tag _)

theorem boolValue_of_head {letter : Char} {rest : Str} (notFalse : 'f' ≠ letter) (notTrue : 't' ≠ letter) :
    (boolValue : Parser Char (Value Double)) (letter :: rest) = .error := by
  have first : tag "false".toList (letter :: rest) = .error := tag_of_head notFalse
  have second : tag "true".toList (letter :: rest) = .error := tag_of_head notTrue
  rw [boolValue, Parser.alt_of_error (Parser.value_of_error _ first),
    Parser.alt_of_error (Parser.value_of_error _ second), Parser.alt_nil]

theorem justSpace_never : Parser.Never halt (justSpace : Parser Char (Option (Item Double))) := .value _ (.takeWhile0 _)

theorem notLineEnding_never : Parser.Never halt notLineEnding := by
  intro input
  unfold notLineEnding
  split
  · exact Parser.Never.done_ne_halted halt _ _
  · exact Parser.Never.error_ne_halted halt
  · exact Parser.Never.done_ne_halted halt _ _

theorem comment_never : Parser.Never halt comment := .map _ (.recognize (.pair (.tag _) notLineEnding_never))

theorem uintValue_complete : Parser.Never .incomplete uintValue := .expect (.takeWhile1 _)

theorem arraySpecifier_complete : Parser.Never .incomplete arraySpecifier := by
  refine Parser.Never.delimited (.satisfy _) (.alt_cons ?_ (.alt_cons ?_ (.alt_cons ?_ .alt_nil))) (.satisfy _)
  · exact .map _ (.preceded (.tag _) uintValue_complete)
  · exact .map _ uintValue_complete
  · exact .map _ (.takeWhile0 _)

theorem typeSpec_complete : Parser.Never .incomplete typeSpec := by
  refine Parser.Never.bind (.pair ?_ (.opt arraySpecifier_complete)) fun _ => .pure _
  refine Parser.Never.alt_cons ?_ (.alt_cons ?_ (.alt_cons ?_ .alt_nil))
  · exact .map _ (.preceded (.tag _) uintValue_complete)
  · exact primitiveType_never
  · exact complexType_never

theorem float_complete : Parser.Never .incomplete (float f64FromStr) := .expect floatText_never

theorem constantHead_complete : Parser.Never .incomplete constantHead :=
  .bind typeSpec_complete fun _ => .bind (.takeWhile0 _) fun _ => .bind identifier_never fun _ =>
    .bind (.takeWhile0 _) fun _ => .bind (.tag _) fun _ => .bind (.takeWhile0 _) fun _ => .pure _

theorem field_complete : Parser.Never .incomplete (field : Parser Char (Item Double)) :=
  .bind typeSpec_complete fun _ => .bind (.takeWhile0 _) fun _ => .bind identifier_never fun _ => .pure _

end Never

section Ends

variable {input rest tail words : Str}

theorem lineEnding_eq_done {ending : Str} : lineEnding input = .done rest ending ↔
    (ending = ['\n'] ∨ ending = ['\r', '\n']) ∧ input = ending ++ rest := by
  constructor
  · intro read
    unfold lineEnding at read
    split at read <;> cases read
    · exact ⟨.inl rfl, rfl⟩
    · exact ⟨.inr rfl, rfl⟩
  · rintro ⟨rfl | rfl, rfl⟩ <;> rfl

def AtLineEnd (input : Str) : Prop := input = [] ∨ ∃ rest ending, lineEnding input = .done rest ending

theorem begins_of_lineEnding {ending : Str} (read : lineEnding input = .done rest ending) : Begins isBreak input := by
  obtain ⟨rfl | rfl, rfl⟩ := lineEnding_eq_done.mp read
  · exact ⟨'\n', rest, rfl, by decide⟩
  · exact ⟨'\r', '\n' :: rest, rfl, by decide⟩

theorem notLineEnding_of_end (plain : ∀ letter ∈ words, isBreak letter = false) (ends : AtLineEnd tail) :
    notLineEnding (words ++ tail) = .done tail words := by
  have all : ∀ letter ∈ words, (!isBreak letter) = true := by
    intro letter member
    rw [plain letter member]
    rfl
  have stops : Stops (!isBreak ·) tail := by
    rcases ends with rfl | ⟨rest, ending, read⟩
    · simp [Stops]
    · obtain ⟨letter, rest, rfl, broken⟩ := begins_of_lineEnding read
      exact .cons (by simp [broken]) rest
  obtain ⟨taken, dropped⟩ := takeWhile_append_of_stops all stops
  rw [notLineEnding, dropped, taken]
  rcases ends with rfl | ⟨rest, ending, read⟩
  · rfl
  · obtain ⟨rfl | rfl, rfl⟩ := lineEnding_eq_done.mp read <;> rfl

theorem comment_eq_done {found : Comment} (read : comment input = .done rest found) :
    input = found.text ++ rest ∧ ∃ words, found.text = '#' :: words ∧ ∀ letter ∈ words, isBreak letter = false := by
  obtain ⟨text, recognized, rfl⟩ := Parser.map_eq_done.mp read
  obtain ⟨⟨mark, words⟩, parts, rfl⟩ := Parser.recognize_eq_done recognized
  obtain ⟨middle, marked, ended⟩ := Parser.pair_eq_done.mp parts
  obtain ⟨rfl, rfl⟩ := tag_eq_done marked
  obtain ⟨rfl, breaks⟩ := notLineEnding_eq_done ended
  have consumed : ∀ front : Str, (front ++ rest).take ((front ++ rest).length - rest.length) = front := by simp
  rw [← List.append_assoc, consumed]
  exact ⟨rfl, words, rfl, breaks⟩

theorem comment_of_end (plain : ∀ letter ∈ words, isBreak letter = false) (ends : AtLineEnd tail) :
    comment ('#' :: words ++ tail) = .done tail ⟨'#' :: words⟩ :=
  Parser.map_of_done _ (Parser.recognize_of_done
    (Parser.pair_of_done (tag_append ['#'] (words ++ tail)) (notLineEnding_of_end plain ends)))

theorem comment_refused {letter : Char} (other : letter ≠ '#') (rest : Str) : comment (letter :: rest) = .error :=
  Parser.map_of_error _ (Parser.recognize_of_error (Parser.pair_of_error (tag_of_head other.symm)))

/-- The comment of a line, and the end of the line behind it. -/
theorem commentOpt_iff {found : Option Comment} (ends : AtLineEnd tail) :
    comment.opt (words ++ tail) = .done tail found ↔ comment.opt words = .done [] found := by
  cases found with
  | none =>
    rw [Parser.opt_eq_none, Parser.opt_eq_none]
    constructor
    · rintro ⟨-, whole⟩
      have none : words = [] := List.append_left_eq_self.mp whole.symm
      rw [none]
      exact ⟨rfl, rfl⟩
    · rintro ⟨-, rfl⟩
      refine ⟨?_, rfl⟩
      rcases ends with rfl | ⟨rest, ending, read⟩
      · rfl
      · obtain ⟨rfl | rfl, rfl⟩ := lineEnding_eq_done.mp read
        · exact comment_refused (by decide) rest
        · exact comment_refused (by decide) ('\n' :: rest)
  | some found =>
    rw [Parser.opt_eq_some, Parser.opt_eq_some]
    have again : ∀ {behind}, (∃ text, found.text = '#' :: text ∧ ∀ letter ∈ text, isBreak letter = false) →
        AtLineEnd behind → comment (found.text ++ behind) = .done behind found := by
      intro behind ⟨text, shape, plain⟩ ended
      obtain ⟨_⟩ := found
      cases shape
      exact comment_of_end plain ended
    constructor
    · intro read
      obtain ⟨whole, plain⟩ := comment_eq_done read
      have same : words = found.text ++ [] := by
        rw [List.append_nil]
        exact List.append_cancel_right whole
      rw [same]
      exact again plain (.inl rfl)
    · intro read
      obtain ⟨whole, plain⟩ := comment_eq_done read
      rw [List.append_nil] at whole
      rw [whole]
      exact again plain ends

end Ends

section Contents

variable {content tail input rest : Str} {found : Option (Item Double) × Option Comment}

theorem lineContent_of_end (read : lineContent f64FromStr content = .done [] found) {ending : Str}
    (ends : lineEnding tail = .done rest ending) : lineContent f64FromStr (content ++ tail) = .done tail found := by
  obtain ⟨item, text⟩ := found
  obtain ⟨middle, first, last⟩ := Parser.pair_eq_done.mp read
  have extended := itemOrSpace_local.extend_done (begins_of_lineEnding ends) first
  exact Parser.pair_of_done extended ((commentOpt_iff (.inr ⟨rest, ending, ends⟩)).mpr last)

theorem line_of_content (read : lineContent f64FromStr content = .done [] found) {ending : Str}
    (ends : lineEnding tail = .done rest ending) : line f64FromStr (content ++ tail) = .done rest found := by
  rw [line_eq]
  exact Parser.terminated_of_done (lineContent_of_end read ends) ends

/-- Where the end of the text cuts a value short, it does so inside of a string. -/
theorem valueSpec_incomplete (cut : valueSpec f64FromStr input = .incomplete) :
    parseString input = .incomplete ∧ ∀ {tail}, Begins isBreak tail →
      valueSpec f64FromStr (input ++ tail) = stringValue (input ++ tail) := by
  rw [valueSpec] at cut
  change _ = Outcome.halted .incomplete at cut
  obtain ⟨noBool, cut⟩ := Parser.Never.alt_halted boolValue_never cut
  obtain ⟨noFloat, cut⟩ := Parser.Never.alt_halted (.map _ float_complete) cut
  obtain ⟨noInt, cut⟩ := Parser.Never.alt_halted (.map _ (.expect (.preceded (.tag _) uintValue_complete))) cut
  obtain ⟨noUint, cut⟩ := Parser.Never.alt_halted (.map _ uintValue_complete) cut
  rw [Parser.alt_singleton] at cut
  change Outcome.bind _ _ = Outcome.incomplete at cut
  refine ⟨?_, ?_⟩
  · rcases Outcome.bind_eq_incomplete.mp cut with inside | ⟨_, _, -, none⟩
    · exact inside
    · cases none
  · intro tail begins
    rw [valueSpec, Parser.alt_of_error, Parser.alt_of_error, Parser.alt_of_error, Parser.alt_of_error,
      Parser.alt_singleton]
    · exact Parser.Local.extend_error (.map _ uintValue_local) begins noUint
    · exact Parser.Local.extend_error
        (.map _ (.expect (.preceded (tag_local (by decide)) uintValue_local))) begins noInt
    · exact Parser.Local.extend_error (.map _ float_local) begins noFloat
    · exact boolValue_local.extend_error begins noBool

/-- Up to its value, a constant is a field with an equals sign behind it. -/
theorem field_of_constantHead (Double : Type) {head : TypeName × Str} (read : constantHead input = .done rest head) :
    ∃ after more, (field : Parser Char (Item Double)) input = .done after (.field head.1 head.2 none) ∧
      after.dropWhile isSpace = '=' :: more := by
  obtain ⟨_, typeName, typed, read⟩ := Parser.bind_eq_done.mp read
  obtain ⟨_, _, spaced, read⟩ := Parser.bind_eq_done.mp read
  obtain ⟨after, name, named, read⟩ := Parser.bind_eq_done.mp read
  obtain ⟨_, _, spaced', read⟩ := Parser.bind_eq_done.mp read
  obtain ⟨more, _, equals, read⟩ := Parser.bind_eq_done.mp read
  obtain ⟨_, _, -, read⟩ := Parser.bind_eq_done.mp read
  cases read
  cases spaced'
  refine ⟨after, more, ?_, (tag_eq_done equals).2⟩
  rw [field, Parser.bind_of_done typed, Parser.bind_of_done spaced, Parser.bind_of_done named]
  rfl

/-- A string that goes on behind the end of a text takes more than that text. -/
theorem parseString_beyond {string : Str} (cut : parseString input = .incomplete)
    (read : parseString (input ++ tail) = .done rest string) : rest.length < tail.length := by
  by_contra long
  obtain ⟨text, whole⟩ := (parseString_local fun _ => false).suffix read
  have inside : tail <:+ rest :=
    List.suffix_of_suffix_length_le (List.suffix_append input tail) ⟨text, whole⟩ (by omega)
  obtain ⟨left, rfl⟩ := inside
  have split : text ++ left = input := by
    rw [← List.append_assoc] at whole
    exact List.append_cancel_right whole
  rw [← split, List.append_assoc] at read
  have alone := parseString_selfDelimiting _ _ _ read left
  rw [split, cut] at alone
  cases alone

theorem constant_incomplete (cut : constant f64FromStr input = .incomplete) :
    ∃ value head, constantHead input = .done value head ∧ valueSpec f64FromStr value = .incomplete := by
  rw [constant_eq] at cut
  rcases Outcome.bind_eq_incomplete.mp cut with cutHead | ⟨value, head, read, cutValue⟩
  · exact absurd cutHead (constantHead_complete input)
  · rcases Outcome.bind_eq_incomplete.mp cutValue with cutValue | ⟨_, _, -, none⟩
    · exact ⟨value, head, read, cutValue⟩
    · cases none

theorem itemOrSpace_incomplete (cut : Parser.alt [item f64FromStr, justSpace] input = .incomplete) :
    constant f64FromStr (input.dropWhile isSpace) = .incomplete := by
  have spaces : Parser.Never .incomplete (Parser.alt [(justSpace : Parser Char (Option (Item Double)))]) :=
    .alt_cons justSpace_never .alt_nil
  have fields : Parser.Never .incomplete (Parser.alt [(field : Parser Char (Item Double))]) :=
    .alt_cons field_complete .alt_nil
  have cutItem : item f64FromStr input = .incomplete := Parser.Never.halted_of_alt spaces cut
  rw [item_eq] at cutItem
  rcases Outcome.bind_eq_incomplete.mp cutItem with cutItem | ⟨_, _, -, none⟩
  · exact Parser.Never.halted_of_alt fields cutItem
  · cases none

/-- What is read of a line that has its end is not cut short where the text ends there. -/
theorem itemOrSpace_complete (begins : Begins isBreak tail) {found : Option (Item Double)} {words : Str}
    (read : Parser.alt [item f64FromStr, justSpace] (content ++ tail) = .done (words ++ tail) found)
    {text : Option Comment} (commented : comment.opt (words ++ tail) = .done tail text) :
    Parser.alt [item f64FromStr, justSpace] content ≠ .incomplete := by
  intro cut
  obtain ⟨value, head, headed, cutValue⟩ := constant_incomplete (itemOrSpace_incomplete cut)
  obtain ⟨cutString, same⟩ := valueSpec_incomplete cutValue
  have blanks : (content ++ tail).dropWhile isSpace = content.dropWhile isSpace ++ tail :=
    (Parser.dropWhile_append_of_begins begins (apart_breaks (by decide))).1
  have tried : constant f64FromStr (content.dropWhile isSpace ++ tail) =
      (stringValue (value ++ tail)).bind fun rest value => .done rest (.constant head.1 head.2 value) := by
    rw [constant_eq, constantHead_local.extend_done begins headed]
    change (valueSpec f64FromStr (value ++ tail)).bind _ = _
    rw [same begins]
  have whole : item f64FromStr (content ++ tail) =
      (Parser.alt [constant f64FromStr, field] (content.dropWhile isSpace ++ tail)).bind fun rest found =>
        .done (rest.dropWhile isSpace) (some found) := by
    rw [item_eq, blanks]
  cases string : parseString (value ++ tail) with
  | done rest text =>
    -- The string ends behind the content, ...
    have short := parseString_beyond cutString string
    rw [stringValue, Parser.map_of_done _ string] at tried
    change _ = Outcome.done rest _ at tried
    rw [Parser.alt_of_done tried] at whole
    rw [Parser.alt_of_done whole] at read
    have length := (List.dropWhile_suffix isSpace (l := rest)).length_le
    injection read with rests
    rw [rests, List.length_append] at length
    omega
  | error =>
    -- ... or the constant is read as a field, and its equals sign is left.
    have refused : constant f64FromStr (content.dropWhile isSpace ++ tail) = .error := by
      rw [tried, stringValue, Parser.map_of_error _ string]
      rfl
    obtain ⟨after, more, asField, equals⟩ := field_of_constantHead Double headed
    have left : (after ++ tail).dropWhile isSpace = '=' :: (more ++ tail) := by
      rw [(Parser.dropWhile_append_of_begins begins (apart_breaks (by decide))).1, equals]
      rfl
    rw [Parser.alt_of_error refused, Parser.alt_of_done (field_local.extend_done begins asField)] at whole
    rw [Parser.alt_of_done whole] at read
    injection read with rests
    rw [← rests, left, Parser.opt_of_error (comment_refused (by decide) _)] at commented
    injection commented with same'
    have length := congrArg List.length same'
    simp only [List.length_cons, List.length_append] at length
    omega
  | incomplete =>
    have cut' : constant f64FromStr (content.dropWhile isSpace ++ tail) = .incomplete := by
      rw [tried, stringValue, Parser.map]
      change Outcome.bind (Outcome.bind _ _) _ = _
      rw [string]
      rfl
    rw [Parser.alt_of_ne_error (by simp [cut']), cut'] at whole
    rw [Parser.alt_of_ne_error (by simp [whole, Outcome.bind]), whole] at read
    cases read
  | panicked =>
    have never : Parser.Never .panicked parseString := parseString_never
    exact absurd string (never _)

theorem content_of_line (read : line f64FromStr input = .done rest found) :
    ∃ content tail ending, input = content ++ tail ∧ lineEnding tail = .done rest ending ∧
      lineContent f64FromStr content = .done [] found := by
  obtain ⟨tail, found', inner, read⟩ := Parser.bind_eq_done.mp read
  obtain ⟨_, ending, ends, same⟩ := Parser.bind_eq_done.mp read
  cases same
  obtain ⟨item, text⟩ := found
  obtain ⟨middle, first, last⟩ := Parser.pair_eq_done.mp inner
  have begins := begins_of_lineEnding ends
  obtain ⟨words, rfl⟩ : tail <:+ middle := by
    cases text with
    | none => rw [(Parser.opt_eq_none.mp last).2]
    | some text => exact ⟨text.text, (comment_eq_done (Parser.opt_eq_some.mp last)).1.symm⟩
  obtain ⟨front, rfl⟩ := itemOrSpace_local.suffix first
  rw [← List.append_assoc] at first ⊢
  refine ⟨front ++ words, tail, ending, rfl, ends, ?_⟩
  have extended := itemOrSpace_local.extend begins (itemOrSpace_complete begins first last)
  rw [first] at extended
  have alone : Parser.alt [Msggen.item f64FromStr, justSpace] (front ++ words) = .done words item := by
    cases outcome : Parser.alt [Msggen.item f64FromStr, justSpace] (front ++ words) with
    | done rest' item' =>
      rw [outcome] at extended
      injection extended with rests same
      rw [List.append_cancel_right rests, same]
    | _ =>
      rw [outcome] at extended
      cases extended
  exact Parser.pair_of_done alone ((commentOpt_iff (.inr ⟨rest, ending, ends⟩)).mp last)

end Contents

end Ros2Client.Msggen
