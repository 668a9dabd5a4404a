import Ros2Client.Msggen.Generation
import Ros2Client.Msggen.Completeness
import Ros2Client.Text.Source

open Parsing

namespace Ros2Client.Msggen

variable {Double : Type} {f64FromStr : Str → Option Double}

def BaseTypeName.Named : BaseTypeName → Prop
  | .primitive name => name ∈ primitiveNames
  | .boundedString _ => True
  | .complexType packageName typeName => (∀ name ∈ packageName, IsWord name) ∧ IsWord typeName

def Value.Encoded : Value Double → Prop
  | .string bytes => ∃ text : Str, bytes = text.flatMap String.utf8EncodeChar
  | _ => True

def Item.Sound : Item Double → Prop
  | .field typeName fieldName _ => typeName.base.Named ∧ IsWord fieldName
  | .constant typeName constName value => typeName.base.Named ∧ IsWord constName ∧ value.Encoded

/-- What is printed of a line has no line ending in it. -/
def Line.Sound (line : Line Double) : Prop := (∀ item ∈ line.1, item.Sound) ∧ ∀ comment ∈ line.2, '\n' ∉ comment.text

def Line.isField : Line Double → Bool
  | (some (.field _ _ _), _) => true
  | _ => false

def Line.isConstant : Line Double → Bool
  | (some (.constant _ _ _), _) => true
  | _ => false

/-- No constant stands behind a field. -/
def ConstantsFirst (lines : List (Line Double)) : Prop :=
  lines.Pairwise fun before behind => before.isField = true → behind.isConstant = false

def Value.MarksComment : Value Double → Prop
  | .string bytes => ∃ text : Str, bytes = text.flatMap String.utf8EncodeChar ∧ "//".toList <:+: text
  | _ => False

/-- The line holds a constant, and its value a `//` that is printed without quotes. -/
def Line.MarksComment : Line Double → Prop
  | (some (.constant _ _ value), _) => value.MarksComment
  | _ => False

section Declarations

variable (showF64 : Double → Str)

def constantDeclaration : Line Double → Option (List Str)
  | (some (.constant typeName constName value), _) => do
    let rustType ← translateType typeName
    let rustValue ← translateValue showF64 value
    return ["pub const ".toList ++ constName ++ " : ".toList ++ rustType ++ " = ".toList ++ rustValue ++ ";".toList]
  | (some (.field _ _ _), _) | (none, _) => some []

def fieldDeclaration : Line Double → Option (List Str)
  | (some (.field typeName fieldName _), _) => do
    let rustType ← translateType typeName
    return ["pub ".toList ++ escapeKeywords fieldName ++ " : ".toList ++ rustType ++ ",".toList]
  | (some (.constant _ _ _), _) | (none, _) => some []

/-- One declaration for every constant, and a struct with one for every field, in the order of all the lines. -/
def declarations (name : Str) (lines : List (Line Double)) : Option (List Str) := do
  let constants ← lines.mapM (constantDeclaration showF64)
  let fields ← lines.mapM fieldDeclaration
  return constants.flatten ++ ("#[derive(Debug, Serialize, Deserialize)]".toList ::
    ("pub struct ".toList ++ name ++ " \x7b".toList) :: (fields.flatten ++ ["\x7d".toList]))

/-- Once the comments are stripped, what is printed is the declarations and nothing else. -/
def DeclaresExactly (name : Str) (lines : List (Line Double)) : Prop :=
  ∃ text pieces, printStructDefinition showF64 name lines = some text ∧ declarations showF64 name lines = some pieces ∧
    Text.Consists pieces (Text.stripComments text)

end Declarations

section Parsed

variable {input rest : Str}

theorem baseType_named {found : BaseTypeName} (read : baseType input = .done rest found) : found.Named := by
  rw [baseType] at read
  rcases Parser.alt_eq_done.mp read with bounded | ⟨-, read⟩
  · obtain ⟨number, -, rfl⟩ := Parser.map_eq_done.mp bounded
    exact trivial
  rcases Parser.alt_eq_done.mp read with primitive | ⟨-, read⟩
  · obtain ⟨name, tagged, rfl⟩ := Parser.map_eq_done.mp primitive
    exact (alt_tags_eq_done tagged).1
  · rw [Parser.alt_singleton] at read
    obtain ⟨⟨package, name⟩, parts, rfl⟩ := Parser.map_eq_done.mp read
    obtain ⟨middle, first, named⟩ := Parser.pair_eq_done.mp parts
    refine ⟨?_, (identifier_eq_done named).2.1⟩
    rintro name rfl
    obtain ⟨_, packaged⟩ := Parser.terminated_eq_done (Parser.opt_eq_some.mp first)
    exact (identifier_eq_done packaged).2.1

theorem typeSpec_named {found : TypeName} (read : typeSpec input = .done rest found) : found.base.Named := by
  rw [typeSpec_eq] at read
  obtain ⟨⟨base, array⟩, parts, rfl⟩ := Parser.map_eq_done.mp read
  obtain ⟨middle, based, -⟩ := Parser.pair_eq_done.mp parts
  exact baseType_named based

theorem valueSpec_encoded {value : Value Double} (read : valueSpec f64FromStr input = .done rest value) :
    value.Encoded := by
  rw [valueSpec] at read
  rcases Parser.alt_eq_done.mp read with found | ⟨-, read⟩
  · rcases Parser.alt_eq_done.mp found with found | ⟨-, found⟩
    · obtain ⟨_, _, -, same⟩ := Parser.bind_eq_done.mp found
      cases same
      exact trivial
    · rw [Parser.alt_singleton] at found
      obtain ⟨_, _, -, same⟩ := Parser.bind_eq_done.mp found
      cases same
      exact trivial
  rcases Parser.alt_eq_done.mp read with found | ⟨-, read⟩
  · obtain ⟨_, -, rfl⟩ := Parser.map_eq_done.mp found
    exact trivial
  rcases Parser.alt_eq_done.mp read with found | ⟨-, read⟩
  · obtain ⟨_, -, rfl⟩ := Parser.map_eq_done.mp found
    exact trivial
  rcases Parser.alt_eq_done.mp read with found | ⟨-, read⟩
  · obtain ⟨_, -, rfl⟩ := Parser.map_eq_done.mp found
    exact trivial
  · rw [Parser.alt_singleton] at read
    obtain ⟨text, -, rfl⟩ := Parser.map_eq_done.mp read
    exact ⟨text, rfl⟩

theorem constant_sound {found : Item Double} (read : constant f64FromStr input = .done rest found) : found.Sound := by
  obtain ⟨_, _, typed, read⟩ := Parser.bind_eq_done.mp read
  obtain ⟨_, _, -, read⟩ := Parser.bind_eq_done.mp read
  obtain ⟨_, _, named, read⟩ := Parser.bind_eq_done.mp read
  obtain ⟨_, _, -, read⟩ := Parser.bind_eq_done.mp read
  obtain ⟨_, _, -, read⟩ := Parser.bind_eq_done.mp read
  obtain ⟨_, _, -, read⟩ := Parser.bind_eq_done.mp read
  obtain ⟨_, _, valued, same⟩ := Parser.bind_eq_done.mp read
  cases same
  exact ⟨typeSpec_named typed, (identifier_eq_done named).2.1, valueSpec_encoded valued⟩

theorem field_sound {found : Item Double} (read : field input = .done rest found) : found.Sound := by
  obtain ⟨_, _, typed, read⟩ := Parser.bind_eq_done.mp read
  obtain ⟨_, _, -, read⟩ := Parser.bind_eq_done.mp read
  obtain ⟨_, _, named, same⟩ := Parser.bind_eq_done.mp read
  cases same
  exact ⟨typeSpec_named typed, (identifier_eq_done named).2.1⟩

theorem item_sound {found : Item Double} (read : item f64FromStr input = .done rest (some found)) : found.Sound := by
  rw [item_eq] at read
  obtain ⟨_, _, read, same⟩ := Outcome.bind_eq_done.mp read
  cases same
  rcases Parser.alt_eq_done.mp read with asConstant | ⟨-, read⟩
  · exact constant_sound asConstant
  · rw [Parser.alt_singleton] at read
    exact field_sound read

theorem line_sound {found : Line Double} (read : line f64FromStr input = .done rest found) : Line.Sound found := by
  obtain ⟨item, comment⟩ := found
  obtain ⟨_, content⟩ := Parser.terminated_eq_done read
  obtain ⟨_, first, last⟩ := Parser.pair_eq_done.mp content
  constructor
  · rintro item rfl
    rcases Parser.alt_eq_done.mp first with asItem | ⟨-, blank⟩
    · exact item_sound asItem
    · rw [Parser.alt_singleton] at blank
      obtain ⟨_, _, -, same⟩ := Parser.bind_eq_done.mp blank
      cases same
  · rintro comment rfl
    obtain ⟨-, words, text, plain⟩ := comment_eq_done (Parser.opt_eq_some.mp last)
    change comment.text = _ at text
    rw [text, List.mem_cons, not_or]
    refine ⟨by decide, ?_⟩
    intro member
    exact absurd (plain _ member) (by decide)

/-- The lines that are printed come from the parser of a line. -/
theorem msgSpec_parsed {lines : List (Line Double)} (read : msgSpec f64FromStr input = .done rest lines) :
    ∀ found ∈ lines, ∃ text behind, line f64FromStr text = .done behind found :=
  (Parser.many0_eq_done_iff.mp read).1.mem

end Parsed

section Translation

theorem translateBase_some {base : BaseTypeName} (named : base.Named) :
    ∃ text, translateBase base = some text ∧ '/' ∉ text := by
  have words : ∀ {name}, IsWord name → '/' ∉ name := by
    intro name word member
    exact absurd (word.2 '/' member) (by decide)
  cases base with
  | primitive name =>
    have known : primitiveNames.all (fun name => (rustPrimitives.lookup name).any (!·.contains '/')) = true := by decide
    obtain ⟨text, found, plain⟩ := (Option.any_eq_true _ _).mp (List.all_eq_true.mp known name named)
    exact ⟨text, found, by simpa using plain⟩
  | boundedString bound => exact ⟨rustBytestring, rfl, by decide⟩
  | complexType packageName typeName =>
    cases packageName with
    | none => exact ⟨typeName, rfl, words named.2⟩
    | some packageName =>
      refine ⟨_, rfl, ?_⟩
      simp only [List.mem_append, not_or]
      exact ⟨⟨⟨by decide, words (named.1 packageName rfl)⟩, by decide⟩, words named.2⟩

theorem translateType_some {t : TypeName} (named : t.base.Named) :
    ∃ text, translateType t = some text ∧ '/' ∉ text := by
  obtain ⟨base, translated, plain⟩ := translateBase_some named
  obtain ⟨_, arraySpec⟩ := t
  unfold translateType
  rw [translated]
  cases arraySpec with
  | none => exact ⟨base, rfl, plain⟩
  | some spec =>
    cases spec with
    | static size =>
      refine ⟨_, rfl, ?_⟩
      simp only [List.mem_append, not_or]
      refine ⟨⟨⟨⟨by decide, plain⟩, by decide⟩, ?_⟩, by decide⟩
      intro member
      exact absurd (Text.decimal_isDigit member) (by decide)
    | _ =>
      refine ⟨_, rfl, ?_⟩
      simp only [List.mem_append, not_or]
      exact ⟨⟨by decide, plain⟩, by decide⟩

theorem not_marked {text : Str} (plain : '/' ∉ text) : ¬"//".toList <:+: text := by
  intro marked
  exact plain (marked.subset (by decide))

theorem encoded_marks {text : Str} :
    (.string (text.flatMap String.utf8EncodeChar) : Value Double).MarksComment ↔ "//".toList <:+: text := by
  constructor
  · intro ⟨other, same, marked⟩
    have decoded := Text.fromUTF8_encoded text
    rw [same, Text.fromUTF8_encoded, Option.some_inj, String.ofList_inj] at decoded
    rwa [← decoded]
  · intro marked
    exact ⟨text, rfl, marked⟩

theorem translateValue_some {showF64 : Double → Str} (display : ∀ number, '/' ∉ showF64 number)
    {value : Value Double} (encoded : value.Encoded) :
    ∃ text, translateValue showF64 value = some text ∧ ("//".toList <:+: text ↔ value.MarksComment) := by
  have decimals : ∀ number, '/' ∉ Text.decimal number := by
    intro number member
    exact absurd (Text.decimal_isDigit member) (by decide)
  cases value with
  | bool value => cases value <;> exact ⟨_, rfl, iff_of_false (by decide) id⟩
  | float number => exact ⟨_, rfl, iff_of_false (not_marked (display number)) id⟩
  | int number =>
    refine ⟨_, rfl, iff_of_false (not_marked ?_) id⟩
    split
    · rw [List.mem_cons, not_or]
      exact ⟨by decide, decimals _⟩
    · exact decimals _
  | uint number => exact ⟨_, rfl, iff_of_false (not_marked (decimals _)) id⟩
  | string bytes =>
    obtain ⟨text, rfl⟩ := encoded
    refine ⟨text, ?_, encoded_marks.symm⟩
    rw [translateValue, Text.fromUTF8_encoded]
    simp

end Translation

section Written

open Text

variable {showF64 : Double → Str} {body name : Str} {pieces : List Str} {comment : Option Comment}

theorem consists_self (text : Str) : Consists [text] text := by
  simpa using @Consists.cons [] text [] [] rfl (.nil rfl)

theorem writes_end (given : Consists pieces (stripComments body)) (ends : body.getLast? ≠ some '/')
    (plain : ∀ text ∈ comment, '\n' ∉ text.text) : Writes (body ++ writeComment comment) pieces := by
  cases comment with
  | none => exact writes_newline given
  | some comment =>
    have unbroken : '\n' ∉ ' ' :: comment.text := by
      rw [List.mem_cons, not_or]
      exact ⟨by decide, plain comment rfl⟩
    exact writes_comment given ends unbroken

theorem writes_blank (blank : body.all Char.isWhitespace = true) (plain : ∀ text ∈ comment, '\n' ∉ text.text) :
    Writes (body ++ writeComment comment) [] := by
  have noSlash : '/' ∉ body := fun member => absurd (List.all_eq_true.mp blank '/' member) (by decide)
  refine writes_end ?_ (fun last => noSlash (List.mem_of_getLast? last)) plain
  rw [stripComments_plain noSlash]
  exact .nil blank

theorem IsWord.plain {letter : Char} (word : IsWord name) (other : isWordChar letter = false) : letter ∉ name := by
  intro member
  rw [word.2 letter member] at other
  cases other

theorem stripped_writesIf {text : Str} {rest : Str} {fine : Prop} (fair : "//".toList <:+: text ↔ ¬fine)
    (written : Writes (text ++ rest) [stripComments text]) : WritesIf fine (text ++ rest) [text] := by
  constructor
  · intro holds
    rwa [stripComments_unmarked fun marked => fair.mp marked holds] at written
  · intro wrong
    refine ⟨_, written, ?_⟩
    rw [List.flatten_singleton, List.flatten_singleton]
    exact visible_stripComments (fair.mpr wrong)

theorem writeConstant_writesIf (display : ∀ number, '/' ∉ showF64 number) {line : Line Double}
    (sound : Line.Sound line) (other : line.1.all isNotField = true) :
    ∃ text pieces, writeConstant showF64 line = some text ∧ constantDeclaration showF64 line = some pieces ∧
      WritesIf (¬line.MarksComment) text pieces := by
  obtain ⟨item, comment⟩ := line
  cases item with
  | none =>
    have blank : ([] : Str).all Char.isWhitespace = true := rfl
    have written := (writes_blank blank sound.2).writesIf
    exact ⟨_, _, rfl, rfl, written.congr (iff_of_true trivial id)⟩
  | some item =>
    cases item with
    | field typeName fieldName defaultValue => cases other
    | constant typeName constName value =>
      obtain ⟨named, word, encoded⟩ := sound.1 _ rfl
      obtain ⟨rustType, typed, noSlash⟩ := translateType_some named
      obtain ⟨rustValue, valued, marks⟩ := translateValue_some display encoded
      refine ⟨_, _, by rw [writeConstant, typed, valued]; rfl, by rw [constantDeclaration, typed, valued]; rfl, ?_⟩
      have plain : '/' ∉ "pub const ".toList ++ constName ++ " : ".toList ++ rustType ++ " = ".toList := by
        simp only [List.mem_append, not_or]
        exact ⟨⟨⟨⟨by decide, word.plain (by decide)⟩, by decide⟩, noSlash⟩, by decide⟩
      have semicolon : '/' ∉ ";".toList := by decide
      have fair := (slashes_append_right semicolon).trans ((slashes_append rustValue plain).trans marks)
      refine stripped_writesIf (fair.trans not_not.symm) ?_
      exact writes_end (consists_self _) (by rw [List.getLast?_append]; simp) sound.2

theorem escapeKeywords_plain (word : IsWord name) : '/' ∉ escapeKeywords name := by
  have plain : '/' ∉ name := word.plain (by decide)
  rw [escapeKeywords]
  split
  · rw [List.mem_append, not_or]
    exact ⟨by decide, plain⟩
  · exact plain

theorem field_consists {rustType : Str} (noSlash : '/' ∉ rustType) (word : IsWord name) :
    Consists ["pub ".toList ++ escapeKeywords name ++ " : ".toList ++ rustType ++ ",".toList]
      (stripComments ("  pub ".toList ++ (escapeKeywords name ++ " : ".toList ++ rustType ++ ", ".toList))) := by
  have plain : '/' ∉ "  pub ".toList ++ (escapeKeywords name ++ " : ".toList ++ rustType ++ ", ".toList) := by
    simp only [List.mem_append, not_or]
    exact ⟨by decide, ⟨⟨escapeKeywords_plain word, by decide⟩, noSlash⟩, by decide⟩
  have blank : "  ".toList.all Char.isWhitespace = true := by decide
  have blank' : " ".toList.all Char.isWhitespace = true := by decide
  have whole : "  pub ".toList ++ (escapeKeywords name ++ " : ".toList ++ rustType ++ ", ".toList) =
      "  ".toList ++
        ("pub ".toList ++ escapeKeywords name ++ " : ".toList ++ rustType ++ ",".toList ++ " ".toList) := by
    simp
  rw [stripComments_plain plain, whole]
  exact .cons blank (.nil blank')

theorem skipped_consists (word : IsWord name) : Consists ["pub".toList] (stripComments
    ("  pub ".toList ++ ("// skipped constant ".toList ++ name ++ " in the middle of struct".toList))) := by
  have plain : '\n' ∉ " skipped constant ".toList ++ name ++ " in the middle of struct".toList := by
    simp only [List.mem_append, not_or]
    exact ⟨⟨by decide, word.plain (by decide)⟩, by decide⟩
  have stripped : stripComments ("  pub ".toList ++ ("// skipped constant ".toList ++ name ++
      " in the middle of struct".toList)) = "  pub ".toList := by
    rw [stripComments, uncommented_append (.inl (by decide))]
    change "  pub ".toList ++
      uncommented true (" skipped constant ".toList ++ name ++ " in the middle of struct".toList) = _
    rw [uncommented_inside plain, List.append_nil]
  have blank : "  ".toList.all Char.isWhitespace = true := by decide
  have blank' : " ".toList.all Char.isWhitespace = true := by decide
  rw [stripped]
  exact @Consists.cons "  ".toList "pub".toList " ".toList [] blank (.nil blank')

theorem residue_writesIf {text declaration : Str} (written : Writes text ["pub".toList]) :
    WritesIf False text ["pub const ".toList ++ declaration] := by
  constructor
  · exact False.elim
  · intro _
    refine ⟨_, written, ?_⟩
    rw [List.flatten_singleton, List.flatten_singleton, visible_append]
    exact Nat.lt_add_right _ (by decide)

theorem writeField_writesIf (display : ∀ number, '/' ∉ showF64 number) {line : Line Double} (sound : Line.Sound line) :
    ∃ text constant field, writeField line = some text ∧ constantDeclaration showF64 line = some constant ∧
      fieldDeclaration line = some field ∧ WritesIf (line.isConstant = false) text (constant ++ field) ∧
      (line.isConstant = false → constant = []) := by
  obtain ⟨item, comment⟩ := line
  cases item with
  | none =>
    have blank : ([] : Str).all Char.isWhitespace = true := rfl
    have blank' : "  ".toList.all Char.isWhitespace = true := by decide
    have fine : True ↔ Line.isConstant ((none, comment) : Line Double) = false := iff_of_true trivial rfl
    cases comment with
    | none => exact ⟨_, _, _, rfl, rfl, rfl, (writes_blank blank sound.2).writesIf.congr fine, fun _ => rfl⟩
    | some comment => exact ⟨_, _, _, rfl, rfl, rfl, (writes_blank blank' sound.2).writesIf.congr fine, fun _ => rfl⟩
  | some item =>
    cases item with
    | field typeName fieldName defaultValue =>
      obtain ⟨named, word⟩ := sound.1 _ rfl
      obtain ⟨rustType, typed, plain⟩ := translateType_some named
      refine ⟨_, _, _, by rw [writeField, typed]; rfl, rfl, by rw [fieldDeclaration, typed]; rfl, ?_, fun _ => rfl⟩
      refine (Writes.writesIf ?_).congr (iff_of_true trivial rfl)
      exact writes_end (field_consists plain word) (by rw [← List.append_assoc, List.getLast?_append]; simp) sound.2
    | constant typeName constName value =>
      obtain ⟨named, word, encoded⟩ := sound.1 _ rfl
      obtain ⟨rustType, typed, -⟩ := translateType_some named
      obtain ⟨rustValue, valued, -⟩ := translateValue_some display encoded
      refine ⟨_, _, _, rfl, by rw [constantDeclaration, typed, valued]; rfl, rfl, ?_, fun wrong => by cases wrong⟩
      have residue : Writes ("  pub ".toList ++ ("// skipped constant ".toList ++ constName ++
          " in the middle of struct".toList) ++ writeComment comment) ["pub".toList] :=
        writes_end (skipped_consists word) (by rw [← List.append_assoc, List.getLast?_append]; simp) sound.2
      refine WritesIf.congr ?_ (iff_of_false id (by simp [Line.isConstant]))
      simpa only [List.append_nil, List.append_assoc] using residue_writesIf residue

theorem writeLines_writesIf {write : Line Double → Option Str} {parts : Line Double → Option (List Str)}
    {fine : Line Double → Prop} {lines : List (Line Double)}
    (each : ∀ line ∈ lines, ∃ text pieces, write line = some text ∧ parts line = some pieces ∧
      WritesIf (fine line) text pieces) :
    ∃ text pieces, writeLines write lines = some text ∧ lines.mapM parts = some pieces ∧
      WritesIf (∀ line ∈ lines, fine line) text pieces.flatten := by
  induction lines with
  | nil => exact ⟨[], [], rfl, rfl, Writes.nil.writesIf.congr (by simp)⟩
  | cons line lines ih =>
    obtain ⟨text, pieces, written, found, given⟩ := each line (by simp)
    obtain ⟨rest, others, written', found', given'⟩ := ih fun other member => each other (by simp [member])
    refine ⟨text ++ rest, pieces :: others, ?_, ?_, (given.append given').congr (by simp)⟩
    · rw [writeLines, written, written']
      rfl
    · rw [List.mapM_cons, found, found']
      rfl

theorem fieldDeclaration_empty {line : Line Double} (other : line.1.all isNotField = true) :
    fieldDeclaration line = some [] := by
  obtain ⟨item, comment⟩ := line
  cases item with
  | none => rfl
  | some item => cases item with
    | field => cases other
    | constant => rfl

/-- Behind the first field a constant is left out, and is then missing. -/
theorem writeFields_writesIf (display : ∀ number, '/' ∉ showF64 number) {lines : List (Line Double)}
    (sound : ∀ line ∈ lines, Line.Sound line) :
    ∃ text constants fields, writeLines writeField lines = some text ∧
      lines.mapM (constantDeclaration showF64) = some constants ∧ lines.mapM fieldDeclaration = some fields ∧
      WritesIf (∀ line ∈ lines, line.isConstant = false) text (constants.flatten ++ fields.flatten) ∧
      ((∀ line ∈ lines, line.isConstant = false) → constants.flatten = []) := by
  induction lines with
  | nil => exact ⟨[], [], [], rfl, rfl, rfl, Writes.nil.writesIf.congr (by simp), fun _ => rfl⟩
  | cons line lines ih =>
    obtain ⟨text, constant, field, written, found, declared, given, absent⟩ :=
      writeField_writesIf display (sound line (by simp))
    obtain ⟨rest, constants, fields, written', found', declared', given', absent'⟩ :=
      ih fun other member => sound other (by simp [member])
    refine ⟨text ++ rest, constant :: constants, field :: fields, ?_, ?_, ?_, ?_, ?_⟩
    · rw [writeLines, written, written']
      rfl
    · rw [List.mapM_cons, found, found']
      rfl
    · rw [List.mapM_cons, declared, declared']
      rfl
    · refine ((given.append given').moved ?_ ?_).congr (by simp)
      · intro fine
        simp [absent fine.1, absent' fine.2]
      · simp only [List.flatten_cons, List.flatten_append, visible_append]
        omega
    · intro fine
      rw [List.flatten_cons, absent (fine line (by simp)), absent' fun other member => fine other (by simp [member])]
      rfl

theorem mapM_empty {parts : Line Double → Option (List Str)} {lines : List (Line Double)}
    (each : ∀ line ∈ lines, parts line = some []) : ∃ pieces, lines.mapM parts = some pieces ∧ pieces.flatten = [] := by
  induction lines with
  | nil => exact ⟨[], rfl, rfl⟩
  | cons line lines ih =>
    obtain ⟨pieces, found, empty⟩ := ih fun other member => each other (by simp [member])
    refine ⟨[] :: pieces, ?_, by simpa using empty⟩
    rw [List.mapM_cons, each line (by simp), found]
    rfl

theorem notYet_constant {line : Line Double} {lines : List (Line Double)} (member : line ∈ notYet lines) :
    line.1.all isNotField = true := by
  rw [notYet] at member
  have taken := List.mem_takeWhile_imp member
  exact taken

theorem writes_plain {text : Str} (split : text = body ++ ['\n']) (plain : '/' ∉ body) : Writes text [body] := by
  rw [split]
  apply writes_newline
  rw [stripComments_plain plain]
  exact consists_self body

theorem header_writesIf (name : Str) : WritesIf (¬"//".toList <:+: name) ("\n".toList ++
    ("#[derive(Debug, Serialize, Deserialize)]\n".toList ++ ("pub struct ".toList ++ name ++ " \x7b\n".toList)))
    ["#[derive(Debug, Serialize, Deserialize)]".toList, "pub struct ".toList ++ name ++ " \x7b".toList] := by
  have blank : Writes ([] ++ ['\n']) [] := writes_newline (.nil (by decide))
  have derived : Writes "#[derive(Debug, Serialize, Deserialize)]\n".toList
      ["#[derive(Debug, Serialize, Deserialize)]".toList] := writes_plain (by decide) (by decide)
  have before : '/' ∉ "pub struct ".toList := by decide
  have behind : '/' ∉ " \x7b".toList := by decide
  have fair := (slashes_append_right behind).trans (slashes_append name before)
  have opening := stripped_writesIf (fair.trans not_not.symm) (writes_newline (consists_self _))
  rw [List.append_assoc _ " \x7b".toList] at opening
  exact (blank.writesIf.append (derived.writesIf.append opening)).congr (by simp)

end Written

section Order

variable {line : Line Double} {lines : List (Line Double)}

theorem Line.isField_eq (line : Line Double) : line.isField = !line.1.all isNotField := by
  obtain ⟨item, comment⟩ := line
  cases item with
  | none => rfl
  | some item => cases item <;> rfl

theorem Line.not_both (isField : line.isField = true) : line.isConstant = false := by
  obtain ⟨item, comment⟩ := line
  cases item with
  | none => rfl
  | some item => cases item with
    | field => rfl
    | constant => cases isField

theorem notYet_append_gotField (lines : List (Line Double)) : notYet lines ++ gotField lines = lines :=
  List.takeWhile_append_dropWhile

theorem gotField_head {others : List (Line Double)} (behind : gotField lines = line :: others) :
    line.isField = true := by
  have stops := List.head?_dropWhile_not (fun line : Line Double => line.1.all isNotField) lines
  rw [gotField] at behind
  rw [behind] at stops
  rw [Line.isField_eq, Bool.not_eq_true']
  simpa using stops

theorem constantsFirst_iff : ConstantsFirst lines ↔ ∀ line ∈ gotField lines, line.isConstant = false := by
  constructor
  · intro ordered
    rw [ConstantsFirst, ← notYet_append_gotField lines, List.pairwise_append] at ordered
    intro line member
    cases behind : gotField lines with
    | nil =>
      rw [behind] at member
      cases member
    | cons first others =>
      rw [behind] at member ordered
      rcases List.mem_cons.mp member with rfl | member
      · exact Line.not_both (gotField_head behind)
      · exact (List.pairwise_cons.mp ordered.2.1).1 line member (gotField_head behind)
  · intro absent
    rw [ConstantsFirst, ← notYet_append_gotField lines, List.pairwise_append]
    have noField : ∀ line ∈ notYet lines, line.isField = false := by
      intro line member
      rw [Line.isField_eq, notYet_constant member]
      rfl
    refine ⟨?_, ?_, ?_⟩
    · refine List.pairwise_of_forall_mem_list fun line member other _ isField => ?_
      rw [noField line member] at isField
      cases isField
    · exact List.pairwise_of_forall_mem_list fun _ _ line member _ => absent line member
    · intro line member other _ isField
      rw [noField line member] at isField
      cases isField

theorem notYet_plain (absent : ∀ line ∈ gotField lines, line.isConstant = false) :
    (∀ line ∈ notYet lines, ¬line.MarksComment) ↔ ∀ line ∈ lines, ¬line.MarksComment := by
  constructor
  · intro plain line member
    rw [← notYet_append_gotField lines, List.mem_append] at member
    rcases member with member | member
    · exact plain line member
    · have other := absent line member
      obtain ⟨item, comment⟩ := line
      cases item with
      | none => exact id
      | some item => cases item with
        | field => exact id
        | constant => cases other
  · intro plain line member
    exact plain line ((List.takeWhile_sublist _).subset member)

end Order

theorem struct_writesIf {showF64 : Double → Str} (display : ∀ number, '/' ∉ showF64 number) (name : Str)
    {lines : List (Line Double)} (sound : ∀ line ∈ lines, Line.Sound line) :
    ∃ text pieces, printStructDefinition showF64 name lines = some text ∧
      declarations showF64 name lines = some pieces ∧
      Text.WritesIf ((∀ line ∈ notYet lines, ¬line.MarksComment) ∧ ¬"//".toList <:+: name ∧
        ∀ line ∈ gotField lines, line.isConstant = false) text pieces := by
  have front : ∀ line ∈ notYet lines, Line.Sound line := fun line member =>
    sound line ((List.takeWhile_sublist _).subset member)
  have back : ∀ line ∈ gotField lines, Line.Sound line := fun line member =>
    sound line ((List.dropWhile_sublist _).subset member)
  obtain ⟨text, constants, written, found, given⟩ := writeLines_writesIf fun line member =>
    writeConstant_writesIf display (front line member) (notYet_constant member)
  obtain ⟨text', skipped, fields, written', found', declared', given', absent⟩ := writeFields_writesIf display back
  obtain ⟨empty, declared, noField⟩ := mapM_empty fun line (member : line ∈ notYet lines) =>
    fieldDeclaration_empty (notYet_constant member)
  have closing : Text.Writes "\x7d\n".toList ["\x7d".toList] := writes_plain (by decide) (by decide)
  have whole := given.append ((header_writesIf name).append (given'.append closing.writesIf))
  have expected : declarations showF64 name lines = some ((constants ++ skipped).flatten ++
      ("#[derive(Debug, Serialize, Deserialize)]".toList :: ("pub struct ".toList ++ name ++ " \x7b".toList) ::
        ((empty ++ fields).flatten ++ ["\x7d".toList]))) := by
    rw [declarations, ← notYet_append_gotField lines, List.mapM_append, List.mapM_append, found, found', declared,
      declared']
    rfl
  refine ⟨_, _, ?_, expected, (whole.moved ?_ ?_).congr (by rw [and_true])⟩
  · rw [printStructDefinition, written, written']
    simp
  · intro fine
    simp [absent fine.2.2.1, noField]
  · simp only [List.flatten_append, List.flatten_cons, Text.visible_append, noField, List.append_assoc]
    omega

theorem struct_declares_iff (f64FromStr : Str → Option Double) (showF64 : Double → Str) (name : Str)
    (lines : List (Line Double)) (parsed : ∀ found ∈ lines, ∃ text rest, line f64FromStr text = .done rest found)
    (display : ∀ number, '/' ∉ showF64 number) :
    DeclaresExactly showF64 name lines ↔
      ConstantsFirst lines ∧ ¬"//".toList <:+: name ∧ ∀ line ∈ lines, ¬line.MarksComment := by
  have sound : ∀ found ∈ lines, Line.Sound found := by
    intro found member
    obtain ⟨_, _, read⟩ := parsed found member
    exact line_sound read
  obtain ⟨text, pieces, printed, declared, given⟩ := struct_writesIf display name sound
  constructor
  · intro ⟨text', pieces', printed', declared', consists⟩
    rw [printed, Option.some_inj] at printed'
    rw [declared, Option.some_inj] at declared'
    subst printed' declared'
    obtain ⟨plain, unmarked, absent⟩ := given.consists_iff.mp consists
    exact ⟨constantsFirst_iff.mpr absent, unmarked, (notYet_plain absent).mp plain⟩
  · intro ⟨ordered, unmarked, plain⟩
    have absent := constantsFirst_iff.mp ordered
    have consists := given.consists_iff.mpr ⟨(notYet_plain absent).mpr plain, unmarked, absent⟩
    exact ⟨text, pieces, printed, declared, consists⟩

/-- A constant with a comment, and a field with the name of a keyword. -/
theorem struct_declares_keyword : ∃ lines,
    msgSpec (fun _ => some ()) "int32 X=-1 # c\nstring[] type\n".toList = .done [] lines ∧
      DeclaresExactly (fun _ : Unit => []) "T".toList lines := by
  have read : msgSpec (fun _ => some ()) "int32 X=-1 # c\nstring[] type\n".toList = .done []
      [(some (.constant ⟨.primitive "int32".toList, none⟩ ['X'] (.int (-1))), some ⟨"# c".toList⟩),
        (some (.field ⟨.primitive "string".toList, some .unbounded⟩ "type".toList none), none)] := by
    decide +kernel
  refine ⟨_, read, (struct_declares_iff (fun _ => some ()) _ _ _ (msgSpec_parsed read) ?_).mpr ⟨?_, ?_, ?_⟩⟩
  · exact fun _ => List.not_mem_nil
  · exact List.pairwise_pair.mpr fun isField => by cases isField
  · exact not_marked (by decide)
  · intro line member marked
    simp only [List.mem_cons, List.not_mem_nil, or_false] at member
    rcases member with rfl | rfl <;> exact marked

theorem not_declares {showF64 : Double → Str} {name : Str} {lines : List (Line Double)}
    (differ : (printStructDefinition showF64 name lines).map (fun text => Text.visible (Text.stripComments text)) ≠
      (declarations showF64 name lines).map (fun pieces => Text.visible pieces.flatten)) :
    ¬DeclaresExactly showF64 name lines := by
  intro ⟨text, pieces, printed, declared, consists⟩
  rw [printed, declared, Option.map_some, Option.map_some, consists.visible] at differ
  exact differ rfl

/-- The constant behind the field is not declared, and of the string in front of it only a part is. -/
theorem constants_not_declared : (∃ lines,
      msgSpec (fun _ => some ()) "int32 x\nint32 Y=1\n".toList = .done [] lines ∧
        ¬DeclaresExactly (fun _ : Unit => []) "T".toList lines) ∧
    ∃ lines, msgSpec (fun _ => some ()) "string Y=\"a//b\"\nint32 x\n".toList = .done [] lines ∧
      ¬DeclaresExactly (fun _ : Unit => []) "T".toList lines := by
  constructor
  · refine ⟨[(some (.field ⟨.primitive "int32".toList, none⟩ ['x'] none), none),
      (some (.constant ⟨.primitive "int32".toList, none⟩ ['Y'] (.uint 1)), none)], by decide +kernel, ?_⟩
    exact not_declares (by decide +kernel)
  · refine ⟨[(some (.constant ⟨.primitive "string".toList, none⟩ ['Y'] (.string [97, 47, 47, 98])), none),
      (some (.field ⟨.primitive "int32".toList, none⟩ ['x'] none), none)], by decide +kernel, ?_⟩
    exact not_declares (by decide +kernel)

end Ros2Client.Msggen
