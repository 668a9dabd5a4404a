import Ros2Client.Msggen.Misreadings

open Parsing

namespace Ros2Client.Msggen

variable {Double : Type} {f64FromStr : Str → Option Double}

/-- The lines that are read of a text, each with its line ending, and the text behind them. -/
inductive Lines (f64FromStr : Str → Option Double) : Str → List (Option (Item Double) × Option Comment) → Str → Prop
  | none (last : Str) : Lines f64FromStr last [] last
  | line {content ending rest last : Str} {found : Option (Item Double) × Option Comment}
      {lines : List (Option (Item Double) × Option Comment)} : lineContent f64FromStr content = .done [] found →
      ending = ['\n'] ∨ ending = ['\r', '\n'] → Lines f64FromStr rest lines last →
      Lines f64FromStr (content ++ (ending ++ rest)) (found :: lines) last

def BeginsWellFormed (text : Str) : Prop :=
  ∃ content tail, text = content ++ tail ∧ LineEnds content tail ∧ WellFormed content

/-- The text is a well-formed line without a newline, or begins with a misread one. -/
def BeginsDropped (text : Str) : Prop :=
  text ≠ [] ∧ WellFormed text ∨ ∃ content tail, text = content ++ tail ∧ LineEnds content tail ∧ Misread content

section Reading

variable {text last : Str} {lines : List (Option (Item Double) × Option Comment)}

/-- The lines of a text are what the repetition reads of it. -/
theorem reads_line_iff : (line f64FromStr).Reads text lines last ↔ Lines f64FromStr text lines last := by
  constructor
  · intro reads
    induction reads with
    | none rest => exact .none rest
    | more read _ _ ih =>
      obtain ⟨content, tail, ending, rfl, ends, formed⟩ := content_of_line read
      obtain ⟨shape, rfl⟩ := lineEnding_eq_done.mp ends
      exact .line formed shape ih
  · intro cut
    induction cut with
    | none last => exact .none last
    | @line content ending rest _ _ _ formed shape _ ih =>
      have ends : lineEnding (ending ++ rest) = .done rest ending := lineEnding_eq_done.mpr ⟨shape, rfl⟩
      have some : 0 < ending.length := by rcases shape with rfl | rfl <;> decide
      refine .more (line_of_content formed ends) ?_ ih
      simp only [List.length_append]
      omega

theorem msgSpec_eq_done :
    msgSpec f64FromStr text = .done last lines ↔ Lines f64FromStr text lines last ∧ line f64FromStr last = .error := by
  rw [← reads_line_iff]
  exact Parser.many0_eq_done_iff

/-- The texts that are read line by line are those of the grammar. -/
theorem lines_iff (documented : ∀ text, (f64FromStr text).isSome = isF64 text) :
    (∃ lines, Lines f64FromStr text lines last) ↔ ∃ front, text = front ++ last ∧ ReadableLines front := by
  constructor
  · intro ⟨lines, cut⟩
    induction cut with
    | none last => exact ⟨[], rfl, .nil⟩
    | line formed shape _ ih =>
      obtain ⟨front, rfl, readable⟩ := ih
      refine ⟨_, ?_, .line ((lineContent_iff documented).mp ⟨_, formed⟩) shape readable⟩
      simp only [List.append_assoc]
  · intro ⟨front, whole, readable⟩
    subst whole
    induction readable with
    | nil => exact ⟨[], .none last⟩
    | line formed shape _ ih =>
      obtain ⟨lines, cut⟩ := ih
      obtain ⟨found, read⟩ := (lineContent_iff documented).mpr formed
      refine ⟨found :: lines, ?_⟩
      simp only [List.append_assoc]
      exact .line read shape cut

end Reading

section Dropping

variable {text content : Str}

theorem Misread.ne_nil (given : Misread content) : content ≠ [] := by
  obtain ⟨item, comment, text, fault⟩ := given
  obtain ⟨before, after, -, -, rfl⟩ := text.parts
  have declared : ∀ {base head : Str}, Declaration base head → head ≠ [] := by
    intro base head given
    cases given with
    | intro _ _ present => simp [present]
  rcases fault with misread | member
  · have present : item ≠ [] := by
      cases misread with
      | typeName given _ _ _ begins => exact fun none => declared given (List.prefix_nil.mp (none ▸ begins))
      | defaultValue given => simp [declared given]
      | negativeFloat given => simp
    simp [present]
  · simp [List.ne_nil_of_mem member]

theorem WellFormed.unterminated (documented : ∀ text, (f64FromStr text).isSome = isF64 text) (given : WellFormed text) :
    line f64FromStr text = .error := by
  rcases given.readable_or with misread | readable
  · simpa using misread.refused documented (.inl rfl)
  · obtain ⟨found, read⟩ := (lineContent_iff documented).mpr readable
    rw [line_eq]
    exact Parser.terminated_of_error_right read rfl

theorem BeginsDropped.refused (documented : ∀ text, (f64FromStr text).isSome = isF64 text)
    (given : BeginsDropped text) :
    line f64FromStr text = .error ∧ text ≠ [] ∧ BeginsWellFormed text := by
  rcases given with ⟨present, formed⟩ | ⟨content, tail, rfl, ends, misread⟩
  · exact ⟨formed.unterminated documented, present, text, [], by simp, .inl rfl, formed⟩
  · obtain ⟨item, comment, formed, -⟩ := id misread
    exact ⟨misread.refused documented ends, by simp [misread.ne_nil], content, tail, rfl, ends, item, comment, formed⟩

/-- A well-formed line that is not dropped is read with its line ending. -/
theorem WellFormed.read_or_dropped (documented : ∀ text, (f64FromStr text).isSome = isF64 text)
    (given : WellFormed content) {ending : Str} (ends : EndsLine content ending) (rest : Str) :
    BeginsDropped (content ++ (ending ++ rest)) ∨ ∃ found, lineContent f64FromStr content = .done [] found := by
  rcases given.readable_or with misread | readable
  · exact .inl (.inr ⟨content, ending ++ rest, rfl, .inr ⟨ending, rest, rfl, ends⟩, misread⟩)
  · exact .inr ((lineContent_iff documented).mpr readable)

theorem EndsLine.shape {ending : Str} (ends : EndsLine content ending) : ending = ['\n'] ∨ ending = ['\r', '\n'] :=
  ends.symm.imp_left And.left

/-- The lines of a well-formed text are read up to its end, or to one that is dropped. -/
theorem WellFormedText.reached (documented : ∀ text, (f64FromStr text).isSome = isF64 text)
    (given : WellFormedText text) : (∃ lines, Lines f64FromStr text lines []) ∨
      ∃ lines rest, Lines f64FromStr text lines rest ∧ BeginsDropped rest := by
  induction given with
  | @last content formed =>
    by_cases none : content = []
    · subst none
      exact .inl ⟨[], .none []⟩
    · exact .inr ⟨[], content, .none content, .inl ⟨none, formed⟩⟩
  | @line content ending rest formed ends _ ih =>
    rcases formed.read_or_dropped documented ends rest with dropped | ⟨found, read⟩
    · exact .inr ⟨[], _, .none _, dropped⟩
    · rcases ih with ⟨lines, cut⟩ | ⟨lines, last, cut, dropped⟩
      · exact .inl ⟨found :: lines, .line read ends.shape cut⟩
      · exact .inr ⟨found :: lines, last, .line read ends.shape cut, dropped⟩

end Dropping

theorem nothing_dropped_iff (f64FromStr : Str → Option Double)
    (documented : ∀ text, (f64FromStr text).isSome = isF64 text) (text : Str) :
    ((∀ rest lines, msgSpec f64FromStr text = .done rest lines → rest = [] ∨ ¬BeginsWellFormed rest) ∧
      (WellFormedText text → ∃ lines, msgSpec f64FromStr text = .done [] lines)) ↔
      ¬∃ front rest, text = front ++ rest ∧ ReadableLines front ∧ BeginsDropped rest := by
  constructor
  · intro ⟨keeps, _⟩ ⟨front, rest, whole, readable, dropped⟩
    obtain ⟨lines, cut⟩ := (lines_iff documented).mpr ⟨front, whole, readable⟩
    obtain ⟨refused, present, formed⟩ := dropped.refused documented
    rcases keeps rest lines (msgSpec_eq_done.mpr ⟨cut, refused⟩) with none | other
    · exact present none
    · exact other formed
  · intro kept
    have unreached : ∀ {lines rest}, Lines f64FromStr text lines rest → ¬BeginsDropped rest := by
      intro lines rest cut dropped
      obtain ⟨front, whole, readable⟩ := (lines_iff documented).mp ⟨lines, cut⟩
      exact kept ⟨front, rest, whole, readable, dropped⟩
    refine ⟨?_, ?_⟩
    · intro rest lines read
      obtain ⟨cut, refused⟩ := msgSpec_eq_done.mp read
      rw [or_iff_not_imp_left]
      intro present ⟨content, tail, whole, ends, formed⟩
      subst whole
      rcases ends with rfl | ⟨ending, behind, rfl, ends⟩
      · rw [List.append_nil] at cut present
        exact unreached cut (.inl ⟨present, formed⟩)
      · rcases formed.read_or_dropped documented ends behind with dropped | ⟨found, content⟩
        · exact unreached cut dropped
        · rw [line_of_content content (lineEnding_eq_done.mpr ⟨ends.shape, rfl⟩)] at refused
          cases refused
    · intro formed
      rcases formed.reached documented with ⟨lines, cut⟩ | ⟨lines, rest, cut, dropped⟩
      · exact ⟨lines, msgSpec_eq_done.mpr ⟨cut, rfl⟩⟩
      · exact absurd dropped (unreached cut)

/-- Constants, a field with a comment, a blank line and a last one with blanks only. -/
theorem nothing_dropped_sample : ¬∃ front rest,
    "float64 X=1.5\nint32 Y = -5\r\nstring<=8[] names # c\n\n  \n".toList = front ++ rest ∧ ReadableLines front ∧
      BeginsDropped rest := by
  let f64FromStr : Str → Option Rat := fun text => if isF64 text then some (3 / 2) else none
  have documented : ∀ text, (f64FromStr text).isSome = isF64 text := by
    intro text
    dsimp only [f64FromStr]
    cases isF64 text <;> rfl
  have read : ∃ lines, msgSpec f64FromStr
      "float64 X=1.5\nint32 Y = -5\r\nstring<=8[] names # c\n\n  \n".toList = .done [] lines :=
    ⟨[(some (.constant ⟨.primitive "float64".toList, none⟩ ['X'] (.float (3 / 2))), none),
      (some (.constant ⟨.primitive "int32".toList, none⟩ ['Y'] (.int (-5))), none),
      (some (.field ⟨.boundedString 8, some .unbounded⟩ "names".toList none), some ⟨"# c".toList⟩),
      (none, none), (none, none)], by decide +kernel⟩
  refine (nothing_dropped_iff f64FromStr documented _).mp ⟨?_, fun _ => read⟩
  intro rest lines other
  obtain ⟨lines', same⟩ := read
  rw [other] at same
  cases same
  exact .inl rfl

/-- A last line without a newline, a type that begins like a primitive one, a carriage return in a comment, a negative
    floating-point number and a default value. -/
theorem last_line_dropped : ∃ f64FromStr : Str → Option Rat, (∀ text, (f64FromStr text).isSome = isF64 text) ∧
    ∀ text ∈ ["int32 x".toList, "boolean_t x\nint32 y\n".toList, "# a\rb\n".toList, "float64 X=-1.5\n".toList,
        "int32 x 5\n".toList],
      msgSpec f64FromStr text = .done text [] ∧ text ≠ [] ∧ BeginsWellFormed text := by
  have none : Blank [] := by simp [Blank]
  have declared : ∀ {base name : Str}, TypeText base → IsIdentifier name →
      Declaration base (base ++ ([] ++ ([' '] ++ name))) := by
    intro base name typed valid
    exact .intro typed (.inl rfl) (by simp) (by simp [Blank, isSpace]) valid
  have formed : ∀ {item : Str} (tail : Str), ItemText item → LineEnds item tail → BeginsWellFormed (item ++ tail) := by
    intro item tail given ends
    exact ⟨item, tail, rfl, ends, item, [], ⟨[], [], none, none, by simp⟩, .inr given, .inl rfl, by simp⟩
  have newline : ∀ {content : Str} (rest : Str), content.getLast? ≠ some '\r' → LineEnds content ('\n' :: rest) :=
    fun rest last => .inr ⟨['\n'], rest, rfl, .inr ⟨rfl, last⟩⟩
  have int32 : TypeText "int32".toList := .primitive (by decide)
  have float64 : TypeText "float64".toList := .primitive (by decide)
  have boolean : TypeText "boolean_t".toList := .complexType (.alone (by decide))
  have five : ValueForm ['5'] := .uint (isBound_decimal 5)
  have half : FloatText "1.5".toList :=
    @FloatText.point ['1'] ['5'] (.of_digits (by simp) (by simp)) (.inr (.of_digits (by simp) (by simp)))
  have negative : ValueForm ('-' :: "1.5".toList) := .negativeFloat half (by decide) (by decide)
  refine ⟨fun text => if isF64 text then some (3 / 2) else .none, ?_, ?_⟩
  · intro text
    dsimp only
    cases isF64 text <;> rfl
  · simp only [List.forall_mem_cons, List.not_mem_nil, false_implies, implies_true, and_true]
    refine ⟨⟨by decide +kernel, by decide, ?_⟩, ⟨by decide +kernel, by decide, ?_⟩, ⟨by decide +kernel, by decide, ?_⟩,
      ⟨by decide +kernel, by decide, ?_⟩, by decide +kernel, by decide, ?_⟩
    · exact formed [] (.field (declared int32 (by decide : IsIdentifier ['x']))) (.inl rfl)
    · exact formed _ (.field (declared boolean (by decide : IsIdentifier ['x']))) (newline _ (by decide))
    · exact ⟨"# a\rb".toList, ['\n'], by decide, newline [] (by decide), [], _,
        ⟨[], [], none, none, rfl⟩, .inl rfl, .inr (by decide), by decide⟩
    · exact formed _ (.constant (declared float64 (by decide : IsIdentifier ['X'])) none none negative)
        (newline [] (by decide))
    · exact formed _ (@ItemText.defaultValue _ _ [' '] _ (declared int32 (by decide : IsIdentifier ['x'])) (by simp)
        (by simp [Blank, isSpace]) five) (newline [] (by decide))

end Ros2Client.Msggen
