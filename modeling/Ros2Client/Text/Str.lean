import Mathlib.Data.List.DropRight
import Mathlib.Data.List.Infix
import Mathlib.Data.Nat.Digits.Defs

abbrev Str := List Char

namespace Text

variable {α : Type} [DecidableEq α]

def replace (old : α) (new text : List α) : List α :=
  text.flatMap fun item => if item = old then new else [item]

def trimMatches (item : α) (text : List α) : List α :=
  (text.dropWhile (· = item)).rdropWhile (· = item)

def rsplitOnce (separator : α) : List α → Option (List α × List α)
  | [] => none
  | item :: rest =>
    match rsplitOnce separator rest with
    | some (before, after) => some (item :: before, after)
    | none => if item = separator then some ([], rest) else none

@[simp] theorem replace_nil (old : α) (new : List α) : replace old new [] = [] := rfl

@[simp] theorem replace_append (old : α) (new first second : List α) :
    replace old new (first ++ second) = replace old new first ++ replace old new second :=
  List.flatMap_append

theorem replace_cons (old : α) (new : List α) (item : α) (rest : List α) :
    replace old new (item :: rest) = (if item = old then new else [item]) ++ replace old new rest :=
  List.flatMap_cons

theorem not_mem_replace {old : α} {new : List α} (absent : old ∉ new) (text : List α) :
    old ∉ replace old new text := by
  induction text with
  | nil => simp
  | cons item rest ih =>
    rw [replace_cons, List.mem_append, not_or]
    refine ⟨?_, ih⟩
    split
    · exact absent
    · rename_i other
      simpa using Ne.symm other

theorem mem_of_mem_replace {old item : α} {new text : List α} (member : item ∈ replace old new text) :
    item ∈ new ∨ item ∈ text := by
  obtain ⟨source, inside, replaced⟩ := List.mem_flatMap.mp member
  split at replaced
  · exact .inl replaced
  · rw [List.mem_singleton.mp replaced]
    exact .inr inside

/-- Replacing one item by another and back gives the text again, if the other did not occur in it. -/
theorem replace_replace {old new : α} {text : List α} (absent : new ∉ text) :
    replace new [old] (replace old [new] text) = text := by
  induction text with
  | nil => rfl
  | cons item rest ih =>
    rw [List.mem_cons, not_or] at absent
    rw [replace_cons, replace_append, ih absent.2]
    by_cases same : item = old
    · simp [replace, same]
    · simp [replace, same, Ne.symm absent.1]

def SameUpToEnds (item : α) (first second : List α) : Prop :=
  ∃ core, (∃ front back, first = List.replicate front item ++ core ++ List.replicate back item) ∧
    ∃ front back, second = List.replicate front item ++ core ++ List.replicate back item

theorem dropWhile_replicate_append (item : α) (count : Nat) (text : List α) :
    (List.replicate count item ++ text).dropWhile (· = item) = text.dropWhile (· = item) := by
  induction count with
  | zero => simp
  | succ count ih => simp [List.replicate_succ, ih]

theorem rdropWhile_append_replicate (item : α) (count : Nat) (text : List α) :
    (text ++ List.replicate count item).rdropWhile (· = item) = text.rdropWhile (· = item) := by
  rw [List.rdropWhile, List.reverse_append, List.reverse_replicate, dropWhile_replicate_append]
  rfl

theorem mem_of_mem_trimMatches {item other : α} {text : List α} (member : other ∈ trimMatches item text) :
    other ∈ text :=
  (List.dropWhile_sublist _).mem ((List.rdropWhile_prefix _ _).mem member)

theorem trimMatches_ends (item : α) (front back : Nat) (core : List α) :
    trimMatches item (List.replicate front item ++ core ++ List.replicate back item) = trimMatches item core := by
  unfold trimMatches
  rw [List.append_assoc, dropWhile_replicate_append]
  by_cases trimmed : core.dropWhile (· = item) = []
  · have all := List.dropWhile_eq_nil_iff.mp trimmed
    have rest : (core ++ List.replicate back item).dropWhile (· = item) = [] := by
      rw [List.dropWhile_eq_nil_iff]
      intro char member
      rcases List.mem_append.mp member with inside | outside
      · exact all char inside
      · simp [List.eq_of_mem_replicate outside]
    rw [rest, trimmed]
  · rw [List.dropWhile_append, if_neg (by simpa using trimmed), rdropWhile_append_replicate]

theorem ends_trimMatches (item : α) (text : List α) :
    ∃ front back, text = List.replicate front item ++ trimMatches item text ++ List.replicate back item := by
  have front : text.takeWhile (· = item) = List.replicate (text.takeWhile (· = item)).length item := by
    rw [List.eq_replicate_iff]
    exact ⟨rfl, fun char member => by simpa using List.mem_takeWhile_imp member⟩
  have back : (text.dropWhile (· = item)).rtakeWhile (· = item) =
      List.replicate ((text.dropWhile (· = item)).rtakeWhile (· = item)).length item := by
    rw [List.eq_replicate_iff]
    exact ⟨rfl, fun char member => by simpa using List.mem_rtakeWhile_imp member⟩
  refine ⟨(text.takeWhile (· = item)).length, ((text.dropWhile (· = item)).rtakeWhile (· = item)).length, ?_⟩
  rw [← front, List.append_assoc, trimMatches, ← back, List.rdropWhile_append_rtakeWhile,
    List.takeWhile_append_dropWhile]

theorem trimMatches_eq_iff {item : α} {first second : List α} :
    trimMatches item first = trimMatches item second ↔ SameUpToEnds item first second := by
  constructor
  · intro same
    obtain ⟨front, back, split⟩ := ends_trimMatches item first
    obtain ⟨front', back', split'⟩ := ends_trimMatches item second
    exact ⟨_, ⟨front, back, split⟩, front', back', same ▸ split'⟩
  · intro shared
    obtain ⟨core, ⟨front, back, rfl⟩, front', back', rfl⟩ := shared
    rw [trimMatches_ends, trimMatches_ends]

theorem append_cons_inj_left {separator : α} {first second rest rest' : List α}
    (absent : separator ∉ first) (absent' : separator ∉ second) :
    first ++ separator :: rest = second ++ separator :: rest' ↔ first = second ∧ rest = rest' := by
  constructor
  · intro same
    have split := congrArg (List.takeWhile (· ≠ separator)) same
    have before : ∀ text tail : List α, separator ∉ text →
        (text ++ separator :: tail).takeWhile (· ≠ separator) = text := by
      intro text tail outside
      rw [List.takeWhile_append_of_pos (by
        intro item member
        simpa using fun found : item = separator => outside (found ▸ member))]
      simp
    rw [before _ _ absent, before _ _ absent'] at split
    subst split
    simpa using same
  · intro parts
    obtain ⟨rfl, rfl⟩ := parts
    rfl

theorem append_cons_inj_right {separator : α} {first second rest rest' : List α}
    (absent : separator ∉ rest) (absent' : separator ∉ rest') :
    first ++ separator :: rest = second ++ separator :: rest' ↔ first = second ∧ rest = rest' := by
  have reversed : rest.reverse ++ separator :: first.reverse = rest'.reverse ++ separator :: second.reverse ↔
      rest.reverse = rest'.reverse ∧ first.reverse = second.reverse :=
    append_cons_inj_left (mt List.mem_reverse.mp absent) (mt List.mem_reverse.mp absent')
  rw [← List.reverse_inj]
  simpa [and_comm] using reversed

omit [DecidableEq α] in
theorem intercalate_append {separator : List α} {first second : List (List α)} (present : first ≠ [])
    (present' : second ≠ []) :
    separator.intercalate (first ++ second) = separator.intercalate first ++ separator ++
      separator.intercalate second := by
  induction first with
  | nil => exact absurd rfl present
  | cons part parts ih =>
    cases parts with
    | nil => simp [List.intercalate_cons_of_ne_nil present']
    | cons next parts =>
      rw [List.cons_append, List.intercalate_cons_of_ne_nil (by simp), ih (by simp), List.intercalate_cons_cons]
      simp only [List.append_assoc]

/-- Splitting a joined text splits each of its parts further. -/
theorem splitOn_intercalate_flatMap {separator : α} {parts : List (List α)} (present : parts ≠ []) :
    ([separator].intercalate parts).splitOn separator = parts.flatMap (·.splitOn separator) := by
  induction parts with
  | nil => exact absurd rfl present
  | cons part parts ih =>
    cases parts with
    | nil => simp
    | cons next parts =>
      rw [List.intercalate_cons_cons, List.append_assoc, List.singleton_append, List.splitOn_append_cons_self,
        ih (by simp)]
      rfl

theorem not_mem_of_mem_splitOn {separator : α} {text part : List α} (member : part ∈ text.splitOn separator) :
    separator ∉ part := by
  induction text generalizing part with
  | nil =>
    rw [List.splitOn_nil, List.mem_singleton] at member
    simp [member]
  | cons item rest ih =>
    rw [List.splitOn_cons_eq_if_modifyHead] at member
    split at member
    · rcases List.mem_cons.mp member with rfl | later
      · simp
      · exact ih later
    · rename_i other
      cases parts : rest.splitOn separator with
      | nil => exact absurd parts (List.splitOn_ne_nil _ _)
      | cons head tail =>
        rw [parts] at ih member
        rcases List.mem_cons.mp member with rfl | later
        · simp only [List.mem_cons, not_or]
          exact ⟨fun same => other (by simp [same]), ih (by simp)⟩
        · exact ih (by simp [later])

omit [DecidableEq α] in
theorem not_mem_intercalate {item separator : α} {parts : List (List α)} (other : item ≠ separator)
    (absent : ∀ part ∈ parts, item ∉ part) : item ∉ [separator].intercalate parts := by
  induction parts with
  | nil => simp
  | cons part parts ih =>
    have rest := ih fun later member => absent later (by simp [member])
    cases parts with
    | nil => simpa using absent part (by simp)
    | cons next parts =>
      rw [List.intercalate_cons_cons]
      simp only [List.mem_append, List.mem_singleton, not_or]
      exact ⟨⟨absent part (by simp), other⟩, rest⟩

theorem mem_of_mem_splitOn {separator item : α} {text part : List α} (member : part ∈ text.splitOn separator)
    (inside : item ∈ part) : item ∈ text := by
  have joined : [separator].intercalate (text.splitOn separator) = text := List.intercalate_splitOn separator
  rw [← joined]
  clear joined
  generalize text.splitOn separator = parts at member
  induction parts with
  | nil => cases member
  | cons first parts ih =>
    cases parts with
    | nil => simpa [← List.mem_singleton.mp member] using inside
    | cons next parts =>
      rw [List.intercalate_cons_cons, List.append_assoc]
      rcases List.mem_cons.mp member with rfl | later
      · exact List.mem_append_left _ inside
      · exact List.mem_append_right _ (List.mem_append_right _ (ih later))

/-- `char::encode_utf16`: one code unit, or a surrogate pair above the basic plane. -/
def encodeUtf16 (char : Char) : List Nat :=
  if char.toNat < 0x10000 then [char.toNat]
  else [0xD800 + (char.toNat - 0x10000) / 0x400, 0xDC00 + (char.toNat - 0x10000) % 0x400]

def decimal (number : Nat) : Str := Nat.toDigits 10 number

/-- Reads an unsigned decimal number: an optional plus sign, then at least one digit. -/
def parseDecimal (text : Str) : Option Nat :=
  let digits := if text.head? = some '+' then text.tail else text
  if digits ≠ [] && digits.all Char.isDigit then some (Nat.ofDigitChars 10 digits 0) else none

theorem decimal_isDigit {number : Nat} {char : Char} (member : char ∈ decimal number) : char.isDigit = true :=
  Nat.isDigit_of_mem_toDigits (by decide) (by decide) member

theorem not_mem_decimal {char : Char} (other : char.isDigit = false) (number : Nat) : char ∉ decimal number := by
  intro member
  simp [decimal_isDigit member] at other

theorem parseDecimal_decimal (number : Nat) : parseDecimal (decimal number) = some number := by
  have unsigned : (decimal number).head? ≠ some '+' := by
    intro signed
    exact not_mem_decimal rfl number (List.mem_of_head? signed)
  have digits : (decimal number).all Char.isDigit = true := by
    rw [List.all_eq_true]
    exact fun char member => decimal_isDigit member
  have present : decimal number ≠ [] := Nat.toDigits_ne_nil
  have value : Nat.ofDigitChars 10 (decimal number) 0 = number := Nat.ofDigitChars_ten_toDigits
  simp only [parseDecimal, unsigned, digits, present, value, if_false, ne_eq, not_false_eq_true, decide_true,
    Bool.and_true, if_true]

theorem decimal_inj {first second : Nat} : decimal first = decimal second ↔ first = second := by
  constructor
  · intro same
    have parsed := congrArg parseDecimal same
    simpa [parseDecimal_decimal] using parsed
  · intro same
    subst same
    rfl

def dropRepeats : List α → List α
  | first :: second :: rest =>
    if first = second then dropRepeats (second :: rest) else first :: dropRepeats (second :: rest)
  | items => items

theorem mem_dropRepeats {item : α} {items : List α} : item ∈ dropRepeats items ↔ item ∈ items := by
  induction items using dropRepeats.induct with
  | case1 first rest ih =>
    rw [dropRepeats, if_pos rfl, ih]
    simp
  | case2 first second rest different ih =>
    rw [dropRepeats, if_neg different, List.mem_cons, ih, ← List.mem_cons]
  | case3 items short => rw [dropRepeats.eq_2 items short]

theorem dropRepeats_strict [PartialOrder α] {items : List α} (sorted : items.Pairwise (· ≤ ·)) :
    (dropRepeats items).Pairwise (· < ·) := by
  induction items using dropRepeats.induct with
  | case1 first rest ih =>
    rw [dropRepeats, if_pos rfl]
    exact ih (List.pairwise_cons.mp sorted).2
  | case2 first second rest different ih =>
    obtain ⟨below, rest'⟩ := List.pairwise_cons.mp sorted
    rw [dropRepeats, if_neg different]
    refine List.pairwise_cons.mpr ⟨?_, ih rest'⟩
    intro item member
    have next : first < second := lt_of_le_of_ne (below second List.mem_cons_self) different
    rcases List.mem_cons.mp (mem_dropRepeats.mp member) with rfl | later
    · exact next
    · exact lt_of_lt_of_le next ((List.pairwise_cons.mp rest').1 item later)
  | case3 items short =>
    match items with
    | [] => exact .nil
    | [item] => exact List.pairwise_singleton _ _
    | first :: second :: rest => exact absurd rfl (short first second rest)

theorem fromUTF8_toByteArray (text : String) : String.fromUTF8? ⟨text.toByteArray.data⟩ = some text := by
  unfold String.fromUTF8?
  rw [dif_pos text.isValidUTF8]
  rfl

theorem fromUTF8_encoded (text : Str) :
    String.fromUTF8? ⟨(text.flatMap String.utf8EncodeChar).toArray⟩ = some (String.ofList text) := by
  rw [← fromUTF8_toByteArray, String.toByteArray_ofList, List.utf8Encode, List.data_toByteArray]

end Text
