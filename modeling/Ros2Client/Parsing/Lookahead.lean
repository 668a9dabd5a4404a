import Ros2Client.Parsing.Locality

namespace Parsing

variable {σ α β γ : Type}

namespace Parser

def SelfDelimiting (parser : Parser σ α) : Prop :=
  ∀ (text rest : List σ) (value : α), parser (text ++ rest) = .done rest value →
    ∀ other, parser (text ++ other) = .done other value

/-- What the parser has read depends on one item behind it at most. -/
def OneAhead (parser : Parser σ α) : Prop :=
  ∀ (text rest : List σ) (item : σ) (value : α), parser (text ++ item :: rest) = .done (item :: rest) value →
    ∀ other, parser (text ++ item :: other) = .done (item :: other) value

def Consuming (parser : Parser σ α) : Prop :=
  ∀ (input rest : List σ) (value : α), parser input = .done rest value → rest <:+ input ∧ rest ≠ input

variable {first : Parser σ α} {second : Parser σ β}

theorem SelfDelimiting.mapOpt {convert : α → Option β} (front : first.SelfDelimiting) :
    (first.mapOpt convert).SelfDelimiting := by
  intro text rest result read other
  obtain ⟨middle, value, read', further⟩ := Outcome.bind_eq_done.mp read
  cases converted : convert value with
  | none =>
    rw [converted] at further
    cases further
  | some result' =>
    rw [converted] at further
    cases further
    change (first (text ++ other)).bind _ = _
    rw [front _ _ _ read' other]
    simp only [Outcome.bind, converted]

/-- What a parser leaves in front of the rest is the end of what stood there. -/
theorem Local.front {stop : σ → Bool} {text taken rest : List σ} {value : α} (shrinks : first.Local stop)
    (read : first (text ++ rest) = .done (taken ++ rest) value) : ∃ before, text = before ++ taken := by
  obtain ⟨before, whole⟩ := shrinks.suffix read
  rw [← List.append_assoc] at whole
  exact ⟨before, (List.append_cancel_right whole).symm⟩

/-- What is read first ends at an item that is read next. -/
theorem OneAhead.bind {next : α → Parser σ β} (front : first.OneAhead) (shrinks : first.Local fun _ => false)
    (back : ∀ value, (next value).SelfDelimiting) (consumes : ∀ value, (next value).Consuming) :
    (first >>= next).SelfDelimiting := by
  intro text rest result read other
  obtain ⟨middle, value, read', further⟩ := bind_eq_done.mp read
  obtain ⟨inside, more⟩ := consumes value _ _ _ further
  obtain ⟨taken, rfl⟩ := inside
  obtain ⟨before, rfl⟩ := shrinks.front read'
  cases taken with
  | nil => exact absurd rfl more
  | cons item taken =>
    rw [List.append_assoc, List.cons_append] at read' ⊢
    rw [bind_of_done (front _ _ _ _ read' (taken ++ other))]
    exact back value _ _ _ further other

theorem SelfDelimiting.bind {next : α → Parser σ β} (front : first.SelfDelimiting)
    (shrinks : first.Local fun _ => false)
    (back : ∀ value, (next value).SelfDelimiting) (suffixes : ∀ value, (next value).Local fun _ => false) :
    (first >>= next).SelfDelimiting := by
  intro text rest result read other
  obtain ⟨middle, value, read', further⟩ := bind_eq_done.mp read
  obtain ⟨taken, rfl⟩ := (suffixes value).suffix further
  obtain ⟨before, rfl⟩ := shrinks.front read'
  rw [List.append_assoc] at read' ⊢
  rw [bind_of_done (front _ _ _ read' (taken ++ other))]
  exact back value _ _ _ further other

theorem SelfDelimiting.pure (value : α) : (Pure.pure value : Parser σ α).SelfDelimiting := by
  intro text rest result read other
  injection read with rests same
  have none : text = [] := List.append_left_eq_self.mp rests
  rw [none, ← same]
  rfl

theorem OneAhead.map (convert : α → β) (front : first.OneAhead) : (first.map convert).OneAhead := by
  intro text rest item result read other
  obtain ⟨value, read', rfl⟩ := map_eq_done.mp read
  exact map_of_done convert (front _ _ _ _ read' other)

theorem OneAhead.verify {accepts : α → Bool} (front : first.OneAhead) : (first.verify accepts).OneAhead := by
  intro text rest item result read other
  obtain ⟨middle, value, read', further⟩ := Outcome.bind_eq_done.mp read
  split at further
  · rename_i accepted
    cases further
    change (first (text ++ item :: other)).bind _ = _
    rw [front _ _ _ _ read' other]
    simp only [Outcome.bind, if_pos accepted]
  · cases further

end Parser

section Streams

variable {kind : Char → Bool} {text rest : List Char}

theorem streamingChar_eq_done {expected letter : Char} {input : List Char}
    (read : Streaming.char expected input = .done rest letter) : input = expected :: rest ∧ letter = expected := by
  cases input with
  | nil => cases read
  | cons item input =>
    rw [Streaming.char] at read
    split at read
    · rename_i same
      cases read
      exact ⟨by rw [same], same⟩
    · cases read

theorem streamingChar_cons (expected : Char) (rest : List Char) :
    Streaming.char expected (expected :: rest) = .done rest expected := by
  rw [Streaming.char, if_pos rfl]

theorem streamingChar_selfDelimiting (expected : Char) : (Streaming.char expected).SelfDelimiting := by
  intro text rest letter read other
  obtain ⟨whole, rfl⟩ := streamingChar_eq_done read
  have single : text = [letter] := List.append_cancel_right (whole.trans List.singleton_append.symm)
  rw [single]
  exact streamingChar_cons letter other

theorem streamingChar_value_eq_done {α : Type} {expected : Char} {result value : α} {input : List Char}
    (read : ((Streaming.char expected).value result) input = .done rest value) :
    input = expected :: rest ∧ value = result := by
  obtain ⟨middle, _, found, same⟩ := Parser.bind_eq_done.mp read
  cases same
  exact ⟨(streamingChar_eq_done found).1, rfl⟩

theorem streamingChar_value_selfDelimiting {α : Type} (expected : Char) (result : α) :
    ((Streaming.char expected).value result).SelfDelimiting :=
  (streamingChar_selfDelimiting expected).bind (.streamingChar expected) (fun _ => .pure result) fun _ => .pure result

theorem streamingChar_value_consuming {α : Type} (expected : Char) (result : α) :
    ((Streaming.char expected).value result).Consuming := by
  intro input rest value read
  obtain ⟨rfl, -⟩ := streamingChar_value_eq_done read
  exact ⟨List.suffix_cons _ _, fun same => List.cons_ne_self _ _ same.symm⟩

theorem streamingTakeWhile1_eq_done {input : List Char} (read : Streaming.takeWhile1 kind input = .done rest text) :
    input = text ++ rest ∧ text ≠ [] ∧ (∀ item ∈ text, kind item = true) ∧
      ∃ item more, rest = item :: more ∧ kind item = false := by
  rw [Streaming.takeWhile1] at read
  split at read
  · cases read
  · rename_i present
    split at read
    · cases read
    · rename_i some
      cases read
      refine ⟨List.takeWhile_append_dropWhile.symm, by simpa using some, fun item => List.mem_takeWhile_imp, ?_⟩
      cases dropped : input.dropWhile kind with
      | nil =>
        rw [dropped] at present
        exact absurd rfl present
      | cons item more =>
        have refused := List.head?_dropWhile_not kind input
        rw [dropped] at refused
        exact ⟨item, more, rfl, by simpa using refused⟩

theorem streamingTakeWhile1_append {item : Char} (present : text ≠ []) (all : ∀ letter ∈ text, kind letter = true)
    (ends : kind item = false) (rest : List Char) :
    Streaming.takeWhile1 kind (text ++ item :: rest) = .done (item :: rest) text := by
  obtain ⟨taken, dropped⟩ := takeWhile_append_of_stops all (.cons ends rest)
  rw [Streaming.takeWhile1, taken, dropped, if_neg (by simp), if_neg (by simpa using present)]

theorem streamingTakeWhile1_oneAhead (kind : Char → Bool) : (Streaming.takeWhile1 kind).OneAhead := by
  intro text rest item value read other
  obtain ⟨whole, present, all, letter, more, split, ends⟩ := streamingTakeWhile1_eq_done read
  cases split
  rw [List.append_cancel_right whole]
  exact streamingTakeWhile1_append present all ends other

theorem streamingTakeWhile1_refused {item : Char} (ends : kind item = false) (rest : List Char) :
    Streaming.takeWhile1 kind (item :: rest) = .error := by
  simp [Streaming.takeWhile1, ends]

/-- How far a bounded stretch goes is told by the item behind it, or by the bound. -/
theorem take_takeWhile_append {most : Nat} {item : Char} :
    ((text ++ item :: rest).take most).takeWhile kind = text ↔
      text.length ≤ most ∧ (∀ letter ∈ text, kind letter = true) ∧ (text.length < most → kind item = false) := by
  constructor
  · intro taken
    have all : ∀ letter ∈ text, kind letter = true := by
      intro letter member
      rw [← taken] at member
      exact List.mem_takeWhile_imp member
    have bound : text.length ≤ most := by
      have length := (List.takeWhile_sublist (l := (text ++ item :: rest).take most) kind).length_le
      rw [taken, List.length_take] at length
      omega
    refine ⟨bound, all, ?_⟩
    intro short
    rw [List.take_append, List.take_of_length_le bound, List.takeWhile_append_of_pos all] at taken
    have none := List.append_right_eq_self.mp taken
    obtain ⟨left, some⟩ : ∃ left, most - text.length = left + 1 := ⟨most - text.length - 1, by omega⟩
    rw [some, List.take_succ_cons] at none
    cases inside : kind item with
    | false => rfl
    | true =>
      rw [List.takeWhile_cons_of_pos inside] at none
      cases none
  · intro ⟨bound, all, ends⟩
    rw [List.take_append, List.take_of_length_le bound, List.takeWhile_append_of_pos all]
    cases left : most - text.length with
    | zero => simp
    | succ left =>
      rw [List.take_succ_cons, List.takeWhile_cons_of_neg (by simp [ends (by omega)]), List.append_nil]

theorem streamingTakeWhileMN_eq_done {least most : Nat} {input : List Char}
    (read : Streaming.takeWhileMN least most kind input = .done rest text) :
    input = text ++ rest ∧ least ≤ text.length ∧ text.length ≤ most ∧ ∀ item ∈ text, kind item = true := by
  rw [Streaming.takeWhileMN] at read
  split at read
  · cases read
  · split at read
    · cases read
    · rename_i enough
      injection read with rests same
      have begins : text <+: input := by
        rw [← same]
        exact (List.takeWhile_prefix _).trans (List.take_prefix _ _)
      have bound : text.length ≤ most := by
        rw [← same]
        exact (List.takeWhile_prefix _).length_le.trans (List.length_take_le _ _)
      rw [same] at rests enough
      rw [← rests]
      refine ⟨List.prefix_iff_eq_append.mp begins |>.symm, Nat.le_of_not_lt enough, bound, ?_⟩
      intro item member
      rw [← same] at member
      exact List.mem_takeWhile_imp member

theorem streamingTakeWhileMN_append {least most : Nat} {item : Char} (enough : least ≤ text.length)
    (bound : text.length ≤ most) (all : ∀ letter ∈ text, kind letter = true) (ends : kind item = false)
    (rest : List Char) : Streaming.takeWhileMN least most kind (text ++ item :: rest) = .done (item :: rest) text := by
  have taken : ((text ++ item :: rest).take most).takeWhile kind = text :=
    take_takeWhile_append.mpr ⟨bound, all, fun _ => ends⟩
  rw [Streaming.takeWhileMN, taken, List.drop_left, if_neg (by simp), if_neg (Nat.not_lt.mpr enough)]

theorem streamingTakeWhileMN_oneAhead (least most : Nat) : (Streaming.takeWhileMN least most kind).OneAhead := by
  intro text rest item value read other
  rw [Streaming.takeWhileMN] at read
  split at read
  · cases read
  · split at read
    · cases read
    · rename_i enough
      injection read with rests same
      have begins : value <+: text ++ item :: rest := by
        rw [← same]
        exact (List.takeWhile_prefix _).trans (List.take_prefix _ _)
      have length : value.length = text.length := by
        have lengths := congrArg List.length rests
        have bound := begins.length_le
        rw [same, List.length_drop] at lengths
        simp only [List.length_append, List.length_cons] at lengths bound
        omega
      have equal : value = text :=
        (List.prefix_of_prefix_length_le begins (List.prefix_append _ _) (by omega)).eq_of_length length
      subst equal
      have taken : ((value ++ item :: other).take most).takeWhile kind = value :=
        take_takeWhile_append.mpr (take_takeWhile_append.mp same)
      rw [Streaming.takeWhileMN, taken, List.drop_left, if_neg (by simp)]
      rw [same] at enough
      rw [if_neg enough]

end Streams

end Parsing
