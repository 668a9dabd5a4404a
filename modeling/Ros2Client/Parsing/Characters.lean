import Ros2Client.Parsing.Combinators
import Mathlib.Data.List.TakeWhile

namespace Parsing

variable {σ : Type}

def Stops (kind : σ → Bool) (input : List σ) : Prop := ∀ item ∈ input.head?, kind item = false

def satisfy (kind : σ → Bool) : Parser σ σ
  | [] => .error
  | item :: rest => if kind item then .done rest item else .error

def takeWhile0 (kind : σ → Bool) : Parser σ (List σ) := fun input => .done (input.dropWhile kind) (input.takeWhile kind)

def takeWhile1 (kind : σ → Bool) : Parser σ (List σ) := fun input =>
  if (input.takeWhile kind).isEmpty then .error else .done (input.dropWhile kind) (input.takeWhile kind)

def tag [DecidableEq σ] (text : List σ) : Parser σ (List σ) := fun input =>
  if text.isPrefixOf input then .done (input.drop text.length) text else .error

def char (expected : Char) : Parser Char Char := satisfy (· = expected)

def oneOf (set : List Char) : Parser Char Char := satisfy (set.contains ·)

def digit1 : Parser Char (List Char) := takeWhile1 Char.isDigit

def alphanumeric1 : Parser Char (List Char) := takeWhile1 Char.isAlphanum

def isSpace (item : Char) : Bool := item = ' ' || item = '\t'

def space0 : Parser Char (List Char) := takeWhile0 isSpace

def lineEnding : Parser Char (List Char)
  | '\n' :: rest => .done rest ['\n']
  | '\r' :: '\n' :: rest => .done rest ['\r', '\n']
  | _ => .error

def isBreak (item : Char) : Bool := item = '\r' || item = '\n'

/-- A carriage return has to begin a line ending. -/
def notLineEnding : Parser Char (List Char) := fun input =>
  match input.dropWhile (!isBreak ·) with
  | '\r' :: '\n' :: rest => .done ('\r' :: '\n' :: rest) (input.takeWhile (!isBreak ·))
  | '\r' :: _ => .error
  | rest => .done rest (input.takeWhile (!isBreak ·))

namespace Streaming

def char (expected : Char) : Parser Char Char
  | [] => .incomplete
  | item :: rest => if item = expected then .done rest item else .error

/-- At least one item of the kind; the end of the input does not tell whether more of them follow. -/
def takeWhile1 (kind : Char → Bool) : Parser Char (List Char) := fun input =>
  if (input.dropWhile kind).isEmpty then .incomplete
  else if (input.takeWhile kind).isEmpty then .error
  else .done (input.dropWhile kind) (input.takeWhile kind)

def isNot (set : List Char) : Parser Char (List Char) := takeWhile1 (!set.contains ·)

def multispace1 : Parser Char (List Char) := takeWhile1 fun item => isSpace item || isBreak item

def takeWhileMN (least most : Nat) (kind : Char → Bool) : Parser Char (List Char) := fun input =>
  let taken := (input.take most).takeWhile kind
  if taken.length = input.length then .incomplete
  else if taken.length < least then .error
  else .done (input.drop taken.length) taken

end Streaming

section Complete

variable {kind : σ → Bool} {item : σ} {text input rest : List σ}

theorem Stops.cons (other : kind item = false) (rest : List σ) : Stops kind (item :: rest) := by
  intro first head
  cases head
  exact other

theorem satisfy_of_true (accepted : kind item = true) : satisfy kind (item :: rest) = .done rest item := by
  rw [satisfy, if_pos accepted]

theorem satisfy_eq_done (read : satisfy kind input = .done rest item) : input = item :: rest ∧ kind item = true := by
  cases input with
  | nil => cases read
  | cons first input =>
    rw [satisfy] at read
    split at read
    · rename_i accepted
      cases read
      exact ⟨rfl, accepted⟩
    · cases read

theorem satisfy_of_stops (stops : Stops kind input) : satisfy kind input = .error := by
  cases input with
  | nil => rfl
  | cons item rest =>
    have refused : kind item = false := stops item rfl
    simp [satisfy, refused]

theorem takeWhile_append_of_stops (all : ∀ item ∈ text, kind item = true) (stops : Stops kind rest) :
    (text ++ rest).takeWhile kind = text ∧ (text ++ rest).dropWhile kind = rest := by
  induction text with
  | nil =>
    cases rest with
    | nil => exact ⟨rfl, rfl⟩
    | cons item rest =>
      have refused : kind item = false := stops item rfl
      simp [refused]
  | cons item text ih =>
    have accepted : kind item = true := all item (by simp)
    obtain ⟨taken, dropped⟩ := ih fun other member => all other (by simp [member])
    simp [accepted, taken, dropped]

theorem stops_dropWhile (kind : σ → Bool) (input : List σ) : Stops kind (input.dropWhile kind) := by
  intro item head
  have refused := List.head?_dropWhile_not kind input
  rw [Option.mem_def.mp head] at refused
  simpa using refused

theorem dropWhile_dropWhile {wider : σ → Bool} (wide : ∀ item, kind item = true → wider item = true) (input : List σ) :
    (input.dropWhile kind).dropWhile wider = input.dropWhile wider := by
  induction input with
  | nil => rfl
  | cons item input ih =>
    by_cases inside : kind item = true
    · rw [List.dropWhile_cons_of_pos inside, List.dropWhile_cons_of_pos (wide item inside), ih]
    · rw [List.dropWhile_cons_of_neg inside]

theorem takeWhile0_append (all : ∀ item ∈ text, kind item = true) (stops : Stops kind rest) :
    takeWhile0 kind (text ++ rest) = .done rest text := by
  obtain ⟨taken, dropped⟩ := takeWhile_append_of_stops all stops
  rw [takeWhile0, taken, dropped]

theorem takeWhile_of_stops (stops : Stops kind rest) : rest.takeWhile kind = [] ∧ rest.dropWhile kind = rest := by
  have none : ∀ item ∈ ([] : List σ), kind item = true := by simp
  simpa only [List.nil_append] using takeWhile_append_of_stops none stops

theorem takeWhile0_of_stops (stops : Stops kind rest) : takeWhile0 kind rest = .done rest [] := by
  obtain ⟨taken, dropped⟩ := takeWhile_of_stops stops
  rw [takeWhile0, taken, dropped]

theorem takeWhile1_append (present : text ≠ []) (all : ∀ item ∈ text, kind item = true) (stops : Stops kind rest) :
    takeWhile1 kind (text ++ rest) = .done rest text := by
  obtain ⟨taken, dropped⟩ := takeWhile_append_of_stops all stops
  rw [takeWhile1, taken, dropped, if_neg (by simpa using present)]

theorem takeWhile1_of_stops (stops : Stops kind rest) : takeWhile1 kind rest = .error := by
  rw [takeWhile1, (takeWhile_of_stops stops).1]
  rfl

theorem tag_append [DecidableEq σ] (text rest : List σ) : tag text (text ++ rest) = .done rest text := by
  rw [tag, if_pos (by simp), List.drop_left]

theorem tag_refused [DecidableEq σ] (different : ¬text <+: input) : tag text input = .error := by
  rw [tag, if_neg (by simpa using different)]

theorem tag_of_head [DecidableEq σ] {first : σ} (different : first ≠ item) :
    tag (first :: text) (item :: rest) = .error := by
  apply tag_refused
  intro found
  exact different (List.cons_prefix_cons.mp found).1

theorem tag_of_stops [DecidableEq σ] {first : σ} (stops : Stops (· = first) input) :
    tag (first :: text) input = .error := by
  apply tag_refused
  rintro ⟨rest, rfl⟩
  exact absurd (stops first rfl) (by simp)

theorem tag_eq_done [DecidableEq σ] {result : List σ} (read : tag text input = .done rest result) :
    result = text ∧ input = text ++ rest := by
  rw [tag] at read
  split at read
  · rename_i found
    cases read
    exact ⟨rfl, (List.prefix_iff_eq_append.mp (List.isPrefixOf_iff_prefix.mp found)).symm⟩
  · cases read

/-- A text without the item that ends another one is no longer than that one. -/
theorem prefix_of_prefix_append {other : List σ} (found : other <+: text ++ item :: rest) (absent : item ∉ other) :
    other <+: text := by
  induction text generalizing other with
  | nil =>
    cases other with
    | nil => exact List.nil_prefix
    | cons first other =>
      have same : first = item := (List.cons_prefix_cons.mp found).1
      exact absurd (by simp [same]) absent
  | cons first text ih =>
    cases other with
    | nil => exact List.nil_prefix
    | cons first' other =>
      obtain ⟨same, found'⟩ := List.cons_prefix_cons.mp found
      rw [List.mem_cons, not_or] at absent
      exact List.cons_prefix_cons.mpr ⟨same, ih found' absent.2⟩

theorem alt_tags_refused [DecidableEq σ] {words : List (List σ)} (none : ∀ word ∈ words, ¬word <+: input) :
    Parser.alt (words.map tag) input = .error := by
  induction words with
  | nil => rfl
  | cons word words ih =>
    rw [List.map_cons, Parser.alt_of_error (tag_refused (none word (by simp)))]
    exact ih fun other inside => none other (by simp [inside])

theorem alt_tags_of_begins [DecidableEq σ] {words : List (List σ)} (member : text ∈ words) (found : text <+: input) :
    ∃ rest word, Parser.alt (words.map tag) input = .done rest word := by
  induction words with
  | nil => cases member
  | cons word words ih =>
    by_cases first : word <+: input
    · obtain ⟨rest, rfl⟩ := first
      exact ⟨rest, word, Parser.alt_of_done (tag_append word rest)⟩
    · have later : text ∈ words := by
        rcases List.mem_cons.mp member with same | inside
        · exact absurd (same ▸ found) first
        · exact inside
      rw [List.map_cons, Parser.alt_of_error (tag_refused first)]
      exact ih later

theorem alt_tags_eq_done [DecidableEq σ] {words : List (List σ)} {word : List σ}
    (read : Parser.alt (words.map tag) input = .done rest word) : word ∈ words ∧ input = word ++ rest := by
  induction words with
  | nil => cases read
  | cons first words ih =>
    rcases Parser.alt_eq_done.mp read with found | ⟨-, others⟩
    · obtain ⟨rfl, whole⟩ := tag_eq_done found
      exact ⟨by simp, whole⟩
    · obtain ⟨member, whole⟩ := ih others
      exact ⟨by simp [member], whole⟩

/-- Of words none of which begins another one, the one that stands there is read. -/
theorem alt_tags_append [DecidableEq σ] {words : List (List σ)} (member : text ∈ words)
    (separate : ∀ word ∈ words, ∀ other ∈ words, word <+: other → word = other) (rest : List σ) :
    Parser.alt (words.map tag) (text ++ rest) = .done rest text := by
  obtain ⟨rest', word, read⟩ := alt_tags_of_begins member (List.prefix_append text rest)
  obtain ⟨inside, whole⟩ := alt_tags_eq_done read
  have same : word = text := by
    rcases List.prefix_or_prefix_of_prefix ⟨rest', whole.symm⟩ (List.prefix_append text rest) with shorter | longer
    · exact separate word inside text member shorter
    · exact (separate text member word inside longer).symm
  subst same
  rwa [← List.append_cancel_left whole] at read

/-- A parser that takes stretches of a kind of item takes all of them. -/
theorem many0_of_stretches {α : Type} {parser : Parser σ α}
    (refuses : ∀ input, Stops kind input → parser input = .error)
    (shortens : ∀ item input, kind item = true → ∃ rest value, parser (item :: input) = .done rest value ∧
      rest.length < (item :: input).length ∧ rest.dropWhile kind = (item :: input).dropWhile kind)
    (input : List σ) : ∃ values, parser.many0 input = .done (input.dropWhile kind) values := by
  induction length : input.length using Nat.strongRecOn generalizing input with
  | ind count ih =>
    cases input with
    | nil => exact ⟨[], Parser.many0_of_error (refuses [] (by simp [Stops]))⟩
    | cons item input =>
      by_cases inside : kind item = true
      · obtain ⟨rest, value, read, shorter, same⟩ := shortens item input inside
        obtain ⟨values, further⟩ := ih rest.length (by omega) rest rfl
        exact ⟨value :: values, Parser.many0_of_done read shorter (same ▸ further)⟩
      · have stops : Stops kind (item :: input) := .cons (by simpa using inside) input
        rw [List.dropWhile_cons_of_neg inside]
        exact ⟨[], Parser.many0_of_error (refuses _ stops)⟩

end Complete

section Lines

variable {text rest : List Char}

/-- The text before a line ending has no part of one. -/
theorem notLineEnding_eq_done {input : List Char} (read : notLineEnding input = .done rest text) :
    input = text ++ rest ∧ ∀ item ∈ text, isBreak item = false := by
  have parts : rest = input.dropWhile (!isBreak ·) ∧ text = input.takeWhile (!isBreak ·) := by
    unfold notLineEnding at read
    split at read
    case h_1 found =>
      cases read
      exact ⟨found.symm, rfl⟩
    case h_2 found => cases read
    case h_3 found =>
      cases read
      exact ⟨rfl, rfl⟩
  obtain ⟨rfl, rfl⟩ := parts
  refine ⟨List.takeWhile_append_dropWhile.symm, ?_⟩
  intro item member
  simpa using List.mem_takeWhile_imp member

end Lines

end Parsing
