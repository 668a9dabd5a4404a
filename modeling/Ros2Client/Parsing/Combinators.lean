import Mathlib.Data.List.Infix

namespace Parsing

variable {σ α β γ : Type}

/-- What a parser makes of its input: a value and the input behind it, an error that lets an alternative
be tried, the wish for more input, or a panic. -/
inductive Outcome (σ α : Type)
  | done (rest : List σ) (value : α)
  | error
  | incomplete
  | panicked
deriving DecidableEq

def Parser (σ α : Type) := List σ → Outcome σ α

namespace Outcome

def bind (outcome : Outcome σ α) (next : List σ → α → Outcome σ β) : Outcome σ β :=
  match outcome with
  | .done rest value => next rest value
  | .error => .error
  | .incomplete => .incomplete
  | .panicked => .panicked

theorem bind_eq_done {outcome : Outcome σ α} {next : List σ → α → Outcome σ β} {rest : List σ} {result : β} :
    outcome.bind next = .done rest result ↔ ∃ middle value, outcome = .done middle value ∧
      next middle value = .done rest result := by
  cases outcome <;> simp [bind]

theorem bind_eq_incomplete {outcome : Outcome σ α} {next : List σ → α → Outcome σ β} :
    outcome.bind next = .incomplete ↔ outcome = .incomplete ∨ ∃ middle value, outcome = .done middle value ∧
      next middle value = .incomplete := by
  cases outcome <;> simp [bind]

theorem bind_eq_panicked {outcome : Outcome σ α} {next : List σ → α → Outcome σ β} :
    outcome.bind next = .panicked ↔ outcome = .panicked ∨ ∃ middle value, outcome = .done middle value ∧
      next middle value = .panicked := by
  cases outcome <;> simp [bind]

theorem bind_assoc (outcome : Outcome σ α) (next : List σ → α → Outcome σ β) (last : List σ → β → Outcome σ γ) :
    (outcome.bind next).bind last = outcome.bind fun rest value => (next rest value).bind last := by
  cases outcome <;> rfl

end Outcome

namespace Parser

instance : Monad (Parser σ) where
  pure value := fun input => .done input value
  bind first next := fun input => (first input).bind fun rest value => next value rest

/-- A parser followed by a conversion that panics where it has no result. -/
def expect (convert : α → Option β) (parser : Parser σ α) : Parser σ β := fun input =>
  (parser input).bind fun rest value =>
    match convert value with
    | some result => .done rest result
    | none => .panicked

def map (convert : α → β) (parser : Parser σ α) : Parser σ β := do
  let result ← parser
  return convert result

def value (result : β) (parser : Parser σ α) : Parser σ β := do
  let _ ← parser
  return result

def pair (first : Parser σ α) (second : Parser σ β) : Parser σ (α × β) := do
  let left ← first
  let right ← second
  return (left, right)

def preceded (first : Parser σ α) (second : Parser σ β) : Parser σ β := do
  let _ ← first
  second

def terminated (first : Parser σ α) (second : Parser σ β) : Parser σ α := do
  let result ← first
  let _ ← second
  return result

def delimited (first : Parser σ α) (second : Parser σ β) (third : Parser σ γ) : Parser σ β := do
  let _ ← first
  let result ← second
  let _ ← third
  return result

/-- The second alternative is tried only where the first one ends in an error. -/
def orElse (first second : Parser σ α) : Parser σ α := fun input =>
  match first input with
  | .error => second input
  | outcome => outcome

def alt : List (Parser σ α) → Parser σ α
  | [] => fun _ => .error
  | first :: rest => first.orElse (alt rest)

def opt (parser : Parser σ α) : Parser σ (Option α) := fun input =>
  match parser input with
  | .done rest value => .done rest (some value)
  | .error => .done input none
  | .incomplete => .incomplete
  | .panicked => .panicked

def recognize (parser : Parser σ α) : Parser σ (List σ) := fun input =>
  (parser input).bind fun rest _ => .done rest (input.take (input.length - rest.length))

def verify (accepts : α → Bool) (parser : Parser σ α) : Parser σ α := fun input =>
  (parser input).bind fun rest value => if accepts value then .done rest value else .error

def mapOpt (convert : α → Option β) (parser : Parser σ α) : Parser σ β := fun input =>
  (parser input).bind fun rest value =>
    match convert value with
    | some result => .done rest result
    | none => .error

/-- A round that consumes nothing is an error, so every round shortens the input. -/
def rounds (parser : Parser σ α) : Nat → Parser σ (List α)
  | 0, _ => .error
  | fuel + 1, input =>
    match parser input with
    | .done rest value =>
      if rest.length < input.length then
        (rounds parser fuel rest).bind fun rest values => .done rest (value :: values)
      else .error
    | .error => .done input []
    | .incomplete => .incomplete
    | .panicked => .panicked

def many0 (parser : Parser σ α) : Parser σ (List α) := fun input => rounds parser (input.length + 1) input

def many1 (parser : Parser σ α) : Parser σ (List α) := do
  let first ← parser
  let rest ← many0 parser
  return first :: rest

def foldMany0 (parser : Parser σ α) (init : β) (step : β → α → β) : Parser σ β := do
  let values ← many0 parser
  return values.foldl step init

section Sequences

variable {first : Parser σ α} {second : Parser σ β} {input middle rest : List σ} {left : α} {right : β}

theorem bind_of_done {next : α → Parser σ β} (read : first input = .done middle left) :
    (first >>= next) input = next left middle := by
  change (first input).bind _ = _
  rw [read]
  rfl

theorem bind_of_error {next : α → Parser σ β} (refused : first input = .error) : (first >>= next) input = .error := by
  change (first input).bind _ = _
  rw [refused]
  rfl

theorem bind_eq_done {next : α → Parser σ β} : (first >>= next) input = .done rest right ↔
    ∃ middle left, first input = .done middle left ∧ next left middle = .done rest right :=
  Outcome.bind_eq_done

theorem bind_eq_panicked {next : α → Parser σ β} : (first >>= next) input = .panicked ↔
    first input = .panicked ∨ ∃ middle left, first input = .done middle left ∧ next left middle = .panicked :=
  Outcome.bind_eq_panicked

theorem map_of_done (convert : α → β) (read : first input = .done rest left) :
    first.map convert input = .done rest (convert left) :=
  bind_of_done read

theorem map_of_error (convert : α → β) (refused : first input = .error) : first.map convert input = .error :=
  bind_of_error refused

theorem map_eq_done {convert : α → β} :
    first.map convert input = .done rest right ↔ ∃ left, first input = .done rest left ∧ convert left = right := by
  rw [map, bind_eq_done]
  constructor
  · intro ⟨middle, left, read, result⟩
    cases result
    exact ⟨left, read, rfl⟩
  · rintro ⟨left, read, rfl⟩
    exact ⟨rest, left, read, rfl⟩

theorem map_eq_error {convert : α → β} : first.map convert input = .error ↔ first input = .error := by
  change (first input).bind _ = _ ↔ _
  cases first input with
  | done rest left => exact ⟨nofun, nofun⟩
  | _ => simp [Outcome.bind]

theorem map_eq_panicked {convert : α → β} : first.map convert input = .panicked ↔ first input = .panicked := by
  change (first input).bind _ = _ ↔ _
  cases first input with
  | done rest left => exact ⟨nofun, nofun⟩
  | _ => simp [Outcome.bind]

theorem mapOpt_eq_done {convert : α → Option β} : first.mapOpt convert input = .done rest right ↔
    ∃ left, first input = .done rest left ∧ convert left = some right := by
  rw [mapOpt, Outcome.bind_eq_done]
  constructor
  · intro read
    obtain ⟨middle, left, read, converted⟩ := read
    cases found : convert left with
    | none =>
      rw [found] at converted
      cases converted
    | some result =>
      rw [found] at converted
      cases converted
      exact ⟨left, read, found⟩
  · intro read
    obtain ⟨left, read, found⟩ := read
    exact ⟨rest, left, read, by rw [found]⟩

theorem value_of_done (result : β) (read : first input = .done rest left) :
    first.value result input = .done rest result :=
  bind_of_done read

theorem value_of_error (result : β) (refused : first input = .error) : first.value result input = .error :=
  bind_of_error refused

theorem pair_of_done (read : first input = .done middle left) (read' : second middle = .done rest right) :
    first.pair second input = .done rest (left, right) := by
  rw [pair, bind_of_done read, bind_of_done read']
  rfl

theorem preceded_of_done (read : first input = .done middle left) (read' : second middle = .done rest right) :
    first.preceded second input = .done rest right := by
  rw [preceded, bind_of_done read, read']

theorem terminated_of_done (read : first input = .done middle left) (read' : second middle = .done rest right) :
    first.terminated second input = .done rest left := by
  rw [terminated, bind_of_done read, bind_of_done read']
  rfl

theorem delimited_of_done {third : Parser σ γ} {last : List σ} {final : γ} (read : first input = .done middle left)
    (read' : second middle = .done rest right) (read'' : third rest = .done last final) :
    first.delimited second third input = .done last right := by
  rw [delimited, bind_of_done read, bind_of_done read', bind_of_done read'']
  rfl

theorem pair_eq_done : first.pair second input = .done rest (left, right) ↔
    ∃ middle, first input = .done middle left ∧ second middle = .done rest right := by
  rw [pair, bind_eq_done]
  constructor
  · intro ⟨middle, left', read, more⟩
    obtain ⟨last, right', read', joined⟩ := bind_eq_done.mp more
    cases joined
    exact ⟨middle, read, read'⟩
  · intro ⟨middle, read, read'⟩
    exact ⟨middle, left, read, bind_of_done read'⟩

theorem pair_eq_panicked : first.pair second input = .panicked ↔
    first input = .panicked ∨ ∃ middle left, first input = .done middle left ∧ second middle = .panicked := by
  rw [pair, bind_eq_panicked]
  refine or_congr_right (exists_congr fun middle => exists_congr fun left => and_congr_right fun _ => ?_)
  rw [bind_eq_panicked]
  exact ⟨fun failed => failed.resolve_right nofun, .inl⟩

theorem terminated_eq_done (read : first.terminated second input = .done rest left) :
    ∃ middle, first input = .done middle left := by
  obtain ⟨middle, left', read', more⟩ := bind_eq_done.mp read
  obtain ⟨last, right, -, joined⟩ := bind_eq_done.mp more
  cases joined
  exact ⟨middle, read'⟩

theorem delimited_eq_done {third : Parser σ γ} (read : first.delimited second third input = .done rest right) :
    ∃ before left after, first input = .done before left ∧ second before = .done after right := by
  obtain ⟨before, left, opened, more⟩ := bind_eq_done.mp read
  obtain ⟨after, right', inner, more'⟩ := bind_eq_done.mp more
  obtain ⟨last, final, -, joined⟩ := bind_eq_done.mp more'
  cases joined
  exact ⟨before, left, after, opened, inner⟩

theorem preceded_of_error (refused : first input = .error) : first.preceded second input = .error :=
  bind_of_error refused

theorem delimited_of_error {third : Parser σ γ} (refused : first input = .error) :
    first.delimited second third input = .error :=
  bind_of_error refused

theorem pair_of_error (refused : first input = .error) : first.pair second input = .error := bind_of_error refused

theorem pair_of_error_right (read : first input = .done middle left) (refused : second middle = .error) :
    first.pair second input = .error := by
  rw [pair, bind_of_done read, bind_of_error refused]

theorem terminated_of_error (refused : first input = .error) : first.terminated second input = .error :=
  bind_of_error refused

theorem terminated_of_error_right (read : first input = .done middle left) (refused : second middle = .error) :
    first.terminated second input = .error := by
  rw [terminated, bind_of_done read, bind_of_error refused]

theorem expect_of_done {convert : α → Option β} (read : first input = .done rest left)
    (converts : convert left = some right) : first.expect convert input = .done rest right := by
  simp [expect, read, Outcome.bind, converts]

theorem expect_eq_done {convert : α → Option β} : first.expect convert input = .done rest right ↔
    ∃ left, first input = .done rest left ∧ convert left = some right := by
  rw [expect, Outcome.bind_eq_done]
  constructor
  · intro ⟨middle, left, read, converted⟩
    cases converts : convert left with
    | none =>
      rw [converts] at converted
      cases converted
    | some value =>
      rw [converts] at converted
      cases converted
      exact ⟨left, read, converts⟩
  · intro ⟨left, read, converts⟩
    refine ⟨rest, left, read, ?_⟩
    rw [converts]

theorem expect_of_error {convert : α → Option β} (refused : first input = .error) :
    first.expect convert input = .error := by
  simp [expect, refused, Outcome.bind]

theorem expect_eq_panicked {convert : α → Option β} : first.expect convert input = .panicked ↔
    first input = .panicked ∨ ∃ rest left, first input = .done rest left ∧ convert left = none := by
  rw [expect, Outcome.bind_eq_panicked]
  refine or_congr_right (exists_congr fun rest => exists_congr fun left => and_congr_right fun _ => ?_)
  cases convert left <;> simp

/-- What was read is what stands before the rest. -/
theorem recognize_of_done {text : List σ} (read : first (text ++ rest) = .done rest left) :
    first.recognize (text ++ rest) = .done rest text := by
  simp [recognize, read, Outcome.bind]

theorem recognize_eq_done {text : List σ} (read : first.recognize input = .done rest text) :
    ∃ left, first input = .done rest left ∧ text = input.take (input.length - rest.length) := by
  obtain ⟨middle, left, read', joined⟩ := Outcome.bind_eq_done.mp read
  cases joined
  exact ⟨left, read', rfl⟩

theorem recognize_of_read (read : first input = .done rest left) : ∃ text, first.recognize input = .done rest text := by
  rw [recognize, read]
  exact ⟨_, rfl⟩

/-- The text that was read is told by how much of the input is left. -/
theorem recognize_unique {text part : List σ} (read : first.recognize (part ++ rest) = .done rest text) :
    text = part := by
  obtain ⟨left, -, rfl⟩ := recognize_eq_done read
  simp

theorem recognize_of_error (refused : first input = .error) : first.recognize input = .error := by
  rw [recognize, refused]
  rfl

end Sequences

section Choices

variable {first second : Parser σ α} {input rest : List σ} {result : α}

theorem orElse_of_done (read : first input = .done rest result) : first.orElse second input = .done rest result := by
  rw [orElse, read]

theorem orElse_of_error (refused : first input = .error) : first.orElse second input = second input := by
  rw [orElse, refused]

theorem orElse_eq_done : first.orElse second input = .done rest result ↔
    first input = .done rest result ∨ first input = .error ∧ second input = .done rest result := by
  unfold orElse
  cases first input <;> simp

theorem alt_of_done {others : List (Parser σ α)} (read : first input = .done rest result) :
    alt (first :: others) input = .done rest result :=
  orElse_of_done read

theorem alt_of_error {others : List (Parser σ α)} (refused : first input = .error) :
    alt (first :: others) input = alt others input :=
  orElse_of_error refused

theorem alt_of_ne_error {others : List (Parser σ α)} (settled : first input ≠ .error) :
    alt (first :: others) input = first input := by
  change first.orElse (alt others) input = _
  unfold orElse
  cases outcome : first input with
  | error => exact absurd outcome settled
  | _ => rfl

theorem alt_eq_done {others : List (Parser σ α)} : alt (first :: others) input = .done rest result ↔
    first input = .done rest result ∨ first input = .error ∧ alt others input = .done rest result :=
  orElse_eq_done

theorem alt_eq_panicked {others : List (Parser σ α)} : alt (first :: others) input = .panicked ↔
    first input = .panicked ∨ first input = .error ∧ alt others input = .panicked := by
  change first.orElse (alt others) input = _ ↔ _
  unfold orElse
  cases first input <;> simp

theorem alt_singleton (input : List σ) : alt [first] input = first input := by
  change first.orElse (alt []) input = _
  unfold orElse
  cases first input <;> rfl

theorem alt_nil (input : List σ) : alt ([] : List (Parser σ α)) input = .error := rfl

theorem opt_eq_orElse (parser : Parser σ α) : parser.opt = (parser.map some).orElse (pure none) := by
  funext input
  have mapped : parser.map some input = (parser input).bind fun rest value => .done rest (some value) := rfl
  unfold opt orElse
  rw [mapped]
  cases parser input <;> rfl

theorem opt_of_done (read : first input = .done rest result) : first.opt input = .done rest (some result) := by
  rw [opt, read]

theorem opt_of_error (refused : first input = .error) : first.opt input = .done input none := by
  rw [opt, refused]

theorem opt_eq_some : first.opt input = .done rest (some result) ↔ first input = .done rest result := by
  unfold opt
  cases first input <;> simp

theorem opt_eq_none : first.opt input = .done rest none ↔ first input = .error ∧ rest = input := by
  unfold opt
  cases first input with
  | error =>
    simp only [Outcome.done.injEq, and_true, true_and]
    exact eq_comm
  | _ => simp

theorem opt_eq_panicked : first.opt input = .panicked ↔ first input = .panicked := by
  unfold opt
  cases first input <;> simp

theorem opt_eq_done {found : Option α} (read : first.opt input = .done rest found) :
    rest = input ∨ ∃ result, first input = .done rest result := by
  cases found with
  | none => exact .inl (opt_eq_none.mp read).2
  | some result => exact .inr ⟨result, opt_eq_some.mp read⟩

end Choices

section Repetition

variable {parser : Parser σ α} {input middle rest : List σ} {result : α} {results : List α}

/-- The fuel only has to exceed the length of the input. -/
theorem rounds_eq_of_lt {fuel fuel' : Nat} (enough : input.length < fuel) (enough' : input.length < fuel') :
    rounds parser fuel input = rounds parser fuel' input := by
  induction fuel generalizing fuel' input with
  | zero => omega
  | succ fuel ih =>
    cases fuel' with
    | zero => omega
    | succ fuel' =>
      rw [rounds, rounds]
      cases parser input with
      | done rest value =>
        simp only
        split
        · have same : rounds parser fuel rest = rounds parser fuel' rest := ih (by omega) (by omega)
          rw [same]
        · rfl
      | error => rfl
      | incomplete => rfl
      | panicked => rfl

theorem many0_eq (parser : Parser σ α) (input : List σ) :
    parser.many0 input = match parser input with
      | .done rest value =>
        if rest.length < input.length then
          (parser.many0 rest).bind fun rest values => .done rest (value :: values)
        else .error
      | .error => .done input []
      | .incomplete => .incomplete
      | .panicked => .panicked := by
  rw [many0, rounds]
  cases parser input with
  | done rest value =>
    by_cases shorter : rest.length < input.length
    · simp only [if_pos shorter]
      rw [rounds_eq_of_lt shorter (Nat.lt_succ_self _), ← many0]
    · simp only [if_neg shorter]
  | error => rfl
  | incomplete => rfl
  | panicked => rfl

theorem many0_of_error (refused : parser input = .error) : parser.many0 input = .done input [] := by
  rw [many0_eq, refused]

theorem many0_of_done (read : parser input = .done middle result) (shorter : middle.length < input.length)
    (further : parser.many0 middle = .done rest results) :
    parser.many0 input = .done rest (result :: results) := by
  rw [many0_eq, read]
  simp only [if_pos shorter]
  rw [further]
  rfl

theorem many0_eq_done (read : parser.many0 input = .done rest results) :
    (parser input = .error ∧ rest = input ∧ results = []) ∨
      ∃ middle result further, parser input = .done middle result ∧ middle.length < input.length ∧
        parser.many0 middle = .done rest further ∧ results = result :: further := by
  rw [many0_eq] at read
  cases outcome : parser input with
  | done middle value =>
    rw [outcome] at read
    simp only at read
    split at read
    · rename_i shorter
      obtain ⟨rest', results', further, joined⟩ := Outcome.bind_eq_done.mp read
      cases joined
      exact .inr ⟨middle, value, _, rfl, shorter, further, rfl⟩
    · cases read
  | error =>
    rw [outcome] at read
    cases read
    exact .inl ⟨rfl, rfl, rfl⟩
  | incomplete =>
    rw [outcome] at read
    cases read
  | panicked =>
    rw [outcome] at read
    cases read

inductive Reads (parser : Parser σ α) : List σ → List α → List σ → Prop
  | none (rest : List σ) : Reads parser rest [] rest
  | more {input middle rest : List σ} {value : α} {values : List α} : parser input = .done middle value →
      middle.length < input.length → Reads parser middle values rest → Reads parser input (value :: values) rest

theorem Reads.mem {values : List α} (reads : parser.Reads input values rest) :
    ∀ value ∈ values, ∃ text behind, parser text = .done behind value := by
  induction reads with
  | none rest => simp
  | more read _ _ ih =>
    intro value member
    rcases List.mem_cons.mp member with rfl | later
    · exact ⟨_, _, read⟩
    · exact ih value later

theorem many0_of_reads {values : List α} (reads : parser.Reads input values rest) :
    parser.many0 input = (parser.many0 rest).bind fun rest further => .done rest (values ++ further) := by
  induction reads with
  | none rest => cases parser.many0 rest <;> rfl
  | more read shorter _ ih =>
    rw [many0_eq, read]
    simp only [if_pos shorter]
    rw [ih, Outcome.bind_assoc]
    rfl

theorem many0_eq_done_iff {values : List α} :
    parser.many0 input = .done rest values ↔ parser.Reads input values rest ∧ parser rest = .error := by
  constructor
  · intro read
    induction values generalizing input with
    | nil =>
      rcases many0_eq_done read with ⟨refused, rfl, -⟩ | ⟨_, _, _, -, -, -, same⟩
      · exact ⟨.none _, refused⟩
      · cases same
    | cons value values ih =>
      rcases many0_eq_done read with ⟨-, -, none⟩ | ⟨middle, result, further, first, shorter, others, same⟩
      · cases none
      · cases same
        obtain ⟨reads, refused⟩ := ih others
        exact ⟨.more first shorter reads, refused⟩
  · intro ⟨reads, refused⟩
    rw [many0_of_reads reads, many0_of_error refused]
    simp [Outcome.bind]

theorem many0_eq_panicked_iff :
    parser.many0 input = .panicked ↔ ∃ values rest, parser.Reads input values rest ∧ parser rest = .panicked := by
  constructor
  · intro failed
    induction length : input.length using Nat.strongRecOn generalizing input with
    | ind count ih =>
      rw [many0_eq] at failed
      cases outcome : parser input with
      | done middle value =>
        rw [outcome] at failed
        simp only at failed
        split at failed
        · rename_i shorter
          rcases Outcome.bind_eq_panicked.mp failed with further | ⟨_, _, -, none⟩
          · obtain ⟨values, rest, reads, failed'⟩ := ih middle.length (by omega) further rfl
            exact ⟨value :: values, rest, .more outcome shorter reads, failed'⟩
          · cases none
        · cases failed
      | error =>
        rw [outcome] at failed
        cases failed
      | incomplete =>
        rw [outcome] at failed
        cases failed
      | panicked => exact ⟨[], input, .none input, outcome⟩
  · intro ⟨values, rest, reads, failed⟩
    rw [many0_of_reads reads, many0_eq, failed]
    rfl

theorem many1_of_done (read : parser input = .done middle result) (further : parser.many0 middle = .done rest results) :
    parser.many1 input = .done rest (result :: results) := by
  rw [many1, bind_of_done read, bind_of_done further]
  rfl

end Repetition

end Parser

end Parsing
