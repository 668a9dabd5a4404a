import Ros2Client.Parsing.Characters

namespace Parsing

variable {σ α β γ : Type}

def Outcome.append (outcome : Outcome σ α) (tail : List σ) : Outcome σ α :=
  match outcome with
  | .done rest value => .done (rest ++ tail) value
  | .error => .error
  | .incomplete => .incomplete
  | .panicked => .panicked

def Begins (kind : σ → Bool) (input : List σ) : Prop := ∃ item rest, input = item :: rest ∧ kind item = true

/-- A parser that reads from the front, and whose outcome is the same whatever stands behind the end of its input, as
long as that begins with one of the items at which it stops. -/
structure Parser.Local (stop : σ → Bool) (parser : Parser σ α) : Prop where
  suffix : ∀ {input rest : List σ} {value : α}, parser input = .done rest value → rest <:+ input
  extend : ∀ {input tail : List σ}, Begins stop tail → parser input ≠ .incomplete →
    parser (input ++ tail) = (parser input).append tail

inductive Halt
  | incomplete
  | panicked

def Outcome.halted (halt : Halt) : Outcome σ α :=
  match halt with
  | .incomplete => .incomplete
  | .panicked => .panicked

def Parser.Never (halt : Halt) (parser : Parser σ α) : Prop := ∀ input, parser input ≠ .halted halt

theorem Begins.stops {stop kind : σ → Bool} {tail : List σ} (begins : Begins stop tail)
    (apart : ∀ item, stop item = true → kind item = false) : Stops kind tail := by
  obtain ⟨item, rest, rfl, stopped⟩ := begins
  exact .cons (apart item stopped) rest

namespace Parser

namespace Local

variable {stop : σ → Bool} {first : Parser σ α} {second : Parser σ β}

theorem extend_done (front : first.Local stop) {input tail rest : List σ} {value : α} (begins : Begins stop tail)
    (read : first input = .done rest value) : first (input ++ tail) = .done (rest ++ tail) value := by
  rw [front.extend begins (by simp [read]), read]
  rfl

theorem extend_error (front : first.Local stop) {input tail : List σ} (begins : Begins stop tail)
    (refused : first input = .error) : first (input ++ tail) = .error := by
  rw [front.extend begins (by simp [refused]), refused]
  rfl

protected theorem pure (value : α) : (pure value : Parser σ α).Local stop where
  suffix read := by
    cases read
    exact List.suffix_refl _
  extend _ _ := rfl

/-- A parser and what is then made of its result, be it a further parser or a conversion. -/
theorem andThen {next : List σ → List σ → α → Outcome σ β} (front : first.Local stop)
    (shrinks : ∀ {input middle rest value result}, next input middle value = .done rest result → rest <:+ middle)
    (extends' : ∀ {input middle tail value}, Begins stop tail → middle <:+ input →
      next input middle value ≠ .incomplete →
      next (input ++ tail) (middle ++ tail) value = (next input middle value).append tail) :
    Parser.Local stop (fun input => (first input).bind (next input)) where
  suffix read := by
    obtain ⟨middle, value, read, further⟩ := Outcome.bind_eq_done.mp read
    exact (shrinks further).trans (front.suffix read)
  extend {input tail} begins finished := by
    have outcome : first input ≠ .incomplete → first (input ++ tail) = (first input).append tail := front.extend begins
    change (first (input ++ tail)).bind _ = ((first input).bind _).append tail
    change (first input).bind _ ≠ .incomplete at finished
    cases read : first input with
    | done middle value =>
      rw [read] at outcome finished
      rw [outcome (by simp)]
      exact extends' begins (front.suffix read) finished
    | error =>
      rw [read] at outcome
      rw [outcome (by simp)]
      rfl
    | incomplete =>
      rw [read] at finished
      exact absurd rfl finished
    | panicked =>
      rw [read] at outcome
      rw [outcome (by simp)]
      rfl

theorem bind {next : α → Parser σ β} (front : first.Local stop) (back : ∀ value, (next value).Local stop) :
    (first >>= next).Local stop :=
  front.andThen (fun further => (back _).suffix further) fun begins _ finished => (back _).extend begins finished

theorem map (convert : α → β) (front : first.Local stop) : (first.map convert).Local stop :=
  front.bind fun _ => .pure _

theorem value (result : β) (front : first.Local stop) : (first.value result).Local stop := front.bind fun _ => .pure _

theorem pair (front : first.Local stop) (back : second.Local stop) : (first.pair second).Local stop :=
  front.bind fun _ => back.bind fun _ => .pure _

theorem preceded (front : first.Local stop) (back : second.Local stop) : (first.preceded second).Local stop :=
  front.bind fun _ => back

theorem terminated (front : first.Local stop) (back : second.Local stop) : (first.terminated second).Local stop :=
  front.bind fun _ => back.bind fun _ => .pure _

theorem delimited {third : Parser σ γ} (front : first.Local stop) (middle : second.Local stop)
    (back : third.Local stop) :
    (first.delimited second third).Local stop :=
  front.bind fun _ => middle.bind fun _ => back.bind fun _ => .pure _

theorem expect {convert : α → Option β} (front : first.Local stop) : (first.expect convert).Local stop := by
  apply front.andThen
  · intro input middle rest value result further
    cases converted : convert value <;> rw [converted] at further <;> cases further
    exact List.suffix_refl _
  · intro input middle tail value begins inside finished
    cases convert value <;> rfl

theorem mapOpt {convert : α → Option β} (front : first.Local stop) : (first.mapOpt convert).Local stop := by
  apply front.andThen
  · intro input middle rest value result further
    cases converted : convert value <;> rw [converted] at further <;> cases further
    exact List.suffix_refl _
  · intro input middle tail value begins inside finished
    cases convert value <;> rfl

theorem verify {accepts : α → Bool} (front : first.Local stop) : (first.verify accepts).Local stop := by
  apply front.andThen
  · intro input middle rest value result further
    cases accepted : accepts value <;> rw [accepted] at further <;> cases further
    exact List.suffix_refl _
  · intro input middle tail value begins inside finished
    cases accepts value <;> rfl

theorem recognize (front : first.Local stop) : first.recognize.Local stop := by
  apply front.andThen
  · intro input middle rest value result further
    cases further
    exact List.suffix_refl _
  · intro input middle tail value begins inside finished
    have length : (input ++ tail).length - (middle ++ tail).length = input.length - middle.length := by
      simp only [List.length_append]
      omega
    change Outcome.done _ _ = Outcome.done _ _
    rw [length, List.take_append_of_le_length (Nat.sub_le _ _)]

theorem orElse {second : Parser σ α} (front : first.Local stop) (back : second.Local stop) :
    (first.orElse second).Local stop where
  suffix read := by
    rcases orElse_eq_done.mp read with read | ⟨-, read⟩
    · exact front.suffix read
    · exact back.suffix read
  extend {input tail} begins finished := by
    have outcome : first input ≠ .incomplete → first (input ++ tail) = (first input).append tail := front.extend begins
    unfold Parser.orElse at finished ⊢
    cases read : first input with
    | error =>
      rw [read] at outcome finished
      rw [outcome (by simp)]
      exact back.extend begins finished
    | incomplete =>
      rw [read] at finished
      exact absurd rfl finished
    | done rest value =>
      rw [read] at outcome
      rw [outcome (by simp)]
      rfl
    | panicked =>
      rw [read] at outcome
      rw [outcome (by simp)]
      rfl

theorem alt_nil : (Parser.alt [] : Parser σ α).Local stop := ⟨nofun, fun _ _ => rfl⟩

theorem alt_cons {parsers : List (Parser σ α)} (front : first.Local stop) (back : (Parser.alt parsers).Local stop) :
    (Parser.alt (first :: parsers)).Local stop := front.orElse back

theorem alt {parsers : List (Parser σ α)} (each : ∀ parser ∈ parsers, parser.Local stop) :
    (Parser.alt parsers).Local stop := by
  induction parsers with
  | nil => exact alt_nil
  | cons first parsers ih =>
    exact (each first (by simp)).alt_cons (ih fun parser member => each parser (by simp [member]))

theorem opt (front : first.Local stop) : first.opt.Local stop := by
  rw [opt_eq_orElse]
  exact (front.map some).orElse (.pure none)

theorem many0 (front : first.Local stop) : first.many0.Local stop := by
  have both : ∀ input, (∀ {rest values}, first.many0 input = .done rest values → rest <:+ input) ∧
      ∀ {tail}, Begins stop tail → first.many0 input ≠ .incomplete →
        first.many0 (input ++ tail) = (first.many0 input).append tail := by
    intro input
    induction length : input.length using Nat.strongRecOn generalizing input with
    | ind count ih =>
      have outcome : ∀ {tail}, Begins stop tail → first input ≠ .incomplete →
          first (input ++ tail) = (first input).append tail := front.extend
      rw [many0_eq]
      cases read : first input with
      | done middle value =>
        rw [read] at outcome
        by_cases shorter : middle.length < input.length
        · obtain ⟨shrinks, extends'⟩ := ih middle.length (by omega) middle rfl
          simp only [if_pos shorter]
          refine ⟨?_, ?_⟩
          · intro rest values further
            obtain ⟨last, values', further', joined⟩ := Outcome.bind_eq_done.mp further
            cases joined
            exact (shrinks further').trans (front.suffix read)
          · intro tail begins finished
            have shorter' : (middle ++ tail).length < (input ++ tail).length := by
              simp only [List.length_append]
              omega
            rw [many0_eq, outcome begins (by simp)]
            simp only [Outcome.append, if_pos shorter']
            cases further : first.many0 middle with
            | incomplete =>
              rw [further] at finished
              exact absurd rfl finished
            | _ =>
              rw [further] at extends'
              rw [extends' begins (by simp)]
              rfl
        · simp only [if_neg shorter]
          refine ⟨nofun, ?_⟩
          intro tail begins finished
          have longer : ¬(middle ++ tail).length < (input ++ tail).length := by
            simp only [List.length_append]
            omega
          rw [many0_eq, outcome begins (by simp)]
          simp only [Outcome.append, if_neg longer]
      | error =>
        rw [read] at outcome
        refine ⟨?_, ?_⟩
        · intro rest values further
          cases further
          exact List.suffix_refl _
        · intro tail begins finished
          rw [many0_eq, outcome begins (by simp)]
          rfl
      | incomplete => exact ⟨nofun, fun _ finished => absurd rfl finished⟩
      | panicked =>
        rw [read] at outcome
        refine ⟨nofun, ?_⟩
        intro tail begins finished
        rw [many0_eq, outcome begins (by simp)]
        rfl
  exact ⟨fun read => (both _).1 read, fun begins finished => (both _).2 begins finished⟩

theorem many1 (front : first.Local stop) : first.many1.Local stop :=
  front.bind fun _ => front.many0.bind fun _ => .pure _

theorem foldMany0 (front : first.Local stop) (init : β) (step : β → α → β) : (first.foldMany0 init step).Local stop :=
  front.many0.bind fun _ => .pure _

end Local

namespace Never

variable {halt : Halt} {first : Parser σ α} {second : Parser σ β}

theorem done_ne_halted (halt : Halt) (rest : List σ) (value : α) : Outcome.done rest value ≠ .halted halt := by
  cases halt <;> exact nofun

theorem error_ne_halted (halt : Halt) : (.error : Outcome σ α) ≠ .halted halt := by cases halt <;> exact nofun

/-- A halt is passed on, whatever was to be made of the result. -/
theorem of_halted {outcome : Outcome σ α} (other : outcome ≠ .halted halt) (next : List σ → α → Outcome σ β)
    (back : ∀ rest value, outcome = .done rest value → next rest value ≠ .halted halt) :
    outcome.bind next ≠ .halted halt := by
  cases outcome with
  | done rest value => exact back rest value rfl
  | error => exact error_ne_halted halt
  | incomplete => cases halt <;> simp_all [Outcome.bind, Outcome.halted]
  | panicked => cases halt <;> simp_all [Outcome.bind, Outcome.halted]

protected theorem pure (value : α) : (pure value : Parser σ α).Never halt := fun _ => done_ne_halted halt _ _

theorem andThen {next : List σ → List σ → α → Outcome σ β} (front : first.Never halt)
    (back : ∀ input middle value, next input middle value ≠ .halted halt) :
    Parser.Never halt (fun input => (first input).bind (next input)) :=
  fun input => of_halted (front input) _ fun middle value _ => back input middle value

theorem bind {next : α → Parser σ β} (front : first.Never halt) (back : ∀ value, (next value).Never halt) :
    (first >>= next).Never halt :=
  front.andThen fun _ middle value => back value middle

theorem map (convert : α → β) (front : first.Never halt) : (first.map convert).Never halt := front.bind fun _ => .pure _

theorem value (result : β) (front : first.Never halt) : (first.value result).Never halt := front.bind fun _ => .pure _

theorem pair (front : first.Never halt) (back : second.Never halt) : (first.pair second).Never halt :=
  front.bind fun _ => back.bind fun _ => .pure _

theorem preceded (front : first.Never halt) (back : second.Never halt) : (first.preceded second).Never halt :=
  front.bind fun _ => back

theorem terminated (front : first.Never halt) (back : second.Never halt) : (first.terminated second).Never halt :=
  front.bind fun _ => back.bind fun _ => .pure _

theorem delimited {third : Parser σ γ} (front : first.Never halt) (middle : second.Never halt)
    (back : third.Never halt) :
    (first.delimited second third).Never halt :=
  front.bind fun _ => middle.bind fun _ => back.bind fun _ => .pure _

theorem expect {convert : α → Option β} (front : first.Never .incomplete) :
    (first.expect convert).Never .incomplete := by
  apply front.andThen
  intro input middle value
  cases convert value <;> exact nofun

theorem mapOpt {convert : α → Option β} (front : first.Never halt) : (first.mapOpt convert).Never halt := by
  apply front.andThen
  intro input middle value
  cases convert value with
  | none => exact error_ne_halted halt
  | some result => exact done_ne_halted halt _ _

theorem verify {accepts : α → Bool} (front : first.Never halt) : (first.verify accepts).Never halt := by
  apply front.andThen
  intro input middle value
  cases accepts value with
  | false => exact error_ne_halted halt
  | true => exact done_ne_halted halt _ _

theorem recognize (front : first.Never halt) : first.recognize.Never halt :=
  front.andThen fun _ _ _ => done_ne_halted halt _ _

theorem orElse {second : Parser σ α} (front : first.Never halt) (back : second.Never halt) :
    (first.orElse second).Never halt := by
  intro input
  have other := front input
  unfold Parser.orElse
  cases read : first input with
  | error => exact back input
  | done rest value => exact done_ne_halted halt _ _
  | _ =>
    rw [read] at other
    exact other

theorem alt_nil : (Parser.alt [] : Parser σ α).Never halt := fun _ => error_ne_halted halt

theorem alt_cons {parsers : List (Parser σ α)} (front : first.Never halt) (back : (Parser.alt parsers).Never halt) :
    (Parser.alt (first :: parsers)).Never halt := front.orElse back

theorem alt {parsers : List (Parser σ α)} (each : ∀ parser ∈ parsers, parser.Never halt) :
    (Parser.alt parsers).Never halt := by
  induction parsers with
  | nil => exact alt_nil
  | cons first parsers ih =>
    exact (each first (by simp)).alt_cons (ih fun parser member => each parser (by simp [member]))

/-- A halt of an alternative comes from one of the parsers that can halt. -/
theorem alt_halted {parsers : List (Parser σ α)} {input : List σ} (front : first.Never halt)
    (halted : Parser.alt (first :: parsers) input = .halted halt) :
    first input = .error ∧ Parser.alt parsers input = .halted halt := by
  change first.orElse (Parser.alt parsers) input = _ at halted
  have other := front input
  unfold Parser.orElse at halted
  cases read : first input with
  | error =>
    rw [read] at halted
    exact ⟨rfl, halted⟩
  | done rest value =>
    rw [read] at halted
    exact absurd halted (done_ne_halted halt _ _)
  | _ =>
    rw [read] at halted other
    exact absurd halted other

theorem halted_of_alt {parsers : List (Parser σ α)} {input : List σ} (back : (Parser.alt parsers).Never halt)
    (halted : Parser.alt (first :: parsers) input = .halted halt) : first input = .halted halt := by
  change first.orElse (Parser.alt parsers) input = _ at halted
  unfold Parser.orElse at halted
  cases read : first input with
  | error =>
    rw [read] at halted
    exact absurd halted (back input)
  | _ =>
    rw [read] at halted
    exact halted

theorem opt (front : first.Never halt) : first.opt.Never halt := by
  rw [opt_eq_orElse]
  exact (front.map some).orElse (.pure none)

theorem many0 (front : first.Never halt) : first.many0.Never halt := by
  intro input
  induction length : input.length using Nat.strongRecOn generalizing input with
  | ind count ih =>
    have other := front input
    rw [many0_eq]
    cases read : first input with
    | done rest value =>
      by_cases shorter : rest.length < input.length
      · simp only [if_pos shorter]
        exact of_halted (ih rest.length (by omega) rest rfl) _ fun _ _ _ => done_ne_halted halt _ _
      · simp only [if_neg shorter]
        exact error_ne_halted halt
    | error => exact done_ne_halted halt _ _
    | _ =>
      rw [read] at other
      cases halt <;> simp_all [Outcome.halted]

theorem many1 (front : first.Never halt) : first.many1.Never halt :=
  front.bind fun _ => front.many0.bind fun _ => .pure _

theorem foldMany0 (front : first.Never halt) (init : β) (step : β → α → β) : (first.foldMany0 init step).Never halt :=
  front.many0.bind fun _ => .pure _

theorem satisfy (kind : σ → Bool) : Never halt (satisfy kind) := by
  intro input
  cases input with
  | nil => exact error_ne_halted halt
  | cons item input =>
    rw [Parsing.satisfy]
    split
    · exact done_ne_halted halt _ _
    · exact error_ne_halted halt

theorem takeWhile0 (kind : σ → Bool) : Never halt (takeWhile0 kind) := fun _ => done_ne_halted halt _ _

theorem takeWhile1 (kind : σ → Bool) : Never halt (takeWhile1 kind) := by
  intro input
  rw [Parsing.takeWhile1]
  split
  · exact error_ne_halted halt
  · exact done_ne_halted halt _ _

theorem tag [DecidableEq σ] (text : List σ) : Never halt (tag text) := by
  intro input
  rw [Parsing.tag]
  split
  · exact done_ne_halted halt _ _
  · exact error_ne_halted halt

end Never

section Items

variable {stop kind : σ → Bool}

theorem Local.satisfy (apart : ∀ item, stop item = true → kind item = false) : Local stop (satisfy kind) where
  suffix {input rest value} read := by
    cases input with
    | nil => cases read
    | cons item input =>
      rw [Parsing.satisfy] at read
      split at read <;> cases read
      exact List.suffix_cons _ _
  extend {input tail} begins finished := by
    cases input with
    | nil => exact satisfy_of_stops (begins.stops apart)
    | cons item input =>
      rw [List.cons_append, Parsing.satisfy, Parsing.satisfy]
      cases kind item <;> rfl

/-- Where the whole input is of the kind, the tail begins with an item that is not. -/
theorem dropWhile_append_of_begins {input tail : List σ} (begins : Begins stop tail)
    (apart : ∀ item, stop item = true → kind item = false) :
    (input ++ tail).dropWhile kind = input.dropWhile kind ++ tail ∧
      (input ++ tail).takeWhile kind = input.takeWhile kind := by
  have stops := begins.stops apart
  induction input with
  | nil => exact ⟨(takeWhile_of_stops stops).2, (takeWhile_of_stops stops).1⟩
  | cons item input ih =>
    cases inside : kind item with
    | true => simp [inside, ih]
    | false => simp [inside]

theorem Local.takeWhile0 (apart : ∀ item, stop item = true → kind item = false) : Local stop (takeWhile0 kind) where
  suffix read := by
    cases read
    exact List.dropWhile_suffix _
  extend begins _ := by
    obtain ⟨dropped, taken⟩ := dropWhile_append_of_begins begins apart
    rw [Parsing.takeWhile0, dropped, taken]
    rfl

theorem Local.takeWhile1 (apart : ∀ item, stop item = true → kind item = false) : Local stop (takeWhile1 kind) where
  suffix read := by
    rw [Parsing.takeWhile1] at read
    split at read <;> cases read
    exact List.dropWhile_suffix _
  extend {input tail} begins _ := by
    obtain ⟨dropped, taken⟩ := dropWhile_append_of_begins begins apart
    rw [Parsing.takeWhile1, Parsing.takeWhile1, dropped, taken]
    cases (input.takeWhile kind).isEmpty <;> rfl

theorem Local.tag [DecidableEq σ] {text : List σ} (apart : ∀ item ∈ text, stop item = false) :
    Local stop (tag text) where
  suffix read := by
    obtain ⟨rfl, rfl⟩ := tag_eq_done read
    exact List.suffix_append _ _
  extend {input tail} begins _ := by
    by_cases found : text <+: input
    · obtain ⟨rest, rfl⟩ := found
      rw [List.append_assoc, tag_append, tag_append]
      rfl
    · have absent : ¬text <+: input ++ tail := by
        obtain ⟨item, rest, rfl, stopped⟩ := begins
        intro found'
        refine found (prefix_of_prefix_append found' ?_)
        intro member
        rw [apart item member] at stopped
        cases stopped
      rw [tag_refused found, tag_refused absent]
      rfl

end Items

section Streams

variable {stop : Char → Bool}

theorem Local.streamingChar (expected : Char) : Local stop (Streaming.char expected) where
  suffix {input rest value} read := by
    cases input with
    | nil => cases read
    | cons item input =>
      rw [Streaming.char] at read
      split at read <;> cases read
      exact List.suffix_cons _ _
  extend {input tail} _ finished := by
    cases input with
    | nil => exact absurd rfl finished
    | cons item input =>
      rw [List.cons_append, Streaming.char, Streaming.char]
      split <;> rfl

/-- Where the kind ends inside the input, it does not matter what stands behind the input. -/
theorem takeWhile_append_of_ends {kind : Char → Bool} {input : List Char}
    (ends : (input.takeWhile kind).length < input.length) (tail : List Char) :
    (input ++ tail).dropWhile kind = input.dropWhile kind ++ tail ∧
      (input ++ tail).takeWhile kind = input.takeWhile kind := by
  have split : (input.takeWhile kind).length + (input.dropWhile kind).length = input.length := by
    rw [← List.length_append, List.takeWhile_append_dropWhile]
  have present : ¬(input.dropWhile kind).isEmpty = true := by
    rw [List.isEmpty_iff_length_eq_zero]
    omega
  rw [List.dropWhile_append, List.takeWhile_append, if_neg present, if_neg (by omega)]
  exact ⟨rfl, rfl⟩

theorem Local.streamingTakeWhile1 (kind : Char → Bool) : Local stop (Streaming.takeWhile1 kind) where
  suffix read := by
    rw [Streaming.takeWhile1] at read
    split at read
    · cases read
    · split at read <;> cases read
      exact List.dropWhile_suffix _
  extend {input tail} _ finished := by
    rw [Streaming.takeWhile1] at finished ⊢
    rw [Streaming.takeWhile1]
    by_cases empty : (input.dropWhile kind).isEmpty = true
    · rw [if_pos empty] at finished
      exact absurd rfl finished
    · have split : (input.takeWhile kind).length + (input.dropWhile kind).length = input.length := by
        rw [← List.length_append, List.takeWhile_append_dropWhile]
      have ends : (input.takeWhile kind).length < input.length := by
        rw [List.isEmpty_iff_length_eq_zero] at empty
        omega
      obtain ⟨dropped, taken⟩ := takeWhile_append_of_ends ends tail
      have empty' : ¬(input.dropWhile kind ++ tail).isEmpty = true := by
        rw [List.isEmpty_iff, List.append_eq_nil_iff]
        rintro ⟨none, -⟩
        exact empty (List.isEmpty_iff.mpr none)
      rw [dropped, taken, if_neg empty, if_neg empty']
      split <;> rfl

theorem Local.streamingTakeWhileMN (least most : Nat) (kind : Char → Bool) :
    Local stop (Streaming.takeWhileMN least most kind) where
  suffix read := by
    rw [Streaming.takeWhileMN] at read
    split at read
    · cases read
    · split at read <;> cases read
      exact List.drop_suffix _ _
  extend {input tail} _ finished := by
    have shorter : ((input.take most).takeWhile kind).length ≤ (input.take most).length :=
      (List.takeWhile_sublist _).length_le
    have limit : (input.take most).length = min most input.length := List.length_take
    rw [Streaming.takeWhileMN] at finished ⊢
    rw [Streaming.takeWhileMN]
    by_cases whole : ((input.take most).takeWhile kind).length = input.length
    · rw [if_pos whole] at finished
      exact absurd rfl finished
    · have taken : ((input ++ tail).take most).takeWhile kind = (input.take most).takeWhile kind := by
        by_cases long : most ≤ input.length
        · rw [List.take_append_of_le_length long]
        · have all : input.take most = input := List.take_of_length_le (by omega)
          rw [all] at whole shorter ⊢
          rw [List.take_append, all]
          exact (takeWhile_append_of_ends (by omega) _).2
      have whole' : ((input.take most).takeWhile kind).length ≠ (input ++ tail).length := by
        rw [List.length_append]
        omega
      rw [taken, if_neg whole, if_neg whole']
      split
      · rfl
      · rw [List.drop_append_of_le_length (by omega)]
        rfl

theorem Never.streamingChar (expected : Char) : Never .panicked (Streaming.char expected) := by
  intro input
  cases input with
  | nil => exact nofun
  | cons item input =>
    rw [Streaming.char]
    split <;> exact nofun

theorem Never.streamingTakeWhile1 (kind : Char → Bool) : Never .panicked (Streaming.takeWhile1 kind) := by
  intro input
  rw [Streaming.takeWhile1]
  split
  · exact nofun
  · split <;> exact nofun

theorem Never.streamingTakeWhileMN (least most : Nat) (kind : Char → Bool) :
    Never .panicked (Streaming.takeWhileMN least most kind) := by
  intro input
  rw [Streaming.takeWhileMN]
  split
  · exact nofun
  · split <;> exact nofun

end Streams

end Parser

end Parsing
