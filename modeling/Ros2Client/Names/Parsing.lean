import Ros2Client.Names.Resolution
import Ros2Client.Text.Fields

open Text

namespace Ros2Client

/-- A letter or an underscore, then letters, digits and underscores, no two underscores in a row. -/
structure IsToken (token : Str) : Prop where
  start : ∃ first rest, token = first :: rest ∧ (first.isAlpha = true ∨ first = '_')
  chars : ∀ char ∈ token, char.isAlpha = true ∨ char.isDigit = true ∨ char = '_'
  single : ¬ ['_', '_'] <:+: token

def IsNameText (text : Str) : Prop :=
  ∃ (absolute : Bool) (tokens : List Str), tokens ≠ [] ∧ (∀ token ∈ tokens, IsToken token) ∧
    text = (if absolute then ['/'] else []) ++ ['/'].intercalate tokens

/-- The names that can be made where any token may be pushed. -/
inductive Name.Made : Name → Prop
  | new {namespaceText baseName : Str} {name : Name} : Name.new namespaceText baseName = .ok name → Made name
  | parse {fullName : Str} {name : Name} : Name.parse fullName = .ok name → Made name
  | push {name : Name} {token : Str} : Made name → IsToken token → Made (name.push token)

theorem validToken_iff (token : Str) : validToken token = true ↔ IsToken token := by
  have chars : token.all isNameChar = true ↔
      ∀ char ∈ token, char.isAlpha = true ∨ char.isDigit = true ∨ char = '_' := by
    simp [isNameChar, Char.isAlphanum, or_assoc]
  have start : token.head?.any okStartChar = true ↔
      ∃ first rest, token = first :: rest ∧ (first.isAlpha = true ∨ first = '_') := by
    cases token <;> simp [okStartChar]
  have single : noMultiUnderscore token = true ↔ ¬ ['_', '_'] <:+: token := by
    simp [noMultiUnderscore]
  rw [validToken, Bool.and_eq_true, Bool.and_eq_true, chars, start, single]
  constructor
  · intro valid
    obtain ⟨⟨allChars, starts⟩, noDouble⟩ := valid
    exact ⟨starts, allChars, noDouble⟩
  · intro valid
    exact ⟨⟨valid.chars, valid.start⟩, valid.single⟩

theorem slash_not_mem_of_validToken {token : Str} (valid : validToken token = true) : '/' ∉ token := by
  intro member
  exact absurd (validToken_chars valid '/' member) (by decide)

theorem Name.made_valid {name : Name} (made : name.Made) : name.Valid := by
  induction made with
  | new built => exact Name.new_valid built
  | parse built => exact Name.parse_valid built
  | push _ pushed ih =>
    intro token member
    rw [Name.push_tokens] at member
    rcases List.mem_append.mp member with earlier | last
    · exact ih token earlier
    · rw [List.mem_singleton.mp last]
      exact (validToken_iff _).mpr pushed

/-- A namespace is what its tokens join to. -/
theorem namespaceTokens_joined {namespaceText : Str} (deeper : namespaceRel namespaceText ≠ []) :
    (if namespaceText.head? = some '/' then ['/'] else []) ++ ['/'].intercalate (namespaceTokens namespaceText) =
      namespaceText := by
  rw [namespaceTokens, if_neg deeper, List.intercalate_splitOn, namespaceRel]
  split
  · rename_i slash
    exact List.cons_head?_tail slash
  · rfl

theorem head_intercalate {tokens : List Str} (present : tokens ≠ [])
    (valid : ∀ token ∈ tokens, validToken token = true) : (['/'].intercalate tokens).head? ≠ some '/' := by
  cases tokens with
  | nil => exact absurd rfl present
  | cons token tokens =>
    have validFirst := valid token (by simp)
    have first : (['/'].intercalate (token :: tokens)).head? = token.head? := by
      have filled := validToken_ne_nil validFirst
      cases tokens with
      | nil => simp
      | cons next tokens =>
        rw [List.intercalate_cons_cons, List.append_assoc, List.head?_append_of_ne_nil _ filled]
    rw [first]
    intro slash
    exact slash_not_mem_of_validToken validFirst (List.mem_of_head? slash)

theorem intercalate_ends {tokens : List Str} (present : tokens ≠ []) :
    ∃ front last, last ∈ tokens ∧ ['/'].intercalate tokens = front ++ last := by
  induction tokens with
  | nil => exact absurd rfl present
  | cons token tokens ih =>
    cases tokens with
    | nil => exact ⟨[], token, by simp⟩
    | cons next tokens =>
      obtain ⟨front, last, member, joined⟩ := ih (by simp)
      refine ⟨token ++ ['/'] ++ front, last, List.mem_cons_of_mem _ member, ?_⟩
      rw [List.intercalate_cons_cons, joined, List.append_assoc _ front]

/-- The last character of a joined text is the one of a token. -/
theorem getLast_intercalate {tokens : List Str} (present : tokens ≠ [])
    (valid : ∀ token ∈ tokens, validToken token = true) (front : Str) :
    ['/'].intercalate tokens ≠ [] ∧ (front ++ ['/'].intercalate tokens).getLast? ≠ some '/' := by
  obtain ⟨before, last, member, joined⟩ := intercalate_ends present
  have validLast := valid last member
  have filled := validToken_ne_nil validLast
  rw [joined, ← List.append_assoc, List.getLast?_append_of_ne_nil _ filled]
  refine ⟨by simp [filled], ?_⟩
  intro slash
  exact slash_not_mem_of_validToken validLast (List.mem_of_getLast? slash)

theorem namespaceTokens_intercalate (absolute : Bool) {tokens : List Str} (present : tokens ≠ [])
    (valid : ∀ token ∈ tokens, validToken token = true) :
    namespaceTokens ((if absolute then ['/'] else []) ++ ['/'].intercalate tokens) = tokens ∧
      decide (((if absolute then ['/'] else []) ++ ['/'].intercalate tokens).head? = some '/') = absolute := by
  have head := head_intercalate present valid
  have rel : namespaceRel ((if absolute then ['/'] else []) ++ ['/'].intercalate tokens) =
      ['/'].intercalate tokens := by
    cases absolute <;> simp [namespaceRel, head]
  have filled := (getLast_intercalate present valid []).1
  refine ⟨?_, ?_⟩
  · rw [namespaceTokens, rel, if_neg filled]
    exact List.splitOn_intercalate '/' (fun token member => slash_not_mem_of_validToken (valid token member)) present
  · cases absolute <;> simp [head]

theorem Name.parse_deeper {before base : Str} (deeper : before ≠ []) (filled : base ≠ []) (single : '/' ∉ base)
    (unclosed : before.getLast? ≠ some '/') : Name.parse (before ++ '/' :: base) = Name.new before base := by
  obtain ⟨first, before, rfl⟩ := List.exists_cons_of_ne_nil deeper
  obtain ⟨start, base, rfl⟩ := List.exists_cons_of_ne_nil filled
  rw [Name.parse, rsplitOnce_append _ single]
  simp only [unclosed, if_false]

theorem Name.parse_root {base : Str} (filled : base ≠ []) (single : '/' ∉ base) (absolute : Bool) :
    Name.parse ((if absolute then ['/'] else []) ++ base) = Name.new (if absolute then ['/'] else []) base := by
  obtain ⟨start, base, rfl⟩ := List.exists_cons_of_ne_nil filled
  cases absolute with
  | false =>
    simp only [Bool.false_eq_true, if_false, List.nil_append]
    rw [Name.parse, rsplitOnce_of_not_mem single]
  | true =>
    have halves := rsplitOnce_append [] single
    rw [List.nil_append] at halves
    simp only [if_true, List.singleton_append]
    rw [Name.parse, halves]
    rfl

theorem Name.display_deeper (name : Name) (deeper : name.preceedingTokens ≠ []) :
    name.display = ((if name.absolute then ['/'] else []) ++ ['/'].intercalate name.preceedingTokens) ++
      '/' :: name.baseName := by
  rw [Name.display_eq, Name.tokens, intercalate_append deeper (by simp)]
  simp

theorem namespaceRel_ne_nil {namespaceText : Str} (named : namespaceText ≠ [])
    (unclosed : namespaceText.getLast? ≠ some '/') : namespaceRel namespaceText ≠ [] := by
  intro root
  unfold namespaceRel at root
  split at root
  · rename_i slash
    rw [← List.cons_head?_tail slash, root] at unclosed
    exact unclosed rfl
  · exact named root

theorem Name.display_of_new {before base : Str} {name : Name} (named : before ≠ [])
    (unclosed : before.getLast? ≠ some '/') (made : Name.new before base = .ok name) :
    name.display = before ++ '/' :: base := by
  obtain ⟨_, _, rfl⟩ := Name.new_ok.mp made
  have deeper := namespaceRel_ne_nil named unclosed
  have present : namespaceTokens before ≠ [] := by
    rw [namespaceTokens, if_neg deeper]
    exact List.splitOn_ne_nil _ _
  rw [Name.display_deeper _ present]
  simp only [decide_eq_true_eq, namespaceTokens_joined deeper]

theorem Name.display_of_parse {fullName : Str} {name : Name} (parsed : Name.parse fullName = .ok name) :
    name.display = fullName := by
  unfold Name.parse at parsed
  split at parsed
  · obtain ⟨_, _, rfl⟩ := Name.new_ok.mp parsed
    simp [Name.display, namespaceTokens, namespaceRel]
  · cases parsed
  · cases parsed
  · rename_i base _ halves
    obtain ⟨_, _, rfl⟩ := Name.new_ok.mp parsed
    rw [eq_of_rsplitOnce halves]
    simp [Name.display, namespaceTokens, namespaceRel]
  · rename_i before base _ _ named halves
    split at parsed
    · cases parsed
    · rename_i unclosed
      rw [Name.display_of_new named unclosed parsed, eq_of_rsplitOnce halves]

theorem Name.parse_display {name : Name} (valid : name.Valid) : Name.parse name.display = .ok name := by
  have validBase : validToken name.baseName = true := valid name.baseName (by simp [Name.tokens])
  have validTokens : ∀ token ∈ name.preceedingTokens, validToken token = true :=
    fun token member => valid token (by simp [Name.tokens, member])
  have single := slash_not_mem_of_validToken validBase
  have filled := validToken_ne_nil validBase
  obtain ⟨base, tokens, absolute⟩ := name
  by_cases deeper : tokens = []
  · subst deeper
    have display : Name.display ⟨base, [], absolute⟩ = (if absolute then ['/'] else []) ++ base := by
      simp [Name.display]
    rw [display, Name.parse_root filled single, Name.new_ok]
    cases absolute <;> exact ⟨validBase, fun token member => (by cases member), rfl⟩
  · obtain ⟨joined, unclosed⟩ := getLast_intercalate deeper validTokens (if absolute then ['/'] else [])
    obtain ⟨tokensBack, absoluteBack⟩ := namespaceTokens_intercalate absolute deeper validTokens
    rw [Name.display_deeper _ deeper, Name.parse_deeper (by simp [joined]) filled single unclosed, Name.new_ok]
    simp only [tokensBack, absoluteBack]
    exact ⟨validBase, validTokens, trivial⟩

/-- Parsing a text gives a name exactly if the name is valid and written as the text. -/
theorem Name.parse_ok {fullName : Str} {name : Name} :
    Name.parse fullName = .ok name ↔ name.Valid ∧ name.display = fullName := by
  constructor
  · intro parsed
    exact ⟨Name.parse_valid parsed, Name.display_of_parse parsed⟩
  · intro valid
    obtain ⟨valid, rfl⟩ := valid
    exact Name.parse_display valid

/-- The texts of the grammar are those that valid names are written as. -/
theorem isNameText_iff (text : Str) : IsNameText text ↔ ∃ name : Name, name.Valid ∧ name.display = text := by
  constructor
  · intro named
    obtain ⟨absolute, tokens, present, valid, rfl⟩ := named
    have tokensBack : Name.tokens ⟨tokens.getLast present, tokens.dropLast, absolute⟩ = tokens :=
      List.dropLast_append_getLast present
    refine ⟨⟨tokens.getLast present, tokens.dropLast, absolute⟩, ?_, ?_⟩
    · intro token member
      rw [tokensBack] at member
      exact (validToken_iff token).mpr (valid token member)
    · rw [Name.display_eq, tokensBack]
      rfl
  · intro named
    obtain ⟨name, valid, rfl⟩ := named
    exact ⟨name.absolute, name.tokens, name.tokens_ne_nil,
      fun token member => (validToken_iff token).mp (valid token member), Name.display_eq name⟩

theorem parse_grammar_inverse :
    (∀ text : Str, (∃ name, Name.parse text = .ok name) ↔ IsNameText text) ∧
      (∀ (text : Str) (name : Name), Name.parse text = .ok name → name.display = text) ∧
      ∀ name : Name, name.Made → Name.parse name.display = .ok name := by
  refine ⟨?_, ?_, ?_⟩
  · intro text
    rw [isNameText_iff]
    exact exists_congr fun name => Name.parse_ok
  · intro text name parsed
    exact (Name.parse_ok.mp parsed).2
  · intro name made
    exact Name.parse_ok.mpr ⟨Name.made_valid made, rfl⟩

end Ros2Client
