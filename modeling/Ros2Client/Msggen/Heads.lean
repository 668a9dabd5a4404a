import Ros2Client.Msggen.Types

open Parsing

namespace Ros2Client.Msggen

def TypeTooLarge (text : Str) : Prop :=
  (∃ bound, text = "string<=".toList ++ bound ∧ TooLarge bound) ∨
    ∃ base inner, text = base ++ '[' :: inner ∧ BaseText base ('[' :: inner) ∧ ArrayTooLarge inner

/-- The text is that of a constant, and the value is what stands behind its equals sign. -/
inductive ValueText : Str → Str → Prop
  | intro {base array blanks name blanks' blanks'' value : Str} :
      BaseText base (array ++ (blanks ++ (name ++ (blanks' ++ '=' :: (blanks'' ++ value))))) →
      array = [] ∨ ArrayText array → (∀ letter ∈ blanks, isSpace letter = true) → IsWord name →
      (∀ letter ∈ blanks', isSpace letter = true) → (∀ letter ∈ blanks'', isSpace letter = true) →
      Stops isSpace value →
      ValueText (base ++ (array ++ (blanks ++ (name ++ (blanks' ++ '=' :: (blanks'' ++ value)))))) value

section Heads

variable {text value : Str}

theorem typeSpec_eq : typeSpec = (baseType.pair arraySpecifier.opt).map fun parts => ⟨parts.1, parts.2⟩ := rfl

theorem typeSpec_panicked : typeSpec text = .panicked ↔ TypeTooLarge text := by
  rw [typeSpec_eq, Parser.map_eq_panicked, Parser.pair_eq_panicked, baseType_panicked]
  refine or_congr_right ?_
  constructor
  · intro ⟨behind, found, based, failed⟩
    obtain ⟨base, rfl, given⟩ := baseType_eq_done based
    obtain ⟨inner, rfl, large⟩ := arraySpecifier_panicked.mp (Parser.opt_eq_panicked.mp failed)
    exact ⟨base, inner, rfl, given, large⟩
  · rintro ⟨base, inner, rfl, given, large⟩
    obtain ⟨found, based⟩ := given.read
    exact ⟨_, found, based, Parser.opt_eq_panicked.mpr (arraySpecifier_panicked.mpr ⟨inner, rfl, large⟩)⟩

theorem typeSpec_eq_done {rest : Str} {found : TypeName} (read : typeSpec text = .done rest found) :
    ∃ base array, text = base ++ (array ++ rest) ∧ BaseText base (array ++ rest) ∧ (array = [] ∨ ArrayText array) := by
  rw [typeSpec_eq] at read
  obtain ⟨⟨base, array⟩, parts, -⟩ := Parser.map_eq_done.mp read
  obtain ⟨middle, based, behind⟩ := Parser.pair_eq_done.mp parts
  obtain ⟨base, rfl, given⟩ := baseType_eq_done based
  rcases Parser.opt_eq_done behind with rfl | ⟨spec, behind⟩
  · exact ⟨base, [], rfl, given, .inl rfl⟩
  · obtain ⟨array, rfl, given'⟩ := arraySpecifier_eq_done behind
    exact ⟨base, array, rfl, given, .inr given'⟩

theorem typeSpec_read {base array behind : Str} (given : BaseText base (array ++ behind))
    (parts : array = [] ∧ Stops (· = '[') behind ∨ ArrayText array) :
    ∃ found, typeSpec (base ++ (array ++ behind)) = .done behind found := by
  obtain ⟨base, based⟩ := given.read
  rcases parts with ⟨rfl, stops⟩ | given'
  · have single : arraySpecifier behind = .error := Parser.delimited_of_error (satisfy_of_stops stops)
    exact ⟨_, typeSpec_of_done based (Parser.opt_of_error single)⟩
  · obtain ⟨spec, read⟩ := given'.read behind
    exact ⟨_, typeSpec_of_done based (Parser.opt_of_done read)⟩

theorem space0_eq_done {input rest blanks : Str} (read : space0 input = .done rest blanks) :
    input = blanks ++ rest ∧ (∀ letter ∈ blanks, isSpace letter = true) ∧ Stops isSpace rest := by
  cases read
  exact ⟨List.takeWhile_append_dropWhile.symm, fun _ member => List.mem_takeWhile_imp member, stops_dropWhile _ _⟩

theorem constantHead_eq_done {head : TypeName × Str} (read : constantHead text = .done value head) :
    ValueText text value := by
  obtain ⟨_, _, typed, read⟩ := Parser.bind_eq_done.mp read
  obtain ⟨_, _, spaces, read⟩ := Parser.bind_eq_done.mp read
  obtain ⟨_, _, named, read⟩ := Parser.bind_eq_done.mp read
  obtain ⟨_, _, spaces', read⟩ := Parser.bind_eq_done.mp read
  obtain ⟨_, _, equals, read⟩ := Parser.bind_eq_done.mp read
  obtain ⟨_, _, spaces'', read⟩ := Parser.bind_eq_done.mp read
  cases read
  obtain ⟨rfl, blank'', stops⟩ := space0_eq_done spaces''
  obtain ⟨-, rfl⟩ := tag_eq_done equals
  obtain ⟨rfl, blank', -⟩ := space0_eq_done spaces'
  obtain ⟨rfl, word, -⟩ := identifier_eq_done named
  obtain ⟨rfl, blank, -⟩ := space0_eq_done spaces
  obtain ⟨base, array, rfl, given, parts⟩ := typeSpec_eq_done typed
  exact @ValueText.intro base array _ _ _ _ value given parts blank word blank' blank'' stops

/-- The type and the name in front of a text. -/
theorem head_read {base array blanks name behind : Str} (typed : BaseText base (array ++ (blanks ++ (name ++ behind))))
    (parts : array = [] ∨ ArrayText array) (blank : ∀ letter ∈ blanks, isSpace letter = true) (word : IsWord name)
    (stops : Stops isWordChar behind) :
    ∃ typeName, typeSpec (base ++ (array ++ (blanks ++ (name ++ behind)))) =
      .done (blanks ++ (name ++ behind)) typeName ∧
      space0 (blanks ++ (name ++ behind)) = .done (name ++ behind) blanks ∧
      identifier (name ++ behind) = .done behind name := by
  have begins : ∀ {kind : Char → Bool}, (∀ letter, isWordChar letter = true → kind letter = false) →
      Stops kind (name ++ behind) := by
    intro kind other
    obtain ⟨letter, more, rfl⟩ := List.exists_cons_of_ne_nil word.1
    exact .cons (other letter (word.2 letter (by simp))) _
  have single : Stops (· = '[') (blanks ++ (name ++ behind)) := by
    refine stops_blanks blank (by decide) (begins fun letter inside => ?_)
    rw [decide_eq_false_iff_not]
    rintro rfl
    exact absurd inside (by decide)
  obtain ⟨typeName, read⟩ := typeSpec_read typed (parts.imp_left fun none => ⟨none, single⟩)
  exact ⟨typeName, read, takeWhile0_append blank (begins fun _ => not_space_of_word),
    identifier_append word.1 word.2 stops⟩

theorem ValueText.read (given : ValueText text value) : ∃ head, constantHead text = .done value head := by
  obtain ⟨given, parts, blank, word, blank', blank'', stops⟩ := given
  rename_i base array blanks name blanks' blanks''
  obtain ⟨typeName, typed, spaces, named⟩ :=
    head_read given parts blank word (stops_blanks blank' (by decide) (.cons (by decide) _))
  have spaces' : space0 (blanks' ++ '=' :: (blanks'' ++ value)) = .done ('=' :: (blanks'' ++ value)) blanks' :=
    takeWhile0_append blank' (.cons (by decide) _)
  have equals : tag "=".toList ('=' :: (blanks'' ++ value)) = .done (blanks'' ++ value) "=".toList := tag_append ['='] _
  have spaces'' : space0 (blanks'' ++ value) = .done value blanks'' := takeWhile0_append blank'' stops
  refine ⟨(typeName, name), ?_⟩
  rw [constantHead, Parser.bind_of_done typed, Parser.bind_of_done spaces, Parser.bind_of_done named,
    Parser.bind_of_done spaces', Parser.bind_of_done equals, Parser.bind_of_done spaces'']
  rfl

theorem ValueText.suffix (given : ValueText text value) : value <:+ text := by
  obtain ⟨given, parts, blank, word, blank', blank'', stops⟩ := given
  rename_i base array blanks name blanks' blanks''
  exact ⟨base ++ (array ++ (blanks ++ (name ++ (blanks' ++ '=' :: blanks'')))), by simp⟩

end Heads

end Ros2Client.Msggen
