import Ros2Client.Text.Str

namespace Text

/-- The text without what stands behind `//` on a line; `inside` tells whether such a comment has begun. -/
def uncommented : Bool → Str → Str
  | _, [] => []
  | true, letter :: rest => if letter = '\n' then '\n' :: uncommented false rest else uncommented true rest
  | false, '/' :: '/' :: rest => uncommented true rest
  | false, letter :: rest => letter :: uncommented false rest

def commented : Bool → Str → Bool
  | inside, [] => inside
  | true, letter :: rest => commented (letter ≠ '\n') rest
  | false, '/' :: '/' :: rest => commented true rest
  | false, _ :: rest => commented false rest

def stripComments (text : Str) : Str := uncommented false text

inductive Consists : List Str → Str → Prop
  | nil {blanks : Str} : blanks.all Char.isWhitespace = true → Consists [] blanks
  | cons {blanks piece rest : Str} {pieces : List Str} : blanks.all Char.isWhitespace = true → Consists pieces rest →
      Consists (piece :: pieces) (blanks ++ (piece ++ rest))

section Comments

variable {text rest : Str} {inside : Bool}

theorem uncommented_cons {letter : Char} (apart : letter ≠ '/' ∨ text.head? ≠ some '/') :
    uncommented false (letter :: text) = letter :: uncommented false text := by
  apply uncommented.eq_4
  rintro more rfl rfl
  exact apart.elim (absurd rfl) (absurd rfl)

theorem getLast?_of_cons {letter : Char} (ends : (letter :: text).getLast? ≠ some '/') : text.getLast? ≠ some '/' := by
  cases text with
  | nil => simp
  | cons next text => rwa [List.getLast?_cons_cons] at ends

/-- A text and the one behind it have no comment that begins in both of them. -/
theorem uncommented_append (apart : text.getLast? ≠ some '/' ∨ rest.head? ≠ some '/') :
    uncommented inside (text ++ rest) = uncommented inside text ++ uncommented (commented inside text) rest := by
  fun_induction commented inside text with
  | case1 inside => simp [uncommented]
  | case2 letter text ih =>
    have ih := ih (apart.imp_left getLast?_of_cons)
    by_cases ends : letter = '\n'
    · simpa [uncommented, ends] using ih
    · simpa [uncommented, ends] using ih
  | case3 text ih =>
    have ih := ih (apart.imp_left fun ends => getLast?_of_cons (getLast?_of_cons ends))
    simpa [uncommented] using ih
  | case4 letter text other ih =>
    have ih := ih (apart.imp_left getLast?_of_cons)
    have alone : letter ≠ '/' ∨ text.head? ≠ some '/' := by
      rw [or_iff_not_imp_left, not_not]
      intro slash begins
      obtain ⟨more, rfl⟩ := List.head?_eq_some_iff.mp begins
      exact other more slash rfl
    have joined : letter ≠ '/' ∨ (text ++ rest).head? ≠ some '/' := by
      cases text with
      | nil => simpa using apart
      | cons next text => simpa using alone
    rw [List.cons_append, uncommented_cons joined, uncommented_cons alone, ih]
    rfl

theorem uncommented_newline (inside : Bool) (rest : Str) :
    uncommented inside ('\n' :: rest) = '\n' :: uncommented false rest := by
  cases inside
  · exact uncommented_cons (.inl (by decide))
  · rfl

theorem uncommented_true (plain : '\n' ∉ text) (rest : Str) :
    uncommented true (text ++ '\n' :: rest) = '\n' :: uncommented false rest := by
  induction text with
  | nil => rfl
  | cons letter text ih =>
    rw [List.mem_cons, not_or] at plain
    rw [List.cons_append, uncommented, if_neg (Ne.symm plain.1), ih plain.2]

theorem uncommented_inside (plain : '\n' ∉ text) : uncommented true text = [] := by
  induction text with
  | nil => rfl
  | cons letter text ih =>
    rw [List.mem_cons, not_or] at plain
    rw [uncommented, if_neg (Ne.symm plain.1), ih plain.2]

theorem uncommented_comment (inside : Bool) (plain : '\n' ∉ text) (rest : Str) :
    uncommented inside ("//".toList ++ (text ++ '\n' :: rest)) = '\n' :: uncommented false rest := by
  cases inside
  · exact uncommented_true plain rest
  · have within : '\n' ∉ "//".toList ++ text := by simp [plain]
    rw [← List.append_assoc]
    exact uncommented_true within rest

theorem stripComments_plain (plain : '/' ∉ text) : stripComments text = text := by
  induction text with
  | nil => rfl
  | cons letter text ih =>
    rw [List.mem_cons, not_or] at plain
    rw [stripComments, uncommented_cons (.inl (Ne.symm plain.1)), ← stripComments, ih plain.2]

theorem slashes_cons {letter : Char} (other : letter ≠ '/') :
    "//".toList <:+: letter :: text ↔ "//".toList <:+: text := by
  rw [List.infix_cons_iff]
  constructor
  · intro found
    rcases found with begins | inside
    · exact absurd (List.cons_prefix_cons.mp begins).1.symm other
    · exact inside
  · exact .inr

theorem slashes_append (rest : Str) (plain : '/' ∉ text) : "//".toList <:+: text ++ rest ↔ "//".toList <:+: rest := by
  induction text with
  | nil => rfl
  | cons letter text ih =>
    rw [List.mem_cons, not_or] at plain
    rw [List.cons_append, slashes_cons (Ne.symm plain.1), ih plain.2]

theorem slashes_append_right (plain : '/' ∉ rest) : "//".toList <:+: text ++ rest ↔ "//".toList <:+: text := by
  have turned : ∀ text : Str, "//".toList <:+: text ↔ "//".toList <:+: text.reverse := fun text =>
    (List.reverse_infix : "//".toList.reverse <:+: text.reverse ↔ _).symm
  rw [turned, List.reverse_append, slashes_append text.reverse (by simpa using plain), ← turned]

theorem stripComments_unmarked (unmarked : ¬"//".toList <:+: text) : stripComments text = text := by
  induction text with
  | nil => rfl
  | cons letter text ih =>
    rw [List.infix_cons_iff, not_or] at unmarked
    rw [stripComments, uncommented_cons, ← stripComments, ih unmarked.2]
    rw [or_iff_not_imp_left, not_not]
    rintro rfl begins
    obtain ⟨more, rfl⟩ := List.head?_eq_some_iff.mp begins
    exact unmarked.1 ⟨more, rfl⟩

theorem uncommented_sublist (inside : Bool) (text : Str) : (uncommented inside text).Sublist text := by
  fun_induction uncommented inside text with
  | case1 => exact .slnil
  | case2 rest ih => exact ih.cons_cons _
  | case3 letter rest _ ih => exact ih.cons _
  | case4 rest ih => exact (ih.cons _).cons _
  | case5 letter rest _ ih => exact ih.cons_cons _

end Comments

section Pieces

variable {text rest blanks : Str} {pieces others : List Str}

theorem Consists.blanks_append (blank : blanks.all Char.isWhitespace = true) (given : Consists pieces text) :
    Consists pieces (blanks ++ text) := by
  cases given with
  | nil blank' =>
    apply Consists.nil
    rw [List.all_append, blank, blank']
    rfl
  | cons blank' further =>
    rw [← List.append_assoc]
    refine .cons ?_ further
    rw [List.all_append, blank, blank']
    rfl

theorem Consists.append (first : Consists pieces text) (second : Consists others rest) :
    Consists (pieces ++ others) (text ++ rest) := by
  induction first with
  | nil blank => exact second.blanks_append blank
  | cons blank _ ih =>
    rw [List.append_assoc, List.append_assoc]
    exact .cons blank ih

theorem filter_blanks (blank : blanks.all Char.isWhitespace = true) : blanks.filter (!·.isWhitespace) = [] := by
  rw [List.filter_eq_nil_iff]
  intro letter member
  simp [List.all_eq_true.mp blank letter member]

/-- Apart from white space, the letters are those of the pieces. -/
theorem Consists.letters (given : Consists pieces text) :
    text.filter (!·.isWhitespace) = pieces.flatten.filter (!·.isWhitespace) := by
  induction given with
  | nil blank => exact filter_blanks blank
  | cons blank _ ih =>
    rw [List.filter_append, List.filter_append, filter_blanks blank, ih, List.flatten_cons, List.filter_append,
      List.nil_append]

def visible (text : Str) : Nat := text.countP (!·.isWhitespace)

theorem visible_append (text rest : Str) : visible (text ++ rest) = visible text + visible rest := List.countP_append

theorem Consists.visible (given : Consists pieces text) : visible text = visible pieces.flatten := by
  unfold Text.visible
  rw [List.countP_eq_length_filter, List.countP_eq_length_filter, given.letters]

/-- A comment takes at least its two slashes out of the text. -/
theorem visible_stripComments (marked : "//".toList <:+: text) : visible (stripComments text) < visible text := by
  rw [stripComments]
  generalize outside : false = inside
  fun_induction uncommented inside text with
  | case1 => exact absurd (List.infix_nil.mp marked) (by decide)
  | case2 => cases outside
  | case3 => cases outside
  | case4 rest =>
    have fewer : visible (uncommented true rest) ≤ visible rest := (uncommented_sublist true rest).countP_le
    have slashes : visible ('/' :: '/' :: rest) = visible ['/', '/'] + visible rest := visible_append ['/', '/'] rest
    have two : visible ['/', '/'] = 2 := by decide
    omega
  | case5 letter rest other ih =>
    have behind : "//".toList <:+: rest := by
      rcases List.infix_cons_iff.mp marked with begins | inside
      · obtain ⟨more, same⟩ := begins
        cases same
        exact absurd rfl (other more rfl)
      · exact inside
    have fewer := ih behind rfl
    have before : visible (letter :: uncommented false rest) = visible [letter] + visible (uncommented false rest) :=
      visible_append [letter] _
    have whole : visible (letter :: rest) = visible [letter] + visible rest := visible_append [letter] rest
    omega

end Pieces

/-- Whatever stands behind it, the text gives these pieces once the comments are stripped. -/
def Writes (text : Str) (pieces : List Str) : Prop :=
  ∀ rest others, Consists others (stripComments rest) → Consists (pieces ++ others) (stripComments (text ++ rest))

section Writing

variable {text text' body comment : Str} {pieces others : List Str}

theorem Writes.nil : Writes [] [] := fun _ _ given => given

theorem Writes.append (first : Writes text pieces) (second : Writes text' others) :
    Writes (text ++ text') (pieces ++ others) := by
  intro rest further given
  rw [List.append_assoc, List.append_assoc]
  exact first _ _ (second _ _ given)

theorem Writes.consists (given : Writes text pieces) : Consists pieces (stripComments text) := by
  have whole := given [] [] (.nil rfl)
  rwa [List.append_nil, List.append_nil] at whole

theorem writes_of_ends (given : Consists pieces (stripComments body))
    (ends : ∀ rest, stripComments (body ++ (comment ++ rest)) = stripComments body ++ '\n' :: stripComments rest) :
    Writes (body ++ comment) pieces := by
  intro rest further behind
  rw [List.append_assoc, ends]
  exact given.append (behind.blanks_append (by decide : ['\n'].all Char.isWhitespace = true))

/-- A line without a comment of its own at its end. -/
theorem writes_newline (given : Consists pieces (stripComments body)) : Writes (body ++ ['\n']) pieces := by
  apply writes_of_ends given
  intro rest
  rw [stripComments, uncommented_append (.inr (by simp)), List.singleton_append, uncommented_newline]
  rfl

theorem writes_comment (given : Consists pieces (stripComments body)) (ends : body.getLast? ≠ some '/')
    (plain : '\n' ∉ comment) : Writes (body ++ ("//".toList ++ comment ++ ['\n'])) pieces := by
  apply writes_of_ends given
  intro rest
  rw [stripComments, uncommented_append (.inl ends), List.append_assoc, List.append_assoc, List.singleton_append,
    uncommented_comment _ plain]
  rfl

end Writing

/-- The pieces of a text are the expected ones if a condition holds, and else they show fewer letters. -/
structure WritesIf (fine : Prop) (text : Str) (expected : List Str) : Prop where
  whole : fine → Writes text expected
  fewer : ¬fine → ∃ pieces, Writes text pieces ∧ visible pieces.flatten < visible expected.flatten

section Expected

variable {fine fine' : Prop} {text text' : Str} {expected expected' : List Str}

theorem Writes.writesIf (given : Writes text expected) : WritesIf True text expected :=
  ⟨fun _ => given, fun wrong => absurd trivial wrong⟩

theorem WritesIf.le (given : WritesIf fine text expected) :
    ∃ pieces, Writes text pieces ∧ visible pieces.flatten ≤ visible expected.flatten := by
  by_cases holds : fine
  · exact ⟨expected, given.whole holds, le_rfl⟩
  · obtain ⟨pieces, written, fewer⟩ := given.fewer holds
    exact ⟨pieces, written, fewer.le⟩

theorem WritesIf.append (first : WritesIf fine text expected) (second : WritesIf fine' text' expected') :
    WritesIf (fine ∧ fine') (text ++ text') (expected ++ expected') := by
  constructor
  · intro holds
    exact (first.whole holds.1).append (second.whole holds.2)
  · intro wrong
    rw [List.flatten_append, visible_append]
    by_cases holds : fine
    · obtain ⟨pieces', written', fewer⟩ := second.fewer fun holds' => wrong ⟨holds, holds'⟩
      refine ⟨_, (first.whole holds).append written', ?_⟩
      rw [List.flatten_append, visible_append]
      omega
    · obtain ⟨pieces, written, fewer⟩ := first.fewer holds
      obtain ⟨pieces', written', most⟩ := second.le
      refine ⟨_, written.append written', ?_⟩
      rw [List.flatten_append, visible_append]
      omega

/-- The expected pieces may stand in another order where the condition fails. -/
theorem WritesIf.moved (given : WritesIf fine text expected) (same : fine → expected = expected')
    (count : visible expected.flatten = visible expected'.flatten) : WritesIf fine text expected' := by
  constructor
  · intro holds
    rw [← same holds]
    exact given.whole holds
  · rw [← count]
    exact given.fewer

theorem WritesIf.congr (given : WritesIf fine text expected) (same : fine ↔ fine') : WritesIf fine' text expected :=
  propext same ▸ given

theorem WritesIf.consists_iff (given : WritesIf fine text expected) :
    Consists expected (stripComments text) ↔ fine := by
  constructor
  · intro consists
    by_contra wrong
    obtain ⟨pieces, written, fewer⟩ := given.fewer wrong
    rw [← written.consists.visible, ← consists.visible] at fewer
    exact lt_irrefl _ fewer
  · intro holds
    exact (given.whole holds).consists

end Expected

end Text
