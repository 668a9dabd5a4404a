import Ros2Client.Text.Str

namespace Text

variable {α β γ σ : Type}

/-- The text of a value fixes the value, up to `view`, and where the text ends, whatever follows it. -/
def Determines (write : α → List σ) (view : α → β) : Prop :=
  ∀ first second rest rest', write first ++ rest = write second ++ rest' → view first = view second ∧ rest = rest'

namespace Determines

variable {write : α → List σ} {view : α → β}

theorem comp (writes : Determines write view) (part : γ → α) :
    Determines (fun item => write (part item)) (fun item => view (part item)) := by
  intro first second rest rest' same
  exact writes (part first) (part second) rest rest' same

theorem after (literal : List σ) (writes : Determines write view) :
    Determines (fun item => literal ++ write item) view := by
  intro first second rest rest' same
  rw [List.append_assoc, List.append_assoc] at same
  exact writes first second rest rest' (List.append_cancel_left same)

theorem before (literal : List σ) (writes : Determines write view) :
    Determines (fun item => write item ++ literal) view := by
  intro first second rest rest' same
  rw [List.append_assoc, List.append_assoc] at same
  obtain ⟨views, rests⟩ := writes first second _ _ same
  exact ⟨views, List.append_cancel_left rests⟩

theorem append {write' : α → List σ} {view' : α → γ} (writes : Determines write view)
    (writes' : Determines write' view') :
    Determines (fun item => write item ++ write' item) (fun item => (view item, view' item)) := by
  intro first second rest rest' same
  rw [List.append_assoc, List.append_assoc] at same
  obtain ⟨views, rests⟩ := writes first second _ _ same
  obtain ⟨views', rests'⟩ := writes' first second rest rest' rests
  exact ⟨Prod.ext views views', rests'⟩

theorem write_inj (writes : Determines write view) {first second : α} (same : write first = write second) :
    view first = view second :=
  (writes first second [] [] (by rw [same])).1

/-- A literal ends the texts if they do not contain the mark it begins with. -/
theorem terminated [DecidableEq σ] {mark : σ} {literal : List σ} (begins : literal.head? = some mark)
    (absent : ∀ item, mark ∉ write item) (inj : ∀ first second, write first = write second → view first = view second) :
    Determines (fun item => write item ++ literal) view := by
  obtain ⟨tail, rfl⟩ := List.head?_eq_some_iff.mp begins
  intro first second rest rest' same
  rw [List.append_assoc, List.append_assoc] at same
  obtain ⟨texts, rests⟩ := (append_cons_inj_left (absent first) (absent second)).mp same
  exact ⟨inj first second texts, List.append_cancel_left rests⟩

/-- The end of a list is told from a value by its mark, so two lists with the same text go on or end together. -/
theorem list_step (writes : Determines write view) (text next : List α → List σ) {mark : σ} {ending : List σ}
    (ends : text [] = mark :: ending) (goes : ∀ item items, text (item :: items) = write item ++ next items)
    (begins : ∀ item, ∃ head tail, write item = head :: tail ∧ head ≠ mark) {first second : List α}
    {rest rest' : List σ}
    (later : ∀ item items, first = item :: items → ∀ items', next items ++ rest = next items' ++ rest' →
      items.map view = items'.map view ∧ rest = rest')
    (same : text first ++ rest = text second ++ rest') : first.map view = second.map view ∧ rest = rest' := by
  cases first with
  | nil =>
    cases second with
    | nil => exact ⟨rfl, List.append_cancel_left same⟩
    | cons item items =>
      obtain ⟨head, tail, shape, other⟩ := begins item
      rw [ends, goes, shape] at same
      injection same with mark
      exact absurd mark.symm other
  | cons item items =>
    cases second with
    | nil =>
      obtain ⟨head, tail, shape, other⟩ := begins item
      rw [ends, goes, shape] at same
      injection same with mark
      exact absurd mark other
    | cons item' items' =>
      rw [goes, goes, List.append_assoc, List.append_assoc] at same
      obtain ⟨views, tails⟩ := writes item item' _ _ same
      obtain ⟨views', rests⟩ := later item items rfl items' tails
      exact ⟨List.cons_eq_cons.mpr ⟨views, views'⟩, rests⟩

/-- A run of values ends at a literal that none of their texts begins like. -/
theorem run (writes : Determines write view) {mark : σ} {close : List σ} (closes : close.head? = some mark)
    (begins : ∀ item, ∃ head tail, write item = head :: tail ∧ head ≠ mark) :
    Determines (fun items : List α => items.flatMap write ++ close) (fun items => items.map view) := by
  obtain ⟨ending, rfl⟩ := List.head?_eq_some_iff.mp closes
  let text : List α → List σ := fun items => items.flatMap write ++ mark :: ending
  have goes : ∀ item items, text (item :: items) = write item ++ text items := by simp [text]
  intro first second rest rest' same
  induction first generalizing second with
  | nil => exact writes.list_step text text rfl goes begins (by simp) same
  | cons item items ih =>
    refine writes.list_step text text rfl goes begins ?_ same
    rintro _ _ ⟨⟩ items' same'
    exact ih items' same'

theorem intercalate_cons_eq (separator : List σ) (item : α) (items : List α) :
    separator.intercalate ((item :: items).map write) =
      write item ++ items.flatMap fun item => separator ++ write item := by
  induction items generalizing item with
  | nil => simp
  | cons next items ih =>
    rw [List.map_cons, List.map_cons, List.intercalate_cons_cons, ← List.map_cons, ih next, List.flatMap_cons]
    simp only [List.append_assoc]

/-- A list with a separator in front of every value but the first. -/
theorem separated (writes : Determines write view) {comma mark : σ} {separator close : List σ}
    (opens : separator.head? = some comma) (closes : close.head? = some mark) (other : comma ≠ mark)
    (begins : ∀ item, ∃ head tail, write item = head :: tail ∧ head ≠ mark) :
    Determines (fun items : List α => separator.intercalate (items.map write) ++ close)
      (fun items => items.map view) := by
  obtain ⟨space, shape⟩ := List.head?_eq_some_iff.mp opens
  have later := (writes.after separator).run closes fun item => ⟨comma, space ++ write item, by rw [shape]; rfl, other⟩
  obtain ⟨ending, rfl⟩ := List.head?_eq_some_iff.mp closes
  let text : List α → List σ := fun items => separator.intercalate (items.map write) ++ mark :: ending
  let next : List α → List σ := fun items => (items.flatMap fun item => separator ++ write item) ++ mark :: ending
  have ends : text [] = mark :: ending := by simp [text]
  have goes : ∀ item items, text (item :: items) = write item ++ next items := by
    intro item items
    simp only [text, next, intercalate_cons_eq, List.append_assoc]
  intro first second rest rest' same
  refine writes.list_step text next ends goes begins ?_ same
  intro _ items _ items' same'
  exact later items items' rest rest' same'

end Determines

end Text
