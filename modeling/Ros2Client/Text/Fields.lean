import Ros2Client.Text.Str

namespace Text

variable {α : Type} [DecidableEq α]

def splitOnce (separator : α) : List α → Option (List α × List α)
  | [] => none
  | item :: rest =>
    if item = separator then some ([], rest)
    else (splitOnce separator rest).map fun (before, after) => (item :: before, after)

/-- At most `limit` parts; the last one is the rest of the text, with the separators in it. -/
def splitN (separator : α) : Nat → List α → List (List α)
  | 0, _ => []
  | 1, text => [text]
  | limit + 2, text =>
    match splitOnce separator text with
    | some (before, after) => before :: splitN separator (limit + 1) after
    | none => [text]

theorem splitOnce_append {separator : α} {before : List α} (absent : separator ∉ before) (after : List α) :
    splitOnce separator (before ++ separator :: after) = some (before, after) := by
  induction before with
  | nil => simp [splitOnce]
  | cons item before ih =>
    rw [List.mem_cons, not_or] at absent
    rw [List.cons_append, splitOnce, if_neg (Ne.symm absent.1), ih absent.2]
    rfl

theorem splitN_append {separator : α} {before : List α} (absent : separator ∉ before) (limit : Nat)
    (after : List α) :
    splitN separator (limit + 2) (before ++ separator :: after) = before :: splitN separator (limit + 1) after := by
  rw [splitN, splitOnce_append absent]

theorem rsplitOnce_of_not_mem {separator : α} {text : List α} (absent : separator ∉ text) :
    rsplitOnce separator text = none := by
  induction text with
  | nil => rfl
  | cons item rest ih =>
    rw [List.mem_cons, not_or] at absent
    rw [rsplitOnce, ih absent.2, if_neg (Ne.symm absent.1)]

theorem rsplitOnce_append {separator : α} (before : List α) {after : List α} (absent : separator ∉ after) :
    rsplitOnce separator (before ++ separator :: after) = some (before, after) := by
  induction before with
  | nil => rw [List.nil_append, rsplitOnce, rsplitOnce_of_not_mem absent, if_pos rfl]
  | cons item before ih => rw [List.cons_append, rsplitOnce, ih]

theorem eq_of_rsplitOnce {separator : α} {text before after : List α}
    (halves : rsplitOnce separator text = some (before, after)) : text = before ++ separator :: after := by
  induction text generalizing before with
  | nil => cases halves
  | cons item rest ih =>
    rw [rsplitOnce] at halves
    split at halves
    · rename_i found
      cases halves
      rw [ih found, List.cons_append]
    · split at halves
      · rename_i same
        cases halves
        rw [same, List.nil_append]
      · cases halves

def parseUnsigned (bits : Nat) (text : Str) : Option Nat := (parseDecimal text).filter (· < 2 ^ bits)

theorem parseUnsigned_bound {bits number : Nat} {text : Str} (parsed : parseUnsigned bits text = some number) :
    number < 2 ^ bits := by
  simpa using (Option.filter_eq_some_iff.mp parsed).2

theorem parseUnsigned_nil (bits : Nat) : parseUnsigned bits [] = none := rfl

structure Numeral (limit : Nat) where
  digits : Str
  present : digits ≠ []
  isDigit : digits.all Char.isDigit = true
  bound : Nat.ofDigitChars 10 digits 0 < limit

namespace Numeral

variable {limit : Nat}

def value (numeral : Numeral limit) : Nat := Nat.ofDigitChars 10 numeral.digits 0

theorem value_lt (numeral : Numeral limit) : numeral.value < limit := numeral.bound

theorem not_mem_digits (numeral : Numeral limit) {char : Char} (other : char.isDigit = false) :
    char ∉ numeral.digits := by
  intro member
  have digit := List.all_eq_true.mp numeral.isDigit char member
  simp [digit] at other

theorem parseDecimal_digits (numeral : Numeral limit) : parseDecimal numeral.digits = some numeral.value := by
  have unsigned : numeral.digits.head? ≠ some '+' := by
    intro signed
    exact numeral.not_mem_digits rfl (List.mem_of_head? signed)
  simp [parseDecimal, unsigned, numeral.present, numeral.isDigit, value]

theorem parseUnsigned_digits (numeral : Numeral limit) {bits : Nat} (fits : limit ≤ 2 ^ bits) :
    parseUnsigned bits numeral.digits = some numeral.value := by
  have below : numeral.value < 2 ^ bits := lt_of_lt_of_le numeral.value_lt fits
  simp [parseUnsigned, parseDecimal_digits, below]

def ofNat (number : Nat) (fits : number < limit) : Numeral limit where
  digits := decimal number
  present := Nat.toDigits_ne_nil
  isDigit := by
    rw [List.all_eq_true]
    exact fun char member => decimal_isDigit member
  bound := by
    have value : Nat.ofDigitChars 10 (decimal number) 0 = number := Nat.ofDigitChars_ten_toDigits
    rw [value]
    exact fits

theorem value_ofNat (number : Nat) (fits : number < limit) : (ofNat number fits).value = number :=
  Nat.ofDigitChars_ten_toDigits

end Numeral

end Text
