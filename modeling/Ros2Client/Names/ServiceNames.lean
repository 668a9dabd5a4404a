import Mathlib.Data.List.Chain
import Ros2Client.Names.Parsing

open Text

namespace Ros2Client

def parameterServices : List Str :=
  ["get_parameters".toList, "get_parameter_types".toList, "set_parameters".toList,
    "set_parameters_atomically".toList, "list_parameters".toList, "describe_parameters".toList]

def paramServiceName (nodeFqn base : Str) : Except NameError Name := Name.new nodeFqn base

/-- Two underscores or two slashes do not stand in a row, and a digit does not come right after a slash. -/
def MayFollow (first second : Char) : Prop :=
  ¬ (first = '_' ∧ second = '_') ∧ ¬ (first = '/' ∧ (second = '/' ∨ second.isDigit = true))

instance (first second : Char) : Decidable (MayFollow first second) := inferInstanceAs (Decidable (_ ∧ _))

theorem isNameChar_ne_slash {char : Char} (named : isNameChar char = true) : char ≠ '/' := by
  intro same
  rw [same] at named
  exact absurd named (by decide)

theorem isAlpha_of_isDigit {char : Char} (digit : char.isDigit = true) : char.isAlpha = false := by
  simp only [Char.isDigit, Bool.and_eq_true, decide_eq_true_eq, ge_iff_le, UInt32.le_iff_toNat_le] at digit
  delta Char.isAlpha Char.isUpper Char.isLower
  simp only [Bool.or_eq_false_iff, Bool.and_eq_false_iff, decide_eq_false_iff_not, ge_iff_le, UInt32.le_iff_toNat_le]
  have nine : '9'.val.toNat = 57 := rfl
  have upper : 'A'.val.toNat = 65 := rfl
  have lower : 'a'.val.toNat = 97 := rfl
  omega

/-- A token may start with whatever may come after a slash. -/
theorem okStartChar_iff {char : Char} (named : isNameChar char = true) :
    okStartChar char = true ↔ MayFollow '/' char := by
  have other := isNameChar_ne_slash named
  have numeric : okStartChar char = true ↔ char.isDigit = false := by
    simp only [isNameChar, Char.isAlphanum, Bool.or_eq_true, decide_eq_true_eq] at named
    simp only [okStartChar, Bool.or_eq_true, decide_eq_true_eq]
    constructor
    · intro starts
      rw [← Bool.not_eq_true]
      intro digit
      rcases starts with alpha | underscore
      · simp [isAlpha_of_isDigit digit] at alpha
      · rw [underscore] at digit
        exact absurd digit (by decide)
    · intro digit
      simpa [digit] using named
  rw [numeric]
  simp [MayFollow, other]

theorem isChain_of_name {token : Str} (chars : ∀ char ∈ token, isNameChar char = true) :
    token.IsChain MayFollow ↔ ¬ ['_', '_'] <:+: token := by
  rw [List.isChain_iff_forall_rel_of_append_cons_cons]
  constructor
  · intro follows doubled
    obtain ⟨front, back, rfl⟩ := doubled
    have follow := follows (show front ++ ['_', '_'] ++ back = front ++ '_' :: '_' :: back by simp)
    exact follow.1 ⟨rfl, rfl⟩
  · intro single first second front back split
    refine ⟨?_, ?_⟩
    · intro doubled
      obtain ⟨rfl, rfl⟩ := doubled
      exact single ⟨front, back, by simp [split]⟩
    · intro slashed
      exact isNameChar_ne_slash (chars first (by simp [split])) slashed.1

theorem validToken_iff_isChain {token : Str} (chars : ∀ char ∈ token, isNameChar char = true) :
    validToken token = true ↔ token ≠ [] ∧ ('/' :: token).IsChain MayFollow := by
  cases token with
  | nil => simp [validToken]
  | cons first rest =>
    have named := chars first (by simp)
    have start := okStartChar_iff named
    have all : (first :: rest).all isNameChar = true := List.all_eq_true.mpr chars
    have single : noMultiUnderscore (first :: rest) = true ↔ ¬ ['_', '_'] <:+: first :: rest := by
      simp [noMultiUnderscore]
    rw [List.isChain_cons_cons, isChain_of_name chars, ← start, ← single]
    simp [validToken, all]

theorem tokens_valid_iff {tokens : List Str} (chars : ∀ token ∈ tokens, ∀ char ∈ token, isNameChar char = true)
    (closed : [] ∉ tokens.getLast?) :
    (∀ token ∈ tokens, validToken token = true) ↔ (tokens.flatMap ('/' :: ·)).IsChain MayFollow := by
  induction tokens with
  | nil => simp
  | cons token tokens ih =>
    have tokenChars := chars token (by simp)
    have joint : (∀ last ∈ ('/' :: token).getLast?, ∀ head ∈ (tokens.flatMap ('/' :: ·)).head?, MayFollow last head) ↔
        (tokens ≠ [] → token ≠ []) := by
      cases tokens with
      | nil => simp
      | cons next tokens =>
        cases token with
        | nil => simp [MayFollow]
        | cons first rest =>
          have named := tokenChars _ (List.getLast_mem (List.cons_ne_nil first rest))
          simp [List.getLast?_eq_some_getLast, MayFollow, isNameChar_ne_slash named]
    rw [List.flatMap_cons, List.isChain_append, joint, List.forall_mem_cons, validToken_iff_isChain tokenChars]
    cases tokens with
    | nil =>
      have filled : token ≠ [] := by simpa using closed
      simp [filled]
    | cons next tokens =>
      rw [ih (fun later member => chars later (by simp [member])) (by simpa using closed)]
      simp only [ne_eq, reduceCtorEq, not_false_eq_true, true_implies]
      tauto

theorem flatMap_slash {tokens : List Str} (present : tokens ≠ []) :
    tokens.flatMap ('/' :: ·) = '/' :: ['/'].intercalate tokens := by
  induction tokens with
  | nil => exact absurd rfl present
  | cons token tokens ih =>
    cases tokens with
    | nil => simp
    | cons next tokens =>
      rw [List.flatMap_cons, ih (by simp), List.intercalate_cons_cons]
      simp

def NodeName.tokens (node : NodeName) : List Str := namespaceTokens node.nodeNamespace ++ [node.baseName]

theorem NodeName.fullyQualifiedName_eq (node : NodeName) :
    node.fullyQualifiedName = node.tokens.flatMap ('/' :: ·) := by
  have rooted := node.namespace_eq
  obtain ⟨_, _, _, _, closed⟩ := NodeName.check_ok node.checked
  unfold fullyQualifiedName tokens
  by_cases root : namespaceRel node.nodeNamespace = []
  · have slash : node.nodeNamespace = ['/'] := by rw [rooted, root]
    simp [slash, namespaceTokens, namespaceRel]
  · have unclosed : node.nodeNamespace.getLast? ≠ some '/' := by
      intro ends
      have slash := closed ends
      rw [slash] at root
      exact root rfl
    have joined : node.nodeNamespace = (namespaceTokens node.nodeNamespace).flatMap ('/' :: ·) := by
      rw [namespaceTokens, if_neg root, flatMap_slash (List.splitOn_ne_nil _ _), List.intercalate_splitOn]
      exact rooted
    rw [if_neg unclosed, List.flatMap_append, ← joined]
    simp

theorem NodeName.tokens_chars (node : NodeName) : ∀ token ∈ node.tokens, ∀ char ∈ token, isNameChar char = true := by
  obtain ⟨_, baseChars, _, namespaceChars, _⟩ := NodeName.check_ok node.checked
  intro token member char inside
  rcases List.mem_append.mp member with earlier | last
  · unfold namespaceTokens at earlier
    split at earlier
    · cases earlier
    · have single := not_mem_of_mem_splitOn earlier
      have outer : char ∈ node.nodeNamespace := by
        rw [node.namespace_eq]
        exact List.mem_cons_of_mem _ (mem_of_mem_splitOn earlier inside)
      rcases namespaceChars char outer with named | slash
      · exact named
      · exact absurd (slash ▸ inside) single
  · rw [List.mem_singleton.mp last] at inside
    exact baseChars char inside

theorem NodeName.namespaceTokens_fqn (node : NodeName) : namespaceTokens node.fullyQualifiedName = node.tokens := by
  have present : node.tokens ≠ [] := by simp [tokens]
  have joined : ['/'].intercalate node.tokens ≠ [] := by
    intro empty
    have whole := flatMap_slash present
    have filled := (NodeName.check_ok node.checked).1
    rw [empty, tokens, List.flatMap_append] at whole
    simp [List.append_eq_singleton_iff, filled] at whole
  have rel : namespaceRel node.fullyQualifiedName = ['/'].intercalate node.tokens := by
    rw [fullyQualifiedName_eq, flatMap_slash present]
    rfl
  rw [namespaceTokens, rel, if_neg joined]
  refine List.splitOn_intercalate '/' ?_ present
  intro token member slash
  exact isNameChar_ne_slash (node.tokens_chars token member '/' slash) rfl

theorem parameterServices_valid : ∀ base ∈ parameterServices, validToken base = true := by decide

theorem paramServiceName_ok (node : NodeName) {base : Str} (known : base ∈ parameterServices) :
    (∃ name, paramServiceName node.fullyQualifiedName base = .ok name) ↔
      ∀ token ∈ node.tokens, validToken token = true := by
  have valid := parameterServices_valid base known
  simp [paramServiceName, Name.new_ok, valid, node.namespaceTokens_fqn]

/-- The names of all the parameter services of a node can be made if and only if each character of
its fully qualified name may follow the one before it. -/
theorem parameter_service_names_iff (node : NodeName) :
    (∀ base ∈ parameterServices, ∃ name, paramServiceName node.fullyQualifiedName base = .ok name) ↔
      node.fullyQualifiedName.IsChain MayFollow := by
  have filled := (NodeName.check_ok node.checked).1
  rw [node.fullyQualifiedName_eq, ← tokens_valid_iff node.tokens_chars (by simpa [NodeName.tokens] using filled.symm),
    ← node.fullyQualifiedName_eq]
  constructor
  · intro named
    exact (paramServiceName_ok node (by decide)).mp (named "get_parameters".toList (by decide))
  · intro valid base known
    exact (paramServiceName_ok node known).mpr valid

theorem parameter_service_name_refused :
    NodeName.new "/".toList "a__b".toList = .ok ⟨"/".toList, "a__b".toList, by decide⟩ ∧
      ¬ ∀ node : NodeName, ∀ base ∈ parameterServices,
        ∃ name, paramServiceName node.fullyQualifiedName base = .ok name := by
  refine ⟨by decide, ?_⟩
  intro named
  have valid := (paramServiceName_ok ⟨"/".toList, "a__b".toList, by decide⟩ (by decide)).mp
    (named _ "get_parameters".toList (by decide))
  exact absurd (valid "a__b".toList (by decide)) (by decide)

end Ros2Client
