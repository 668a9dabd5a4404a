import Ros2Client.Text.Str

namespace Ros2Client

inductive NameError
  | empty
  | badChar (char : Char)
  | badSlash (namespaceText baseName : Str)
deriving DecidableEq

def isNameChar (char : Char) : Bool := char.isAlphanum || char = '_'

def okStartChar (char : Char) : Bool := char.isAlpha || char = '_'

def noMultiUnderscore (text : Str) : Bool := !decide ("__".toList <:+: text)

def NodeName.check (nodeNamespace baseName : Str) : Except NameError Unit :=
  match baseName.head? with
  | none => .error .empty
  | some first =>
    if !okStartChar first then .error (.badChar first) else
    match baseName.find? (!isNameChar ·) with
    | some bad => .error (.badChar bad)
    | none =>
      match nodeNamespace.head? with
      | none => .error (.badSlash "<empty_namespace>".toList baseName)
      | some first =>
        if !(first.isAlpha || first = '/') then .error (.badChar first) else
        if first ≠ '/' then .error (.badSlash nodeNamespace baseName) else
        match nodeNamespace.find? (fun char => !(isNameChar char || char = '/')) with
        | some bad => .error (.badChar bad)
        | none =>
          if nodeNamespace.getLast? = some '/' && nodeNamespace ≠ "/".toList then
            .error (.badSlash nodeNamespace baseName)
          else .ok ()

/-- A node name; only `NodeName::new` makes one. -/
structure NodeName where
  nodeNamespace : Str
  baseName : Str
  checked : NodeName.check nodeNamespace baseName = .ok ()
deriving DecidableEq

theorem NodeName.check_talker : NodeName.check "/".toList "talker".toList = .ok () := rfl

def NodeName.new (nodeNamespace baseName : Str) : Except NameError NodeName :=
  match checked : NodeName.check nodeNamespace baseName with
  | .ok () => .ok ⟨nodeNamespace, baseName, checked⟩
  | .error error => .error error

def NodeName.fullyQualifiedName (node : NodeName) : Str :=
  (if node.nodeNamespace.getLast? = some '/' then node.nodeNamespace else node.nodeNamespace ++ "/".toList) ++
    node.baseName

theorem NodeName.check_ok {nodeNamespace baseName : Str} (checked : NodeName.check nodeNamespace baseName = .ok ()) :
    baseName ≠ [] ∧ (∀ char ∈ baseName, isNameChar char = true) ∧ nodeNamespace.head? = some '/' ∧
      (∀ char ∈ nodeNamespace, isNameChar char = true ∨ char = '/') ∧
      (nodeNamespace.getLast? = some '/' → nodeNamespace = "/".toList) := by
  unfold NodeName.check at checked
  repeat' split at checked
  all_goals first | (cases checked; done) | skip
  rename_i started _ _ noBad _ _ headed _ slashed _ noBadSlash closed
  refine ⟨?_, ?_, ?_, ?_, ?_⟩
  · intro same
    subst same
    cases started
  · intro char member
    simpa using List.find?_eq_none.mp noBad char member
  · rw [headed, not_not.mp slashed]
  · intro char member
    simpa [or_iff_not_imp_left] using List.find?_eq_none.mp noBadSlash char member
  · simpa using closed

structure Name where
  baseName : Str
  preceedingTokens : List Str
  absolute : Bool
deriving DecidableEq

def validToken (token : Str) : Bool :=
  token.all isNameChar && token.head?.any okStartChar && noMultiUnderscore token

def namespaceRel (namespaceText : Str) : Str :=
  if namespaceText.head? = some '/' then namespaceText.tail else namespaceText

/-- The tokens of a namespace. Slashes at an end or next to each other give empty ones. -/
def namespaceTokens (namespaceText : Str) : List Str :=
  if namespaceRel namespaceText = [] then [] else (namespaceRel namespaceText).splitOn '/'

def Name.new (namespaceText baseName : Str) : Except NameError Name :=
  if baseName = [] then .error .empty else
  match baseName.find? (!isNameChar ·) with
  | some bad => .error (.badChar bad)
  | none =>
    if !baseName.head?.any okStartChar then .error (.badChar (baseName.head?.getD '?')) else
    if !noMultiUnderscore baseName then .error (.badChar '_') else
    if (namespaceTokens namespaceText).any (·.isEmpty) then
      .error (.badSlash (namespaceRel namespaceText) baseName)
    else if !(namespaceTokens namespaceText).all validToken then .error (.badChar '?')
    else .ok ⟨baseName, namespaceTokens namespaceText, namespaceText.head? = some '/'⟩

def Name.parse (fullName : Str) : Except NameError Name :=
  match Text.rsplitOnce '/' fullName with
  | none => Name.new [] fullName
  | some ([], []) => .error .empty
  | some (bad, []) => .error (.badSlash bad [])
  | some ([], base) => Name.new "/".toList base
  | some (before, base) =>
    if before.getLast? = some '/' then .error (.badSlash before base) else Name.new before base

def Name.push (name : Name) (newSuffix : Str) : Name :=
  { name with baseName := newSuffix, preceedingTokens := name.preceedingTokens ++ [name.baseName] }

def Name.display (name : Name) : Str :=
  (if name.absolute then "/".toList else []) ++ name.preceedingTokens.flatMap (· ++ "/".toList) ++ name.baseName

def Name.tokens (name : Name) : List Str := name.preceedingTokens ++ [name.baseName]

theorem validToken_ne_nil {token : Str} (valid : validToken token = true) : token ≠ [] := by
  intro same
  subst same
  cases valid

theorem validToken_chars {token : Str} (valid : validToken token = true) :
    ∀ char ∈ token, isNameChar char = true := by
  simp only [validToken, Bool.and_eq_true, List.all_eq_true] at valid
  exact valid.1.1

theorem Name.new_ok {namespaceText baseName : Str} {name : Name} :
    Name.new namespaceText baseName = .ok name ↔
      validToken baseName = true ∧ (∀ token ∈ namespaceTokens namespaceText, validToken token = true) ∧
        name = ⟨baseName, namespaceTokens namespaceText, namespaceText.head? = some '/'⟩ := by
  constructor
  · intro built
    unfold Name.new at built
    repeat' split at built
    all_goals first | (cases built; done) | skip
    rename_i noBad started single _ tokensValid
    have chars : baseName.all isNameChar = true := by
      rw [List.all_eq_true]
      intro char member
      simpa using List.find?_eq_none.mp noBad char member
    refine ⟨?_, by simpa using tokensValid, (Except.ok.inj built).symm⟩
    simp only [validToken, chars, Bool.true_and, Bool.and_eq_true]
    exact ⟨by simpa using started, by simpa using single⟩
  · intro valid
    obtain ⟨validBase, validTokens, rfl⟩ := valid
    have noBad : baseName.find? (!isNameChar ·) = none := by
      rw [List.find?_eq_none]
      intro char member
      simpa using validToken_chars validBase char member
    have noneEmpty : (namespaceTokens namespaceText).any (·.isEmpty) = false := by
      rw [List.any_eq_false]
      intro token member
      simpa using validToken_ne_nil (validTokens token member)
    have allValid : (namespaceTokens namespaceText).all validToken = true := List.all_eq_true.mpr validTokens
    have present := validToken_ne_nil validBase
    simp only [validToken, Bool.and_eq_true] at validBase
    simp [Name.new, present, noBad, validBase, noneEmpty, allValid]

def Name.Valid (name : Name) : Prop := ∀ token ∈ name.tokens, validToken token = true

theorem Name.new_valid {namespaceText baseName : Str} {name : Name}
    (built : Name.new namespaceText baseName = .ok name) : name.Valid := by
  obtain ⟨validBase, validTokens, rfl⟩ := Name.new_ok.mp built
  intro token member
  rcases List.mem_append.mp member with earlier | last
  · exact validTokens token earlier
  · rw [List.mem_singleton.mp last]
    exact validBase

theorem Name.parse_valid {fullName : Str} {name : Name} (built : Name.parse fullName = .ok name) : name.Valid := by
  unfold Name.parse at built
  repeat' split at built
  all_goals first | cases built | exact Name.new_valid built

theorem Name.push_tokens (name : Name) (newSuffix : Str) : (name.push newSuffix).tokens = name.tokens ++ [newSuffix] :=
  rfl

def actionSuffixes : List Str :=
  ["_action".toList, "send_goal".toList, "cancel_goal".toList, "get_result".toList, "feedback".toList,
    "status".toList]

/-- The names that exist in a run of the program: `push` is internal, and its callers pass one of
    the suffixes of an action. -/
inductive Name.Built : Name → Prop
  | new {namespaceText baseName : Str} {name : Name} : Name.new namespaceText baseName = .ok name → Built name
  | parse {fullName : Str} {name : Name} : Name.parse fullName = .ok name → Built name
  | push {name : Name} {suffix : Str} : Built name → suffix ∈ actionSuffixes → Built (name.push suffix)

theorem validToken_actionSuffix {suffix : Str} (member : suffix ∈ actionSuffixes) : validToken suffix = true := by
  have all : actionSuffixes.all validToken = true := by decide
  exact List.all_eq_true.mp all suffix member

theorem Name.Built.valid {name : Name} (built : name.Built) : name.Valid := by
  induction built with
  | new made => exact Name.new_valid made
  | parse made => exact Name.parse_valid made
  | push _ known ih =>
    intro token member
    rw [Name.push_tokens] at member
    rcases List.mem_append.mp member with earlier | last
    · exact ih token earlier
    · rw [List.mem_singleton.mp last]
      exact validToken_actionSuffix known

end Ros2Client
