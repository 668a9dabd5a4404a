import Ros2Client.Names.Name

namespace Ros2Client

/-- The DDS name of a topic. The assertion on the kind prefix panics where it ends in a slash. -/
def Name.toDdsName (name : Name) (kindPrefix : Str) (node : NodeName) (suffix : Str) : Option Str :=
  if kindPrefix.getLast? = some '/' then none else
  some (kindPrefix ++ (if name.absolute then [] else node.nodeNamespace) ++ "/".toList ++
    name.preceedingTokens.flatMap (· ++ "/".toList) ++ name.baseName ++ suffix)

def resolveFqn (name : Name) (node : NodeName) : Str :=
  if name.absolute then name.display
  else if node.nodeNamespace = "/".toList then "/".toList ++ name.display
  else node.nodeNamespace ++ "/".toList ++ name.display

def actionSubName (actionFqn sub : Str) : Except NameError Name :=
  Name.new (actionFqn ++ "/_action".toList) sub

def resolvedTokens (name : Name) (node : NodeName) : List Str :=
  (if name.absolute then [] else namespaceTokens node.nodeNamespace) ++ name.tokens

theorem Name.tokens_ne_nil (name : Name) : name.tokens ≠ [] := by simp [Name.tokens]

theorem Name.display_eq (name : Name) :
    name.display = (if name.absolute then "/".toList else []) ++ ['/'].intercalate name.tokens := by
  have joined : ∀ tokens : List Str, tokens.flatMap (· ++ "/".toList) ++ name.baseName =
      ['/'].intercalate (tokens ++ [name.baseName]) := by
    intro tokens
    induction tokens with
    | nil => simp
    | cons token tokens ih =>
      rw [List.cons_append, List.intercalate_cons_of_ne_nil (by simp), ← ih]
      simp
  rw [Name.display, List.append_assoc, joined]
  rfl

theorem NodeName.namespace_eq (node : NodeName) :
    node.nodeNamespace = '/' :: namespaceRel node.nodeNamespace := by
  have slash := (NodeName.check_ok node.checked).2.2.1
  rw [namespaceRel, if_pos slash]
  exact (List.cons_head?_tail slash).symm

theorem resolveFqn_eq (name : Name) (node : NodeName) :
    resolveFqn name node = '/' :: ['/'].intercalate (resolvedTokens name node) := by
  unfold resolveFqn resolvedTokens
  cases absolute : name.absolute with
  | true => simp [Name.display_eq, absolute]
  | false =>
    have rooted := node.namespace_eq
    by_cases root : namespaceRel node.nodeNamespace = []
    · have slash : node.nodeNamespace = "/".toList := by simpa [root] using rooted
      simp [slash, Name.display_eq, absolute, namespaceTokens, namespaceRel]
    · have deeper : node.nodeNamespace ≠ "/".toList := by
        intro slash
        rw [rooted] at slash
        simp [root] at slash
      have tokens : namespaceTokens node.nodeNamespace = (namespaceRel node.nodeNamespace).splitOn '/' := by
        rw [namespaceTokens, if_neg root]
      simp only [deeper, absolute, Bool.false_eq_true, if_false, tokens, Name.display_eq]
      rw [Text.intercalate_append (List.splitOn_ne_nil _ _) name.tokens_ne_nil, List.intercalate_splitOn]
      nth_rewrite 1 [rooted]
      simp

theorem resolveFqn_chars {name : Name} (valid : name.Valid) (node : NodeName) :
    ∀ char ∈ resolveFqn name node, isNameChar char = true ∨ char = '/' := by
  have tokens : ∀ char ∈ ['/'].intercalate name.tokens, isNameChar char = true ∨ char = '/' := by
    intro char member
    by_contra outside
    rw [not_or] at outside
    refine Text.not_mem_intercalate outside.2 ?_ member
    intro token inside present
    exact outside.1 (validToken_chars (valid token inside) char present)
  have display : ∀ char ∈ name.display, isNameChar char = true ∨ char = '/' := by
    intro char member
    rw [Name.display_eq] at member
    rcases List.mem_append.mp member with slash | inside
    · split at slash
      · exact .inr (List.mem_singleton.mp slash)
      · cases slash
    · exact tokens char inside
  have nodeNamespace := (NodeName.check_ok node.checked).2.2.2.1
  have slash : ∀ char ∈ "/".toList, isNameChar char = true ∨ char = '/' := by simp
  unfold resolveFqn
  split
  · exact display
  · split
    · exact List.forall_mem_append.mpr ⟨slash, display⟩
    · exact List.forall_mem_append.mpr ⟨List.forall_mem_append.mpr ⟨nodeNamespace, slash⟩, display⟩

theorem resolvedTokens_ne_nil (name : Name) (node : NodeName) : resolvedTokens name node ≠ [] := by
  simp [resolvedTokens, name.tokens_ne_nil]

theorem toDdsName_eq (name : Name) {kindPrefix : Str} (node : NodeName) (suffix : Str)
    (unclosed : kindPrefix.getLast? ≠ some '/') :
    name.toDdsName kindPrefix node suffix = some (kindPrefix ++ resolveFqn name node ++ suffix) ↔
      name.absolute = true ∨ node.nodeNamespace ≠ "/".toList := by
  simp only [Name.toDdsName, resolveFqn, Name.display, if_neg unclosed, Option.some.injEq, List.append_assoc,
    List.append_cancel_left_eq]
  cases absolute : name.absolute with
  | true => simp
  | false =>
    by_cases root : node.nodeNamespace = "/".toList
    · simp [root]
    · simp only [root, Bool.false_eq_true, if_false, List.nil_append, List.append_assoc, ne_eq,
        not_false_eq_true, or_true]

theorem resolveFqn_push (name : Name) (node : NodeName) (suffix : Str) :
    resolveFqn (name.push suffix) node = resolveFqn name node ++ "/".toList ++ suffix := by
  have tokens : resolvedTokens (name.push suffix) node = resolvedTokens name node ++ [suffix] := by
    simp only [resolvedTokens, Name.push_tokens, List.append_assoc]
    rfl
  rw [resolveFqn_eq, resolveFqn_eq, tokens, Text.intercalate_append (resolvedTokens_ne_nil name node) (by simp)]
  simp

theorem namespaceTokens_action (action : Name) (node : NodeName) :
    namespaceTokens (resolveFqn action node ++ "/_action".toList) =
      (resolvedTokens action node).flatMap (·.splitOn '/') ++ ["_action".toList] := by
  have rel : namespaceRel (resolveFqn action node ++ "/_action".toList) =
      ['/'].intercalate (resolvedTokens action node) ++ '/' :: "_action".toList := by
    simp [namespaceRel, resolveFqn_eq]
  rw [namespaceTokens, rel, if_neg (by simp), List.splitOn_append_cons_self,
    Text.splitOn_intercalate_flatMap (resolvedTokens_ne_nil action node)]
  rfl

/-- Whether the name that Zenoh gives to a part of an action exists and resolves like the one of DDS. -/
def SubNamesAgree (action : Name) (node : NodeName) (sub : Str) : Prop :=
  ∃ name, actionSubName (resolveFqn action node) sub = .ok name ∧
    resolveFqn name node = resolveFqn ((action.push "_action".toList).push sub) node

theorem actionSubName_resolves {action name : Name} {node : NodeName} {sub : Str}
    (made : actionSubName (resolveFqn action node) sub = .ok name) :
    resolveFqn name node = resolveFqn ((action.push "_action".toList).push sub) node := by
  obtain ⟨_, _, rfl⟩ := Name.new_ok.mp made
  have slash : (resolveFqn action node ++ "/_action".toList).head? = some '/' := by simp [resolveFqn_eq]
  have split : (resolvedTokens action node).flatMap (·.splitOn '/') ≠ [] := by
    rw [← Text.splitOn_intercalate_flatMap (resolvedTokens_ne_nil action node)]
    exact List.splitOn_ne_nil _ _
  have joined : ['/'].intercalate ((resolvedTokens action node).flatMap (·.splitOn '/')) =
      ['/'].intercalate (resolvedTokens action node) := by
    rw [← Text.splitOn_intercalate_flatMap (resolvedTokens_ne_nil action node), List.intercalate_splitOn]
  have tokens : resolvedTokens ⟨sub, namespaceTokens (resolveFqn action node ++ "/_action".toList),
      (resolveFqn action node ++ "/_action".toList).head? = some '/'⟩ node =
      (resolvedTokens action node).flatMap (·.splitOn '/') ++ ["_action".toList, sub] := by
    rw [resolvedTokens, Name.tokens, namespaceTokens_action, slash]
    simp
  rw [resolveFqn_eq, tokens, Text.intercalate_append split (by simp), joined, resolveFqn_push, resolveFqn_push,
    resolveFqn_eq]
  simp [List.intercalate_cons_cons]

theorem actionSubName_accepts (action : Name) (node : NodeName) (sub : Str) :
    (∃ name, actionSubName (resolveFqn action node) sub = .ok name) ↔
      validToken sub = true ∧
        ∀ token ∈ (resolvedTokens action node).flatMap (·.splitOn '/'), validToken token = true := by
  constructor
  · intro accepted
    obtain ⟨name, made⟩ := accepted
    obtain ⟨validSub, validTokens, _⟩ := Name.new_ok.mp made
    rw [namespaceTokens_action] at validTokens
    exact ⟨validSub, fun token member => validTokens token (List.mem_append_left _ member)⟩
  · intro valid
    obtain ⟨validSub, validTokens⟩ := valid
    refine ⟨_, Name.new_ok.mpr ⟨validSub, ?_, rfl⟩⟩
    rw [namespaceTokens_action]
    intro token member
    rcases List.mem_append.mp member with earlier | last
    · exact validTokens token earlier
    · rw [List.mem_singleton.mp last]
      decide

theorem namespaceTokens_flatMap (namespaceText : Str) :
    (namespaceTokens namespaceText).flatMap (·.splitOn '/') = namespaceTokens namespaceText := by
  have single : ∀ token ∈ namespaceTokens namespaceText, token.splitOn '/' = [token] := by
    intro token member
    unfold namespaceTokens at member
    split at member
    · cases member
    · exact List.splitOn_eq_singleton (Text.not_mem_of_mem_splitOn member)
  rw [List.flatMap_congr single]
  simp

theorem subNamesAgree_iff (action : Name) (node : NodeName) (sub : Str) :
    SubNamesAgree action node sub ↔
      validToken sub = true ∧
      (∀ token ∈ action.tokens, ∀ part ∈ token.splitOn '/', validToken part = true) ∧
      (action.absolute = true ∨ ∀ token ∈ namespaceTokens node.nodeNamespace, validToken token = true) := by
  have accepted : SubNamesAgree action node sub ↔
      ∃ name, actionSubName (resolveFqn action node) sub = .ok name :=
    ⟨fun ⟨name, made, _⟩ => ⟨name, made⟩, fun ⟨name, made⟩ => ⟨name, made, actionSubName_resolves made⟩⟩
  have parts : (∀ part ∈ action.tokens.flatMap (·.splitOn '/'), validToken part = true) ↔
      ∀ token ∈ action.tokens, ∀ part ∈ token.splitOn '/', validToken part = true := List.forall_mem_flatMap
  rw [accepted, actionSubName_accepts, resolvedTokens, List.flatMap_append, List.forall_mem_append, parts]
  cases absolute : action.absolute with
  | true => simp
  | false => simp only [Bool.false_eq_true, if_false, namespaceTokens_flatMap, false_or, and_comm]

theorem backends_resolve_alike (name action : Name) (node : NodeName) (kindPrefix suffix sub : Str)
    (unclosed : kindPrefix.getLast? ≠ some '/') :
    (name.toDdsName kindPrefix node suffix = some (kindPrefix ++ resolveFqn name node ++ suffix) ↔
      name.absolute = true ∨ node.nodeNamespace ≠ "/".toList) ∧
    (SubNamesAgree action node sub ↔
      validToken sub = true ∧
      (∀ token ∈ action.tokens, ∀ part ∈ token.splitOn '/', validToken part = true) ∧
      (action.absolute = true ∨ ∀ token ∈ namespaceTokens node.nodeNamespace, validToken token = true)) :=
  ⟨toDdsName_eq name node suffix unclosed, subNamesAgree_iff action node sub⟩

def rootNode : NodeName := ⟨"/".toList, "talker".toList, by decide⟩

def chatter : Name := ⟨"chatter".toList, [], false⟩

def nestedNode : NodeName := ⟨"/robot1".toList, "talker".toList, by decide⟩

theorem backends_resolve_alike_nested :
    chatter.toDdsName "rt".toList nestedNode [] = some "rt/robot1/chatter".toList ∧
      SubNamesAgree chatter nestedNode "send_goal".toList := by
  have alike := backends_resolve_alike chatter chatter nestedNode "rt".toList [] "send_goal".toList (by decide)
  refine ⟨?_, alike.2.mpr (by decide)⟩
  rw [alike.1.mpr (by decide)]
  decide

/-- A relative name in a node of the root namespace gets two slashes on DDS and one on Zenoh, and a
    node may have a namespace in which Zenoh accepts no action. -/
theorem root_namespace_doubles_slash :
    (NodeName.new "/".toList "talker".toList = .ok rootNode ∧ Name.new [] "chatter".toList = .ok chatter ∧
      chatter.toDdsName "rt".toList rootNode [] = some "rt//chatter".toList ∧
      chatter.toDdsName "rt".toList rootNode [] ≠ some ("rt".toList ++ resolveFqn chatter rootNode ++ [])) ∧
    ¬ SubNamesAgree chatter ⟨"/robot__1".toList, "talker".toList, by decide⟩ "send_goal".toList := by
  refine ⟨by decide, ?_⟩
  rw [subNamesAgree_iff]
  decide

end Ros2Client
