import Ros2Client.Names.Resolution
import Ros2Client.Names.TypeName

namespace Ros2Client

def ServiceTypeName.ddsRequestType (type : ServiceTypeName) : Str :=
  slashToColons (type.msg.ros2PackageName ++ "/".toList ++ type.kind.text ++ "/dds_/".toList ++
    type.msg.ros2TypeName ++ "_Request_".toList)

def ServiceTypeName.ddsResponseType (type : ServiceTypeName) : Str :=
  slashToColons (type.msg.ros2PackageName ++ "/".toList ++ type.kind.text ++ "/dds_/".toList ++
    type.msg.ros2TypeName ++ "_Response_".toList)

def Name.ddsPath (name : Name) (node : NodeName) : Str :=
  (if name.absolute then [] else node.nodeNamespace) ++ "/".toList ++
    name.preceedingTokens.flatMap (· ++ "/".toList) ++ name.baseName

def RelativeInRoot (name : Name) (node : NodeName) : Prop :=
  name.absolute = false ∧ node.nodeNamespace = "/".toList

theorem toDdsName_some (name : Name) {kindPrefix : Str} (node : NodeName) (suffix : Str)
    (unclosed : kindPrefix.getLast? ≠ some '/') :
    name.toDdsName kindPrefix node suffix = some (kindPrefix ++ name.ddsPath node ++ suffix) := by
  rw [Name.toDdsName, if_neg unclosed, Name.ddsPath]
  simp only [List.append_assoc]

theorem ddsPath_push (name : Name) (node : NodeName) (suffix : Str) :
    (name.push suffix).ddsPath node = name.ddsPath node ++ '/' :: suffix := by
  simp only [Name.ddsPath, Name.push, List.flatMap_append, List.flatMap_singleton, List.append_assoc]
  rfl

theorem ddsPath_of_relative {name : Name} {node : NodeName} (relative : RelativeInRoot name node) :
    name.ddsPath node = '/' :: resolveFqn name node := by
  obtain ⟨relative, root⟩ := relative
  simp [Name.ddsPath, resolveFqn, Name.display, relative, root]

theorem ddsPath_of_not_relative {name : Name} {node : NodeName} (other : ¬ RelativeInRoot name node) :
    name.ddsPath node = resolveFqn name node := by
  have placed : name.absolute = true ∨ node.nodeNamespace ≠ "/".toList := by
    rw [RelativeInRoot, not_and, ← Bool.not_eq_true] at other
    exact or_iff_not_imp_left.mpr other
  have unclosed : ([] : Str).getLast? ≠ some '/' := by simp
  have same := (toDdsName_eq name node [] unclosed).mpr placed
  rw [toDdsName_some name node [] unclosed] at same
  simpa using same

theorem Name.Valid.intercalate_head {name : Name} (valid : name.Valid) (rest : Str) :
    ['/'].intercalate name.tokens ≠ '/' :: rest := by
  intro slash
  obtain ⟨token, tokens, split⟩ := List.exists_cons_of_ne_nil name.tokens_ne_nil
  have validFirst := valid token (split ▸ List.mem_cons_self)
  obtain ⟨first, chars, rfl⟩ := List.exists_cons_of_ne_nil (validToken_ne_nil validFirst)
  have named := validToken_chars validFirst first List.mem_cons_self
  have begins : first = '/' := by
    cases tokens with
    | nil => simpa [split] using (List.cons.inj (by simpa [split] using slash)).1
    | cons next tokens => exact (List.cons.inj (by simpa [split, List.intercalate_cons_cons] using slash)).1
  rw [begins] at named
  exact absurd named (by decide)

/-- Two slashes begin a resolved name only where they begin the namespace of the node. -/
theorem resolveFqn_single {name : Name} (valid : name.Valid) {node : NodeName}
    (single : ¬ "//".toList <+: node.nodeNamespace) (rest : Str) : resolveFqn name node ≠ '/' :: '/' :: rest := by
  intro doubled
  unfold resolveFqn at doubled
  rw [Name.display_eq] at doubled
  cases absolute : name.absolute with
  | true => exact valid.intercalate_head rest (by simpa [absolute] using doubled)
  | false =>
    by_cases root : node.nodeNamespace = "/".toList
    · exact valid.intercalate_head rest (by simpa [absolute, root] using doubled)
    · have rooted := node.namespace_eq
      rw [absolute, if_neg (by decide), if_neg root, rooted] at doubled
      cases inner : namespaceRel node.nodeNamespace with
      | nil => exact root (by rw [rooted, inner]; rfl)
      | cons next chars =>
        have slash : next = '/' := by
          rw [inner] at doubled
          exact (List.cons.inj (List.cons.inj doubled).2).1
        exact single ⟨chars, by rw [rooted, inner, slash]; rfl⟩

theorem ddsPath_same_iff {name name' : Name} (valid : name.Valid) (valid' : name'.Valid) {node node' : NodeName}
    (single : ¬ "//".toList <+: node.nodeNamespace) (single' : ¬ "//".toList <+: node'.nodeNamespace) :
    name.ddsPath node = name'.ddsPath node' ↔
      resolveFqn name node = resolveFqn name' node' ∧ (RelativeInRoot name node ↔ RelativeInRoot name' node') := by
  -- A name that is relative in the root has one slash more than any other.
  have differ : ∀ {first second : Name} {node node' : NodeName}, second.Valid →
      ¬ "//".toList <+: node'.nodeNamespace → '/' :: resolveFqn first node ≠ resolveFqn second node' := by
    intro first second node node' valid single same
    rw [resolveFqn_eq first node] at same
    exact resolveFqn_single valid single _ same.symm
  by_cases relative : RelativeInRoot name node
  · rw [ddsPath_of_relative relative]
    by_cases relative' : RelativeInRoot name' node'
    · rw [ddsPath_of_relative relative']
      simp [relative, relative']
    · rw [ddsPath_of_not_relative relative']
      simp [relative, relative', differ valid' single']
  · rw [ddsPath_of_not_relative relative]
    by_cases relative' : RelativeInRoot name' node'
    · rw [ddsPath_of_relative relative']
      simp [relative, relative', (differ valid single).symm]
    · rw [ddsPath_of_not_relative relative']
      simp [relative, relative']

end Ros2Client

namespace Ros2Client.Dds

structure Topic (Qos : Type) where
  name : Str
  typeName : Str
  qos : Qos

structure ServiceTopics (Qos : Type) where
  request : Topic Qos
  reply : Topic Qos

structure ActionClientQosPolicies (Qos : Type) where
  goalService : Qos
  resultService : Qos
  cancelService : Qos
  feedbackSubscription : Qos
  statusSubscription : Qos

structure ActionServerQosPolicies (Qos : Type) where
  goalService : Qos
  resultService : Qos
  cancelService : Qos
  feedbackPublisher : Qos
  statusPublisher : Qos

structure ActionTopics (Qos : Type) where
  goal : ServiceTopics Qos
  cancel : ServiceTopics Qos
  result : ServiceTopics Qos
  feedback : Topic Qos
  status : Topic Qos

section

variable {Qos : Type} (node : NodeName)

def createTopic (topicName : Name) (typeName : MessageTypeName) (qos : Qos) : Option (Topic Qos) := do
  let ddsName ← topicName.toDdsName "rt".toList node []
  return ⟨ddsName, typeName.ddsMsgType, qos⟩

def serviceTopics (serviceName : Name) (serviceTypeName : ServiceTypeName) (requestQos responseQos : Qos) :
    Option (ServiceTopics Qos) := do
  let rqName ← serviceName.toDdsName "rq".toList node "Request".toList
  let rsName ← serviceName.toDdsName "rr".toList node "Reply".toList
  return ⟨⟨rqName, serviceTypeName.ddsRequestType, requestQos⟩,
    ⟨rsName, serviceTypeName.ddsResponseType, responseQos⟩⟩

def createClient (serviceName : Name) (serviceTypeName : ServiceTypeName) (requestQos responseQos : Qos) :
    Option (ServiceTopics Qos) :=
  serviceTopics node serviceName serviceTypeName requestQos responseQos

def createServer (serviceName : Name) (serviceTypeName : ServiceTypeName) (requestQos responseQos : Qos) :
    Option (ServiceTopics Qos) :=
  serviceTopics node serviceName serviceTypeName requestQos responseQos

def createRawServer (serviceName : Name) (serviceTypeName : ServiceTypeName) (requestQos responseQos : Qos) :
    Option (ServiceTopics Qos) :=
  serviceTopics node serviceName serviceTypeName requestQos responseQos

def createActionClient (actionName : Name) (actionTypeName : ActionTypeName)
    (actionQos : ActionClientQosPolicies Qos) : Option (ActionTopics Qos) := do
  let servicesBaseName := actionName.push "_action".toList
  let goal ← createClient node (servicesBaseName.push "send_goal".toList)
    (actionTypeName.ddsActionService "_SendGoal".toList) actionQos.goalService actionQos.goalService
  let cancel ← createClient node (servicesBaseName.push "cancel_goal".toList)
    (ServiceTypeName.new "action_msgs".toList "CancelGoal".toList) actionQos.cancelService actionQos.cancelService
  let result ← createClient node (servicesBaseName.push "get_result".toList)
    (actionTypeName.ddsActionService "_GetResult".toList) actionQos.resultService actionQos.resultService
  let actionTopicNamespace := actionName.push "_action".toList
  let feedback ← createTopic node (actionTopicNamespace.push "feedback".toList)
    (actionTypeName.ddsActionTopic "_FeedbackMessage".toList) actionQos.feedbackSubscription
  let status ← createTopic node (actionTopicNamespace.push "status".toList)
    (MessageTypeName.new "action_msgs".toList "GoalStatusArray".toList) actionQos.statusSubscription
  return ⟨goal, cancel, result, feedback, status⟩

def createActionServer (actionName : Name) (actionTypeName : ActionTypeName)
    (actionQos : ActionServerQosPolicies Qos) : Option (ActionTopics Qos) := do
  let servicesBaseName := actionName.push "_action".toList
  let goal ← createServer node (servicesBaseName.push "send_goal".toList)
    (actionTypeName.ddsActionService "_SendGoal".toList) actionQos.goalService actionQos.goalService
  let cancel ← createServer node (servicesBaseName.push "cancel_goal".toList)
    (ServiceTypeName.new "action_msgs".toList "CancelGoal".toList) actionQos.cancelService actionQos.cancelService
  let result ← createServer node (servicesBaseName.push "get_result".toList)
    (actionTypeName.ddsActionService "_GetResult".toList) actionQos.resultService actionQos.resultService
  let actionTopicNamespace := actionName.push "_action".toList
  let feedback ← createTopic node (actionTopicNamespace.push "feedback".toList)
    (actionTypeName.ddsActionTopic "_FeedbackMessage".toList) actionQos.feedbackPublisher
  let status ← createTopic node (actionTopicNamespace.push "status".toList)
    (MessageTypeName.new "action_msgs".toList "GoalStatusArray".toList) actionQos.statusPublisher
  return ⟨goal, cancel, result, feedback, status⟩

def createRawActionServer (actionName : Name) (actionTypeName : ActionTypeName)
    (actionQos : ActionServerQosPolicies Qos) : Option (ActionTopics Qos) := do
  let servicesBaseName := actionName.push "_action".toList
  let goal ← createRawServer node (servicesBaseName.push "send_goal".toList)
    (actionTypeName.ddsActionService "_SendGoal".toList) actionQos.goalService actionQos.goalService
  let cancel ← createServer node (servicesBaseName.push "cancel_goal".toList)
    (ServiceTypeName.new "action_msgs".toList "CancelGoal".toList) actionQos.cancelService actionQos.cancelService
  let result ← createRawServer node (servicesBaseName.push "get_result".toList)
    (actionTypeName.ddsActionService "_GetResult".toList) actionQos.resultService actionQos.resultService
  let actionTopicNamespace := actionName.push "_action".toList
  let feedback ← createTopic node (actionTopicNamespace.push "feedback".toList)
    (actionTypeName.ddsActionTopic "_FeedbackMessage".toList) actionQos.feedbackPublisher
  let status ← createTopic node (actionTopicNamespace.push "status".toList)
    (MessageTypeName.new "action_msgs".toList "GoalStatusArray".toList) actionQos.statusPublisher
  return ⟨goal, cancel, result, feedback, status⟩

theorem createTopic_eq (topicName : Name) (typeName : MessageTypeName) (qos : Qos) :
    createTopic node topicName typeName qos =
      some ⟨"rt".toList ++ topicName.ddsPath node ++ [], typeName.ddsMsgType, qos⟩ := by
  rw [createTopic, toDdsName_some topicName node [] (by decide)]
  rfl

theorem serviceTopics_eq (serviceName : Name) (serviceTypeName : ServiceTypeName) (requestQos responseQos : Qos) :
    serviceTopics node serviceName serviceTypeName requestQos responseQos =
      some
        ⟨⟨"rq".toList ++ serviceName.ddsPath node ++ "Request".toList, serviceTypeName.ddsRequestType,
            requestQos⟩,
          ⟨"rr".toList ++ serviceName.ddsPath node ++ "Reply".toList, serviceTypeName.ddsResponseType,
            responseQos⟩⟩ := by
  rw [serviceTopics, toDdsName_some serviceName node _ (by decide), toDdsName_some serviceName node _ (by decide)]
  rfl

end

inductive TopicKind
  | message
  | request
  | reply
deriving DecidableEq

def TopicKind.enclose (path : Str) : TopicKind → Str
  | .message => "rt".toList ++ path ++ []
  | .request => "rq".toList ++ path ++ "Request".toList
  | .reply => "rr".toList ++ path ++ "Reply".toList

theorem TopicKind.enclose_inj {kind kind' : TopicKind} {path path' : Str} :
    kind.enclose path = kind'.enclose path' ↔ kind = kind' ∧ path = path' := by
  cases kind <;> cases kind' <;> simp [TopicKind.enclose]

inductive ActionService
  | sendGoal
  | cancelGoal
  | getResult
deriving DecidableEq

inductive ActionPart
  | request (service : ActionService)
  | reply (service : ActionService)
  | feedback
  | status
deriving DecidableEq

def ActionService.subName : ActionService → Str
  | .sendGoal => "send_goal".toList
  | .cancelGoal => "cancel_goal".toList
  | .getResult => "get_result".toList

def ActionPart.kind : ActionPart → TopicKind
  | .request _ => .request
  | .reply _ => .reply
  | .feedback | .status => .message

def ActionPart.subName : ActionPart → Str
  | .request service | .reply service => service.subName
  | .feedback => "feedback".toList
  | .status => "status".toList

def ActionService.typeName (type : ActionTypeName) : ActionService → ServiceTypeName
  | .sendGoal => type.ddsActionService "_SendGoal".toList
  | .cancelGoal => ServiceTypeName.new "action_msgs".toList "CancelGoal".toList
  | .getResult => type.ddsActionService "_GetResult".toList

def ActionPart.typeName (type : ActionTypeName) : ActionPart → Str
  | .request service => (service.typeName type).ddsRequestType
  | .reply service => (service.typeName type).ddsResponseType
  | .feedback => (type.ddsActionTopic "_FeedbackMessage".toList).ddsMsgType
  | .status => (MessageTypeName.new "action_msgs".toList "GoalStatusArray".toList).ddsMsgType

/-- The messages of these parts have types made from the type of the action. -/
def ActionPart.ofActionType : ActionPart → Bool
  | .request service | .reply service => service ≠ .cancelGoal
  | .feedback => true
  | .status => false

def ddsActionType (type : ActionTypeName) : Str :=
  slashToColons (type.msg.ros2PackageName ++ "/action/dds_/".toList ++ type.msg.ros2TypeName)

section

variable {Qos : Type}

def ActionTopics.service (topics : ActionTopics Qos) : ActionService → ServiceTopics Qos
  | .sendGoal => topics.goal
  | .cancelGoal => topics.cancel
  | .getResult => topics.result

def ActionTopics.part (topics : ActionTopics Qos) : ActionPart → Topic Qos
  | .request service => (topics.service service).request
  | .reply service => (topics.service service).reply
  | .feedback => topics.feedback
  | .status => topics.status

def ActionTopics.Of (topics : ActionTopics Qos) (node : NodeName) (action : Name) (type : ActionTypeName) : Prop :=
  ∀ part,
    (topics.part part).name =
        part.kind.enclose (((action.push "_action".toList).push part.subName).ddsPath node) ∧
      (topics.part part).typeName = part.typeName type

def Topic.Meets (mine theirs : Topic Qos) : Prop := mine.name = theirs.name ∧ mine.typeName = theirs.typeName

/-- A client makes its endpoints on the topics of a server with the same policies. -/
theorem createActionClient_eq (node : NodeName) (action : Name) (type : ActionTypeName)
    (qos : ActionClientQosPolicies Qos) :
    createActionClient node action type qos = createActionServer node action type
      ⟨qos.goalService, qos.resultService, qos.cancelService, qos.feedbackSubscription, qos.statusSubscription⟩ := rfl

/-- The raw endpoints of an action are made on the topics of the typed ones. -/
theorem createRawActionServer_eq (node : NodeName) (action : Name) (type : ActionTypeName)
    (qos : ActionServerQosPolicies Qos) :
    createRawActionServer node action type qos = createActionServer node action type qos := rfl

theorem createActionServer_of (node : NodeName) (action : Name) (type : ActionTypeName)
    (qos : ActionServerQosPolicies Qos) :
    ∃ topics, createActionServer node action type qos = some topics ∧ topics.Of node action type := by
  refine ⟨_, by simp only [createActionServer, createServer, serviceTopics_eq, createTopic_eq,
    Option.bind_eq_bind, Option.bind_some]; rfl, ?_⟩
  intro part
  cases part with
  | request service => cases service <;> exact ⟨rfl, rfl⟩
  | reply service => cases service <;> exact ⟨rfl, rfl⟩
  | feedback => exact ⟨rfl, rfl⟩
  | status => exact ⟨rfl, rfl⟩

end

theorem ActionPart.slash_not_mem_subName (part : ActionPart) : '/' ∉ part.subName := by
  cases part with
  | request service => cases service <;> decide
  | reply service => cases service <;> decide
  | feedback => decide
  | status => decide

theorem ActionService.subName_inj {service other : ActionService} (same : service.subName = other.subName) :
    service = other := by
  cases service <;> cases other <;> first | rfl | exact absurd same (by decide)

theorem ActionPart.same_iff {part other : ActionPart} :
    part = other ↔ part.kind = other.kind ∧ part.subName = other.subName := by
  constructor
  · intro same
    subst same
    exact ⟨rfl, rfl⟩
  · intro same
    obtain ⟨kind, sub⟩ := same
    cases part with
    | request service =>
      cases other with
      | request other => rw [ActionService.subName_inj sub]
      | reply | feedback | status => cases kind
    | reply service =>
      cases other with
      | reply other => rw [ActionService.subName_inj sub]
      | request | feedback | status => cases kind
    | feedback =>
      cases other with
      | feedback => rfl
      | request | reply => cases kind
      | status => exact absurd sub (by decide)
    | status =>
      cases other with
      | status => rfl
      | request | reply => cases kind
      | feedback => exact absurd sub (by decide)

theorem partName_same_iff {action action' : Name} {node node' : NodeName} {part other : ActionPart} :
    part.kind.enclose (((action.push "_action".toList).push part.subName).ddsPath node) =
        other.kind.enclose (((action'.push "_action".toList).push other.subName).ddsPath node') ↔
      part = other ∧ action.ddsPath node = action'.ddsPath node' := by
  rw [TopicKind.enclose_inj, ddsPath_push, ddsPath_push, ddsPath_push, ddsPath_push,
    Text.append_cons_inj_right part.slash_not_mem_subName other.slash_not_mem_subName, List.append_cancel_right_eq,
    ActionPart.same_iff]
  tauto

theorem slashToColons_append (first second : Str) :
    slashToColons (first ++ second) = slashToColons first ++ slashToColons second :=
  Text.replace_append '/' "::".toList first second

theorem actionKind_text : InterfaceKind.action.text = "action".toList := rfl

theorem ddsActionTopic_type (type : ActionTypeName) (topic : Str) :
    (type.ddsActionTopic topic).ddsMsgType = ddsActionType type ++ slashToColons (topic ++ "_".toList) := by
  rw [MessageTypeName.ddsMsgType, ddsActionType, ← slashToColons_append]
  simp only [ActionTypeName.ddsActionTopic, actionKind_text, List.append_assoc]
  rfl

theorem ddsActionService_requestType (type : ActionTypeName) (srv : Str) :
    (type.ddsActionService srv).ddsRequestType =
      ddsActionType type ++ slashToColons (srv ++ "_Request_".toList) := by
  rw [ServiceTypeName.ddsRequestType, ddsActionType, ← slashToColons_append]
  simp only [ActionTypeName.ddsActionService, MessageTypeName.new, actionKind_text, List.append_assoc]
  rfl

theorem ddsActionService_responseType (type : ActionTypeName) (srv : Str) :
    (type.ddsActionService srv).ddsResponseType =
      ddsActionType type ++ slashToColons (srv ++ "_Response_".toList) := by
  rw [ServiceTypeName.ddsResponseType, ddsActionType, ← slashToColons_append]
  simp only [ActionTypeName.ddsActionService, MessageTypeName.new, actionKind_text, List.append_assoc]
  rfl

theorem partType_same_iff (part : ActionPart) (type type' : ActionTypeName) :
    part.typeName type = part.typeName type' ↔
      (part.ofActionType = true → ddsActionType type = ddsActionType type') := by
  cases part with
  | request service =>
    cases service with
    | cancelGoal => simp [ActionPart.typeName, ActionService.typeName, ActionPart.ofActionType]
    | sendGoal | getResult =>
      simp [ActionPart.typeName, ActionService.typeName, ActionPart.ofActionType, ddsActionService_requestType]
  | reply service =>
    cases service with
    | cancelGoal => simp [ActionPart.typeName, ActionService.typeName, ActionPart.ofActionType]
    | sendGoal | getResult =>
      simp [ActionPart.typeName, ActionService.typeName, ActionPart.ofActionType, ddsActionService_responseType]
  | feedback => simp [ActionPart.typeName, ActionPart.ofActionType, ddsActionTopic_type]
  | status => simp [ActionPart.typeName, ActionPart.ofActionType]

theorem action_ends_meet_iff {node node' : NodeName} {action action' : Name} (built : action.Built)
    (built' : action'.Built) (single : ¬ "//".toList <+: node.nodeNamespace)
    (single' : ¬ "//".toList <+: node'.nodeNamespace) (type type' : ActionTypeName) {Qos : Type}
    (clientQos : ActionClientQosPolicies Qos) (serverQos : ActionServerQosPolicies Qos) :
    ∃ client server, createActionClient node action type clientQos = some client ∧
      createActionServer node' action' type' serverQos = some server ∧
      createRawActionServer node' action' type' serverQos = some server ∧
      ∀ part other, (client.part part).Meets (server.part other) ↔
        part = other ∧ resolveFqn action node = resolveFqn action' node' ∧
          (RelativeInRoot action node ↔ RelativeInRoot action' node') ∧
          (part.ofActionType = true → ddsActionType type = ddsActionType type') := by
  obtain ⟨client, created, parts⟩ := createActionServer_of node action type
    ⟨clientQos.goalService, clientQos.resultService, clientQos.cancelService, clientQos.feedbackSubscription,
      clientQos.statusSubscription⟩
  rw [← createActionClient_eq] at created
  obtain ⟨server, served, parts'⟩ := createActionServer_of node' action' type' serverQos
  refine ⟨client, server, created, served, createRawActionServer_eq node' action' type' serverQos ▸ served, ?_⟩
  intro part other
  rw [Topic.Meets, (parts part).1, (parts part).2, (parts' other).1, (parts' other).2, partName_same_iff,
    ddsPath_same_iff built.valid built'.valid single single']
  constructor
  · intro meets
    obtain ⟨⟨rfl, resolved, relative⟩, types⟩ := meets
    exact ⟨rfl, resolved, relative, (partType_same_iff part type type').mp types⟩
  · intro same
    obtain ⟨rfl, resolved, relative, types⟩ := same
    exact ⟨⟨rfl, resolved, relative⟩, (partType_same_iff part type type').mpr types⟩

/-- A client in the root namespace that names the action without a slash, and a server that names it
    with one: both resolve it to `/turn`, and they do not meet. -/
theorem relative_client_misses_server :
    resolveFqn ⟨"turn".toList, [], false⟩ rootNode = resolveFqn ⟨"turn".toList, [], true⟩ rootNode ∧
      ∃ client server : ActionTopics Unit,
        createActionClient rootNode ⟨"turn".toList, [], false⟩ (.new "turtlesim".toList "Turn".toList)
          ⟨(), (), (), (), ()⟩ = some client ∧
        createRawActionServer rootNode ⟨"turn".toList, [], true⟩ (.new "turtlesim".toList "Turn".toList)
          ⟨(), (), (), (), ()⟩ = some server ∧
        ∀ part other, ¬ (client.part part).Meets (server.part other) := by
  have relativeNew : Name.new [] "turn".toList = .ok ⟨"turn".toList, [], false⟩ := by decide
  have absoluteNew : Name.new "/".toList "turn".toList = .ok ⟨"turn".toList, [], true⟩ := by decide
  have single : ¬ "//".toList <+: rootNode.nodeNamespace := by decide
  obtain ⟨client, server, created, _, served, meets⟩ := action_ends_meet_iff (.new relativeNew) (.new absoluteNew)
    single single (.new "turtlesim".toList "Turn".toList) (.new "turtlesim".toList "Turn".toList)
    (⟨(), (), (), (), ()⟩ : ActionClientQosPolicies Unit) ⟨(), (), (), (), ()⟩
  refine ⟨by decide, client, server, created, served, ?_⟩
  intro part other met
  have same := ((meets part other).mp met).2.2.1.mp ⟨rfl, rfl⟩
  cases same.1

end Ros2Client.Dds
