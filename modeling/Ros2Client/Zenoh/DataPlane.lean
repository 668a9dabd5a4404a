import Ros2Client.Names.Resolution
import Ros2Client.Names.TypeName
import Ros2Client.Qos.Profile
import Ros2Client.Zenoh.KeyExpr
import Ros2Client.Zenoh.TypeHash

open Text

namespace Ros2Client

structure ZenohTopic where
  fullyQualifiedName : Str
  ddsTypeName : Str
  qos : QosProfile

def createTopic (node : NodeName) (name : Name) (typeName : MessageTypeName) (qos : QosProfile) : ZenohTopic where
  fullyQualifiedName := resolveFqn name node
  ddsTypeName := typeName.ddsMsgType
  qos := qos

def publisherKey (domainId : UInt16) (topic : ZenohTopic) (hash : Str) : Str :=
  topicKeyexpr domainId topic.fullyQualifiedName topic.ddsTypeName hash

def subscriptionKey (domainId : UInt16) (topic : ZenohTopic) : Str :=
  topicKeyexpr domainId topic.fullyQualifiedName topic.ddsTypeName wildcard

def clientSelector (sha256 : List UInt8 → List UInt8) (domainId : UInt16) (node : NodeName) (service : Name)
    (serviceType : ServiceTypeName) : Str :=
  topicKeyexpr domainId (resolveFqn service node) serviceType.ddsServiceType
    (senderHash sha256 serviceType.ddsServiceType)

def serverKey (sha256 : List UInt8 → List UInt8) (domainId : UInt16) (node : NodeName) (service : Name)
    (serviceType : ServiceTypeName) : Str :=
  topicKeyexpr domainId (resolveFqn service node) serviceType.ddsServiceType
    (senderHash sha256 serviceType.ddsServiceType)

def isMetaChar (char : Char) : Bool := char = '*' || char = '$' || char = '?' || char = '#'

def Concrete (key : Str) : Prop := ∀ char ∈ key, isMetaChar char = false

instance (key : Str) : Decidable (Concrete key) :=
  List.decidableBAll (fun char => isMetaChar char = false) key

/-- One chunk of a key, neither `**` nor verbatim: those are the chunks that `*` stands for. -/
structure SingleChunk (chunk : Str) : Prop where
  present : chunk ≠ []
  unsplit : '/' ∉ chunk
  narrow : chunk ≠ "**".toList
  plain : chunk.head? ≠ some '@'

structure KeyMatching (intersects : Str → Str → Prop) : Prop where
  star : ∀ first second chunk, Concrete first → Concrete second → SingleChunk chunk →
    (intersects (first ++ "/*".toList) (second ++ '/' :: chunk) ↔ intersects first second)
  concrete : ∀ first second, Concrete first → Concrete second → (intersects first second ↔ first = second)

def MessageTypeName.Plain (type : MessageTypeName) : Prop :=
  Concrete type.ros2PackageName ∧ Concrete type.ros2TypeName

def baseKey (domainId : UInt16) (fqName typeName : Str) : Str :=
  decimal domainId.toNat ++ '/' :: (stripSlashes fqName ++ '/' :: typeName)

theorem topicKeyexpr_eq (domainId : UInt16) (fqName typeName typeHash : Str) :
    topicKeyexpr domainId fqName typeName typeHash = baseKey domainId fqName typeName ++ '/' :: typeHash := by
  simp [topicKeyexpr, baseKey, List.intercalate_cons_cons]

theorem baseKey_inj {first second : UInt16} {name name' type type' : Str} (unsplit : '/' ∉ type)
    (unsplit' : '/' ∉ type') :
    baseKey first name type = baseKey second name' type' ↔
      first = second ∧ SameUpToEnds '/' name name' ∧ type = type' := by
  unfold baseKey
  rw [append_cons_inj_left (not_mem_decimal rfl _) (not_mem_decimal rfl _), append_cons_inj_right unsplit unsplit',
    decimal_inj, UInt16.toNat_inj, ← trimMatches_eq_iff]
  rfl

theorem topicKeyexpr_inj {first second : UInt16} {name name' type type' hash hash' : Str} (unsplit : '/' ∉ type)
    (unsplit' : '/' ∉ type') (chunk : '/' ∉ hash) (chunk' : '/' ∉ hash') :
    topicKeyexpr first name type hash = topicKeyexpr second name' type' hash' ↔
      (first = second ∧ SameUpToEnds '/' name name' ∧ type = type') ∧ hash = hash' := by
  rw [topicKeyexpr_eq, topicKeyexpr_eq, append_cons_inj_right chunk chunk', baseKey_inj unsplit unsplit']

theorem Concrete.append {first second : Str} (concrete : Concrete first) (concrete' : Concrete second) :
    Concrete (first ++ second) :=
  List.forall_mem_append.mpr ⟨concrete, concrete'⟩

theorem Concrete.cons {char : Char} {key : Str} (plain : isMetaChar char = false) (concrete : Concrete key) :
    Concrete (char :: key) :=
  List.forall_mem_cons.mpr ⟨plain, concrete⟩

theorem isMetaChar_of_isNameChar {char : Char} (named : isNameChar char = true) : isMetaChar char = false := by
  simp only [isMetaChar, Bool.or_eq_false_iff, decide_eq_false_iff_not]
  refine ⟨⟨⟨?_, ?_⟩, ?_⟩, ?_⟩ <;> rintro rfl <;> cases named

theorem concrete_decimal (number : Nat) : Concrete (decimal number) := by
  intro char member
  have digit := decimal_isDigit member
  exact isMetaChar_of_isNameChar (by simp [isNameChar, Char.isAlphanum, digit])

theorem concrete_stripSlashes {name : Name} (valid : name.Valid) (node : NodeName) :
    Concrete (stripSlashes (resolveFqn name node)) := by
  intro char member
  rcases resolveFqn_chars valid node char (mem_of_mem_trimMatches member) with named | rfl
  · exact isMetaChar_of_isNameChar named
  · decide

theorem MessageTypeName.Plain.concrete {type : MessageTypeName} (plain : type.Plain) : Concrete type.ddsMsgType := by
  have kind : Concrete type.kind.text := by cases type.kind <;> decide
  have colons : Concrete "::".toList := by decide
  have text : Concrete (type.ros2PackageName ++ "/".toList ++ type.kind.text ++ "/dds_/".toList ++
      type.ros2TypeName ++ "_".toList) :=
    ((((plain.1.append (by decide)).append kind).append (by decide)).append plain.2).append (by decide)
  intro char member
  rcases mem_of_mem_replace member with colon | inside
  · exact colons char colon
  · exact text char inside

theorem concrete_baseKey (domainId : UInt16) {name : Name} (valid : name.Valid) (node : NodeName)
    {type : MessageTypeName} (plain : type.Plain) :
    Concrete (baseKey domainId (resolveFqn name node) type.ddsMsgType) :=
  (concrete_decimal _).append (.cons rfl ((concrete_stripSlashes valid node).append (.cons rfl plain.concrete)))

theorem subscriptionKey_intersects {intersects : Str → Str → Prop} (zenoh : KeyMatching intersects)
    (domainId domainId' : UInt16) (node node' : NodeName) {name name' : Name} (valid : name.Valid)
    (valid' : name'.Valid) {type type' : MessageTypeName} (plain : type.Plain) (plain' : type'.Plain)
    (qos qos' : QosProfile) {hash : Str} (chunk : SingleChunk hash) :
    intersects (subscriptionKey domainId (createTopic node name type qos))
        (publisherKey domainId' (createTopic node' name' type' qos') hash) ↔
      domainId = domainId' ∧ SameUpToEnds '/' (resolveFqn name node) (resolveFqn name' node') ∧
        type.ddsMsgType = type'.ddsMsgType := by
  have base := concrete_baseKey domainId valid node plain
  have base' := concrete_baseKey domainId' valid' node' plain'
  rw [subscriptionKey, publisherKey, topicKeyexpr_eq, topicKeyexpr_eq]
  apply (zenoh.star _ _ hash base base' chunk).trans
  rw [← baseKey_inj type.slash_not_mem_ddsMsgType type'.slash_not_mem_ddsMsgType]
  exact zenoh.concrete _ _ base base'

theorem clientSelector_eq_serverKey (sha256 : List UInt8 → List UInt8) (domainId domainId' : UInt16)
    (node node' : NodeName) (service service' : Name) (type type' : ServiceTypeName) :
    clientSelector sha256 domainId node service type = serverKey sha256 domainId' node' service' type' ↔
      domainId = domainId' ∧ SameUpToEnds '/' (resolveFqn service node) (resolveFqn service' node') ∧
        type.ddsServiceType = type'.ddsServiceType := by
  rw [clientSelector, serverKey, topicKeyexpr_inj type.slash_not_mem_ddsServiceType
    type'.slash_not_mem_ddsServiceType (slash_not_mem_senderHash _ _) (slash_not_mem_senderHash _ _),
    and_iff_left_iff_imp]
  intro made
  obtain ⟨_, _, same⟩ := made
  rw [same]

theorem data_keys_match_peers (intersects : Str → Str → Prop) (zenoh : KeyMatching intersects)
    (sha256 : List UInt8 → List UInt8) (domainId domainId' : UInt16) (node node' : NodeName) (name name' : Name)
    (built : name.Built) (built' : name'.Built) :
    (∀ (type type' : MessageTypeName) (qos qos' : QosProfile) (hash : Str), type.Plain → type'.Plain →
      SingleChunk hash →
      (intersects (subscriptionKey domainId (createTopic node name type qos))
          (publisherKey domainId' (createTopic node' name' type' qos') hash) ↔
        domainId = domainId' ∧ SameUpToEnds '/' (resolveFqn name node) (resolveFqn name' node') ∧
          type.ddsMsgType = type'.ddsMsgType)) ∧
    (∀ type type' : ServiceTypeName,
      clientSelector sha256 domainId node name type = serverKey sha256 domainId' node' name' type' ↔
        domainId = domainId' ∧ SameUpToEnds '/' (resolveFqn name node) (resolveFqn name' node') ∧
          type.ddsServiceType = type'.ddsServiceType) := by
  refine ⟨?_, ?_⟩
  · intro type type' qos qos' hash plain plain' chunk
    exact subscriptionKey_intersects zenoh domainId domainId' node node' built.valid built'.valid plain plain' qos
      qos' chunk
  · exact clientSelector_eq_serverKey sha256 domainId domainId' node node' name name'

/-- Whether two chunks match, where neither is `**`: `*` stands for every chunk that is not verbatim. -/
def chunkMatches (first second : Str) : Bool :=
  first = second || (first = wildcard && second.head? ≠ some '@') || (second = wildcard && first.head? ≠ some '@')

def chunksMatch : List Str → List Str → Bool
  | [], [] => true
  | first :: firsts, second :: seconds => chunkMatches first second && chunksMatch firsts seconds
  | _, _ => false

def keysIntersect (first second : Str) : Prop := chunksMatch (first.splitOn '/') (second.splitOn '/') = true

theorem chunksMatch_append (firsts seconds : List Str) (first second : Str) :
    chunksMatch (firsts ++ [first]) (seconds ++ [second]) =
      (chunksMatch firsts seconds && chunkMatches first second) := by
  induction firsts generalizing seconds with
  | nil =>
    cases seconds with
    | nil => simp [chunksMatch]
    | cons next seconds => cases seconds <;> simp [chunksMatch]
  | cons next firsts ih =>
    cases seconds with
    | nil => cases firsts <;> simp [chunksMatch]
    | cons next' seconds => simp [chunksMatch, ih, Bool.and_assoc]

theorem Concrete.chunk {key chunk : Str} (concrete : Concrete key) (member : chunk ∈ key.splitOn '/') :
    chunk ≠ wildcard := by
  intro same
  subst same
  have star := concrete '*' (mem_of_mem_splitOn member (by decide))
  cases star

theorem chunksMatch_concrete {firsts seconds : List Str} (concrete : wildcard ∉ firsts)
    (concrete' : wildcard ∉ seconds) : chunksMatch firsts seconds = true ↔ firsts = seconds := by
  induction firsts generalizing seconds with
  | nil => cases seconds <;> simp [chunksMatch]
  | cons first firsts ih =>
    cases seconds with
    | nil => simp [chunksMatch]
    | cons second seconds =>
      simp only [List.mem_cons, not_or] at concrete concrete'
      simp [chunksMatch, chunkMatches, ih concrete.2 concrete'.2, Ne.symm concrete.1, Ne.symm concrete'.1]

theorem keysIntersect_matching : KeyMatching keysIntersect where
  star first second chunk _ _ single := by
    have star : (first ++ "/*".toList).splitOn '/' = first.splitOn '/' ++ [wildcard] :=
      List.splitOn_append_cons_self first ['*']
    have last : (second ++ '/' :: chunk).splitOn '/' = second.splitOn '/' ++ [chunk] := by
      rw [List.splitOn_append_cons_self, List.splitOn_eq_singleton single.unsplit]
    have starMatches : chunkMatches wildcard chunk = true := by simp [chunkMatches, single.plain]
    rw [keysIntersect, star, last, chunksMatch_append, starMatches, Bool.and_true, keysIntersect]
  concrete first second concrete concrete' := by
    rw [keysIntersect, chunksMatch_concrete (fun member => concrete.chunk member rfl)
      (fun member => concrete'.chunk member rfl)]
    constructor
    · intro same
      have joined := congrArg ['/'].intercalate same
      rwa [List.intercalate_splitOn, List.intercalate_splitOn] at joined
    · intro same
      subst same
      rfl

theorem data_keys_match_peers_chatter :
    keysIntersect
      (subscriptionKey 0 (createTopic nestedNode chatter (.new "std_msgs".toList "String".toList)
        .subscriptionDefault))
      (publisherKey 0 (createTopic nestedNode chatter (.new "std_msgs".toList "String".toList)
        .subscriptionDefault) "RIHS01_df66".toList) := by
  have built : Name.new [] "chatter".toList = .ok chatter := by decide
  have keys := data_keys_match_peers keysIntersect keysIntersect_matching id 0 0 nestedNode nestedNode chatter chatter
    (.new built) (.new built)
  have plain : MessageTypeName.Plain (.new "std_msgs".toList "String".toList) := ⟨by decide, by decide⟩
  refine (keys.1 _ _ _ _ _ plain plain ⟨by decide, by decide, by decide, by decide⟩).mpr ⟨rfl, ?_, rfl⟩
  exact trimMatches_eq_iff.mp rfl

end Ros2Client
