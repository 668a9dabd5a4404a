import Ros2Client.Zenoh.KeyExpr
import Std.Data.TreeMap.Lemmas

open Std (TreeMap)

namespace Ros2Client

structure GraphEntity where
  kind : EntityKind
  nodeName : Str
  name : Option Str
  typeName : Option Str
deriving DecidableEq

inductive GraphEvent
  | entityDeclared (entity : GraphEntity)
  | entityUndeclared (entity : GraphEntity)
deriving DecidableEq

def joinFqn (nodeNamespace name : Str) : Str :=
  if nodeNamespace = [] || nodeNamespace = "/".toList then "/".toList ++ name
  else nodeNamespace ++ "/".toList ++ name

def GraphEntity.ofParsed (entity : ParsedEntity) : GraphEntity where
  kind := entity.kind
  nodeName := joinFqn entity.nodeNamespace entity.nodeName
  name := entity.topicName
  typeName := entity.typeName

abbrev Entities := TreeMap Str ParsedEntity

def Entities.countKindOnTopic (entities : Entities) (kind : EntityKind) (topic : Str) : Nat :=
  ((entities.toList.map (·.2)).filter fun entity => entity.kind = kind && entity.topicName = some topic).length

theorem Entities.countKindOnTopic_pos {entities : Entities} {kind : EntityKind} {topic : Str} :
    0 < entities.countKindOnTopic kind topic ↔
      ∃ (key : Str) (entity : ParsedEntity), entities[key]? = some entity ∧ entity.kind = kind ∧
        entity.topicName = some topic := by
  rw [countKindOnTopic, List.length_pos_iff_exists_mem]
  simp only [List.mem_filter, List.mem_map, Bool.and_eq_true, decide_eq_true_eq]
  constructor
  · intro counted
    obtain ⟨entity, ⟨⟨key, _⟩, member, rfl⟩, same⟩ := counted
    exact ⟨key, _, TreeMap.mem_toList_iff_getElem?_eq_some.mp member, same⟩
  · intro held
    obtain ⟨key, entity, found, same⟩ := held
    exact ⟨entity, ⟨(key, entity), TreeMap.mem_toList_iff_getElem?_eq_some.mpr found, rfl⟩, same⟩

theorem Entities.countKindOnTopic_insert {entities : Entities} {key : Str} {entity : ParsedEntity}
    {kind : EntityKind} {topic : Str}
    (positive : 0 < Entities.countKindOnTopic (entities.insert key entity) kind topic) :
    (entity.kind = kind ∧ entity.topicName = some topic) ∨ 0 < entities.countKindOnTopic kind topic := by
  obtain ⟨other, found, present, same⟩ := countKindOnTopic_pos.mp positive
  rw [TreeMap.getElem?_insert] at present
  split at present
  · cases present
    exact .inl same
  · exact .inr (countKindOnTopic_pos.mpr ⟨other, found, present, same⟩)

theorem Entities.countKindOnTopic_erase {entities : Entities} {key : Str} {kind : EntityKind} {topic : Str}
    (positive : 0 < Entities.countKindOnTopic (entities.erase key) kind topic) :
    0 < entities.countKindOnTopic kind topic := by
  obtain ⟨other, found, present, same⟩ := countKindOnTopic_pos.mp positive
  rw [TreeMap.getElem?_erase] at present
  split at present
  · cases present
  · exact countKindOnTopic_pos.mpr ⟨other, found, present, same⟩

def ParsedEntity.counts (kind : EntityKind) (topic : Str) (entity : ParsedEntity) : Bool :=
  entity.kind = kind && entity.topicName = some topic

theorem Entities.countKindOnTopic_eq (entities : Entities) (kind : EntityKind) (topic : Str) :
    entities.countKindOnTopic kind topic = entities.toList.countP fun entry => entry.2.counts kind topic := by
  rw [countKindOnTopic, ← List.countP_eq_length_filter, List.countP_map]
  rfl

theorem Entities.countKindOnTopic_insert_new {entities : Entities} {key : Str} (absent : entities[key]? = none)
    (entity : ParsedEntity) (kind : EntityKind) (topic : Str) :
    Entities.countKindOnTopic (entities.insert key entity) kind topic =
      entities.countKindOnTopic kind topic + if entity.counts kind topic then 1 else 0 := by
  have others : entities.toList.filter (fun entry => ¬(key == entry.1) = true) = entities.toList := by
    apply List.filter_eq_self.mpr
    intro entry member
    have found := TreeMap.mem_toList_iff_getElem?_eq_some.mp member
    have different : key ≠ entry.1 := by
      intro same
      rw [← same, absent] at found
      cases found
    simpa using different
  have moved : (entities.insert key entity).toList.Perm _ := TreeMap.toList_insert_perm
  rw [others] at moved
  rw [countKindOnTopic_eq, countKindOnTopic_eq, moved.countP_eq, List.countP_cons]

theorem Entities.countKindOnTopic_erase_present {entities : Entities} {key : Str} {entity : ParsedEntity}
    (present : entities[key]? = some entity) (kind : EntityKind) (topic : Str) :
    Entities.countKindOnTopic (entities.erase key) kind topic + (if entity.counts kind topic then 1 else 0) =
      entities.countKindOnTopic kind topic := by
  have absent : (entities.erase key)[key]? = none := by simp
  have restored : TreeMap.Equiv ((entities.erase key).insert key entity) entities := by
    apply TreeMap.Equiv.of_forall_constGet?_eq
    intro other
    rw [TreeMap.getElem?_insert, TreeMap.getElem?_erase]
    by_cases same : key = other
    · subst same
      simp [present]
    · simp [same]
  have same := restored.toList_eq
  have counted := countKindOnTopic_insert_new absent entity kind topic
  rw [countKindOnTopic_eq, same, ← countKindOnTopic_eq] at counted
  omega

end Ros2Client
