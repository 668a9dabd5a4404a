import Ros2Client.Zenoh.JsonText
import Mathlib.Data.List.Nodup

open Text

namespace Ros2Client

def Field.withoutDefault (field : Field) : Field := ⟨field.name, field.fieldType, []⟩

def IndividualTypeDescription.withoutDefaults (description : IndividualTypeDescription) : IndividualTypeDescription :=
  ⟨description.typeName, description.fields.map Field.withoutDefault⟩

def nameOrder (first second : IndividualTypeDescription) : Bool := (compare first.typeName second.typeName).isLE

theorem decimal_determines {α : Type} (number : α → Nat) (literal : Str) (comma : literal.head? = some ',') :
    Determines (fun item => decimal (number item) ++ literal) number :=
  .terminated comma (fun _ => not_mem_decimal rfl _) fun _ _ same => decimal_inj.mp same

theorem writeFieldType_determines : Determines writeFieldType id := by
  have typeId := (decimal_determines (fun fieldType : FieldType => fieldType.typeId.toNat)
    ", \"capacity\": ".toList rfl).after "\x7b\"type_id\": ".toList
  have capacity := decimal_determines (fun fieldType : FieldType => fieldType.capacity.toNat)
    ", \"string_capacity\": ".toList rfl
  have stringCapacity := decimal_determines (fun fieldType : FieldType => fieldType.stringCapacity.toNat)
    ", \"nested_type_name\": ".toList rfl
  have nested := (writeJsonString_determines.comp FieldType.nestedTypeName).before "\x7d".toList
  have whole := typeId.append (capacity.append (stringCapacity.append nested))
  intro first second rest rest' same
  delta writeFieldType at same
  obtain ⟨parts, rests⟩ := whole first second rest rest' (by
    simpa only [List.append_assoc] using same)
  obtain ⟨typeId, capacity, stringCapacity, nestedTypeName⟩ := first
  obtain ⟨typeId', capacity', stringCapacity', nestedTypeName'⟩ := second
  simp only [Prod.mk.injEq, UInt8.toNat_inj, UInt64.toNat_inj, id] at parts
  obtain ⟨rfl, rfl, rfl, rfl⟩ := parts
  exact ⟨rfl, rests⟩

theorem writeField_determines : Determines writeField Field.withoutDefault := by
  have name := (writeJsonString_determines.comp Field.name).after "\x7b\"name\": ".toList
  have fieldType := ((writeFieldType_determines.comp Field.fieldType).after ", \"type\": ".toList).before "\x7d".toList
  intro first second rest rest' same
  delta writeField at same
  obtain ⟨parts, rests⟩ := (name.append fieldType) first second rest rest' (by
    simpa only [List.append_assoc] using same)
  obtain ⟨names, types⟩ := Prod.mk.inj parts
  exact ⟨Field.mk.injEq .. ▸ ⟨names, types, rfl⟩, rests⟩

theorem writeItd_determines : Determines writeItd IndividualTypeDescription.withoutDefaults := by
  have comma : ", ".toList.head? = some ',' := rfl
  have bracket : "]\x7d".toList.head? = some ']' := rfl
  have list := writeField_determines.separated comma bracket (by decide) fun field => ⟨'\x7b', _, rfl, by decide⟩
  have typeName := (writeJsonString_determines.comp IndividualTypeDescription.typeName).after
    "\x7b\"type_name\": ".toList
  have fields := (list.comp IndividualTypeDescription.fields).after ", \"fields\": [".toList
  intro first second rest rest' same
  delta writeItd at same
  obtain ⟨parts, rests⟩ := (typeName.append fields) first second rest rest' (by
    simpa only [List.append_assoc] using same)
  obtain ⟨names, lists⟩ := Prod.mk.inj parts
  exact ⟨IndividualTypeDescription.mk.injEq .. ▸ ⟨names, lists⟩, rests⟩

theorem writeField_withoutDefault (field : Field) : writeField field.withoutDefault = writeField field := rfl

theorem writeItd_withoutDefaults (description : IndividualTypeDescription) :
    writeItd description.withoutDefaults = writeItd description := by
  have fields : description.withoutDefaults.fields.map writeField = description.fields.map writeField := by
    rw [IndividualTypeDescription.withoutDefaults, List.map_map]
    exact List.map_congr_left fun field _ => writeField_withoutDefault field
  delta writeItd
  rw [fields]
  rfl

def TypeDescription.refs (description : TypeDescription) : List IndividualTypeDescription :=
  description.referencedTypeDescriptions.mergeSort nameOrder

theorem hashableJson_eq (description : TypeDescription) : description.hashableJson =
    "\x7b\"type_description\": ".toList ++ writeItd description.typeDescription ++
      ", \"referenced_type_descriptions\": [".toList ++ ", ".toList.intercalate (description.refs.map writeItd) ++
      "]\x7d".toList := rfl

theorem hashableJson_determines : Determines TypeDescription.hashableJson fun description =>
    (description.typeDescription.withoutDefaults,
      description.refs.map IndividualTypeDescription.withoutDefaults) := by
  have comma : ", ".toList.head? = some ',' := rfl
  have bracket : "]\x7d".toList.head? = some ']' := rfl
  have list := writeItd_determines.separated comma bracket (by decide) fun itd => ⟨'\x7b', _, rfl, by decide⟩
  have top := (writeItd_determines.comp TypeDescription.typeDescription).after "\x7b\"type_description\": ".toList
  have refs := (list.comp TypeDescription.refs).after ", \"referenced_type_descriptions\": [".toList
  intro first second rest rest' same
  rw [hashableJson_eq, hashableJson_eq] at same
  apply (top.append refs) first second rest rest'
  simpa only [List.append_assoc] using same

theorem nameOrder_trans (first second third : IndividualTypeDescription) (left : nameOrder first second = true)
    (right : nameOrder second third = true) : nameOrder first third = true :=
  Std.TransCmp.isLE_trans left right

theorem nameOrder_total (first second : IndividualTypeDescription) :
    (nameOrder first second || nameOrder second first) = true := by
  have turned : compare second.typeName first.typeName = (compare first.typeName second.typeName).swap :=
    Std.OrientedCmp.eq_swap
  rw [nameOrder, nameOrder, turned]
  cases compare first.typeName second.typeName <;> rfl

theorem nameOrder_antisymm {first second : IndividualTypeDescription} (left : nameOrder first second = true)
    (right : nameOrder second first = true) : first.typeName = second.typeName :=
  Std.LawfulEqCmp.compare_eq_iff_eq.mp (Std.OrientedCmp.isLE_antisymm left right)

/-- Distinct names leave one order to write the descriptions in. -/
theorem mergeSort_eq_of_perm {first second : List IndividualTypeDescription}
    (distinct : (first.map (·.typeName)).Nodup) (perm : first.Perm second) :
    first.mergeSort nameOrder = second.mergeSort nameOrder := by
  have sorted : ∀ list : List IndividualTypeDescription, (list.mergeSort nameOrder).Pairwise (nameOrder · ·) :=
    List.pairwise_mergeSort nameOrder_trans nameOrder_total
  have perms : (first.mergeSort nameOrder).Perm (second.mergeSort nameOrder) :=
    (List.mergeSort_perm first nameOrder).trans (perm.trans (List.mergeSort_perm second nameOrder).symm)
  apply List.Perm.eq_of_pairwise ?_ (sorted first) (sorted second) perms
  intro itd itd' member member' left right
  have inside : itd ∈ first := List.mem_mergeSort.mp member
  have inside' : itd' ∈ first := perm.mem_iff.mpr (List.mem_mergeSort.mp member')
  exact List.inj_on_of_nodup_map distinct inside inside' (nameOrder_antisymm left right)

theorem refs_withoutDefaults (description : TypeDescription) :
    description.refs.map IndividualTypeDescription.withoutDefaults =
      (description.referencedTypeDescriptions.map IndividualTypeDescription.withoutDefaults).mergeSort nameOrder :=
  List.map_mergeSort fun _ _ _ _ => rfl

theorem hashableJson_congr {first second : TypeDescription}
    (top : first.typeDescription.withoutDefaults = second.typeDescription.withoutDefaults)
    (refs : first.refs.map IndividualTypeDescription.withoutDefaults =
      second.refs.map IndividualTypeDescription.withoutDefaults) : first.hashableJson = second.hashableJson := by
  have texts : ∀ list : List IndividualTypeDescription,
      list.map writeItd = (list.map IndividualTypeDescription.withoutDefaults).map writeItd := by
    intro list
    rw [List.map_map]
    exact List.map_congr_left fun itd _ => (writeItd_withoutDefaults itd).symm
  rw [hashableJson_eq, hashableJson_eq, ← writeItd_withoutDefaults first.typeDescription, top,
    writeItd_withoutDefaults, texts first.refs, refs, ← texts]

theorem hashableJson_iff {first second : TypeDescription}
    (distinct : (first.referencedTypeDescriptions.map (·.typeName)).Nodup) :
    first.hashableJson = second.hashableJson ↔
      first.typeDescription.withoutDefaults = second.typeDescription.withoutDefaults ∧
      (first.referencedTypeDescriptions.map IndividualTypeDescription.withoutDefaults).Perm
        (second.referencedTypeDescriptions.map IndividualTypeDescription.withoutDefaults) := by
  constructor
  · intro same
    obtain ⟨top, refs⟩ := Prod.mk.inj (hashableJson_determines.write_inj same)
    rw [refs_withoutDefaults, refs_withoutDefaults] at refs
    have perm := List.mergeSort_perm
      (first.referencedTypeDescriptions.map IndividualTypeDescription.withoutDefaults) nameOrder
    have perm' := List.mergeSort_perm
      (second.referencedTypeDescriptions.map IndividualTypeDescription.withoutDefaults) nameOrder
    exact ⟨top, perm.symm.trans (refs ▸ perm')⟩
  · intro ⟨top, perm⟩
    apply hashableJson_congr top
    rw [refs_withoutDefaults, refs_withoutDefaults]
    apply mergeSort_eq_of_perm ?_ perm
    rw [List.map_map]
    exact distinct

theorem hashable_json_canonical (sha256 : List UInt8 → List UInt8) (first second : TypeDescription)
    (distinct : (first.referencedTypeDescriptions.map (·.typeName)).Nodup)
    (_distinct : (second.referencedTypeDescriptions.map (·.typeName)).Nodup) :
    (first.hashableJson = second.hashableJson ↔
      first.typeDescription.withoutDefaults = second.typeDescription.withoutDefaults ∧
      (first.referencedTypeDescriptions.map IndividualTypeDescription.withoutDefaults).Perm
        (second.referencedTypeDescriptions.map IndividualTypeDescription.withoutDefaults)) ∧
    (first.typeDescription = second.typeDescription →
      first.referencedTypeDescriptions.Perm second.referencedTypeDescriptions →
      first.rihs01 sha256 = second.rihs01 sha256) := by
  refine ⟨hashableJson_iff distinct, ?_⟩
  intro top perm
  have same : first.hashableJson = second.hashableJson :=
    (hashableJson_iff distinct).mpr ⟨by rw [top], perm.map _⟩
  delta TypeDescription.rihs01
  rw [same]

/-- Two referenced types in either order, one with a default value and one whose name needs a surrogate pair. -/
theorem hashable_json_canonical_reordered :
    (TypeDescription.mk ⟨['t'], []⟩ [⟨['😀'], []⟩, ⟨['p'], [⟨['x'], .scalar 10, ['1']⟩]⟩]).hashableJson =
      (TypeDescription.mk ⟨['t'], []⟩ [⟨['p'], [⟨['x'], .scalar 10, []⟩]⟩, ⟨['😀'], []⟩]).hashableJson := by
  have canonical := hashable_json_canonical (fun _ => [])
    (.mk ⟨['t'], []⟩ [⟨['😀'], []⟩, ⟨['p'], [⟨['x'], .scalar 10, ['1']⟩]⟩])
    (.mk ⟨['t'], []⟩ [⟨['p'], [⟨['x'], .scalar 10, []⟩]⟩, ⟨['😀'], []⟩]) (by decide) (by decide)
  rw [canonical.1]
  exact ⟨rfl, List.Perm.swap _ _ _⟩

end Ros2Client
