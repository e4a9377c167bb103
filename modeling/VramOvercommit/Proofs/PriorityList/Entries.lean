import Mathlib.Data.List.Induction
import Mathlib.Data.List.Nodup
import Mathlib.Data.List.Perm.Subperm
import VramOvercommit.Proofs.PriorityList.Chain

set_option autoImplicit false

/-!
A priority list is a plain list of handles with values. Its chain covers exactly the occupied slots,
so that `toList` loses nothing, and each operation is the plain one: a new entry goes in front, an
entry is taken out or moved to an end, a value is replaced in place. No operation aborts.
-/

namespace VramOvercommit.PriorityList

variable {α : Type}

/-- The chain covers the occupied slots and the empty ones wait for reuse. -/
structure Ordered (list : PriorityList α) (order : List Nat) : Prop extends Chained list order where
  occupied : ∀ index, index ∈ order ↔ (list.entryAt? index).isSome
  size_eq : list.size = order.length
  freeNodup : list.freeSlots.Nodup
  free : ∀ index, index ∈ list.freeSlots ↔ index < list.slots.size ∧ list.entryAt? index = none
  slots_le : list.slots.size ≤ slotLimit

/-- What holds of a priority list between any two of its operations. -/
def WellLinked (list : PriorityList α) : Prop := ∃ order, Ordered list order

theorem wellLinked_empty : WellLinked ({} : PriorityList α) :=
  ⟨[], ⟨.nil rfl rfl, by simp [entryAt?], rfl, List.nodup_nil, by simp,
    by simp⟩⟩

theorem entryAt?_index {list : PriorityList α} {index : Nat} {entry : Handle × α}
    (found : list.entryAt? index = some entry) : entry.1.index = index := by
  unfold entryAt? at found
  simp only [Option.bind_eq_some_iff, Option.map_eq_some_iff] at found
  obtain ⟨slot, -, node, -, rfl⟩ := found
  rfl

theorem get?_eq_some_iff {list : PriorityList α} {handle : Handle} {value : α} :
    list.get? handle = some value ↔ list.entryAt? handle.index = some (handle, value) := by
  obtain ⟨index, generation⟩ := handle
  unfold get? resolve? entryAt?
  dsimp only
  cases list.slots[index]? with
  | none => simp
  | some slot =>
    obtain ⟨generation', node⟩ := slot
    dsimp only [Option.bind_some]
    by_cases same : generation' = generation
    · subst same
      cases node <;> simp
    · rw [if_neg same]
      cases node <;> simp [same]

theorem contains_iff {list : PriorityList α} {handle : Handle} :
    list.contains handle = true ↔ ∃ value, list.get? handle = some value := by
  unfold contains get?
  cases list.resolve? handle <;> simp

/-! ## The plain list -/

/-- Following the chain for enough steps visits the slots of a segment. -/
theorem chainDown_eq {list : PriorityList α} {above : Option Nat} {order : List Nat} {steps : Nat}
    (segment : Segment list above order none) (enough : order.length ≤ steps) :
    list.chainDown steps order.head? = order.filterMap list.entryAt? := by
  induction order generalizing above steps with
  | nil => cases steps <;> rfl
  | cons index rest ih =>
    obtain ⟨⟨value, node⟩, tail⟩ := segment
    obtain ⟨generation, slot, entry⟩ := exists_slot node
    cases steps with
    | zero => simp at enough
    | succ steps =>
      have shorter : rest.length ≤ steps := by simpa using enough
      simp only [List.head?_cons, chainDown, slot, Option.or_none, ih tail shorter,
        List.filterMap_cons, entry]

theorem Ordered.length_le {list : PriorityList α} {order : List Nat}
    (ordered : Ordered list order) :
    order.length ≤ list.slots.size := by
  have inside : order ⊆ List.range list.slots.size := by
    intro index member
    obtain ⟨node, found⟩ := ordered.segment.exists_node member
    exact List.mem_range.mpr (index_lt_of_node? found)
  simpa using (List.subperm_of_subset ordered.nodup inside).length_le

theorem Ordered.toList_eq {list : PriorityList α} {order : List Nat}
    (ordered : Ordered list order) :
    list.toList = order.filterMap list.entryAt? := by
  unfold toList
  rw [ordered.highest]
  exact chainDown_eq ordered.segment ordered.length_le

theorem filterMap_entryAt?_index {list : PriorityList α} {order : List Nat}
    (occupied : ∀ index ∈ order, (list.entryAt? index).isSome) :
    (order.filterMap list.entryAt?).map (fun entry => entry.1.index) = order := by
  induction order with
  | nil => rfl
  | cons index rest ih =>
    obtain ⟨entry, found⟩ := Option.isSome_iff_exists.mp (occupied index List.mem_cons_self)
    have others := ih fun other member => occupied other (List.mem_cons_of_mem _ member)
    simp only [List.filterMap_cons, found, List.map_cons, entryAt?_index found, others]

theorem Ordered.indices {list : PriorityList α} {order : List Nat} (ordered : Ordered list order) :
    list.toList.map (fun entry => entry.1.index) = order := by
  rw [ordered.toList_eq]
  exact filterMap_entryAt?_index fun index member => (ordered.occupied index).mp member

theorem WellLinked.mem_toList {list : PriorityList α} (linked : WellLinked list) {handle : Handle}
    {value : α} : (handle, value) ∈ list.toList ↔ list.get? handle = some value := by
  obtain ⟨order, ordered⟩ := linked
  rw [ordered.toList_eq, List.mem_filterMap, get?_eq_some_iff]
  constructor
  · intro outcome
    obtain ⟨index, -, found⟩ := outcome
    rw [← found, ← entryAt?_index found]
  · intro found
    exact ⟨handle.index, (ordered.occupied _).mpr (by simp [found]), found⟩

theorem WellLinked.handles_nodup {list : PriorityList α} (linked : WellLinked list) :
    list.handles.Nodup := by
  obtain ⟨order, ordered⟩ := linked
  have indices : (list.handles.map Handle.index).Nodup := by
    have := ordered.indices
    unfold handles
    rw [List.map_map]
    change (list.toList.map fun entry => entry.1.index).Nodup
    rw [this]
    exact ordered.nodup
  exact indices.of_map _

theorem WellLinked.mem_handles {list : PriorityList α} (linked : WellLinked list)
    {handle : Handle} : handle ∈ list.handles ↔ ∃ value, list.get? handle = some value := by
  unfold handles
  rw [List.mem_map]
  constructor
  · intro outcome
    obtain ⟨⟨handle, value⟩, member, rfl⟩ := outcome
    exact ⟨value, linked.mem_toList.mp member⟩
  · intro outcome
    obtain ⟨value, found⟩ := outcome
    exact ⟨(handle, value), linked.mem_toList.mpr found, rfl⟩

theorem WellLinked.mem_values {list : PriorityList α} (linked : WellLinked list) {value : α} :
    value ∈ list.values ↔ ∃ handle, list.get? handle = some value := by
  unfold values
  rw [List.mem_map]
  constructor
  · intro outcome
    obtain ⟨⟨handle, value⟩, member, rfl⟩ := outcome
    exact ⟨handle, linked.mem_toList.mp member⟩
  · intro outcome
    obtain ⟨handle, found⟩ := outcome
    exact ⟨(handle, value), linked.mem_toList.mpr found, rfl⟩

/-- The values are those of the handles, in their order. -/
theorem WellLinked.values_eq {list : PriorityList α} (linked : WellLinked list) :
    list.values = list.handles.filterMap list.get? := by
  unfold values handles
  rw [List.filterMap_map]
  have each : ∀ entry ∈ list.toList, (list.get? ∘ Prod.fst) entry = some entry.2 :=
    fun entry member => linked.mem_toList.mp member
  rw [List.filterMap_congr each, List.filterMap_eq_map']

/-- Entries of the list are told by their handles. -/
theorem WellLinked.entries_eq {list : PriorityList α} (linked : WellLinked list)
    {entries : List (Handle × α)} (inside : ∀ entry ∈ entries, entry ∈ list.toList) :
    (entries.map Prod.fst).filterMap (fun handle => (list.get? handle).map (handle, ·)) =
      entries := by
  rw [List.filterMap_map]
  refine (List.filterMap_congr (g := some) fun entry member => ?_).trans List.filterMap_some
  simp only [Function.comp_apply, linked.mem_toList.mp (inside entry member), Option.map_some]

/-- Lists of the same handles that agree on those in front of an entry are the same up to it. -/
theorem WellLinked.front_eq {list other : PriorityList α} {handle : Handle} {value : α}
    {front back : List (Handle × α)} (linked : WellLinked list) (linked' : WellLinked other)
    (handles : other.handles = list.handles)
    (split : list.toList = front ++ (handle, value) :: back)
    (same : ∀ entry ∈ front, other.get? entry.1 = list.get? entry.1) :
    ∃ left rest, other.toList = front ++ (handle, left) :: rest := by
  unfold PriorityList.handles at handles
  rw [split, List.map_append, List.map_cons, List.map_eq_append_iff] at handles
  obtain ⟨front', back', split', fronts, backs⟩ := handles
  obtain ⟨⟨handle', left⟩, rest, rfl, rfl, -⟩ := List.map_eq_cons_iff.mp backs
  refine ⟨left, rest, ?_⟩
  have inside : ∀ entry ∈ front, entry ∈ list.toList := fun entry member =>
    split ▸ List.mem_append_left _ member
  have inside' : ∀ entry ∈ front', entry ∈ other.toList := fun entry member =>
    split' ▸ List.mem_append_left _ member
  have before := linked.entries_eq inside
  have after := linked'.entries_eq inside'
  rw [fronts] at after
  rw [split', ← after]
  congr 1
  refine (List.filterMap_congr fun handle member => ?_).trans before
  obtain ⟨entry, inside, rfl⟩ := List.mem_map.mp member
  rw [same entry inside]

/-- Lists of the same entries answer alike for every handle. -/
theorem WellLinked.get?_eq_of_perm {list other : PriorityList α} (linked : WellLinked list)
    (linked' : WellLinked other) (same : other.toList.Perm list.toList) (handle : Handle) :
    other.get? handle = list.get? handle := by
  apply Option.ext
  intro value
  rw [← linked.mem_toList, ← linked'.mem_toList, same.mem_iff]

/-! ## Going upwards -/

theorem handleAt?_eq {list : PriorityList α} {index : Nat} {entry : Handle × α}
    (found : list.entryAt? index = some entry) : list.handleAt? index = some entry.1 := by
  unfold entryAt? at found
  unfold handleAt?
  simp only [Option.bind_eq_some_iff, Option.map_eq_some_iff] at found
  obtain ⟨slot, inside, node, -, rfl⟩ := found
  rw [inside]
  rfl

theorem resolve?_eq {list : PriorityList α} {index : Nat} {entry : Handle × α} {node : Node α}
    (found : list.entryAt? index = some entry) (occupied : list.node? index = some node) :
    list.resolve? entry.1 = some node := by
  obtain ⟨generation, slot, same⟩ := exists_slot occupied
  rw [found, Option.some.injEq] at same
  subst same
  simp [resolve?, slot]

theorem higher?_eq {list : PriorityList α} {index : Nat} {entry : Handle × α} {node : Node α}
    (found : list.entryAt? index = some entry) (occupied : list.node? index = some node) :
    list.higher? entry.1 = node.higher.bind list.handleAt? := by
  simp [higher?, resolve?_eq found occupied]

theorem lower?_eq {list : PriorityList α} {index : Nat} {entry : Handle × α} {node : Node α}
    (found : list.entryAt? index = some entry) (occupied : list.node? index = some node) :
    list.lower? entry.1 = node.lower.bind list.handleAt? := by
  simp [lower?, resolve?_eq found occupied]

/-- Going upwards for enough steps visits the slots of a segment in reverse. -/
theorem chainUp_eq {list : PriorityList α} {below : Option Nat} {order : List Nat} {steps : Nat}
    (segment : Segment list none order below) (enough : order.length ≤ steps) :
    list.chainUp steps (order.getLast?.bind list.handleAt?) =
      ((order.filterMap list.entryAt?).map Prod.fst).reverse := by
  induction order using List.reverseRecOn generalizing below steps with
  | nil => cases steps <;> rfl
  | append_singleton front index ih =>
    obtain ⟨before, ⟨value, node⟩, -⟩ := Segment.append_iff.mp segment
    obtain ⟨generation, slot, entry⟩ := exists_slot node
    cases steps with
    | zero => simp at enough
    | succ steps =>
      have shorter : front.length ≤ steps := by simpa using enough
      have above := higher?_eq entry node
      simp only [Option.or_none] at above
      simp only [List.getLast?_concat, Option.bind_some, handleAt?_eq entry, chainUp, above,
        ih before shorter, List.filterMap_append, List.filterMap_cons, entry, List.filterMap_nil,
        List.map_append, List.map_cons, List.map_nil, List.reverse_append, List.reverse_cons,
        List.reverse_nil, List.nil_append, List.singleton_append]

/-- The walk from the lowest entry upwards is the list in reverse. -/
theorem WellLinked.ascending_eq {list : PriorityList α} (linked : WellLinked list) :
    list.ascending = list.handles.reverse := by
  obtain ⟨order, ordered⟩ := linked
  unfold ascending lowest? handles
  rw [ordered.lowest, chainUp_eq ordered.segment ordered.length_le, ordered.toList_eq]

end VramOvercommit.PriorityList
