import VramOvercommit.Proofs.PriorityList.Entries

set_option autoImplicit false

/-!
The operations of a priority list as operations on the plain list of its entries. Each keeps the
chain in order and aborts in no case.
-/

namespace VramOvercommit.PriorityList

variable {α : Type} {list : PriorityList α} {handle : Handle} {value : α}

/-- A live entry splits the chain at its slot and the plain list at the same place. -/
theorem Ordered.split {order : List Nat} (ordered : Ordered list order)
    (live : list.get? handle = some value) :
    ∃ front back, order = front ++ handle.index :: back ∧
      list.toList =
        front.filterMap list.entryAt? ++ (handle, value) :: back.filterMap list.entryAt? := by
  have entry := get?_eq_some_iff.mp live
  have member : handle.index ∈ order := (ordered.occupied _).mpr (by simp [entry])
  obtain ⟨front, back, rfl⟩ := List.append_of_mem member
  refine ⟨front, back, rfl, ?_⟩
  rw [ordered.toList_eq, List.filterMap_append, List.filterMap_cons, entry]

theorem filterMap_entryAt?_congr {other : PriorityList α} {order : List Nat}
    (same : ∀ index ∈ order, other.entryAt? index = list.entryAt? index) :
    order.filterMap other.entryAt? = order.filterMap list.entryAt? :=
  List.filterMap_congr same

/-! ## Replacing a value -/

theorem set_of_stale (stale : list.get? handle = none) : list.set handle value = list := by
  unfold get? at stale
  rw [Option.map_eq_none_iff] at stale
  simp [set, stale]

theorem set_eq_putNode {old : α} (live : list.get? handle = some old) (value : α) :
    ∃ node, list.node? handle.index = some node ∧
      list.set handle value = list.putNode handle.index (some { node with value }) := by
  unfold get? at live
  obtain ⟨node, resolved, -⟩ := Option.map_eq_some_iff.mp live
  refine ⟨node, ?_, by simp [set, resolved]⟩
  unfold resolve? at resolved
  unfold node?
  cases found : list.slots[handle.index]? with
  | none => simp [found] at resolved
  | some slot =>
    simp only [found, Option.ite_none_right_eq_some] at resolved
    exact resolved.2

theorem entryAt?_set {old : α} (live : list.get? handle = some old) (value : α) (index : Nat) :
    (list.set handle value).entryAt? index =
      if index = handle.index then some (handle, value) else list.entryAt? index := by
  obtain ⟨node, occupied, eq⟩ := set_eq_putNode live value
  obtain ⟨generation, found, entry⟩ := exists_slot occupied
  rw [get?_eq_some_iff.mp live, Option.some.injEq, Prod.mk.injEq] at entry
  rw [eq]
  by_cases same : index = handle.index
  · subst same
    simp [entryAt?, putNode, Array.getElem?_modify, found, ← entry.1]
  · simp [entryAt?, putNode, Array.getElem?_modify, same, Ne.symm same]

/-- Replacing a value changes no link. -/
theorem Segment.set {above below : Option Nat} {order : List Nat} {old : α}
    (segment : Segment list above order below) (live : list.get? handle = some old) :
    Segment (list.set handle value) above order below := by
  obtain ⟨node, occupied, eq⟩ := set_eq_putNode live value
  have inside := index_lt_of_node? occupied
  rw [eq]
  induction order generalizing above with
  | nil => trivial
  | cons index rest ih =>
    obtain ⟨⟨value', node'⟩, tail⟩ := segment
    refine ⟨?_, ih tail⟩
    by_cases same : index = handle.index
    · subst same
      rw [occupied] at node'
      cases node'
      exact ⟨value, by simp [node?_putNode, inside]⟩
    · exact ⟨value', by simp [node?_putNode, same, node']⟩

theorem Ordered.set {order : List Nat} {old : α} (ordered : Ordered list order)
    (live : list.get? handle = some old) : Ordered (list.set handle value) order := by
  obtain ⟨node, occupied, eq⟩ := set_eq_putNode live value
  have entries := entryAt?_set live value
  have present := get?_eq_some_iff.mp live
  have slots : (list.set handle value).slots.size = list.slots.size := by rw [eq]; simp
  refine ⟨⟨ordered.nodup, ordered.segment.set live, ?_, ?_⟩, ?_, ?_, ?_, ?_, slots ▸ ordered.slots_le⟩
  · rw [eq]
    exact ordered.highest
  · rw [eq]
    exact ordered.lowest
  · intro index
    rw [entries, ordered.occupied]
    by_cases same : index = handle.index
    · simp [same, present]
    · simp [same]
  · rw [eq]
    exact ordered.size_eq
  · rw [eq]
    exact ordered.freeNodup
  · intro index
    have free := ordered.free index
    have freeSlots : (list.set handle value).freeSlots = list.freeSlots := by rw [eq]; rfl
    rw [freeSlots, slots, entries, free]
    by_cases same : index = handle.index
    · simp [same, present]
    · simp [same]

theorem WellLinked.set (linked : WellLinked list) : WellLinked (list.set handle value) := by
  cases live : list.get? handle with
  | none => rwa [set_of_stale live]
  | some old =>
    obtain ⟨order, ordered⟩ := linked
    exact ⟨order, ordered.set live⟩

theorem get?_set_self {old : α} (live : list.get? handle = some old) (value : α) :
    (list.set handle value).get? handle = some value := by
  rw [get?_eq_some_iff, entryAt?_set live value, if_pos rfl]

theorem get?_set_of_ne {other : Handle} (different : other ≠ handle) :
    (list.set handle value).get? other = list.get? other := by
  cases live : list.get? handle with
  | none => rw [set_of_stale live]
  | some old =>
    apply Option.ext
    intro found
    rw [get?_eq_some_iff, get?_eq_some_iff, entryAt?_set live value]
    by_cases same : other.index = handle.index
    · -- the slot is occupied under another generation, before and after
      rw [if_pos same, same, get?_eq_some_iff.mp live]
      simp [Ne.symm different]
    · rw [if_neg same]

/-- A live entry splits the plain list, and replacing its value changes nothing around it. -/
theorem WellLinked.split (linked : WellLinked list) (live : list.get? handle = some value) :
    ∃ front back, list.toList = front ++ (handle, value) :: back ∧
      ∀ new, (list.set handle new).toList = front ++ (handle, new) :: back := by
  obtain ⟨order, ordered⟩ := linked
  obtain ⟨front, back, rfl, entries⟩ := ordered.split live
  refine ⟨_, _, entries, fun new => ?_⟩
  obtain ⟨notFront, notBack, -⟩ := ordered.cut
  have others := entryAt?_set live new
  have same : ∀ index, index ≠ handle.index →
      (list.set handle new).entryAt? index = list.entryAt? index := by
    intro index different
    rw [others, if_neg different]
  rw [(ordered.set live).toList_eq, List.filterMap_append, List.filterMap_cons, others, if_pos rfl,
    filterMap_entryAt?_congr fun index member => same index fun equal => notFront (equal ▸ member),
    filterMap_entryAt?_congr fun index member => same index fun equal => notBack (equal ▸ member)]

/-- Replacing a value exchanges one value for another. -/
theorem WellLinked.perm_values (linked : WellLinked list) (live : list.get? handle = some value) :
    ∃ rest, list.values.Perm (value :: rest) ∧
      ∀ new, (list.set handle new).values.Perm (new :: rest) := by
  obtain ⟨front, back, before, after⟩ := linked.split live
  refine ⟨(front ++ back).map Prod.snd, ?_, fun new => ?_⟩
  · unfold values
    rw [before]
    exact List.perm_middle.map Prod.snd
  · unfold values
    rw [after]
    exact List.perm_middle.map Prod.snd

theorem WellLinked.handles_set (linked : WellLinked list) :
    (list.set handle value).handles = list.handles := by
  cases live : list.get? handle with
  | none => rw [set_of_stale live]
  | some old =>
    obtain ⟨front, back, before, after⟩ := linked.split live
    simp [handles, before, after]

theorem putNode_putNode (index : Nat) (first second : Option (Node α)) :
    (list.putNode index first).putNode index second = list.putNode index second := by
  simp only [putNode, mk.injEq, and_true]
  apply Array.ext
  · simp
  · intro other inside _
    simp only [Array.getElem_modify]
    by_cases same : index = other <;> simp [same]

theorem set_set {first second : α} : (list.set handle first).set handle second =
    list.set handle second := by
  cases live : list.get? handle with
  | none => rw [set_of_stale live]
  | some old =>
    obtain ⟨node, occupied, eq⟩ := set_eq_putNode live first
    obtain ⟨node', occupied', eq'⟩ := set_eq_putNode live second
    obtain ⟨last, occupied'', eq''⟩ :=
      set_eq_putNode (get?_set_self live first) second
    rw [eq, node?_putNode, if_pos ⟨rfl, index_lt_of_node? occupied⟩] at occupied''
    rw [occupied] at occupied'
    cases occupied'
    cases occupied''
    rw [eq'', eq, eq', putNode_putNode]

theorem set_get?_self (live : list.get? handle = some value) : list.set handle value = list := by
  obtain ⟨node, occupied, eq⟩ := set_eq_putNode live value
  obtain ⟨generation, found, entry⟩ := exists_slot occupied
  rw [get?_eq_some_iff.mp live, Option.some.injEq, Prod.mk.injEq] at entry
  have same : list.slots.modify handle.index (fun slot => { slot with node := some node }) =
      list.slots := by
    apply Array.ext_getElem?
    intro other
    rw [Array.getElem?_modify]
    split
    · rename_i equal
      rw [← equal, found]
      rfl
    · rfl
  rw [eq, entry.2]
  simp only [putNode, same]

/-! ## Adding -/

/-- A list from whose empty slots one has been taken. -/
structure Vacant (list : PriorityList α) (order : List Nat) (index : Nat) : Prop
    extends Chained list order where
  occupied : ∀ other, other ∈ order ↔ (list.entryAt? other).isSome
  size_eq : list.size = order.length
  freeNodup : list.freeSlots.Nodup
  free : ∀ other, other ∈ list.freeSlots ↔
    other < list.slots.size ∧ list.entryAt? other = none ∧ other ≠ index
  empty : ∃ generation, list.slots[index]? = some ⟨generation, none⟩
  slots_le : list.slots.size ≤ slotLimit

theorem node?_push (list : PriorityList α) (index : Nat) :
    ({ list with slots := list.slots.push {} } : PriorityList α).node? index =
      list.node? index := by
  unfold node?
  dsimp only
  rw [Array.getElem?_push]
  split
  · simp [*]
  · rfl

theorem entryAt?_push (list : PriorityList α) (index : Nat) :
    ({ list with slots := list.slots.push {} } : PriorityList α).entryAt? index =
      list.entryAt? index := by
  unfold entryAt?
  dsimp only
  rw [Array.getElem?_push]
  split
  · simp [*]
  · rfl

/-- The slot that was freed last is taken first. -/
theorem Ordered.reuseSlot {order rest : List Nat} {index : Nat} (ordered : Ordered list order)
    (reused : list.freeSlots = index :: rest) :
    Vacant { list with freeSlots := rest } order index := by
  have nodup := ordered.freeNodup
  have free := ordered.free
  rw [reused] at nodup
  obtain ⟨fresh, nodup⟩ := List.nodup_cons.mp nodup
  simp only [reused, List.mem_cons] at free
  obtain ⟨inside, vacant⟩ := (free index).mp (Or.inl rfl)
  refine ⟨⟨ordered.nodup, ordered.segment.congr fun _ _ => rfl, ordered.highest, ordered.lowest⟩,
    ordered.occupied, ordered.size_eq, nodup, fun other => ?_, ?_, ordered.slots_le⟩
  · have same := free other
    change other ∈ rest ↔ other < list.slots.size ∧ list.entryAt? other = none ∧ other ≠ index
    by_cases equal : other = index
    · subst equal
      simp [fresh]
    · simpa [equal] using same
  · have found : list.slots[index]? = some list.slots[index] := Array.getElem?_eq_getElem inside
    simp only [entryAt?, found, Option.bind_some, Option.map_eq_none_iff] at vacant
    exact ⟨list.slots[index].generation, by rw [found, ← vacant]⟩

/-- Where no slot is empty the arena grows by one. -/
theorem Ordered.growArena {order : List Nat} (ordered : Ordered list order)
    (full : list.freeSlots = []) (room : list.slots.size < slotLimit) :
    Vacant { list with slots := list.slots.push {} } order list.slots.size := by
  refine ⟨⟨ordered.nodup, ordered.segment.congr fun index _ => node?_push list index,
    ordered.highest, ordered.lowest⟩, fun other => ?_, ordered.size_eq, ordered.freeNodup,
    fun other => ?_, ⟨0, by simp⟩, ?_⟩
  · rw [entryAt?_push]
    exact ordered.occupied other
  · have vacant := ordered.free other
    simp only [full, List.not_mem_nil, false_iff, not_and] at vacant
    rw [entryAt?_push, full, Array.size_push]
    simp only [List.not_mem_nil, false_iff, not_and, ne_eq, Decidable.not_not]
    intro inside empty
    by_contra different
    exact vacant (by omega) empty
  · rw [Array.size_push]
    exact room

/-- Where no slot is empty all of them are in use. -/
theorem Ordered.length_eq {order : List Nat} (ordered : Ordered list order)
    (full : list.freeSlots = []) : order.length = list.slots.size := by
  have every : List.range list.slots.size ⊆ order := by
    intro index inside
    have vacant := ordered.free index
    rw [full] at vacant
    rw [ordered.occupied, Option.isSome_iff_ne_none]
    exact fun empty => List.not_mem_nil (vacant.mpr ⟨List.mem_range.mp inside, empty⟩)
  have least := (List.subperm_of_subset List.nodup_range every).length_le
  rw [List.length_range] at least
  exact Nat.le_antisymm ordered.length_le least

/-- A slot is found unless all that there can be are in use. -/
theorem Ordered.takeSlot {order : List Nat} (ordered : Ordered list order) :
    (list.takeSlot.2 < slotLimit ∧ Vacant list.takeSlot.1 order list.takeSlot.2 ∧
      ∀ other, list.takeSlot.1.entryAt? other = list.entryAt? other) ∨
    (list.takeSlot.2 = slotLimit ∧ order.length = slotLimit) := by
  cases reused : list.freeSlots with
  | cons index rest =>
    have taken : list.takeSlot = ({ list with freeSlots := rest }, index) := by
      unfold PriorityList.takeSlot
      rw [reused]
    have inside := ((ordered.free index).mp (reused ▸ List.mem_cons_self)).1
    rw [taken]
    exact .inl ⟨Nat.lt_of_lt_of_le inside ordered.slots_le, ordered.reuseSlot reused, fun _ => rfl⟩
  | nil =>
    have taken : list.takeSlot =
        ({ list with slots := list.slots.push {} }, list.slots.size) := by
      unfold PriorityList.takeSlot
      rw [reused]
    rw [taken]
    rcases Nat.lt_or_eq_of_le ordered.slots_le with room | full
    · exact .inl ⟨room, ordered.growArena reused room, entryAt?_push list⟩
    · exact .inr ⟨full, (ordered.length_eq reused).trans full⟩

/-- A value that was placed in an empty slot. -/
theorem entryAt?_place {index : Nat} {generation : UInt32}
    (empty : list.slots[index]? = some ⟨generation, none⟩) (value : α) (other : Nat) :
    (list.putNode index (some ⟨value, none, none⟩)).entryAt? other =
      if other = index then some (⟨index, generation⟩, value) else list.entryAt? other := by
  by_cases same : other = index
  · subst same
    simp [entryAt?, putNode, Array.getElem?_modify, empty]
  · simp [entryAt?, putNode, Array.getElem?_modify, same, Ne.symm same]

theorem Vacant.not_mem {order : List Nat} {index : Nat} (vacant : Vacant list order index) :
    index ∉ order := by
  obtain ⟨generation, empty⟩ := vacant.empty
  rw [vacant.occupied]
  simp [entryAt?, empty]

/-- A value that was only placed is not in the chain yet. -/
theorem Vacant.place {order : List Nat} {index : Nat} (vacant : Vacant list order index)
    (value : α) : Chained (list.putNode index (some ⟨value, none, none⟩)) order := by
  refine ⟨vacant.nodup, vacant.segment.congr fun other member => ?_, vacant.highest, vacant.lowest⟩
  rw [node?_putNode, if_neg fun (same : other = index ∧ _) => vacant.not_mem (same.1 ▸ member)]

/-- Once it is linked the list is in order again. -/
theorem Vacant.link {other : PriorityList α} {order : List Nat} {index : Nat}
    (vacant : Vacant list order index) (chained : Chained other (index :: order))
    (same : SameEntries (list.putNode index (some ⟨value, none, none⟩)) other) :
    Ordered { other with size := other.size + 1 } (index :: order) := by
  obtain ⟨generation, empty⟩ := vacant.empty
  have placed := entryAt?_place empty value
  refine ⟨⟨chained.nodup, chained.segment.congr fun _ _ => rfl, chained.highest,
    chained.lowest⟩, fun index' => ?_, ?_, ?_, fun index' => ?_, ?_⟩
  · change index' ∈ index :: order ↔ (other.entryAt? index').isSome
    rw [same.entries, placed, List.mem_cons, vacant.occupied]
    by_cases equal : index' = index <;> simp [equal]
  · change other.size + 1 = _
    rw [same.size]
    change list.size + 1 = _
    rw [vacant.size_eq, List.length_cons]
  · change other.freeSlots.Nodup
    rw [same.freeSlots]
    exact vacant.freeNodup
  · change index' ∈ other.freeSlots ↔ index' < other.slots.size ∧ other.entryAt? index' = none
    rw [same.freeSlots, same.slots_size, same.entries, placed]
    change index' ∈ list.freeSlots ↔ _
    rw [vacant.free, putNode_slots_size]
    by_cases equal : index' = index <;> simp [equal]
  · change other.slots.size ≤ slotLimit
    rw [same.slots_size, putNode_slots_size]
    exact vacant.slots_le

/-- A new entry goes in front of all others, under a handle that named none of them, unless every
slot that there can be is in use. -/
theorem WellLinked.pushHighest (linked : WellLinked list) (value : α) :
    (∃ other handle, list.pushHighest value = .ok (other, handle) ∧ WellLinked other ∧
      list.get? handle = none ∧ other.toList = (handle, value) :: list.toList) ∨
    (list.pushHighest value = .error .overflow ∧ list.toList.length = slotLimit) := by
  obtain ⟨order, ordered⟩ := linked
  rcases ordered.takeSlot with ⟨room, vacant, entries⟩ | ⟨taken, full⟩
  rotate_left
  · right
    refine ⟨?_, ?_⟩
    · unfold PriorityList.pushHighest
      dsimp only
      rw [taken, if_pos (Nat.le_refl _)]
      rfl
    · rw [← full, ← ordered.indices, List.length_map]
  left
  obtain ⟨generation, empty⟩ := vacant.empty
  rcases taken : list.takeSlot with ⟨middle, index⟩
  rw [taken] at room vacant entries empty
  dsimp only at room vacant entries empty
  have placed := entryAt?_place empty value
  obtain ⟨other, ran, chained, same⟩ := linkHighest_spec (vacant.place value) vacant.not_mem (by
    rw [← entryAt?_isSome_iff, placed, if_pos rfl]
    rfl)
  have result := vacant.link chained same
  refine ⟨{ other with size := other.size + 1 }, ⟨index, generation⟩, ?_, ⟨_, result⟩, ?_, ?_⟩
  · unfold PriorityList.pushHighest
    dsimp only
    rw [taken]
    simp only [empty, if_neg (Nat.not_le.mpr room)]
    change (_ >>= _) = _
    rw [ran]
    rfl
  · have unused : middle.entryAt? index = none := by simp [entryAt?, empty]
    rw [Option.eq_none_iff_forall_ne_some]
    intro old live
    rw [get?_eq_some_iff, ← entries, unused] at live
    cases live
  · have first : other.entryAt? index = some (⟨index, generation⟩, value) := by
      rw [same.entries, placed, if_pos rfl]
    have others : order.filterMap other.entryAt? = order.filterMap list.entryAt? := by
      apply filterMap_entryAt?_congr
      intro index' member
      rw [same.entries, placed, if_neg (ne_of_mem_of_not_mem member vacant.not_mem), entries]
    rw [result.toList_eq, ordered.toList_eq, ← others]
    exact List.filterMap_cons_some first

/-! ## Removing -/

/-- The list after an entry was cleared and its slot given back. -/
def giveBack (list : PriorityList α) (index : Nat) : PriorityList α :=
  { list with
    slots := list.slots.modify index
      (fun slot => { generation := slot.generation + 1, node := none })
    freeSlots := index :: list.freeSlots
    size := list.size - 1 }

theorem node?_giveBack {index other : Nat} (different : other ≠ index) :
    (list.giveBack index).node? other = list.node? other := by
  simp [giveBack, node?, Array.getElem?_modify, Ne.symm different]

theorem entryAt?_giveBack (list : PriorityList α) (index other : Nat) :
    (list.giveBack index).entryAt? other =
      if other = index then none else list.entryAt? other := by
  by_cases same : other = index
  · subst same
    simp [giveBack, entryAt?, Array.getElem?_modify]
  · simp [giveBack, entryAt?, Array.getElem?_modify, same, Ne.symm same]

/-- Once the slot of an unlinked entry is given back the list is in order again. -/
theorem Ordered.giveBack {other : PriorityList α} {front back : List Nat} {index : Nat}
    (ordered : Ordered list (front ++ index :: back)) (chained : Chained other (front ++ back))
    (same : SameEntries list other) : Ordered (other.giveBack index) (front ++ back) := by
  obtain ⟨notFront, notBack, -⟩ := ordered.cut
  have outside := List.not_mem_append notFront notBack
  have occupied := (ordered.occupied index).mp (by simp)
  refine ⟨⟨chained.nodup, chained.segment.congr fun next member => ?_, chained.highest,
    chained.lowest⟩, fun next => ?_, ?_, ?_, fun next => ?_, ?_⟩
  · exact node?_giveBack (ne_of_mem_of_not_mem member outside)
  · rw [entryAt?_giveBack, same.entries]
    have others := ordered.occupied next
    by_cases equal : next = index
    · subst equal
      simp [notFront, notBack]
    · simpa [equal] using others
  · change other.size - 1 = _
    rw [same.size, ordered.size_eq]
    simp only [List.length_append, List.length_cons]
    omega
  · change (index :: other.freeSlots).Nodup
    rw [same.freeSlots]
    refine List.nodup_cons.mpr ⟨fun member => ?_, ordered.freeNodup⟩
    rw [((ordered.free _).mp member).2] at occupied
    cases occupied
  · change next ∈ index :: other.freeSlots ↔
      next < (other.slots.modify _ _).size ∧ (other.giveBack index).entryAt? next = none
    rw [entryAt?_giveBack, same.entries, same.freeSlots, List.mem_cons, ordered.free,
      Array.size_modify, same.slots_size]
    by_cases equal : next = index
    · subst equal
      rw [entryAt?_isSome_iff] at occupied
      obtain ⟨node, found⟩ := Option.isSome_iff_exists.mp occupied
      simpa using index_lt_of_node? found
    · simp [equal]
  · change (other.slots.modify _ _).size ≤ slotLimit
    rw [Array.size_modify, same.slots_size]
    exact ordered.slots_le

/-- Unlinking the entry of a live handle cuts it out of the chain. -/
theorem Ordered.unlink {order : List Nat} (ordered : Ordered list order)
    (live : list.get? handle = some value) :
    ∃ middle front back, list.unlink handle.index = .ok middle ∧
      order = front ++ handle.index :: back ∧ handle.index ∉ front ++ back ∧
      Chained middle (front ++ back) ∧ (middle.node? handle.index).isSome ∧
      SameEntries list middle ∧ list.toList =
        front.filterMap list.entryAt? ++ (handle, value) :: back.filterMap list.entryAt? := by
  obtain ⟨front, back, rfl, entries⟩ := ordered.split live
  obtain ⟨notFront, notBack, -⟩ := ordered.cut
  obtain ⟨middle, ran, chained, same⟩ := unlink_spec ordered.toChained
  have occupied := (ordered.occupied handle.index).mp (by simp)
  refine ⟨middle, front, back, ran, rfl, List.not_mem_append notFront notBack, chained, ?_, same,
    entries⟩
  rw [same.isSome_node?, ← entryAt?_isSome_iff]
  exact occupied

/-- The entry of a live handle is taken out and handed back. -/
theorem WellLinked.remove (linked : WellLinked list) (live : list.get? handle = some value) :
    ∃ other front back, list.remove handle = .ok (other, some value) ∧ WellLinked other ∧
      list.toList = front ++ (handle, value) :: back ∧ other.toList = front ++ back := by
  obtain ⟨order, ordered⟩ := linked
  obtain ⟨middle, front, back, ran, rfl, outside, chained, -, same, entries⟩ := ordered.unlink live
  have result := ordered.giveBack chained same
  refine ⟨middle.giveBack handle.index, _, _, ?_, ⟨_, result⟩, entries, ?_⟩
  · unfold get? at live
    obtain ⟨node, resolved, rfl⟩ := Option.map_eq_some_iff.mp live
    simp only [PriorityList.remove, resolved, ran]
    rfl
  · rw [result.toList_eq, ← List.filterMap_append]
    apply filterMap_entryAt?_congr
    intro index member
    rw [entryAt?_giveBack, if_neg (ne_of_mem_of_not_mem member outside), same.entries]

/-! ## Moving -/

theorem Ordered.congr {other : PriorityList α} {order order' : List Nat}
    (ordered : Ordered list order) (chained : Chained other order')
    (same : SameEntries list other) (perm : order'.Perm order) : Ordered other order' := by
  refine ⟨chained, fun index => ?_, ?_, ?_, fun index => ?_, same.slots_size ▸ ordered.slots_le⟩
  · rw [perm.mem_iff, same.entries]
    exact ordered.occupied index
  · rw [same.size, ordered.size_eq, perm.length_eq]
  · rw [same.freeSlots]
    exact ordered.freeNodup
  · rw [same.freeSlots, same.slots_size, same.entries]
    exact ordered.free index

/-- The entry of a live handle is moved in front of all others. -/
theorem WellLinked.moveToHighest (linked : WellLinked list)
    (live : list.get? handle = some value) :
    ∃ other front back, list.moveToHighest handle = .ok (other, true) ∧ WellLinked other ∧
      list.toList = front ++ (handle, value) :: back ∧
      other.toList = (handle, value) :: (front ++ back) := by
  obtain ⟨order, ordered⟩ := linked
  obtain ⟨middle, front, back, unlinked, rfl, outside, chained, occupied, same, entries⟩ :=
    ordered.unlink live
  obtain ⟨other, relinked, chained', same'⟩ := linkHighest_spec chained outside occupied
  have result := ordered.congr chained' (same.trans same') List.perm_middle.symm
  refine ⟨other, _, _, ?_, ⟨_, result⟩, entries, ?_⟩
  · simp only [PriorityList.moveToHighest, contains_iff.mpr ⟨value, live⟩, if_true, unlinked]
    change (middle.linkHighest handle.index >>= _) = _
    rw [relinked]
    rfl
  · rw [result.toList_eq,
      filterMap_entryAt?_congr fun index _ => (same.trans same').entries index,
      List.filterMap_cons, get?_eq_some_iff.mp live, List.filterMap_append]

/-- The entry of a live handle is moved behind all others. -/
theorem WellLinked.moveToLowest (linked : WellLinked list)
    (live : list.get? handle = some value) :
    ∃ other front back, list.moveToLowest handle = .ok (other, true) ∧ WellLinked other ∧
      list.toList = front ++ (handle, value) :: back ∧
      other.toList = front ++ back ++ [(handle, value)] := by
  obtain ⟨order, ordered⟩ := linked
  obtain ⟨middle, front, back, unlinked, rfl, outside, chained, occupied, same, entries⟩ :=
    ordered.unlink live
  obtain ⟨other, relinked, chained', same'⟩ := linkLowest_spec chained outside occupied
  have perm : (front ++ back ++ [handle.index]).Perm (front ++ handle.index :: back) :=
    (List.perm_append_singleton _ _).trans List.perm_middle.symm
  have result := ordered.congr chained' (same.trans same') perm
  refine ⟨other, _, _, ?_, ⟨_, result⟩, entries, ?_⟩
  · simp only [PriorityList.moveToLowest, contains_iff.mpr ⟨value, live⟩, if_true, unlinked]
    change (middle.linkLowest handle.index >>= _) = _
    rw [relinked]
    rfl
  · rw [result.toList_eq,
      filterMap_entryAt?_congr fun index _ => (same.trans same').entries index,
      List.filterMap_append, List.filterMap_append, List.filterMap_cons, get?_eq_some_iff.mp live,
      List.filterMap_nil]

end VramOvercommit.PriorityList
