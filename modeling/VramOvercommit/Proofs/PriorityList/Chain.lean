import Mathlib.Data.List.Basic
import VramOvercommit.PriorityList

set_option autoImplicit false

/-!
The chain of a priority list. A segment of it runs from the link above its first slot to the link
below its last one, so that a chain can be cut at any slot and its ends can be relinked. Taking a
slot out and putting one in front or behind change links only: every entry stays in its slot.
-/

namespace VramOvercommit.PriorityList

variable {α : Type}

/-- The handle and the value in a slot. -/
def entryAt? (list : PriorityList α) (index : Nat) : Option (Handle × α) :=
  list.slots[index]?.bind fun slot =>
    slot.node.map fun node => (⟨index, slot.generation⟩, node.value)

theorem entryAt?_isSome_iff {list : PriorityList α} {index : Nat} :
    (list.entryAt? index).isSome ↔ (list.node? index).isSome := by
  unfold entryAt? node?
  cases list.slots[index]? with
  | none => rfl
  | some slot => simp only [Option.bind_some, Option.isSome_map]

theorem exists_slot {list : PriorityList α} {index : Nat} {node : Node α}
    (occupied : list.node? index = some node) :
    ∃ generation, list.slots[index]? = some ⟨generation, some node⟩ ∧
      list.entryAt? index = some (⟨index, generation⟩, node.value) := by
  unfold node? at occupied
  cases found : list.slots[index]? with
  | none => simp [found] at occupied
  | some slot =>
    obtain ⟨generation, inside⟩ := slot
    rw [found] at occupied
    cases occupied
    exact ⟨generation, rfl, by simp [entryAt?, found]⟩

theorem index_lt_of_node? {list : PriorityList α} {index : Nat} {node : Node α}
    (occupied : list.node? index = some node) : index < list.slots.size := by
  obtain ⟨generation, found, -⟩ := exists_slot occupied
  exact (Array.getElem?_eq_some_iff.mp found).1

/-- Only links differ: every slot keeps its generation and its value. -/
structure SameEntries (list other : PriorityList α) : Prop where
  slots_size : other.slots.size = list.slots.size
  entries : ∀ index, other.entryAt? index = list.entryAt? index
  freeSlots : other.freeSlots = list.freeSlots
  size : other.size = list.size

theorem SameEntries.trans {list middle other : PriorityList α} (first : SameEntries list middle)
    (second : SameEntries middle other) : SameEntries list other :=
  ⟨second.slots_size.trans first.slots_size,
    fun index => (second.entries index).trans (first.entries index),
    second.freeSlots.trans first.freeSlots, second.size.trans first.size⟩

theorem SameEntries.isSome_node? {list other : PriorityList α} (same : SameEntries list other)
    (index : Nat) : (other.node? index).isSome = (list.node? index).isSome := by
  rw [Bool.eq_iff_iff, ← entryAt?_isSome_iff, ← entryAt?_isSome_iff, same.entries index]

/-! ## Changing one node -/

@[simp] theorem putNode_slots_size (list : PriorityList α) (index : Nat)
    (node : Option (Node α)) : (list.putNode index node).slots.size = list.slots.size := by
  simp [putNode]

theorem node?_putNode (list : PriorityList α) (index other : Nat) (node : Option (Node α)) :
    (list.putNode index node).node? other =
      if other = index ∧ index < list.slots.size then node else list.node? other := by
  unfold putNode node?
  rw [Array.getElem?_modify]
  by_cases same : index = other
  · subst same
    by_cases inside : index < list.slots.size
    · simp [inside]
    · simp [inside]
  · simp [same, Ne.symm same]

/-- The list with the links of one node changed. -/
theorem changeNode_spec {list : PriorityList α} {index : Nat} {node : Node α}
    (change : Node α → Node α) (occupied : list.node? index = some node)
    (value : (change node).value = node.value) :
    ∃ changed, list.changeNode index change = .ok changed ∧ SameEntries list changed ∧
      changed.highestSlot = list.highestSlot ∧ changed.lowestSlot = list.lowestSlot ∧
      changed.node? index = some (change node) ∧
      ∀ other, other ≠ index → changed.node? other = list.node? other := by
  have inside := index_lt_of_node? occupied
  obtain ⟨generation, found, entry⟩ := exists_slot occupied
  refine ⟨list.putNode index (some (change node)), ?_, ⟨by simp, ?_, rfl, rfl⟩, rfl, rfl, ?_, ?_⟩
  · simp only [changeNode, occupied]
  · intro other
    by_cases same : other = index
    · subst same
      rw [entry]
      simp [entryAt?, putNode, Array.getElem?_modify, found, value]
    · simp [entryAt?, putNode, Array.getElem?_modify, Ne.symm same]
  · simp [node?_putNode, inside]
  · intro other different
    simp [node?_putNode, different]

/-! ## Segments -/

/-- The slots are linked to each other in this order, the first of them to `above` and the last of
them to `below`. -/
def Segment (list : PriorityList α) : (above : Option Nat) → List Nat → (below : Option Nat) → Prop
  | _, [], _ => True
  | above, index :: rest, below =>
      (∃ value, list.node? index = some ⟨value, above, rest.head?.or below⟩) ∧
        Segment list (some index) rest below

theorem Segment.append_iff {list : PriorityList α} {above below : Option Nat}
    {front back : List Nat} :
    Segment list above (front ++ back) below ↔
      Segment list above front (back.head?.or below) ∧
        Segment list (front.getLast?.or above) back below := by
  induction front generalizing above with
  | nil => simp [Segment]
  | cons index front ih =>
    have links : (front ++ back).head?.or below = front.head?.or (back.head?.or below) := by
      cases front <;> simp
    have last : (index :: front).getLast?.or above = front.getLast?.or (some index) := by
      cases front with
      | nil => rfl
      | cons next front => simp [List.getLast?_cons]
    simp only [List.cons_append, Segment, links, last, ih, and_assoc]

/-- A segment depends on its own nodes only. -/
theorem Segment.congr {list other : PriorityList α} {above below : Option Nat} {order : List Nat}
    (segment : Segment list above order below)
    (same : ∀ index ∈ order, other.node? index = list.node? index) :
    Segment other above order below := by
  induction order generalizing above with
  | nil => trivial
  | cons index rest ih =>
    obtain ⟨⟨value, node⟩, tail⟩ := segment
    refine ⟨⟨value, ?_⟩, ih tail fun next member => same next (List.mem_cons_of_mem _ member)⟩
    rw [same index List.mem_cons_self, node]

theorem Segment.exists_node {list : PriorityList α} {above below : Option Nat} {order : List Nat}
    {index : Nat} (segment : Segment list above order below) (member : index ∈ order) :
    ∃ node, list.node? index = some node := by
  induction order generalizing above with
  | nil => simp at member
  | cons first rest ih =>
    obtain ⟨⟨value, node⟩, tail⟩ := segment
    rcases List.mem_cons.mp member with same | inside
    · exact ⟨_, same ▸ node⟩
    · exact ih tail inside

/-- Relinking the first node moves the upper end of a segment. -/
theorem Segment.changeHigher {list changed : PriorityList α} {above below above' : Option Nat}
    {index : Nat} {rest : List Nat} (segment : Segment list above (index :: rest) below)
    (fresh : index ∉ rest)
    (first : ∀ node, list.node? index = some node →
      changed.node? index = some { node with higher := above' })
    (others : ∀ other, other ≠ index → changed.node? other = list.node? other) :
    Segment changed above' (index :: rest) below := by
  obtain ⟨⟨value, node⟩, tail⟩ := segment
  refine ⟨⟨value, first _ node⟩, tail.congr fun next member => others next ?_⟩
  rintro rfl
  exact fresh member

/-- Relinking the last node moves the lower end of a segment. -/
theorem Segment.changeLower {list changed : PriorityList α} {above below below' : Option Nat}
    {index : Nat} {front : List Nat} (segment : Segment list above (front ++ [index]) below)
    (fresh : index ∉ front)
    (last : ∀ node, list.node? index = some node →
      changed.node? index = some { node with lower := below' })
    (others : ∀ other, other ≠ index → changed.node? other = list.node? other) :
    Segment changed above (front ++ [index]) below' := by
  rw [Segment.append_iff] at segment ⊢
  obtain ⟨before, ⟨value, node⟩, -⟩ := segment
  refine ⟨before.congr fun next member => others next ?_, ⟨value, last _ node⟩, trivial⟩
  rintro rfl
  exact fresh member

/-! ## The whole chain -/

/-- The chain from the highest slot to the lowest one. -/
structure Chained (list : PriorityList α) (order : List Nat) : Prop where
  nodup : order.Nodup
  segment : Segment list none order none
  highest : list.highestSlot = order.head?
  lowest : list.lowestSlot = order.getLast?

theorem Chained.nil {list : PriorityList α} (highest : list.highestSlot = none)
    (lowest : list.lowestSlot = none) : Chained list [] :=
  ⟨List.nodup_nil, trivial, highest, lowest⟩

/-- Every other slot of a chain is not the one it is cut at. -/
theorem Chained.cut {list : PriorityList α} {front back : List Nat} {index : Nat}
    (chained : Chained list (front ++ index :: back)) :
    index ∉ front ∧ index ∉ back ∧ front.Nodup ∧ back.Nodup ∧ ∀ other ∈ front, other ∉ back := by
  obtain ⟨before, after, apart⟩ := List.nodup_append.mp chained.nodup
  obtain ⟨notBack, back⟩ := List.nodup_cons.mp after
  refine ⟨fun member => ?_, notBack, before, back, fun other member behind => ?_⟩
  · exact apart index member index List.mem_cons_self rfl
  · exact apart other member other (List.mem_cons_of_mem _ behind) rfl

/-- The slot above the cut, if there is one, now links to the slot below it. -/
private theorem relinkAbove {list : PriorityList α} {front : List Nat} {below : Option Nat}
    (below' : Option Nat) (nodup : front.Nodup) (segment : Segment list none front below)
    (highest : front ≠ [] → list.highestSlot = front.head?) :
    ∃ changed, (match front.getLast? with
        | some above => list.changeNode above ({ · with lower := below' })
        | none => .ok { list with highestSlot := below' }) = .ok changed ∧
      SameEntries list changed ∧ Segment changed none front below' ∧
      changed.highestSlot = front.head?.or below' ∧ changed.lowestSlot = list.lowestSlot ∧
      ∀ other ∉ front, changed.node? other = list.node? other := by
  rcases List.eq_nil_or_concat front with rfl | ⟨start, above, rfl⟩
  · exact ⟨_, rfl, ⟨rfl, fun _ => rfl, rfl, rfl⟩, trivial, rfl, rfl, fun _ _ => rfl⟩
  · rw [List.concat_eq_append] at nodup segment highest ⊢
    obtain ⟨node, found⟩ := segment.exists_node List.mem_concat_self
    have fresh : above ∉ start := fun member =>
      (List.nodup_append.mp nodup).2.2 above member above List.mem_cons_self rfl
    obtain ⟨changed, ran, same, ends, low, node', others⟩ :=
      changeNode_spec ({ · with lower := below' }) found rfl
    refine ⟨changed, by simpa using ran, same, ?_, ?_, low, ?_⟩
    · refine segment.changeLower fresh (fun other equal => ?_) others
      rw [found] at equal
      cases equal
      exact node'
    · rw [ends, highest (by simp)]
      cases start <;> rfl
    · intro other outside
      exact others other fun equal => outside (by simp [equal])

/-- The slot below the cut, if there is one, now links to the slot above it. -/
private theorem relinkBelow {list : PriorityList α} {back : List Nat} {above : Option Nat}
    (above' : Option Nat) (nodup : back.Nodup) (segment : Segment list above back none)
    (lowest : back ≠ [] → list.lowestSlot = back.getLast?) :
    ∃ changed, (match back.head? with
        | some below => list.changeNode below ({ · with higher := above' })
        | none => .ok { list with lowestSlot := above' }) = .ok changed ∧
      SameEntries list changed ∧ Segment changed above' back none ∧
      changed.lowestSlot = back.getLast?.or above' ∧ changed.highestSlot = list.highestSlot ∧
      ∀ other ∉ back, changed.node? other = list.node? other := by
  cases back with
  | nil => exact ⟨_, rfl, ⟨rfl, fun _ => rfl, rfl, rfl⟩, trivial, rfl, rfl, fun _ _ => rfl⟩
  | cons below rest =>
    obtain ⟨node, found⟩ := segment.exists_node List.mem_cons_self
    obtain ⟨changed, ran, same, high, ends, node', others⟩ :=
      changeNode_spec ({ · with higher := above' }) found rfl
    refine ⟨changed, ran, same, ?_, ?_, high, ?_⟩
    · refine segment.changeHigher (List.nodup_cons.mp nodup).1 (fun other equal => ?_) others
      rw [found] at equal
      cases equal
      exact node'
    · rw [ends, lowest (by simp)]
      simp [List.getLast?_cons]
    · intro other outside
      exact others other fun equal => outside (by simp [equal])

/-- Unlinking cuts a slot out of the chain and leaves it occupied. -/
theorem unlink_spec {list : PriorityList α} {front back : List Nat} {index : Nat}
    (chained : Chained list (front ++ index :: back)) :
    ∃ other, list.unlink index = .ok other ∧ Chained other (front ++ back) ∧
      SameEntries list other := by
  obtain ⟨notFront, notBack, frontNodup, backNodup, apart⟩ := chained.cut
  obtain ⟨before, ⟨value, node⟩, after⟩ := Segment.append_iff.mp chained.segment
  simp only [List.head?_cons, Option.some_or] at before
  simp only [Option.or_none] at node
  obtain ⟨detached, ran, same, high, low, -, others⟩ :=
    changeNode_spec ({ · with higher := none, lower := none }) node rfl
  have put : list.putNode index (some ⟨value, none, none⟩) = detached := by
    simpa only [changeNode, node, Except.ok.injEq] using ran
  obtain ⟨middle, ranAbove, sameAbove, frontSegment, high', low', outside⟩ :=
    relinkAbove back.head? frontNodup
      (before.congr fun other member => others other fun equal => notFront (equal ▸ member))
      (fun occupied => by
        rw [high, chained.highest]
        cases front with
        | nil => exact absurd rfl occupied
        | cons first rest => rfl)
  obtain ⟨last, ranBelow, sameBelow, backSegment, low'', high'', outside'⟩ :=
    relinkBelow front.getLast? backNodup
      ((after.congr fun other member => others other fun equal => notBack (equal ▸ member)).congr
        fun other member => outside other fun behind => apart other behind member)
      (fun occupied => by
        rw [low', low, chained.lowest]
        cases back with
        | nil => exact absurd rfl occupied
        | cons first rest => simp [List.getLast?_append, List.getLast?_cons])
  refine ⟨last, ?_, ⟨?_, ?_, ?_, ?_⟩, (same.trans sameAbove).trans sameBelow⟩
  · simp only [unlink, node, put]
    cases above : front.getLast? with
    | some higher =>
      rw [above] at ranAbove ranBelow
      dsimp only at ranAbove ⊢
      rw [ranAbove]
      exact ranBelow
    | none =>
      rw [above] at ranAbove ranBelow
      obtain rfl := Except.ok.inj ranAbove
      exact ranBelow
  · refine List.nodup_append.mpr ⟨frontNodup, backNodup, fun first member second behind equal => ?_⟩
    exact apart first member (equal ▸ behind)
  · refine Segment.append_iff.mpr ⟨?_, ?_⟩
    · refine Segment.congr ?_ fun other member => outside' other (apart other member)
      simpa only [Option.or_none] using frontSegment
    · simpa only [Option.or_none] using backSegment
  · rw [high'', high']
    cases front <;> simp
  · rw [low'', List.getLast?_append]

/-- An occupied slot outside the chain becomes its upper end. -/
theorem linkHighest_spec {list : PriorityList α} {order : List Nat} {index : Nat}
    (chained : Chained list order) (fresh : index ∉ order)
    (occupied : (list.node? index).isSome) :
    ∃ other, list.linkHighest index = .ok other ∧ Chained other (index :: order) ∧
      SameEntries list other := by
  obtain ⟨node, found⟩ := Option.isSome_iff_exists.mp occupied
  obtain ⟨placed, ran, same, high, low, node', others⟩ :=
    changeNode_spec ({ · with higher := none, lower := list.highestSlot }) found rfl
  obtain ⟨linked, ranBelow, sameBelow, segment, low', high', outside⟩ :=
    relinkBelow (some index) chained.nodup
      (chained.segment.congr fun other member =>
        others other fun equal => fresh (equal ▸ member))
      (fun _ => low.trans chained.lowest)
  refine ⟨{ linked with highestSlot := some index }, ?_, ⟨?_, ⟨⟨node.value, ?_⟩, ?_⟩, rfl, ?_⟩,
    (same.trans sameBelow).trans ⟨rfl, fun _ => rfl, rfl, rfl⟩⟩
  · rw [chained.highest] at ran
    simp only [linkHighest, chained.highest]
    rw [ran]
    cases next : order.head? with
    | some below =>
      rw [next] at ranBelow
      dsimp only at ranBelow ⊢
      change (placed.changeNode below _ >>= _) = _
      rw [ranBelow]
      rfl
    | none =>
      rw [next] at ranBelow
      obtain rfl := Except.ok.inj ranBelow
      rfl
  · exact List.nodup_cons.mpr ⟨fresh, chained.nodup⟩
  · rw [Option.or_none, ← chained.highest, ← node']
    exact outside index fresh
  · exact segment.congr fun _ _ => rfl
  · rw [List.getLast?_cons]
    change linked.lowestSlot = _
    rw [low']
    cases order.getLast? <;> rfl

/-- An occupied slot outside the chain becomes its lower end. -/
theorem linkLowest_spec {list : PriorityList α} {order : List Nat} {index : Nat}
    (chained : Chained list order) (fresh : index ∉ order)
    (occupied : (list.node? index).isSome) :
    ∃ other, list.linkLowest index = .ok other ∧ Chained other (order ++ [index]) ∧
      SameEntries list other := by
  obtain ⟨node, found⟩ := Option.isSome_iff_exists.mp occupied
  obtain ⟨placed, ran, same, high, low, node', others⟩ :=
    changeNode_spec ({ · with higher := list.lowestSlot, lower := none }) found rfl
  obtain ⟨linked, ranAbove, sameAbove, segment, high', low', outside⟩ :=
    relinkAbove (some index) chained.nodup
      (chained.segment.congr fun other member =>
        others other fun equal => fresh (equal ▸ member))
      (fun _ => high.trans chained.highest)
  refine ⟨{ linked with lowestSlot := some index }, ?_, ⟨?_, ?_, ?_, ?_⟩,
    (same.trans sameAbove).trans ⟨rfl, fun _ => rfl, rfl, rfl⟩⟩
  · rw [chained.lowest] at ran
    simp only [linkLowest, chained.lowest]
    rw [ran]
    cases next : order.getLast? with
    | some above =>
      rw [next] at ranAbove
      dsimp only at ranAbove ⊢
      change (placed.changeNode above _ >>= _) = _
      rw [ranAbove]
      rfl
    | none =>
      rw [next] at ranAbove
      obtain rfl := Except.ok.inj ranAbove
      rfl
  · refine List.nodup_append.mpr ⟨chained.nodup, by simp, ?_⟩
    intro first member second behind equal
    rw [List.mem_singleton.mp behind] at equal
    exact fresh (equal ▸ member)
  · refine Segment.append_iff.mpr ⟨segment.congr fun _ _ => rfl, ⟨node.value, ?_⟩, trivial⟩
    rw [Option.or_none, ← chained.lowest]
    exact (outside index fresh).trans node'
  · change linked.highestSlot = _
    rw [high']
    cases order <;> rfl
  · simp

end VramOvercommit.PriorityList
