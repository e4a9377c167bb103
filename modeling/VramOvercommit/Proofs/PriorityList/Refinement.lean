import VramOvercommit.Proofs.PriorityList.Operations

set_option autoImplicit false

/-!
A priority list under any sequence of changes, against the plain list of its entries under the same
changes. The plain list knows no slots and no links: an entry is deleted, moved to an end or updated
in place wherever its handle stands, and a handle that stands nowhere changes nothing.
-/

namespace VramOvercommit.PriorityList

variable {α : Type}

inductive Change (α : Type) where
  | push (value : α)
  | remove (handle : Handle)
  | moveToHighest (handle : Handle)
  | moveToLowest (handle : Handle)
  /-- Writes to the value of an entry in place. -/
  | update (handle : Handle) (write : α → α)

/-- What a change reports to its caller. -/
inductive Answer (α : Type) where
  | added (handle : Handle)
  /-- The value a handle stood for, none for a stale one. -/
  | found (value : Option α)
  | moved (live : Bool)

def Change.apply (list : PriorityList α) :
    Change α → Except Abort (PriorityList α × Answer α)
  | .push value => do
      let (list, handle) ← list.pushHighest value
      .ok (list, .added handle)
  | .remove handle => do
      let (list, value) ← list.remove handle
      .ok (list, .found value)
  | .moveToHighest handle => do
      let (list, live) ← list.moveToHighest handle
      .ok (list, .moved live)
  | .moveToLowest handle => do
      let (list, live) ← list.moveToLowest handle
      .ok (list, .moved live)
  | .update handle write =>
      match list.get? handle with
      | some value => .ok (list.set handle (write value), .found (some value))
      | none => .ok (list, .found none)

/-- All changes in turn, with their answers. -/
def applyAll (list : PriorityList α) :
    List (Change α) → Except Abort (PriorityList α × List (Answer α))
  | [] => .ok (list, [])
  | change :: rest => do
      let (list, answer) ← change.apply list
      let (list, answers) ← list.applyAll rest
      .ok (list, answer :: answers)

/-! ## The plain list -/

/-- The plain list without the entry of a handle. -/
def without (handle : Handle) (entries : List (Handle × α)) : List (Handle × α) :=
  entries.filter (fun entry => entry.1 ≠ handle)

/-- The plain list with the value of a handle written to in place. -/
def updated (handle : Handle) (write : α → α) (entries : List (Handle × α)) :
    List (Handle × α) :=
  entries.map fun entry => if entry.1 = handle then (handle, write entry.2) else entry

/-- The plain list with the entry of a handle first. -/
def movedFirst (handle : Handle) (entries : List (Handle × α)) : List (Handle × α) :=
  match entries.lookup handle with
  | some value => (handle, value) :: without handle entries
  | none => entries

/-- The plain list with the entry of a handle last. -/
def movedLast (handle : Handle) (entries : List (Handle × α)) : List (Handle × α) :=
  match entries.lookup handle with
  | some value => without handle entries ++ [(handle, value)]
  | none => entries

/-- A change of the plain list. A new entry stands under any handle that is not in use. -/
inductive PlainStep (entries : List (Handle × α)) :
    Change α → Answer α → List (Handle × α) → Prop where
  | push (value : α) (handle : Handle) (unused : handle ∉ entries.map Prod.fst) :
      PlainStep entries (.push value) (.added handle) ((handle, value) :: entries)
  | remove (handle : Handle) :
      PlainStep entries (.remove handle) (.found (entries.lookup handle)) (without handle entries)
  | moveToHighest (handle : Handle) :
      PlainStep entries (.moveToHighest handle) (.moved (entries.lookup handle).isSome)
        (movedFirst handle entries)
  | moveToLowest (handle : Handle) :
      PlainStep entries (.moveToLowest handle) (.moved (entries.lookup handle).isSome)
        (movedLast handle entries)
  | update (handle : Handle) (write : α → α) :
      PlainStep entries (.update handle write) (.found (entries.lookup handle))
        (updated handle write entries)

inductive PlainRun :
    List (Handle × α) → List (Change α) → List (Answer α) → List (Handle × α) → Prop where
  | nil (entries : List (Handle × α)) : PlainRun entries [] [] entries
  | cons {entries middle after : List (Handle × α)} {change : Change α} {answer : Answer α}
      {changes : List (Change α)} {answers : List (Answer α)}
      (first : PlainStep entries change answer middle)
      (others : PlainRun middle changes answers after) :
      PlainRun entries (change :: changes) (answer :: answers) after

section Plain

variable {entries front back : List (Handle × α)} {handle : Handle} {value : α}

theorem without_of_apart (apart : ∀ entry ∈ entries, entry.1 ≠ handle) :
    without handle entries = entries :=
  List.filter_eq_self.mpr fun entry member => decide_eq_true (apart entry member)

theorem updated_of_apart (write : α → α) (apart : ∀ entry ∈ entries, entry.1 ≠ handle) :
    updated handle write entries = entries :=
  (List.map_congr_left fun entry member => if_neg (apart entry member)).trans (List.map_id _)

theorem without_middle (apart : ∀ entry ∈ front ++ back, entry.1 ≠ handle) :
    without handle (front ++ (handle, value) :: back) = front ++ back := by
  rw [← without_of_apart apart]
  simp [without]

theorem updated_middle (write : α → α) (apart : ∀ entry ∈ front ++ back, entry.1 ≠ handle) :
    updated handle write (front ++ (handle, value) :: back) =
      front ++ (handle, write value) :: back := by
  have before := updated_of_apart write fun entry member =>
    apart entry (List.mem_append_left back member)
  have after := updated_of_apart write fun entry member =>
    apart entry (List.mem_append_right front member)
  unfold updated at before after ⊢
  rw [List.map_append, List.map_cons, before, after, if_pos rfl]

end Plain

/-! ## What can be read -/

/-- Every way to read the list gives what the plain list says. -/
structure Shows (list : PriorityList α) (entries : List (Handle × α)) : Prop where
  descending : list.toList = entries
  ascending : list.ascending = (entries.map Prod.fst).reverse
  /-- The walk downwards is over after the last entry, however long it is followed. -/
  descent : ∀ steps, entries.length ≤ steps → list.chainDown steps list.highestSlot = entries
  ascent : ∀ steps, entries.length ≤ steps →
    list.chainUp steps list.lowest? = (entries.map Prod.fst).reverse
  highest : list.highest? = (entries.map Prod.fst).head?
  lowest : list.lowest? = (entries.map Prod.fst).getLast?
  higher : ∀ front handle value back, entries = front ++ (handle, value) :: back →
    list.higher? handle = (front.map Prod.fst).getLast?
  lower : ∀ front handle value back, entries = front ++ (handle, value) :: back →
    list.lower? handle = (back.map Prod.fst).head?
  stale : ∀ handle, handle ∉ entries.map Prod.fst →
    list.higher? handle = none ∧ list.lower? handle = none
  get : ∀ handle, list.get? handle = entries.lookup handle
  contained : ∀ handle, list.contains handle = (entries.lookup handle).isSome
  length : list.size = entries.length
  /-- Every link leads to an occupied slot. -/
  linked : ∀ index node, list.node? index = some node → ∀ link,
    node.higher = some link ∨ node.lower = some link → (list.node? link).isSome
  freeNodup : list.freeSlots.Nodup
  free : ∀ index, index ∈ list.freeSlots ↔
    index < list.slots.size ∧ list.node? index = none

section Reading

variable {list : PriorityList α} {handle : Handle} {value : α}

/-- A live handle stands in one place of the plain list. -/
theorem WellLinked.apart (linked : WellLinked list) {front back : List (Handle × α)}
    (split : list.toList = front ++ (handle, value) :: back) :
    ∀ entry ∈ front ++ back, entry.1 ≠ handle := by
  have nodup := linked.handles_nodup
  unfold handles at nodup
  rw [split, List.map_append, List.map_cons, List.nodup_middle, List.nodup_cons,
    ← List.map_append] at nodup
  intro entry member same
  exact nodup.1 (List.mem_map.mpr ⟨entry, member, same⟩)

theorem WellLinked.get?_eq_lookup (linked : WellLinked list) (handle : Handle) :
    list.get? handle = list.toList.lookup handle := by
  cases live : list.get? handle with
  | none =>
    refine (List.lookup_eq_none_iff.mpr fun entry member => ?_).symm
    rw [bne_iff_ne]
    rintro rfl
    rw [linked.mem_toList.mp member] at live
    cases live
  | some value =>
    obtain ⟨front, back, split, -⟩ := linked.split live
    refine (List.lookup_eq_some_iff.mpr ⟨front, back, split, fun entry member => ?_⟩).symm
    rw [bne_iff_ne]
    exact (linked.apart split entry (List.mem_append_left back member)).symm

theorem WellLinked.get?_eq_none_iff (linked : WellLinked list) :
    list.get? handle = none ↔ handle ∉ list.toList.map Prod.fst := by
  rw [← not_iff_not, not_not]
  change _ ↔ handle ∈ list.handles
  rw [linked.mem_handles, ← Option.ne_none_iff_exists']

theorem WellLinked.handleAt?_of_mem (linked : WellLinked list) {entry : Handle × α}
    (member : entry ∈ list.toList) : list.handleAt? entry.1.index = some entry.1 :=
  handleAt?_eq (get?_eq_some_iff.mp (linked.mem_toList.mp member))

/-- The slots around a live entry hold the entries around it in the plain list. -/
theorem WellLinked.neighbours (linked : WellLinked list) {front back : List (Handle × α)}
    (split : list.toList = front ++ (handle, value) :: back) :
    list.higher? handle = (front.map Prod.fst).getLast? ∧
      list.lower? handle = (back.map Prod.fst).head? := by
  have live : list.get? handle = some value := linked.mem_toList.mp (by simp [split])
  have entry := get?_eq_some_iff.mp live
  have named : ∀ other ∈ front ++ back, list.handleAt? other.1.index = some other.1 := by
    intro other member
    refine linked.handleAt?_of_mem ?_
    rw [split]
    simp only [List.mem_append, List.mem_cons] at member ⊢
    tauto
  obtain ⟨order, ordered⟩ := linked
  have order_eq := ordered.indices
  rw [split, List.map_append, List.map_cons] at order_eq
  subst order_eq
  obtain ⟨-, ⟨inside, node⟩, -⟩ := Segment.append_iff.mp ordered.segment
  simp only [Option.or_none] at node
  have above := higher?_eq entry node
  have below := lower?_eq entry node
  dsimp only at above below
  rw [above, below, List.getLast?_map, List.getLast?_map, List.head?_map, List.head?_map]
  constructor
  · cases last : front.getLast? with
    | none => rfl
    | some other => exact named other (List.mem_append_left _ (List.mem_of_getLast? last))
  · cases next : back.head? with
    | none => rfl
    | some other => exact named other (List.mem_append_right _ (List.mem_of_head? next))

/-- A link of an occupied slot leads to a slot of the chain. -/
theorem Ordered.link_mem {order : List Nat} (ordered : Ordered list order) {index link : Nat}
    {node : Node α} (found : list.node? index = some node)
    (linked : node.higher = some link ∨ node.lower = some link) : link ∈ order := by
  have member : index ∈ order := by
    rw [ordered.occupied, entryAt?_isSome_iff, found]
    rfl
  obtain ⟨front, back, rfl⟩ := List.append_of_mem member
  obtain ⟨-, ⟨inside, same⟩, -⟩ := Segment.append_iff.mp ordered.segment
  rw [found, Option.some.injEq] at same
  subst same
  simp only [Option.or_none] at linked
  rcases linked with above | below
  · exact List.mem_append_left _ (List.mem_of_getLast? above)
  · exact List.mem_append_right _ (List.mem_cons_of_mem _ (List.mem_of_head? below))

theorem WellLinked.shows (linked : WellLinked list) : Shows list list.toList := by
  have upwards := linked.ascending_eq
  obtain ⟨order, ordered⟩ := id linked
  have length : list.toList.length = order.length := by
    rw [← ordered.indices, List.length_map]
  have ends : ∀ entry ∈ list.toList, list.handleAt? entry.1.index = some entry.1 :=
    fun _ => linked.handleAt?_of_mem
  refine {
    descending := rfl
    ascending := upwards
    descent := fun steps enough => ?_
    ascent := fun steps enough => ?_
    highest := ?_
    lowest := ?_
    higher := fun front handle value back split => (linked.neighbours split).1
    lower := fun front handle value back split => (linked.neighbours split).2
    stale := fun handle absent => ?_
    get := linked.get?_eq_lookup
    contained := fun handle => ?_
    length := ordered.size_eq.trans length.symm
    linked := fun index node found link linkedTo => ?_
    freeNodup := ordered.freeNodup
    free := fun index => ?_ }
  · rw [ordered.highest, chainDown_eq ordered.segment (length ▸ enough), ordered.toList_eq]
  · unfold lowest?
    rw [ordered.lowest, chainUp_eq ordered.segment (length ▸ enough), ordered.toList_eq]
  · unfold highest?
    rw [ordered.highest, ← ordered.indices, List.head?_map, List.head?_map]
    cases first : list.toList.head? with
    | none => rfl
    | some entry => exact ends entry (List.mem_of_head? first)
  · unfold lowest?
    rw [ordered.lowest, ← ordered.indices, List.getLast?_map, List.getLast?_map]
    cases last : list.toList.getLast? with
    | none => rfl
    | some entry => exact ends entry (List.mem_of_getLast? last)
  · have absent := linked.get?_eq_none_iff.mpr absent
    unfold get? at absent
    rw [Option.map_eq_none_iff] at absent
    simp [higher?, lower?, absent]
  · rw [← linked.get?_eq_lookup, Bool.eq_iff_iff, contains_iff, Option.isSome_iff_exists]
  · rw [← entryAt?_isSome_iff, ← ordered.occupied]
    exact ordered.link_mem found linkedTo
  · rw [ordered.free, ← Option.not_isSome_iff_eq_none, ← Option.not_isSome_iff_eq_none,
      entryAt?_isSome_iff]

end Reading

/-! ## Changes -/

section Changes

variable {list : PriorityList α}

theorem WellLinked.apart_of_stale (linked : WellLinked list) {handle : Handle}
    (stale : list.get? handle = none) : ∀ entry ∈ list.toList, entry.1 ≠ handle := by
  rintro entry member rfl
  exact linked.get?_eq_none_iff.mp stale (List.mem_map_of_mem member)

theorem contains_eq_false {handle : Handle} (stale : list.get? handle = none) :
    list.contains handle = false := by
  rw [Bool.eq_false_iff, Ne, contains_iff, stale]
  simp

/-- A stale handle changes nothing, here and in the plain list. -/
theorem Change.apply_stale (linked : WellLinked list) {handle : Handle}
    (stale : list.get? handle = none) {change : Change α}
    (named : change = .remove handle ∨ change = .moveToHighest handle ∨
      change = .moveToLowest handle ∨ ∃ write, change = .update handle write) :
    ∃ answer, change.apply list = .ok (list, answer) ∧
      PlainStep list.toList change answer list.toList := by
  have unknown : list.toList.lookup handle = none := linked.get?_eq_lookup handle ▸ stale
  have apart := linked.apart_of_stale stale
  rcases named with rfl | rfl | rfl | ⟨write, rfl⟩
  · have resolved : list.resolve? handle = none := Option.map_eq_none_iff.mp stale
    have step := @PlainStep.remove _ list.toList handle
    rw [unknown, without_of_apart apart] at step
    exact ⟨_, by simp only [apply, PriorityList.remove, resolved]; rfl, step⟩
  · have step := @PlainStep.moveToHighest _ list.toList handle
    rw [movedFirst, unknown] at step
    exact ⟨_, by simp [apply, PriorityList.moveToHighest, contains_eq_false stale]; rfl, step⟩
  · have step := @PlainStep.moveToLowest _ list.toList handle
    rw [movedLast, unknown] at step
    exact ⟨_, by simp [apply, PriorityList.moveToLowest, contains_eq_false stale]; rfl, step⟩
  · have step := @PlainStep.update _ list.toList handle write
    rw [unknown, updated_of_apart write apart] at step
    exact ⟨_, by simp only [apply, stale], step⟩

/-- A change is the plain one. It aborts only if it adds an entry to as many as there can be. -/
theorem Change.apply_spec (linked : WellLinked list) (change : Change α) :
    (∃ other answer, change.apply list = .ok (other, answer) ∧ WellLinked other ∧
      PlainStep list.toList change answer other.toList) ∨
    (∃ value, change = .push value ∧ change.apply list = .error .overflow ∧
      list.toList.length = slotLimit) := by
  cases change with
  | push value =>
    obtain ⟨other, handle, ran, linked', unused, entries⟩ | ⟨ran, full⟩ := linked.pushHighest value
    · left
      refine ⟨other, .added handle, ?_, linked', ?_⟩
      · simp only [apply, ran]
        rfl
      · rw [entries]
        exact .push value handle (linked.get?_eq_none_iff.mp unused)
    · right
      refine ⟨value, rfl, ?_, full⟩
      simp only [apply, ran]
      rfl
  | remove handle =>
    left
    cases live : list.get? handle with
    | none =>
      obtain ⟨answer, ran, step⟩ := apply_stale linked live (.inl rfl)
      exact ⟨list, answer, ran, linked, step⟩
    | some value =>
      obtain ⟨other, front, back, ran, linked', before, after⟩ := linked.remove live
      refine ⟨other, .found (some value), ?_, linked', ?_⟩
      · simp only [apply, ran]
        rfl
      · have step := @PlainStep.remove _ list.toList handle
        rw [← linked.get?_eq_lookup, live, before, without_middle (linked.apart before),
          ← before, ← after] at step
        exact step
  | moveToHighest handle =>
    left
    cases live : list.get? handle with
    | none =>
      obtain ⟨answer, ran, step⟩ := apply_stale linked live (.inr (.inl rfl))
      exact ⟨list, answer, ran, linked, step⟩
    | some value =>
      obtain ⟨other, front, back, ran, linked', before, after⟩ := linked.moveToHighest live
      refine ⟨other, .moved true, ?_, linked', ?_⟩
      · simp only [apply, ran]
        rfl
      · have step := @PlainStep.moveToHighest _ list.toList handle
        rw [movedFirst, ← linked.get?_eq_lookup, live] at step
        dsimp only at step
        rw [before, without_middle (linked.apart before), ← before, ← after] at step
        exact step
  | moveToLowest handle =>
    left
    cases live : list.get? handle with
    | none =>
      obtain ⟨answer, ran, step⟩ := apply_stale linked live (.inr (.inr (.inl rfl)))
      exact ⟨list, answer, ran, linked, step⟩
    | some value =>
      obtain ⟨other, front, back, ran, linked', before, after⟩ := linked.moveToLowest live
      refine ⟨other, .moved true, ?_, linked', ?_⟩
      · simp only [apply, ran]
        rfl
      · have step := @PlainStep.moveToLowest _ list.toList handle
        rw [movedLast, ← linked.get?_eq_lookup, live] at step
        dsimp only at step
        rw [before, without_middle (linked.apart before), ← before, ← after] at step
        exact step
  | update handle write =>
    left
    cases live : list.get? handle with
    | none =>
      obtain ⟨answer, ran, step⟩ := apply_stale linked live (.inr (.inr (.inr ⟨write, rfl⟩)))
      exact ⟨list, answer, ran, linked, step⟩
    | some value =>
      obtain ⟨front, back, before, after⟩ := linked.split live
      refine ⟨list.set handle (write value), .found (some value), ?_, linked.set, ?_⟩
      · simp only [apply, live]
      · have step := @PlainStep.update _ list.toList handle write
        rw [← linked.get?_eq_lookup, live, before, updated_middle write (linked.apart before),
          ← before, ← after] at step
        exact step

theorem applyAll_cons {change : Change α} {middle : PriorityList α} {answer : Answer α}
    (ran : change.apply list = .ok (middle, answer)) (rest : List (Change α)) :
    list.applyAll (change :: rest) =
      (middle.applyAll rest).map fun (other, answers) => (other, answer :: answers) := by
  simp only [applyAll, ran]
  change (middle.applyAll rest >>= _) = _
  cases middle.applyAll rest <;> rfl

/-- All changes are the plain ones, up to one that adds an entry to as many as there can be. -/
theorem WellLinked.applyAll_spec (linked : WellLinked list) (changes : List (Change α)) :
    (∃ other answers, list.applyAll changes = .ok (other, answers) ∧ WellLinked other ∧
      PlainRun list.toList changes answers other.toList) ∨
    (∃ front value back other answers, changes = front ++ .push value :: back ∧
      list.applyAll front = .ok (other, answers) ∧ WellLinked other ∧
      PlainRun list.toList front answers other.toList ∧ other.toList.length = slotLimit ∧
      list.applyAll changes = .error .overflow) := by
  induction changes generalizing list with
  | nil => exact .inl ⟨list, [], rfl, linked, .nil _⟩
  | cons change rest ih =>
    obtain ⟨middle, answer, ran, linked', first⟩ | ⟨value, rfl, ran, full⟩ :=
      change.apply_spec linked
    · obtain ⟨other, answers, ranRest, linked'', others⟩ |
        ⟨front, value, back, other, answers, split, ranFront, linked'', others, full, ranRest⟩ :=
        ih linked'
      · refine .inl ⟨other, answer :: answers, ?_, linked'', .cons first others⟩
        rw [applyAll_cons ran, ranRest]
        rfl
      · refine .inr ⟨change :: front, value, back, other, answer :: answers, split ▸ rfl, ?_,
          linked'', .cons first others, full, ?_⟩
        · rw [applyAll_cons ran, ranFront]
          rfl
        · rw [applyAll_cons ran, ranRest]
          rfl
    · refine .inr ⟨[], value, rest, list, [], rfl, rfl, linked, .nil _, full, ?_⟩
      simp only [applyAll, ran]
      rfl

end Changes

/-- From the empty list on, any sequence of changes ends in a list that shows the plain list of the
same changes, whether the handles are live or stale. No link ever leads to an empty slot, and no
slot is taken twice. It can only end early, with an overflow, where an entry is added while every
slot number is in use. -/
theorem changes_refine_plain (changes : List (Change α)) :
    (∃ list answers entries, ({} : PriorityList α).applyAll changes = .ok (list, answers) ∧
      PlainRun [] changes answers entries ∧ Shows list entries) ∨
    (∃ front value back list answers entries, changes = front ++ .push value :: back ∧
      ({} : PriorityList α).applyAll front = .ok (list, answers) ∧
      PlainRun [] front answers entries ∧ Shows list entries ∧ entries.length = slotLimit ∧
      ({} : PriorityList α).applyAll changes = .error .overflow) := by
  obtain ⟨list, answers, ran, linked, plain⟩ |
    ⟨front, value, back, list, answers, split, ran, linked, plain, full, overflows⟩ :=
    wellLinked_empty.applyAll_spec changes
  · exact .inl ⟨list, answers, list.toList, ran, plain, linked.shows⟩
  · exact .inr ⟨front, value, back, list, answers, list.toList, split, ran, plain, linked.shows, full,
      overflows⟩

end VramOvercommit.PriorityList
