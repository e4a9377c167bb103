import VramOvercommit.Proofs.PriorityList.Operations

set_option autoImplicit false

/-!
The generations of the slots. Slots are never given up, and of all operations only the removal of an
entry gives a slot a new generation: the next one.
-/

namespace VramOvercommit.PriorityList

variable {α : Type} {list other : PriorityList α} {handle : Handle} {value : α} {index : Nat}

/-- The generations of all slots. -/
def generations (list : PriorityList α) : Array UInt32 := list.slots.map Slot.generation

theorem getElem?_generations (list : PriorityList α) (index : Nat) :
    list.generations[index]? = list.slots[index]?.map Slot.generation := by
  unfold generations
  rw [Array.getElem?_map]

@[simp] theorem generations_putNode (list : PriorityList α) (index : Nat)
    (node : Option (Node α)) : (list.putNode index node).generations = list.generations := by
  refine Array.ext_getElem? fun place => ?_
  rw [getElem?_generations, getElem?_generations]
  change ((list.slots.modify index _)[place]?).map _ = _
  rw [Array.getElem?_modify]
  split
  · rw [Option.map_map]
    rfl
  · rfl

theorem generations_set (list : PriorityList α) (handle : Handle) (value : α) :
    (list.set handle value).generations = list.generations := by
  unfold set
  split
  · exact generations_putNode ..
  · rfl

/-! ## Relinking -/

/-- The step leaves all generations as they are. -/
def KeepsGenerations (list : PriorityList α) (step : Except Abort (PriorityList α)) : Prop :=
  ∀ other, step = .ok other → other.generations = list.generations

theorem KeepsGenerations.ok (same : other.generations = list.generations) :
    KeepsGenerations list (.ok other) := by
  rintro _ ⟨⟩
  exact same

theorem KeepsGenerations.bind {step : Except Abort (PriorityList α)}
    {next : PriorityList α → Except Abort (PriorityList α)} (first : KeepsGenerations list step)
    (others : ∀ middle, KeepsGenerations middle (next middle)) :
    KeepsGenerations list (step >>= next) := by
  intro other ended
  cases step with
  | error cause => cases ended
  | ok middle => exact (others middle other ended).trans (first middle rfl)

theorem changeNode_generations (list : PriorityList α) (index : Nat)
    (change : Node α → Node α) : KeepsGenerations list (list.changeNode index change) := by
  unfold changeNode
  split
  · exact .ok (generations_putNode ..)
  · nofun

theorem unlink_generations (list : PriorityList α) (index : Nat) :
    KeepsGenerations list (list.unlink index) := by
  unfold unlink
  split
  · rename_i node _
    unfold KeepsGenerations
    rw [← generations_putNode list index (some { node with higher := none, lower := none })]
    dsimp only
    split
    · refine (changeNode_generations _ _ _).bind fun middle => ?_
      split
      · exact changeNode_generations _ _ _
      · exact .ok rfl
    · refine (KeepsGenerations.ok rfl).bind fun middle => ?_
      split
      · exact changeNode_generations _ _ _
      · exact .ok rfl
  · rintro _ ⟨⟩

theorem linkHighest_generations (list : PriorityList α) (index : Nat) :
    KeepsGenerations list (list.linkHighest index) := by
  refine (changeNode_generations list index _).bind fun middle => ?_
  dsimp only
  split
  · exact (changeNode_generations _ _ _).bind fun _ => .ok rfl
  · exact (KeepsGenerations.ok rfl).bind fun _ => .ok rfl

theorem linkLowest_generations (list : PriorityList α) (index : Nat) :
    KeepsGenerations list (list.linkLowest index) := by
  refine (changeNode_generations list index _).bind fun middle => ?_
  dsimp only
  split
  · exact (changeNode_generations _ _ _).bind fun _ => .ok rfl
  · exact (KeepsGenerations.ok rfl).bind fun _ => .ok rfl

/-! ## Operations -/

/-- A slot that exists has its generation advanced by a number of removals. -/
def Advances (list other : PriorityList α) (index removals : Nat) : Prop :=
  ∀ generation, list.generations[index]? = some generation →
    other.generations[index]? = some (generation + UInt32.ofNat removals)

theorem Advances.of_eq (same : other.generations = list.generations) :
    Advances list other index 0 := by
  intro generation found
  rw [same, found]
  simp

theorem Advances.of_push (pushed : other.generations = list.generations.push 0) :
    Advances list other index 0 := by
  intro generation found
  obtain ⟨below, found⟩ := Array.getElem?_eq_some_iff.mp found
  rw [pushed, Array.getElem?_push_lt below, found]
  simp

theorem Advances.trans {last : PriorityList α} {first second : Nat}
    (one : Advances list other index first) (more : Advances other last index second) :
    Advances list last index (first + second) := by
  intro generation found
  rw [more _ (one _ found), UInt32.ofNat_add, UInt32.add_assoc]

theorem exists_of_bind_ok {β γ : Type} {step : Except Abort β} {next : β → Except Abort γ}
    {result : γ} (ended : (step >>= next) = .ok result) :
    ∃ middle, step = .ok middle ∧ next middle = .ok result := by
  cases step with
  | error cause => cases ended
  | ok middle => exact ⟨middle, rfl, ended⟩

theorem moveToHighest_generations {found : Bool}
    (moved : list.moveToHighest handle = .ok (other, found)) :
    other.generations = list.generations := by
  unfold moveToHighest at moved
  split at moved
  · obtain ⟨middle, unlinked, rest⟩ := exists_of_bind_ok moved
    obtain ⟨last, linked, done⟩ := exists_of_bind_ok rest
    cases done
    exact (linkHighest_generations middle _ _ linked).trans (unlink_generations list _ _ unlinked)
  · cases moved
    rfl

theorem moveToLowest_generations {found : Bool}
    (moved : list.moveToLowest handle = .ok (other, found)) :
    other.generations = list.generations := by
  unfold moveToLowest at moved
  split at moved
  · obtain ⟨middle, unlinked, rest⟩ := exists_of_bind_ok moved
    obtain ⟨last, linked, done⟩ := exists_of_bind_ok rest
    cases done
    exact (linkLowest_generations middle _ _ linked).trans (unlink_generations list _ _ unlinked)
  · cases moved
    rfl

theorem pushHighest_generations (pushed : list.pushHighest value = .ok (other, handle)) :
    other.generations = list.generations ∨ other.generations = list.generations.push 0 := by
  have taken : list.takeSlot.1.generations = list.generations ∨
      list.takeSlot.1.generations = list.generations.push 0 := by
    unfold takeSlot
    split
    · exact .inl rfl
    · right
      change (list.slots.push {}).map Slot.generation = _
      rw [Array.map_push]
      rfl
  unfold pushHighest at pushed
  dsimp only at pushed
  split at pushed
  · cases pushed
  split at pushed
  · split at pushed
    · cases pushed
    · obtain ⟨last, linked, done⟩ := exists_of_bind_ok pushed
      cases done
      have same := (linkHighest_generations _ _ _ linked).trans (generations_putNode ..)
      exact taken.imp same.trans same.trans
  · cases pushed

/-- A new handle has the generation of its slot. -/
theorem pushHighest_generation (pushed : list.pushHighest value = .ok (other, handle)) :
    other.generations[handle.index]? = some handle.generation := by
  unfold pushHighest at pushed
  dsimp only at pushed
  split at pushed
  · cases pushed
  split at pushed
  · rename_i slot found
    split at pushed
    · cases pushed
    · obtain ⟨last, linked, done⟩ := exists_of_bind_ok pushed
      cases done
      have same := (linkHighest_generations _ _ _ linked).trans (generations_putNode ..)
      change last.generations[_]? = _
      rw [same, getElem?_generations, found]
      rfl
  · cases pushed

/-- Only the removal of an entry advances a generation. -/
theorem remove_advances {found : Option α} (removed : list.remove handle = .ok (other, found)) :
    Advances list other index
      (if list.contains handle ∧ handle.index = index then 1 else 0) := by
  unfold remove at removed
  unfold contains
  split at removed
  · rename_i stale
    cases removed
    rw [stale, if_neg (by simp)]
    exact .of_eq rfl
  · rename_i node live
    obtain ⟨middle, unlinked, done⟩ := exists_of_bind_ok removed
    cases done
    intro generation found
    rw [← unlink_generations list _ _ unlinked, getElem?_generations] at found
    rw [live, getElem?_generations]
    change ((middle.slots.modify handle.index _)[index]?).map _ = _
    rw [Array.getElem?_modify]
    by_cases here : handle.index = index
    · obtain ⟨slot, place, rfl⟩ := Option.map_eq_some_iff.mp found
      simp [here, place]
    · simpa [here] using found

end VramOvercommit.PriorityList
