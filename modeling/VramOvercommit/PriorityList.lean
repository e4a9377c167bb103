import VramOvercommit.Abort
import VramOvercommit.Handle

set_option autoImplicit false

/-!
Entries in order of priority, linked through an arena of reusable slots, so that adding, removing
and moving an entry to either end take constant time and a handle stays valid throughout. A link to
an empty slot would be a defect of the list itself, and aborts.
-/

namespace VramOvercommit

/-- An entry with the slots of its neighbours. -/
structure Node (α : Type) where
  value : α
  higher : Option Nat := none
  lower : Option Nat := none
  deriving DecidableEq, Repr

/-- A place of the arena. Its generation counts the entries that were removed from it. -/
structure Slot (α : Type) where
  generation : UInt32 := 0
  node : Option (Node α) := none
  deriving DecidableEq, Repr

/-- Every slot number is a word of 32 bits. -/
abbrev slotLimit : Nat := 0x100000000

structure PriorityList (α : Type) where
  slots : Array (Slot α) := #[]
  /-- Slots for reuse, the last one freed first. -/
  freeSlots : List Nat := []
  highestSlot : Option Nat := none
  lowestSlot : Option Nat := none
  size : Nat := 0
  deriving DecidableEq, Repr

namespace PriorityList

variable {α : Type}

def node? (list : PriorityList α) (index : Nat) : Option (Node α) :=
  list.slots[index]?.bind Slot.node

/-- The entry a handle stands for: its slot has to be occupied under the same generation. -/
def resolve? (list : PriorityList α) (handle : Handle) : Option (Node α) :=
  match list.slots[handle.index]? with
  | some slot => if slot.generation = handle.generation then slot.node else none
  | none => none

/-- The current handle of a slot. -/
def handleAt? (list : PriorityList α) (index : Nat) : Option Handle :=
  list.slots[index]?.map (fun slot => ⟨index, slot.generation⟩)

def get? (list : PriorityList α) (handle : Handle) : Option α :=
  (list.resolve? handle).map Node.value

def contains (list : PriorityList α) (handle : Handle) : Bool :=
  (list.resolve? handle).isSome

/-- Stores a node in a slot, over whatever the slot holds. -/
def putNode (list : PriorityList α) (index : Nat) (node : Option (Node α)) : PriorityList α :=
  { list with slots := list.slots.modify index (fun slot => { slot with node }) }

/-- Replaces the value of an entry; a stale handle changes nothing. -/
def set (list : PriorityList α) (handle : Handle) (value : α) : PriorityList α :=
  match list.resolve? handle with
  | some node => list.putNode handle.index (some { node with value })
  | none => list

/-- Changes the node of an occupied slot. -/
def changeNode (list : PriorityList α) (index : Nat) (change : Node α → Node α) :
    Except Abort (PriorityList α) :=
  match list.node? index with
  | some node => .ok (list.putNode index (some (change node)))
  | none => .error .danglingLink

/-- Takes an entry out of the chain: its neighbours become neighbours of each other. -/
def unlink (list : PriorityList α) (index : Nat) : Except Abort (PriorityList α) := do
  let some node := list.node? index | .error .danglingLink
  let list := list.putNode index (some { node with higher := none, lower := none })
  let list ← match node.higher with
    | some higher => list.changeNode higher ({ · with lower := node.lower })
    | none => .ok { list with highestSlot := node.lower }
  match node.lower with
  | some lower => list.changeNode lower ({ · with higher := node.higher })
  | none => .ok { list with lowestSlot := node.higher }

/-- Puts an unlinked entry before all others. -/
def linkHighest (list : PriorityList α) (index : Nat) : Except Abort (PriorityList α) := do
  let previous := list.highestSlot
  let list ← list.changeNode index ({ · with higher := none, lower := previous })
  let list ← match previous with
    | some next => list.changeNode next ({ · with higher := some index })
    | none => .ok { list with lowestSlot := some index }
  .ok { list with highestSlot := some index }

/-- Puts an unlinked entry behind all others. -/
def linkLowest (list : PriorityList α) (index : Nat) : Except Abort (PriorityList α) := do
  let previous := list.lowestSlot
  let list ← list.changeNode index ({ · with higher := previous, lower := none })
  let list ← match previous with
    | some next => list.changeNode next ({ · with lower := some index })
    | none => .ok { list with highestSlot := some index }
  .ok { list with lowestSlot := some index }

/-- An empty slot: the one freed last, or a new one at the end of the arena. -/
def takeSlot (list : PriorityList α) : PriorityList α × Nat :=
  match list.freeSlots with
  | index :: rest => ({ list with freeSlots := rest }, index)
  | [] => ({ list with slots := list.slots.push {} }, list.slots.size)

/-- Adds an entry of the highest priority. -/
def pushHighest (list : PriorityList α) (value : α) : Except Abort (PriorityList α × Handle) := do
  let (list, index) := list.takeSlot
  if slotLimit ≤ index then .error .overflow
  let some slot := list.slots[index]? | .error .danglingLink
  if slot.node.isSome then .error .occupiedSlot
  let list ← (list.putNode index (some { value })).linkHighest index
  .ok ({ list with size := list.size + 1 }, ⟨index, slot.generation⟩)

/-- Removes an entry. Its slot gets a new generation, so that the handle never resolves again. -/
def remove (list : PriorityList α) (handle : Handle) :
    Except Abort (PriorityList α × Option α) :=
  match list.resolve? handle with
  | none => .ok (list, none)
  | some node => do
      let list ← list.unlink handle.index
      .ok
        ({ list with
            slots := list.slots.modify handle.index
              (fun slot => { generation := slot.generation + 1, node := none })
            freeSlots := handle.index :: list.freeSlots
            size := list.size - 1 },
          some node.value)

/-- Moves an entry before all others; tells whether the handle resolved. -/
def moveToHighest (list : PriorityList α) (handle : Handle) :
    Except Abort (PriorityList α × Bool) :=
  if list.contains handle then do
    let list ← list.unlink handle.index
    let list ← list.linkHighest handle.index
    .ok (list, true)
  else .ok (list, false)

/-- Moves an entry behind all others; tells whether the handle resolved. -/
def moveToLowest (list : PriorityList α) (handle : Handle) :
    Except Abort (PriorityList α × Bool) :=
  if list.contains handle then do
    let list ← list.unlink handle.index
    let list ← list.linkLowest handle.index
    .ok (list, true)
  else .ok (list, false)

def highest? (list : PriorityList α) : Option Handle := list.highestSlot.bind list.handleAt?

def lowest? (list : PriorityList α) : Option Handle := list.lowestSlot.bind list.handleAt?

/-- The neighbour of the next higher priority. -/
def higher? (list : PriorityList α) (handle : Handle) : Option Handle :=
  ((list.resolve? handle).bind Node.higher).bind list.handleAt?

/-- The neighbour of the next lower priority. -/
def lower? (list : PriorityList α) (handle : Handle) : Option Handle :=
  ((list.resolve? handle).bind Node.lower).bind list.handleAt?

/-- The entries from a slot downwards. A chain visits each slot at most once, so it is followed for
at most as many steps as there are slots. -/
def chainDown (list : PriorityList α) : Nat → Option Nat → List (Handle × α)
  | 0, _ => []
  | _, none => []
  | steps + 1, some index =>
      match list.slots[index]? with
      | some ⟨generation, some node⟩ =>
          (⟨index, generation⟩, node.value) :: list.chainDown steps node.lower
      | _ => []

/-- All entries, from the highest priority to the lowest. -/
def toList (list : PriorityList α) : List (Handle × α) :=
  list.chainDown list.slots.size list.highestSlot

/-- The handles from a handle upwards, for at most the given number of steps. -/
def chainUp (list : PriorityList α) : Nat → Option Handle → List Handle
  | 0, _ => []
  | _, none => []
  | steps + 1, some handle => handle :: list.chainUp steps (list.higher? handle)

/-- The handles of all entries, from the lowest priority to the highest. -/
def ascending (list : PriorityList α) : List Handle :=
  list.chainUp list.slots.size list.lowest?

/-- The handles of all entries, from the highest priority to the lowest. -/
def handles (list : PriorityList α) : List Handle := list.toList.map Prod.fst

def values (list : PriorityList α) : List α := list.toList.map Prod.snd

end PriorityList

end VramOvercommit
