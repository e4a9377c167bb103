set_option autoImplicit false

/-!
Finite maps on natural numbers, kept as lists with descending keys: two maps with the same entries
are equal, and the nearest entry below a number is the first one that is not above it.
-/

namespace VramOvercommit

theorem NatMap.descending_nil {α : Type} :
    ([] : List (Nat × α)).Pairwise (fun first second => second.1 < first.1) := .nil

structure NatMap (α : Type) where
  entries : List (Nat × α) := []
  descending : entries.Pairwise (fun first second => second.1 < first.1) := by
    exact NatMap.descending_nil
  deriving DecidableEq

namespace NatMap

variable {α : Type}

/-- Puts an entry in its place, over an entry of the same key. -/
def insertEntry (key : Nat) (value : α) : List (Nat × α) → List (Nat × α)
  | [] => [(key, value)]
  | entry :: rest =>
      if entry.1 < key then (key, value) :: entry :: rest
      else if entry.1 = key then (key, value) :: rest
      else entry :: insertEntry key value rest

/-- Takes out the entry of a key. -/
def eraseEntry (key : Nat) : List (Nat × α) → List (Nat × α)
  | [] => []
  | entry :: rest =>
      if entry.1 < key then entry :: rest
      else if entry.1 = key then rest
      else entry :: eraseEntry key rest

theorem mem_insertEntry {key : Nat} {value : α} {entry : Nat × α} {entries : List (Nat × α)}
    (member : entry ∈ insertEntry key value entries) :
    entry = (key, value) ∨ entry ∈ entries := by
  induction entries with
  | nil => exact .inl (List.mem_singleton.mp member)
  | cons head rest ih =>
      rw [insertEntry] at member
      split at member
      · exact List.mem_cons.mp member
      · split at member
        · exact (List.mem_cons.mp member).imp id (List.mem_cons_of_mem _)
        · rcases List.mem_cons.mp member with same | inside
          · exact .inr (same ▸ List.mem_cons_self)
          · exact (ih inside).imp id (List.mem_cons_of_mem _)

theorem descending_insertEntry {key : Nat} {value : α} {entries : List (Nat × α)}
    (descending : entries.Pairwise (fun first second => second.1 < first.1)) :
    (insertEntry key value entries).Pairwise (fun first second => second.1 < first.1) := by
  induction entries with
  | nil => exact List.pairwise_singleton _ _
  | cons head rest ih =>
      obtain ⟨below, tail⟩ := List.pairwise_cons.mp descending
      rw [insertEntry]
      split
      · rename_i after
        refine List.pairwise_cons.mpr ⟨fun entry member => ?_, descending⟩
        rcases List.mem_cons.mp member with same | inside
        · exact same ▸ after
        · exact Nat.lt_trans (below entry inside) after
      · split
        · rename_i same
          exact List.pairwise_cons.mpr
            ⟨fun entry member => by simpa only [same] using below entry member, tail⟩
        · rename_i notAfter notSame
          refine List.pairwise_cons.mpr ⟨fun entry member => ?_, ih tail⟩
          rcases mem_insertEntry member with same | inside
          · rw [same]
            change key < head.1
            omega
          · exact below entry inside

theorem eraseEntry_sublist (key : Nat) (entries : List (Nat × α)) :
    (eraseEntry key entries).Sublist entries := by
  induction entries with
  | nil => exact .slnil
  | cons head rest ih =>
      rw [eraseEntry]
      split
      · exact List.Sublist.refl _
      · split
        · exact List.sublist_cons_self _ _
        · exact ih.cons_cons head

/-- The map with `value` at `key`. -/
def insert (map : NatMap α) (key : Nat) (value : α) : NatMap α :=
  ⟨insertEntry key value map.entries, descending_insertEntry map.descending⟩

/-- The map without `key`. -/
def erase (map : NatMap α) (key : Nat) : NatMap α :=
  ⟨eraseEntry key map.entries, map.descending.sublist (eraseEntry_sublist key map.entries)⟩

/-- The entry with the greatest key that is at most `key`. -/
def floor? (map : NatMap α) (key : Nat) : Option (Nat × α) :=
  map.entries.find? (fun entry => entry.1 ≤ key)

def get? (map : NatMap α) (key : Nat) : Option α :=
  match map.floor? key with
  | some (found, value) => if found = key then some value else none
  | none => none

def contains (map : NatMap α) (key : Nat) : Bool := (map.get? key).isSome

/-- Whether some key lies in `[start, stop)`: the greatest key below `stop` tells. -/
def anyIn (map : NatMap α) (start stop : Nat) : Bool :=
  match map.entries.find? (fun entry => entry.1 < stop) with
  | some (found, _) => start ≤ found
  | none => false

/-- The entries by ascending key. -/
def toList (map : NatMap α) : List (Nat × α) := map.entries.reverse

/-- The values by ascending key. -/
def values (map : NatMap α) : List α := map.toList.map Prod.snd

def size (map : NatMap α) : Nat := map.entries.length

def isEmpty (map : NatMap α) : Bool := map.entries.isEmpty

end NatMap

end VramOvercommit
