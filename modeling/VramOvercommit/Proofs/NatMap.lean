import Mathlib.Data.List.Perm.Basic
import VramOvercommit.NatMap.Lookup

set_option autoImplicit false

/-!
Finite maps as collections of entries. Up to their order, inserting and erasing add and take out one
entry, so that sums over a map and correspondences with other lists follow from the entries alone.
-/

namespace VramOvercommit.NatMap

variable {α : Type} {map : NatMap α} {key : Nat} {value : α}

theorem perm_insertEntry (key : Nat) (value : α) (entries : List (Nat × α)) :
    (insertEntry key value entries).Perm ((key, value) :: eraseEntry key entries) := by
  induction entries with
  | nil => exact .refl _
  | cons head rest ih =>
    rw [insertEntry, eraseEntry]
    split
    · exact .refl _
    · split
      · exact .refl _
      · exact (ih.cons head).trans (.swap _ _ _)

theorem perm_eraseEntry {entries : List (Nat × α)}
    (descending : entries.Pairwise (fun first second => second.1 < first.1))
    (member : (key, value) ∈ entries) :
    entries.Perm ((key, value) :: eraseEntry key entries) := by
  induction entries with
  | nil => exact absurd member List.not_mem_nil
  | cons head rest ih =>
    obtain ⟨below, tail⟩ := List.pairwise_cons.mp descending
    rw [eraseEntry]
    rcases List.mem_cons.mp member with same | inside
    · subst same
      rw [if_neg (Nat.lt_irrefl _), if_pos rfl]
    · have before := below _ inside
      have notBefore : ¬ head.1 < key := Nat.not_lt.mpr (Nat.le_of_lt before)
      have notSame : ¬ head.1 = key := Nat.ne_of_gt before
      rw [if_neg notBefore, if_neg notSame]
      exact ((ih tail inside).cons head).trans (.swap _ _ _)

/-- Inserting puts one entry in place of whatever the key held. -/
theorem perm_insert (map : NatMap α) (key : Nat) (value : α) :
    (map.insert key value).entries.Perm ((key, value) :: (map.erase key).entries) :=
  perm_insertEntry key value map.entries

theorem perm_erase (found : map.get? key = some value) :
    map.entries.Perm ((key, value) :: (map.erase key).entries) :=
  perm_eraseEntry map.descending (get?_eq_some_iff.mp found)

theorem erase_of_none (absent : map.get? key = none) : map.erase key = map := by
  apply ext_get?
  intro other
  rw [get?_erase]
  split
  · rename_i same
    rw [same, absent]
  · rfl

/-- Inserting under a new key adds one entry. -/
theorem perm_insert_of_none (absent : map.get? key = none) (value : α) :
    (map.insert key value).entries.Perm ((key, value) :: map.entries) := by
  have added := perm_insert map key value
  rwa [erase_of_none absent] at added

/-- Exchanging the value of a key exchanges its entry. -/
theorem perm_replace {rest : List (Nat × α)} (before : map.entries.Perm ((key, value) :: rest))
    (new : α) : (map.insert key new).entries.Perm ((key, new) :: rest) := by
  have found := get?_eq_some_iff.mpr (before.mem_iff.mpr List.mem_cons_self)
  have others := ((perm_erase found).symm.trans before).cons_inv
  exact (perm_insert map key new).trans (others.cons _)

theorem perm_remove {rest : List (Nat × α)} (before : map.entries.Perm ((key, value) :: rest)) :
    (map.erase key).entries.Perm rest := by
  have found := get?_eq_some_iff.mpr (before.mem_iff.mpr List.mem_cons_self)
  exact ((perm_erase found).symm.trans before).cons_inv

/-- Maps with the same entries are equal. -/
theorem eq_of_perm {first second : NatMap α} (same : first.entries.Perm second.entries) :
    first = second := by
  apply ext_get?
  intro key
  apply Option.ext
  intro value
  rw [get?_eq_some_iff, get?_eq_some_iff, same.mem_iff]

/-- The map without any of the keys. -/
def eraseAll (map : NatMap α) (keys : List Nat) : NatMap α := keys.foldl erase map

/-- Erasing the keys of entries leaves the others. -/
theorem perm_eraseAll {gone rest : List (Nat × α)} (before : map.entries.Perm (gone ++ rest)) :
    (map.eraseAll (gone.map Prod.fst)).entries.Perm rest := by
  induction gone generalizing map with
  | nil => exact before
  | cons entry others ih => exact ih (perm_remove before)

theorem erase_insert (map : NatMap α) (key : Nat) (value : α) :
    (map.insert key value).erase key = map.erase key := by
  apply ext_get?
  intro other
  rw [get?_erase, get?_erase, get?_insert]
  split <;> rfl

theorem insert_insert (map : NatMap α) (key : Nat) (value new : α) :
    (map.insert key value).insert key new = map.insert key new := by
  apply ext_get?
  intro other
  rw [get?_insert, get?_insert, get?_insert]
  split <;> rfl

theorem perm_values (map : NatMap α) : map.values.Perm (map.entries.map Prod.snd) := by
  unfold values toList
  exact (List.reverse_perm _).map _

theorem keys_nodup (map : NatMap α) : (map.entries.map Prod.fst).Nodup := by
  rw [List.nodup_iff_pairwise_ne, List.pairwise_map]
  exact map.descending.imp fun below => Nat.ne_of_gt below

end VramOvercommit.NatMap
