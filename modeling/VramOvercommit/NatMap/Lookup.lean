import VramOvercommit.NatMap

set_option autoImplicit false

/-!
Looking entries up: what `get?`, `floor?` and `anyIn` say about the entries of a map, and what
inserting and erasing change. Maps that agree on every key are equal.
-/

namespace VramOvercommit.NatMap

variable {α : Type}

theorem mem_insertEntry_iff {key : Nat} {value : α} {entry : Nat × α} {entries : List (Nat × α)}
    (descending : entries.Pairwise (fun first second => second.1 < first.1)) :
    entry ∈ insertEntry key value entries ↔
      entry = (key, value) ∨ entry ∈ entries ∧ entry.1 ≠ key := by
  induction entries with
  | nil => simp [insertEntry]
  | cons head rest ih =>
      obtain ⟨below, tail⟩ := List.pairwise_cons.mp descending
      have inRest := ih tail
      grind [insertEntry]

theorem mem_eraseEntry_iff {key : Nat} {entry : Nat × α} {entries : List (Nat × α)}
    (descending : entries.Pairwise (fun first second => second.1 < first.1)) :
    entry ∈ eraseEntry key entries ↔ entry ∈ entries ∧ entry.1 ≠ key := by
  induction entries with
  | nil => simp [eraseEntry]
  | cons head rest ih =>
      obtain ⟨below, tail⟩ := List.pairwise_cons.mp descending
      have inRest := ih tail
      grind [eraseEntry]

/-- The nearest entry below a number is the one of the greatest key that is not above it. -/
theorem floor?_eq_some_iff {map : NatMap α} {key : Nat} {entry : Nat × α} :
    map.floor? key = some entry ↔
      entry ∈ map.entries ∧ entry.1 ≤ key ∧
        ∀ other ∈ map.entries, other.1 ≤ key → other.1 ≤ entry.1 := by
  obtain ⟨entries, descending⟩ := map
  change entries.find? (fun entry => entry.1 ≤ key) = some entry ↔ _
  induction entries with
  | nil => simp
  | cons head rest ih =>
      obtain ⟨below, tail⟩ := List.pairwise_cons.mp descending
      grind

theorem get?_eq_some_iff {map : NatMap α} {key : Nat} {value : α} :
    map.get? key = some value ↔ (key, value) ∈ map.entries := by
  constructor
  · intro found
    rw [get?] at found
    split at found
    · rename_i nearest
      have member := (floor?_eq_some_iff.mp nearest).1
      grind
    · exact nomatch found
  · intro member
    have isNearest : map.floor? key = some (key, value) :=
      floor?_eq_some_iff.mpr ⟨member, Nat.le_refl key, fun _ _ below => below⟩
    rw [get?, isNearest]
    exact if_pos rfl

theorem get?_eq_none_iff {map : NatMap α} {key : Nat} :
    map.get? key = none ↔ ∀ entry ∈ map.entries, entry.1 ≠ key := by
  rw [Option.eq_none_iff_forall_ne_some]
  simp only [ne_eq, get?_eq_some_iff]
  grind

@[simp]
theorem get?_empty (key : Nat) : ({} : NatMap α).get? key = none := rfl

theorem get?_insert (map : NatMap α) (key other : Nat) (value : α) :
    (map.insert key value).get? other = if other = key then some value else map.get? other := by
  apply Option.ext
  intro found
  rw [get?_eq_some_iff, insert, mem_insertEntry_iff map.descending]
  split <;> grind [get?_eq_some_iff]

theorem get?_erase (map : NatMap α) (key other : Nat) :
    (map.erase key).get? other = if other = key then none else map.get? other := by
  apply Option.ext
  intro found
  rw [get?_eq_some_iff, erase, mem_eraseEntry_iff map.descending]
  split <;> grind [get?_eq_some_iff]

theorem get?_insert_eq_some_iff {map : NatMap α} {key other : Nat} {value found : α} :
    (map.insert key value).get? other = some found ↔
      other = key ∧ found = value ∨ other ≠ key ∧ map.get? other = some found := by
  rw [get?_insert]
  split <;> grind

theorem get?_eq_none_of_insert {map : NatMap α} {key other : Nat} {value : α}
    (absent : (map.insert key value).get? other = none) : map.get? other = none := by
  rw [get?_insert] at absent
  split at absent
  · cases absent
  · exact absent

theorem get?_erase_eq_some_iff {map : NatMap α} {key other : Nat} {found : α} :
    (map.erase key).get? other = some found ↔ other ≠ key ∧ map.get? other = some found := by
  rw [get?_erase]
  split <;> grind

/-- Some key lies in a range exactly if an entry has such a key. -/
theorem anyIn_iff {map : NatMap α} {start stop : Nat} :
    map.anyIn start stop = true ↔ ∃ entry ∈ map.entries, start ≤ entry.1 ∧ entry.1 < stop := by
  obtain ⟨entries, descending⟩ := map
  unfold anyIn
  dsimp only
  induction entries with
  | nil => simp
  | cons head rest ih =>
      obtain ⟨below, tail⟩ := List.pairwise_cons.mp descending
      have inRest := ih tail
      grind

theorem entries_eq_of_mem_iff {first second : List (Nat × α)}
    (descendingFirst : first.Pairwise (fun first second => second.1 < first.1))
    (descendingSecond : second.Pairwise (fun first second => second.1 < first.1))
    (same : ∀ entry, entry ∈ first ↔ entry ∈ second) : first = second := by
  induction first generalizing second with
  | nil => exact (List.eq_nil_iff_forall_not_mem.mpr fun entry member => by grind).symm
  | cons head rest ih =>
      cases second with
      | nil => grind
      | cons head' rest' =>
          obtain ⟨below, tail⟩ := List.pairwise_cons.mp descendingFirst
          obtain ⟨below', tail'⟩ := List.pairwise_cons.mp descendingSecond
          have heads : head = head' := by grind
          have rests : rest = rest' := ih tail tail' (by grind)
          rw [heads, rests]

/-- Maps that answer alike for every key are equal. -/
theorem ext_get? {first second : NatMap α} (same : ∀ key, first.get? key = second.get? key) :
    first = second := by
  have entries : first.entries = second.entries :=
    entries_eq_of_mem_iff first.descending second.descending fun ⟨key, value⟩ => by
      rw [← get?_eq_some_iff, ← get?_eq_some_iff, same key]
  cases first
  cases second
  cases entries
  rfl

theorem mem_toList {map : NatMap α} {entry : Nat × α} :
    entry ∈ map.toList ↔ map.get? entry.1 = some entry.2 := by
  rw [toList, List.mem_reverse, get?_eq_some_iff]

theorem toList_ascending (map : NatMap α) :
    map.toList.Pairwise (fun first second => first.1 < second.1) :=
  List.pairwise_reverse.mpr map.descending

end VramOvercommit.NatMap
