import VramOvercommit.Proofs.Ensures
import VramOvercommit.Proofs.Holdings
import VramOvercommit.Proofs.NatMap
import VramOvercommit.Simulation.Device

set_option autoImplicit false

/-!
The address space of a simulated device: its driver calls, taken apart step by step, and what its
table of reservations says. Reservations never share an address, as the next one always starts where
the last one ended.
-/

namespace VramOvercommit

section Steps

variable {α : Type} {aborts : Overflow → Prop} {device : Simulation.Device}

open Simulation (DeviceM Device)

@[simp] theorem ensures_run_get {post : Except DriverError Device → Device → Prop} :
    Ensures aborts (get : DeviceM Device).run device post ↔ post (.ok device) device := Iff.rfl

@[simp] theorem ensures_run_set {new : Device} {post : Except DriverError PUnit → Device → Prop} :
    Ensures aborts (set new : DeviceM PUnit).run device post ↔ post (.ok ⟨⟩) new := Iff.rfl

@[simp] theorem ensures_run_modify {change : Device → Device}
    {post : Except DriverError PUnit → Device → Prop} :
    Ensures aborts (modify change : DeviceM PUnit).run device post ↔
      post (.ok ⟨⟩) (change device) := Iff.rfl

end Steps

namespace Simulation.Device

variable {aborts : Overflow → Prop} {device after : Device} {regions : List Region}

/-- A sum that is no word ends the program, where that is allowed. -/
theorem ensures_word {value : Nat} {post : Except DriverError Nat → Device → Prop}
    (small : value < wordLimit ∨ aborts ⟨⟩)
    (ensured : value < wordLimit → post (.ok value) device) :
    Ensures aborts (word value).run device post := by
  unfold word
  split
  · rename_i fits
    exact ensured fits
  · exact small.resolve_left ‹_›

/-- What the outside decides about a device, not its driver calls. -/
structure SameLimits (before after : Device) : Prop where
  capacity : after.capacity = before.capacity
  foreignUsage : after.foreignUsage = before.foreignUsage
  injected : before.injected = none → after.injected = none

theorem SameLimits.refl (device : Device) : SameLimits device device := ⟨rfl, rfl, id⟩

/-- The memory of a device is as it was; only its addresses may have changed. -/
structure SameMemory (before after : Device) : Prop extends SameLimits before after where
  mappings : after.mappings = before.mappings
  physical : after.physical = before.physical
  physicalInUse : after.physicalInUse = before.physicalInUse
  nextHandle : after.nextHandle = before.nextHandle
  nextAddress_le : before.nextAddress ≤ after.nextAddress

/-- The addresses of a device are as they were; only its memory may have changed. -/
structure SameAddresses (before after : Device) : Prop extends SameLimits before after where
  reservations : after.reservations = before.reservations
  nextAddress : after.nextAddress = before.nextAddress

theorem SameMemory.refl (device : Device) : SameMemory device device :=
  ⟨.refl device, rfl, rfl, rfl, rfl, Nat.le_refl _⟩

theorem SameAddresses.refl (device : Device) : SameAddresses device device :=
  ⟨.refl device, rfl, rfl⟩

/-- An injected failure is used up, and no more than that; without one the call goes on. -/
theorem takeFailure_spec {point : FailurePoint} {post : Except DriverError Unit → Device → Prop}
    (failed : ∀ {cause : DriverError} {after : Device}, SameMemory device after →
      SameAddresses device after → device.injected ≠ none → post (.error cause) after)
    (passed : post (.ok ()) device) : Ensures aborts (takeFailure point).run device post := by
  unfold takeFailure
  rw [ensures_run_bind, ensures_run_get]
  dsimp only
  split
  · rename_i found
    split
    · rw [ensures_run_bind, ensures_run_modify]
      refine failed ⟨⟨rfl, rfl, fun _ => rfl⟩, rfl, rfl, rfl, rfl, Nat.le_refl _⟩
        ⟨⟨rfl, rfl, fun _ => rfl⟩, rfl, rfl⟩ ?_
      rw [found]
      exact Option.some_ne_none _
    · exact passed
  · exact passed

/-! ## Reservations -/

/-- The table of reservations holds the given regions, and possibly others that were not given
back. -/
structure AddressBook (device : Device) (regions : List Region) : Prop where
  reserved : ∀ region ∈ regions, device.reservations.get? region.base = some region.size
  distinct : (regions.map Region.base).Nodup
  positive : ∀ {base size : Nat}, device.reservations.get? base = some size → 0 < size
  ends : ∀ {base size : Nat}, device.reservations.get? base = some size →
    base + size ≤ device.nextAddress
  apart : ∀ {base size other size' : Nat}, device.reservations.get? base = some size →
    device.reservations.get? other = some size' → base < other → base + size ≤ other
  next_lt : device.nextAddress < wordLimit

theorem AddressBook.perm {regions' : List Region} (book : AddressBook device regions)
    (same : regions.Perm regions') : AddressBook device regions' :=
  ⟨fun region member => book.reserved region (same.mem_iff.mpr member),
    (same.map Region.base).nodup_iff.mp book.distinct, book.positive, book.ends, book.apart,
    book.next_lt⟩

theorem AddressBook.congr (book : AddressBook device regions) (same : SameAddresses device after) :
    AddressBook after regions := by
  obtain ⟨-, reservations, nextAddress⟩ := same
  refine ⟨?_, book.distinct, ?_, ?_, ?_, ?_⟩
  · rw [reservations]
    exact book.reserved
  · rw [reservations]
    exact book.positive
  · rw [reservations, nextAddress]
    exact book.ends
  · rw [reservations]
    exact book.apart
  · rw [nextAddress]
    exact book.next_lt

theorem AddressBook.region_lt (book : AddressBook device regions) {region : Region}
    (member : region ∈ regions) : region.base + region.size < wordLimit :=
  Nat.lt_of_le_of_lt (book.ends (book.reserved region member)) book.next_lt

/-- A new reservation starts where all others have ended. -/
theorem AddressBook.grow {size : Nat} (book : AddressBook device regions) (positive : 0 < size)
    (fits : device.nextAddress + size < wordLimit)
    (nextAddress : after.nextAddress = device.nextAddress + size)
    (reservations : after.reservations = device.reservations.insert device.nextAddress size) :
    AddressBook after (⟨device.nextAddress, size⟩ :: regions) := by
  have lookup : ∀ {base size' : Nat}, after.reservations.get? base = some size' →
      base = device.nextAddress ∧ size' = size ∨
        base < device.nextAddress ∧ device.reservations.get? base = some size' := by
    intro base size' found
    rw [reservations, NatMap.get?_insert] at found
    split at found
    · exact .inl ⟨‹_›, by cases found; rfl⟩
    · have ends := book.ends found
      have positive' := book.positive found
      exact .inr ⟨by omega, found⟩
  have below : ∀ region ∈ regions, region.base < device.nextAddress := by
    intro region member
    have ends := book.ends (book.reserved region member)
    have positive' := book.positive (book.reserved region member)
    omega
  refine ⟨fun region member => ?_, ?_, fun {base size'} found => ?_, fun {base size'} found => ?_,
    fun {base size' other size''} found found' less => ?_, by omega⟩
  · rw [reservations, NatMap.get?_insert]
    rcases List.mem_cons.mp member with rfl | old
    · exact if_pos rfl
    · rw [if_neg (Nat.ne_of_lt (below region old))]
      exact book.reserved region old
  · rw [List.map_cons, List.nodup_cons]
    refine ⟨fun member => ?_, book.distinct⟩
    obtain ⟨region, inside, same⟩ := List.mem_map.mp member
    exact Nat.ne_of_lt (below region inside) same
  · rcases lookup found with ⟨-, rfl⟩ | ⟨-, old⟩
    · exact positive
    · exact book.positive old
  · rcases lookup found with ⟨rfl, rfl⟩ | ⟨-, old⟩
    · omega
    · have ends := book.ends old
      omega
  · rcases lookup found with ⟨rfl, rfl⟩ | ⟨-, old⟩
    · rcases lookup found' with ⟨rfl, rfl⟩ | ⟨less', -⟩ <;> omega
    · rcases lookup found' with ⟨rfl, rfl⟩ | ⟨-, old'⟩
      · exact book.ends old
      · exact book.apart old old' less

/-- A region that is given back, whether the device still holds it or not. -/
theorem AddressBook.drop {region : Region} (book : AddressBook device (region :: regions)) :
    AddressBook device regions :=
  ⟨fun other member => book.reserved other (List.mem_cons_of_mem _ member),
    (List.nodup_cons.mp book.distinct).2, book.positive, book.ends, book.apart, book.next_lt⟩

theorem AddressBook.erase {region : Region} (book : AddressBook device (region :: regions))
    (nextAddress : after.nextAddress = device.nextAddress)
    (reservations : after.reservations = device.reservations.erase region.base) :
    AddressBook after regions := by
  have old : ∀ {base size : Nat}, after.reservations.get? base = some size →
      device.reservations.get? base = some size := by
    intro base size found
    rw [reservations, NatMap.get?_erase] at found
    split at found
    · cases found
    · exact found
  refine ⟨fun other member => ?_, (List.nodup_cons.mp book.distinct).2,
    fun {base size} found => book.positive (old found), fun {base size} found => ?_,
    fun {base size other size'} found found' => book.apart (old found) (old found'), ?_⟩
  · have apart : other.base ≠ region.base := fun same =>
      (List.nodup_cons.mp book.distinct).1 (same ▸ List.mem_map_of_mem member)
    rw [reservations, NatMap.get?_erase, if_neg apart]
    exact book.reserved other (List.mem_cons_of_mem _ member)
  · rw [nextAddress]
    exact book.ends (old found)
  · rw [nextAddress]
    exact book.next_lt

theorem reserve_spec {size : Nat} (book : AddressBook device regions) (allowed : aborts ⟨⟩) :
    Ensures aborts (Device.call (.reserve size)) device (fun answer after =>
      SameMemory device after ∧
        match answer with
        | .ok base => AddressBook after (⟨base, size⟩ :: regions) ∧ base = device.nextAddress ∧
            ∀ region ∈ regions, region.base ≠ base
        | .error _ => AddressBook after regions) := by
  change Ensures aborts (reserve size).run device _
  unfold reserve
  rw [ensures_run_bind]
  refine takeFailure_spec (fun {cause after} same sameAddresses _ => ?_) ?_
  · exact ⟨same, book.congr sameAddresses⟩
  · dsimp only
    split
    · exact ⟨.refl device, book⟩
    · rename_i positive
      rw [ensures_run_bind, ensures_run_get]
      dsimp only
      rw [ensures_run_bind]
      apply ensures_word (.inr allowed)
      intro _
      dsimp only
      split
      · exact ⟨.refl device, book⟩
      · rw [ensures_run_bind]
        apply ensures_word (.inr allowed)
        intro fits
        dsimp only
        rw [ensures_run_bind, ensures_run_set]
        refine ⟨⟨⟨rfl, rfl, id⟩, rfl, rfl, rfl, rfl, Nat.le_add_right _ _⟩,
          book.grow (by omega) fits rfl rfl, rfl, fun region member => ?_⟩
        have ends := book.ends (book.reserved region member)
        have positive' := book.positive (book.reserved region member)
        omega

/-! ## Overlaps -/

/-- A mapping shares an address with a range, or starts in it. -/
def Overlaps (entry : Nat × Mapping) (vaddr size : Nat) : Prop :=
  entry.1 < vaddr + size ∧ (vaddr ≤ entry.1 ∨ vaddr < entry.1 + entry.2.size)

instance (entry : Nat × Mapping) (vaddr size : Nat) : Decidable (Overlaps entry vaddr size) :=
  inferInstanceAs (Decidable (_ ∧ _))

/-- The device finds an overlap only where there is one, and any mapping where the range starts. -/
theorem overlapsMapping_spec {vaddr size : Nat} {post : Except DriverError Bool → Device → Prop}
    (small : vaddr + size < wordLimit) (positive : 0 < size)
    (ends : ∀ {start : Nat} {mapping : Mapping}, device.mappings.get? start = some mapping →
      start + mapping.size < wordLimit)
    (overlaps : (∃ entry ∈ device.mappings.entries, Overlaps entry vaddr size) →
      post (.ok true) device)
    (free : device.mappings.get? vaddr = none → post (.ok false) device) :
    Ensures aborts (overlapsMapping vaddr size).run device post := by
  have rest : ∀ {reaches : Bool},
      (reaches = true → ∃ entry ∈ device.mappings.entries, Overlaps entry vaddr size) →
      Ensures aborts (do
        if reaches then return true
        else return device.mappings.anyIn vaddr (← word (vaddr + size)) : DeviceM Bool).run
        device post := by
    intro reaches reached
    cases reaches with
    | true => exact overlaps (reached rfl)
    | false =>
      simp only [Bool.false_eq_true, if_false]
      rw [ensures_run_bind]
      apply ensures_word (.inl small)
      intro _
      change post (.ok (device.mappings.anyIn vaddr (vaddr + size))) device
      cases inside : device.mappings.anyIn vaddr (vaddr + size) with
      | true =>
        obtain ⟨entry, member, low, high⟩ := NatMap.anyIn_iff.mp inside
        exact overlaps ⟨entry, member, high, .inl low⟩
      | false =>
        refine free (NatMap.get?_eq_none_iff.mpr fun entry member same => ?_)
        have found := NatMap.anyIn_iff.mpr ⟨entry, member, (by omega : vaddr ≤ entry.1),
          (by omega : entry.1 < vaddr + size)⟩
        rw [inside] at found
        cases found
  unfold overlapsMapping
  rw [ensures_run_bind, ensures_run_get]
  dsimp only
  cases found : device.mappings.floor? vaddr with
  | none =>
    have unreached : false = true → ∃ entry ∈ device.mappings.entries, Overlaps entry vaddr size :=
      fun reached => absurd reached Bool.false_ne_true
    exact rest unreached
  | some entry =>
    obtain ⟨member, below, -⟩ := NatMap.floor?_eq_some_iff.mp found
    dsimp only
    rw [ensures_run_bind]
    refine ensures_word (.inl (ends (NatMap.get?_eq_some_iff.mpr member))) fun _ => ?_
    refine rest fun reached => ⟨entry, member, ?_, .inr (of_decide_eq_true reached)⟩
    omega

/-- A range within a region is reserved. -/
theorem isReserved_spec {vaddr size : Nat} {region : Region}
    {post : Except DriverError Bool → Device → Prop} (book : AddressBook device regions)
    (member : region ∈ regions) (low : region.base ≤ vaddr) (positive : 0 < size)
    (high : vaddr + size ≤ region.base + region.size) (done : post (.ok true) device) :
    Ensures aborts (isReserved vaddr size).run device post := by
  have reserved := book.reserved region member
  have region_lt := book.region_lt member
  have nearest : device.reservations.floor? vaddr = some (region.base, region.size) := by
    refine NatMap.floor?_eq_some_iff.mpr
      ⟨NatMap.get?_eq_some_iff.mp reserved, low, fun other member' below => ?_⟩
    by_cases beyond : region.base < other.1
    · have apart := book.apart reserved (NatMap.get?_eq_some_iff.mpr member') beyond
      omega
    · omega
  unfold isReserved
  rw [ensures_run_bind, ensures_run_get]
  dsimp only
  rw [nearest]
  dsimp only
  rw [ensures_run_bind]
  apply ensures_word (.inl (by omega))
  intro _
  dsimp only
  rw [ensures_run_bind]
  apply ensures_word (.inl region_lt)
  intro _
  dsimp only
  rw [ensures_run_pure, decide_eq_true high]
  exact done

/-- A region that is given back leaves the table, unless something is still mapped there. -/
theorem freeAddress_spec {vaddr size : Nat} (book : AddressBook device (⟨vaddr, size⟩ :: regions))
    (ends : ∀ {start : Nat} {mapping : Mapping}, device.mappings.get? start = some mapping →
      start + mapping.size < wordLimit) :
    Ensures aborts (Device.call (.freeAddress vaddr size)) device (fun _ after =>
      SameMemory device after ∧ AddressBook after regions) := by
  have reserved : device.reservations.get? vaddr = some size :=
    book.reserved ⟨vaddr, size⟩ List.mem_cons_self
  have small : vaddr + size < wordLimit := book.region_lt List.mem_cons_self
  change Ensures aborts (freeAddress vaddr size).run device _
  unfold freeAddress
  rw [ensures_run_bind, ensures_run_get]
  dsimp only
  rw [if_neg (not_not_intro reserved), ensures_run_bind]
  refine overlapsMapping_spec small (book.positive reserved) ends (fun _ => ?_) fun _ => ?_
  · exact ⟨.refl device, book.drop⟩
  · refine ⟨⟨⟨rfl, rfl, id⟩, rfl, rfl, rfl, rfl, Nat.le_refl _⟩, book.erase rfl rfl⟩

/-! ## Questions -/

theorem memoryInfo_spec : Ensures aborts (Device.call .memoryInfo) device (fun _ after =>
    SameMemory device after ∧ SameAddresses device after) :=
  ⟨.refl device, .refl device⟩

theorem synchronize_spec : Ensures aborts (Device.call .synchronize) device (fun _ after =>
    SameMemory device after ∧ SameAddresses device after) :=
  ⟨⟨⟨rfl, rfl, id⟩, rfl, rfl, rfl, rfl, Nat.le_refl _⟩, ⟨⟨rfl, rfl, id⟩, rfl, rfl⟩⟩

end Simulation.Device

end VramOvercommit
