import VramOvercommit.Proofs.Simulation.AddressSpace

set_option autoImplicit false

/-!
The tables of a simulated device. Mappings lie apart, in reserved ranges; allocations are counted as
long as they are kept; and an allocation is flagged as mapped exactly as long as a mapping shows it.
-/

namespace VramOvercommit.Simulation.Device

variable {device after : Device}

/-! ## Where mappings lie -/

/-- Mappings lie within reservations and apart from each other. -/
structure Placed (device : Device) : Prop where
  inside : ∀ {vaddr : Nat} {mapping : Mapping}, device.mappings.get? vaddr = some mapping →
    ∃ base size, device.reservations.get? base = some size ∧ base ≤ vaddr ∧
      vaddr + mapping.size ≤ base + size
  apart : ∀ {vaddr other : Nat} {mapping mapping' : Mapping},
    device.mappings.get? vaddr = some mapping → device.mappings.get? other = some mapping' →
    vaddr < other → vaddr + mapping.size ≤ other
  positive : ∀ {vaddr : Nat} {mapping : Mapping}, device.mappings.get? vaddr = some mapping →
    0 < mapping.size

theorem Placed.congr (placed : device.Placed) (mappings : after.mappings = device.mappings)
    (reservations : after.reservations = device.reservations) : after.Placed := by
  refine ⟨?_, ?_, ?_⟩
  · rw [mappings, reservations]
    exact placed.inside
  · rw [mappings]
    exact placed.apart
  · rw [mappings]
    exact placed.positive

/-- Nothing is mapped where a vacant range starts. -/
theorem Vacant.free {vaddr size : Nat} (vacant : device.Vacant vaddr size) (positive : 0 < size) :
    device.mappings.get? vaddr = none := by
  cases found : device.mappings.get? vaddr with
  | none => rfl
  | some mapping =>
    have beyond := vacant.inside _ (NatMap.get?_eq_some_iff.mp found) (Nat.le_refl _)
    dsimp only at beyond
    omega

/-- The nearest mapping below tells about all of them. -/
theorem Placed.vacant_below (placed : device.Placed) {vaddr size start : Nat} {mapping : Mapping}
    (vacant : device.Vacant vaddr size) (found : device.mappings.get? start = some mapping)
    (below : start ≤ vaddr) : start + mapping.size ≤ vaddr := by
  cases nearest : device.mappings.floor? vaddr with
  | none =>
    have beyond := List.find?_eq_none.mp nearest _ (NatMap.get?_eq_some_iff.mp found)
    exact absurd (decide_eq_true below) beyond
  | some entry =>
    obtain ⟨member, low, greatest⟩ := NatMap.floor?_eq_some_iff.mp nearest
    have ends := vacant.below entry nearest
    have before := greatest _ (NatMap.get?_eq_some_iff.mp found) below
    rcases Nat.lt_or_eq_of_le before with less | same
    · have apart := placed.apart found (NatMap.get?_eq_some_iff.mpr member) less
      omega
    · have isNearest : device.mappings.get? entry.1 = some entry.2 :=
        NatMap.get?_eq_some_iff.mpr member
      rw [← same, found] at isNearest
      cases isNearest
      omega

theorem Placed.reserved (placed : device.Placed) {size : Nat}
    (fresh : device.reservations.get? device.nextAddress = none) :
    (device.reserved size).Placed := by
  refine ⟨fun {vaddr mapping} found => ?_, placed.apart, placed.positive⟩
  obtain ⟨base, length, reservation, low, high⟩ := placed.inside found
  refine ⟨base, length, ?_, low, high⟩
  change (device.reservations.insert _ _).get? base = _
  rw [NatMap.get?_insert, if_neg, reservation]
  rintro rfl
  rw [fresh] at reservation
  cases reservation

theorem Placed.freed (placed : device.Placed) {vaddr size : Nat}
    (reservation : device.reservations.get? vaddr = some size)
    (vacant : device.Vacant vaddr size) : (device.freed vaddr size).Placed := by
  refine ⟨fun {start mapping} found => ?_, placed.apart, placed.positive⟩
  obtain ⟨base, length, reservation', low, high⟩ := placed.inside found
  refine ⟨base, length, ?_, low, high⟩
  change (device.reservations.erase _).get? base = _
  rw [NatMap.get?_erase, if_neg, reservation']
  rintro rfl
  rw [reservation] at reservation'
  cases reservation'
  have beyond := vacant.inside _ (NatMap.get?_eq_some_iff.mp found) low
  have positive := placed.positive found
  dsimp only at beyond
  omega

theorem Placed.mappedAt (placed : device.Placed) {vaddr base length : Nat}
    {memory : PhysicalHandle} {allocation : Allocation}
    (reservation : device.reservations.get? base = some length) (low : base ≤ vaddr)
    (high : vaddr + allocation.size ≤ base + length)
    (vacant : device.Vacant vaddr allocation.size) (positive : 0 < allocation.size) :
    (device.mappedAt vaddr memory allocation).Placed := by
  refine ⟨fun {start mapping} found => ?_, fun {start other mapping mapping'} found found' less => ?_,
    fun {start mapping} found => ?_⟩
  · rcases NatMap.get?_insert_eq_some_iff.mp found with ⟨rfl, rfl⟩ | ⟨-, old⟩
    · exact ⟨base, length, reservation, low, high⟩
    · exact placed.inside old
  · rcases NatMap.get?_insert_eq_some_iff.mp found with ⟨rfl, rfl⟩ | ⟨-, old⟩
    · rcases NatMap.get?_insert_eq_some_iff.mp found' with ⟨rfl, -⟩ | ⟨-, old'⟩
      · exact absurd less (Nat.lt_irrefl _)
      · exact vacant.inside _ (NatMap.get?_eq_some_iff.mp old') (Nat.le_of_lt less)
    · rcases NatMap.get?_insert_eq_some_iff.mp found' with ⟨rfl, -⟩ | ⟨-, old'⟩
      · exact placed.vacant_below vacant old (Nat.le_of_lt less)
      · exact placed.apart old old' less
  · rcases NatMap.get?_insert_eq_some_iff.mp found with ⟨-, rfl⟩ | ⟨-, old⟩
    · exact positive
    · exact placed.positive old

theorem Placed.withoutMapping (placed : device.Placed) (vaddr : Nat) :
    (device.withoutMapping vaddr).Placed := by
  have old : ∀ {start : Nat} {mapping : Mapping},
      (device.withoutMapping vaddr).mappings.get? start = some mapping →
      device.mappings.get? start = some mapping :=
    fun found => (NatMap.get?_erase_eq_some_iff.mp found).2
  exact ⟨fun found => placed.inside (old found), fun found found' => placed.apart (old found)
    (old found'), fun found => placed.positive (old found)⟩

/-! ## What is allocated -/

/-- The memory in use is that of the allocations, of which none has been both released and
unmapped. -/
structure Counted (device : Device) : Prop where
  positive : ∀ {id : Nat} {allocation : Allocation}, device.physical.get? id = some allocation →
    0 < allocation.size
  alive : ∀ {id : Nat} {allocation : Allocation}, device.physical.get? id = some allocation →
    allocation.released = true → allocation.mapped = true
  ids : ∀ {id : Nat} {allocation : Allocation}, device.physical.get? id = some allocation →
    id < device.nextHandle
  inUse : device.physicalInUse = allocatedBytes device.physical.entries
  fits : device.physicalInUse ≤ device.capacity

theorem Counted.congr (counted : device.Counted) (physical : after.physical = device.physical)
    (nextHandle : after.nextHandle = device.nextHandle)
    (physicalInUse : after.physicalInUse = device.physicalInUse)
    (capacity : after.capacity = device.capacity) : after.Counted := by
  refine ⟨?_, ?_, ?_, ?_, ?_⟩
  · rw [physical]
    exact counted.positive
  · rw [physical]
    exact counted.alive
  · rw [physical, nextHandle]
    exact counted.ids
  · rw [physical, physicalInUse]
    exact counted.inUse
  · rw [physicalInUse, capacity]
    exact counted.fits

theorem Counted.fresh (counted : device.Counted) :
    device.physical.get? device.nextHandle = none := by
  cases found : device.physical.get? device.nextHandle with
  | none => rfl
  | some allocation => exact absurd (counted.ids found) (Nat.lt_irrefl _)

theorem Counted.created (counted : device.Counted) {size : Nat} (positive : 0 < size)
    (room : device.physicalInUse + size ≤ device.capacity) : (device.created size).Counted := by
  refine ⟨fun {id allocation} found => ?_, fun {id allocation} found released => ?_,
    fun {id allocation} found => ?_, ?_, room⟩
  · rcases NatMap.get?_insert_eq_some_iff.mp found with ⟨-, rfl⟩ | ⟨-, old⟩
    · exact positive
    · exact counted.positive old
  · rcases NatMap.get?_insert_eq_some_iff.mp found with ⟨-, rfl⟩ | ⟨-, old⟩
    · cases released
    · exact counted.alive old released
  · change id < device.nextHandle + 1
    rcases NatMap.get?_insert_eq_some_iff.mp found with ⟨rfl, -⟩ | ⟨-, old⟩
    · exact Nat.lt_succ_self _
    · exact Nat.lt_succ_of_lt (counted.ids old)
  · have added := NatMap.perm_insert_of_none counted.fresh { size }
    change device.physicalInUse + size = _
    rw [counted.inUse, Nat.add_comm]
    exact ((allocatedBytes_perm added).trans (allocatedBytes_cons _ _)).symm

/-- What is found in the books after an allocation got new flags. -/
theorem settle_get?_eq_some_iff {id other : Nat} {new allocation : Allocation} :
    (device.settle id new).physical.get? other = some allocation ↔
      other = id ∧ allocation = new ∧ (new.released = true → new.mapped = true) ∨
        other ≠ id ∧ device.physical.get? other = some allocation := by
  unfold settle
  split
  · change (device.physical.erase id).get? other = some allocation ↔ _
    rw [NatMap.get?_erase_eq_some_iff]
    grind
  · change (device.physical.insert id new).get? other = some allocation ↔ _
    rw [NatMap.get?_insert_eq_some_iff]
    grind

@[simp] theorem settle_mappings (device : Device) (id : Nat) (allocation : Allocation) :
    (device.settle id allocation).mappings = device.mappings := by
  unfold settle
  split <;> rfl

/-- New flags leave the sum right, and an allocation takes its bytes along when it goes. -/
theorem Counted.settle (counted : device.Counted) {id : Nat} {old new : Allocation}
    (live : device.physical.get? id = some old) (same : new.size = old.size) :
    (device.settle id new).Counted := by
  have entries := NatMap.perm_erase live
  have bytes := counted.inUse.trans ((allocatedBytes_perm entries).trans (allocatedBytes_cons _ _))
  dsimp only at bytes
  have fits := counted.fits
  refine ⟨fun {other allocation} found => ?_, fun {other allocation} found released => ?_,
    fun {other allocation} found => ?_, ?_, ?_⟩
  · rcases settle_get?_eq_some_iff.mp found with ⟨-, rfl, -⟩ | ⟨-, kept⟩
    · rw [same]
      exact counted.positive live
    · exact counted.positive kept
  · rcases settle_get?_eq_some_iff.mp found with ⟨-, rfl, stays⟩ | ⟨-, kept⟩
    · exact stays released
    · exact counted.alive kept released
  · have handles : (device.settle id new).nextHandle = device.nextHandle := by
      unfold Device.settle
      split <;> rfl
    rw [handles]
    rcases settle_get?_eq_some_iff.mp found with ⟨rfl, -, -⟩ | ⟨-, kept⟩
    · exact counted.ids live
    · exact counted.ids kept
  · unfold Device.settle
    split
    · change device.physicalInUse - new.size = allocatedBytes (device.physical.erase id).entries
      omega
    · change device.physicalInUse = _
      rw [bytes, allocatedBytes_perm (NatMap.perm_replace entries new), allocatedBytes_cons, same]
  · unfold Device.settle
    split
    · change device.physicalInUse - new.size ≤ device.capacity
      omega
    · exact fits

theorem Counted.mappedAt (counted : device.Counted) {vaddr : Nat} {memory : PhysicalHandle}
    {allocation : Allocation} (live : device.physical.get? memory.id = some allocation) :
    (device.mappedAt vaddr memory allocation).Counted := by
  have settled : (device.settle memory.id { allocation with mapped := true }).Counted :=
    counted.settle live rfl
  unfold Device.settle at settled
  rw [if_neg fun gone => Bool.noConfusion gone.2] at settled
  exact settled.congr rfl rfl rfl rfl

/-! ## What is mapped -/

/-- Each mapping refers to an allocation of its size that is flagged as mapped, and each allocation
that is flagged has one mapping. -/
structure Flagged (device : Device) : Prop where
  backed : ∀ {vaddr : Nat} {mapping : Mapping}, device.mappings.get? vaddr = some mapping →
    ∃ allocation, device.physical.get? mapping.memory.id = some allocation ∧
      allocation.mapped = true ∧ allocation.size = mapping.size
  single : ∀ {vaddr other : Nat} {mapping mapping' : Mapping},
    device.mappings.get? vaddr = some mapping → device.mappings.get? other = some mapping' →
    mapping'.memory.id = mapping.memory.id → other = vaddr
  shown : ∀ {id : Nat} {allocation : Allocation}, device.physical.get? id = some allocation →
    allocation.mapped = true →
    ∃ vaddr mapping, device.mappings.get? vaddr = some mapping ∧ mapping.memory.id = id

theorem Flagged.congr (flagged : device.Flagged) (mappings : after.mappings = device.mappings)
    (physical : after.physical = device.physical) : after.Flagged := by
  refine ⟨?_, ?_, ?_⟩
  · rw [mappings, physical]
    exact flagged.backed
  · rw [mappings]
    exact flagged.single
  · rw [mappings, physical]
    exact flagged.shown

theorem Flagged.created (flagged : device.Flagged)
    (fresh : device.physical.get? device.nextHandle = none) (size : Nat) :
    (device.created size).Flagged := by
  refine ⟨fun {vaddr mapping} found => ?_, flagged.single, fun {id allocation} found mapped => ?_⟩
  · obtain ⟨allocation, live, mapped, same⟩ := flagged.backed found
    refine ⟨allocation, NatMap.get?_insert_eq_some_iff.mpr (.inr ⟨fun new => ?_, live⟩), mapped, same⟩
    rw [new, fresh] at live
    cases live
  · rcases NatMap.get?_insert_eq_some_iff.mp found with ⟨-, rfl⟩ | ⟨-, old⟩
    · cases mapped
    · exact flagged.shown old mapped

/-- No mapping refers to memory that is not flagged as mapped. -/
theorem Flagged.unmapped_ne (flagged : device.Flagged) {vaddr id : Nat} {mapping : Mapping}
    {allocation : Allocation} (found : device.mappings.get? vaddr = some mapping)
    (live : device.physical.get? id = some allocation) (unmapped : allocation.mapped = false) :
    mapping.memory.id ≠ id := by
  rintro rfl
  obtain ⟨allocation', live', mapped, -⟩ := flagged.backed found
  rw [live] at live'
  cases live'
  rw [unmapped] at mapped
  cases mapped

theorem Flagged.mappedAt (flagged : device.Flagged) {vaddr : Nat} {memory : PhysicalHandle}
    {allocation : Allocation} (live : device.physical.get? memory.id = some allocation)
    (unmapped : allocation.mapped = false) (free : device.mappings.get? vaddr = none) :
    (device.mappedAt vaddr memory allocation).Flagged := by
  have others : ∀ {start : Nat} {mapping : Mapping}, device.mappings.get? start = some mapping →
      mapping.memory.id ≠ memory.id := fun found => flagged.unmapped_ne found live unmapped
  refine ⟨fun {start mapping} found => ?_, fun {start other mapping mapping'} found found' same => ?_,
    fun {id allocation'} found mapped => ?_⟩
  · rcases NatMap.get?_insert_eq_some_iff.mp found with ⟨-, rfl⟩ | ⟨-, old⟩
    · exact ⟨_, NatMap.get?_insert_eq_some_iff.mpr (.inl ⟨rfl, rfl⟩), rfl, rfl⟩
    · obtain ⟨allocation', live', mapped, size⟩ := flagged.backed old
      exact ⟨allocation', NatMap.get?_insert_eq_some_iff.mpr (.inr ⟨others old, live'⟩), mapped, size⟩
  · rcases NatMap.get?_insert_eq_some_iff.mp found with ⟨rfl, rfl⟩ | ⟨-, old⟩
    · rcases NatMap.get?_insert_eq_some_iff.mp found' with ⟨rfl, -⟩ | ⟨-, old'⟩
      · rfl
      · exact absurd same (others old')
    · rcases NatMap.get?_insert_eq_some_iff.mp found' with ⟨-, rfl⟩ | ⟨-, old'⟩
      · exact absurd same.symm (others old)
      · exact flagged.single old old' same
  · rcases NatMap.get?_insert_eq_some_iff.mp found with ⟨rfl, -⟩ | ⟨-, old⟩
    · exact ⟨vaddr, _, NatMap.get?_insert_eq_some_iff.mpr (.inl ⟨rfl, rfl⟩), rfl⟩
    · obtain ⟨start, mapping, found', same⟩ := flagged.shown old mapped
      refine ⟨start, mapping, NatMap.get?_insert_eq_some_iff.mpr (.inr ⟨?_, found'⟩), same⟩
      rintro rfl
      rw [free] at found'
      cases found'

theorem Flagged.unmapped (flagged : device.Flagged) {vaddr : Nat} {mapping : Mapping}
    {allocation : Allocation} (found : device.mappings.get? vaddr = some mapping) :
    ((device.withoutMapping vaddr).settle mapping.memory.id
      { allocation with mapped := false }).Flagged := by
  refine ⟨fun {start mapping'} found' => ?_, fun {start other first second} found₁ found₂ same => ?_,
    fun {id allocation'} found' mapped => ?_⟩
  · rw [settle_mappings] at found'
    obtain ⟨other, old⟩ := NatMap.get?_erase_eq_some_iff.mp found'
    obtain ⟨allocation', live, mapped, size⟩ := flagged.backed old
    refine ⟨allocation', settle_get?_eq_some_iff.mpr (.inr ⟨fun same => ?_, live⟩), mapped, size⟩
    exact other (flagged.single found old same)
  · rw [settle_mappings] at found₁ found₂
    exact flagged.single (NatMap.get?_erase_eq_some_iff.mp found₁).2
      (NatMap.get?_erase_eq_some_iff.mp found₂).2 same
  · rcases settle_get?_eq_some_iff.mp found' with ⟨-, rfl, -⟩ | ⟨other, old⟩
    · cases mapped
    · obtain ⟨start, mapping', mapping_found, same⟩ := flagged.shown old mapped
      refine ⟨start, mapping', ?_, same⟩
      rw [settle_mappings]
      refine NatMap.get?_erase_eq_some_iff.mpr ⟨?_, mapping_found⟩
      rintro rfl
      rw [found] at mapping_found
      cases mapping_found
      exact other same.symm

theorem Flagged.released (flagged : device.Flagged) {id : Nat} {allocation : Allocation}
    (live : device.physical.get? id = some allocation) :
    (device.settle id { allocation with released := true }).Flagged := by
  refine ⟨fun {start mapping} found => ?_, fun {start other first second} found₁ found₂ same => ?_,
    fun {id' allocation'} found mapped => ?_⟩
  · rw [settle_mappings] at found
    obtain ⟨allocation', live', mapped, size⟩ := flagged.backed found
    by_cases same : mapping.memory.id = id
    · rw [same, live] at live'
      cases live'
      exact ⟨_, settle_get?_eq_some_iff.mpr (.inl ⟨same, rfl, fun _ => mapped⟩), mapped, size⟩
    · exact ⟨_, settle_get?_eq_some_iff.mpr (.inr ⟨same, live'⟩), mapped, size⟩
  · rw [settle_mappings] at found₁ found₂
    exact flagged.single found₁ found₂ same
  · rw [settle_mappings]
    rcases settle_get?_eq_some_iff.mp found with ⟨rfl, rfl, -⟩ | ⟨-, old⟩
    · exact flagged.shown live mapped
    · exact flagged.shown old mapped

end VramOvercommit.Simulation.Device
