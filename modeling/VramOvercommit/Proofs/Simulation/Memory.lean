import VramOvercommit.Proofs.Ledger
import VramOvercommit.Proofs.Simulation.Addresses

set_option autoImplicit false

/-!
The physical memory of a simulated device. Its tables hold what an engine holds, the memory in
transit, and whatever was left behind when the device could not take a mapping or a piece of memory
back.
-/

namespace VramOvercommit

open Simulation (Mapping Allocation)

/-- The entry of a holding in the table of mappings. -/
def Holding.mapping (holding : Holding) : Nat × Mapping :=
  (holding.vaddr, ⟨holding.size, holding.memory⟩)

/-- The entry of a holding in the table of physical memory. -/
def Holding.allocation (holding : Holding) : Nat × Allocation :=
  (holding.memory.id, ⟨holding.size, true, false⟩)

/-- The entry of memory in transit in the table of physical memory. -/
def Spare.allocation (spare : Spare) : Nat × Allocation :=
  (spare.memory.id, ⟨spare.size, spare.mapped, false⟩)

namespace Simulation.Device

variable {aborts : Overflow → Prop} {device after : Device} {regions : List Region}
  {strays : List (Nat × Mapping)} {leaks : List (Nat × Allocation)} {spare : Option Spare}
  {holdings : List Holding}

/-- The bytes of a table of physical memory. -/
def allocatedBytes (entries : List (Nat × Allocation)) : Nat :=
  (entries.map fun entry => entry.2.size).sum

@[simp] theorem allocatedBytes_cons (entry : Nat × Allocation) (rest : List (Nat × Allocation)) :
    allocatedBytes (entry :: rest) = entry.2.size + allocatedBytes rest := List.sum_cons

@[simp] theorem allocatedBytes_append (front back : List (Nat × Allocation)) :
    allocatedBytes (front ++ back) = allocatedBytes front + allocatedBytes back := by
  unfold allocatedBytes
  rw [List.map_append, List.sum_append]

theorem allocatedBytes_perm {first second : List (Nat × Allocation)} (same : first.Perm second) :
    allocatedBytes first = allocatedBytes second := (same.map _).sum_nat

theorem allocatedBytes_holdings (holdings : List Holding) :
    allocatedBytes (holdings.map Holding.allocation) = heldBytes holdings := by
  unfold allocatedBytes heldBytes
  rw [List.map_map]
  rfl

/-- The tables of a device: `strays` are mappings that could not be taken away, `leaks` is memory
that could not be given back. -/
structure MemoryBook (device : Device) (strays : List (Nat × Mapping))
    (leaks : List (Nat × Allocation)) (spare : Option Spare) (holdings : List Holding) : Prop where
  mappings : device.mappings.entries.Perm (strays ++ holdings.map Holding.mapping)
  physical : device.physical.entries.Perm
    (leaks ++ (spare.toList.map Spare.allocation ++ holdings.map Holding.allocation))
  inUse : device.physicalInUse = allocatedBytes device.physical.entries
  fits : device.physicalInUse ≤ device.capacity
  ids : ∀ {id : Nat} {allocation : Allocation}, device.physical.get? id = some allocation →
    id < device.nextHandle
  ends : ∀ {vaddr : Nat} {mapping : Mapping}, device.mappings.get? vaddr = some mapping →
    vaddr < device.nextAddress ∧ vaddr + mapping.size ≤ device.nextAddress

theorem MemoryBook.congr (book : MemoryBook device strays leaks spare holdings)
    (same : SameMemory device after) : MemoryBook after strays leaks spare holdings := by
  refine ⟨?_, ?_, ?_, ?_, ?_, ?_⟩
  · rw [same.mappings]
    exact book.mappings
  · rw [same.physical]
    exact book.physical
  · rw [same.physicalInUse, same.physical]
    exact book.inUse
  · rw [same.physicalInUse, same.capacity]
    exact book.fits
  · rw [same.physical, same.nextHandle]
    exact book.ids
  · rw [same.mappings]
    exact fun found => (book.ends found).imp (Nat.lt_of_lt_of_le · same.nextAddress_le)
      (Nat.le_trans · same.nextAddress_le)

theorem MemoryBook.perm {holdings' : List Holding}
    (book : MemoryBook device strays leaks spare holdings) (same : holdings.Perm holdings') :
    MemoryBook device strays leaks spare holdings' :=
  ⟨book.mappings.trans ((same.map _).append_left _),
    book.physical.trans (((same.map _).append_left _).append_left _), book.inUse, book.fits,
    book.ids, book.ends⟩

/-- What is in use: leaks, memory in transit, and what is held. -/
theorem MemoryBook.physicalInUse (book : MemoryBook device strays leaks spare holdings) :
    device.physicalInUse =
      allocatedBytes leaks + (spare.toList.map Spare.size).sum + heldBytes holdings := by
  rw [book.inUse, allocatedBytes_perm book.physical, allocatedBytes_append, allocatedBytes_append,
    allocatedBytes_holdings]
  cases spare with
  | none => simp [allocatedBytes]
  | some spare =>
    simp only [Option.toList_some, List.map_cons, List.map_nil, allocatedBytes_cons,
      List.sum_cons, List.sum_nil, Spare.allocation]
    change _ + (spare.size + 0 + _) = _
    omega

/-- The mapping of a holding is the only one at its address. -/
theorem MemoryBook.mapped {holding : Holding}
    (book : MemoryBook device strays leaks spare (holding :: holdings)) :
    device.mappings.get? holding.vaddr = some ⟨holding.size, holding.memory⟩ := by
  refine NatMap.get?_eq_some_iff.mpr (book.mappings.mem_iff.mpr ?_)
  exact List.mem_append_right _ List.mem_cons_self

/-- A mapping that could not be taken away strays, and its memory is in transit. -/
theorem MemoryBook.stray {holding : Holding}
    (book : MemoryBook device strays leaks none (holding :: holdings)) :
    MemoryBook device (holding.mapping :: strays) leaks
      (some ⟨holding.memory, holding.size, true⟩) holdings :=
  ⟨book.mappings.trans List.perm_middle, book.physical, book.inUse, book.fits, book.ids, book.ends⟩

/-- Memory in transit that could not be given back leaks. -/
theorem MemoryBook.leak {transit : Spare}
    (book : MemoryBook device strays leaks (some transit) holdings) :
    MemoryBook device strays (transit.allocation :: leaks) none holdings :=
  ⟨book.mappings, book.physical.trans List.perm_middle, book.inUse, book.fits, book.ids, book.ends⟩

/-! ## Taking memory -/

theorem create_spec {size : Nat} {owner : Int}
    (book : MemoryBook device strays leaks none holdings)
    (small : device.physicalInUse + device.foreignUsage + size < wordLimit ∨ aborts ⟨⟩) :
    Ensures aborts (Device.call (.create size owner)) device (fun answer after =>
      SameAddresses device after ∧
        match answer with
        | .ok memory => MemoryBook after strays leaks (some ⟨memory, size, false⟩) holdings ∧
            device.physicalInUse + device.foreignUsage + size ≤ device.capacity
        | .error cause => MemoryBook after strays leaks none holdings ∧
            (device.injected = none → cause = .outOfMemory ∧
              device.capacity < device.physicalInUse + device.foreignUsage + size)) := by
  change Ensures aborts (create size).run device _
  unfold create
  rw [ensures_run_bind]
  refine takeFailure_spec (fun {cause after} same sameAddresses injected => ?_) ?_
  · exact ⟨sameAddresses, book.congr same, fun none => absurd none injected⟩
  · dsimp only
    rw [ensures_run_bind, ensures_run_get]
    dsimp only
    rw [ensures_run_bind]
    apply ensures_word small
    intro _
    dsimp only
    split
    · rename_i full
      exact ⟨.refl device, book, fun _ => ⟨rfl, full⟩⟩
    · rename_i room
      rw [ensures_run_bind, ensures_run_set]
      have fresh : device.physical.get? device.nextHandle = none := by
        cases found : device.physical.get? device.nextHandle with
        | none => rfl
        | some allocation => exact absurd (book.ids found) (Nat.lt_irrefl _)
      have added := NatMap.perm_insert_of_none fresh { size }
      refine ⟨⟨⟨rfl, rfl, id⟩, rfl, rfl⟩, ⟨book.mappings, ?_, ?_, ?_, ?_, book.ends⟩, by omega⟩
      · exact (added.trans (book.physical.cons _)).trans List.perm_middle.symm
      · change device.physicalInUse + size = _
        rw [allocatedBytes_perm added, allocatedBytes_cons, book.inUse, Nat.add_comm]
      · change device.physicalInUse + size ≤ device.capacity
        omega
      · intro id allocation found
        change (device.physical.insert device.nextHandle _).get? id = _ at found
        change id < device.nextHandle + 1
        rw [NatMap.get?_insert] at found
        split at found
        · omega
        · exact Nat.lt_succ_of_lt (book.ids found)

/-- The table of physical memory with one entry exchanged for another of the same size. -/
theorem MemoryBook.exchange {id : Nat} {old new : Allocation} {rest : List (Nat × Allocation)}
    (book : MemoryBook device strays leaks spare holdings)
    (before : device.physical.entries.Perm ((id, old) :: rest)) (same : new.size = old.size) :
    (device.physical.insert id new).entries.Perm ((id, new) :: rest) ∧
      device.physicalInUse = allocatedBytes (device.physical.insert id new).entries ∧
      ∀ {other : Nat} {allocation : Allocation},
        (device.physical.insert id new).get? other = some allocation →
          other < device.nextHandle := by
  have exchanged := NatMap.perm_replace before new
  refine ⟨exchanged, ?_, fun {other allocation} found => ?_⟩
  · rw [allocatedBytes_perm exchanged, book.inUse, allocatedBytes_perm before, allocatedBytes_cons,
      allocatedBytes_cons, same]
  · rw [NatMap.get?_insert] at found
    split at found
    · rename_i equal
      rw [equal]
      exact book.ids (NatMap.get?_eq_some_iff.mpr (before.mem_iff.mpr List.mem_cons_self))
    · exact book.ids found

/-- Memory in transit comes first among all entries. -/
theorem MemoryBook.spare_first {transit : Spare}
    (book : MemoryBook device strays leaks (some transit) holdings) :
    device.physical.entries.Perm
      (transit.allocation :: (leaks ++ holdings.map Holding.allocation)) :=
  book.physical.trans List.perm_middle

theorem MemoryBook.holding_first {holding : Holding}
    (book : MemoryBook device strays leaks none (holding :: holdings)) :
    device.physical.entries.Perm
      (holding.allocation :: (leaks ++ holdings.map Holding.allocation)) :=
  book.physical.trans List.perm_middle

theorem map_spec {vaddr size : Nat} {memory : PhysicalHandle} {region : Region}
    (addresses : AddressBook device regions)
    (book : MemoryBook device strays leaks (some ⟨memory, size, false⟩) holdings)
    (positive : 0 < size) (member : region ∈ regions) (low : region.base ≤ vaddr)
    (high : vaddr + size ≤ region.base + region.size) :
    Ensures aborts (Device.call (.map vaddr size memory)) device (fun answer after =>
      SameAddresses device after ∧
        match answer with
        | .ok _ => MemoryBook after strays leaks none (⟨vaddr, size, memory⟩ :: holdings)
        | .error _ => MemoryBook after strays leaks (some ⟨memory, size, false⟩) holdings ∧
            (device.injected = none →
              ∃ entry ∈ device.mappings.entries, Overlaps entry vaddr size)) := by
  have region_lt := addresses.region_lt member
  have region_le := addresses.ends (addresses.reserved region member)
  have before := book.spare_first
  have found : device.physical.get? memory.id = some ⟨size, false, false⟩ :=
    NatMap.get?_eq_some_iff.mpr (before.mem_iff.mpr List.mem_cons_self)
  change Ensures aborts (map vaddr size memory).run device _
  unfold map
  rw [ensures_run_bind]
  refine takeFailure_spec (fun {cause after} same sameAddresses injected => ?_) ?_
  · exact ⟨sameAddresses, book.congr same, fun none => absurd none injected⟩
  · dsimp only
    rw [ensures_run_bind]
    apply isReserved_spec addresses member low positive high
    simp only [Bool.not_true, Bool.false_eq_true, if_false]
    rw [ensures_run_bind]
    refine overlapsMapping_spec (by omega) positive
      (fun mapped => Nat.lt_of_le_of_lt (book.ends mapped).2 addresses.next_lt) (fun overlap => ?_)
      fun free => ?_
    · exact ⟨.refl device, book, fun _ => overlap⟩
    · simp only [Bool.false_eq_true, if_false]
      rw [ensures_run_bind, ensures_run_get]
      dsimp only
      rw [found]
      simp only [and_self, if_true]
      rw [ensures_run_modify]
      obtain ⟨physical, inUse, ids⟩ :=
        book.exchange before (rfl : Allocation.size ⟨size, true, false⟩ = size)
      refine ⟨⟨⟨rfl, rfl, id⟩, rfl, rfl⟩, ?_, ?_, inUse, book.fits, ids, ?_⟩
      · exact ((NatMap.perm_insert_of_none free _).trans (book.mappings.cons _)).trans
          List.perm_middle.symm
      · exact physical.trans List.perm_middle.symm
      · intro start mapping mapped
        change (device.mappings.insert vaddr _).get? start = _ at mapped
        change start < device.nextAddress ∧ start + mapping.size ≤ device.nextAddress
        rw [NatMap.get?_insert] at mapped
        split at mapped
        · rename_i same
          cases mapped
          change start < device.nextAddress ∧ start + size ≤ device.nextAddress
          omega
        · exact book.ends mapped

/-- A mapping that is there is made accessible unless the call is made to fail. -/
theorem setAccess_spec {vaddr size : Nat} {memory : PhysicalHandle} {owner : Int}
    (book : MemoryBook device strays leaks none (⟨vaddr, size, memory⟩ :: holdings)) :
    Ensures aborts (Device.call (.setAccess vaddr size owner)) device (fun answer after =>
      SameAddresses device after ∧
        MemoryBook after strays leaks none (⟨vaddr, size, memory⟩ :: holdings) ∧
        (device.injected = none → answer = .ok ())) := by
  change Ensures aborts (setAccess vaddr size).run device _
  unfold setAccess
  rw [ensures_run_bind]
  refine takeFailure_spec (fun {cause after} same sameAddresses injected => ?_) ?_
  · exact ⟨sameAddresses, book.congr same, fun none => absurd none injected⟩
  · dsimp only
    rw [ensures_run_bind, ensures_run_get]
    dsimp only
    rw [book.mapped, Option.map_some, if_pos rfl]
    exact ⟨.refl device, book, fun _ => rfl⟩

/-! ## Giving memory back -/

/-- What is held can be unmapped. -/
theorem unmap_spec {vaddr size : Nat} {memory : PhysicalHandle}
    (book : MemoryBook device strays leaks none (⟨vaddr, size, memory⟩ :: holdings)) :
    Ensures aborts (Device.call (.unmap vaddr size)) device (fun answer after =>
      SameAddresses device after ∧ answer = .ok () ∧
        MemoryBook after strays leaks (some ⟨memory, size, false⟩) holdings) := by
  have before := book.holding_first
  have found : device.physical.get? memory.id = some ⟨size, true, false⟩ :=
    NatMap.get?_eq_some_iff.mpr (before.mem_iff.mpr List.mem_cons_self)
  obtain ⟨physical, inUse, ids⟩ :=
    book.exchange before (rfl : Allocation.size ⟨size, false, false⟩ = size)
  change Ensures aborts (unmap vaddr size).run device _
  unfold unmap
  rw [ensures_run_bind, ensures_run_get]
  dsimp only
  rw [book.mapped]
  dsimp only
  rw [if_neg (not_not_intro rfl), ensures_run_bind, ensures_run_modify]
  dsimp only
  rw [ensures_run_bind, ensures_run_get]
  dsimp only
  rw [found]
  dsimp only
  rw [ensures_run_bind, ensures_run_modify]
  simp only [Bool.false_eq_true, if_false]
  rw [ensures_run_pure]
  refine ⟨⟨⟨rfl, rfl, id⟩, rfl, rfl⟩, rfl, ?_, physical.trans List.perm_middle.symm, inUse,
    book.fits, ids, fun {start mapping} mapped => ?_⟩
  · exact NatMap.perm_remove (book.mappings.trans List.perm_middle)
  · change (device.mappings.erase vaddr).get? start = _ at mapped
    rw [NatMap.get?_erase] at mapped
    split at mapped
    · cases mapped
    · exact book.ends mapped

/-- Memory in transit comes back unless a mapping of it could not be taken away. -/
theorem release_spec {memory : PhysicalHandle} {size : Nat} {mapped : Bool}
    (book : MemoryBook device strays leaks (some ⟨memory, size, mapped⟩) holdings) :
    Ensures aborts (Device.call (.release memory)) device (fun _ after =>
      SameAddresses device after ∧
        MemoryBook after strays
          (if mapped then (memory.id, ⟨size, true, true⟩) :: leaks else leaks) none holdings) := by
  have before := book.spare_first
  have found : device.physical.get? memory.id = some ⟨size, mapped, false⟩ :=
    NatMap.get?_eq_some_iff.mpr (before.mem_iff.mpr List.mem_cons_self)
  change Ensures aborts (release memory).run device _
  unfold release
  rw [ensures_run_bind, ensures_run_get]
  dsimp only
  rw [found]
  simp only [Bool.false_eq_true, if_false]
  rw [ensures_run_bind, ensures_run_modify]
  dsimp only
  cases mapped with
  | true =>
    obtain ⟨physical, inUse, ids⟩ :=
      book.exchange before (rfl : Allocation.size ⟨size, true, true⟩ = size)
    exact ⟨⟨⟨rfl, rfl, id⟩, rfl, rfl⟩, book.mappings, physical, inUse, book.fits, ids, book.ends⟩
  | false =>
    have dropped := NatMap.perm_remove before
    have bytes : device.physicalInUse = size + allocatedBytes
        (device.physical.erase memory.id).entries := by
      rw [book.inUse, allocatedBytes_perm before, allocatedBytes_perm dropped, allocatedBytes_cons]
      rfl
    have fits := book.fits
    simp only [Bool.false_eq_true, if_false]
    unfold dropPhysical
    rw [ensures_run_bind, ensures_run_get]
    dsimp only
    rw [NatMap.get?_insert, if_pos rfl]
    dsimp only
    rw [ensures_run_modify]
    refine ⟨⟨⟨rfl, rfl, id⟩, rfl, rfl⟩, book.mappings, ?_, ?_, ?_, ?_, book.ends⟩
    · change ((device.physical.insert memory.id _).erase memory.id).entries.Perm _
      rw [NatMap.erase_insert]
      exact dropped
    · change device.physicalInUse - size =
        allocatedBytes ((device.physical.insert memory.id _).erase memory.id).entries
      rw [NatMap.erase_insert]
      omega
    · change device.physicalInUse - size ≤ device.capacity
      omega
    · intro other allocation found'
      change ((device.physical.insert memory.id _).erase memory.id).get? other = _ at found'
      rw [NatMap.erase_insert, NatMap.get?_erase] at found'
      split at found'
      · cases found'
      · exact book.ids found'

end Simulation.Device

end VramOvercommit
