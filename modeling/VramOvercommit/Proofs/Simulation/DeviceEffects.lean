import VramOvercommit.Proofs.Simulation.Addresses

set_option autoImplicit false

/-!
What a driver call does to a simulated device, whatever its arguments are and whoever makes it. Each
call is walked through once; everything that is kept from call to call follows from its effects.
-/

namespace VramOvercommit.Simulation

/-- The failures that can be set up for a call. -/
def failurePoint? : DriverCall → Option FailurePoint
  | .reserve _ => some .reserve
  | .create _ _ => some .create
  | .map _ _ _ => some .map
  | .setAccess _ _ _ => some .setAccess
  | _ => none

/-- The calls that only ask the device for something. -/
def Asks : DriverCall → Prop
  | .totalMemory _ | .memoryInfo | .setAccess _ _ _ => True
  | _ => False

namespace Device

variable {device after : Device}

/-- The device with one more reservation. -/
def reserved (device : Device) (size : Nat) : Device :=
  { device with
    nextAddress := device.nextAddress + size
    reservedBytes := device.reservedBytes + size
    reservations := device.reservations.insert device.nextAddress size }

/-- The device after a reservation is given back. -/
def freed (device : Device) (vaddr size : Nat) : Device :=
  { device with
    reservations := device.reservations.erase vaddr
    reservedBytes := device.reservedBytes - size }

/-- The device with one more allocation. -/
def created (device : Device) (size : Nat) : Device :=
  { device with
    nextHandle := device.nextHandle + 1
    physical := device.physical.insert device.nextHandle { size }
    physicalInUse := device.physicalInUse + size }

/-- The device with an allocation mapped at an address. -/
def mappedAt (device : Device) (vaddr : Nat) (memory : PhysicalHandle) (allocation : Allocation) :
    Device :=
  { device with
    physical := device.physical.insert memory.id { allocation with mapped := true }
    mappings := device.mappings.insert vaddr ⟨allocation.size, memory⟩ }

/-- The device with new flags of an allocation, which leaves the books once it is both released and
unmapped. -/
def settle (device : Device) (id : Nat) (allocation : Allocation) : Device :=
  if allocation.released = true ∧ allocation.mapped = false then
    { device with
      physical := device.physical.erase id
      physicalInUse := device.physicalInUse - allocation.size }
  else { device with physical := device.physical.insert id allocation }

/-- The device without the mapping at an address. -/
def withoutMapping (device : Device) (vaddr : Nat) : Device :=
  { device with mappings := device.mappings.erase vaddr }

/-- No mapping reaches into a range, as far as the nearest one below it and the starts of the others
tell. -/
structure Vacant (device : Device) (vaddr size : Nat) : Prop where
  below : ∀ entry, device.mappings.floor? vaddr = some entry → entry.1 + entry.2.size ≤ vaddr
  inside : ∀ entry ∈ device.mappings.entries, vaddr ≤ entry.1 → vaddr + size ≤ entry.1

/-- What a call does to a device, with its answer. -/
inductive Effect (device : Device) :
    (call : DriverCall) → Except DriverError call.Answer → Device → Prop
  | refuse {call : DriverCall} (cause : DriverError) : Effect device call (.error cause) device
  /-- The failure that was set up for the call is used up. -/
  | fail {call : DriverCall} {point : FailurePoint} {cause : DriverError}
      (kind : failurePoint? call = some point)
      (injected : device.injected = some (point, cause)) :
      Effect device call (.error cause) { device with injected := none }
  | tell {call : DriverCall} (asks : Asks call) (value : call.Answer) :
      Effect device call (.ok value) device
  | synchronize :
      Effect device .synchronize (.ok ()) { device with syncCount := device.syncCount + 1 }
  | reserve {size : Nat} (positive : 0 < size) (fits : device.nextAddress + size < wordLimit) :
      Effect device (.reserve size) (.ok device.nextAddress) (device.reserved size)
  | free {vaddr size : Nat} (found : device.reservations.get? vaddr = some size)
      (vacant : device.Vacant vaddr size) :
      Effect device (.freeAddress vaddr size) (.ok ()) (device.freed vaddr size)
  | create {size : Nat} {owner : Int}
      (room : device.physicalInUse + device.foreignUsage + size ≤ device.capacity) :
      Effect device (.create size owner) (.ok ⟨device.nextHandle⟩) (device.created size)
  | map {vaddr base length : Nat} {memory : PhysicalHandle} {allocation : Allocation}
      (reservation : device.reservations.get? base = some length) (low : base ≤ vaddr)
      (high : vaddr + allocation.size ≤ base + length)
      (vacant : device.Vacant vaddr allocation.size)
      (live : device.physical.get? memory.id = some allocation)
      (unmapped : allocation.mapped = false) (unreleased : allocation.released = false) :
      Effect device (.map vaddr allocation.size memory) (.ok ())
        (device.mappedAt vaddr memory allocation)
  /-- A mapping whose memory is gone. -/
  | unmapStray {vaddr : Nat} {mapping : Mapping}
      (found : device.mappings.get? vaddr = some mapping)
      (lost : device.physical.get? mapping.memory.id = none) :
      Effect device (.unmap vaddr mapping.size) (.ok ()) (device.withoutMapping vaddr)
  | unmap {vaddr : Nat} {mapping : Mapping} {allocation : Allocation}
      (found : device.mappings.get? vaddr = some mapping)
      (live : device.physical.get? mapping.memory.id = some allocation) :
      Effect device (.unmap vaddr mapping.size) (.ok ())
        ((device.withoutMapping vaddr).settle mapping.memory.id { allocation with mapped := false })
  | release {memory : PhysicalHandle} {allocation : Allocation}
      (live : device.physical.get? memory.id = some allocation)
      (unreleased : allocation.released = false) :
      Effect device (.release memory) (.ok ())
        (device.settle memory.id { allocation with released := true })

/-! ## The calls, step by step -/

/-- A failure that is set up for the call ends it; without one the call goes on. -/
theorem takeFailure_effect {call : DriverCall} {point : FailurePoint}
    {post : Except DriverError Unit → Device → Prop} (kind : failurePoint? call = some point)
    (failed : ∀ cause, Effect device call (.error cause) { device with injected := none } →
      post (.error cause) { device with injected := none })
    (passed : post (.ok ()) device) :
    Ensures (fun _ => True) (takeFailure point).run device post := by
  unfold takeFailure
  rw [ensures_run_bind, ensures_run_get]
  dsimp only
  split
  · rename_i injected cause found
    split
    · rename_i same
      rw [ensures_run_bind, ensures_run_modify]
      exact failed cause (.fail kind (same ▸ found))
    · exact passed
  · exact passed

theorem isReserved_effect {vaddr size : Nat} {post : Except DriverError Bool → Device → Prop}
    (inside : ∀ {base length : Nat}, device.reservations.get? base = some length → base ≤ vaddr →
      vaddr + size ≤ base + length → post (.ok true) device)
    (outside : post (.ok false) device) :
    Ensures (fun _ => True) (isReserved vaddr size).run device post := by
  unfold isReserved
  rw [ensures_run_bind, ensures_run_get]
  dsimp only
  cases nearest : device.reservations.floor? vaddr with
  | none => exact outside
  | some entry =>
    obtain ⟨base, length⟩ := entry
    obtain ⟨member, low, -⟩ := NatMap.floor?_eq_some_iff.mp nearest
    dsimp only
    rw [ensures_run_bind]
    refine ensures_word (.inr trivial) fun _ => ?_
    dsimp only
    rw [ensures_run_bind]
    refine ensures_word (.inr trivial) fun _ => ?_
    dsimp only
    rw [ensures_run_pure]
    by_cases high : vaddr + size ≤ base + length
    · rw [decide_eq_true high]
      exact inside (NatMap.get?_eq_some_iff.mpr member) low high
    · rw [decide_eq_false high]
      exact outside

/-- A range and all mappings end within the address space. -/
structure Ends (device : Device) (vaddr size : Nat) : Prop where
  range : vaddr + size < wordLimit
  mappings : ∀ entry ∈ device.mappings.entries, entry.1 + entry.2.size < wordLimit

theorem overlapsMapping_effect {aborts : Overflow → Prop} {vaddr size : Nat}
    {post : Except DriverError Bool → Device → Prop}
    (small : device.Ends vaddr size ∨ aborts ⟨⟩) (taken : post (.ok true) device)
    (vacant : device.Vacant vaddr size → post (.ok false) device) :
    Ensures aborts (overlapsMapping vaddr size).run device post := by
  -- the part after the nearest mapping below is the same whether there is one or not
  have rest : ∀ {reaches : Bool},
      (reaches = false →
        ∀ entry, device.mappings.floor? vaddr = some entry → entry.1 + entry.2.size ≤ vaddr) →
      Ensures aborts (do
        if reaches then return true
        else return device.mappings.anyIn vaddr (← word (vaddr + size)) : DeviceM Bool).run
        device post := by
    intro reaches below
    cases reaches with
    | true => exact taken
    | false =>
      simp only [Bool.false_eq_true, if_false]
      rw [ensures_run_bind]
      refine ensures_word (small.imp_left Ends.range) fun _ => ?_
      change post (.ok (device.mappings.anyIn vaddr (vaddr + size))) device
      cases starts : device.mappings.anyIn vaddr (vaddr + size) with
      | true => exact taken
      | false =>
        refine vacant ⟨below rfl, fun entry member low => Nat.le_of_not_lt fun high => ?_⟩
        have found := NatMap.anyIn_iff.mpr ⟨entry, member, low, high⟩
        rw [starts] at found
        cases found
  unfold overlapsMapping
  rw [ensures_run_bind, ensures_run_get]
  dsimp only
  cases nearest : device.mappings.floor? vaddr with
  | none =>
    have below : false = false →
        ∀ entry, device.mappings.floor? vaddr = some entry → entry.1 + entry.2.size ≤ vaddr := by
      intro _ entry found
      rw [nearest] at found
      cases found
    exact rest below
  | some entry =>
    have member := (NatMap.floor?_eq_some_iff.mp nearest).1
    dsimp only
    rw [ensures_run_bind]
    refine ensures_word (small.imp_left fun ends => ends.mappings entry member) fun _ => ?_
    refine rest fun unreached other found => ?_
    rw [nearest] at found
    cases found
    exact Nat.le_of_not_lt (of_decide_eq_false unreached)

theorem reserve_effect (size : Nat) :
    Ensures (fun _ => True) (reserve size).run device (Effect device (.reserve size)) := by
  unfold reserve
  rw [ensures_run_bind]
  refine takeFailure_effect rfl (fun _ effect => effect) ?_
  dsimp only
  split
  · exact .refuse _
  · rename_i positive
    rw [ensures_run_bind, ensures_run_get]
    dsimp only
    rw [ensures_run_bind]
    refine ensures_word (.inr trivial) fun _ => ?_
    dsimp only
    split
    · exact .refuse _
    · rw [ensures_run_bind]
      refine ensures_word (.inr trivial) fun fits => ?_
      exact .reserve (Nat.pos_of_ne_zero positive) fits

theorem freeAddress_effect {aborts : Overflow → Prop} {vaddr size : Nat}
    (small : device.reservations.get? vaddr = some size → device.Ends vaddr size ∨ aborts ⟨⟩) :
    Ensures aborts (freeAddress vaddr size).run device
      (Effect device (.freeAddress vaddr size)) := by
  unfold freeAddress
  rw [ensures_run_bind, ensures_run_get]
  dsimp only
  split
  · exact .refuse _
  · rename_i found
    have found := Classical.not_not.mp found
    rw [ensures_run_bind]
    exact overlapsMapping_effect (small found) (.refuse _) fun vacant => .free found vacant

/-- A reservation in which nothing is mapped can always be given back. -/
theorem freeAddress_granted {aborts : Overflow → Prop} {vaddr size : Nat}
    (found : device.reservations.get? vaddr = some size) (positive : 0 < size)
    (small : device.Ends vaddr size)
    (apart : ∀ entry ∈ device.mappings.entries, ¬ Overlaps entry vaddr size) :
    Ensures aborts (freeAddress vaddr size).run device fun answer after =>
      answer = .ok () ∧ after = device.freed vaddr size := by
  unfold freeAddress
  rw [ensures_run_bind, ensures_run_get]
  dsimp only
  rw [if_neg (not_not_intro found), ensures_run_bind]
  refine overlapsMapping_spec small.range positive
    (fun mapped => small.mappings _ (NatMap.get?_eq_some_iff.mp mapped))
    (fun ⟨entry, member, overlaps⟩ => absurd overlaps (apart entry member)) fun _ => ?_
  exact ⟨rfl, rfl⟩

theorem create_effect (size : Nat) (owner : Int) :
    Ensures (fun _ => True) (create size).run device (Effect device (.create size owner)) := by
  unfold create
  rw [ensures_run_bind]
  refine takeFailure_effect rfl (fun _ effect => effect) ?_
  dsimp only
  rw [ensures_run_bind, ensures_run_get]
  dsimp only
  rw [ensures_run_bind]
  refine ensures_word (.inr trivial) fun _ => ?_
  dsimp only
  split
  · exact .refuse _
  · rename_i room
    exact .create (Nat.le_of_not_lt room)

theorem map_effect (vaddr size : Nat) (memory : PhysicalHandle) :
    Ensures (fun _ => True) (map vaddr size memory).run device
      (Effect device (.map vaddr size memory)) := by
  unfold map
  rw [ensures_run_bind]
  refine takeFailure_effect rfl (fun _ effect => effect) ?_
  dsimp only
  rw [ensures_run_bind]
  refine isReserved_effect (fun {base length} reservation low high => ?_) (.refuse _)
  simp only [Bool.not_true, Bool.false_eq_true, if_false]
  rw [ensures_run_bind]
  refine overlapsMapping_effect (.inr trivial) (.refuse _) fun vacant => ?_
  simp only [Bool.false_eq_true, if_false]
  rw [ensures_run_bind, ensures_run_get]
  dsimp only
  split
  · rename_i allocation live
    split
    · rename_i fresh
      obtain ⟨rfl, unmapped, unreleased⟩ := fresh
      exact .map reservation low high vacant live unmapped unreleased
    · exact .refuse _
  · exact .refuse _

theorem setAccess_effect (vaddr size : Nat) (owner : Int) :
    Ensures (fun _ => True) (setAccess vaddr size).run device
      (Effect device (.setAccess vaddr size owner)) := by
  unfold setAccess
  rw [ensures_run_bind]
  refine takeFailure_effect rfl (fun _ effect => effect) ?_
  dsimp only
  rw [ensures_run_bind, ensures_run_get]
  dsimp only
  split
  · have asks : Asks (.setAccess vaddr size owner) := trivial
    exact .tell asks ()
  · exact .refuse _

/-- Erasing an allocation whose flags were just written leaves no trace of them. -/
theorem dropPhysical_written {aborts : Overflow → Prop} (device : Device) (id : Nat)
    (allocation : Allocation) {post : Except DriverError Unit → Device → Prop} :
    Ensures aborts (dropPhysical id).run
        { device with physical := device.physical.insert id allocation } post ↔
      post (.ok ()) { device with
        physical := device.physical.erase id
        physicalInUse := device.physicalInUse - allocation.size } := by
  unfold dropPhysical
  rw [ensures_run_bind, ensures_run_get]
  dsimp only
  rw [NatMap.get?_insert, if_pos rfl]
  dsimp only
  rw [ensures_run_modify, NatMap.erase_insert]

/-- A whole mapping can always be taken away. -/
theorem unmap_granted {aborts : Overflow → Prop} {vaddr : Nat} {mapping : Mapping}
    {allocation : Allocation} (found : device.mappings.get? vaddr = some mapping)
    (live : device.physical.get? mapping.memory.id = some allocation) :
    Ensures aborts (unmap vaddr mapping.size).run device fun answer after =>
      answer = .ok () ∧ after =
        (device.withoutMapping vaddr).settle mapping.memory.id
          { allocation with mapped := false } := by
  unfold unmap settle
  rw [ensures_run_bind, ensures_run_get]
  dsimp only
  rw [found]
  dsimp only
  rw [if_neg (not_not_intro rfl), ensures_run_bind, ensures_run_modify]
  dsimp only
  rw [ensures_run_bind, ensures_run_get]
  dsimp only
  rw [live]
  dsimp only
  rw [ensures_run_bind, ensures_run_modify]
  dsimp only
  split
  · rename_i released
    rw [if_pos ⟨released, rfl⟩]
    apply (dropPhysical_written (device.withoutMapping vaddr) mapping.memory.id
      { allocation with mapped := false }).mpr
    exact ⟨rfl, rfl⟩
  · rename_i unreleased
    rw [if_neg fun gone => unreleased gone.1]
    exact ⟨rfl, rfl⟩

theorem unmap_effect {aborts : Overflow → Prop} (vaddr size : Nat) :
    Ensures aborts (unmap vaddr size).run device (Effect device (.unmap vaddr size)) := by
  cases found : device.mappings.get? vaddr with
  | none =>
    unfold unmap
    rw [ensures_run_bind, ensures_run_get]
    dsimp only
    rw [found]
    exact .refuse _
  | some mapping =>
    by_cases same : mapping.size = size
    · subst same
      cases live : device.physical.get? mapping.memory.id with
      | none =>
        unfold unmap
        rw [ensures_run_bind, ensures_run_get]
        dsimp only
        rw [found]
        dsimp only
        rw [if_neg (not_not_intro rfl), ensures_run_bind, ensures_run_modify]
        dsimp only
        rw [ensures_run_bind, ensures_run_get]
        dsimp only
        rw [live]
        exact .unmapStray found live
      | some allocation =>
        apply (unmap_granted found live).mono
        rintro answer after ⟨rfl, rfl⟩
        exact .unmap found live
    · unfold unmap
      rw [ensures_run_bind, ensures_run_get]
      dsimp only
      rw [found]
      dsimp only
      rw [if_pos same]
      exact .refuse _

/-- Memory that was not released yet can always be released. -/
theorem release_granted {aborts : Overflow → Prop} {memory : PhysicalHandle}
    {allocation : Allocation} (live : device.physical.get? memory.id = some allocation)
    (unreleased : allocation.released = false) :
    Ensures aborts (release memory).run device fun answer after =>
      answer = .ok () ∧ after =
        device.settle memory.id { allocation with released := true } := by
  unfold release settle
  rw [ensures_run_bind, ensures_run_get]
  dsimp only
  rw [live]
  dsimp only
  rw [if_neg (Bool.eq_false_iff.mp unreleased), ensures_run_bind, ensures_run_modify]
  dsimp only
  split
  · rename_i mapped
    rw [if_neg fun gone => Bool.eq_false_iff.mp gone.2 mapped]
    exact ⟨rfl, rfl⟩
  · rename_i unmapped
    rw [if_pos ⟨rfl, Bool.eq_false_iff.mpr unmapped⟩]
    apply (dropPhysical_written device memory.id { allocation with released := true }).mpr
    exact ⟨rfl, rfl⟩

theorem release_effect {aborts : Overflow → Prop} (memory : PhysicalHandle) :
    Ensures aborts (release memory).run device (Effect device (.release memory)) := by
  cases live : device.physical.get? memory.id with
  | none =>
    unfold release
    rw [ensures_run_bind, ensures_run_get]
    dsimp only
    rw [live]
    exact .refuse _
  | some allocation =>
    cases released : allocation.released with
    | true =>
      unfold release
      rw [ensures_run_bind, ensures_run_get]
      dsimp only
      rw [live]
      dsimp only
      rw [if_pos released]
      exact .refuse _
    | false =>
      apply (release_granted live released).mono
      rintro answer after ⟨rfl, rfl⟩
      exact .release live released

theorem call_effect (call : DriverCall) :
    Ensures (fun _ => True) (Device.call call) device (Effect device call) := by
  cases call with
  | totalMemory owner =>
    have asks : Asks (.totalMemory owner) := trivial
    exact Effect.tell asks device.capacity
  | memoryInfo =>
    have asks : Asks .memoryInfo := trivial
    exact Effect.tell asks _
  | reserve size => exact reserve_effect size
  | freeAddress vaddr size => exact freeAddress_effect fun _ => .inr trivial
  | create size owner => exact create_effect size owner
  | map vaddr size memory => exact map_effect vaddr size memory
  | setAccess vaddr size owner => exact setAccess_effect vaddr size owner
  | unmap vaddr size => exact unmap_effect vaddr size
  | release memory => exact release_effect memory
  | synchronize => exact Effect.synchronize

end Device

end VramOvercommit.Simulation
