import VramOvercommit.Proofs.Simulation.DeviceTables

set_option autoImplicit false

/-!
A simulated device keeps its books exactly. Overlaps are looked for at the nearest mapping only,
which suffices as mappings are apart; memory comes back once it is both released and unmapped, in
whichever order; and a call that is refused leaves no trace.
-/

namespace VramOvercommit.Simulation.Device

variable {device after : Device}

/-! ## The books as a whole -/

/-- What every driver call keeps of a device, whoever makes it. -/
structure Kept (device : Device) : Prop where
  addresses : device.AddressBook []
  reserved : device.reservedBytes = device.reservationBytes
  placed : device.Placed
  counted : device.Counted
  flagged : device.Flagged

/-- Memory is asked for by the byte. -/
def Positive : DriverCall → Prop
  | .create size _ => 0 < size
  | _ => True

theorem Kept.congr (kept : device.Kept) (space : device.SameSpace after)
    (mappings : after.mappings = device.mappings) (physical : after.physical = device.physical)
    (nextHandle : after.nextHandle = device.nextHandle)
    (physicalInUse : after.physicalInUse = device.physicalInUse)
    (capacity : after.capacity = device.capacity) : after.Kept := by
  exact ⟨kept.addresses.of_sameSpace space, space.total kept.reserved,
    kept.placed.congr mappings space.reservations,
    kept.counted.congr physical nextHandle physicalInUse capacity,
    kept.flagged.congr mappings physical⟩

/-- No driver call breaks the books. -/
theorem Kept.effect (kept : device.Kept) {call : DriverCall}
    {answer : Except DriverError call.Answer} (positive : Positive call)
    (effect : device.Effect call answer after) : after.Kept := by
  have addresses := kept.addresses
  have counted := kept.counted
  have flagged := kept.flagged
  cases effect with
  | refuse => exact kept
  | fail => exact kept.congr ⟨rfl, rfl, rfl, rfl⟩ rfl rfl rfl rfl rfl
  | tell => exact kept
  | synchronize => exact kept.congr ⟨rfl, rfl, rfl, rfl⟩ rfl rfl rfl rfl rfl
  | @reserve size asked fits =>
    refine ⟨(addresses.grow asked fits rfl rfl).drop, ?_, kept.placed.reserved addresses.fresh,
      counted.congr rfl rfl rfl rfl, flagged.congr rfl rfl⟩
    rw [reservationBytes_reserved addresses.fresh]
    exact congrArg (· + size) kept.reserved
  | @free vaddr size found vacant =>
    have bytes := reservationBytes_freed found
    have reserved := kept.reserved
    refine ⟨addresses.freed found, ?_, kept.placed.freed found vacant,
      counted.congr rfl rfl rfl rfl, flagged.congr rfl rfl⟩
    change device.reservedBytes - size = _
    omega
  | @create size owner room =>
    exact ⟨addresses.of_sameSpace ⟨rfl, rfl, rfl, rfl⟩, kept.reserved, kept.placed.congr rfl rfl,
      counted.created positive (by omega), flagged.created counted.fresh size⟩
  | map reservation low high vacant live unmapped =>
    have size := counted.positive live
    exact ⟨addresses.of_sameSpace ⟨rfl, rfl, rfl, rfl⟩, kept.reserved,
      kept.placed.mappedAt reservation low high vacant size, counted.mappedAt live,
      flagged.mappedAt live unmapped (vacant.free size)⟩
  | unmapStray found lost =>
    obtain ⟨allocation, live, -⟩ := flagged.backed found
    rw [lost] at live
    cases live
  | @unmap vaddr mapping allocation found live =>
    have space := unmapped_sameSpace device vaddr mapping.memory.id
      { allocation with mapped := false }
    have without : (device.withoutMapping vaddr).Counted := counted.congr rfl rfl rfl rfl
    exact ⟨addresses.of_sameSpace space, space.total kept.reserved,
      (kept.placed.withoutMapping vaddr).congr (settle_mappings _ _ _)
        (settle_sameSpace _ _ _).reservations,
      without.settle live rfl, flagged.unmapped found⟩
  | @release memory allocation live unreleased =>
    have space := settle_sameSpace device memory.id { allocation with released := true }
    exact ⟨addresses.of_sameSpace space, space.total kept.reserved,
      kept.placed.congr (settle_mappings _ _ _) space.reservations,
      counted.settle live rfl, flagged.released live⟩

/-- A device as it comes has nothing on its books. -/
theorem kept_new (capacity : Nat) : Kept { capacity } := by
  have next_lt : addressBase < wordLimit := by decide
  refine ⟨⟨nofun, List.nodup_nil, ?_, ?_, ?_, next_lt⟩, rfl, ⟨?_, ?_, ?_⟩,
    ⟨?_, ?_, ?_, rfl, Nat.zero_le _⟩, ⟨?_, ?_, ?_⟩⟩ <;> simp

/-- What a sequence of driver calls makes of a device, whatever their arguments are. In between the
memory of others, the limit of the address space and the failure to come may be set. -/
inductive Driven (start : Device) : Device → Prop
  | new : Driven start start
  | called {device after : Device} (before : Driven start device) (call : DriverCall)
      {answer : Except DriverError call.Answer} (positive : Positive call)
      (answered : Device.call call device = .ok answer after) : Driven start after
  | set {device : Device} (before : Driven start device) (foreignUsage addressSpaceLimit : Nat)
      (injected : Option (FailurePoint × DriverError)) :
      Driven start { device with foreignUsage, addressSpaceLimit, injected }

theorem Driven.kept {start : Device} (driven : Driven start device) (kept : start.Kept) :
    device.Kept := by
  induction driven with
  | new => exact kept
  | called _ _ positive answered ih => exact ih.effect positive ((call_effect _).of_ok answered)
  | set _ _ _ _ ih =>
    obtain ⟨addresses, reserved, placed, counted, flagged⟩ := ih
    exact ⟨⟨nofun, List.nodup_nil, addresses.positive, addresses.ends, addresses.apart,
      addresses.next_lt⟩, reserved, placed.congr rfl rfl, counted.congr rfl rfl rfl rfl,
      flagged.congr rfl rfl⟩

/-- The books agree with each other. -/
structure Exact (device : Device) : Prop where
  reservationsApart : device.reservations.toList.Pairwise
    fun first second => first.1 + first.2 ≤ second.1
  mappingsInside : ∀ mapping ∈ device.mappings.toList,
    ∃! reservation, reservation ∈ device.reservations.toList ∧ reservation.1 ≤ mapping.1 ∧
      mapping.1 + mapping.2.size ≤ reservation.1 + reservation.2
  mappingsApart : device.mappings.toList.Pairwise
    fun first second => first.1 + first.2.size ≤ second.1
  flagged : ∀ allocation ∈ device.physical.toList, allocation.2.mapped = true ↔
    ∃! mapping, mapping ∈ device.mappings.toList ∧ mapping.2.memory.id = allocation.1
  agreed : ∀ mapping ∈ device.mappings.toList, ∃ allocation ∈ device.physical.toList,
    allocation.1 = mapping.2.memory.id ∧ allocation.2.mapped = true ∧
      allocation.2.size = mapping.2.size
  alive : ∀ allocation ∈ device.physical.toList,
    ¬ (allocation.2.released = true ∧ allocation.2.mapped = false)
  inUse : device.physicalInUse = (device.physical.values.map Allocation.size).sum
  fits : device.physicalInUse ≤ device.capacity
  reservedBytes : device.reservedBytes = device.reservations.values.sum

theorem Kept.exact (kept : device.Kept) : device.Exact := by
  obtain ⟨addresses, reserved, placed, counted, flagged⟩ := kept
  refine ⟨?_, fun mapping member => ?_, ?_, fun allocation member => ⟨fun mapped => ?_, fun one => ?_⟩,
    fun mapping member => ?_, fun allocation member => ?_, ?_, counted.fits, reserved⟩
  · refine device.reservations.toList_ascending.imp_of_mem fun first second less => ?_
    exact addresses.apart (NatMap.mem_toList.mp first) (NatMap.mem_toList.mp second) less
  · obtain ⟨base, size, reservation, low, high⟩ := placed.inside (NatMap.mem_toList.mp member)
    refine ⟨(base, size), ⟨NatMap.mem_toList.mpr reservation, low, high⟩, ?_⟩
    rintro ⟨other, size'⟩ ⟨reservation', low', high'⟩
    have positive := placed.positive (NatMap.mem_toList.mp member)
    have reservation' := NatMap.mem_toList.mp reservation'
    dsimp only at reservation' low' high'
    -- two regions that are apart have no byte in common
    rcases Nat.lt_trichotomy base other with less | same | less
    · have apart := addresses.apart reservation reservation' less
      omega
    · subst same
      rw [reservation] at reservation'
      cases reservation'
      rfl
    · have apart := addresses.apart reservation' reservation less
      omega
  · refine device.mappings.toList_ascending.imp_of_mem fun first second less => ?_
    exact placed.apart (NatMap.mem_toList.mp first) (NatMap.mem_toList.mp second) less
  · obtain ⟨vaddr, mapping, found, same⟩ := flagged.shown (NatMap.mem_toList.mp member) mapped
    refine ⟨(vaddr, mapping), ⟨NatMap.mem_toList.mpr found, same⟩, ?_⟩
    rintro ⟨other, mapping'⟩ ⟨member', same'⟩
    have found' := NatMap.mem_toList.mp member'
    obtain rfl := flagged.single found found' (same'.trans same.symm)
    rw [found] at found'
    cases found'
    rfl
  · obtain ⟨mapping, ⟨found, same⟩, -⟩ := one
    obtain ⟨allocation', live, mapped, -⟩ := flagged.backed (NatMap.mem_toList.mp found)
    rw [same, NatMap.mem_toList.mp member] at live
    cases live
    exact mapped
  · obtain ⟨allocation, live, mapped, same⟩ := flagged.backed (NatMap.mem_toList.mp member)
    exact ⟨(mapping.2.memory.id, allocation), NatMap.mem_toList.mpr live, rfl, mapped, same⟩
  · rintro ⟨released, unmapped⟩
    rw [counted.alive (NatMap.mem_toList.mp member) released] at unmapped
    cases unmapped
  · rw [counted.inUse, (device.physical.perm_values.map Allocation.size).sum_nat, List.map_map]
    rfl

/-! ## One call -/

/-- The call takes the mapping of an allocation away. -/
def Unmaps (device : Device) (call : DriverCall) (id : Nat) : Prop :=
  ∃ vaddr mapping, device.mappings.get? vaddr = some mapping ∧ mapping.memory.id = id ∧
    call = .unmap vaddr mapping.size

/-- What one call does: a refusal leaves everything as it was, and an allocation disappears once it is
both released and unmapped. -/
structure Stepped (device : Device) (call : DriverCall)
    (answer : Except DriverError call.Answer) (after : Device) : Prop where
  refused : ∀ cause, answer = .error cause → after = device ∨
    ∃ point, failurePoint? call = some point ∧ device.injected = some (point, cause) ∧
      after = { device with injected := none }
  gone : ∀ id allocation, device.physical.get? id = some allocation →
    (after.physical.get? id = none ↔
      (allocation.released = true ∨ call = .release ⟨id⟩) ∧
        (allocation.mapped = false ∨ Unmaps device call id))
  stays : ∀ id allocation later, device.physical.get? id = some allocation →
    after.physical.get? id = some later → later.size = allocation.size ∧
      (later.released = true ↔ allocation.released = true ∨ call = .release ⟨id⟩)
  new : ∀ id, device.physical.get? id = none → after.physical.get? id ≠ none →
    id = device.nextHandle ∧ ∃ size owner, call = .create size owner

theorem Kept.unmap (kept : device.Kept) {vaddr : Nat} {mapping : Mapping}
    (found : device.mappings.get? vaddr = some mapping) :
    ∃ allocation, device.physical.get? mapping.memory.id = some allocation ∧
      allocation.mapped = true ∧
      Device.call (.unmap vaddr mapping.size) device = .ok (.ok ())
        ((device.withoutMapping vaddr).settle mapping.memory.id
          { allocation with mapped := false }) := by
  obtain ⟨allocation, live, mapped, -⟩ := kept.flagged.backed found
  obtain ⟨answer, after, ran, rfl, rfl⟩ := (unmap_granted found live).exists_ok
  exact ⟨allocation, live, mapped, ran⟩

theorem call_release {memory : PhysicalHandle} {allocation : Allocation}
    (live : device.physical.get? memory.id = some allocation)
    (unreleased : allocation.released = false) :
    Device.call (.release memory) device =
      .ok (.ok ()) (device.settle memory.id { allocation with released := true }) := by
  obtain ⟨answer, after, ran, rfl, rfl⟩ := (release_granted live unreleased).exists_ok
  exact ran

/-- An allocation is gone after new flags if it is the one and both flags say so. -/
theorem settle_gone_iff {id other : Nat} {allocation new : Allocation}
    (live : device.physical.get? other = some allocation) :
    (device.settle id new).physical.get? other = none ↔
      other = id ∧ new.released = true ∧ new.mapped = false := by
  rw [Option.eq_none_iff_forall_ne_some]
  simp only [ne_eq, settle_get?_eq_some_iff]
  grind

/-- An allocation that is both released and unmapped is gone. -/
theorem Kept.gone (kept : device.Kept) {call : DriverCall}
    {answer : Except DriverError call.Answer} {id : Nat} {allocation : Allocation}
    (answered : Device.call call device = .ok answer after)
    (live : device.physical.get? id = some allocation)
    (released : allocation.released = true ∨ call = .release ⟨id⟩)
    (unmapped : allocation.mapped = false ∨ Unmaps device call id) :
    after.physical.get? id = none := by
  rcases unmapped with unmapped | ⟨vaddr, mapping, found, rfl, rfl⟩
  · have unreleased : allocation.released = false := by
      refine Bool.eq_false_iff.mpr fun released => ?_
      rw [kept.counted.alive live released] at unmapped
      cases unmapped
    obtain rfl := released.resolve_left (Bool.eq_false_iff.mp unreleased)
    rw [call_release live unreleased] at answered
    cases answered
    exact (settle_gone_iff live).mpr ⟨rfl, rfl, unmapped⟩
  · have released := released.resolve_right nofun
    obtain ⟨allocation', live', -, ran⟩ := kept.unmap found
    rw [live] at live'
    cases live'
    rw [ran] at answered
    cases answered
    have kept_live : (device.withoutMapping vaddr).physical.get? mapping.memory.id =
        some allocation := live
    exact (settle_gone_iff kept_live).mpr ⟨rfl, released, rfl⟩

/-- An allocation is gone only once it is both released and unmapped. -/
theorem Effect.lost {call : DriverCall} {answer : Except DriverError call.Answer} {id : Nat}
    {allocation : Allocation} (effect : device.Effect call answer after)
    (live : device.physical.get? id = some allocation) (gone : after.physical.get? id = none) :
    (allocation.released = true ∨ call = .release ⟨id⟩) ∧
      (allocation.mapped = false ∨ Unmaps device call id) := by
  have unchanged : device.physical.get? id ≠ none := live ▸ Option.some_ne_none _
  cases effect with
  | refuse | fail | tell | synchronize | reserve | free | unmapStray => exact absurd gone unchanged
  | create | map => exact absurd (NatMap.get?_eq_none_of_insert gone) unchanged
  | @unmap vaddr mapping old found live' =>
    obtain ⟨rfl, released, -⟩ := (settle_gone_iff
      (show (device.withoutMapping vaddr).physical.get? id = some allocation from live)).mp gone
    rw [live] at live'
    cases live'
    exact ⟨.inl released, .inr ⟨vaddr, mapping, found, rfl, rfl⟩⟩
  | release live' =>
    obtain ⟨rfl, -, unmapped⟩ := (settle_gone_iff live).mp gone
    rw [live] at live'
    cases live'
    exact ⟨.inr rfl, .inl unmapped⟩

/-- What remains of an allocation after a call keeps its size, and is flagged as released by its
release only. -/
theorem Effect.stays {call : DriverCall} {answer : Except DriverError call.Answer} {id : Nat}
    {allocation later : Allocation} (counted : device.Counted)
    (effect : device.Effect call answer after)
    (live : device.physical.get? id = some allocation)
    (still : after.physical.get? id = some later)
    (others : call = .release ⟨id⟩ → allocation.released = true) :
    later.size = allocation.size ∧ later.released = allocation.released := by
  have unchanged : device.physical.get? id = some later →
      later.size = allocation.size ∧ later.released = allocation.released := by
    intro same
    rw [live] at same
    cases same
    exact ⟨rfl, rfl⟩
  cases effect with
  | refuse | fail | tell | synchronize | reserve | free | unmapStray => exact unchanged still
  | create =>
    rcases NatMap.get?_insert_eq_some_iff.mp still with ⟨rfl, -⟩ | ⟨-, old⟩
    · exact absurd (counted.ids live) (Nat.lt_irrefl _)
    · exact unchanged old
  | map reservation low high vacant live' =>
    rcases NatMap.get?_insert_eq_some_iff.mp still with ⟨rfl, rfl⟩ | ⟨-, old⟩
    · rw [live] at live'
      cases live'
      exact ⟨rfl, rfl⟩
    · exact unchanged old
  | unmap found live' =>
    rcases settle_get?_eq_some_iff.mp still with ⟨rfl, rfl, -⟩ | ⟨-, old⟩
    · rw [live] at live'
      cases live'
      exact ⟨rfl, rfl⟩
    · exact unchanged old
  | release live' unreleased =>
    rcases settle_get?_eq_some_iff.mp still with ⟨rfl, rfl, -⟩ | ⟨-, old⟩
    · rw [live] at live'
      cases live'
      rw [others rfl] at unreleased
      cases unreleased
    · exact unchanged old

/-- New allocations are made by their creation only. -/
theorem Effect.appeared {call : DriverCall} {answer : Except DriverError call.Answer} {id : Nat}
    (effect : device.Effect call answer after) (absent : device.physical.get? id = none)
    (found : after.physical.get? id ≠ none) :
    id = device.nextHandle ∧ ∃ size owner, call = .create size owner := by
  obtain ⟨allocation, found⟩ := Option.ne_none_iff_exists'.mp found
  have unchanged : device.physical.get? id ≠ some allocation := absent ▸ nofun
  cases effect with
  | refuse | fail | tell | synchronize | reserve | free | unmapStray => exact absurd found unchanged
  | @create size owner =>
    rcases NatMap.get?_insert_eq_some_iff.mp found with ⟨rfl, -⟩ | ⟨-, old⟩
    · exact ⟨rfl, size, owner, rfl⟩
    · exact absurd old unchanged
  | map reservation low high vacant live =>
    rcases NatMap.get?_insert_eq_some_iff.mp found with ⟨rfl, -⟩ | ⟨-, old⟩
    · rw [absent] at live
      cases live
    · exact absurd old unchanged
  | unmap mapped live =>
    rcases settle_get?_eq_some_iff.mp found with ⟨rfl, -, -⟩ | ⟨-, old⟩
    · rw [absent] at live
      cases live
    · exact absurd old unchanged
  | release live =>
    rcases settle_get?_eq_some_iff.mp found with ⟨rfl, -, -⟩ | ⟨-, old⟩
    · rw [absent] at live
      cases live
    · exact absurd old unchanged

theorem Effect.refused {call : DriverCall} {answer : Except DriverError call.Answer}
    {cause : DriverError} (effect : device.Effect call answer after)
    (error : answer = .error cause) : after = device ∨
      ∃ point, failurePoint? call = some point ∧ device.injected = some (point, cause) ∧
        after = { device with injected := none } := by
  cases effect with
  | refuse => exact .inl rfl
  | fail kind injected =>
    cases error
    exact .inr ⟨_, kind, injected, rfl⟩
  | _ => cases error

theorem Kept.stepped (kept : device.Kept) {call : DriverCall}
    {answer : Except DriverError call.Answer}
    (answered : Device.call call device = .ok answer after) : Stepped device call answer after := by
  have effect := (call_effect call).of_ok answered
  refine ⟨fun cause => effect.refused, fun id allocation live => ⟨effect.lost live, fun both => ?_⟩,
    fun id allocation later live still => ?_, fun id => effect.appeared⟩
  · exact kept.gone answered live both.1 both.2
  · by_cases released : call = .release ⟨id⟩ ∧ allocation.released = false
    · obtain ⟨rfl, unreleased⟩ := released
      rw [call_release live unreleased] at answered
      cases answered
      rcases settle_get?_eq_some_iff.mp still with ⟨-, rfl, -⟩ | ⟨other, -⟩
      · exact ⟨rfl, fun _ => .inr rfl, fun _ => rfl⟩
      · exact absurd rfl other
    · have others : call = .release ⟨id⟩ → allocation.released = true := fun asked =>
        Bool.of_not_eq_false fun unreleased => released ⟨asked, unreleased⟩
      obtain ⟨size, flag⟩ := effect.stays kept.counted live still others
      rw [flag]
      exact ⟨size, .inl, fun either => either.elim (fun flagged => flagged) others⟩

/-! ## Giving memory back in either order -/

/-- Flags that are written twice are as written last. -/
theorem settle_settle (id : Nat) {first : Allocation} (second : Allocation)
    (stays : ¬ (first.released = true ∧ first.mapped = false)) :
    (device.settle id first).settle id second = device.settle id second := by
  unfold settle
  rw [if_neg stays]
  dsimp only
  rw [NatMap.erase_insert, NatMap.insert_insert]

theorem settle_withoutMapping (device : Device) (id vaddr : Nat) (allocation : Allocation) :
    (device.settle id allocation).withoutMapping vaddr =
      (device.withoutMapping vaddr).settle id allocation := by
  unfold settle withoutMapping
  split <;> rfl

/-- Mapped memory that is not released is given back in either order, with the same result. -/
theorem Kept.either_order (kept : device.Kept) {vaddr : Nat} {mapping : Mapping}
    {allocation : Allocation} (found : device.mappings.get? vaddr = some mapping)
    (live : device.physical.get? mapping.memory.id = some allocation)
    (unreleased : allocation.released = false) :
    ∃ unmapped released last,
      Device.call (.unmap vaddr mapping.size) device = .ok (.ok ()) unmapped ∧
      Device.call (.release mapping.memory) unmapped = .ok (.ok ()) last ∧
      Device.call (.release mapping.memory) device = .ok (.ok ()) released ∧
      Device.call (.unmap vaddr mapping.size) released = .ok (.ok ()) last := by
  obtain ⟨allocation', live', mapped, unmaps⟩ := kept.unmap found
  rw [live] at live'
  cases live'
  have releases := call_release live unreleased
  have positive : Positive (.release mapping.memory) := trivial
  have kept' := kept.effect positive ((call_effect _).of_ok releases)
  have stays : ¬ (allocation.released = true ∧ false = false) := fun gone =>
    Bool.eq_false_iff.mp unreleased gone.1
  have stays' : ¬ (true = true ∧ allocation.mapped = false) := fun gone =>
    Bool.eq_false_iff.mp gone.2 mapped
  -- each order writes the flags twice, and the last flags are the same
  have unmapped_live : ((device.withoutMapping vaddr).settle mapping.memory.id
      { allocation with mapped := false }).physical.get? mapping.memory.id =
        some { allocation with mapped := false } :=
    settle_get?_eq_some_iff.mpr
      (.inl ⟨rfl, rfl, fun released => absurd ⟨released, rfl⟩ stays⟩)
  have released_live : (device.settle mapping.memory.id
      { allocation with released := true }).physical.get? mapping.memory.id =
        some { allocation with released := true } :=
    settle_get?_eq_some_iff.mpr (.inl ⟨rfl, rfl, fun _ => mapped⟩)
  refine ⟨_, _, _, unmaps, call_release unmapped_live unreleased, releases, ?_⟩
  obtain ⟨allocation', live', -, ran⟩ := kept'.unmap ((settle_mappings _ _ _).symm ▸ found)
  rw [released_live] at live'
  cases live'
  rw [ran, settle_withoutMapping, settle_settle _ _ stays', settle_settle _ _ stays]

/-- After any driver calls the books of a device are exact, and so is each further call. -/
theorem books_exact {capacity : Nat} {device : Device} (driven : Driven { capacity } device) :
    device.Exact ∧
      (∀ {call : DriverCall} {answer : Except DriverError call.Answer} {after : Device},
        Device.call call device = .ok answer after → device.Stepped call answer after) ∧
      ∀ {vaddr : Nat} {mapping : Mapping} {allocation : Allocation},
        device.mappings.get? vaddr = some mapping →
        device.physical.get? mapping.memory.id = some allocation → allocation.released = false →
        ∃ unmapped released last,
          Device.call (.unmap vaddr mapping.size) device = .ok (.ok ()) unmapped ∧
          Device.call (.release mapping.memory) unmapped = .ok (.ok ()) last ∧
          Device.call (.release mapping.memory) device = .ok (.ok ()) released ∧
          Device.call (.unmap vaddr mapping.size) released = .ok (.ok ()) last := by
  have kept := driven.kept (kept_new capacity)
  exact ⟨kept.exact, kept.stepped, kept.either_order⟩

/-- Memory that is released while it is mapped stays until its mapping goes; its first creation was
made to fail. -/
theorem books_exact_released_mapped : ∃ device : Device,
    Driven { capacity := 4096 } device ∧ device.Exact ∧
      device.physical.get? 1 = some ⟨1024, true, true⟩ ∧
      Unmaps device (.unmap addressBase 1024) 1 := by
  have positive : 0 < 1024 := by decide
  have reserved : Driven { capacity := 4096 } _ :=
    .called (.set .new 512 8192 (some (.create, .outOfMemory))) (.reserve 2048) trivial rfl
  have refused : Driven { capacity := 4096 } _ := .called reserved (.create 1024 0) positive rfl
  have created : Driven { capacity := 4096 } _ := .called refused (.create 1024 0) positive rfl
  have mapped : Driven { capacity := 4096 } _ :=
    .called created (.map addressBase 1024 ⟨1⟩) trivial rfl
  have released : Driven { capacity := 4096 } _ := .called mapped (.release ⟨1⟩) trivial rfl
  exact ⟨_, released, (books_exact released).1, rfl, addressBase, ⟨1024, ⟨1⟩⟩, rfl, rfl, rfl⟩

end VramOvercommit.Simulation.Device
