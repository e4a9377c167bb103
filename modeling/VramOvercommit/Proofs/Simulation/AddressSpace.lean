import VramOvercommit.Proofs.OperationActions
import VramOvercommit.Proofs.Simulation.Accounts
import VramOvercommit.Proofs.Simulation.DeviceEffects

set_option autoImplicit false

/-!
The address space of a simulated device after any driver calls, whoever makes them. The bytes that
are reserved are those of the reservations, and each reservation was cut from the front of what was
left. What is given back is not handed out again.
-/

namespace VramOvercommit

open Simulation
open Simulation (DeviceM Device)

namespace Simulation

namespace Device

variable {device after : Device}

/-! ## Calls that leave addresses alone -/

/-- The reservations of a device are as they were. -/
structure SameSpace (before after : Device) : Prop where
  reservations : after.reservations = before.reservations
  reservedBytes : after.reservedBytes = before.reservedBytes
  nextAddress : after.nextAddress = before.nextAddress
  addressSpaceLimit : after.addressSpaceLimit = before.addressSpaceLimit

theorem SameSpace.refl (device : Device) : SameSpace device device := ⟨rfl, rfl, rfl, rfl⟩

theorem SameSpace.trans {last : Device} (first : SameSpace device after)
    (more : SameSpace after last) : SameSpace device last :=
  ⟨more.reservations.trans first.reservations, more.reservedBytes.trans first.reservedBytes,
    more.nextAddress.trans first.nextAddress,
    more.addressSpaceLimit.trans first.addressSpaceLimit⟩

theorem settle_sameSpace (device : Device) (id : Nat) (allocation : Allocation) :
    device.SameSpace (device.settle id allocation) := by
  unfold settle
  split <;> exact ⟨rfl, rfl, rfl, rfl⟩

theorem unmapped_sameSpace (device : Device) (vaddr id : Nat) (allocation : Allocation) :
    device.SameSpace ((device.withoutMapping vaddr).settle id allocation) :=
  have gone : device.SameSpace (device.withoutMapping vaddr) := ⟨rfl, rfl, rfl, rfl⟩
  gone.trans (settle_sameSpace _ _ _)

/-- Only reservations change the address space. -/
theorem Effect.sameSpace {call : DriverCall} {answer : Except DriverError call.Answer}
    (effect : Effect device call answer after) (reserves : call.kind ≠ .reserve)
    (frees : call.kind ≠ .freeAddress) : SameSpace device after := by
  cases effect with
  | reserve => exact absurd rfl reserves
  | free => exact absurd rfl frees
  | unmap => exact unmapped_sameSpace _ _ _ _
  | release => exact settle_sameSpace _ _ _
  | _ => exact ⟨rfl, rfl, rfl, rfl⟩

/-! ## Reservations -/

/-- The bytes of all reservations. -/
def reservationBytes (device : Device) : Nat := device.reservations.values.sum

/-- Reservations are apart from each other, and all bytes that are reserved were cut from the front
of the address space, which may be reserved up to its end. -/
structure Laid (device : Device) : Prop where
  book : device.AddressBook []
  total : device.reservedBytes = device.reservationBytes
  behind : addressBase + device.reservedBytes ≤ device.nextAddress
  limit : device.addressSpaceLimit = wordLimit - 1 - addressBase

theorem AddressBook.of_sameSpace {regions : List Region} (book : device.AddressBook regions)
    (same : SameSpace device after) : after.AddressBook regions := by
  obtain ⟨reservations, -, nextAddress, -⟩ := same
  refine ⟨?_, book.distinct, ?_, ?_, ?_, ?_⟩
  · rw [reservations]
    exact book.reserved
  · rw [reservations]
    exact book.positive
  · rw [reservations, nextAddress]
    exact book.ends
  · rw [reservations]
    exact book.apart
  · rw [nextAddress]
    exact book.next_lt

theorem SameSpace.total (same : SameSpace device after)
    (total : device.reservedBytes = device.reservationBytes) :
    after.reservedBytes = after.reservationBytes := by
  unfold reservationBytes
  rw [same.reservedBytes, same.reservations]
  exact total

theorem Laid.congr (laid : device.Laid) (same : SameSpace device after) : after.Laid := by
  refine ⟨laid.book.of_sameSpace same, same.total laid.total, ?_,
    same.addressSpaceLimit.trans laid.limit⟩
  rw [same.reservedBytes, same.nextAddress]
  exact laid.behind

/-- Nothing starts where the next reservation will. -/
theorem AddressBook.fresh {regions : List Region} (book : device.AddressBook regions) :
    device.reservations.get? device.nextAddress = none := by
  cases found : device.reservations.get? device.nextAddress with
  | none => rfl
  | some size =>
    have ends := book.ends found
    have positive := book.positive found
    omega

theorem reservationBytes_reserved (fresh : device.reservations.get? device.nextAddress = none)
    (size : Nat) : (device.reserved size).reservationBytes = device.reservationBytes + size := by
  have values := ((device.reservations.insert device.nextAddress size).perm_values.trans
    ((NatMap.perm_insert_of_none fresh size).map Prod.snd)).sum_nat
  rw [List.map_cons, List.sum_cons, ← device.reservations.perm_values.sum_nat] at values
  rw [Nat.add_comm]
  exact values

theorem reservationBytes_freed {vaddr size : Nat}
    (found : device.reservations.get? vaddr = some size) :
    device.reservationBytes = size + (device.freed vaddr size).reservationBytes := by
  have values := ((device.reservations.perm_values.trans
    ((NatMap.perm_erase found).map Prod.snd))).sum_nat
  rw [List.map_cons, List.sum_cons, ← (device.reservations.erase vaddr).perm_values.sum_nat]
    at values
  exact values

/-- The regions that stay are still apart from each other. -/
theorem AddressBook.freed {vaddr size : Nat} (book : device.AddressBook [])
    (found : device.reservations.get? vaddr = some size) :
    (device.freed vaddr size).AddressBook [] := by
  have held : device.AddressBook [⟨vaddr, size⟩] :=
    ⟨fun region member => by cases List.mem_singleton.mp member; exact found,
      List.nodup_singleton _, book.positive, book.ends, book.apart, book.next_lt⟩
  exact held.erase rfl rfl

theorem Laid.reserved {size : Nat} (laid : device.Laid) (positive : 0 < size)
    (fits : device.nextAddress + size < wordLimit) : (device.reserved size).Laid := by
  refine ⟨(laid.book.grow positive fits rfl rfl).drop, ?_, ?_, laid.limit⟩
  · rw [reservationBytes_reserved laid.book.fresh]
    exact congrArg (· + size) laid.total
  · have behind := laid.behind
    change addressBase + (device.reservedBytes + size) ≤ device.nextAddress + size
    omega

theorem Laid.freed {vaddr size : Nat} (laid : device.Laid)
    (found : device.reservations.get? vaddr = some size) : (device.freed vaddr size).Laid := by
  have bytes := reservationBytes_freed found
  have total := laid.total
  have behind := laid.behind
  refine ⟨laid.book.freed found, ?_, ?_, laid.limit⟩
  · change device.reservedBytes - size = _
    omega
  · change addressBase + (device.reservedBytes - size) ≤ device.nextAddress
    omega

/-- No driver call breaks the address space, whoever makes it. -/
theorem Laid.effect (laid : device.Laid) {call : DriverCall}
    {answer : Except DriverError call.Answer} (effect : Effect device call answer after) :
    after.Laid := by
  cases effect with
  | reserve positive fits => exact laid.reserved positive fits
  | free found => exact laid.freed found
  | @unmap vaddr => exact laid.congr (unmapped_sameSpace device vaddr _ _)
  | release => exact laid.congr (settle_sameSpace _ _ _)
  | _ => exact laid.congr ⟨rfl, rfl, rfl, rfl⟩

/-- A device as it comes, on which all addresses can be reserved. -/
structure Pristine (device : Device) : Prop extends device.Unused where
  reservedBytes : device.reservedBytes = 0
  limit : device.addressSpaceLimit = wordLimit - 1 - addressBase

theorem Pristine.laid (pristine : device.Pristine) : device.Laid := by
  obtain ⟨⟨-, -, reservations, -, nextAddress⟩, reservedBytes, limit⟩ := pristine
  refine ⟨⟨nofun, List.nodup_nil, ?_, ?_, ?_, ?_⟩, ?_, ?_, limit⟩
  · simp [reservations]
  · simp [reservations]
  · simp [reservations]
  · rw [nextAddress]
    decide
  · unfold reservationBytes
    rw [reservedBytes, reservations]
    rfl
  · rw [reservedBytes, nextAddress]
    exact Nat.le_refl _

end Device

/-! ## Ends -/

/-- All reservations and mappings of a device end within the address space. -/
structure Device.Bounded (device : Device) : Prop where
  reservations : ∀ {vaddr size : Nat}, device.reservations.get? vaddr = some size →
    vaddr + size < wordLimit
  mappings : ∀ entry ∈ device.mappings.entries, entry.1 + entry.2.size < wordLimit

theorem Device.Bounded.reserved {device : Device} {size : Nat} (bounded : device.Bounded)
    (fits : device.nextAddress + size < wordLimit) : (device.reserved size).Bounded := by
  refine ⟨fun {vaddr size'} found => ?_, bounded.mappings⟩
  change (device.reservations.insert device.nextAddress size).get? vaddr = some size' at found
  rw [NatMap.get?_insert] at found
  split at found
  · rename_i same
    cases found
    rwa [same]
  · exact bounded.reservations found

/-- What is on the books of a bench ends within the address space. -/
theorem Bench.Books.bounded {bench : Bench} {kept : Nat} {regions : List Region}
    {spare : Option Spare} {holdings : List Holding}
    (books : bench.Books kept regions spare holdings) : bench.device.Bounded := by
  obtain ⟨addresses, -, strays, leaks, book, -⟩ := books
  refine ⟨fun found => Nat.lt_of_le_of_lt (addresses.ends found) addresses.next_lt,
    fun entry member => ?_⟩
  exact Nat.lt_of_le_of_lt (book.ends (NatMap.get?_eq_some_iff.mpr member)).2 addresses.next_lt

end Simulation

/-! ## Runs -/

section Runs

/-- A call that is made to fail is refused without reaching the device. -/
theorem Simulation.Bench.call_effect {bench : Bench} (call : DriverCall) :
    Ensures (fun _ => True) (Host.call call) bench
      fun answer after => Device.Effect bench.device call answer after.device := by
  refine Bench.ensures_call (fun _ => .refuse _) fun _ =>
    (Device.call_effect call).mono fun answer device effect => ?_
  unfold Bench.announce
  split <;> exact effect

namespace Simulation.Facade

variable {σ : Type} [Host σ] {facade : Facade σ} {context after : Context σ}
  {kinds : List ActionKind}

/-- An action has the effect of a driver call on the device behind the host, or none. -/
theorem action_effect (facade : Facade σ) (action : Action kinds context after) :
    (facade.bench after.host).device = (facade.bench context.host).device ∨
      ∃ (call : DriverCall) (answer : Except DriverError call.Answer), .call call.kind ∈ kinds ∧
        Device.Effect (facade.bench context.host).device call answer
          (facade.bench after.host).device := by
  cases action with
  | @call driverCall answer host allowed answered =>
    by_cases asks : driverCall = .memoryInfo
    · subst asks
      exact .inl ((facade.ensures_memoryInfo _ : Ensures (fun _ => True) _ _ _).of_ok
        answered).device
    · exact .inr ⟨driverCall, answer, allowed,
        (facade.ensures_call asks (Bench.call_effect driverCall)).of_ok answered⟩
  | platformBudget => exact .inl (facade.platformBudget _).device
  | clock => exact .inl (facade.clock _).device
  | allocates => exact .inl (facade.allocates _ _ _).device
  | log notice => exact .inl (facade.log notice _).device
  | _ => exact .inl rfl

/-- Actions that neither take addresses nor give them back. -/
theorem sameSpace (facade : Facade σ) (actions : Actions kinds context after)
    (reserves : .call .reserve ∉ kinds) (frees : .call .freeAddress ∉ kinds) :
    (facade.bench context.host).device.SameSpace (facade.bench after.host).device := by
  induction actions with
  | refl => exact .refl _
  | tail _ action ih =>
    refine ih.trans ?_
    obtain same | ⟨call, answer, allowed, effect⟩ := facade.action_effect action
    · rw [same]
      exact .refl _
    · refine effect.sameSpace (fun reserve => reserves ?_) fun free => frees ?_
      · exact reserve ▸ allowed
      · exact free ▸ allowed

theorem laid (facade : Facade σ) (actions : Actions kinds context after)
    (laid : (facade.bench context.host).device.Laid) :
    (facade.bench after.host).device.Laid := by
  induction actions with
  | refl => exact laid
  | tail _ action ih =>
    obtain same | ⟨call, answer, -, effect⟩ := facade.action_effect action
    · rw [same]
      exact ih
    · exact ih.effect effect

/-- After every run the address space is laid out as it should be. -/
theorem laid_of_run {admits : Context σ → Operation → Context σ → Prop} {start : Context σ}
    (run : Run facade.Adjusted admits start context)
    (laid : (facade.bench start.host).device.Laid) :
    (facade.bench context.host).device.Laid := by
  refine run.preserves (fun context => (facade.bench context.host).device.Laid)
    (fun laid adjusted => ?_) (fun {context after operation outcome} laid ran _ => ?_) laid
  · rw [adjusted]
    exact laid.congr ⟨rfl, rfl, rfl, rfl⟩
  · exact facade.laid ((operation.run_only context).ensures.of_ok ran) laid

theorem laid_of_opened {device : Int} {config : Config} {host host' : σ} {engine : Engine}
    (pristine : (facade.bench host).device.Pristine)
    (opened : Engine.create device config host = .ok (.ok engine) host') :
    (facade.bench host').device.Laid := by
  have alike : ∀ {before after : Bench}, before.Alike after → before.device.Laid →
      after.device.Laid := fun same laid => same.device.symm ▸ laid
  have asked : Ensures (fun _ => True) (Host.call (.totalMemory device)) host
      fun _ after => (facade.bench after).device.Laid :=
    facade.ensures_call (by nofun) ((Bench.call_effect _).mono fun _ _ => pristine.laid.effect)
  have created : Ensures (fun _ => True) (Engine.create device config) host _ :=
    Engine.create_spec (fun after => (facade.bench after).device.Laid) asked
      (alike (facade.deviceName device _)) fun notice => alike (facade.log notice _)
  exact (created.of_ok opened).1

end Simulation.Facade

end Runs

end VramOvercommit
