import VramOvercommit.Proofs.Simulation.Facade

set_option autoImplicit false

/-!
The books of a bench while no call that handles memory is made to fail. What earlier failures left
behind stays as it is, and memory is refused only where it is lacking or where a mapping is in the
way.
-/

namespace VramOvercommit.Simulation

/-- What surrounds an engine on a device: leftovers of earlier failures, the capacity, and what
others use of it. -/
structure Surroundings where
  strays : List (Nat × Mapping)
  leaks : List (Nat × Allocation)
  capacity : Nat
  foreignUsage : Nat

namespace Surroundings

variable (around : Surroundings)

/-- The bytes that are in use beside a number of bytes held. -/
def inUse (held : Nat) : Nat :=
  Device.allocatedBytes around.leaks + around.foreignUsage + held

/-- The reasons for which the memory for a range is refused. -/
def Refuses (cause : DriverError) (vaddr size : Nat) (holdings : List Holding) : Prop :=
  cause = .outOfMemory ∧ around.capacity < around.inUse (heldBytes holdings) + size ∨
    ∃ entry ∈ around.strays ++ holdings.map Holding.mapping, Device.Overlaps entry vaddr size

end Surroundings

/-- The device answers a request for a range of addresses with one. -/
def Device.CanReserve (device : Device) (size : Nat) : Prop :=
  ∃ base after, Device.call (.reserve size) device = .ok (.ok base) after

instance (device : Device) (size : Nat) : Decidable (device.CanReserve size) :=
  match ran : Device.call (.reserve size) device with
  | .ok (.ok base) after => .isTrue ⟨base, after, ran⟩
  | .ok (.error _) _ => .isFalse fun ⟨_, _, reserved⟩ => by rw [ran] at reserved; cases reserved
  | .error _ _ => .isFalse fun ⟨_, _, reserved⟩ => by rw [ran] at reserved; cases reserved

namespace Bench

/-- What is known of a bench on which no call that handles memory is made to fail. -/
structure QuietBooks (around : Surroundings) (bench : Bench) (regions : List Region)
    (spare : Option Spare) (holdings : List Holding) : Prop where
  quiet : troubles bench.failures = []
  injected : bench.device.injected = none
  capacity : bench.device.capacity = around.capacity
  foreignUsage : bench.device.foreignUsage = around.foreignUsage
  addresses : bench.device.AddressBook regions
  memory : bench.device.MemoryBook around.strays around.leaks spare holdings
  unmapped : ∀ transit ∈ spare, transit.mapped = false
  fits : around.inUse ((spare.toList.map Spare.size).sum + heldBytes holdings) ≤ around.capacity
  small : around.capacity < wordLimit

variable {around : Surroundings} {bench : Bench} {regions : List Region} {spare : Option Spare}
  {holdings : List Holding}

theorem QuietBooks.congr {after : Bench} (books : QuietBooks around bench regions spare holdings)
    (device : after.device = bench.device)
    (failures : troubles after.failures = troubles bench.failures) :
    QuietBooks around after regions spare holdings := by
  obtain ⟨none, injected, capacity, foreignUsage, addresses, memory, unmapped, fits, small⟩ := books
  rw [← device] at injected capacity foreignUsage addresses memory
  exact ⟨failures.trans none, injected, capacity, foreignUsage, addresses, memory, unmapped, fits,
    small⟩

theorem QuietBooks.perm {regions' : List Region} {holdings' : List Holding}
    (books : QuietBooks around bench regions spare holdings) (sameRegions : regions.Perm regions')
    (sameHoldings : holdings.Perm holdings') :
    QuietBooks around bench regions' spare holdings' := by
  obtain ⟨none, injected, capacity, foreignUsage, addresses, memory, unmapped, fits, small⟩ := books
  rw [heldBytes_perm sameHoldings] at fits
  exact ⟨none, injected, capacity, foreignUsage, addresses.perm sameRegions,
    memory.perm sameHoldings, unmapped, fits, small⟩

theorem QuietBooks.heldBytes_lt (books : QuietBooks around bench regions spare holdings) :
    heldBytes holdings < wordLimit := by
  have fits := books.fits
  have small := books.small
  unfold Surroundings.inUse at fits
  omega

/-- While no call that handles memory is to fail and the device is not overcommitted, the books of a
bench tell what surrounds the engine. -/
theorem Books.quiet {kept : Nat} (books : bench.Books kept regions none holdings)
    (quiet : troubles bench.failures = []) (injected : bench.device.injected = none)
    (fits : bench.device.physicalInUse + bench.device.foreignUsage ≤ bench.device.capacity)
    (small : bench.device.capacity < wordLimit) :
    ∃ around, around.capacity = bench.device.capacity ∧
      QuietBooks around bench regions none holdings := by
  obtain ⟨addresses, -, strays, leaks, book, -⟩ := books
  rw [book.physicalInUse] at fits
  refine ⟨⟨strays, leaks, bench.device.capacity, bench.device.foreignUsage⟩, rfl, quiet, injected,
    rfl, rfl, addresses, book, nothing_mapped, ?_, small⟩
  unfold Surroundings.inUse
  simp only [Option.toList_none, List.map_nil, List.sum_nil] at fits ⊢
  omega

theorem QuietBooks.physicalInUse (books : QuietBooks around bench regions none holdings) :
    bench.device.physicalInUse + bench.device.foreignUsage =
      around.inUse (heldBytes holdings) := by
  rw [books.memory.physicalInUse, books.foreignUsage]
  unfold Surroundings.inUse
  simp only [Option.toList_none, List.map_nil, List.sum_nil]
  omega

/-- The device answers every call that handles memory. -/
theorem QuietBooks.call_spec {c : DriverCall} {aborts : Overflow → Prop}
    {post : Except DriverError c.Answer → Bench → Prop}
    (books : QuietBooks around bench regions spare holdings)
    (handled : handlesMemory c.kind = true)
    (answered : Ensures aborts (Device.call c) bench.device (fun answer device =>
      post answer ({ bench with device }.announce c answer))) :
    Ensures aborts (Host.call c) bench post :=
  ensures_unfailing (other_of_handled handled books.quiet) answered

/-- The device may have changed, but not what surrounds the engine. -/
theorem QuietBooks.answered {device : Device} {regions' : List Region} {spare' : Option Spare}
    {holdings' : List Holding} (books : QuietBooks around bench regions spare holdings)
    (limits : bench.device.SameLimits device) (addresses : device.AddressBook regions')
    (memory : device.MemoryBook around.strays around.leaks spare' holdings')
    (unmapped : ∀ transit ∈ spare', transit.mapped = false)
    (fits : around.inUse ((spare'.toList.map Spare.size).sum + heldBytes holdings') ≤
      around.capacity) :
    QuietBooks around { bench with device } regions' spare' holdings' :=
  ⟨books.quiet, limits.injected books.injected, limits.capacity.trans books.capacity,
    limits.foreignUsage.trans books.foreignUsage, addresses, memory, unmapped, fits, books.small⟩

/-- A call that does not handle memory may well be made to fail. -/
theorem QuietBooks.unhandled {c : DriverCall} {regions' : List Region}
    (books : QuietBooks around bench regions none holdings)
    (unhandled : handlesMemory c.kind = false)
    (silent : ∀ {answer : Except DriverError c.Answer} {bench : Bench},
      bench.announce c answer = bench)
    (dropped : bench.device.AddressBook regions')
    (answered : Ensures (fun _ => False) (Device.call c) bench.device (fun _ after =>
      Device.SameMemory bench.device after ∧ after.AddressBook regions')) :
    Ensures (fun _ => False) (Host.call c) bench
      (fun _ after => QuietBooks around after regions' none holdings) := by
  have kept := take_unhandled unhandled bench.failures
  refine ensures_call (fun {cause failures} failed => ?_) fun {failures} passed => ?_
  · rw [failed] at kept
    exact (books.answered (.refl _) dropped books.memory nothing_mapped books.fits).congr rfl kept
  · rw [passed] at kept
    refine answered.mono fun answer device ⟨same, addresses⟩ => ?_
    rw [silent]
    exact (books.answered same.toSameLimits addresses (books.memory.congr same) nothing_mapped
      books.fits).congr rfl kept

/-- A question to the device. -/
theorem QuietBooks.asked {c : DriverCall} (books : QuietBooks around bench regions none holdings)
    (unhandled : handlesMemory c.kind = false)
    (silent : ∀ {answer : Except DriverError c.Answer} {bench : Bench},
      bench.announce c answer = bench)
    (asked : Ensures (fun _ => False) (Device.call c) bench.device (fun _ after =>
      Device.SameMemory bench.device after ∧ Device.SameAddresses bench.device after)) :
    Ensures (fun _ => False) (Host.call c) bench
      (fun _ after => QuietBooks around after regions none holdings) :=
  books.unhandled unhandled silent books.addresses (asked.mono fun _ _ ⟨same, sameAddresses⟩ =>
    ⟨same, books.addresses.congr sameAddresses⟩)

theorem QuietBooks.freeAddress {vaddr size : Nat}
    (books : QuietBooks around bench (⟨vaddr, size⟩ :: regions) none holdings) :
    Ensures (fun _ => False) (Host.call (.freeAddress vaddr size)) bench
      (fun _ after => QuietBooks around after regions none holdings) :=
  books.unhandled rfl rfl books.addresses.drop (Device.freeAddress_spec books.addresses
    fun mapped => Nat.lt_of_le_of_lt (books.memory.ends mapped).2 books.addresses.next_lt)

/-- A range that the device can reserve starts behind all that is mapped. -/
theorem QuietBooks.reserve {size : Nat} (books : QuietBooks around bench regions none holdings)
    (possible : bench.device.CanReserve size) :
    Ensures (fun _ => False) (Host.call (.reserve size)) bench (fun answer after =>
      ∃ base, answer = .ok base ∧ QuietBooks around after (⟨base, size⟩ :: regions) none holdings ∧
        (∀ region ∈ regions, region.base ≠ base) ∧
        ∀ entry ∈ around.strays ++ holdings.map Holding.mapping,
          entry.1 < base ∧ entry.1 + entry.2.size ≤ base) := by
  obtain ⟨base, device, ran⟩ := possible
  have reserved : Ensures (fun _ => True) (Device.call (.reserve size)) bench.device _ :=
    Device.reserve_spec books.addresses trivial
  obtain ⟨same, addresses, rfl, distinct⟩ := reserved.of_ok ran
  refine books.call_spec rfl ?_
  unfold Ensures
  rw [ran]
  refine ⟨_, rfl, (books.answered same.toSameLimits addresses (books.memory.congr same)
    nothing_mapped books.fits).congr rfl rfl, distinct, fun entry inside => ?_⟩
  exact books.memory.ends (NatMap.get?_eq_some_iff.mpr (books.memory.mappings.mem_iff.mpr inside))

/-- Memory is refused only for lack of it. The sum that decides about it may exceed the words. -/
theorem QuietBooks.create {size : Nat} {device : Int} {aborts : Overflow → Prop}
    (books : QuietBooks around bench regions none holdings)
    (allowed : around.capacity + size < wordLimit ∨ aborts ⟨⟩) :
    Ensures aborts (Host.call (.create size device)) bench (fun answer after =>
      match answer with
      | .ok memory => QuietBooks around after regions (some ⟨memory, size, false⟩) holdings
      | .error cause => QuietBooks around after regions none holdings ∧ cause = .outOfMemory ∧
          around.capacity < around.inUse (heldBytes holdings) + size) := by
  have used := books.physicalInUse
  have fits := books.fits
  simp only [Option.toList_none, List.map_nil, List.sum_nil, Nat.zero_add] at fits
  have small := allowed.imp_left fun (allowed : around.capacity + size < wordLimit) =>
    (by omega : bench.device.physicalInUse + bench.device.foreignUsage + size < wordLimit)
  refine books.call_spec rfl ((Device.create_spec books.memory small).mono ?_)
  intro answer device outcome
  obtain ⟨same, outcome⟩ := outcome
  have addresses := books.addresses.congr same
  cases answer with
  | ok memory =>
    apply books.answered same.toSameLimits addresses outcome.1 unmapped_spare
    have room := outcome.2
    rw [used, books.capacity] at room
    unfold Surroundings.inUse at room ⊢
    simp only [Option.toList_some, List.map_cons, List.map_nil, List.sum_cons, List.sum_nil]
    omega
  | error cause =>
    obtain ⟨rfl, full⟩ := outcome.2 books.injected
    rw [used, books.capacity] at full
    exact ⟨books.answered same.toSameLimits addresses outcome.1 nothing_mapped books.fits, rfl,
      full⟩

theorem QuietBooks.map {vaddr size : Nat} {memory : PhysicalHandle}
    (books : QuietBooks around bench regions (some ⟨memory, size, false⟩) holdings)
    (positive : 0 < size) (inside : ∃ region ∈ regions, region.base ≤ vaddr ∧
      vaddr + size ≤ region.base + region.size) :
    Ensures (fun _ => False) (Host.call (.map vaddr size memory)) bench (fun answer after =>
      match answer with
      | .ok _ => QuietBooks around after regions none (⟨vaddr, size, memory⟩ :: holdings)
      | .error cause => QuietBooks around after regions (some ⟨memory, size, false⟩) holdings ∧
          around.Refuses cause vaddr size holdings) := by
  obtain ⟨region, member, low, high⟩ := inside
  refine books.call_spec rfl
    ((Device.map_spec books.addresses books.memory positive member low high).mono ?_)
  intro answer device outcome
  obtain ⟨same, outcome⟩ := outcome
  have addresses := books.addresses.congr same
  cases answer with
  | ok _ =>
    apply books.answered same.toSameLimits addresses outcome nothing_mapped
    simpa only [Option.toList_some, Option.toList_none, List.map_cons, List.map_nil, List.sum_cons,
      List.sum_nil, Nat.add_zero, Nat.zero_add, heldBytes_cons] using books.fits
  | error cause =>
    obtain ⟨entry, mapped, overlaps⟩ := outcome.2 books.injected
    exact ⟨books.answered same.toSameLimits addresses outcome.1 books.unmapped books.fits,
      .inr ⟨entry, books.memory.mappings.mem_iff.mp mapped, overlaps⟩⟩

theorem QuietBooks.setAccess {vaddr size : Nat} {memory : PhysicalHandle} {device : Int}
    (books : QuietBooks around bench regions none (⟨vaddr, size, memory⟩ :: holdings)) :
    Ensures (fun _ => False) (Host.call (.setAccess vaddr size device)) bench (fun answer after =>
      QuietBooks around after regions none (⟨vaddr, size, memory⟩ :: holdings) ∧
        answer = .ok ()) := by
  refine books.call_spec rfl ((Device.setAccess_spec books.memory).mono ?_)
  intro answer device outcome
  obtain ⟨same, memory, answers⟩ := outcome
  exact ⟨books.answered same.toSameLimits (books.addresses.congr same) memory nothing_mapped
    books.fits, answers books.injected⟩

theorem QuietBooks.unmap {vaddr size : Nat} {memory : PhysicalHandle}
    (books : QuietBooks around bench regions none (⟨vaddr, size, memory⟩ :: holdings)) :
    Ensures (fun _ => False) (Host.call (.unmap vaddr size)) bench (fun answer after =>
      QuietBooks around after regions (some ⟨memory, size, false⟩) holdings ∧
        answer = .ok ()) := by
  refine books.call_spec rfl ((Device.unmap_spec books.memory).mono ?_)
  intro answer device outcome
  obtain ⟨same, rfl, memory⟩ := outcome
  refine ⟨books.answered same.toSameLimits (books.addresses.congr same) memory unmapped_spare ?_,
    rfl⟩
  simpa only [Option.toList_some, Option.toList_none, List.map_cons, List.map_nil, List.sum_cons,
    List.sum_nil, Nat.add_zero, Nat.zero_add, heldBytes_cons] using books.fits

theorem QuietBooks.release {memory : PhysicalHandle} {size : Nat} {mapped : Bool}
    (books : QuietBooks around bench regions (some ⟨memory, size, mapped⟩) holdings) :
    Ensures (fun _ => False) (Host.call (.release memory)) bench
      (fun _ after => QuietBooks around after regions none holdings) := by
  obtain rfl : mapped = false := books.unmapped _ rfl
  refine books.call_spec rfl ((Device.release_spec books.memory).mono ?_)
  intro answer device outcome
  obtain ⟨same, memory⟩ := outcome
  apply books.answered same.toSameLimits (books.addresses.congr same) memory nothing_mapped
  have fits := books.fits
  unfold Surroundings.inUse at fits ⊢
  simp only [Option.toList_some, Option.toList_none, List.map_cons, List.map_nil, List.sum_cons,
    List.sum_nil] at fits ⊢
  omega

end Bench

/-- The books of a bench on which no call that handles memory is made to fail. No sum exceeds the
words as long as pages are asked for that the words leave room for. -/
def quietLedger (around : Surroundings) : Ledger Bench where
  agrees := Bench.QuietBooks around
  aborts _ := False
  mayStop := False
  sizes size := around.capacity + size < wordLimit
  refuses := around.Refuses
  distinct := True
  perm sameRegions sameHoldings books := books.perm sameRegions sameHoldings
  log _ books := books.congr rfl rfl
  clock books := books
  platformBudget {host _ _ _} books := by
    change Bench.QuietBooks _ (Bench.pollPlatform host).2 _ _ _
    unfold Bench.pollPlatform
    split
    · exact books
    · exact books.congr rfl rfl
  allocates _ _ books := books
  unkept clash := absurd trivial clash
  regionEnds books := .inl fun _ member => books.addresses.region_lt member
  heldSmall books := .inl ⟨trivial, books.heldBytes_lt⟩
  memoryInfo books := books.asked rfl rfl Device.memoryInfo_spec
  synchronize books :=
    (books.asked rfl rfl Device.synchronize_spec).weaken fun _ => False.elim
  reserve _ _ allowed := allowed.elim
  freeAddress books := books.freeAddress
  create vaddr device books allowed := by
    refine (books.create (.inl allowed)).mono fun answer after outcome => ?_
    cases answer with
    | ok memory => exact outcome
    | error cause => exact ⟨outcome.1, .inl outcome.2⟩
  map books _ positive inside := books.map positive inside
  setAccess _ books := by
    apply books.setAccess.mono
    intro answer after outcome
    obtain ⟨books, rfl⟩ := outcome
    exact ⟨books, trivial⟩
  unmap books := by
    apply (books.unmap.weaken fun _ => False.elim).mono
    intro answer after outcome
    obtain ⟨books, rfl⟩ := outcome
    exact books
  release books := books.release.weaken fun _ => False.elim

/-- The same books, kept for a host in front of the bench. -/
def Facade.quietBooks {σ : Type} [Host σ] (facade : Facade σ) (around : Surroundings) : Ledger σ :=
  facade.ledger (quietLedger around) fun books alike => books.congr alike.device alike.troubles

end VramOvercommit.Simulation
