import VramOvercommit.Proofs.Simulation.Accounts
import VramOvercommit.Proofs.Simulation.DeviceEffects

set_option autoImplicit false

/-!
The books of a bench while all that is given back is taken back. Calls that ask for something may be
made to fail; what earlier failures left behind stays as it is.
-/

namespace VramOvercommit.Simulation

namespace Bench

/-- What is known of a bench on which no call that gives memory back is made to fail, with what was
left behind before. -/
structure SteadyBooks (strays : List (Nat × Mapping)) (leaks : List (Nat × Allocation))
    (bench : Bench) (regions : List Region) (spare : Option Spare) (holdings : List Holding) :
    Prop where
  planned : plannedRefusals bench.failures = 0
  addresses : bench.device.AddressBook regions
  memory : bench.device.MemoryBook strays leaks spare holdings
  unmapped : ∀ transit ∈ spare, transit.mapped = false

variable {strays : List (Nat × Mapping)} {leaks : List (Nat × Allocation)} {bench : Bench}
  {regions : List Region} {spare : Option Spare} {holdings : List Holding}

theorem SteadyBooks.congr {after : Bench}
    (books : SteadyBooks strays leaks bench regions spare holdings)
    (device : after.device = bench.device)
    (planned : plannedRefusals after.failures = plannedRefusals bench.failures) :
    SteadyBooks strays leaks after regions spare holdings := by
  obtain ⟨none, addresses, memory, unmapped⟩ := books
  rw [← device] at addresses memory
  exact ⟨planned.trans none, addresses, memory, unmapped⟩

theorem SteadyBooks.alike {after : Bench}
    (books : SteadyBooks strays leaks bench regions spare holdings) (alike : bench.Alike after) :
    SteadyBooks strays leaks after regions spare holdings := by
  refine books.congr alike.device ?_
  rw [← plannedRefusals_troubles, alike.troubles, plannedRefusals_troubles]

theorem SteadyBooks.perm {regions' : List Region} {holdings' : List Holding}
    (books : SteadyBooks strays leaks bench regions spare holdings)
    (sameRegions : regions.Perm regions') (sameHoldings : holdings.Perm holdings') :
    SteadyBooks strays leaks bench regions' spare holdings' :=
  ⟨books.planned, books.addresses.perm sameRegions, books.memory.perm sameHoldings, books.unmapped⟩

/-- A call that asks for something may be made to fail, and one that gives memory back reaches the
device. -/
theorem SteadyBooks.call_spec {c : DriverCall} {aborts : Overflow → Prop}
    {post : Except DriverError c.Answer → Bench → Prop}
    (books : SteadyBooks strays leaks bench regions spare holdings)
    (refused : givesBack c.kind = false → ∀ {cause : DriverError} {failures : List Failure},
      plannedRefusals failures = 0 → post (.error cause) { bench with failures })
    (answered : ∀ {failures : List Failure}, plannedRefusals failures = 0 →
      Ensures aborts (Device.call c) bench.device (fun answer device =>
        post answer ({ bench with failures, device }.announce c answer))) :
    Ensures aborts (Host.call c) bench post := by
  refine Bench.call_spec (fun {cause failures} planned => ?_) fun {failures} planned =>
    answered (planned.trans books.planned)
  rw [books.planned] at planned
  cases gives : givesBack c.kind with
  | true => simp [gives] at planned
  | false => exact refused gives (by omega)

/-- The device may have changed, but not what was left behind. -/
theorem SteadyBooks.answered {failures : List Failure} {device : Device} {regions' : List Region}
    {spare' : Option Spare} {holdings' : List Holding} (planned : plannedRefusals failures = 0)
    (addresses : device.AddressBook regions')
    (memory : device.MemoryBook strays leaks spare' holdings')
    (unmapped : ∀ transit ∈ spare', transit.mapped = false) :
    SteadyBooks strays leaks { bench with failures, device } regions' spare' holdings' :=
  ⟨planned, addresses, memory, unmapped⟩

/-- A call that is made to fail changes nothing. -/
theorem SteadyBooks.refused {failures : List Failure}
    (books : SteadyBooks strays leaks bench regions spare holdings)
    (planned : plannedRefusals failures = 0) :
    SteadyBooks strays leaks { bench with failures } regions spare holdings :=
  ⟨planned, books.addresses, books.memory, books.unmapped⟩

/-- A question to the device. -/
theorem SteadyBooks.asked {c : DriverCall}
    (books : SteadyBooks strays leaks bench regions none holdings)
    (silent : ∀ {answer : Except DriverError c.Answer} {bench : Bench},
      bench.announce c answer = bench)
    (asked : Ensures (fun _ => False) (Device.call c) bench.device (fun _ after =>
      Device.SameMemory bench.device after ∧ Device.SameAddresses bench.device after)) :
    Ensures (fun _ => False) (Host.call c) bench
      (fun _ after => SteadyBooks strays leaks after regions none holdings) := by
  refine books.call_spec (fun _ {_ _} => books.refused) fun {failures} planned => ?_
  refine asked.mono fun answer device ⟨same, sameAddresses⟩ => ?_
  rw [silent]
  exact .answered planned (books.addresses.congr sameAddresses) (books.memory.congr same)
    nothing_mapped

theorem SteadyBooks.reserve {size : Nat}
    (books : SteadyBooks strays leaks bench regions none holdings) :
    Ensures (fun _ => True) (Host.call (.reserve size)) bench (fun answer after =>
      match answer with
      | .ok base => SteadyBooks strays leaks after (⟨base, size⟩ :: regions) none holdings ∧
          ∀ region ∈ regions, region.base ≠ base
      | .error _ => SteadyBooks strays leaks after regions none holdings) := by
  refine books.call_spec (fun _ {_ _} => books.refused) fun {failures} planned => ?_
  apply (Device.reserve_spec books.addresses trivial).mono
  intro answer device outcome
  obtain ⟨same, outcome⟩ := outcome
  have memory := books.memory.congr same
  cases answer with
  | ok base =>
    have settled : SteadyBooks strays leaks { bench with failures, device } _ none holdings :=
      .answered planned outcome.1 memory nothing_mapped
    exact ⟨settled.congr rfl rfl, outcome.2.2⟩
  | error cause => exact .answered planned outcome memory nothing_mapped

theorem SteadyBooks.freeAddress {vaddr size : Nat}
    (books : SteadyBooks strays leaks bench (⟨vaddr, size⟩ :: regions) none holdings) :
    Ensures (fun _ => True) (Host.call (.freeAddress vaddr size)) bench
      (fun _ after => SteadyBooks strays leaks after regions none holdings) := by
  have dropped : SteadyBooks strays leaks bench regions none holdings :=
    ⟨books.planned, books.addresses.drop, books.memory, books.unmapped⟩
  refine books.call_spec (fun _ {_ _} => dropped.refused) fun {failures} planned => ?_
  refine (Device.freeAddress_spec books.addresses fun mapped =>
    Nat.lt_of_le_of_lt (books.memory.ends mapped).2 books.addresses.next_lt).mono ?_
  exact fun answer device ⟨same, freed⟩ =>
    .answered planned freed (books.memory.congr same) nothing_mapped

theorem SteadyBooks.create {size : Nat} {device : Int}
    (books : SteadyBooks strays leaks bench regions none holdings) :
    Ensures (fun _ => True) (Host.call (.create size device)) bench (fun answer after =>
      match answer with
      | .ok memory => SteadyBooks strays leaks after regions (some ⟨memory, size, false⟩) holdings
      | .error _ => SteadyBooks strays leaks after regions none holdings) := by
  refine books.call_spec (fun _ {_ _} => books.refused) fun {failures} planned => ?_
  apply (Device.create_spec books.memory (.inr trivial)).mono
  intro answer device outcome
  obtain ⟨same, outcome⟩ := outcome
  have addresses := books.addresses.congr same
  cases answer with
  | ok memory => exact .answered planned addresses outcome.1 unmapped_spare
  | error cause => exact .answered planned addresses outcome.1 nothing_mapped

theorem SteadyBooks.map {vaddr size : Nat} {memory : PhysicalHandle}
    (books : SteadyBooks strays leaks bench regions (some ⟨memory, size, false⟩) holdings)
    (positive : 0 < size) (inside : ∃ region ∈ regions, region.base ≤ vaddr ∧
      vaddr + size ≤ region.base + region.size) :
    Ensures (fun _ => True) (Host.call (.map vaddr size memory)) bench (fun answer after =>
      match answer with
      | .ok _ => SteadyBooks strays leaks after regions none (⟨vaddr, size, memory⟩ :: holdings)
      | .error _ =>
          SteadyBooks strays leaks after regions (some ⟨memory, size, false⟩) holdings) := by
  obtain ⟨region, member, low, high⟩ := inside
  refine books.call_spec (fun _ {_ _} => books.refused) fun {failures} planned => ?_
  apply (Device.map_spec books.addresses books.memory positive member low high).mono
  intro answer device outcome
  obtain ⟨same, outcome⟩ := outcome
  have addresses := books.addresses.congr same
  cases answer with
  | ok _ => exact .answered planned addresses outcome nothing_mapped
  | error cause => exact .answered planned addresses outcome.1 unmapped_spare

theorem SteadyBooks.setAccess {vaddr size : Nat} {memory : PhysicalHandle} {device : Int}
    (books : SteadyBooks strays leaks bench regions none (⟨vaddr, size, memory⟩ :: holdings)) :
    Ensures (fun _ => True) (Host.call (.setAccess vaddr size device)) bench (fun _ after =>
      SteadyBooks strays leaks after regions none (⟨vaddr, size, memory⟩ :: holdings)) := by
  refine books.call_spec (fun _ {_ _} => books.refused) fun {failures} planned => ?_
  apply (Device.setAccess_spec books.memory).mono
  intro answer device outcome
  obtain ⟨same, memory, -⟩ := outcome
  exact .answered planned (books.addresses.congr same) memory nothing_mapped

theorem SteadyBooks.unmap {vaddr size : Nat} {memory : PhysicalHandle}
    (books : SteadyBooks strays leaks bench regions none (⟨vaddr, size, memory⟩ :: holdings)) :
    Ensures (fun _ => False) (Host.call (.unmap vaddr size)) bench (fun answer after =>
      SteadyBooks strays leaks after regions (some ⟨memory, size, false⟩) holdings ∧
        answer = .ok ()) := by
  refine books.call_spec nofun fun {failures} planned => ?_
  apply (Device.unmap_spec books.memory).mono
  intro answer device outcome
  obtain ⟨same, rfl, memory⟩ := outcome
  exact ⟨.answered planned (books.addresses.congr same) memory unmapped_spare, rfl⟩

theorem SteadyBooks.release {memory : PhysicalHandle} {size : Nat} {mapped : Bool}
    (books : SteadyBooks strays leaks bench regions (some ⟨memory, size, mapped⟩) holdings) :
    Ensures (fun _ => False) (Host.call (.release memory)) bench
      (fun _ after => SteadyBooks strays leaks after regions none holdings) := by
  obtain rfl : mapped = false := books.unmapped _ rfl
  refine books.call_spec nofun fun {failures} planned => ?_
  apply (Device.release_spec books.memory).mono
  intro answer device outcome
  obtain ⟨same, memory⟩ := outcome
  exact .answered planned (books.addresses.congr same) memory nothing_mapped

/-- While no call that gives memory back is to fail, the books of a bench tell what earlier failures
left behind. -/
theorem Books.steady {kept : Nat} (books : bench.Books kept regions none holdings)
    (planned : plannedRefusals bench.failures = 0) :
    ∃ strays leaks, SteadyBooks strays leaks bench regions none holdings := by
  obtain ⟨addresses, -, strays, leaks, memory, -⟩ := books
  exact ⟨strays, leaks, planned, addresses, memory, nothing_mapped⟩

/-! ## Failures of other calls -/

/-- No call is to fail that gives memory or addresses back. -/
def TakesBack (bench : Bench) : Prop :=
  ∀ failure ∈ bench.failures, givesBack failure.kind = false ∧ failure.kind ≠ .freeAddress

instance (bench : Bench) : Decidable bench.TakesBack :=
  inferInstanceAs (Decidable (∀ failure ∈ bench.failures, _ ∧ _))

theorem TakesBack.planned (takes : bench.TakesBack) : plannedRefusals bench.failures = 0 :=
  List.countP_eq_zero.mpr fun failure member => Bool.eq_false_iff.mp (takes failure member).1

/-- A call sets up no new failure. -/
theorem TakesBack.call (takes : bench.TakesBack) (c : DriverCall) :
    Ensures (fun _ => True) (Host.call c) bench fun _ after => after.TakesBack := by
  have kept : ∀ failure ∈ (Failure.take c.kind bench.failures).2,
      givesBack failure.kind = false ∧ failure.kind ≠ .freeAddress := by
    intro failure member
    obtain ⟨origin, listed, same⟩ := exists_of_mem_take member
    rw [← same]
    exact takes origin listed
  refine ensures_call (fun {cause failures} taken => ?_) fun {failures} taken =>
    ensures_any fun answer device => ?_
  · rw [taken] at kept
    exact kept
  · rw [taken] at kept
    unfold announce
    split <;> exact kept

theorem TakesBack.alike {after : Bench} (takes : bench.TakesBack) (alike : bench.Alike after) :
    after.TakesBack := by
  intro failure member
  by_cases asks : failure.kind = .memoryInfo
  · rw [asks]
    exact ⟨rfl, nofun⟩
  · have planned : failure ∈ plannedFailures after.failures :=
      List.mem_filter.mpr ⟨member, bne_iff_ne.mpr asks⟩
    rw [alike.planned] at planned
    exact takes failure (List.mem_filter.mp planned).1

/-- A range behind all that is mapped is given back. -/
theorem SteadyBooks.freeAddress_granted {aborts : Overflow → Prop} {vaddr size : Nat}
    (books : SteadyBooks strays leaks bench (⟨vaddr, size⟩ :: regions) none holdings)
    (takes : bench.TakesBack) (behind : ∀ entry ∈ strays ++ holdings.map Holding.mapping,
      entry.1 < vaddr ∧ entry.1 + entry.2.size ≤ vaddr) :
    Ensures aborts (Host.call (.freeAddress vaddr size)) bench fun answer after =>
      answer = .ok () ∧ after.device = bench.device.freed vaddr size := by
  have reserved : bench.device.reservations.get? vaddr = some size :=
    books.addresses.reserved ⟨vaddr, size⟩ List.mem_cons_self
  have small : vaddr + size < wordLimit := books.addresses.region_lt List.mem_cons_self
  have apart : ∀ entry ∈ bench.device.mappings.entries,
      entry.1 < vaddr ∧ entry.1 + entry.2.size ≤ vaddr := fun entry member =>
    behind entry (books.memory.mappings.mem_iff.mp member)
  refine ensures_unfailing (fun failure member => (takes failure member).2) ?_
  refine (Device.freeAddress_granted reserved (books.addresses.positive reserved)
    ⟨small, fun entry member => ?_⟩ fun entry member overlaps => ?_).mono ?_
  · have below := apart entry member
    omega
  · have below := apart entry member
    rcases overlaps.2 with starts | reaches <;> omega
  · rintro answer device ⟨rfl, rfl⟩
    exact ⟨rfl, rfl⟩

end Bench

/-- The books of a bench on which no call that gives memory back is made to fail. -/
def steadyLedger (strays : List (Nat × Mapping)) (leaks : List (Nat × Allocation)) :
    Ledger Bench where
  agrees := Bench.SteadyBooks strays leaks
  aborts cause := cause = .overflow
  mayStop := False
  sizes _ := True
  refuses _ _ _ _ := True
  distinct := True
  perm sameRegions sameHoldings books := books.perm sameRegions sameHoldings
  log _ books := books.congr rfl rfl
  clock books := books
  platformBudget {host _ _ _} books := by
    change Bench.SteadyBooks _ _ (Bench.pollPlatform host).2 _ _ _
    unfold Bench.pollPlatform
    split
    · exact books
    · exact books.congr rfl rfl
  allocates _ _ books := books
  unkept clash := absurd trivial clash
  regionEnds books := .inl fun _ member => books.addresses.region_lt member
  heldSmall _ := .inr rfl
  memoryInfo books := (books.asked rfl Device.memoryInfo_spec).weaken fun _ _ => rfl
  synchronize books := (books.asked rfl Device.synchronize_spec).weaken fun _ => False.elim
  reserve size books _ := by
    apply (books.reserve.weaken fun _ _ => rfl).mono
    intro answer after outcome
    cases answer with
    | ok base => exact ⟨outcome.1, fun _ => outcome.2⟩
    | error cause => exact outcome
  freeAddress books := books.freeAddress.weaken fun _ _ => rfl
  create vaddr device books _ := by
    apply (books.create.weaken fun _ _ => rfl).mono
    intro answer after outcome
    cases answer with
    | ok memory => exact outcome
    | error cause => exact ⟨outcome, trivial⟩
  map books _ positive inside := by
    apply ((books.map positive inside).weaken fun _ _ => rfl).mono
    intro answer after outcome
    cases answer with
    | ok _ => exact outcome
    | error cause => exact ⟨outcome, trivial⟩
  setAccess device books := by
    refine (books.setAccess.weaken fun _ _ => rfl).mono fun answer after outcome => ⟨outcome, ?_⟩
    cases answer <;> exact trivial
  unmap books := by
    apply (books.unmap.weaken fun _ => False.elim).mono
    intro answer after outcome
    obtain ⟨books, rfl⟩ := outcome
    exact books
  release books := books.release.weaken fun _ => False.elim

section Facades

variable {σ : Type} [Host σ]

/-- The same books, kept for a host in front of the bench. -/
def Facade.steadyBooks (facade : Facade σ) (strays : List (Nat × Mapping))
    (leaks : List (Nat × Allocation)) : Ledger σ :=
  facade.ledger (steadyLedger strays leaks) Bench.SteadyBooks.alike

/-- While no call that gives memory back is to fail, what earlier failures left behind stays. -/
theorem Facade.sound_steady (facade : Facade σ) {kept : Nat} {context : Context σ}
    (sound : Sound (facade.books kept) context)
    (planned : plannedRefusals (facade.bench context.host).failures = 0) :
    ∃ strays leaks, Sound (facade.steadyBooks strays leaks) context := by
  have books : (facade.bench context.host).Books kept _ none _ := sound.books.agrees
  obtain ⟨strays, leaks, steady⟩ := books.steady planned
  exact ⟨strays, leaks, sound.vbars, sound.buffers, sound.valid, trivial, steady,
    sound.books.accounted.held_le, sound.books.accounted.held_eq, sound.books.accounted.word⟩

end Facades

end VramOvercommit.Simulation
