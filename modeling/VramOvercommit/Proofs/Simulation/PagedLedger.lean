import VramOvercommit.Proofs.Simulation.Accounts
import VramOvercommit.Proofs.Simulation.DeviceEffects
import VramOvercommit.Proofs.Simulation.QuietLedger

set_option autoImplicit false

/-!
The books of a bench on which nothing is to fail, as far as pages are concerned. They tell an
exhausted device from a mapping that is in the way. The device may be so large that the bytes in use
and one more page exceed the words.
-/

namespace VramOvercommit.Simulation

/-- A mapping that cannot be made never looks like an exhausted device. -/
theorem Device.map_unexhausted {device : Device} {vaddr size : Nat} {memory : PhysicalHandle}
    (injected : device.injected = none) :
    Ensures (fun _ => True) (Device.call (.map vaddr size memory)) device
      (fun answer _ => answer ≠ .error .outOfMemory) := by
  change Ensures _ (map vaddr size memory).run device _
  unfold map
  rw [ensures_run_bind]
  refine takeFailure_spec (fun _ _ planned => absurd injected planned) ?_
  dsimp only
  rw [ensures_run_bind]
  refine isReserved_effect (fun _ _ _ => ?_) nofun
  simp only [Bool.not_true, Bool.false_eq_true, if_false]
  rw [ensures_run_bind]
  refine overlapsMapping_effect (.inr trivial) nofun fun _ => ?_
  simp only [Bool.false_eq_true, if_false]
  rw [ensures_run_bind, ensures_run_get]
  dsimp only
  split
  · split
    · exact nofun
    · exact nofun
  · exact nofun

namespace Bench

variable {around : Surroundings} {bench : Bench} {regions : List Region} {holdings : List Holding}

theorem QuietBooks.map_unexhausted {spare : Option Spare} {vaddr size : Nat}
    {memory : PhysicalHandle} (books : QuietBooks around bench regions spare holdings) :
    Ensures (fun _ => True) (Host.call (.map vaddr size memory)) bench
      (fun answer _ => answer ≠ .error .outOfMemory) :=
  books.call_spec rfl (Device.map_unexhausted books.injected)

theorem QuietBooks.reserve_any {size : Nat}
    (books : QuietBooks around bench regions none holdings) :
    Ensures (fun _ => True) (Host.call (.reserve size)) bench (fun answer after =>
      match answer with
      | .ok base => QuietBooks around after (⟨base, size⟩ :: regions) none holdings ∧
          ∀ region ∈ regions, region.base ≠ base
      | .error _ => QuietBooks around after regions none holdings) := by
  refine books.call_spec rfl ((Device.reserve_spec books.addresses trivial).mono ?_)
  intro answer device outcome
  obtain ⟨same, outcome⟩ := outcome
  have memory := books.memory.congr same
  cases answer with
  | ok base =>
    have settled : QuietBooks around { bench with device } _ none holdings :=
      books.answered same.toSameLimits outcome.1 memory nothing_mapped books.fits
    exact ⟨settled.congr rfl rfl, outcome.2.2⟩
  | error cause =>
    exact books.answered same.toSameLimits outcome memory nothing_mapped books.fits

/-- No failure is to come, and what is in use fits the device. -/
structure Unfailing (bench : Bench) : Prop where
  failures : bench.failures = []
  injected : bench.device.injected = none
  fits : bench.device.physicalInUse + bench.device.foreignUsage ≤ bench.device.capacity
  /-- The capacity is a word itself. -/
  word : bench.device.capacity < wordLimit

instance (bench : Bench) : Decidable bench.Unfailing :=
  decidable_of_iff
    (bench.failures = [] ∧ bench.device.injected = none ∧
      bench.device.physicalInUse + bench.device.foreignUsage ≤ bench.device.capacity ∧
      bench.device.capacity < wordLimit)
    ⟨fun ⟨failures, injected, fits, word⟩ => ⟨failures, injected, fits, word⟩,
      fun ⟨failures, injected, fits, word⟩ => ⟨failures, injected, fits, word⟩⟩

end Bench

/-- The books of a bench on which nothing is to fail, where all memory is asked for in pages of one
size. -/
def pagedLedger (around : Surroundings) (pageSize : Nat) : Ledger Bench :=
  { quietLedger around with
    aborts := fun cause => cause = .overflow ∧ wordLimit ≤ around.capacity + pageSize
    sizes := fun size => size = pageSize
    refuses := fun cause _ size holdings =>
      cause = .outOfMemory → around.capacity < around.inUse (heldBytes holdings) + size
    regionEnds := fun books => .inl fun _ member => books.addresses.region_lt member
    heldSmall := fun books => .inl ⟨trivial, books.heldBytes_lt⟩
    memoryInfo := fun books =>
      (books.asked rfl rfl Device.memoryInfo_spec).weaken fun _ => False.elim
    synchronize := fun books =>
      (books.asked rfl rfl Device.synchronize_spec).weaken fun _ => False.elim
    reserve := fun size books exceeds => by
      refine (books.reserve_any.weaken fun _ _ => exceeds).mono fun answer after outcome => ?_
      cases answer with
      | ok base => exact ⟨outcome.1, fun _ => outcome.2⟩
      | error cause => exact outcome
    freeAddress := fun books => books.freeAddress.weaken fun _ => False.elim
    create := fun vaddr device books allowed => by
      subst allowed
      refine (books.create ((Nat.lt_or_ge _ _).imp_right fun exceeds => ⟨rfl, exceeds⟩)).mono
        fun answer after outcome => ?_
      cases answer with
      | ok memory => exact outcome
      | error cause => exact ⟨outcome.1, fun _ => outcome.2.2⟩
    map := fun books _ positive inside => by
      refine (((books.map positive inside).weaken fun _ => False.elim).also
        books.map_unexhausted).mono fun answer after outcome => ?_
      obtain ⟨outcome, unexhausted⟩ := outcome
      cases answer with
      | ok _ => exact outcome
      | error cause => exact ⟨outcome.1, fun exhausted => absurd (exhausted ▸ rfl) unexhausted⟩
    setAccess := fun _ books => by
      refine (books.setAccess.weaken fun _ => False.elim).mono fun answer after outcome => ?_
      obtain ⟨books, rfl⟩ := outcome
      exact ⟨books, trivial⟩
    unmap := fun books => by
      refine (books.unmap.weaken fun _ => False.elim).mono fun answer after outcome => ?_
      obtain ⟨books, rfl⟩ := outcome
      exact books
    release := fun books => books.release.weaken fun _ => False.elim }

section Facades

variable {σ : Type} [Host σ]

/-- The same books, kept for a host in front of the bench. -/
def Facade.pagedBooks (facade : Facade σ) (around : Surroundings) (pageSize : Nat) : Ledger σ :=
  facade.ledger (pagedLedger around pageSize) fun books alike => books.congr alike.device
    alike.troubles

/-- While nothing is to fail, the books of a host are those for its pages. -/
theorem Facade.sound_paged (facade : Facade σ) {kept : Nat} {context : Context σ}
    (sound : Sound (facade.books kept) context)
    (unfailing : (facade.bench context.host).Unfailing) :
    ∃ around, around.capacity = (facade.bench context.host).device.capacity ∧
      Sound (facade.pagedBooks around context.engine.config.vbarPageSize) context := by
  have books : (facade.bench context.host).Books kept context.engine.regions none
    context.engine.holdings := sound.books.agrees
  obtain ⟨around, capacity, quiet⟩ := books.quiet (by rw [unfailing.failures]; rfl)
    unfailing.injected unfailing.fits unfailing.word
  exact ⟨around, capacity, sound.vbars, sound.buffers, sound.valid, rfl, quiet,
    sound.books.accounted.held_le, sound.books.accounted.held_eq, sound.books.accounted.word⟩

end Facades

end VramOvercommit.Simulation
