import VramOvercommit.Proofs.Addressing
import VramOvercommit.Proofs.OperationActions
import VramOvercommit.Proofs.Barriers
import VramOvercommit.Proofs.Simulation.AddressSpace

set_option autoImplicit false

/-!
A bench with the record of its calls. The record tells which of the calls that give something back
were refused, and as long as none was, the tables of the device are exact.
-/

namespace VramOvercommit

namespace Simulation

/-! ## What was refused -/

/-- Something that was to be given back could not be taken. -/
def Event.refusesReturn : Event → Bool
  | .called call (.error _) => givesBack call.kind || call.kind == .freeAddress
  | _ => false

/-- All that was to be given back so far was taken back. -/
def Traced.AllReturned {σ : Type} (traced : Traced σ) : Prop :=
  ∀ event ∈ traced.events, event.refusesReturn = false

instance {σ : Type} (traced : Traced σ) : Decidable traced.AllReturned :=
  inferInstanceAs (Decidable (∀ event ∈ traced.events, event.refusesReturn = false))

theorem Traced.allReturned_record {σ : Type} {traced : Traced σ} {host : σ} {event : Event} :
    (traced.record host event).AllReturned ↔
      traced.AllReturned ∧ event.refusesReturn = false := by
  unfold Traced.AllReturned Traced.record
  simp only [Array.mem_push]
  constructor
  · exact fun all => ⟨fun other member => all other (.inl member), all event (.inr rfl)⟩
  · rintro ⟨earlier, last⟩ other (member | rfl)
    · exact earlier other member
    · exact last

/-! ## Reservations -/

namespace Device

variable {device after : Device} {regions : List Region}

/-- The regions in use are reserved, and nothing else is if all was returned. -/
structure Reserves (device : Device) (returned : Prop) (regions : List Region) : Prop where
  book : device.AddressBook regions
  total : device.reservedBytes = device.reservationBytes
  all : returned →
    device.reservations.entries.Perm (regions.map fun region => (region.base, region.size))

theorem Reserves.congr {returned returned' : Prop} (reserves : device.Reserves returned regions)
    (same : device.SameSpace after) (earlier : returned' → returned) :
    after.Reserves returned' regions := by
  refine ⟨reserves.book.of_sameSpace same, same.total reserves.total, fun all => ?_⟩
  rw [same.reservations]
  exact reserves.all (earlier all)

theorem Reserves.grow {returned : Prop} {size : Nat} (reserves : device.Reserves returned regions)
    (positive : 0 < size) (fits : device.nextAddress + size < wordLimit) :
    (device.reserved size).Reserves returned (⟨device.nextAddress, size⟩ :: regions) := by
  have fresh := reserves.book.fresh
  refine ⟨reserves.book.grow positive fits rfl rfl, ?_, fun all => ?_⟩
  · rw [reservationBytes_reserved fresh]
    exact congrArg (· + size) reserves.total
  · exact (NatMap.perm_insert_of_none fresh size).trans ((reserves.all all).cons _)

theorem Reserves.free {returned : Prop} {vaddr size : Nat}
    (reserves : device.Reserves returned (⟨vaddr, size⟩ :: regions))
    (found : device.reservations.get? vaddr = some size) :
    (device.freed vaddr size).Reserves returned regions := by
  have bytes := reservationBytes_freed found
  have total := reserves.total
  refine ⟨reserves.book.erase rfl rfl, ?_, fun all => ?_⟩
  · change device.reservedBytes - size = _
    omega
  · exact NatMap.perm_remove (reserves.all all)

/-- A reservation that is granted is one more region, apart from all others. -/
theorem Reserves.reserve_effect {returned : Prop} {size : Nat}
    {answer : Except DriverError (DriverCall.reserve size).Answer}
    (reserves : device.Reserves returned regions)
    (effect : device.Effect (.reserve size) answer after) :
    match answer with
    | .ok base => after.Reserves returned (⟨base, size⟩ :: regions) ∧
        ∀ region ∈ regions, region.base ≠ base
    | .error _ => after.Reserves returned regions := by
  cases effect with
  | refuse => exact reserves
  | fail => exact reserves.congr ⟨rfl, rfl, rfl, rfl⟩ id
  | tell asks => exact asks.elim
  | reserve positive fits =>
    refine ⟨reserves.grow positive fits, fun region member same => ?_⟩
    have taken := reserves.book.reserved region member
    rw [same, reserves.book.fresh] at taken
    cases taken

/-- A region that is given back is reserved no longer, or else its return was refused. -/
theorem Reserves.freeAddress_effect {returned returned' : Prop} {vaddr size : Nat}
    {answer : Except DriverError (DriverCall.freeAddress vaddr size).Answer}
    (reserves : device.Reserves returned (⟨vaddr, size⟩ :: regions))
    (effect : device.Effect (.freeAddress vaddr size) answer after)
    (earlier : returned' → returned) (refused : ∀ cause, answer = .error cause → ¬ returned') :
    after.Reserves returned' regions := by
  cases effect with
  | refuse cause =>
    exact ⟨reserves.book.drop, reserves.total, fun all => absurd all (refused cause rfl)⟩
  | fail kind => cases kind
  | tell asks => exact asks.elim
  | free found => exact (reserves.free found).congr (.refl _) earlier

end Device

/-- A facade with a record is a facade of the same bench. -/
def Facade.traced {σ : Type} [Host σ] (facade : Facade σ) :
    Facade (Traced σ) where
  bench traced := facade.bench traced.host
  call {c} other traced := by
    rw [← facade.call other traced.host, Traced.call_eq]
    cases Host.call c traced.host <;> rfl
  memoryInfo traced := by
    obtain ⟨answer, after, ran, alike⟩ := facade.memoryInfo traced.host
    rw [Traced.call_eq, ran]
    exact ⟨_, _, rfl, alike⟩
  deviceName device traced := facade.deviceName device traced.host
  clock traced := facade.clock traced.host
  platformBudget traced := facade.platformBudget traced.host
  allocates table count traced := facade.allocates table count traced.host
  log notice traced := facade.log notice traced.host

namespace Traced

variable {context after : Context (Traced Bench)} {kinds : List ActionKind}

/-- What the device keeps reserved, as far as the record of its calls tells. -/
def Reserves (traced : Traced Bench) (regions : List Region) : Prop :=
  traced.host.device.Reserves traced.AllReturned regions

theorem Reserves.congr {traced traced' : Traced Bench} {regions : List Region}
    (reserves : traced.Reserves regions) (same : traced.host.device.SameSpace traced'.host.device)
    (earlier : traced'.AllReturned → traced.AllReturned) : traced'.Reserves regions :=
  Device.Reserves.congr reserves same earlier

/-- What was returned after one more event was returned before it. -/
theorem AllReturned.earlier {traced : Traced Bench} {bench : Bench} {event : Event}
    (all : (traced.record bench event).AllReturned) : traced.AllReturned :=
  (allReturned_record.mp all).1

/-- A bench with a record hands out ranges that are apart from each other. -/
def addressing : Addressing (Traced Bench) where
  reserves := Reserves
  perm same reserves :=
    ⟨reserves.book.perm same, reserves.total, fun all => (reserves.all all).trans (same.map _)⟩
  ends reserves _ member := reserves.book.region_lt member
  reserve size reserves := by
    refine ensures_call ((Bench.call_effect _).mono fun answer bench effect => ?_)
    have outcome := Device.Reserves.reserve_effect reserves effect
    cases answer with
    | ok base => exact ⟨outcome.1.congr (.refl _) AllReturned.earlier, outcome.2⟩
    | error cause => exact outcome.congr (.refl _) AllReturned.earlier
  freeAddress reserves := by
    refine ensures_call ((Bench.call_effect _).mono fun answer bench effect => ?_)
    refine Device.Reserves.freeAddress_effect reserves effect AllReturned.earlier ?_
    rintro cause rfl all
    exact Bool.noConfusion (allReturned_record.mp all).2
  call other other' reserves := by
    refine ensures_call ((Bench.call_effect _).mono fun answer bench effect => ?_)
    exact Reserves.congr reserves (effect.sameSpace other other') AllReturned.earlier
  deviceName device reserves := Reserves.congr reserves (.refl _) AllReturned.earlier
  clock reserves := reserves
  platformBudget {host _} reserves := by
    refine Reserves.congr reserves ?_ id
    change host.host.device.SameSpace (Bench.pollPlatform host.host).2.device
    unfold Bench.pollPlatform
    split <;> exact .refl _
  allocates _ _ reserves := reserves
  log _ reserves := reserves

/-! ## Memory -/

/-- A bench with a record is a facade of the bench. -/
def facade : Facade (Traced Bench) := Bench.facade.traced

/-- What may change of a bench between two operations; the record stays as it is. -/
structure Adjusted (before after : Traced Bench) : Prop where
  events : after.events = before.events
  bench : before.host.Adjusted after.host

/-- A call that gives memory back and fails as planned leaves a refusal on the record. -/
theorem planned_of_call {call : DriverCall} {traced : Traced Bench} :
    Ensures (fun _ => True) (Host.call call) traced fun _ after => after.AllReturned →
      traced.AllReturned ∧
        plannedRefusals after.host.failures = plannedRefusals traced.host.failures := by
  refine ensures_call (Bench.call_spec (fun {cause failures} planned all => ?_)
    fun {failures} planned => ensures_any fun answer device all => ?_)
  · obtain ⟨earlier, accepted⟩ := allReturned_record.mp all
    refine ⟨earlier, ?_⟩
    change (givesBack call.kind || _) = false at accepted
    rw [(Bool.or_eq_false_iff.mp accepted).1] at planned
    exact planned
  · refine ⟨AllReturned.earlier all, ?_⟩
    rw [← planned]
    unfold Bench.announce
    split <;> rfl

theorem planned_of_action (action : Action kinds context after) (all : after.host.AllReturned) :
    context.host.AllReturned ∧ plannedRefusals after.host.host.failures =
      plannedRefusals context.host.host.failures := by
  cases action with
  | call allowed answered => exact planned_of_call.of_ok answered all
  | platformBudget =>
    refine ⟨all, ?_⟩
    change plannedRefusals (Bench.pollPlatform context.host.host).2.failures = _
    unfold Bench.pollPlatform
    split <;> rfl
  | _ => exact ⟨all, rfl⟩

/-- As long as nothing is refused, the refusals that are planned stay as they are. -/
theorem planned_of_actions (actions : Actions kinds context after)
    (all : after.host.AllReturned) :
    context.host.AllReturned ∧ plannedRefusals after.host.host.failures =
      plannedRefusals context.host.host.failures := by
  induction actions with
  | refl => exact ⟨all, rfl⟩
  | tail _ action ih =>
    obtain ⟨earlier, same⟩ := planned_of_action action all
    obtain ⟨earliest, same'⟩ := ih earlier
    exact ⟨earliest, same.trans same'⟩

/-- While nothing is refused, a run leaves neither strays nor leaks. -/
theorem exact_of_run {start : Context (Traced Bench)}
    (run : Run Adjusted anyOperation start context)
    (sound : Sound (facade.books (plannedRefusals start.host.host.failures)) start)
    (all : context.host.AllReturned) :
    Sound (facade.books (plannedRefusals context.host.host.failures)) context := by
  induction run with
  | start => exact sound
  | alter _ adjusted ih =>
    refine facade.rekept (ih fun event member => all event (adjusted.events ▸ member)) ?_
    have books : Bench.Books _ _ _ none _ := (ih fun event member =>
      all event (adjusted.events ▸ member)).books.agrees
    exact books.adjusted adjusted.bench (Nat.le_refl _) fun _ => rfl
  | @perform before after operation outcome _ ran _ ih =>
    obtain ⟨earlier, same⟩ :=
      planned_of_actions ((operation.run_only before).ensures.of_ok ran) all
    have done := ((operation.run_spec (ih earlier) rfl fun _ => trivial).of_ok ran).sound
    rw [same]
    exact done

theorem reserves_of_unused {bench : Bench} (unused : bench.device.Unused)
    (unreserved : bench.device.reservedBytes = 0) :
    addressing.reserves (⟨bench, #[]⟩ : Traced Bench) [] := by
  refine ⟨(unused.books _ (Nat.le_refl _)).addresses, ?_, fun _ => ?_⟩
  · unfold Device.reservationBytes
    rw [unreserved, unused.reservations]
    rfl
  · rw [unused.reservations]
    exact .refl _

theorem keeps_adjusted : addressing.Keeps Adjusted := by
  intro before after regions adjusted reserves
  refine Reserves.congr reserves ?_ fun all event member => all event (adjusted.events ▸ member)
  rw [adjusted.bench]
  exact ⟨rfl, rfl, rfl, rfl⟩

end Traced

end Simulation

end VramOvercommit
