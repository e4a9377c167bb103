import VramOvercommit.Proofs.Simulation.Memory
import VramOvercommit.Simulation.Bench

set_option autoImplicit false

/-!
The books of a bench. Calls that are made to fail leave the tables of the device alone, so they
cost nothing until a mapping or a piece of memory cannot be given back.
-/

namespace VramOvercommit.Simulation

/-- The calls that give memory back. -/
def givesBack : CallKind → Bool
  | .unmap | .release => true
  | _ => false

/-- How often memory cannot be given back in the time to come. A call that is made to fail uses up
its failure, so the number falls with each such call that fails and with nothing else. -/
def plannedRefusals (failures : List Failure) : Nat :=
  failures.countP fun failure => givesBack failure.kind

theorem take_spec (kind : CallKind) (failures : List Failure) :
    plannedRefusals (Failure.take kind failures).2 +
        (if (Failure.take kind failures).1.isSome && givesBack kind then 1 else 0) =
      plannedRefusals failures := by
  induction failures with
  | nil => rfl
  | cons failure rest ih =>
    unfold Failure.take
    split
    · rename_i same
      subst same
      split
      · simp only [plannedRefusals, List.countP_cons, Option.isSome_some, Bool.true_and]
      · simp only [plannedRefusals, List.countP_cons, Option.isSome_none, Bool.false_and,
          Bool.false_eq_true, if_false, Nat.add_zero]
    · unfold plannedRefusals at ih ⊢
      simp only [List.countP_cons]
      omega

/-- The calls that take memory or addresses, or give memory back. -/
def handlesMemory : CallKind → Bool
  | .reserve | .create | .map | .setAccess | .unmap | .release => true
  | _ => false

/-- The failures to come of calls that handle memory. -/
def troubles (failures : List Failure) : List Failure :=
  failures.filter fun failure => handlesMemory failure.kind

theorem plannedRefusals_troubles (failures : List Failure) :
    plannedRefusals (troubles failures) = plannedRefusals failures := by
  unfold plannedRefusals troubles
  rw [List.countP_filter]
  apply List.countP_congr
  intro failure _
  cases failure.kind <;> decide

/-- A call uses up no failure of calls of other kinds. -/
theorem take_others {kind : CallKind} (others : CallKind → Bool) (other : others kind = false)
    (failures : List Failure) :
    (Failure.take kind failures).2.filter (fun failure => others failure.kind) =
      failures.filter fun failure => others failure.kind := by
  induction failures with
  | nil => rfl
  | cons failure rest ih =>
    unfold Failure.take
    split
    · rename_i same
      subst same
      split <;> simp only [List.filter_cons, other, Bool.false_eq_true, if_false]
    · simp only [List.filter_cons, ih]

/-- A call that does not handle memory uses up no failure of one that does. -/
theorem take_unhandled {kind : CallKind} (unhandled : handlesMemory kind = false)
    (failures : List Failure) :
    troubles (Failure.take kind failures).2 = troubles failures :=
  take_others handlesMemory unhandled failures

/-- A call that handles memory uses up a failure of one that does. -/
theorem take_handled {kind : CallKind} (handled : handlesMemory kind = true)
    (failures : List Failure) :
    (Failure.take kind (troubles failures)).1 = (Failure.take kind failures).1 := by
  unfold troubles
  induction failures with
  | nil => rfl
  | cons failure rest ih =>
    rw [List.filter_cons]
    by_cases same : failure.kind = kind
    · subst same
      rw [if_pos handled, Failure.take, Failure.take, if_pos rfl, if_pos rfl]
      split <;> rfl
    · split
      · rw [Failure.take, Failure.take, if_neg same, if_neg same]
        exact ih
      · rw [ih, Failure.take, if_neg same]

/-- A call goes through as long as no call of its kind is to fail. -/
theorem take_of_other {kind : CallKind} {failures : List Failure}
    (other : ∀ failure ∈ failures, failure.kind ≠ kind) :
    Failure.take kind failures = (none, failures) := by
  induction failures with
  | nil => rfl
  | cons failure rest ih =>
    obtain ⟨first, others⟩ := List.forall_mem_cons.mp other
    unfold Failure.take
    rw [if_neg first, ih others]

/-- As long as no call that handles memory is to fail, failures are planned for others. -/
theorem other_of_handled {kind : CallKind} (handled : handlesMemory kind = true)
    {failures : List Failure} (quiet : troubles failures = []) :
    ∀ failure ∈ failures, failure.kind ≠ kind := by
  rintro failure member rfl
  exact List.filter_eq_nil_iff.mp quiet failure member handled

/-- A call sets up no new failure. -/
theorem exists_of_mem_take {kind : CallKind} {failures : List Failure} {left : Failure}
    (member : left ∈ (Failure.take kind failures).2) :
    ∃ failure ∈ failures, failure.kind = left.kind := by
  induction failures with
  | nil => cases member
  | cons failure rest ih =>
    unfold Failure.take at member
    split at member
    · split at member
      · exact ⟨left, List.mem_cons_of_mem _ member, rfl⟩
      · rcases List.mem_cons.mp member with rfl | old
        · exact ⟨failure, List.mem_cons_self, rfl⟩
        · exact ⟨left, List.mem_cons_of_mem _ old, rfl⟩
    · rcases List.mem_cons.mp member with rfl | old
      · exact ⟨left, List.mem_cons_self, rfl⟩
      · obtain ⟨origin, listed, same⟩ := ih old
        exact ⟨origin, List.mem_cons_of_mem _ listed, same⟩

namespace Bench

variable {bench : Bench} {c : DriverCall} {aborts : Overflow → Prop}
  {post : Except DriverError c.Answer → Bench → Prop}

/-- A call either fails as planned and reaches nothing, or is the device's to answer. -/
theorem ensures_call
    (refused : ∀ {cause : DriverError} {failures : List Failure},
      Failure.take c.kind bench.failures = (some cause, failures) →
        post (.error cause) { bench with failures })
    (answered : ∀ {failures : List Failure},
      Failure.take c.kind bench.failures = (none, failures) →
        Ensures aborts (Device.call c) bench.device (fun answer device =>
          post answer ({ bench with failures, device }.announce c answer))) :
    Ensures aborts (Host.call c) bench post := by
  change Ensures aborts (Bench.call c) bench post
  unfold Ensures Bench.call
  generalize Failure.take c.kind bench.failures = taken at refused answered
  obtain ⟨cause, failures⟩ := taken
  cases cause with
  | some cause => exact refused rfl
  | none =>
    have ran := @answered failures rfl
    unfold Ensures at ran
    dsimp only
    cases found : Device.call c bench.device with
    | ok answer device =>
      rw [found] at ran
      exact ran
    | error overflow device =>
      rw [found] at ran
      exact ran

/-- A call that no failure is planned for is the device's to answer. -/
theorem ensures_unfailing (other : ∀ failure ∈ bench.failures, failure.kind ≠ c.kind)
    (answered : Ensures aborts (Device.call c) bench.device (fun answer device =>
      post answer ({ bench with device }.announce c answer))) :
    Ensures aborts (Host.call c) bench post := by
  have through := take_of_other other
  refine ensures_call (fun {cause failures} failed => ?_) fun {failures} passed => ?_
  · rw [through] at failed
    cases failed
  · rw [through] at passed
    cases passed
    exact answered

theorem call_spec
    (refused : ∀ {cause : DriverError} {failures : List Failure},
      plannedRefusals failures + (if givesBack c.kind then 1 else 0) =
        plannedRefusals bench.failures → post (.error cause) { bench with failures })
    (answered : ∀ {failures : List Failure},
      plannedRefusals failures = plannedRefusals bench.failures →
      Ensures aborts (Device.call c) bench.device (fun answer device =>
        post answer ({ bench with failures, device }.announce c answer))) :
    Ensures aborts (Host.call c) bench post := by
  have planned := take_spec c.kind bench.failures
  refine ensures_call (fun {cause failures} taken => refused ?_)
    fun {failures} taken => answered ?_
  · simpa only [taken, Option.isSome_some, Bool.true_and] using planned
  · simpa only [taken, Option.isSome_none, Bool.false_and, Bool.false_eq_true, if_false,
      Nat.add_zero] using planned

/-- What is known of a bench on which memory cannot be given back `kept` times at most: there are no
strays and no leaks as long as all of these are still to come. -/
structure Books (kept : Nat) (bench : Bench) (regions : List Region) (spare : Option Spare)
    (holdings : List Holding) : Prop where
  addresses : bench.device.AddressBook regions
  planned_le : plannedRefusals bench.failures ≤ kept
  memory : ∃ strays leaks, bench.device.MemoryBook strays leaks spare holdings ∧
    (plannedRefusals bench.failures = kept →
      strays = [] ∧ leaks = [] ∧ ∀ transit ∈ spare, transit.mapped = false)

variable {kept : Nat} {regions : List Region} {spare : Option Spare} {holdings : List Holding}

theorem Books.congr {after : Bench} (books : Books kept bench regions spare holdings)
    (device : after.device = bench.device) (failures : after.failures = bench.failures) :
    Books kept after regions spare holdings := by
  obtain ⟨addresses, planned, memory⟩ := books
  refine ⟨?_, ?_, ?_⟩
  · rw [device]
    exact addresses
  · rw [failures]
    exact planned
  · rw [device, failures]
    exact memory

theorem Books.perm {regions' : List Region} {holdings' : List Holding}
    (books : Books kept bench regions spare holdings) (sameRegions : regions.Perm regions')
    (sameHoldings : holdings.Perm holdings') : Books kept bench regions' spare holdings' := by
  obtain ⟨strays, leaks, book, clean⟩ := books.memory
  exact ⟨books.addresses.perm sameRegions, books.planned_le, strays, leaks, book.perm sameHoldings,
    clean⟩

/-- A call that is made to fail and gives nothing back changes nothing. -/
theorem Books.refused {failures : List Failure} (books : Books kept bench regions spare holdings)
    (planned : plannedRefusals failures + 0 = plannedRefusals bench.failures) :
    Books kept { bench with failures } regions spare holdings := by
  obtain ⟨addresses, planned_le, strays, leaks, book, clean⟩ := books
  have still : plannedRefusals failures ≤ kept := by omega
  exact ⟨addresses, still, strays, leaks, book, fun all => clean (by rw [← planned]; exact all)⟩

theorem nothing_mapped : ∀ transit ∈ (none : Option Spare), transit.mapped = false :=
  fun _ found => nomatch found

theorem unmapped_spare {memory : PhysicalHandle} {size : Nat} :
    ∀ transit ∈ some (⟨memory, size, false⟩ : Spare), transit.mapped = false := by
  rintro transit ⟨⟩
  rfl

/-- A call that the device answers loses nothing. -/
theorem Books.settle {failures : List Failure} {device : Device} {strays : List (Nat × Mapping)}
    {leaks : List (Nat × Allocation)} {regions' : List Region} {spare' : Option Spare}
    {holdings' : List Holding} (planned_le : plannedRefusals bench.failures ≤ kept)
    (clean : plannedRefusals bench.failures = kept →
      strays = [] ∧ leaks = [] ∧ ∀ transit ∈ spare, transit.mapped = false)
    (planned : plannedRefusals failures = plannedRefusals bench.failures)
    (addresses : device.AddressBook regions')
    (book : device.MemoryBook strays leaks spare' holdings')
    (unmapped : (∀ transit ∈ spare, transit.mapped = false) →
      ∀ transit ∈ spare', transit.mapped = false) :
    Books kept { bench with failures, device } regions' spare' holdings' := by
  have still : plannedRefusals failures ≤ kept := by omega
  refine ⟨addresses, still, strays, leaks, book, fun all => ?_⟩
  obtain ⟨none_stray, none_leaked, mapped⟩ := clean (by rw [← planned]; exact all)
  exact ⟨none_stray, none_leaked, unmapped mapped⟩

/-- A call that leaves the memory of the device alone. -/
theorem Books.answered {failures : List Failure} {device : Device} {regions' : List Region}
    (books : Books kept bench regions spare holdings)
    (planned : plannedRefusals failures = plannedRefusals bench.failures)
    (addresses : device.AddressBook regions') (same : bench.device.SameMemory device) :
    Books kept { bench with failures, device } regions' spare holdings := by
  obtain ⟨-, planned_le, strays, leaks, book, clean⟩ := books
  exact settle planned_le clean planned addresses (book.congr same) id

theorem Books.reserve {size : Nat} (books : Books kept bench regions none holdings) :
    Ensures (fun _ => True) (Host.call (.reserve size)) bench (fun answer after =>
      match answer with
      | .ok base => Books kept after (⟨base, size⟩ :: regions) none holdings ∧
          ∀ region ∈ regions, region.base ≠ base
      | .error _ => Books kept after regions none holdings) := by
  refine call_spec (fun {cause failures} planned => books.refused planned)
    fun {failures} planned => ?_
  apply (Device.reserve_spec books.addresses trivial).mono
  intro answer device outcome
  obtain ⟨same, outcome⟩ := outcome
  cases answer with
  | ok base =>
    exact ⟨(books.answered planned outcome.1 same).congr rfl rfl, outcome.2.2⟩
  | error cause => exact books.answered planned outcome same

theorem Books.freeAddress {vaddr size : Nat}
    (books : Books kept bench (⟨vaddr, size⟩ :: regions) none holdings) :
    Ensures (fun _ => True) (Host.call (.freeAddress vaddr size)) bench
      (fun _ after => Books kept after regions none holdings) := by
  obtain ⟨addresses, planned_le, strays, leaks, book, clean⟩ := books
  have dropped : Books kept bench regions none holdings :=
    ⟨addresses.drop, planned_le, strays, leaks, book, clean⟩
  refine call_spec (fun {cause failures} planned => dropped.refused planned)
    fun {failures} planned => ?_
  refine (Device.freeAddress_spec addresses fun mapped =>
    Nat.lt_of_le_of_lt (book.ends mapped).2 addresses.next_lt).mono ?_
  exact fun answer device ⟨same, freed⟩ => dropped.answered planned freed same

/-- A question to the device. -/
theorem Books.asked (books : Books kept bench regions none holdings)
    (quiet : ∀ {answer : Except DriverError c.Answer} {bench : Bench},
      bench.announce c answer = bench) (keeps : givesBack c.kind = false)
    (asked : Ensures (fun _ => True) (Device.call c) bench.device (fun _ after =>
      Device.SameMemory bench.device after ∧ Device.SameAddresses bench.device after)) :
    Ensures (fun _ => True) (Host.call c) bench
      (fun _ after => Books kept after regions none holdings) := by
  refine call_spec (fun {cause failures} planned => ?_) fun {failures} planned => ?_
  · rw [keeps] at planned
    exact books.refused planned
  · apply asked.mono
    intro answer device outcome
    obtain ⟨same, sameAddresses⟩ := outcome
    rw [quiet]
    exact books.answered planned (books.addresses.congr sameAddresses) same

theorem Books.create {size : Nat} {device : Int}
    (books : Books kept bench regions none holdings) :
    Ensures (fun _ => True) (Host.call (.create size device)) bench (fun answer after =>
      match answer with
      | .ok memory => Books kept after regions (some ⟨memory, size, false⟩) holdings
      | .error _ => Books kept after regions none holdings) := by
  refine call_spec (fun {cause failures} planned => books.refused planned)
    fun {failures} planned => ?_
  obtain ⟨addresses, planned_le, strays, leaks, book, clean⟩ := books
  apply (Device.create_spec book (.inr trivial)).mono
  intro answer device outcome
  obtain ⟨same, outcome⟩ := outcome
  have addresses := addresses.congr same
  cases answer with
  | ok memory => exact settle planned_le clean planned addresses outcome.1 fun _ => unmapped_spare
  | error cause => exact settle planned_le clean planned addresses outcome.1 id

theorem Books.map {vaddr size : Nat} {memory : PhysicalHandle}
    (books : Books kept bench regions (some ⟨memory, size, false⟩) holdings)
    (positive : 0 < size) (inside : ∃ region ∈ regions, region.base ≤ vaddr ∧
      vaddr + size ≤ region.base + region.size) :
    Ensures (fun _ => True) (Host.call (.map vaddr size memory)) bench (fun answer after =>
      match answer with
      | .ok _ => Books kept after regions none (⟨vaddr, size, memory⟩ :: holdings)
      | .error _ => Books kept after regions (some ⟨memory, size, false⟩) holdings) := by
  refine call_spec (fun {cause failures} planned => books.refused planned)
    fun {failures} planned => ?_
  obtain ⟨addresses, planned_le, strays, leaks, book, clean⟩ := books
  obtain ⟨region, member, low, high⟩ := inside
  apply (Device.map_spec addresses book positive member low high).mono
  intro answer device outcome
  obtain ⟨same, outcome⟩ := outcome
  have addresses := addresses.congr same
  cases answer with
  | ok _ => exact settle planned_le clean planned addresses outcome fun _ => nothing_mapped
  | error cause => exact settle planned_le clean planned addresses outcome.1 id

theorem Books.setAccess {vaddr size : Nat} {memory : PhysicalHandle} {device : Int}
    (books : Books kept bench regions none (⟨vaddr, size, memory⟩ :: holdings)) :
    Ensures (fun _ => True) (Host.call (.setAccess vaddr size device)) bench
      (fun _ after => Books kept after regions none (⟨vaddr, size, memory⟩ :: holdings)) := by
  refine call_spec (fun {cause failures} planned => books.refused planned)
    fun {failures} planned => ?_
  obtain ⟨addresses, planned_le, strays, leaks, book, clean⟩ := books
  apply (Device.setAccess_spec book).mono
  intro answer device outcome
  obtain ⟨same, book', _⟩ := outcome
  exact settle planned_le clean planned (addresses.congr same) book' id

/-- A mapping that cannot be taken away strays. -/
theorem Books.unmap {vaddr size : Nat} {memory : PhysicalHandle}
    (books : Books kept bench regions none (⟨vaddr, size, memory⟩ :: holdings)) :
    Ensures (fun _ => True) (Host.call (.unmap vaddr size)) bench (fun answer after =>
      match answer with
      | .ok _ => Books kept after regions (some ⟨memory, size, false⟩) holdings
      | .error _ => Books kept after regions (some ⟨memory, size, true⟩) holdings) := by
  obtain ⟨addresses, planned_le, strays, leaks, book, clean⟩ := books
  refine call_spec (fun {cause failures} planned => ?_) fun {failures} planned => ?_
  · change plannedRefusals failures + 1 = _ at planned
    have fewer : plannedRefusals failures < kept := by omega
    exact ⟨addresses, Nat.le_of_lt fewer, _, leaks, book.stray,
      fun all => absurd all (Nat.ne_of_lt fewer)⟩
  · apply (Device.unmap_spec book).mono
    intro answer device outcome
    obtain ⟨same, rfl, book'⟩ := outcome
    exact settle planned_le clean planned (addresses.congr same) book' fun _ => unmapped_spare

/-- Memory that cannot be given back leaks, and so does memory that is still mapped. -/
theorem Books.release {memory : PhysicalHandle} {size : Nat} {mapped : Bool}
    (books : Books kept bench regions (some ⟨memory, size, mapped⟩) holdings) :
    Ensures (fun _ => True) (Host.call (.release memory)) bench
      (fun _ after => Books kept after regions none holdings) := by
  obtain ⟨addresses, planned_le, strays, leaks, book, clean⟩ := books
  refine call_spec (fun {cause failures} planned => ?_) fun {failures} planned => ?_
  · change plannedRefusals failures + 1 = _ at planned
    have fewer : plannedRefusals failures < kept := by omega
    exact ⟨addresses, Nat.le_of_lt fewer, strays, _, book.leak,
      fun all => absurd all (Nat.ne_of_lt fewer)⟩
  · apply (Device.release_spec book).mono
    intro answer device outcome
    obtain ⟨same, book'⟩ := outcome
    have addresses := addresses.congr same
    refine @settle _ _ (some ⟨memory, size, mapped⟩) _ _ _ _ _ _ _ planned_le (fun all => ?_)
      planned addresses book' fun _ => nothing_mapped
    obtain ⟨none_stray, none_leaked, unmapped⟩ := clean all
    obtain rfl : mapped = false := unmapped _ rfl
    exact ⟨none_stray, none_leaked, unmapped⟩

end Bench

/-- The books of a bench on which any call can be made to fail. -/
def benchLedger (kept : Nat) : Ledger Bench where
  agrees := Bench.Books kept
  aborts cause := cause = .overflow
  mayStop := True
  sizes _ := True
  refuses _ _ _ _ := True
  distinct := True
  perm sameRegions sameHoldings books := books.perm sameRegions sameHoldings
  log _ books := books.congr rfl rfl
  clock books := books
  platformBudget {host _ _ _} books := by
    change Bench.Books _ (Bench.pollPlatform host).2 _ _ _
    unfold Bench.pollPlatform
    split
    · exact books
    · exact books.congr rfl rfl
  allocates _ _ books := books
  unkept clash := absurd trivial clash
  regionEnds _ := .inr ⟨trivial, rfl⟩
  heldSmall _ := .inr rfl
  memoryInfo books := (books.asked rfl rfl Device.memoryInfo_spec).weaken fun _ _ => rfl
  synchronize books :=
    (books.asked rfl rfl Device.synchronize_spec).weaken fun _ _ => ⟨trivial, rfl⟩
  reserve size books _ := by
    apply (books.reserve.weaken fun _ _ => rfl).mono
    intro answer after outcome
    cases answer with
    | ok base => exact ⟨outcome.1, fun _ => outcome.2⟩
    | error cause => exact outcome
  freeAddress books := books.freeAddress.weaken fun _ _ => rfl
  create vaddr device books _ := by
    apply (books.create.weaken fun _ _ => rfl).mono
    intro answer after outcome
    cases answer with
    | ok memory => exact outcome
    | error cause => exact ⟨outcome, trivial⟩
  map books _ positive inside := by
    apply ((books.map positive inside).weaken fun _ _ => rfl).mono
    intro answer after outcome
    cases answer with
    | ok _ => exact outcome
    | error cause => exact ⟨outcome, trivial⟩
  setAccess device books := by
    refine (books.setAccess.weaken fun _ _ => rfl).mono fun answer after outcome => ⟨outcome, ?_⟩
    cases answer <;> exact trivial
  unmap books := books.unmap.weaken fun _ _ => ⟨trivial, rfl⟩
  release books := books.release.weaken fun _ _ => ⟨trivial, rfl⟩

end VramOvercommit.Simulation
