import VramOvercommit.Proofs.Simulation.BenchLedger

set_option autoImplicit false

/-!
Hosts in front of a bench. They may say anything of the memory that is free, of the time and of the
platform. Whatever is kept on the books of the bench is kept on theirs.
-/

namespace VramOvercommit.Simulation

/-- The failures to come of all calls but the question how much memory is free. -/
def plannedFailures (failures : List Failure) : List Failure :=
  failures.filter fun failure => failure.kind != .memoryInfo

/-- The same device, and the same failures to come of all calls but the question how much memory is
free. -/
structure Bench.Alike (before after : Bench) : Prop where
  device : after.device = before.device
  planned : plannedFailures after.failures = plannedFailures before.failures

theorem Bench.Alike.refl (bench : Bench) : bench.Alike bench := ⟨rfl, rfl⟩

theorem Bench.Alike.trans {before middle after : Bench} (first : before.Alike middle)
    (more : middle.Alike after) : before.Alike after :=
  ⟨more.device.trans first.device, more.planned.trans first.planned⟩

theorem troubles_planned (failures : List Failure) :
    troubles (plannedFailures failures) = troubles failures := by
  unfold troubles plannedFailures
  rw [List.filter_filter]
  apply List.filter_congr
  intro failure _
  cases failure.kind <;> rfl

/-- The same failures to come of calls that handle memory. -/
theorem Bench.Alike.troubles {before after : Bench} (alike : before.Alike after) :
    troubles after.failures = troubles before.failures := by
  rw [← troubles_planned, alike.planned, troubles_planned]

theorem Bench.Books.alike {before after : Bench} {kept : Nat} {regions : List Region}
    {spare : Option Spare} {holdings : List Holding}
    (books : before.Books kept regions spare holdings) (alike : before.Alike after) :
    after.Books kept regions spare holdings := by
  have planned : plannedRefusals after.failures = plannedRefusals before.failures := by
    rw [← plannedRefusals_troubles, alike.troubles, plannedRefusals_troubles]
  obtain ⟨addresses, planned_le, memory⟩ := books
  refine ⟨?_, ?_, ?_⟩
  · rw [alike.device]
    exact addresses
  · rw [planned]
    exact planned_le
  · rw [alike.device, planned]
    exact memory

/-- The end of a call, with the bench behind the host that it leaves. -/
def behind {σ α : Type} (bench : σ → Bench) :
    EStateM.Result Overflow σ α → EStateM.Result Overflow Bench α
  | .ok value after => .ok value (bench after)
  | .error overflow after => .error overflow (bench after)

/-- A host in front of a bench. Every call is the bench's to answer but for the question how much
memory is free, and no other question reaches the device. -/
structure Facade (σ : Type) [Host σ] where
  bench : σ → Bench
  call : ∀ {c : DriverCall}, c ≠ .memoryInfo → ∀ host : σ,
    behind bench (Host.call c host) = Host.call c (bench host)
  memoryInfo : ∀ host : σ, ∃ answer after, Host.call .memoryInfo host = .ok answer after ∧
    (bench host).Alike (bench after)
  deviceName : ∀ (device : Int) (host : σ),
    (bench host).Alike (bench (Host.deviceName device host).2)
  clock : ∀ host : σ, (bench host).Alike (bench (Host.clock host).2)
  platformBudget : ∀ host : σ, (bench host).Alike (bench (Host.platformBudget host).2)
  allocates : ∀ (table : HostTable) (count : Nat) (host : σ),
    (bench host).Alike (bench (Host.allocates table count host).2)
  log : ∀ (notice : Notice) (host : σ), (bench host).Alike (bench (Host.log notice host))

/-- A bench is its own facade. -/
def Bench.facade : Facade Bench where
  bench := id
  call _ host := by
    unfold behind
    split <;> rename_i found <;> exact found.symm
  memoryInfo host := by
    have kept : plannedFailures (Failure.take .memoryInfo host.failures).2 = _ :=
      take_others (fun kind => kind != .memoryInfo) rfl host.failures
    change ∃ answer after, Bench.call .memoryInfo host = .ok answer after ∧ host.Alike after
    unfold Bench.call
    dsimp only [DriverCall.kind]
    split
    · exact ⟨_, _, rfl, rfl, kept⟩
    · exact ⟨_, _, rfl, rfl, kept⟩
  deviceName _ host := .refl host
  clock host := .refl host
  platformBudget host := by
    change host.Alike (Bench.pollPlatform host).2
    unfold Bench.pollPlatform
    split <;> exact ⟨rfl, rfl⟩
  allocates _ _ host := .refl host
  log _ _ := ⟨rfl, rfl⟩

namespace Facade

variable {σ : Type} [Host σ] {aborts : Overflow → Prop} {host : σ}

/-- What a call ensures of the bench, it ensures of the bench behind the host. -/
theorem ensures_call (facade : Facade σ) {c : DriverCall} (other : c ≠ .memoryInfo)
    {post : Except DriverError c.Answer → Bench → Prop}
    (ensured : Ensures aborts (Host.call c) (facade.bench host) post) :
    Ensures aborts (Host.call c) host (fun answer after => post answer (facade.bench after)) := by
  unfold Ensures at *
  rw [← facade.call other host] at ensured
  cases found : Host.call c host with
  | ok answer after =>
    rw [found] at ensured
    exact ensured
  | error overflow after =>
    rw [found] at ensured
    exact ensured

/-- The question how much memory is free leaves the bench as it was. -/
theorem ensures_memoryInfo (facade : Facade σ) (host : σ) :
    Ensures aborts (Host.call .memoryInfo) host
      (fun _ after => (facade.bench host).Alike (facade.bench after)) := by
  obtain ⟨answer, after, ran, alike⟩ := facade.memoryInfo host
  unfold Ensures
  rw [ran]
  exact alike

/-- Memory of the host is asked for without the bench. -/
theorem room_alike (facade : Facade σ) (table : HostTable) (count : Nat) (host : σ) :
    (facade.bench host).Alike (facade.bench (Host.room table count host).2) := by
  rcases Host.room_cases table count host with same | asked
  · rw [same]
    exact .refl _
  · rw [asked]
    exact facade.allocates table count host

theorem roomBeside_alike (facade : Facade σ) (table : HostTable) (held count bytesEach : Nat)
    (host : σ) :
    (facade.bench host).Alike
      (facade.bench (Host.roomBeside table held count bytesEach host).2) := by
  rcases Host.roomBeside_cases table held count bytesEach host with same | asked
  · rw [same]
    exact .refl _
  · rw [asked]
    exact facade.allocates table count host

/-- The books of the bench, kept for the host in front of it. -/
def ledger (facade : Facade σ) (ledger : Ledger Bench)
    (alike : ∀ {before after : Bench} {regions : List Region} {spare : Option Spare}
      {holdings : List Holding}, ledger.agrees before regions spare holdings →
        before.Alike after → ledger.agrees after regions spare holdings) : Ledger σ where
  agrees host := ledger.agrees (facade.bench host)
  aborts := ledger.aborts
  mayStop := ledger.mayStop
  sizes := ledger.sizes
  refuses := ledger.refuses
  distinct := ledger.distinct
  perm := ledger.perm
  log notice agrees := alike agrees (facade.log notice _)
  clock agrees := alike agrees (facade.clock _)
  platformBudget agrees := alike agrees (facade.platformBudget _)
  allocates table count agrees := alike agrees (facade.allocates table count _)
  unkept clash host := ledger.unkept clash (facade.bench host)
  regionEnds := ledger.regionEnds
  heldSmall := ledger.heldSmall
  memoryInfo agrees := (facade.ensures_memoryInfo _).mono fun _ _ => alike agrees
  synchronize agrees := facade.ensures_call (by nofun) (ledger.synchronize agrees)
  reserve size agrees allowed := facade.ensures_call (by nofun) (ledger.reserve size agrees allowed)
  freeAddress agrees := facade.ensures_call (by nofun) (ledger.freeAddress agrees)
  create vaddr device agrees allowed :=
    facade.ensures_call (by nofun) (ledger.create vaddr device agrees allowed)
  map agrees allowed positive inside :=
    facade.ensures_call (by nofun) (ledger.map agrees allowed positive inside)
  setAccess device agrees := facade.ensures_call (by nofun) (ledger.setAccess device agrees)
  unmap agrees := facade.ensures_call (by nofun) (ledger.unmap agrees)
  release agrees := facade.ensures_call (by nofun) (ledger.release agrees)

end Facade

/-- A bench behind a host that makes up one answer after the other. -/
structure Rumours where
  bench : Bench
  infos : Nat → Except DriverError MemoryInfo
  moments : Nat → Nat
  readings : Nat → Option PlatformBudget
  /-- How many answers were made up. -/
  asked : Nat := 0

namespace Rumours

/-- Makes up the next answer. -/
def answer {α : Type} (answers : Rumours → Nat → α) (host : Rumours) : α × Rumours :=
  (answers host host.asked, { host with asked := host.asked + 1 })

/-- The end of a call of the bench, with its host. -/
def withBench {α : Type} (host : Rumours) :
    EStateM.Result Overflow Bench α → EStateM.Result Overflow Rumours α
  | .ok value bench => .ok value { host with bench }
  | .error overflow bench => .error overflow { host with bench }

instance : Host Rumours where
  call c := fun host =>
    match c with
    | .memoryInfo => .ok (answer infos host).1 (answer infos host).2
    | c => host.withBench (Host.call c host.bench)
  deviceName _ := fun host => (host.bench.deviceName, host)
  clock := answer moments
  platformBudget := answer readings
  allocates _ _ := fun host => (true, host)
  log notice := fun host => { host with bench := Host.log notice host.bench }
  limitLog limit := fun host => { host with bench := Host.limitLog limit host.bench }

def facade : Facade Rumours where
  bench := Rumours.bench
  call {c} other host := by
    have passed : Host.call c host = host.withBench (Host.call c host.bench) := by
      cases c with
      | memoryInfo => exact absurd rfl other
      | _ => rfl
    rw [passed]
    cases Host.call c host.bench <;> rfl
  memoryInfo host := ⟨_, _, rfl, .refl _⟩
  deviceName _ host := .refl _
  clock host := .refl _
  platformBudget host := .refl _
  allocates _ _ host := .refl _
  log _ _ := ⟨rfl, rfl⟩

end Rumours

/-- A bench with a clock, a platform and memory of the host of its own, whatever these answer. Every
driver call is the bench's to answer. -/
structure Situated where
  bench : Bench
  moments : Nat → Nat
  readings : Nat → Option PlatformBudget
  /-- Whether there is memory for a table. -/
  grants : Nat → Bool := fun _ => true
  /-- How many questions the clock and the platform have answered. -/
  asked : Nat := 0
  /-- How often memory of the host was asked for. -/
  requests : Nat := 0

namespace Situated

/-- The answer to the next question to the clock or the platform. -/
def answer {α : Type} (answers : Situated → Nat → α) (host : Situated) : α × Situated :=
  (answers host host.asked, { host with asked := host.asked + 1 })

/-- The end of a call of the bench, with its host. -/
def withBench {α : Type} (host : Situated) :
    EStateM.Result Overflow Bench α → EStateM.Result Overflow Situated α
  | .ok value bench => .ok value { host with bench }
  | .error overflow bench => .error overflow { host with bench }

instance : Host Situated where
  call c := fun host => host.withBench (Host.call c host.bench)
  deviceName _ := fun host => (host.bench.deviceName, host)
  clock := answer moments
  platformBudget := answer readings
  allocates _ _ := fun host =>
    (host.grants host.requests, { host with requests := host.requests + 1 })
  log notice := fun host => { host with bench := Host.log notice host.bench }
  limitLog limit := fun host => { host with bench := Host.limitLog limit host.bench }

def facade : Facade Situated where
  bench := Situated.bench
  call {c} _ host := by
    change behind Situated.bench (host.withBench (Host.call c host.bench)) = _
    cases Host.call c host.bench <;> rfl
  memoryInfo host := by
    obtain ⟨answer, after, ran, alike⟩ := Bench.facade.memoryInfo host.bench
    exact ⟨answer, { host with bench := after }, congrArg host.withBench ran, alike⟩
  deviceName _ host := .refl _
  clock host := .refl _
  platformBudget host := .refl _
  allocates _ _ host := .refl _
  log _ _ := ⟨rfl, rfl⟩

end Situated

end VramOvercommit.Simulation
