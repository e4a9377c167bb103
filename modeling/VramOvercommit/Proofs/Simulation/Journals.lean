import VramOvercommit.Proofs.Likeness
import VramOvercommit.Simulation.Bench

set_option autoImplicit false

/-!
Hosts that differ in their journals. Notices are for people to read: no host answers differently
because of what was written, or because of how much of it was kept.
-/

namespace VramOvercommit

open Simulation (Bench Traced)

/-- A relation between hosts that differ in their journals only: no notice and no limit of notices
changes what the host answers. -/
structure Journaled (σ : Type) [Host σ] where
  alike : σ → σ → Prop
  equivalence : Equivalence alike
  log : ∀ (notice : Notice) (host : σ), alike host (Host.log notice host)
  limitLog : ∀ (limit : Option Level) (host : σ), alike host (Host.limitLog limit host)
  call : ∀ driverCall, InStep alike (Host.call driverCall) (Host.call driverCall)
  clock : Agrees alike Host.clock Host.clock
  platformBudget : Agrees alike Host.platformBudget Host.platformBudget
  allocates : ∀ (table : HostTable) (count : Nat),
    Agrees alike (Host.allocates table count) (Host.allocates table count)

namespace Journaled

variable {σ : Type} [Host σ]

/-- What changes a journal only may be done to each of two hosts. -/
theorem both (journaled : Journaled σ) {change : σ → σ} {first second : σ}
    (only : ∀ host, journaled.alike host (change host)) (alike : journaled.alike first second) :
    journaled.alike (change first) (change second) :=
  journaled.equivalence.trans (journaled.equivalence.symm (only first))
    (journaled.equivalence.trans alike (only second))

/-- A record of calls is no journal: it has to be the same. -/
def traced (journaled : Journaled σ) : Journaled (Traced σ) where
  alike first second := journaled.alike first.host second.host ∧ second.events = first.events
  equivalence :=
    ⟨fun _ => ⟨journaled.equivalence.refl _, rfl⟩,
      fun same => ⟨journaled.equivalence.symm same.1, same.2.symm⟩,
      fun one other => ⟨journaled.equivalence.trans one.1 other.1, other.2.trans one.2⟩⟩
  log notice traced := ⟨journaled.log notice traced.host, rfl⟩
  limitLog limit traced := ⟨journaled.limitLog limit traced.host, rfl⟩
  call driverCall := by
    rintro ⟨first, events⟩ ⟨second, _⟩ ⟨alike, rfl⟩
    simp only [Host.call]
    obtain ⟨answer, _, _, ran, ran', alike⟩ | ⟨overflow, _, _, ran, ran', alike⟩ :=
      (journaled.call driverCall alike).exists_ends
    · rw [ran, ran']
      exact .ok ⟨alike, rfl⟩
    · rw [ran, ran']
      exact .error ⟨alike, rfl⟩
  clock := by
    rintro ⟨first, events⟩ ⟨second, _⟩ ⟨alike, rfl⟩
    obtain ⟨answer, alike⟩ := journaled.clock alike
    exact ⟨answer, alike, rfl⟩
  platformBudget := by
    rintro ⟨first, events⟩ ⟨second, _⟩ ⟨alike, rfl⟩
    obtain ⟨answer, alike⟩ := journaled.platformBudget alike
    exact ⟨answer, alike, rfl⟩
  allocates table count := by
    rintro ⟨first, events⟩ ⟨second, _⟩ ⟨alike, rfl⟩
    obtain ⟨answer, alike⟩ := journaled.allocates table count alike
    exact ⟨answer, alike, rfl⟩

end Journaled

namespace Simulation.Bench

theorem announce_journal (bench : Bench) (c : DriverCall) (answer : Except DriverError c.Answer) :
    ∃ journal, bench.announce c answer = { bench with journal } := by
  unfold announce
  split
  · exact ⟨_, rfl⟩
  · exact ⟨bench.journal, rfl⟩

/-- Benches that differ in their journals only. -/
def journaled : Journaled Bench where
  alike first second := ∃ journal, second = { first with journal }
  equivalence := by
    refine ⟨fun bench => ⟨bench.journal, rfl⟩, ?_, ?_⟩
    · rintro first _ ⟨journal, rfl⟩
      exact ⟨first.journal, rfl⟩
    · rintro first _ _ ⟨_, rfl⟩ ⟨journal, rfl⟩
      exact ⟨journal, rfl⟩
  log _ _ := ⟨_, rfl⟩
  limitLog _ _ := ⟨_, rfl⟩
  call c := by
    rintro first _ ⟨journal, rfl⟩
    simp only [Host.call, Bench.call]
    obtain ⟨cause, failures⟩ := Failure.take c.kind first.failures
    cases cause with
    | some cause => exact .ok ⟨journal, rfl⟩
    | none =>
      dsimp only
      cases Device.call c first.device with
      | error overflow device => exact .error ⟨journal, rfl⟩
      | ok answer device =>
        obtain ⟨one, announced⟩ := announce_journal { first with failures, device } c answer
        obtain ⟨other, announced'⟩ :=
          announce_journal { first with failures, device, journal } c answer
        dsimp only
        rw [announced, announced']
        exact .ok ⟨other, rfl⟩
  clock := by
    rintro first _ ⟨journal, rfl⟩
    exact ⟨rfl, journal, rfl⟩
  platformBudget := by
    rintro ⟨device, failures, tellsName, platform, polls, kept⟩ _ ⟨journal, rfl⟩
    cases platform with
    | none => exact ⟨rfl, journal, rfl⟩
    | some reading => exact ⟨rfl, journal, rfl⟩
  allocates _ _ := by
    rintro first _ ⟨journal, rfl⟩
    exact ⟨rfl, journal, rfl⟩

end Simulation.Bench

end VramOvercommit
