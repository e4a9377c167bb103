import VramOvercommit.Proofs.Actions

set_option autoImplicit false

/-!
The commits that a host has on record. A commit is complete once access to its range is granted, so
the grants of a range count its commits. Reclaiming memory grants nothing.
-/

namespace VramOvercommit

open EngineM

/-- Whether a call is one that grants access to a range. -/
def DriverCall.grants (vaddr size : Nat) :
    (call : DriverCall) → Except DriverError call.Answer → Bool
  | setAccess vaddr' size' _, .ok _ => vaddr' = vaddr && size' = size
  | _, _ => false

/-- A host that counts the grants of the ranges of one size. -/
structure Tally (σ : Type) [Host σ] (size : Nat) where
  count : σ → (vaddr : Nat) → Nat
  call : ∀ {driverCall : DriverCall} {host after : σ}
    {answer : Except DriverError driverCall.Answer},
    Host.call driverCall host = .ok answer after → ∀ vaddr : Nat,
      count after vaddr = count host vaddr + if driverCall.grants vaddr size answer then 1 else 0
  log : ∀ (notice : Notice) (host : σ), count (Host.log notice host) = count host
  clock : ∀ host : σ, count ((Host.clock : StateM σ Nat) host).2 = count host
  platformBudget : ∀ host : σ,
    count ((Host.platformBudget : StateM σ (Option PlatformBudget)) host).2 = count host
  allocates : ∀ (table : HostTable) (amount : Nat) (host : σ),
    count (Host.allocates table amount host).2 = count host

variable {σ : Type} [Host σ] {size : Nat}

/-- Between two states access was granted at these addresses, and nowhere else. -/
def Granted (size : Nat) (addresses : List Nat) (before after : σ) : Prop :=
  ∀ (tally : Tally σ size) (vaddr : Nat),
    tally.count after vaddr = tally.count before vaddr + addresses.count vaddr

theorem Granted.refl (host : σ) : Granted size [] host host := fun _ _ => rfl

theorem Granted.log (notice : Notice) (host : σ) :
    Granted size [] host (Host.log notice host) := by
  intro tally vaddr
  rw [tally.log]
  rfl

theorem Granted.allocates (table : HostTable) (amount : Nat) (host : σ) :
    Granted size [] host (Host.allocates table amount host).2 := by
  intro tally vaddr
  rw [tally.allocates]
  rfl

theorem Granted.room (table : HostTable) (amount : Nat) (host : σ) :
    Granted size [] host (Host.room table amount host).2 := by
  rcases Host.room_cases table amount host with same | asked
  · rw [same]
    exact .refl host
  · rw [asked]
    exact .allocates table amount host

theorem Granted.trans {first second : List Nat} {before middle after : σ}
    (one : Granted size first before middle) (other : Granted size second middle after) :
    Granted size (first ++ second) before after := by
  intro tally vaddr
  rw [other tally vaddr, one tally vaddr, List.count_append, Nat.add_assoc]

theorem Granted.before_silent {addresses : List Nat} {before middle after : σ}
    (one : Granted size addresses before middle) (other : Granted size [] middle after) :
    Granted size addresses before after := by
  have both := one.trans other
  rwa [List.append_nil] at both

/-- Any call but one that grants access leaves the counts alone. -/
theorem ensures_call_silent {driverCall : DriverCall} {host : σ}
    (silent : ∀ vaddr size answer, driverCall.grants vaddr size answer = false) :
    Ensures (fun _ => True) (Host.call driverCall) host
      (fun _ after => ∀ size, Granted size [] host after) := by
  unfold Ensures
  split
  · rename_i answer after called
    intro size tally vaddr
    rw [tally.call called, silent, if_neg Bool.false_ne_true]
    rfl
  · trivial

/-- Access is on record if it was granted. -/
theorem ensures_setAccess_granted {vaddr : Nat} {device : Int} {host : σ} :
    Ensures (fun _ => True) (Host.call (.setAccess vaddr size device)) host
      (fun answer after =>
        Granted size (match answer with | .ok _ => [vaddr] | .error _ => []) host after) := by
  unfold Ensures
  split
  · rename_i answer after called
    intro tally vaddr'
    rw [tally.call called]
    cases answer with
    | error cause => rfl
    | ok _ =>
      rw [List.count_singleton]
      simp [DriverCall.grants]
  · trivial

/-! ## Silent steps -/

/-- The step grants no access, wherever it ends. -/
def Silent {α : Type} (step : EngineM σ α) : Prop :=
  ∀ context : Context σ, Ensures (fun _ => True) step context
    (fun _ after => ∀ size, Granted size [] context.host after.host)

omit [Host σ] in
theorem DriverCall.grants_eq_false {driverCall : DriverCall} (other : driverCall.kind ≠ .setAccess)
    (vaddr size : Nat) (answer : Except DriverError driverCall.Answer) :
    driverCall.grants vaddr size answer = false := by
  cases driverCall with
  | setAccess vaddr size device => exact absurd rfl other
  | _ => rfl

/-- A step that asks for no access grants none. -/
theorem Silent.of_only {α : Type} {kinds : List ActionKind} {step : EngineM σ α}
    (only : Only kinds step) (denied : .call .setAccess ∉ kinds) : Silent step := by
  intro context
  apply (only context).ensures.mono
  intro _ after actions size
  induction actions with
  | refl => exact .refl _
  | tail _ action ih =>
    refine ih.before_silent ?_
    cases action with
    | log notice => exact .log notice _
    | clock => exact fun tally vaddr => congrFun (tally.clock _) vaddr
    | platformBudget => exact fun tally vaddr => congrFun (tally.platformBudget _) vaddr
    | allocates table amount => exact .allocates table amount _
    | @call driverCall answer host allowed answered =>
      have other : driverCall.kind ≠ .setAccess := fun same => denied (same ▸ allowed)
      exact (ensures_call_silent (DriverCall.grants_eq_false other)).of_ok answered size
    | _ => exact .refl _

namespace Memory

theorem giveBack_silent (memory : PhysicalHandle) : Silent (giveBack memory : EngineM σ Unit) :=
  .of_only (giveBack_only (List.mem_singleton_self _) memory) (by decide)

/-- A commit that succeeds is on record, and one that fails is not. -/
theorem commit_granted (vaddr : Nat) (device : Int) (context : Context σ) :
    Ensures (fun _ => True) (commit vaddr size device) context (fun result after =>
      Granted size (match result with | .ok _ => [vaddr] | .error _ => []) context.host
        after.host) := by
  unfold commit
  rw [ensures_bind, ensures_call]
  apply (ensures_call_silent fun _ _ _ => rfl).mono
  intro answer first created
  cases answer with
  | error cause => exact created size
  | ok memory =>
    dsimp only
    rw [ensures_bind, ensures_call]
    apply (ensures_call_silent fun _ _ _ => rfl).mono
    intro answer second mapped
    have sofar := (created size).trans (mapped size)
    have undone : ∀ {between : Context σ} {cause : DriverError},
        Granted size [] context.host between.host →
        Ensures (fun _ => True) (do
            giveBack memory
            return .error cause : EngineM σ (Except DriverError PhysicalHandle)) between
          (fun result after => Granted size
            (match result with | .ok _ => [vaddr] | .error _ => []) context.host after.host) := by
      intro between cause granted
      rw [ensures_bind]
      apply (giveBack_silent memory between).mono
      intro _ after given
      exact granted.trans (given size)
    cases answer with
    | error cause => exact undone sofar
    | ok _ =>
      dsimp only
      rw [ensures_bind, ensures_call]
      apply ensures_setAccess_granted.mono
      intro answer third granted
      have sofar := sofar.trans granted
      cases answer with
      | error cause =>
        dsimp only
        rw [ensures_bind, ensures_call]
        apply (ensures_call_silent fun _ _ _ => rfl).mono
        intro answer fourth unmapped
        have sofar := sofar.trans (unmapped size)
        cases answer with
        | ok _ => exact undone sofar
        | error cause =>
          dsimp only
          rw [ensures_bind, ensures_log]
          exact undone (sofar.trans (.log _ _))
      | ok _ =>
        have recorded : Silent (recordCommit size : EngineM σ Unit) :=
          .of_only (recordCommit_only size : Only [] _) (by decide)
        dsimp only
        rw [ensures_bind]
        apply (recorded _).mono
        intro _ fourth same
        rw [ensures_bind, ensures_log, ensures_pure]
        exact (sofar.before_silent (same size)).before_silent (.log _ _)

end Memory

namespace Eviction

theorem evictForVbar_silent (handle : Handle) (target : Nat) :
    Silent (evictForVbar handle target : EngineM σ Unit) :=
  have admits : (acting (reclaiming ++ ActionKind.bookkeeping) : Passage σ).Admits :=
    admits_acting (by decide) (by decide)
  .of_only (evictForVbar_passes admits handle target) (by decide)

end Eviction

end VramOvercommit
