import VramOvercommit.Abi.Request
import VramOvercommit.Proofs.Likeness

set_option autoImplicit false

/-!
Two runs of one request, in processes that cannot be told apart while the context is in use. The
place of the context may matter to the hosts, as others can ask for the context meanwhile, so the
processes are related once for each thing that can stand there.
-/

namespace VramOvercommit.Abi

open Attempt (lift)

/-- What others find in the place of the context while the host works for a request. -/
def Request.meanwhile : Request → Access
  | .cleanup | .uninstall => .free none
  | _ => .held

/-- A relation between processes with the same in the place of the context. Their hosts answer alike
as long as `meanwhile` stands there. -/
structure AccessLikeness (σ τ : Type) [AccessHost σ] [AccessHost τ] (meanwhile : Access) where
  related : Access → σ → τ → Prop
  access : ∀ {access : Access} {first : σ} {second : τ}, related access first second →
    AccessHost.access first = access ∧ AccessHost.access second = access
  setAccess : ∀ {before : Access} (after : Access) {first : σ} {second : τ},
    related before first second →
    related after (AccessHost.setAccess after first) (AccessHost.setAccess after second)
  log : ∀ {access : Access} (notice : Notice) {first : σ} {second : τ},
    related access first second → related access (Host.log notice first) (Host.log notice second)
  limitLog : ∀ {access : Access} (limit : Option Level) {first : σ} {second : τ},
    related access first second →
    related access (Host.limitLog limit first) (Host.limitLog limit second)
  call : ∀ driverCall,
    InStep (related meanwhile) (Host.call driverCall) (Host.call driverCall)
  clock : Agrees (related meanwhile) Host.clock Host.clock
  platformBudget : Agrees (related meanwhile) Host.platformBudget Host.platformBudget
  allocates : ∀ (table : HostTable) (count : Nat),
    Agrees (related meanwhile) (Host.allocates table count) (Host.allocates table count)

namespace AccessLikeness

variable {σ τ α β : Type} [AccessHost σ] [AccessHost τ] {meanwhile : Access}

/-- The hosts as an engine at work finds them. -/
def atWork (likeness : AccessLikeness σ τ meanwhile) : Likeness σ τ where
  alike := likeness.related meanwhile
  call := likeness.call
  log notice _ _ := likeness.log notice
  clock := likeness.clock
  platformBudget := likeness.platformBudget
  allocates := likeness.allocates

/-- The processes after a request: with the same context, free to be used, or with none if the
request takes it out. -/
def Returned (likeness : AccessLikeness σ τ meanwhile) (first : σ) (second : τ) : Prop :=
  ∃ engine : Option Engine, (engine.isSome ↔ meanwhile = .held) ∧
    likeness.related (.free engine) first second

/-- Two steps that end in the same way, with the same context. -/
abbrev Answers (likeness : AccessLikeness σ τ meanwhile) (first : σ) (second : τ)
    (step : HostM σ α) (other : HostM τ α) : Prop :=
  SameEnd likeness.Returned (step first) (other second)

variable {likeness : AccessLikeness σ τ meanwhile} {first : σ} {second : τ}

theorem Returned.done (returned : likeness.Returned first second) (value : α) :
    likeness.Answers first second (pure value) (pure value) :=
  .ok returned

theorem Returned.log (returned : likeness.Returned first second) (notice : Notice) :
    likeness.Answers first second (HostM.log notice) (HostM.log notice) := by
  obtain ⟨engine, kept, related⟩ := returned
  exact .ok ⟨engine, kept, likeness.log notice related⟩

theorem Answers.bind {step : HostM σ α} {other : HostM τ α} {next : α → HostM σ β}
    {otherNext : α → HostM τ β} (answers : likeness.Answers first second step other)
    (others : ∀ value {first : σ} {second : τ}, likeness.Returned first second →
      likeness.Answers first second (next value) (otherNext value)) :
    likeness.Answers first second (step >>= next) (other >>= otherNext) :=
  SameEnd.bind answers others id

/-! ## Requests that use the context -/

section Uses

variable {likeness : AccessLikeness σ τ .held} {engine : Engine} {reply : Reply}
  (related : likeness.related (.free (some engine)) first second)

include related

theorem returned : likeness.Returned first second :=
  ⟨some engine, by simp, related⟩

theorem use_alike {operation : Attempt σ α} {other : Attempt τ α}
    (keeps : likeness.atWork.Keeps operation.run other.run) :
    likeness.Answers first second (Access.use operation) (Access.use other) := by
  obtain ⟨access, otherAccess⟩ := likeness.access related
  unfold Answers
  rw [Access.use_of_free access, Access.use_of_free otherAccess]
  have start : likeness.atWork.contexts ⟨engine, AccessHost.setAccess .held first⟩
      ⟨engine, AccessHost.setAccess .held second⟩ := ⟨rfl, likeness.setAccess .held related⟩
  unfold Access.holding
  obtain ⟨value, _, _, ran, ran', engines, related⟩ | ⟨cause, _, _, ran, ran', engines, related⟩ :=
    (keeps start).exists_ends
  · rw [ran, ran']
    dsimp only
    rw [engines]
    exact .ok (returned (likeness.setAccess _ related))
  · rw [ran, ran']
    dsimp only
    rw [engines]
    exact .error (returned (likeness.setAccess _ related))

theorem call_alike {operation : Attempt σ α} {other : Attempt τ α}
    (keeps : likeness.atWork.Keeps operation.run other.run) (entry : String) :
    likeness.Answers first second (Abi.call entry operation) (Abi.call entry other) := by
  refine (use_alike related keeps).bind fun result _ _ returned => ?_
  cases result with
  | ok value => exact returned.done _
  | error cause => exact (returned.log _).bind fun _ _ _ returned => returned.done _

theorem callDone_alike {operation : Attempt σ Unit} {other : Attempt τ Unit}
    (keeps : likeness.atWork.Keeps operation.run other.run) (entry : String) :
    likeness.Answers first second (callDone entry operation) (callDone entry other) :=
  (call_alike related keeps entry).bind fun _ _ _ returned => returned.done _

theorem callWord_alike {operation : Attempt σ Nat} {other : Attempt τ Nat}
    (keeps : likeness.atWork.Keeps operation.run other.run) (entry : String) :
    likeness.Answers first second (callWord entry operation) (callWord entry other) :=
  (call_alike related keeps entry).bind fun _ _ _ returned => returned.done _

theorem unlessNull_alike {ptr : Nat} {run : HostM σ Reply} {other : HostM τ Reply}
    (answers : likeness.Answers first second run other) :
    likeness.Answers first second (unlessNull ptr reply run) (unlessNull ptr reply other) := by
  unfold unlessNull
  split
  · exact (returned related).done _
  · exact answers

omit related in
theorem handle_alike (raw : Nat) : likeness.atWork.Keeps (handle raw).run (handle raw).run := by
  unfold handle
  split <;> exact .pure _

theorem fault_alike (vbar offset size : Nat) (hasSignature : Bool) :
    likeness.Answers first second (fault vbar offset size hasSignature)
      (fault vbar offset size hasSignature) := by
  unfold fault
  split
  · refine (use_alike related ((handle_alike vbar).run_bind fun handle =>
      Vbars.fault_alike handle offset size)).bind fun result _ _ returned => ?_
    cases result with
    | ok serials => exact returned.done _
    | error cause =>
      cases cause with
      | outOfMemory => exact returned.done _
      | _ => exact (returned.log _).bind fun _ _ _ returned => returned.done _
  · exact ((returned related).log _).bind fun _ _ _ returned => returned.done _

/-- A request that uses the context is answered in the same way in both processes. -/
theorem run_alike {request : Request} (uses : request.meanwhile = .held) :
    likeness.Answers first second request.run request.run := by
  cases request with
  | init device => exact ((returned related).log _).bind fun _ _ _ returned => returned.done _
  | cleanup => cases uses
  | uninstall => cases uses
  | analyze => exact callDone_alike related (Engine.analyze_alike.bind fun _ => .pure _).run_lift _
  | totalUsage =>
    exact callWord_alike related (InStep.engine.bind fun _ => .pure _).run_lift _
  | setLogLevel setting => exact .ok (returned (likeness.limitLog setting.limit related))
  | allocate size device => exact callWord_alike related (Buffers.allocate_alike size device) _
  | free ptr =>
    exact unlessNull_alike related (callDone_alike related (Buffers.free_alike ptr).run_lift _)
  | createBuffer device maxSize =>
    exact callWord_alike related (Buffers.create_alike device maxSize) _
  | growBuffer ptr size =>
    exact unlessNull_alike related ((call_alike related (Buffers.grow_alike ptr size) _).bind
      fun _ _ _ returned => returned.done _)
  | bufferBase ptr =>
    exact unlessNull_alike related
      (callWord_alike related ((InStep.run_buffer ptr).run_bind fun _ => .pure _) _)
  | destroyBuffer ptr =>
    exact unlessNull_alike related (callDone_alike related (Buffers.destroy_alike ptr) _)
  | allocateVbar size device =>
    exact callWord_alike related ((Vbars.allocate_alike size device).run_bind fun _ => .pure _) _
  | vbarBase vbar =>
    exact callWord_alike related ((handle_alike vbar).run_bind fun handle =>
      (InStep.run_vbar handle).run_bind fun _ => .pure _) _
  | prioritize vbar =>
    exact callDone_alike related ((handle_alike vbar).run_bind Vbars.prioritize_alike) _
  | deprioritize vbar =>
    exact callDone_alike related ((handle_alike vbar).run_bind Vbars.deprioritize_alike) _
  | setWatermarkLimit vbar size =>
    exact callDone_alike related ((handle_alike vbar).run_bind fun handle =>
      Vbars.setWatermarkLimit_alike handle size) _
  | resetWatermarkLimits =>
    exact callDone_alike related Vbars.resetWatermarkLimits_alike.run_lift _
  | fault vbar offset size hasSignature => exact fault_alike related vbar offset size hasSignature
  | unpin vbar offset size =>
    exact callDone_alike related ((handle_alike vbar).run_bind fun handle =>
      Vbars.unpin_alike handle offset size) _
  | freeVbar vbar =>
    exact callDone_alike related ((handle_alike vbar).run_bind Vbars.free_alike) _
  | loadedSize vbar =>
    exact callWord_alike related ((handle_alike vbar).run_bind fun handle =>
      (InStep.run_vbar handle).run_bind fun _ => InStep.pageSize.lift_bind fun _ => .pure _) _
  | freeVbarMemory vbar size =>
    exact callWord_alike related ((handle_alike vbar).run_bind fun handle =>
      Eviction.shrinkVbar_alike handle size) _
  | evictGlobal size =>
    exact (call_alike related (Eviction.evictGlobal_alike size).run_lift _).bind
      fun _ _ _ returned => (returned.log _).bind fun _ _ _ returned => returned.done _

end Uses

/-! ## Requests that take the context out -/

section Removals

variable {likeness : AccessLikeness σ τ (.free none)} {engine : Engine}

theorem close_alike (related : likeness.related (.free none) first second) :
    likeness.Answers first second (close engine) (close engine) := by
  have vacant : ∀ {first : σ} {second : τ}, likeness.related (.free none) first second →
      likeness.Returned first second := fun related => ⟨none, by simp, related⟩
  have closes : likeness.atWork.Keeps Engine.close Engine.close := Engine.close_alike
  exact SameEnd.bind (Engine.run_alike closes engine related) (fun _ _ _ related =>
    .ok (vacant related)) vacant

/-- A request that takes the context out is answered in the same way in both processes. -/
theorem removal_alike {request : Request} (removes : request.meanwhile = .free none)
    (related : likeness.related (.free (some engine)) first second) :
    likeness.Answers first second request.run request.run := by
  have vacated := likeness.setAccess (.free none) related
  have goes_on : ∀ {ρ : Type} [AccessHost ρ] {host : ρ}
      (next : Except Error (Option Engine) → HostM ρ Reply),
      AccessHost.access host = .free (some engine) → (Access.uninstall >>= next) host =
        next (.ok (some engine)) (AccessHost.setAccess (.free none) host) := by
    intro ρ _ host next access
    change EStateM.bind Access.uninstall next host = _
    unfold EStateM.bind
    rw [Access.uninstall_of_free access]
  obtain ⟨access, otherAccess⟩ := likeness.access related
  cases request with
  | cleanup =>
    change SameEnd _ ((Access.uninstall >>= _) first) ((Access.uninstall >>= _) second)
    rw [goes_on _ access, goes_on _ otherAccess]
    exact (close_alike (likeness.log (.cleanupStarted engine.device) vacated)).bind
      fun _ _ _ returned => returned.done Reply.done
  | uninstall =>
    change SameEnd _ ((Access.uninstall >>= _) first) ((Access.uninstall >>= _) second)
    rw [goes_on _ access, goes_on _ otherAccess]
    exact (close_alike vacated).bind fun _ _ _ returned => returned.done _
  | _ => cases removes

end Removals

end AccessLikeness

end VramOvercommit.Abi
