import VramOvercommit.Abi.Request

set_option autoImplicit false

/-!
Requests that find no context to use, as another call holds it or as there is none. Each of them
fails in its own way, and does nothing else than to say so.
-/

namespace VramOvercommit.Abi

/-- There is no context that a call could use: it is held, or there is none. -/
def Unavailable (access : Access) : Prop := ∀ engine, access ≠ .free (some engine)

/-- The reply of a call that finds no context to use. Only the one that asks for the context itself
tells why. -/
def Request.failure (access : Access) : Request → Reply
  | .init _ | .growBuffer _ _ => .flag false
  | .uninstall => if access = .held then .refused .busy else .removed none
  | .totalUsage | .allocate _ _ | .createBuffer _ _ | .bufferBase _ | .allocateVbar _ _
  | .vbarBase _ | .loadedSize _ | .freeVbarMemory _ _ | .evictGlobal _ => .word 0
  | .fault _ _ _ _ => .fault .error []
  | _ => .done

/-- What a call may do to a process that has no context for it. -/
structure Aside (σ : Type) [AccessHost σ] where
  leads : σ → σ → Prop
  refl : ∀ host, leads host host
  trans : ∀ {first second third : σ}, leads first second → leads second third → leads first third
  log : ∀ (notice : Notice) (host : σ), leads host (Host.log notice host)
  limitLog : ∀ (limit : Option Level) (host : σ), leads host (Host.limitLog limit host)
  /-- Taking out the context where there is none. -/
  vacate : ∀ {host : σ}, AccessHost.access host = .free none →
    leads host (AccessHost.setAccess (.free none) host)

/-- The step has this value and does nothing but what it may do without a context. -/
def Declines {σ α : Type} [AccessHost σ] (aside : Aside σ) (host : σ) (step : HostM σ α)
    (value : α) : Prop :=
  ∃ after, step host = .ok value after ∧ aside.leads host after

section Unavailable

variable {σ α β : Type} [AccessHost σ] {aside : Aside σ} {host : σ}

theorem Declines.pure (value : α) : Declines aside host (Pure.pure value : HostM σ α) value :=
  ⟨host, rfl, aside.refl host⟩

theorem Declines.log (notice : Notice) : Declines aside host (HostM.log notice : HostM σ Unit) () :=
  ⟨_, rfl, aside.log notice host⟩

theorem Declines.bind {step : HostM σ α} {next : α → HostM σ β} {value : α} {result : β}
    (first : Declines aside host step value)
    (others : ∀ after, Declines aside after (next value) result) :
    Declines aside host (step >>= next) result := by
  obtain ⟨middle, ran, leads⟩ := first
  obtain ⟨after, ran', leads'⟩ := others middle
  refine ⟨after, ?_, aside.trans leads leads'⟩
  change EStateM.bind step next host = _
  unfold EStateM.bind
  rw [ran]
  exact ran'

variable (unavailable : Unavailable (AccessHost.access host))

include unavailable

/-- The operation is not run at all. -/
theorem use_declines (operation : Attempt σ α) :
    ∃ cause, cause ≠ .outOfMemory ∧ Declines aside host (Access.use operation) (.error cause) := by
  cases found : AccessHost.access host with
  | held => exact ⟨.busy, nofun, host, Access.use_of_held found, aside.refl host⟩
  | free engine =>
    cases engine with
    | none => exact ⟨.notInitialized, nofun, host, Access.use_of_vacant found, aside.refl host⟩
    | some engine => exact absurd found (unavailable engine)

theorem call_declines (entry : String) (operation : Attempt σ α) :
    Declines aside host (call entry operation) none := by
  obtain ⟨cause, -, declines⟩ := use_declines unavailable operation
  exact declines.bind fun _ => (Declines.log _).bind fun _ => .pure _

theorem callDone_declines (entry : String) (operation : Attempt σ Unit) :
    Declines aside host (callDone entry operation) .done :=
  (call_declines unavailable entry operation).bind fun _ => .pure _

theorem callWord_declines (entry : String) (operation : Attempt σ Nat) :
    Declines aside host (callWord entry operation) (.word 0) :=
  (call_declines unavailable entry operation).bind fun _ => .pure _

theorem uninstall_declines :
    AccessHost.access host = .held ∧ Declines aside host Access.uninstall (.error .busy) ∨
      AccessHost.access host = .free none ∧ Declines aside host Access.uninstall (.ok none) := by
  cases found : AccessHost.access host with
  | held => exact .inl ⟨rfl, host, Access.uninstall_of_held found, aside.refl host⟩
  | free engine =>
    cases engine with
    | none => exact .inr ⟨rfl, _, Access.uninstall_of_free found, aside.vacate found⟩
    | some engine => exact absurd found (unavailable engine)

omit unavailable in
/-- A null pointer is answered in the way of a failure. -/
theorem unlessNull_declines {ptr : Nat} {reply : Reply} {run : HostM σ Reply}
    (declines : Declines aside host run reply) :
    Declines aside host (unlessNull ptr reply run) reply := by
  unfold unlessNull
  split
  · exact .pure _
  · exact declines

theorem fault_declines (vbar offset size : Nat) (hasSignature : Bool) :
    Declines aside host (fault vbar offset size hasSignature) (.fault .error []) := by
  unfold fault
  split
  · obtain ⟨cause, enough, declines⟩ := use_declines unavailable (do
      Vbars.fault (← handle vbar) offset size)
    refine declines.bind fun _ => ?_
    cases cause with
    | outOfMemory => exact absurd rfl enough
    | _ => exact (Declines.log _).bind fun _ => .pure _
  · exact (Declines.log _).bind fun _ => .pure _

/-- Without a context every call fails. -/
theorem Request.run_declines (request : Request) :
    Declines aside host request.run (request.failure (AccessHost.access host)) := by
  cases request with
  | init device => exact (Declines.log _).bind fun _ => .pure _
  | cleanup =>
    obtain ⟨-, declines⟩ | ⟨-, declines⟩ := uninstall_declines unavailable
    · exact declines.bind fun _ => (Declines.log _).bind fun _ => .pure _
    · exact declines.bind fun _ => (Declines.log _).bind fun _ => .pure _
  | uninstall =>
    unfold failure
    obtain ⟨held, declines⟩ | ⟨vacant, declines⟩ := uninstall_declines unavailable
    · rw [held]
      exact declines.bind fun _ => .pure _
    · rw [vacant]
      exact declines.bind fun _ => .pure _
  | setLogLevel setting => exact ⟨_, rfl, aside.limitLog setting.limit host⟩
  | free ptr | destroyBuffer ptr => exact unlessNull_declines (callDone_declines unavailable _ _)
  | growBuffer ptr size =>
    exact unlessNull_declines ((call_declines unavailable _ _).bind fun _ => .pure _)
  | bufferBase ptr => exact unlessNull_declines (callWord_declines unavailable _ _)
  | fault vbar offset size hasSignature => exact fault_declines unavailable vbar offset size _
  | evictGlobal size =>
    exact (call_declines unavailable _ _).bind fun _ => (Declines.log _).bind fun _ => .pure _
  | totalUsage | allocate _ _ | createBuffer _ _ | allocateVbar _ _ | vbarBase _ | loadedSize _
  | freeVbarMemory _ _ => exact callWord_declines unavailable _ _
  | analyze | prioritize _ | deprioritize _ | setWatermarkLimit _ _ | resetWatermarkLimits
  | unpin _ _ _ | freeVbar _ => exact callDone_declines unavailable _ _

end Unavailable

end VramOvercommit.Abi
