import VramOvercommit.Engine.Operation

set_option autoImplicit false

/-!
The place where a process keeps its one context. Callers are expected to take turns; a call that
finds the context in use fails instead of waiting.
-/

namespace VramOvercommit

inductive Access where
  /-- Nobody uses the context, if there is one. -/
  | free (engine : Option Engine)
  /-- A call is using the context. -/
  | held
  deriving DecidableEq

/-- A host that keeps the context of the process. -/
class AccessHost (σ : Type) extends Host σ where
  access : σ → Access
  setAccess : Access → σ → σ

namespace Access

variable {σ : Type} [AccessHost σ]

def put (access : Access) : HostM σ Unit := fun host => .ok () (AccessHost.setAccess access host)

/-- Runs an operation while the context is held, and frees it again however the operation ends. -/
def holding {α : Type} (engine : Engine) (operation : Attempt σ α) :
    HostM σ (Except Error α) := fun host =>
  match operation.run ⟨engine, AccessHost.setAccess .held host⟩ with
  | .ok result context =>
      .ok result (AccessHost.setAccess (.free (some context.engine)) context.host)
  | .error cause context =>
      .error cause (AccessHost.setAccess (.free (some context.engine)) context.host)

/-- Runs an operation on the context of the process. -/
def use {α : Type} (operation : Attempt σ α) : HostM σ (Except Error α) := do
  match AccessHost.access (← get) with
  | .held => return .error .busy
  | .free none => return .error .notInitialized
  | .free (some engine) => holding engine operation

/-- Makes an engine the context of the process, unless there is one. -/
def install (engine : Engine) : HostM σ (Except Error Unit) := do
  match AccessHost.access (← get) with
  | .held => return .error .busy
  | .free (some _) => return .error .alreadyInitialized
  | .free none =>
      put (.free (some engine))
      return .ok ()

/-- Takes the context of the process out, so that it can be closed while nobody holds it. -/
def uninstall : HostM σ (Except Error (Option Engine)) := do
  match AccessHost.access (← get) with
  | .held => return .error .busy
  | .free engine =>
      put (.free none)
      return .ok engine

/-! ## What a call finds -/

section Finds

variable {α : Type} {operation : Attempt σ α} {host : σ}

private theorem use_eq : use operation host = (match AccessHost.access host with
    | .held => (return .error .busy : HostM σ (Except Error α))
    | .free none => return .error .notInitialized
    | .free (some engine) => holding engine operation) host := rfl

theorem use_of_held (found : AccessHost.access host = .held) :
    use operation host = .ok (.error .busy) host := by
  rw [use_eq, found]
  rfl

theorem use_of_vacant (found : AccessHost.access host = .free none) :
    use operation host = .ok (.error .notInitialized) host := by
  rw [use_eq, found]
  rfl

theorem use_of_free {engine : Engine} (found : AccessHost.access host = .free (some engine)) :
    use operation host = holding engine operation host := by
  rw [use_eq, found]

private theorem uninstall_eq : uninstall host = (match AccessHost.access host with
    | .held => (return .error .busy : HostM σ (Except Error (Option Engine)))
    | .free engine => do
        put (.free none)
        return .ok engine) host := rfl

theorem uninstall_of_held (found : AccessHost.access host = .held) :
    uninstall host = .ok (.error .busy) host := by
  rw [uninstall_eq, found]
  rfl

theorem uninstall_of_free {engine : Option Engine} (found : AccessHost.access host = .free engine) :
    uninstall host = .ok (.ok engine) (AccessHost.setAccess (.free none) host) := by
  rw [uninstall_eq, found]
  rfl

end Finds

end Access

end VramOvercommit
