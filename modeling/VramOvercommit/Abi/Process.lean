import VramOvercommit.Abi.Request

set_option autoImplicit false

/-!
A process with its context and the host of the context, and actions that come in from inside a
driver call. Such an action finds the context held, or taken out while it is being closed.
-/

namespace VramOvercommit.Abi

structure Process (σ : Type) where
  /-- The host in use or, while none is, the host of the context or of the last one. -/
  host : σ
  access : Access := .free none
  /-- The host of a context that was installed while a call still works on the former host. -/
  next : Option σ := none

/-- What can be asked of a process. -/
inductive Action (σ : Type) where
  | request (request : Request)
  /-- Opens a device on a host of its own and makes its engine the context of the process. -/
  | install (host : σ) (device : Int) (config : Config)

/-- An action that runs inside the next driver call of a kind. -/
structure Interruption (σ : Type) where
  /-- Tells the replies apart. -/
  label : Nat
  kind : CallKind
  action : Action σ

/-- A process whose driver calls can be interrupted. -/
structure Reentrant (σ : Type) where
  process : Process σ
  pending : List (Interruption σ) := []
  /-- The replies to the interruptions that ran. -/
  replies : List (Nat × Reply) := []

namespace Process

variable {σ : Type}

instance [Host σ] : AccessHost (Process σ) where
  toHost := Host.within Process.host (fun host process => { process with host })
  access := Process.access
  setAccess access := fun process => { process with access }

variable [SharedHost σ]

/-- Once no call works on the former host, the host of the context takes its place. -/
def settle (process : Process σ) : Process σ :=
  match process.next with
  | some host => { process with host := SharedHost.share process.host host, next := none }
  | none => process

/-- Goes back to a call that works on the former host. -/
def resume (process : Process σ) (former : σ) : Process σ :=
  { process with host := SharedHost.share process.host former, next := some process.host }

/-- Runs a step on a host that is not the one in use, and hands that host back. What the hosts have
in common goes there and comes back. -/
def onOther {α : Type} (host : σ) (step : HostM σ α) : HostM (Process σ) (α × σ) := fun process =>
  match step (SharedHost.share process.host host) with
  | .ok value host => .ok (value, host) { process with host := SharedHost.share host process.host }
  | .error cause host => .error cause { process with host := SharedHost.share host process.host }

/-- Opens a device and makes its engine the context of the process. An engine that finds no place is
closed again. -/
def install (host : σ) (device : Int) (config : Config) : HostM (Process σ) Reply := do
  match ← onOther host (Engine.create device config) with
  | (.error cause, _) => return .refused cause
  | (.ok engine, host) =>
      match ← Access.install engine with
      | .ok () =>
          modify ({ · with next := some host })
          return .done
      | .error cause =>
          let _ ← onOther host (engine.run Engine.close)
          return .refused cause

end Process

namespace Reentrant

variable {σ : Type}

/-- Takes the first interruption that waits for this kind of driver call. -/
def take (kind : CallKind) (state : Reentrant σ) : Option (Interruption σ × Reentrant σ) :=
  (state.pending.find? (fun interruption => interruption.kind == kind)).map fun interruption =>
    (interruption, { state with
      pending := state.pending.eraseP (fun interruption => interruption.kind == kind) })

def answered (state : Reentrant σ) (label : Nat) (reply : Reply) : Reentrant σ :=
  { state with replies := state.replies ++ [(label, reply)] }

/-- A step of the process alone. -/
def onProcess {α : Type} (step : HostM (Process σ) α) : HostM (Reentrant σ) α := fun state =>
  match step state.process with
  | .ok value process => .ok value { state with process }
  | .error cause process => .error cause { state with process }

/-- The host of a process in which `interrupt` runs ahead of every driver call. -/
@[reducible] def hostWith [Host σ] (interrupt : CallKind → HostM (Reentrant σ) Unit) :
    AccessHost (Reentrant σ) where
  toHost :=
    { Host.within Reentrant.process (fun process state => { state with process }) with
      call := fun c state =>
        match interrupt c.kind state with
        | .error _ state => .error ⟨⟩ state
        | .ok () state =>
            match Host.call c state.process with
            | .ok answer process => .ok answer { state with process }
            | .error overflow process => .error overflow { state with process } }
  access state := state.process.access
  setAccess access := fun state => { state with process := { state.process with access } }

variable [SharedHost σ]

/-- Runs an action. Opening a device is a driver call like any other. -/
def act (interrupt : CallKind → HostM (Reentrant σ) Unit) : Action σ → HostM (Reentrant σ) Reply
  | .request request => @Request.run _ (hostWith interrupt) request
  | .install host device config => do
      if config.validate.isOk then interrupt .totalMemory
      onProcess (Process.install host device config)

/-- Runs a step on the host of the context, even while a call works on the former host. -/
def onNext {α : Type} (step : HostM (Reentrant σ) α) : HostM (Reentrant σ) α := fun state =>
  match state.process.next with
  | none => step state
  | some _ =>
      let former := state.process.host
      match step { state with process := state.process.settle } with
      | .ok value state => .ok value { state with process := state.process.settle.resume former }
      | .error cause state => .error cause state

/-- Runs the action that waits for this kind of driver call, if one does. Its own driver calls can be
interrupted in turn, to the given depth. -/
def interrupt : (depth : Nat) → CallKind → HostM (Reentrant σ) Unit
  | 0, _ => return
  | depth + 1, kind => do
      match (← get).take kind with
      | none => return
      | some (interruption, state) =>
          set state
          let reply ← onNext (act (interrupt depth) interruption.action)
          modify (·.answered interruption.label reply)

/-- Every interruption runs once, so there cannot be more of them inside each other than wait. -/
def interruptAny (kind : CallKind) : HostM (Reentrant σ) Unit := do
  interrupt (← get).pending.length kind

instance : AccessHost (Reentrant σ) := hostWith interruptAny

/-- Runs an action from outside. -/
def perform (action : Action σ) : HostM (Reentrant σ) Reply := do
  let reply ← act interruptAny action
  modify fun state => { state with process := state.process.settle }
  return reply

end Reentrant

end VramOvercommit.Abi
