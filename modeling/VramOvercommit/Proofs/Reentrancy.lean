import VramOvercommit.Abi.Process
import VramOvercommit.Proofs.RefusedRequests
import VramOvercommit.Proofs.RequestLikeness
import VramOvercommit.Proofs.Run
import VramOvercommit.Proofs.Simulation.Journals

set_option autoImplicit false

/-!
Calls that come in from inside a driver call of another one. Such a call finds the context held, or
taken out while it is being closed, so it fails and leaves nothing behind but notices. The call it
came in from goes on as if it had not been there.
-/

namespace VramOvercommit.Abi

open Simulation (Bench Traced)

/-! ## Inner calls -/

theorem Request.unavailable_meanwhile (request : Request) : Unavailable request.meanwhile := by
  unfold meanwhile
  split <;> nofun

/-- A request that comes in from inside a driver call. -/
structure InnerCall where
  label : Nat
  request : Request

/-- The reply to an inner call that finds no context. -/
def InnerCall.refusal (access : Access) (inner : InnerCall) : Nat × Reply :=
  (inner.label, inner.request.failure access)

namespace Reentrant

variable {σ : Type} [SharedHost σ]

/-- A call without a context changes no more of a process than the journal of its host. -/
def aside (journaled : Journaled σ) (interrupt : CallKind → HostM (Reentrant σ) Unit) :
    @Aside (Reentrant σ) (hostWith interrupt) :=
  @Aside.mk (Reentrant σ) (hostWith interrupt)
    (fun before after => ∃ host, journaled.alike before.process.host host ∧
      after = { before with process := { before.process with host } })
    (fun state => ⟨state.process.host, journaled.equivalence.refl _, rfl⟩)
    (by
      rintro first _ _ ⟨host, alike, rfl⟩ ⟨other, alike', rfl⟩
      exact ⟨other, journaled.equivalence.trans alike alike', rfl⟩)
    (fun notice state => ⟨_, journaled.log notice state.process.host, rfl⟩)
    (fun limit state => ⟨_, journaled.limitLog limit state.process.host, rfl⟩)
    (by
      rintro ⟨⟨host, access, next⟩, pending, replies⟩ vacant
      have vacant : access = .free none := vacant
      subst vacant
      exact ⟨host, journaled.equivalence.refl _, rfl⟩)

/-- An inner call fails, whatever its own driver calls would lead to, and changes nothing but the
journal of the host. -/
theorem act_refused (journaled : Journaled σ) (interrupt : CallKind → HostM (Reentrant σ) Unit)
    (request : Request) (state : Reentrant σ) (unavailable : Unavailable state.process.access) :
    ∃ host, journaled.alike state.process.host host ∧
      act interrupt (.request request) state = .ok (request.failure state.process.access)
        { state with process := { state.process with host } } := by
  obtain ⟨_, ran, host, alike, rfl⟩ := @Request.run_declines _ (hostWith interrupt)
    (aside journaled interrupt) state unavailable request
  exact ⟨host, alike, ran⟩

/-- Requests that come in one after the other. Their own driver calls are interrupted in turn. -/
def callIn (nested : CallKind → HostM (Reentrant σ) Unit) : List InnerCall →
    HostM (Reentrant σ) Unit
  | [] => return
  | inner :: rest => do
      let reply ← act nested (.request inner.request)
      modify (·.answered inner.label reply)
      callIn nested rest

/-- Requests that come in ahead of driver calls, chosen by all that has happened so far. -/
def callInAt (schedule : CallKind → Reentrant σ → List InnerCall)
    (nested : CallKind → HostM (Reentrant σ) Unit) (kind : CallKind) :
    HostM (Reentrant σ) Unit := do
  callIn nested (schedule kind (← get))

/-- Without a context, what runs ahead of a driver call is nothing but inner calls that are refused.
`waits` tells which calls may have run, and what may be pending then. -/
def Refuses (journaled : Journaled σ) (waits : List InnerCall → List (Interruption σ) → Prop)
    (interrupt : CallKind → HostM (Reentrant σ) Unit) : Prop :=
  ∀ (kind : CallKind) {host : σ} {access : Access} {ran : List InnerCall}
    {pending : List (Interruption σ)} (replies : List (Nat × Reply)), Unavailable access →
    waits ran pending → ∃ (after : σ) (more : List InnerCall) (rest : List (Interruption σ)),
      journaled.alike host after ∧ waits (ran ++ more) rest ∧
      interrupt kind ⟨⟨host, access, none⟩, pending, replies⟩ = .ok ()
        ⟨⟨after, access, none⟩, rest, replies ++ more.map (InnerCall.refusal access)⟩

theorem callIn_refused (journaled : Journaled σ) (nested : CallKind → HostM (Reentrant σ) Unit)
    (inner : List InnerCall) {state : Reentrant σ}
    (unavailable : Unavailable state.process.access) :
    ∃ host, journaled.alike state.process.host host ∧ callIn nested inner state = .ok ()
      ⟨{ state.process with host }, state.pending,
        state.replies ++ inner.map (InnerCall.refusal state.process.access)⟩ := by
  induction inner generalizing state with
  | nil =>
    refine ⟨state.process.host, journaled.equivalence.refl _, ?_⟩
    rw [List.map_nil, List.append_nil]
    rfl
  | cons first rest ih =>
    obtain ⟨host, alike, refused⟩ := act_refused journaled nested first.request state unavailable
    let middle : Reentrant σ := ⟨{ state.process with host }, state.pending,
      state.replies ++ [first.refusal state.process.access]⟩
    have goes_on : callIn nested (first :: rest) state = callIn nested rest middle := by
      change EStateM.bind (act nested (.request first.request)) _ state = _
      unfold EStateM.bind
      rw [refused]
      rfl
    have still : Unavailable middle.process.access := unavailable
    obtain ⟨after, alike', ran⟩ := ih still
    refine ⟨after, journaled.equivalence.trans alike alike', goes_on.trans (ran.trans ?_)⟩
    rw [List.map_cons, List.append_cons]

theorem callInAt_refuses (journaled : Journaled σ)
    (schedule : CallKind → Reentrant σ → List InnerCall)
    (nested : CallKind → HostM (Reentrant σ) Unit) :
    Refuses journaled (fun ran _ => ∀ call ∈ ran, ∃ kind state, call ∈ schedule kind state)
      (callInAt schedule nested) := by
  intro kind host access ran pending replies unavailable chosen
  let state : Reentrant σ := ⟨⟨host, access, none⟩, pending, replies⟩
  have still : Unavailable state.process.access := unavailable
  obtain ⟨after, alike, runs⟩ := callIn_refused journaled nested (schedule kind state) still
  refine ⟨after, schedule kind state, pending, alike, fun call among => ?_, runs⟩
  rcases List.mem_append.mp among with before | now
  · exact chosen call before
  · exact ⟨kind, state, now⟩

/-! ## Interrupted and alone -/

/-- A process that is left alone next to one with inner calls. Those that ran were refused. -/
inductive Twins (journaled : Journaled σ) (waits : List InnerCall → List (Interruption σ) → Prop)
    (before : List (Nat × Reply)) (meanwhile access : Access) :
    Process σ → Reentrant σ → Prop where
  | mk {first second : σ} {ran : List InnerCall} {pending : List (Interruption σ)}
      (alike : journaled.alike first second) (waiting : waits ran pending) :
      Twins journaled waits before meanwhile access ⟨first, access, none⟩
        ⟨⟨second, access, none⟩, pending, before ++ ran.map (InnerCall.refusal meanwhile)⟩

section Twins

variable {journaled : Journaled σ} {waits : List InnerCall → List (Interruption σ) → Prop}
  {interrupt : CallKind → HostM (Reentrant σ) Unit} {meanwhile : Access}

/-- A driver call has the same answer with inner calls ahead of it, as they find no context. -/
theorem Refuses.call (refuses : Refuses journaled waits interrupt) {before : List (Nat × Reply)}
    (unavailable : Unavailable meanwhile) (driverCall : DriverCall) :
    InStep (Twins journaled waits before meanwhile meanwhile) (Host.call driverCall)
      ((hostWith interrupt).call driverCall) := by
  rintro _ _ ⟨alike, waiting⟩
  rename_i first second ran pending
  obtain ⟨host, more, rest, alike', waiting', interrupts⟩ := refuses driverCall.kind
    (before ++ ran.map (InnerCall.refusal meanwhile)) unavailable waiting
  rw [List.append_assoc, ← List.map_append] at interrupts
  simp only [Host.call]
  rw [interrupts]
  dsimp only
  have together := journaled.equivalence.trans alike alike'
  obtain ⟨answer, _, _, asked, asked', alike⟩ | ⟨overflow, _, _, asked, asked', alike⟩ :=
    (journaled.call driverCall together).exists_ends
  · rw [asked, asked']
    exact .ok (.mk alike waiting')
  · rw [asked, asked']
    exact .error (.mk alike waiting')

/-- Inner calls do not show in the answers of a host, as long as they find no context. -/
def Refuses.likeness (refuses : Refuses journaled waits interrupt) (before : List (Nat × Reply))
    (unavailable : Unavailable meanwhile) :
    @AccessLikeness (Process σ) (Reentrant σ) _ (hostWith interrupt) meanwhile :=
  @AccessLikeness.mk (Process σ) (Reentrant σ) _ (hostWith interrupt) meanwhile
    (Twins journaled waits before meanwhile)
    (by
      rintro _ _ _ ⟨alike, waiting⟩
      exact ⟨rfl, rfl⟩)
    (by
      rintro _ _ _ _ ⟨alike, waiting⟩
      exact .mk alike waiting)
    (by
      rintro _ notice _ _ ⟨alike, waiting⟩
      exact .mk (journaled.both (journaled.log notice) alike) waiting)
    (by
      rintro _ limit _ _ ⟨alike, waiting⟩
      exact .mk (journaled.both (journaled.limitLog limit) alike) waiting)
    (refuses.call unavailable)
    (by
      rintro _ _ ⟨alike, waiting⟩
      obtain ⟨answer, alike⟩ := journaled.clock alike
      exact ⟨answer, .mk alike waiting⟩)
    (by
      rintro _ _ ⟨alike, waiting⟩
      obtain ⟨answer, alike⟩ := journaled.platformBudget alike
      exact ⟨answer, .mk alike waiting⟩)
    (by
      rintro table count _ _ ⟨alike, waiting⟩
      obtain ⟨answer, alike⟩ := journaled.allocates table count alike
      exact ⟨answer, .mk alike waiting⟩)

/-- A request with inner calls is answered as the request alone. -/
theorem Refuses.answers (refuses : Refuses journaled waits interrupt) (host : σ) (engine : Engine)
    {pending : List (Interruption σ)} (waiting : waits [] pending) (before : List (Nat × Reply))
    (request : Request) :
    SameEnd (fun alone interrupted => ∃ engine : Option Engine,
        (engine.isSome ↔ request.meanwhile = .held) ∧
        Twins journaled waits before request.meanwhile (.free engine) alone interrupted)
      (request.run (⟨host, .free (some engine), none⟩ : Process σ))
      (act interrupt (.request request) ⟨⟨host, .free (some engine), none⟩, pending, before⟩) := by
  have start : Twins journaled waits before request.meanwhile (.free (some engine))
      ⟨host, .free (some engine), none⟩
      ⟨⟨host, .free (some engine), none⟩, pending, before ++ []⟩ :=
    .mk (journaled.equivalence.refl host) waiting
  rw [List.append_nil] at start
  cases found : request.meanwhile with
  | held =>
    rw [found] at start
    exact @AccessLikeness.run_alike _ _ _ (hostWith interrupt) _ _
      (refuses.likeness before nofun) _ start _ found
  | free engine =>
    cases engine with
    | none =>
      rw [found] at start
      exact @AccessLikeness.removal_alike _ _ _ (hostWith interrupt) _ _
        (refuses.likeness before nofun) _ _ found start
    | some engine => exact absurd found (request.unavailable_meanwhile engine)

end Twins

end Reentrant

/-! ## No interference -/

/-- A process after a request with inner calls, next to the same process after the request alone. -/
structure Undisturbed {σ : Type} [Host σ] (journaled : Journaled σ)
    (waits : List InnerCall → List (Interruption (Traced σ)) → Prop) (before : List (Nat × Reply))
    (meanwhile : Access) (alone : Process (Traced σ)) (interrupted : Reentrant (Traced σ)) :
    Prop where
  /-- Every inner call that ran was refused. -/
  refused : ∃ ran, waits ran interrupted.pending ∧
    interrupted.replies = before ++ ran.map (InnerCall.refusal meanwhile)
  calls : interrupted.process.host.events = alone.host.events
  context : interrupted.process.access = alone.access
  /-- Nobody holds the context, which is gone only if the request takes it out. -/
  free : ∃ engine, alone.access = .free engine ∧ (engine.isSome ↔ meanwhile = .held)
  hosts : journaled.alike alone.host.host interrupted.process.host.host

theorem Reentrant.Refuses.undisturbed {σ : Type} [SharedHost σ] {journaled : Journaled σ}
    {waits : List InnerCall → List (Interruption (Traced σ)) → Prop}
    {interrupt : CallKind → HostM (Reentrant (Traced σ)) Unit}
    (refuses : Reentrant.Refuses journaled.traced waits interrupt) (host : Traced σ)
    (engine : Engine) {pending : List (Interruption (Traced σ))} (waiting : waits [] pending)
    (before : List (Nat × Reply)) (request : Request) :
    SameEnd (Undisturbed journaled waits before request.meanwhile)
      (request.run (⟨host, .free (some engine), none⟩ : Process (Traced σ)))
      (Reentrant.act interrupt (.request request)
        ⟨⟨host, .free (some engine), none⟩, pending, before⟩) := by
  refine (refuses.answers host engine waiting before request).mono fun returned => ?_
  obtain ⟨engine, kept, alike, waiting⟩ := returned
  exact ⟨⟨_, waiting, rfl⟩, alike.2, rfl, ⟨engine, rfl, kept⟩, alike.1⟩

/-- A call from inside a driver call of another one fails, asks the driver nothing and changes
nothing but the journal. So a request on an installed context ends in the same way with any such
calls and without them: with the same reply, after the same driver calls, with the same context, and
with nobody holding it. -/
theorem reentrant_calls_do_not_interfere {σ : Type} [SharedHost σ] (journaled : Journaled σ) :
    (∀ (nested : CallKind → HostM (Reentrant (Traced σ)) Unit) (request : Request)
        (state : Reentrant (Traced σ)), Unavailable state.process.access →
      ∃ host : Traced σ, journaled.alike state.process.host.host host.host ∧
        host.events = state.process.host.events ∧
        Reentrant.act nested (.request request) state =
          .ok (request.failure state.process.access)
            { state with process := { state.process with host } }) ∧
    ∀ (schedule : CallKind → Reentrant (Traced σ) → List InnerCall)
        (nested : CallKind → HostM (Reentrant (Traced σ)) Unit) (host : Traced σ) (engine : Engine)
        (pending : List (Interruption (Traced σ))) (before : List (Nat × Reply))
        (request : Request),
      SameEnd
        (Undisturbed journaled
          (fun ran _ => ∀ call ∈ ran, ∃ kind state, call ∈ schedule kind state) before
          request.meanwhile)
        (request.run (⟨host, .free (some engine), none⟩ : Process (Traced σ)))
        (Reentrant.act (Reentrant.callInAt schedule nested) (.request request)
          ⟨⟨host, .free (some engine), none⟩, pending, before⟩) := by
  refine ⟨fun nested request state unavailable => ?_,
    fun schedule nested host engine pending before request => ?_⟩
  · obtain ⟨host, alike, refused⟩ :=
      Reentrant.act_refused journaled.traced nested request state unavailable
    exact ⟨host, alike.1, alike.2, refused⟩
  · exact (Reentrant.callInAt_refuses journaled.traced schedule nested).undisturbed host engine
      nofun before request

/-- A fault that is interrupted while it maps a page, and a cleanup that is interrupted while it
unmaps one: the first calls find the context held and the last ones find none. -/
theorem reentrant_calls_do_not_interfere_fault_and_cleanup :
    ∃ (host : Traced Bench) (engine : Engine)
      (schedule : CallKind → Reentrant (Traced Bench) → List InnerCall)
      (faulted dropped : Process (Traced Bench)) (faulted' dropped' : Reentrant (Traced Bench)),
      let start : Process (Traced Bench) := ⟨host, .free (some engine), none⟩
      let nested : CallKind → HostM (Reentrant (Traced Bench)) Unit := fun _ => pure ()
      Request.run (.fault 1 0 2 true) start = .ok (.fault .success [1, 1]) faulted ∧
      Reentrant.act (Reentrant.callInAt schedule nested) (.request (.fault 1 0 2 true))
        ⟨start, [], []⟩ = .ok (.fault .success [1, 1]) faulted' ∧
      faulted'.replies = [(0, .done), (1, .fault .error []), (2, .word 0)] ∧
      faulted'.process.host.events = faulted.host.events ∧
      faulted'.process.access = faulted.access ∧
      Request.run .cleanup start = .ok .done dropped ∧
      Reentrant.act (Reentrant.callInAt schedule nested) (.request .cleanup) ⟨start, [], []⟩ =
        .ok .done dropped' ∧
      dropped'.replies = [(3, .removed none), (4, .word 0)] ∧
      dropped'.process.host.events = dropped.host.events ∧ dropped.access = .free none ∧
      ∃ host' : Traced Bench, host'.events = host.events ∧
        Reentrant.act nested (.request (.fault 1 0 1 true)) ⟨⟨host, .held, none⟩, [], []⟩ =
          .ok (.fault .error []) ⟨⟨host', .held, none⟩, [], []⟩ := by
  let schedule : CallKind → Reentrant (Traced Bench) → List InnerCall := fun kind _ =>
    match kind with
    | .map => [⟨0, .cleanup⟩, ⟨1, .fault 1 0 1 true⟩, ⟨2, .evictGlobal 1⟩]
    | .unmap => [⟨3, .uninstall⟩, ⟨4, .allocateVbar 1 0⟩]
    | _ => []
  let nested : CallKind → HostM (Reentrant (Traced Bench)) Unit := fun _ => pure ()
  have reached : reaches 0 .bytewise (⟨{ device := { capacity := 4 } }, #[]⟩ : Traced Bench)
      anyOperation [.allocateVbar 2 0, .fault ⟨0, 0⟩ 0 1]
      (fun context => decide (Ensures (fun _ => False)
          (Reentrant.act (Reentrant.callInAt schedule nested) (.request (.fault 1 0 2 true)))
          ⟨⟨context.host, .free (some context.engine), none⟩, [], []⟩
          (fun reply after => reply = .fault .success [1, 1] ∧
            after.replies = [(0, .done), (1, .fault .error []), (2, .word 0)]) ∧
        Ensures (fun _ => False)
          (Reentrant.act (Reentrant.callInAt schedule nested) (.request .cleanup))
          ⟨⟨context.host, .free (some context.engine), none⟩, [], []⟩
          (fun reply after => reply = .done ∧
            after.replies = [(3, .removed none), (4, .word 0)]))) = true := by
    decide +kernel
  obtain ⟨_, _, ⟨engine, host⟩, -, -, passed⟩ := exists_run_of_reaches Eq reached
  obtain ⟨faults, drops⟩ := of_decide_eq_true passed
  obtain ⟨_, faulted', faults, rfl, replies⟩ := faults.exists_ok
  obtain ⟨_, dropped', drops, rfl, replies'⟩ := drops.exists_ok
  obtain ⟨refuses, alone⟩ := reentrant_calls_do_not_interfere Bench.journaled
  have fault := alone schedule nested host engine [] [] (.fault 1 0 2 true)
  have cleanup := alone schedule nested host engine [] [] .cleanup
  obtain ⟨host', -, events, refused⟩ := refuses nested (.fault 1 0 1 true)
    ⟨⟨host, .held, none⟩, [], []⟩ nofun
  rw [faults] at fault
  rw [drops] at cleanup
  obtain ⟨_, faulted, _, faultRan, ⟨⟩, kept⟩ | ⟨_, _, _, _, ⟨⟩, _⟩ := fault.exists_ends
  obtain ⟨_, dropped, _, cleanupRan, ⟨⟩, gone⟩ | ⟨_, _, _, _, ⟨⟩, _⟩ := cleanup.exists_ends
  obtain ⟨last, free, taken⟩ := gone.free
  cases last with
  | some engine => cases taken.mp rfl
  | none =>
    exact ⟨host, engine, schedule, faulted, dropped, faulted', dropped', faultRan, faults, replies,
      kept.calls, kept.context, cleanupRan, drops, replies', gone.calls, free, host', events,
      refused⟩

end VramOvercommit.Abi
