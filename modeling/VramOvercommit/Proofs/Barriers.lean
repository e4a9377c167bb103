import VramOvercommit.Proofs.OperationActions
import VramOvercommit.Simulation.Trace

set_option autoImplicit false

/-!
No page loses its memory while work in flight may still use it. In the driver calls of an operation,
the unmap of a page stands behind a wait for the device with no mapping in between. The one exception
undoes a commit whose access was refused. The chunks of a buffer go without a wait, and only together
with their buffer.
-/

namespace VramOvercommit

open EngineM
open Attempt (lift)
open Simulation (Event Traced)
open ActionKind (bookkeeping)
open Eviction (reclaiming)

/-! ## Events of a step -/

namespace Simulation

/-- The call that an event is the record of. -/
def Event.call? : Event → Option DriverCall
  | .called call _ => some call
  | .named _ _ => none

def Event.kind? (event : Event) : Option CallKind := event.call?.map DriverCall.kind

variable {σ : Type} {first second third : Traced σ} {earlier later : List Event}

/-- The events by which the record of a host grew. -/
def Traced.Adds (before after : Traced σ) (events : List Event) : Prop :=
  after.events.toList = before.events.toList ++ events

theorem Traced.Adds.refl (traced : Traced σ) : traced.Adds traced [] := (List.append_nil _).symm

theorem Traced.Adds.trans (one : first.Adds second earlier) (other : second.Adds third later) :
    first.Adds third (earlier ++ later) := by
  unfold Traced.Adds at one other ⊢
  rw [other, one, List.append_assoc]

variable [Host σ]

theorem Traced.call_eq (call : DriverCall) (traced : Traced σ) :
    Host.call call traced = match Host.call call traced.host with
      | .ok answer host => .ok answer (traced.record host (.called call answer))
      | .error overflow host => .error overflow { traced with host } := rfl

theorem Traced.adds_of_call {call : DriverCall} {answer : Except DriverError call.Answer}
    (answered : Host.call call first = .ok answer second) :
    first.Adds second [.called call answer] := by
  rw [Traced.call_eq] at answered
  split at answered
  · cases answered
    exact Array.toList_push
  · cases answered

/-- What a call ensures of a host, it ensures of the host with the call on its record. -/
theorem Traced.ensures_call {aborts : Overflow → Prop} {call : DriverCall} {traced : Traced σ}
    {post : Except DriverError call.Answer → Traced σ → Prop}
    (ensured : Ensures aborts (Host.call call) traced.host
      fun answer host => post answer (traced.record host (.called call answer))) :
    Ensures aborts (Host.call call) traced post := by
  unfold Ensures at *
  rw [Traced.call_eq]
  cases found : Host.call call traced.host with
  | ok answer host =>
    rw [found] at ensured
    exact ensured
  | error overflow host =>
    rw [found] at ensured
    exact ensured

/-- A call without an answer leaves no record. -/
theorem Traced.adds_of_overflow {call : DriverCall} {overflow : Overflow}
    (overflowed : Host.call call first = .error overflow second) : first.Adds second [] := by
  rw [Traced.call_eq] at overflowed
  split at overflowed
  · cases overflowed
  · cases overflowed
    exact .refl first

/-- Memory of the host is asked for off the record. -/
theorem Traced.adds_room (table : HostTable) (count : Nat) (traced : Traced σ) :
    traced.Adds (Host.room table count traced).2 [] := by
  rcases Host.room_cases table count traced with same | asked
  · rw [same]
    exact .refl traced
  · rw [asked]
    exact .refl traced

theorem Traced.adds_roomBeside (table : HostTable) (held count bytesEach : Nat)
    (traced : Traced σ) :
    traced.Adds (Host.roomBeside table held count bytesEach traced).2 [] := by
  rcases Host.roomBeside_cases table held count bytesEach traced with same | asked
  · rw [same]
    exact .refl traced
  · rw [asked]
    exact .refl traced

end Simulation

section Events

variable {σ : Type} [Host σ] {kinds : List ActionKind} {context after : Context (Traced σ)}

/-- Every event is the record of a call of one of the kinds. -/
def Allowed (kinds : List ActionKind) (events : List Event) : Prop :=
  ∀ event ∈ events, ∃ kind, event.kind? = some kind ∧ .call kind ∈ kinds

theorem Allowed.append {earlier later : List Event} (one : Allowed kinds earlier)
    (other : Allowed kinds later) : Allowed kinds (earlier ++ later) := fun event member =>
  (List.mem_append.mp member).elim (one event) (other event)

theorem Allowed.ne_kind {events : List Event} (allowed : Allowed kinds events) {kind : CallKind}
    (denied : .call kind ∉ kinds) : ∀ event ∈ events, event.kind? ≠ some kind := by
  intro event member same
  obtain ⟨kind', found, listed⟩ := allowed event member
  rw [same] at found
  cases found
  exact denied listed

theorem Action.adds (action : Action kinds context after) :
    ∃ events, context.host.Adds after.host events ∧ Allowed kinds events := by
  cases action with
  | @call driverCall answer host allowed answered =>
    refine ⟨_, Traced.adds_of_call answered, fun event member => ?_⟩
    cases List.mem_singleton.mp member
    exact ⟨_, rfl, allowed⟩
  | _ => exact ⟨[], .refl _, fun _ member => nomatch member⟩

theorem Actions.adds (actions : Actions kinds context after) :
    ∃ events, context.host.Adds after.host events ∧ Allowed kinds events := by
  induction actions with
  | refl => exact ⟨[], .refl _, fun _ member => nomatch member⟩
  | tail _ action ih =>
    obtain ⟨earlier, adds, allowed⟩ := ih
    obtain ⟨later, adds', allowed'⟩ := action.adds
    exact ⟨_, adds.trans adds', allowed.append allowed'⟩

theorem Broken.adds (broken : Broken kinds context after) :
    ∃ events, context.host.Adds after.host events ∧ Allowed kinds events := by
  cases broken with
  | stopped actions => exact actions.adds
  | unanswered actions allowed overflowed =>
    obtain ⟨events, adds, allowed⟩ := actions.adds
    have more := adds.trans (Traced.adds_of_overflow overflowed)
    rw [List.append_nil] at more
    exact ⟨events, more, allowed⟩

end Events

/-! ## Waiting -/

/-- The device was waited for, and nothing was mapped since. -/
def Waited (earlier : List Event) : Prop :=
  ∃ before answer since, earlier = before ++ .called .synchronize answer :: since ∧
    ∀ event ∈ since, event.kind? ≠ some .map

/-- The range was mapped just before, and access to it was refused. -/
def RollsBack (earlier : List Event) (vaddr size : Nat) : Prop :=
  ∃ before memory device cause, earlier = before ++
    [.called (.map vaddr size memory) (.ok ()),
      .called (.setAccess vaddr size device) (.error cause)]

/-- Every unmap comes after a wait with no mapping in between, or undoes a commit. -/
def Barriered (events : List Event) : Prop :=
  ∀ earlier vaddr size answer later,
    events = earlier ++ .called (.unmap vaddr size) answer :: later →
      Waited earlier ∨ RollsBack earlier vaddr size

section Barriered

variable {events earlier later : List Event} {vaddr size : Nat}

theorem Waited.append_left (waited : Waited later) (earlier : List Event) :
    Waited (earlier ++ later) := by
  obtain ⟨before, answer, since, rfl, unmapped⟩ := waited
  exact ⟨earlier ++ before, answer, since, (List.append_assoc ..).symm, unmapped⟩

theorem RollsBack.append_left (undone : RollsBack later vaddr size) (earlier : List Event) :
    RollsBack (earlier ++ later) vaddr size := by
  obtain ⟨before, memory, device, cause, rfl⟩ := undone
  exact ⟨earlier ++ before, memory, device, cause, (List.append_assoc ..).symm⟩

theorem barriered_of_no_unmap (none : ∀ event ∈ events, event.kind? ≠ some .unmap) :
    Barriered events := by
  rintro earlier vaddr size answer later rfl
  exact absurd rfl (none _ (List.mem_append_right _ List.mem_cons_self))

theorem barriered_nil : Barriered [] := barriered_of_no_unmap fun _ member => nomatch member

theorem Barriered.append (one : Barriered earlier) (other : Barriered later) :
    Barriered (earlier ++ later) := by
  intro before vaddr size answer after same
  rcases List.append_eq_append_iff.mp same with ⟨middle, rfl, rest⟩ | ⟨middle, rfl, rest⟩
  · exact (other middle vaddr size answer after rest).imp (·.append_left earlier)
      (·.append_left earlier)
  · cases middle with
    | nil =>
      have alone := other [] vaddr size answer after rest.symm
      have joined := alone.imp (·.append_left before) (·.append_left before)
      rwa [List.append_nil] at joined
    | cons event middle =>
      rw [List.cons_append] at rest
      obtain ⟨rfl, -⟩ := List.cons.inj rest
      exact one before vaddr size answer middle rfl

/-- Whatever follows a wait without a mapping is behind a barrier. -/
theorem barriered_of_wait (answer : Except DriverError Unit)
    (unmapped : ∀ event ∈ events, event.kind? ≠ some .map) :
    Barriered (.called .synchronize answer :: events) := by
  intro earlier vaddr size answer' later same
  cases earlier with
  | nil => cases same
  | cons event earlier =>
    rw [List.cons_append] at same
    obtain ⟨rfl, rfl⟩ := List.cons.inj same
    exact .inl ⟨[], answer, earlier, rfl, fun event member =>
      unmapped event (List.mem_append_left _ member)⟩

/-- The calls of a commit that gets no access to its range. -/
theorem barriered_rollback {memory : PhysicalHandle} {device : Int} {cause : DriverError}
    (answer : Except DriverError Unit) :
    Barriered [.called (.map vaddr size memory) (.ok ()),
      .called (.setAccess vaddr size device) (.error cause),
      .called (.unmap vaddr size) answer] := by
  intro earlier vaddr' size' answer' later same
  match earlier, same with
  | [], same => cases same
  | [_], same => cases same
  | [first, second], same =>
    cases same
    exact .inr ⟨[], memory, device, cause, rfl⟩
  | _ :: _ :: _ :: earlier, same =>
    have short := congrArg List.length same
    simp at short

end Barriered

/-! ## Steps that wait -/

section Waiting

variable {σ : Type} {α β : Type} {context middle : Context (Traced σ)} {events : List Event}

/-- The record of the host goes on with events that are behind barriers. -/
def waiting : Passage (Traced σ) where
  leads context after := ∃ events, context.host.Adds after.host events ∧ Barriered events
  breaks context after := ∃ events, context.host.Adds after.host events ∧ Barriered events
  refl context := ⟨[], .refl _, barriered_nil⟩
  trans := by
    rintro first second third ⟨earlier, adds, waits⟩ ⟨later, adds', waits'⟩
    exact ⟨_, adds.trans adds', waits.append waits'⟩
  stop context := ⟨[], .refl _, barriered_nil⟩
  late := by
    rintro first second third ⟨earlier, adds, waits⟩ ⟨later, adds', waits'⟩
    exact ⟨_, adds.trans adds', waits.append waits'⟩

/-- The events since a context, all of them behind barriers. -/
structure Since (context middle : Context (Traced σ)) (events : List Event) : Prop where
  adds : context.host.Adds middle.host events
  barriered : Barriered events

theorem Since.refl (context : Context (Traced σ)) : Since context context [] :=
  ⟨.refl _, barriered_nil⟩

theorem Since.call {after : Context (Traced σ)} {driverCall : DriverCall}
    {answer : Except DriverError driverCall.Answer} (since : Since context middle events)
    (adds : middle.host.Adds after.host [.called driverCall answer])
    (other : driverCall.kind ≠ .unmap) :
    Since context after (events ++ [.called driverCall answer]) := by
  refine ⟨since.adds.trans adds,
    since.barriered.append (barriered_of_no_unmap fun event member => ?_)⟩
  cases List.mem_singleton.mp member
  exact fun same => other (Option.some.inj same)

theorem Since.stopped {after : Context (Traced σ)} (since : Since context middle events)
    (adds : middle.host.Adds after.host []) : waiting.breaks context after :=
  ⟨_, since.adds.trans adds, since.barriered.append barriered_nil⟩

/-- What a step does after these events. -/
theorem Since.passes {step : EngineM (Traced σ) α} (since : Since context middle events)
    (passes : Passes waiting step) :
    Ends step middle (fun _ after => ∃ more, Since context after (events ++ more))
      (waiting.breaks context) :=
  (passes middle).mono
    (fun _ _ ⟨_, adds, barriered⟩ =>
      ⟨_, since.adds.trans adds, since.barriered.append barriered⟩)
    fun _ ⟨_, adds, barriered⟩ =>
      ⟨_, since.adds.trans adds, since.barriered.append barriered⟩

theorem Since.trans {after : Context (Traced σ)} {more : List Event}
    (since : Since context middle events) (other : Since middle after more) :
    Since context after (events ++ more) :=
  ⟨since.adds.trans other.adds, since.barriered.append other.barriered⟩

/-- All events are behind barriers wherever the step ends, and something is known of them where it
is done. -/
abbrev Recorded (step : EngineM (Traced σ) α) (context : Context (Traced σ))
    (holds : List Event → α → Context (Traced σ) → Prop) : Prop :=
  Ends step context (fun value after => ∃ events, Since context after events ∧
    holds events value after) (waiting.breaks context)

section Recorded

variable {holds : List Event → α → Context (Traced σ) → Prop}
  {goal : List Event → β → Context (Traced σ) → Prop}

theorem Passes.recorded {step : EngineM (Traced σ) α} (passes : Passes waiting step) :
    Recorded step context fun _ _ _ => True :=
  (passes context).mono (fun _ _ ⟨_, adds, barriered⟩ => ⟨_, ⟨adds, barriered⟩, trivial⟩) fun _ => id

theorem Recorded.from {step : EngineM (Traced σ) α} (since : Since context middle events)
    (recorded : Recorded step middle fun more => holds (events ++ more)) :
    Ends step middle (fun value after => ∃ events, Since context after events ∧
      holds events value after) (waiting.breaks context) :=
  recorded.mono (fun _ _ ⟨_, more, held⟩ => ⟨_, since.trans more, held⟩)
    fun _ ⟨_, adds, barriered⟩ => ⟨_, since.adds.trans adds, since.barriered.append barriered⟩

theorem Recorded.bind {step : EngineM (Traced σ) α} {next : α → EngineM (Traced σ) β}
    (first : Recorded step context holds)
    (others : ∀ events value middle, holds events value middle →
      Recorded (next value) middle fun more => goal (events ++ more)) :
    Recorded (step >>= next) context goal :=
  Ends.bind first fun value middle _ ⟨events, since, held⟩ =>
    (others events value middle held).from since

theorem Recorded.run_bind {step : Attempt (Traced σ) α} {next : α → Attempt (Traced σ) β}
    {holds : List Event → Except Error α → Context (Traced σ) → Prop}
    {goal : List Event → Except Error β → Context (Traced σ) → Prop}
    (first : Recorded step.run context holds)
    (ok : ∀ events value middle, holds events (.ok value) middle →
      Recorded (next value).run middle fun more => goal (events ++ more))
    (error : ∀ events cause middle, holds events (.error cause) middle →
      goal events (.error cause) middle) :
    Recorded (step >>= next).run context goal :=
  Ends.run_bind first
    (fun value middle ⟨events, since, held⟩ => (ok events value middle held).from since)
    fun cause middle ⟨events, since, held⟩ => ⟨events, since, error events cause middle held⟩

theorem Recorded.pure {value : α} (held : holds [] value context) :
    Recorded (Pure.pure value : EngineM (Traced σ) α) context holds :=
  ⟨[], .refl context, held⟩

theorem Recorded.word (value : Nat) :
    Recorded (EngineM.word value) context fun _ found _ => found = value := by
  unfold EngineM.word
  split
  · exact Recorded.pure rfl
  · exact waiting.stop context

end Recorded

/-- A step goes on with events of its own, wherever it ends. -/
abbrev Records (step : EngineM (Traced σ) α) (context : Context (Traced σ))
    (recorded : List Event → Prop) : Prop :=
  Ends step context (fun _ after => ∃ events, context.host.Adds after.host events ∧ recorded events)
    fun after => ∃ events, context.host.Adds after.host events ∧ recorded events

variable [Host σ] {kinds : List ActionKind}

theorem Only.records {step : EngineM (Traced σ) α} (only : Only kinds step)
    (context : Context (Traced σ)) : Records step context (Allowed kinds) :=
  (only context).mono (fun _ _ => Actions.adds) fun _ => Broken.adds

/-- A call is on record with its answer when the step goes on. -/
theorem ends_call_bind {driverCall : DriverCall}
    {next : Except DriverError driverCall.Answer → EngineM (Traced σ) β}
    {done : β → Context (Traced σ) → Prop} {aborted : Context (Traced σ) → Prop}
    (stopped : ∀ after, context.host.Adds after.host [] → aborted after)
    (others : ∀ answer after, context.host.Adds after.host [.called driverCall answer] →
      Ends (next answer) after done aborted) :
    Ends (call driverCall >>= next) context done aborted := by
  have called : Ends (call driverCall : EngineM (Traced σ) _) context
      (fun answer after => context.host.Adds after.host [.called driverCall answer]) aborted := by
    unfold Ends call onHost HostM.call
    cases answered : Host.call driverCall context.host with
    | ok answer host => exact Traced.adds_of_call answered
    | error overflow host => exact stopped _ (Traced.adds_of_overflow answered)
  exact called.bind fun answer after _ adds => others answer after adds

theorem Recorded.call {driverCall : DriverCall} (other : driverCall.kind ≠ .unmap) :
    Recorded (EngineM.call driverCall) context fun events answer _ =>
      events = [.called driverCall answer] := by
  rw [← bind_pure (EngineM.call driverCall)]
  exact ends_call_bind (fun _ => (Since.refl context).stopped) fun answer after adds =>
    ⟨_, (Since.refl context).call adds other, rfl⟩

theorem Recorded.allocates (table : HostTable) (count : Nat) :
    Recorded (EngineM.allocates table count) context fun events _ after =>
      events = [] ∧ after.engine = context.engine :=
  ⟨[], ⟨Traced.adds_room table count context.host, barriered_nil⟩, rfl, rfl⟩

theorem Recorded.allocatesBeside (table : HostTable) (held count bytesEach : Nat) :
    Recorded (EngineM.allocatesBeside table held count bytesEach) context fun events _ after =>
      events = [] ∧ after.engine = context.engine :=
  ⟨[], ⟨Traced.adds_roomBeside table held count bytesEach context.host, barriered_nil⟩, rfl, rfl⟩

theorem reserve_recorded (size : Nat) :
    Recorded (Memory.reserve size) context fun events answer _ =>
      events = [.called (.reserve size) answer] := Recorded.call nofun

theorem waits_of_only {step : EngineM (Traced σ) α} (only : Only kinds step)
    (denied : .call .unmap ∉ kinds) : Passes waiting step := fun context =>
  (only.records context).mono
    (fun _ _ ⟨events, adds, allowed⟩ =>
      ⟨events, adds, barriered_of_no_unmap (allowed.ne_kind denied)⟩)
    fun _ ⟨events, adds, allowed⟩ => ⟨events, adds, barriered_of_no_unmap (allowed.ne_kind denied)⟩

/-- After the wait nothing may be mapped, but all else is open. -/
theorem waits_of_synchronize {rest : Unit → EngineM (Traced σ) α}
    (only : ∀ value, Only kinds (rest value)) (denied : .call .map ∉ kinds) :
    Passes waiting (Memory.synchronize >>= rest) := by
  intro context
  unfold Memory.synchronize
  rw [bind_assoc]
  refine ends_call_bind (fun _ adds => ⟨[], adds, barriered_nil⟩) fun answer middle adds => ?_
  have leads : ∀ {after : Context (Traced σ)},
      (∃ events, middle.host.Adds after.host events ∧ Allowed kinds events) →
      ∃ events, context.host.Adds after.host events ∧ Barriered events := by
    rintro after ⟨events, more, allowed⟩
    exact ⟨_, adds.trans more, barriered_of_wait answer (allowed.ne_kind denied)⟩
  refine Ends.mono (Only.records ?_ middle) (fun _ _ => leads) fun _ => leads
  -- the notice of a wait that failed leaves no record
  cases answer with
  | ok _ => exact (Passes.pure ()).bind only
  | error cause => exact (Only.log _).bind only

theorem admits_waiting : (waiting : Passage (Traced σ)).Admits :=
  ⟨fun only => waits_of_only only (by decide), fun only => waits_of_synchronize only (by decide)⟩

/-- The record shows that a range was mapped to some memory. -/
def Mapped (events : List Event) (holding : Holding) : Prop :=
  .called (.map holding.vaddr holding.size holding.memory) (.ok ()) ∈ events

/-- A commit unmaps at most what it has mapped itself; one that succeeds is on record. -/
theorem commit_recorded (vaddr size : Nat) (device : Int) (context : Context (Traced σ)) :
    Recorded (Memory.commit vaddr size device) context fun events result _ =>
      ∀ memory, result = .ok memory → Mapped events ⟨vaddr, size, memory⟩ := by
  have undone : ∀ {middle : Context (Traced σ)} {events : List Event} (memory : PhysicalHandle)
      (cause : DriverError), Since context middle events →
      Ends (do
          Memory.giveBack memory
          return .error cause : EngineM (Traced σ) (Except DriverError PhysicalHandle)) middle
        (fun result after => ∃ events, Since context after events ∧
          ∀ memory, result = .ok memory → Mapped events ⟨vaddr, size, memory⟩)
        (waiting.breaks context) := by
    intro middle events memory cause since
    have given : Only [.call .release] (Memory.giveBack memory : EngineM (Traced σ) Unit) :=
      Memory.giveBack_only (by decide) memory
    refine (since.passes (waits_of_only given (by decide))).bind fun _ _ _ outcome => ?_
    obtain ⟨more, since⟩ := outcome
    exact ⟨_, since, nofun⟩
  unfold Memory.commit
  refine ends_call_bind (fun _ => (Since.refl context).stopped) fun created first adds => ?_
  have since := (Since.refl context).call adds nofun
  cases created with
  | error cause => exact ⟨_, since, nofun⟩
  | ok memory =>
    refine ends_call_bind (fun _ => since.stopped) fun mapped second adds => ?_
    have before := since
    have since := since.call adds nofun
    cases mapped with
    | error cause => exact undone memory cause since
    | ok _ =>
      refine ends_call_bind (fun _ => since.stopped) fun granted third adds' => ?_
      cases granted with
      | error cause =>
        refine ends_call_bind (fun _ => (since.call adds' nofun).stopped)
          fun unmapped fourth adds'' => ?_
        have since : Since context fourth _ := ⟨before.adds.trans (adds.trans (adds'.trans adds'')),
          before.barriered.append (barriered_rollback unmapped)⟩
        cases unmapped with
        | ok _ => exact undone memory cause since
        | error unmapCause =>
          refine (since.passes (waits_of_only (Only.log _ : Only [] _) (by decide))).bind
            fun _ _ _ ⟨_, since⟩ => undone memory cause since
      | ok _ =>
        have since := since.call adds' nofun
        refine (since.passes (waits_of_only (Memory.recordCommit_only size : Only [] _)
          (by decide))).bind fun _ _ _ ⟨_, since⟩ => ?_
        refine (since.passes (waits_of_only (Only.log _ : Only [] _) (by decide))).bind
          fun _ _ _ ⟨_, since⟩ => ⟨_, since, ?_⟩
        rintro memory ⟨⟩
        simp [Mapped]

theorem commit_waits (vaddr size : Nat) (device : Int) :
    Passes waiting (Memory.commit vaddr size device :
      EngineM (Traced σ) (Except DriverError PhysicalHandle)) := fun context =>
  (commit_recorded vaddr size device context).mono
    (fun _ _ ⟨events, since, _⟩ => ⟨events, since.adds, since.barriered⟩) fun _ => id

end Waiting

end VramOvercommit
