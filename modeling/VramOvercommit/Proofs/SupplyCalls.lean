import VramOvercommit.Proofs.Barriers

set_option autoImplicit false

/-!
How ranges get their memory, in the calls of the driver: the protocol of an attempt, of the attempts
for one range, and of a supply of several ranges. What these calls tell of the end of an operation
follows from the protocol alone.
-/

namespace VramOvercommit

open Simulation (Event)
open Eviction (shrinking)

/-! ## Calls of a supply -/

/-- The calls of a commit that may refuse it. -/
def CallKind.commitSteps : List CallKind := [.create, .map, .setAccess]

/-- No memory is asked for, mapped or made accessible. -/
def Uncommitting (events : List Event) : Prop :=
  ∀ event ∈ events, ∀ kind ∈ CallKind.commitSteps, event.kind? ≠ some kind

/-- A step of a commit failed for another cause than an exhausted device. -/
def Simulation.Event.FailsCommit (code : Int) : Event → Prop
  | .called call (.error cause) => cause = .failed code ∧ call.kind ∈ CallKind.commitSteps
  | _ => False

/-- One attempt to commit a range, with its end. Whatever it took before a refusal is given back. -/
inductive CommitCalls (vaddr size : Nat) (device : Int) :
    Except DriverError Unit → List Event → Prop where
  | refused (cause : DriverError) :
      CommitCalls vaddr size device (.error cause) [.called (.create size device) (.error cause)]
  | unmapped (memory : PhysicalHandle) (cause : DriverError) (released : Except DriverError Unit) :
      CommitCalls vaddr size device (.error cause)
        [.called (.create size device) (.ok memory),
          .called (.map vaddr size memory) (.error cause),
          .called (.release memory) released]
  | inaccessible (memory : PhysicalHandle) (cause : DriverError)
      (unmapped released : Except DriverError Unit) :
      CommitCalls vaddr size device (.error cause)
        [.called (.create size device) (.ok memory),
          .called (.map vaddr size memory) (.ok ()),
          .called (.setAccess vaddr size device) (.error cause),
          .called (.unmap vaddr size) unmapped,
          .called (.release memory) released]
  | committed (memory : PhysicalHandle) :
      CommitCalls vaddr size device (.ok ())
        [.called (.create size device) (.ok memory),
          .called (.map vaddr size memory) (.ok ()),
          .called (.setAccess vaddr size device) (.ok ())]

/-- One pass of reclaiming: a single wait for the device, and then pages that give their memory
back. -/
def ReclaimCalls (events : List Event) : Prop :=
  ∃ answer pages, events = .called .synchronize answer :: pages ∧ Allowed shrinking pages

/-- All attempts to commit a range, with their end. There is a second one only if the device was
exhausted at the first, and a pass of reclaiming lies between them. The range may be out of reach
after the pass. -/
inductive BackCalls (vaddr size : Nat) (device : Int) :
    Except Error Unit → List Event → Prop where
  | once {answer : Except DriverError Unit} {events : List Event}
      (attempt : CommitCalls vaddr size device answer events)
      (settled : answer ≠ .error .outOfMemory) :
      BackCalls vaddr size device (answer.mapError .ofDriver) events
  | cancelled {first pass : List Event}
      (exhausted : CommitCalls vaddr size device (.error .outOfMemory) first)
      (reclaim : ReclaimCalls pass) :
      BackCalls vaddr size device (.error .outOfMemory) (first ++ pass)
  | twice {first pass second : List Event} {answer : Except DriverError Unit}
      (exhausted : CommitCalls vaddr size device (.error .outOfMemory) first)
      (reclaim : ReclaimCalls pass)
      (again : CommitCalls vaddr size device answer second) :
      BackCalls vaddr size device (answer.mapError .ofDriver) (first ++ pass ++ second)

/-- Ranges are backed by ascending address, each of them behind the end of the one before, until one
gets no memory. The operation may also leave the rest for a cause that is no answer of the driver. -/
inductive SupplyCalls : (start : Nat) → Except Error Unit → List Event → Prop where
  | done (start : Nat) : SupplyCalls start (.ok ()) []
  | left (start : Nat) {cause : Error} (other : ∀ refusal, cause ≠ .driver refusal) :
      SupplyCalls start (.error cause) []
  | next {start vaddr size : Nat} {device : Int} {result : Except Error Unit}
      {events more : List Event} (ahead : start ≤ vaddr) (positive : 0 < size)
      (backed : BackCalls vaddr size device (.ok ()) events)
      (rest : SupplyCalls (vaddr + size) result more) : SupplyCalls start result (events ++ more)
  | stopped {start vaddr size : Nat} {device : Int} {cause : Error} {events : List Event}
      (ahead : start ≤ vaddr) (positive : 0 < size)
      (refused : BackCalls vaddr size device (.error cause) events) :
      SupplyCalls start (.error cause) events

/-- All memory that an operation asks for is asked for in one supply, which decides its end. -/
def SuppliedOnce {α : Type} (outcome : Except Error α) (events : List Event) : Prop :=
  ∃ before supply after, events = before ++ supply ++ after ∧ Uncommitting before ∧
    Uncommitting after ∧ SupplyCalls 0 (outcome.map fun _ => ()) supply

/-- The first failure of a step of a commit ends the operation with that failure. -/
def StopsAtFailure {α : Type} (outcome : Except Error α) (events : List Event) : Prop :=
  ∀ earlier event later code, events = earlier ++ event :: later → event.FailsCommit code →
    outcome = .error (.driver (.failed code)) ∧ Uncommitting later

/-- An operation fails for the driver only if a step of a commit did. -/
def FailsForCommit {α : Type} (outcome : Except Error α) (events : List Event) : Prop :=
  ∀ cause, outcome = .error (.driver cause) →
    ∃ code, cause = .failed code ∧ ∃ event ∈ events, event.FailsCommit code

/-- A failure of a step of a commit and a failure for the driver are one and the same. -/
structure FailureDecides {α : Type} (outcome : Except Error α) (events : List Event) : Prop where
  stops : StopsAtFailure outcome events
  caused : FailsForCommit outcome events

/-! ## What the calls of a supply tell -/

section Laws

variable {α β : Type} {events earlier later : List Event} {outcome : Except Error α}

theorem Uncommitting.append (one : Uncommitting earlier) (other : Uncommitting later) :
    Uncommitting (earlier ++ later) := fun event member =>
  (List.mem_append.mp member).elim (one event) (other event)

theorem uncommitting_nil : Uncommitting [] := fun _ member => nomatch member

theorem Allowed.uncommitting {kinds : List ActionKind} (allowed : Allowed kinds events)
    (denied : ∀ kind ∈ CallKind.commitSteps, .call kind ∉ kinds) : Uncommitting events :=
  fun event member kind step => allowed.ne_kind (denied kind step) event member

theorem ReclaimCalls.uncommitting (reclaim : ReclaimCalls events) : Uncommitting events := by
  obtain ⟨answer, pages, rfl, allowed⟩ := reclaim
  intro event member
  rcases List.mem_cons.mp member with rfl | behind
  · exact (by decide : ∀ kind ∈ CallKind.commitSteps, some CallKind.synchronize ≠ some kind)
  · exact allowed.uncommitting (by decide) event behind

theorem Simulation.Event.FailsCommit.kind {event : Event} {code : Int}
    (fails : event.FailsCommit code) :
    ∃ kind ∈ CallKind.commitSteps, event.kind? = some kind := by
  unfold Event.FailsCommit at fails
  split at fails
  · exact ⟨_, fails.2, rfl⟩
  · exact fails.elim

theorem Uncommitting.not_fails (quiet : Uncommitting events) {event : Event} {code : Int}
    (member : event ∈ events) : ¬ event.FailsCommit code := fun fails =>
  fails.kind.elim fun kind ⟨step, same⟩ => quiet event member kind step same

/-- A sequence of events stops at its first failure if its first event and the rest of it do. -/
theorem StopsAtFailure.cons {event : Event}
    (here : ∀ code, event.FailsCommit code →
      outcome = .error (.driver (.failed code)) ∧ Uncommitting later)
    (rest : StopsAtFailure outcome later) : StopsAtFailure outcome (event :: later) := by
  intro before found behind code same fails
  cases before with
  | nil =>
    cases same
    exact here code fails
  | cons _ before =>
    cases same
    exact rest before found behind code rfl fails

theorem Uncommitting.stops (quiet : Uncommitting events) : StopsAtFailure outcome events := by
  rintro before event behind code rfl fails
  exact absurd fails (quiet.not_fails (List.mem_append_right _ List.mem_cons_self))

/-- What did not fail for the driver is followed by anything that stops. -/
theorem StopsAtFailure.append {first : Except Error β} (one : StopsAtFailure first earlier)
    (passed : ∀ cause, first ≠ .error (.driver cause)) (other : StopsAtFailure outcome later) :
    StopsAtFailure outcome (earlier ++ later) := by
  intro before event behind code same fails
  rcases List.append_eq_append_iff.mp same with ⟨middle, rfl, rest⟩ | ⟨middle, rfl, rest⟩
  · exact other middle event behind code rest fails
  · cases middle with
    | nil => exact other [] event behind code rest.symm fails
    | cons _ middle =>
      cases rest
      exact absurd (one before event middle code rfl fails).1 (passed _)

theorem StopsAtFailure.append_uncommitting (one : StopsAtFailure outcome earlier)
    (quiet : Uncommitting later) : StopsAtFailure outcome (earlier ++ later) := by
  intro before event behind code same fails
  rcases List.append_eq_append_iff.mp same with ⟨middle, rfl, rest⟩ | ⟨middle, rfl, rest⟩
  · have member : event ∈ later := rest ▸ List.mem_append_right _ List.mem_cons_self
    exact absurd fails (quiet.not_fails member)
  · cases middle with
    | nil =>
      have whole : event :: behind = later := rest
      have member : event ∈ later := whole ▸ List.mem_cons_self
      exact absurd fails (quiet.not_fails member)
    | cons _ middle =>
      cases rest
      obtain ⟨ended, uncommitting⟩ := one before event middle code rfl fails
      exact ⟨ended, uncommitting.append quiet⟩

theorem FailsForCommit.mono (one : FailsForCommit outcome events)
    (subset : ∀ event ∈ events, event ∈ later) : FailsForCommit outcome later := by
  intro cause failed
  obtain ⟨code, same, event, member, fails⟩ := one cause failed
  exact ⟨code, same, event, subset event member, fails⟩

end Laws

section Laws

variable {vaddr size : Nat} {device : Int} {events : List Event}

/-- The last call of a commit that may refuse it decides its end. -/
theorem CommitCalls.stops {answer : Except DriverError Unit}
    (calls : CommitCalls vaddr size device answer events) :
    StopsAtFailure (answer.mapError Error.ofDriver) events := by
  have quiet : ∀ {kind : CallKind}, kind ∉ CallKind.commitSteps → ∀ {event : Event},
      event.kind? = some kind → ∀ {later : List Event}, Uncommitting later →
      Uncommitting (event :: later) := by
    intro kind other event same later uncommitting found member step listed same'
    rcases List.mem_cons.mp member with rfl | behind
    · rw [same] at same'
      cases same'
      exact other listed
    · exact uncommitting found behind step listed same'
  have released : ∀ (memory : PhysicalHandle) (answer : Except DriverError Unit),
      Uncommitting [.called (.release memory) answer] := fun memory answer =>
    quiet (by decide : CallKind.release ∉ _) rfl uncommitting_nil
  have ended : ∀ {call : DriverCall} {cause : DriverError} {later : List Event},
      Uncommitting later →
      ∀ code, (Event.called call (.error cause)).FailsCommit code →
        (.error (.ofDriver cause) : Except Error Unit) = .error (.driver (.failed code)) ∧
          Uncommitting later := by
    rintro call cause later uncommitting code ⟨rfl, -⟩
    exact ⟨rfl, uncommitting⟩
  cases calls with
  | refused cause => exact .cons (ended uncommitting_nil) uncommitting_nil.stops
  | unmapped memory cause answer =>
    exact .cons (fun _ fails => fails.elim)
      (.cons (ended (released memory answer)) (released memory answer).stops)
  | inaccessible memory cause unmapped answer =>
    have undone : Uncommitting [.called (.unmap vaddr size) unmapped,
        .called (.release memory) answer] :=
      quiet (by decide : CallKind.unmap ∉ _) rfl (released memory answer)
    exact .cons (fun _ fails => fails.elim) (.cons (fun _ fails => fails.elim)
      (.cons (ended undone) undone.stops))
  | committed memory =>
    exact .cons (fun _ fails => fails.elim) (.cons (fun _ fails => fails.elim)
      (.cons (fun _ fails => fails.elim) uncommitting_nil.stops))

theorem CommitCalls.failsForCommit {answer : Except DriverError Unit}
    (calls : CommitCalls vaddr size device answer events) :
    FailsForCommit (answer.mapError Error.ofDriver) events := by
  have steps : ∀ {cause : DriverError} {call : DriverCall}, call.kind ∈ CallKind.commitSteps →
      .called call (.error cause) ∈ events →
      FailsForCommit (.error (.ofDriver cause) : Except Error Unit) events := by
    intro cause call step member refusal failed
    cases cause with
    | outOfMemory => cases failed
    | failed code =>
      cases failed
      exact ⟨code, rfl, _, member, rfl, step⟩
  cases calls with
  | refused cause => exact steps (by decide : CallKind.create ∈ _) List.mem_cons_self
  | unmapped memory cause answer =>
    exact steps (by decide : CallKind.map ∈ _) (List.mem_cons_of_mem _ List.mem_cons_self)
  | inaccessible memory cause unmapped answer =>
    exact steps (by decide : CallKind.setAccess ∈ _)
      (List.mem_cons_of_mem _ (List.mem_cons_of_mem _ List.mem_cons_self))
  | committed memory => exact fun cause failed => nomatch failed

theorem BackCalls.decides {result : Except Error Unit}
    (calls : BackCalls vaddr size device result events) : FailureDecides result events := by
  have mild : ∀ cause, (.error .outOfMemory : Except Error Unit) ≠ .error (.driver cause) :=
    fun cause failed => nomatch failed
  cases calls with
  | once attempt settled => exact ⟨attempt.stops, attempt.failsForCommit⟩
  | cancelled exhausted reclaim =>
    exact ⟨exhausted.stops.append_uncommitting reclaim.uncommitting,
      fun cause failed => absurd failed (mild cause)⟩
  | twice exhausted reclaim again =>
    refine ⟨(exhausted.stops.append_uncommitting reclaim.uncommitting).append mild again.stops, ?_⟩
    exact again.failsForCommit.mono fun _ member => List.mem_append_right _ member

theorem SupplyCalls.decides {start : Nat} {result : Except Error Unit}
    (calls : SupplyCalls start result events) : FailureDecides result events := by
  induction calls with
  | done start => exact ⟨uncommitting_nil.stops, fun cause failed => nomatch failed⟩
  | left start other =>
    refine ⟨uncommitting_nil.stops, fun cause failed => ?_⟩
    cases failed
    exact absurd rfl (other cause)
  | next _ _ backed _ ih =>
    refine ⟨backed.decides.stops.append (fun cause failed => nomatch failed) ih.stops, ?_⟩
    exact ih.caused.mono fun _ member => List.mem_append_right _ member
  | stopped _ _ refused => exact refused.decides

/-- The same supply may have started earlier. -/
theorem SupplyCalls.mono {start earlier : Nat} {result : Except Error Unit}
    (calls : SupplyCalls start result events) (less : earlier ≤ start) :
    SupplyCalls earlier result events := by
  cases calls with
  | done => exact .done earlier
  | left _ other => exact .left earlier other
  | next ahead positive backed rest => exact .next (Nat.le_trans less ahead) positive backed rest
  | stopped ahead positive refused => exact .stopped (Nat.le_trans less ahead) positive refused

section SuppliedOnce

variable {α β : Type} {outcome : Except Error α} {earlier later : List Event}

/-- An operation that asks for no memory. -/
theorem SuppliedOnce.left {cause : Error} (other : ∀ refusal, cause ≠ .driver refusal)
    (quiet : Uncommitting events) : SuppliedOnce (.error cause : Except Error α) events :=
  ⟨events, [], [], by simp, quiet, uncommitting_nil, .left 0 other⟩

theorem SuppliedOnce.of_supply {start : Nat} (calls : SupplyCalls start (outcome.map fun _ => ())
    events) : SuppliedOnce outcome events :=
  ⟨[], events, [], by simp, uncommitting_nil, uncommitting_nil, calls.mono (Nat.zero_le _)⟩

theorem SuppliedOnce.behind (supplied : SuppliedOnce outcome later) (quiet : Uncommitting earlier) :
    SuppliedOnce outcome (earlier ++ later) := by
  obtain ⟨before, supply, after, rfl, quiet', quiet'', calls⟩ := supplied
  exact ⟨earlier ++ before, supply, after, by simp, quiet.append quiet', quiet'', calls⟩

theorem SuppliedOnce.before (supplied : SuppliedOnce outcome earlier) (quiet : Uncommitting later) :
    SuppliedOnce outcome (earlier ++ later) := by
  obtain ⟨before, supply, after, rfl, quiet', quiet'', calls⟩ := supplied
  exact ⟨before, supply, after ++ later, by simp, quiet', quiet''.append quiet, calls⟩

/-- What an operation hands out is not in its calls. -/
theorem SuppliedOnce.congr {outcome' : Except Error β} (supplied : SuppliedOnce outcome events)
    (same : (outcome'.map fun _ => ()) = outcome.map fun _ => ()) :
    SuppliedOnce outcome' events := by
  obtain ⟨before, supply, after, whole, quiet, quiet', calls⟩ := supplied
  exact ⟨before, supply, after, whole, quiet, quiet', same ▸ calls⟩

end SuppliedOnce

/-- The outcome of an operation is the end of its supply. -/
theorem SuppliedOnce.decides {α : Type} {outcome : Except Error α}
    (supplied : SuppliedOnce outcome events) : FailureDecides outcome events := by
  obtain ⟨before, supply, after, rfl, quiet, quiet', calls⟩ := supplied
  have back : ∀ {cause : Error}, (outcome.map fun _ => ()) = .error cause →
      outcome = .error cause := by
    intro cause failed
    cases outcome with
    | ok value => cases failed
    | error cause' =>
      cases failed
      rfl
  have decides := calls.decides
  have passed : StopsAtFailure (.ok () : Except Error Unit) before := quiet.stops
  have led : StopsAtFailure (outcome.map fun _ => ()) (before ++ supply) :=
    passed.append (fun cause failed => nomatch failed) decides.stops
  refine ⟨fun earlier event later code same fails => ?_, fun cause failed => ?_⟩
  · obtain ⟨ended, rest⟩ := led.append_uncommitting quiet' earlier event later code same fails
    exact ⟨back ended, rest⟩
  · obtain ⟨code, same, event, member, fails⟩ := decides.caused cause (by rw [failed]; rfl)
    exact ⟨code, same, event,
      List.mem_append_left _ (List.mem_append_right _ member), fails⟩

end Laws

end VramOvercommit
