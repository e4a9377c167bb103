import Mathlib.Logic.Relation
import VramOvercommit.Engine.Eviction
import VramOvercommit.Proofs.Ensures

set_option autoImplicit false

/-!
What a step does, action by action. A step is a path of driver calls and changes of the tables. It is
walked through once, for the kinds of actions it takes, and whatever no action of these kinds does,
the step does not do either, wherever it ends.
-/

namespace VramOvercommit

open EngineM
open Attempt (lift)

/-! ## Both ends of a step -/

/-- What holds where a step is done, and what holds where it aborts. -/
def Ends {ε σ α : Type} (step : EStateM ε σ α) (state : σ) (done : α → σ → Prop)
    (aborted : σ → Prop) : Prop :=
  match step state with
  | .ok value after => done value after
  | .error _ after => aborted after

section Ends

variable {ε σ α β : Type} {state : σ} {step : EStateM ε σ α} {done : α → σ → Prop}
  {aborted : σ → Prop}

theorem Ends.mono {more : α → σ → Prop} {moreAborted : σ → Prop}
    (ended : Ends step state done aborted)
    (weaker : ∀ value after, done value after → more value after)
    (weakerAborted : ∀ after, aborted after → moreAborted after) :
    Ends step state more moreAborted := by
  unfold Ends at *
  split
  · rename_i value after ran
    rw [ran] at ended
    exact weaker value after ended
  · rename_i cause after ran
    rw [ran] at ended
    exact weakerAborted after ended

theorem Ends.of_ok {value : α} {after : σ} (ran : step state = .ok value after)
    (held : done value after) : Ends step state done aborted := by
  unfold Ends
  rw [ran]
  exact held

/-- Two things that are known of the ends of one step. -/
theorem Ends.also {more : α → σ → Prop} {moreAborted : σ → Prop}
    (ended : Ends step state done aborted) (other : Ends step state more moreAborted) :
    Ends step state (fun value after => done value after ∧ more value after)
      fun after => aborted after ∧ moreAborted after := by
  unfold Ends at *
  split
  · rename_i value after ran
    rw [ran] at ended other
    exact ⟨ended, other⟩
  · rename_i cause after ran
    rw [ran] at ended other
    exact ⟨ended, other⟩

/-- A step that aborts leads to nothing else; one that is done leads to the rest. -/
theorem Ends.bind {next : α → EStateM ε σ β} {post : β → σ → Prop}
    (first : Ends step state done aborted)
    (others : ∀ value after, step state = .ok value after → done value after →
      Ends (next value) after post aborted) : Ends (step >>= next) state post aborted := by
  unfold Ends at first ⊢
  change match EStateM.bind step next state with
    | .ok value after => post value after
    | .error _ after => aborted after
  unfold EStateM.bind
  cases ran : step state with
  | error cause after =>
    rw [ran] at first
    exact first
  | ok value middle =>
    rw [ran] at first
    exact others value middle ran first

theorem Ends.ensures (ended : Ends step state done aborted) :
    Ensures (fun _ => True) step state done := by
  unfold Ends at ended
  unfold Ensures
  split
  · rename_i value after ran
    rwa [ran] at ended
  · trivial

end Ends

section Attempts

variable {σ α β : Type} {context : Context σ} {aborted : Context σ → Prop}

/-- A step that cannot fail, before those that can. -/
theorem Attempt.run_lift_bind (step : EngineM σ α) (next : α → Attempt σ β) :
    (lift step >>= next).run = step >>= fun value => (next value).run := by
  funext context
  change EStateM.bind (EStateM.map Except.ok step) _ context = EStateM.bind step _ context
  unfold EStateM.bind EStateM.map
  cases step context <;> rfl

/-- What follows a failure is left out. -/
theorem Ends.run_bind {step : Attempt σ α} {next : α → Attempt σ β}
    {done : Except Error α → Context σ → Prop} {post : Except Error β → Context σ → Prop}
    (first : Ends step.run context done aborted)
    (ok : ∀ value after, done (.ok value) after → Ends (next value).run after post aborted)
    (error : ∀ cause after, done (.error cause) after → post (.error cause) after) :
    Ends (step >>= next).run context post aborted := by
  change Ends (step.run >>= ExceptT.bindCont next) context post aborted
  refine first.bind fun result after _ outcome => ?_
  cases result with
  | ok value => exact ok value after outcome
  | error cause => exact error cause after outcome

theorem Ends.engine_bind {next : Engine → EngineM σ β} {post : β → Context σ → Prop}
    (others : Ends (next context.engine) context post aborted) :
    Ends (engine >>= next) context post aborted := others

theorem Ends.log_bind [Host σ] {notice : Notice} {next : Unit → EngineM σ β}
    {post : β → Context σ → Prop}
    (others : Ends (next ()) { context with host := Host.log notice context.host } post aborted) :
    Ends (log notice >>= next) context post aborted := others

/-- A step on a buffer is done with the one at the address, if there is one. -/
theorem Ends.run_buffer_bind {base : Nat} {next : Buffer → Attempt σ β}
    {post : Except Error β → Context σ → Prop}
    (found : ∀ buffer, context.engine.buffers.get? base = some buffer →
      Ends (next buffer).run context post aborted)
    (unknown : context.engine.buffers.get? base = none → post (.error .invalidHandle) context) :
    Ends (Attempt.buffer base >>= next).run context post aborted := by
  have read : Ends (Attempt.buffer base).run context (fun result after => after = context ∧
      result = (context.engine.buffers.get? base).elim (.error .invalidHandle) .ok) aborted := by
    have given : Ensures (fun _ => False) (Attempt.buffer base).run context
        (fun result after => after = context ∧
          result = (context.engine.buffers.get? base).elim (.error .invalidHandle) .ok) := by
      rw [Attempt.ensures_buffer]
      cases context.engine.buffers.get? base <;> exact ⟨rfl, rfl⟩
    obtain ⟨_, _, ran, rfl, rfl⟩ := given.exists_ok
    exact .of_ok ran ⟨rfl, rfl⟩
  refine read.run_bind (fun buffer after outcome => ?_) fun cause after outcome => ?_
  · obtain ⟨rfl, same⟩ := outcome
    cases present : after.engine.buffers.get? base with
    | none =>
      rw [present] at same
      cases same
    | some buffer =>
      rw [present] at same
      cases same
      exact found _ present
  · obtain ⟨rfl, same⟩ := outcome
    cases present : after.engine.buffers.get? base with
    | none =>
      rw [present] at same
      cases same
      exact unknown present
    | some buffer =>
      rw [present] at same
      cases same

end Attempts

/-! ## Passages -/

/-- A relation between the contexts before and after a step, and one for a step that aborts. -/
structure Passage (σ : Type) where
  leads : Context σ → Context σ → Prop
  breaks : Context σ → Context σ → Prop
  refl : ∀ context, leads context context
  trans : ∀ {first second third : Context σ}, leads first second → leads second third →
    leads first third
  stop : ∀ context, breaks context context
  late : ∀ {first second third : Context σ}, leads first second → breaks second third →
    breaks first third

/-- The step, run from a context, stays within the passage wherever it ends. -/
def PassesFrom {σ α : Type} (passage : Passage σ) (context : Context σ) (step : EngineM σ α) :
    Prop :=
  Ends step context (fun _ after => passage.leads context after) (passage.breaks context)

/-- The step stays within the passage, whatever context it is run from. -/
def Passes {σ α : Type} (passage : Passage σ) (step : EngineM σ α) : Prop :=
  ∀ context : Context σ, PassesFrom passage context step

theorem PassesFrom.bind {σ α β : Type} {passage : Passage σ} {context : Context σ}
    {step : EngineM σ α} {next : α → EngineM σ β} (first : PassesFrom passage context step)
    (others : ∀ value after, step context = .ok value after →
      PassesFrom passage after (next value)) : PassesFrom passage context (step >>= next) :=
  Ends.bind first fun value after ran leads => (others value after ran).mono
    (fun _ _ more => passage.trans leads more) fun _ broken => passage.late leads broken

namespace Passes

variable {σ α β : Type} {passage : Passage σ}

theorem bind {step : EngineM σ α} {next : α → EngineM σ β} (first : Passes passage step)
    (others : ∀ value, Passes passage (next value)) : Passes passage (step >>= next) :=
  fun context => (first context).bind fun value after _ => others value after

/-- A passage through which another one leads. -/
theorem weaken {other : Passage σ} {step : EngineM σ α} (passes : Passes passage step)
    (leads : ∀ {context after}, passage.leads context after → other.leads context after)
    (breaks : ∀ {context after}, passage.breaks context after → other.breaks context after) :
    Passes other step :=
  fun context => (passes context).mono (fun _ _ => leads) fun _ => breaks

theorem pure (value : α) : Passes passage (Pure.pure value : EngineM σ α) :=
  passage.refl

theorem abort (cause : Abort) : Passes passage (EngineM.abort cause : EngineM σ α) := passage.stop

theorem engine : Passes passage (EngineM.engine : EngineM σ Engine) := passage.refl

theorem pageSize : Passes passage (EngineM.pageSize : EngineM σ Nat) := passage.refl

theorem vbar? (handle : Handle) : Passes passage (EngineM.vbar? handle : EngineM σ (Option Vbar)) :=
  passage.refl

theorem ensure (value : Except Abort α) : Passes passage (EngineM.ensure value : EngineM σ α) := by
  cases value with
  | ok value => exact pure value
  | error cause => exact abort cause

theorem word (value : Nat) : Passes passage (EngineM.word value : EngineM σ Nat) := by
  unfold EngineM.word
  split
  · exact pure value
  · exact abort .overflow

theorem forM {items : List α} {step : α → EngineM σ Unit}
    (each : ∀ item, Passes passage (step item)) : Passes passage (items.forM step) := by
  induction items with
  | nil => exact pure ()
  | cons item rest ih => exact (each item).bind fun _ => ih

theorem checkVbars : Passes passage (EngineM.checkVbars : EngineM σ Unit) :=
  engine.bind fun _ => forM fun _ => ensure _

/-! ### Steps that can fail -/

theorem run_lift {step : EngineM σ α} (passes : Passes passage step) :
    Passes passage (lift step).run :=
  passes.bind fun value => pure (Except.ok value)

theorem run_bind {step : Attempt σ α} {next : α → Attempt σ β} (first : Passes passage step.run)
    (others : ∀ value, Passes passage (next value).run) : Passes passage (step >>= next).run :=
  first.bind fun result => match result with
    | .ok value => others value
    | .error cause => pure (Except.error cause)

/-- A step that cannot fail before those that can. -/
theorem lift_bind {step : EngineM σ α} {next : α → Attempt σ β} (first : Passes passage step)
    (others : ∀ value, Passes passage (next value).run) : Passes passage (lift step >>= next).run :=
  first.run_lift.run_bind others

theorem run_vbar (handle : Handle) : Passes passage (Attempt.vbar handle : Attempt σ Vbar).run := by
  refine (vbar? handle).lift_bind fun found => ?_
  cases found <;> exact pure _

theorem run_buffer (base : Nat) : Passes passage (Attempt.buffer base : Attempt σ Buffer).run := by
  refine engine.lift_bind fun engine => ?_
  split <;> exact pure _

end Passes

/-! ## Actions -/

/-- What a budget is fixed to when a context opens. -/
structure Budget.SameLimits (before after : Budget) : Prop where
  capacity : after.capacity = before.capacity
  headroom : after.headroom = before.headroom
  platformHeadroom : after.platformHeadroom = before.platformHeadroom
  pollInterval : after.pollInterval = before.pollInterval

theorem Budget.SameLimits.refl (budget : Budget) : budget.SameLimits budget := ⟨rfl, rfl, rfl, rfl⟩

theorem Budget.SameLimits.trans {before middle after : Budget} (first : before.SameLimits middle)
    (second : middle.SameLimits after) : before.SameLimits after :=
  ⟨second.capacity.trans first.capacity, second.headroom.trans first.headroom,
    second.platformHeadroom.trans first.platformHeadroom,
    second.pollInterval.trans first.pollInterval⟩

theorem Budget.sameLimits_of_recordCommit {before after : Budget} {size : Nat}
    (recorded : before.recordCommit size = .ok after) : before.SameLimits after := by
  unfold Budget.recordCommit at recorded
  split at recorded <;> cases recorded
  exact ⟨rfl, rfl, rfl, rfl⟩

theorem Budget.sameLimits_of_recordRelease {before after : Budget} {size : Nat}
    (recorded : before.recordRelease size = .ok after) : before.SameLimits after := by
  unfold Budget.recordRelease at recorded
  split at recorded <;> cases recorded
  exact ⟨rfl, rfl, rfl, rfl⟩

/-- The kinds of actions that a step may be denied. -/
inductive ActionKind where
  | call (kind : CallKind)
  /-- A VBAR is changed in its place. -/
  | writeVbar
  /-- A VBAR gets another priority. -/
  | moveVbar
  | addVbar
  | removeVbar
  /-- The table of buffers is changed. -/
  | writeBuffers
  /-- The mark of a change is taken away. -/
  | clearMark
  deriving DecidableEq, Repr

variable {σ : Type} [Host σ] {kinds : List ActionKind}

/-- One action of one of the kinds. Notices, questions to the host, the account within its limits and
to mark a change are open to every step. -/
inductive Action (kinds : List ActionKind) (context : Context σ) : Context σ → Prop where
  | log (notice : Notice) :
      Action kinds context { context with host := Host.log notice context.host }
  | clock : Action kinds context
      { context with host := ((Host.clock : StateM σ Nat) context.host).2 }
  | platformBudget : Action kinds context
      { context with
        host := ((Host.platformBudget : StateM σ (Option PlatformBudget)) context.host).2 }
  | allocates (table : HostTable) (count : Nat) : Action kinds context
      { context with host := (Host.allocates table count context.host).2 }
  | setBudget {budget : Budget} (limits : context.engine.budget.SameLimits budget) :
      Action kinds context { context with engine := { context.engine with budget } }
  | mark : Action kinds context { context with engine := { context.engine with dirty := true } }
  | clearMark (allowed : .clearMark ∈ kinds) :
      Action kinds context { context with engine := { context.engine with dirty := false } }
  | call {driverCall : DriverCall} {answer : Except DriverError driverCall.Answer} {host : σ}
      (allowed : .call driverCall.kind ∈ kinds)
      (answered : Host.call driverCall context.host = .ok answer host) :
      Action kinds context { context with host }
  | writeVbar (allowed : .writeVbar ∈ kinds) (handle : Handle) (vbar : Vbar) :
      Action kinds context
        { context with engine :=
          { context.engine with vbars := context.engine.vbars.set handle vbar } }
  | moveVbar (allowed : .moveVbar ∈ kinds) {handle : Handle} {vbars : PriorityList Vbar}
      {found : Bool} (moved : context.engine.vbars.moveToHighest handle = .ok (vbars, found) ∨
        context.engine.vbars.moveToLowest handle = .ok (vbars, found)) :
      Action kinds context { context with engine := { context.engine with vbars } }
  | addVbar (allowed : .addVbar ∈ kinds) {vbar : Vbar} {handle : Handle}
      {vbars : PriorityList Vbar}
      (added : context.engine.vbars.pushHighest vbar = .ok (vbars, handle)) :
      Action kinds context { context with engine := { context.engine with vbars } }
  | removeVbar (allowed : .removeVbar ∈ kinds) {handle : Handle} {vbars : PriorityList Vbar}
      {found : Option Vbar} (removed : context.engine.vbars.remove handle = .ok (vbars, found)) :
      Action kinds context { context with engine := { context.engine with vbars } }
  | writeBuffers (allowed : .writeBuffers ∈ kinds) (buffers : NatMap Buffer) :
      Action kinds context { context with engine := { context.engine with buffers } }

/-- Actions of some kinds, one after the other. -/
abbrev Actions (kinds : List ActionKind) : Context σ → Context σ → Prop :=
  Relation.ReflTransGen (Action kinds)

theorem Actions.buffers {context after : Context σ} (actions : Actions kinds context after)
    (denied : .writeBuffers ∉ kinds) : after.engine.buffers = context.engine.buffers := by
  induction actions with
  | refl => rfl
  | tail _ action ih =>
    cases action with
    | writeBuffers allowed _ => exact absurd allowed denied
    | _ => exact ih

/-- No action changes the configuration. -/
theorem Actions.config {context after : Context σ} (actions : Actions kinds context after) :
    after.engine.config = context.engine.config := by
  induction actions with
  | refl => rfl
  | tail _ action ih => cases action <;> exact ih

/-- No action changes what the account is measured against. -/
theorem Actions.limits {context after : Context σ} (actions : Actions kinds context after) :
    context.engine.budget.SameLimits after.engine.budget := by
  induction actions with
  | refl => exact .refl _
  | tail _ action ih =>
    cases action with
    | setBudget limits => exact ih.trans limits
    | _ => exact ih

/-- The table of VBARs stays as it is without the actions that change it. -/
theorem Actions.vbars {context after : Context σ} (actions : Actions kinds context after)
    (denied : ∀ kind ∈ [ActionKind.writeVbar, .moveVbar, .addVbar, .removeVbar], kind ∉ kinds) :
    after.engine.vbars = context.engine.vbars := by
  simp only [List.forall_mem_cons] at denied
  obtain ⟨write, move, add, remove, -⟩ := denied
  induction actions with
  | refl => rfl
  | tail _ action ih =>
    cases action with
    | writeVbar allowed => exact absurd allowed write
    | moveVbar allowed => exact absurd allowed move
    | addVbar allowed => exact absurd allowed add
    | removeVbar allowed => exact absurd allowed remove
    | _ => exact ih

/-- Actions of some kinds up to a call on which the driver gave up, or to another broken
assumption. -/
inductive Broken (kinds : List ActionKind) (context : Context σ) : Context σ → Prop where
  | stopped {after : Context σ} (actions : Actions kinds context after) :
      Broken kinds context after
  | unanswered {last : Context σ} {driverCall : DriverCall} {host : σ}
      (actions : Actions kinds context last) (allowed : .call driverCall.kind ∈ kinds)
      (overflowed : Host.call driverCall last.host = .error ⟨⟩ host) :
      Broken kinds context { last with host }

theorem Action.mono {more : List ActionKind} {context after : Context σ}
    (action : Action kinds context after) (subset : kinds ⊆ more) :
    Action more context after := by
  cases action with
  | log notice => exact .log notice
  | clock => exact .clock
  | platformBudget => exact .platformBudget
  | allocates table count => exact .allocates table count
  | setBudget limits => exact .setBudget limits
  | mark => exact .mark
  | clearMark allowed => exact .clearMark (subset allowed)
  | call allowed answered => exact .call (subset allowed) answered
  | writeVbar allowed handle vbar => exact .writeVbar (subset allowed) handle vbar
  | moveVbar allowed moved => exact .moveVbar (subset allowed) moved
  | addVbar allowed added => exact .addVbar (subset allowed) added
  | removeVbar allowed removed => exact .removeVbar (subset allowed) removed
  | writeBuffers allowed buffers => exact .writeBuffers (subset allowed) buffers

/-- What actions of some kinds lead to. -/
def acting (kinds : List ActionKind) : Passage σ where
  leads := Actions kinds
  breaks := Broken kinds
  refl _ := .refl
  trans := .trans
  stop _ := .stopped .refl
  late := by
    intro first second third actions broken
    cases broken with
    | stopped more => exact .stopped (actions.trans more)
    | unanswered more allowed overflowed => exact .unanswered (actions.trans more) allowed overflowed

/-- The step takes actions of these kinds only, wherever it ends. -/
abbrev Only {α : Type} (kinds : List ActionKind) (step : EngineM σ α) : Prop :=
  Passes (acting kinds) step

namespace Only

variable {α β : Type}

theorem mono {more : List ActionKind} {step : EngineM σ α} (only : Only kinds step)
    (subset : kinds ⊆ more) : Only more step := by
  have widen : ∀ {context after : Context σ}, Actions kinds context after →
      Actions more context after :=
    fun actions => actions.lift id fun _ _ action => action.mono subset
  refine Passes.weaken only widen fun broken => ?_
  cases broken with
  | stopped actions => exact .stopped (widen actions)
  | unanswered actions allowed overflowed =>
    exact .unanswered (widen actions) (subset allowed) overflowed

/-- A step of a single action. -/
theorem of_action {step : EngineM σ Unit} {change : Context σ → Context σ}
    (done : ∀ context, step context = .ok () (change context))
    (action : ∀ context, Action kinds context (change context)) : Only kinds step := by
  exact fun context => Ends.of_ok (done context) (.single (action context))

theorem log (notice : Notice) : Only kinds (EngineM.log notice : EngineM σ Unit) :=
  of_action (fun _ => rfl) fun _ => .log notice

/-- A step that moves the account within its limits. -/
theorem changeBudget {change : Budget → Except Abort Budget}
    (limits : ∀ {before after : Budget}, change before = .ok after → before.SameLimits after) :
    Only kinds (do
      let engine ← EngineM.engine
      let budget ← EngineM.ensure (change engine.budget)
      EngineM.setBudget budget : EngineM σ Unit) := by
  intro context
  refine (Passes.engine context).bind fun engine after read => ?_
  cases read
  refine (Passes.ensure _ context).bind fun budget after found => ?_
  cases ran : change context.engine.budget with
  | error cause =>
    rw [ran] at found
    cases found
  | ok value =>
    rw [ran] at found
    cases found
    exact .of_ok rfl (.single (.setBudget (limits ran)))

theorem mark : Only kinds (markDirty : EngineM σ Unit) := of_action (fun _ => rfl) fun _ => .mark

theorem clearMark (allowed : .clearMark ∈ kinds) :
    Only kinds (EngineM.modifyEngine ({ · with dirty := false }) : EngineM σ Unit) :=
  of_action (fun _ => rfl) fun _ => .clearMark allowed

theorem clock : Only kinds (onHost (HostM.ask Host.clock) : EngineM σ Nat) :=
  fun _ => .single .clock

theorem platformBudget :
    Only kinds (onHost (HostM.ask Host.platformBudget) : EngineM σ (Option PlatformBudget)) :=
  fun _ => .single .platformBudget

theorem allocates (table : HostTable) (count : Nat) :
    Only kinds (EngineM.allocates table count : EngineM σ Bool) := by
  intro context
  change Actions kinds context { context with host := (Host.room table count context.host).2 }
  rcases Host.room_cases table count context.host with same | asked
  · rw [same]
  · rw [asked]
    exact .single (.allocates table count)

theorem allocatesBeside (table : HostTable) (held count bytesEach : Nat) :
    Only kinds (EngineM.allocatesBeside table held count bytesEach : EngineM σ Bool) := by
  intro context
  change Actions kinds context
    { context with host := (Host.roomBeside table held count bytesEach context.host).2 }
  rcases Host.roomBeside_cases table held count bytesEach context.host with same | asked
  · rw [same]
  · rw [asked]
    exact .single (.allocates table count)

theorem putVbar (allowed : .writeVbar ∈ kinds) (handle : Handle) (vbar : Vbar) :
    Only kinds (EngineM.putVbar handle vbar : EngineM σ Unit) :=
  of_action (fun _ => rfl) fun _ => .writeVbar allowed handle vbar

theorem putBuffer (allowed : .writeBuffers ∈ kinds) (buffer : Buffer) :
    Only kinds (EngineM.putBuffer buffer : EngineM σ Unit) :=
  of_action (fun _ => rfl) fun _ => .writeBuffers allowed _

theorem writeBuffers (allowed : .writeBuffers ∈ kinds) (change : NatMap Buffer → NatMap Buffer) :
    Only kinds (EngineM.modifyEngine fun engine =>
      { engine with buffers := change engine.buffers } : EngineM σ Unit) :=
  of_action (fun _ => rfl) fun _ => .writeBuffers allowed _

/-- A step that goes on with the table of VBARs as an operation of the table leaves it. -/
theorem changeVbars (change : PriorityList Vbar → Except Abort (PriorityList Vbar × β))
    {rest : PriorityList Vbar × β → EngineM σ α}
    (others : ∀ {context : Context σ} {vbars : PriorityList Vbar} {extra : β},
      change context.engine.vbars = .ok (vbars, extra) →
      PassesFrom (acting kinds) context (rest (vbars, extra))) :
    Only kinds (do
      let engine ← EngineM.engine
      let changed ← EngineM.ensure (change engine.vbars)
      rest changed) := by
  intro context
  refine (Passes.engine context).bind fun engine after read => ?_
  cases read
  refine (Passes.ensure _ context).bind fun changed after found => ?_
  cases ran : change context.engine.vbars with
  | error cause =>
    rw [ran] at found
    cases found
  | ok value =>
    rw [ran] at found
    cases found
    exact others ran

theorem setVbars_bind {context : Context σ} {vbars : PriorityList Vbar}
    {next : Unit → EngineM σ α}
    (action : Action kinds context { context with engine := { context.engine with vbars } })
    (others : ∀ value, Only kinds (next value)) :
    PassesFrom (acting kinds) context (EngineM.setVbars vbars >>= next) := by
  have written : PassesFrom (acting kinds) context (EngineM.setVbars vbars) := .single action
  exact written.bind fun value after _ => others value after

theorem call {driverCall : DriverCall} (kind : CallKind) (allowed : .call kind ∈ kinds)
    (same : driverCall.kind = kind := by rfl) :
    Only kinds (EngineM.call driverCall : EngineM σ _) := by
  subst same
  intro context
  unfold PassesFrom Ends EngineM.call onHost HostM.call
  cases answered : Host.call driverCall context.host with
  | ok answer host => exact .single (.call allowed answered)
  | error overflow host => exact .unanswered .refl allowed answered

/-- A call with what follows each of its answers. -/
theorem call_bind {driverCall : DriverCall}
    {next : Except DriverError driverCall.Answer → EngineM σ β} (kind : CallKind)
    (allowed : .call kind ∈ kinds) (ok : ∀ answer, Only kinds (next (.ok answer)))
    (error : ∀ cause, Only kinds (next (.error cause)))
    (same : driverCall.kind = kind := by rfl) :
    Only kinds (EngineM.call driverCall >>= next) :=
  (call kind allowed same).bind fun answer => match answer with
    | .ok answer => ok answer
    | .error cause => error cause

end Only

/-! ## Memory -/

namespace Memory

theorem giveBack_only (releases : .call .release ∈ kinds) (memory : PhysicalHandle) :
    Only kinds (giveBack memory : EngineM σ Unit) :=
  .call_bind .release releases (fun _ => .pure ()) fun _ => .log _

theorem recordCommit_only (size : Nat) : Only kinds (recordCommit size : EngineM σ Unit) :=
  Only.changeBudget Budget.sameLimits_of_recordCommit

theorem recordRelease_only (size : Nat) : Only kinds (recordRelease size : EngineM σ Unit) :=
  Only.changeBudget Budget.sameLimits_of_recordRelease

theorem release_only (unmaps : .call .unmap ∈ kinds) (releases : .call .release ∈ kinds)
    (vaddr size : Nat) (memory : PhysicalHandle) :
    Only kinds (release vaddr size memory : EngineM σ Unit) := by
  have others : Only kinds (do
      giveBack memory
      recordRelease size
      EngineM.log (.released size vaddr) : EngineM σ Unit) :=
    (giveBack_only releases memory).bind fun _ => (recordRelease_only size).bind fun _ =>
      Only.log _
  exact .call_bind .unmap unmaps (fun _ => (Passes.pure ()).bind fun _ => others)
    fun _ => (Only.log _).bind fun _ => others

theorem synchronize_only (waits : .call .synchronize ∈ kinds) :
    Only kinds (synchronize : EngineM σ Unit) :=
  .call_bind .synchronize waits (fun _ => .pure ()) fun _ => .log _

/-- What a commit takes; the last two undo one that fails. -/
def committing : List ActionKind :=
  [.call .create, .call .map, .call .setAccess, .call .unmap, .call .release]

theorem commit_only (vaddr size : Nat) (device : Int) :
    Only committing (commit vaddr size device :
      EngineM σ (Except DriverError PhysicalHandle)) := by
  have undone : ∀ (memory : PhysicalHandle) (cause : DriverError), Only committing (do
      giveBack memory
      return .error cause : EngineM σ (Except DriverError PhysicalHandle)) := fun memory cause =>
    (giveBack_only (by decide) memory).bind fun _ => .pure _
  refine .call_bind .create (by decide) (fun memory => ?_) fun cause => .pure _
  refine .call_bind .map (by decide) (fun _ => ?_) fun cause => undone memory cause
  refine .call_bind .setAccess (by decide) (fun _ => ?_) fun cause => ?_
  · exact (recordCommit_only size).bind fun _ => (Only.log _).bind fun _ => .pure _
  · exact .call_bind .unmap (by decide) (fun _ => (Passes.pure ()).bind fun _ => undone memory cause)
      fun _ => (Only.log _).bind fun _ => undone memory cause

end Memory

/-! ## Reclaiming -/

namespace Eviction

/-- What reclaiming memory takes. -/
def reclaiming : List ActionKind :=
  [.call .synchronize, .call .unmap, .call .release, .writeVbar]

/-- What it takes to shrink VBARs, once the device was waited for. -/
def shrinking : List ActionKind := [.call .unmap, .call .release, .writeVbar]

theorem shrinking_subset : shrinking ⊆ reclaiming := List.subset_cons_self _ _

theorem evictPage_only (vbar : Vbar) (index : Nat) (action : PageAction) :
    Only shrinking (evictPage vbar index action : EngineM σ (Vbar × Bool)) := by
  refine Passes.pageSize.bind fun pageSize => (Passes.ensure _).bind fun vaddr =>
    (Passes.ensure _).bind fun page => ?_
  dsimp only
  split
  · exact (Memory.release_only (by decide) (by decide) _ _ _).bind fun _ =>
      (Passes.ensure _).bind fun _ => .pure _
  · exact .pure _

theorem lowerWatermark_only {steps wanted : Nat} {vbar : Vbar} :
    Only shrinking (lowerWatermark steps vbar wanted : EngineM σ (Vbar × Nat)) := by
  induction steps generalizing vbar wanted with
  | zero => exact .pure _
  | succ steps ih =>
    unfold lowerWatermark
    split
    · exact .pure _
    · refine (evictPage_only _ _ _).bind fun (vbar, freed) => ?_
      cases freed with
      | true => exact ih.bind fun _ => .pure _
      | false => exact ih

theorem shrinkTail_only (handle : Handle) (wanted : Nat) :
    Only shrinking (shrinkTail handle wanted : EngineM σ Nat) := by
  refine (Passes.vbar? handle).bind fun found => ?_
  cases found with
  | none => exact .pure 0
  | some vbar =>
    exact lowerWatermark_only.bind fun _ => (Only.putVbar (by decide) _ _).bind fun _ => .pure _

theorem shrinkEach_only {wanted : Nat} {handles : List Handle} :
    Only shrinking (shrinkEach wanted handles : EngineM σ Nat) := by
  induction handles generalizing wanted with
  | nil => exact .pure wanted
  | cons handle rest ih => exact (shrinkTail_only handle wanted).bind fun _ => ih

theorem shrinkUntil_only {handle victim : Handle} {target steps cursor : Nat} :
    Only shrinking (shrinkUntil handle victim target steps cursor : EngineM σ Nat) := by
  induction steps generalizing cursor with
  | zero => exact .pure cursor
  | succ steps ih =>
    unfold shrinkUntil
    refine (Passes.vbar? handle).bind fun own => ?_
    cases own with
    | none => exact .pure cursor
    | some own =>
      refine (Passes.vbar? victim).bind fun vbar => ?_
      cases vbar with
      | none => exact .pure cursor
      | some vbar =>
        dsimp only
        split
        · exact .pure cursor
        · refine (evictPage_only _ _ _).bind fun (vbar, freed) =>
            (Only.putVbar (by decide) _ _).bind fun _ => ?_
          cases freed with
          | false => exact ih
          | true =>
            refine (Passes.vbar? handle).bind fun own => ?_
            cases own with
            | none => exact .pure cursor
            | some own => exact (Passes.ensure _).bind fun _ => ih

theorem shrinkEachUntil_only {handle : Handle} {target cursor : Nat} {victims : List Handle} :
    Only shrinking (shrinkEachUntil handle target victims cursor : EngineM σ Unit) := by
  induction victims generalizing cursor with
  | nil => exact .pure ()
  | cons victim rest ih =>
    unfold shrinkEachUntil
    refine (Passes.vbar? victim).bind fun vbar => ?_
    cases vbar with
    | none => exact ih
    | some vbar => exact shrinkUntil_only.bind fun _ => ih

end Eviction

/-! ## Behind a barrier -/

/-- What a step takes that leaves all memory and addresses where they are, and the mark of a change
as well. -/
def ActionKind.marking : List ActionKind :=
  [.call .memoryInfo, .writeVbar, .moveVbar, .addVbar, .writeBuffers]

/-- What a step takes that leaves all memory and addresses where they are. -/
def ActionKind.bookkeeping : List ActionKind := .clearMark :: marking

/-- What a step takes that asks for addresses. -/
def ActionKind.reserving : List ActionKind := .call .reserve :: bookkeeping

/-- What a step takes that asks for addresses and may give them back. -/
def ActionKind.inserting : List ActionKind := .call .freeAddress :: reserving

open ActionKind (bookkeeping marking)
open Eviction (reclaiming)

variable {passage : Passage σ}

/-- A passage for bookkeeping that keeps marks, and for reclaiming behind a barrier. -/
structure Passage.Admits (passage : Passage σ) : Prop where
  marking : ∀ {α : Type} {step : EngineM σ α}, Only marking step → Passes passage step
  barrier : ∀ {α : Type} {rest : Unit → EngineM σ α}, (∀ value, Only reclaiming (rest value)) →
    Passes passage (Memory.synchronize >>= rest)

theorem Passage.Admits.log (admits : passage.Admits) (notice : Notice) :
    Passes passage (EngineM.log notice : EngineM σ Unit) :=
  admits.marking (Only.log notice)

theorem Passage.Admits.putVbar (admits : passage.Admits) (handle : Handle) (vbar : Vbar) :
    Passes passage (EngineM.putVbar handle vbar : EngineM σ Unit) :=
  admits.marking (Only.putVbar (by decide) handle vbar)

/-- Actions that include bookkeeping and reclaiming. -/
theorem admits_acting (books : marking ⊆ kinds) (reclaims : reclaiming ⊆ kinds) :
    (acting kinds : Passage σ).Admits :=
  ⟨fun only => Only.mono only books, fun only =>
    Only.mono ((Memory.synchronize_only (by decide)).bind only) reclaims⟩

namespace Eviction

theorem evictGlobal_passes (admits : passage.Admits) (size : Nat) :
    Passes passage (evictGlobal size : EngineM σ Nat) := by
  refine Passes.pageSize.bind fun pageSize => ?_
  dsimp only
  split
  · exact .pure 0
  · refine (admits.log _).bind fun _ => admits.barrier fun _ => Only.mono ?_ shrinking_subset
    exact Passes.engine.bind fun _ => shrinkEach_only.bind fun _ => (Passes.word _).bind fun _ =>
      Only.mark.bind fun _ => Passes.checkVbars.bind fun _ => (Only.log _).bind fun _ =>
      .pure _

theorem evictForVbar_passes (admits : passage.Admits) (handle : Handle) (target : Nat) :
    Passes passage (evictForVbar handle target : EngineM σ Unit) := by
  refine (Passes.vbar? handle).bind fun own => ?_
  cases own with
  | none => exact .pure ()
  | some own =>
    refine (Passes.ensure _).bind fun _ => admits.barrier fun _ => Only.mono ?_ shrinking_subset
    exact Passes.engine.bind fun _ => shrinkEachUntil_only.bind fun _ =>
      Only.mark.bind fun _ => Passes.checkVbars

theorem shrinkVbar_passes (admits : passage.Admits) (handle : Handle) (size : Nat) :
    Passes passage (shrinkVbar handle size : Attempt σ Nat).run := by
  refine (admits.log _).lift_bind fun _ => Passes.pageSize.lift_bind fun pageSize =>
    (Passes.run_vbar handle).run_bind fun _ => ?_
  split
  · exact .pure _
  · refine (admits.barrier fun _ => Only.mono ?_ shrinking_subset).run_lift
    exact (shrinkTail_only _ _).bind fun _ => (Passes.word _).bind fun _ =>
      Only.mark.bind fun _ => Passes.checkVbars.bind fun _ => (Only.log _).bind fun _ =>
      .pure _

end Eviction

end VramOvercommit
