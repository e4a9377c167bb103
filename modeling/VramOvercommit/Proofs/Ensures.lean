import VramOvercommit.Engine.Basic

set_option autoImplicit false

/-!
What a step guarantees. A step is run from one state, so a guarantee is read off its result: a
postcondition for a value, and a condition on the causes it may abort for. Sequences are taken apart
by one equation a constructor of the monad.
-/

namespace VramOvercommit

/-- Every value of the step satisfies `post`, and every cause it aborts for satisfies `aborts`. -/
def Ensures {ε σ α : Type} (aborts : ε → Prop) (step : EStateM ε σ α) (state : σ)
    (post : α → σ → Prop) : Prop :=
  match step state with
  | .ok value after => post value after
  | .error cause _ => aborts cause

section Steps

variable {ε σ α β : Type} {aborts : ε → Prop} {state : σ}

/-- A guarantee about one state can be tested by running the step. -/
instance {step : EStateM ε σ α} {post : α → σ → Prop} [∀ cause, Decidable (aborts cause)]
    [∀ value after, Decidable (post value after)] : Decidable (Ensures aborts step state post) :=
  match ran : step state with
  | .ok value after => decidable_of_iff (post value after) (by unfold Ensures; rw [ran])
  | .error cause _ => decidable_of_iff (aborts cause) (by unfold Ensures; rw [ran])

theorem Ensures.mono {step : EStateM ε σ α} {weak strong : α → σ → Prop}
    (ensured : Ensures aborts step state strong)
    (weaker : ∀ value after, strong value after → weak value after) :
    Ensures aborts step state weak := by
  unfold Ensures at *
  split
  · rename_i value after found
    rw [found] at ensured
    exact weaker value after ensured
  · rename_i cause after found
    rw [found] at ensured
    exact ensured

theorem Ensures.and {step : EStateM ε σ α} {first second : α → σ → Prop}
    (one : Ensures aborts step state first) (other : Ensures aborts step state second) :
    Ensures aborts step state (fun value after => first value after ∧ second value after) := by
  unfold Ensures at *
  split <;> simp_all only [and_self]

/-- What holds wherever a step ends is one more guarantee, whatever it may abort for. -/
theorem Ensures.also {step : EStateM ε σ α} {post more : α → σ → Prop}
    (ensured : Ensures aborts step state post)
    (also : Ensures (fun _ => True) step state more) :
    Ensures aborts step state (fun value after => post value after ∧ more value after) := by
  unfold Ensures at *
  split <;> simp_all only [and_self]

/-- A guarantee that tells the result itself along with the postcondition. -/
theorem Ensures.result {step : EStateM ε σ α} {post : α → σ → Prop}
    (ensured : Ensures aborts step state post) :
    Ensures aborts step state
      (fun value after => step state = .ok value after ∧ post value after) := by
  unfold Ensures at *
  split <;> simp_all only [and_self]

/-- A step that aborts for no cause but the allowed ones. -/
theorem Ensures.weaken {step : EStateM ε σ α} {post : α → σ → Prop} {more : ε → Prop}
    (ensured : Ensures aborts step state post) (allowed : ∀ cause, aborts cause → more cause) :
    Ensures more step state post := by
  unfold Ensures at *
  split
  · simp_all only
  · rename_i cause after found
    rw [found] at ensured
    exact allowed cause ensured

theorem Ensures.of_ok {step : EStateM ε σ α} {post : α → σ → Prop} {value : α} {after : σ}
    (ensured : Ensures aborts step state post) (ran : step state = .ok value after) :
    post value after := by
  unfold Ensures at ensured
  rw [ran] at ensured
  exact ensured

theorem Ensures.of_error {step : EStateM ε σ α} {post : α → σ → Prop} {cause : ε} {after : σ}
    (ensured : Ensures aborts step state post) (ran : step state = .error cause after) :
    aborts cause := by
  unfold Ensures at ensured
  rw [ran] at ensured
  exact ensured

/-- A step that never aborts has a result. -/
theorem Ensures.exists_ok {step : EStateM ε σ α} {post : α → σ → Prop}
    (ensured : Ensures (fun _ => False) step state post) :
    ∃ value after, step state = .ok value after ∧ post value after := by
  unfold Ensures at ensured
  split at ensured
  · rename_i value after found
    exact ⟨value, after, found, ensured⟩
  · exact ensured.elim

/-- A step that has no result aborts. -/
theorem Ensures.exists_error {step : EStateM ε σ α}
    (ensured : Ensures aborts step state fun _ _ => False) :
    ∃ cause after, step state = .error cause after ∧ aborts cause := by
  unfold Ensures at ensured
  split at ensured
  · exact ensured.elim
  · rename_i cause after found
    exact ⟨cause, after, found, ensured⟩

/-- A step of which nothing is asked. -/
theorem ensures_trivial {step : EStateM ε σ α} {post : α → σ → Prop}
    (aborted : ∀ cause, aborts cause) (done : ∀ value after, post value after) :
    Ensures aborts step state post := by
  unfold Ensures
  split
  · exact done _ _
  · exact aborted _

/-- A step that may abort for anything and of which nothing is asked. -/
theorem ensures_any {step : EStateM ε σ α} {post : α → σ → Prop}
    (done : ∀ value after, post value after) : Ensures (fun _ => True) step state post :=
  ensures_trivial (fun _ => trivial) done

@[simp] theorem ensures_pure {value : α} {post : α → σ → Prop} :
    Ensures aborts (pure value : EStateM ε σ α) state post ↔ post value state := Iff.rfl

@[simp] theorem ensures_bind {step : EStateM ε σ α} {next : α → EStateM ε σ β}
    {post : β → σ → Prop} :
    Ensures aborts (step >>= next) state post ↔
      Ensures aborts step state (fun value after => Ensures aborts (next value) after post) := by
  change (match EStateM.bind step next state with
    | .ok value after => post value after
    | .error cause _ => aborts cause) ↔ _
  unfold EStateM.bind Ensures
  cases step state <;> rfl

/-- What follows a step whose end is known. -/
theorem ensures_bind_of_ok {step : EStateM ε σ α} {next : α → EStateM ε σ β}
    {post : β → σ → Prop} {value : α} {after : σ} (ran : step state = .ok value after) :
    Ensures aborts (step >>= next) state post ↔ Ensures aborts (next value) after post := by
  rw [ensures_bind]
  unfold Ensures
  rw [ran]

@[simp] theorem ensures_map {step : EStateM ε σ α} {change : α → β} {post : β → σ → Prop} :
    Ensures aborts (change <$> step) state post ↔
      Ensures aborts step state (fun value after => post (change value) after) := by
  change (match EStateM.map change step state with
    | .ok value after => post value after
    | .error cause _ => aborts cause) ↔ _
  unfold EStateM.map Ensures
  cases step state <;> rfl

end Steps

section Attempts

variable {ε δ σ α β : Type} {aborts : ε → Prop} {state : σ}

@[simp] theorem ensures_run_pure {value : α} {post : Except δ α → σ → Prop} :
    Ensures aborts (pure value : ExceptT δ (EStateM ε σ) α).run state post ↔
      post (.ok value) state := Iff.rfl

@[simp] theorem ensures_run_throw {cause : δ} {post : Except δ α → σ → Prop} :
    Ensures aborts (throw cause : ExceptT δ (EStateM ε σ) α).run state post ↔
      post (.error cause) state := Iff.rfl

@[simp] theorem ensures_run_mk {step : EStateM ε σ (Except δ α)}
    {post : Except δ α → σ → Prop} :
    Ensures aborts (ExceptT.mk step).run state post ↔ Ensures aborts step state post := Iff.rfl

/-- The part after a failure is left out. -/
@[simp] theorem ensures_run_bind {step : ExceptT δ (EStateM ε σ) α}
    {next : α → ExceptT δ (EStateM ε σ) β} {post : Except δ β → σ → Prop} :
    Ensures aborts (step >>= next).run state post ↔
      Ensures aborts step.run state (fun result after =>
        match result with
        | .ok value => Ensures aborts (next value).run after post
        | .error cause => post (.error cause) after) := by
  change Ensures aborts (step.run >>= ExceptT.bindCont next) state post ↔ _
  rw [ensures_bind]
  unfold Ensures
  cases step.run state with
  | ok result after => cases result <;> rfl
  | error cause after => rfl

@[simp] theorem ensures_run_lift {aborts : Abort → Prop} {context : Context σ}
    {step : EngineM σ α} {post : Except Error α → Context σ → Prop} :
    Ensures aborts (Attempt.lift step).run context post ↔
      Ensures aborts step context (fun value after => post (.ok value) after) := by
  change Ensures aborts (Except.ok <$> step) context post ↔ _
  rw [ensures_map]

end Attempts

namespace HostM

variable {σ α : Type} {aborts : Abort → Prop} {host : σ}

@[simp] theorem ensures_ask {question : StateM σ α} {post : α → σ → Prop} :
    Ensures aborts (ask question) host post ↔ post (question host).1 (question host).2 := Iff.rfl

variable [Host σ]

/-- A call of the driver aborts if a sum of the driver is no word. -/
@[simp] theorem ensures_call {driverCall : DriverCall}
    {post : Except DriverError driverCall.Answer → σ → Prop} :
    Ensures aborts (call driverCall) host post ↔
      Ensures (fun _ => aborts .overflow) (Host.call driverCall) host post := by
  unfold Ensures call
  cases Host.call driverCall host <;> rfl

@[simp] theorem ensures_log {notice : Notice} {post : Unit → σ → Prop} :
    Ensures aborts (log notice) host post ↔ post () (Host.log notice host) := Iff.rfl

end HostM

namespace EngineM

variable {σ α : Type} {aborts : Abort → Prop} {context : Context σ}

@[simp] theorem ensures_engine {post : Engine → Context σ → Prop} :
    Ensures aborts engine context post ↔ post context.engine context := Iff.rfl

@[simp] theorem ensures_modifyEngine {change : Engine → Engine} {post : Unit → Context σ → Prop} :
    Ensures aborts (modifyEngine change) context post ↔
      post () { context with engine := change context.engine } := Iff.rfl

@[simp] theorem ensures_ensure_ok {value : α} {post : α → Context σ → Prop} :
    Ensures aborts (ensure (.ok value)) context post ↔ post value context := Iff.rfl

@[simp] theorem ensures_setVbars {vbars : PriorityList Vbar} {post : Unit → Context σ → Prop} :
    Ensures aborts (setVbars vbars) context post ↔
      post () { context with engine := { context.engine with vbars } } := Iff.rfl

@[simp] theorem ensures_setBudget {budget : Budget} {post : Unit → Context σ → Prop} :
    Ensures aborts (setBudget budget) context post ↔
      post () { context with engine := { context.engine with budget } } := Iff.rfl

@[simp] theorem ensures_markDirty {post : Unit → Context σ → Prop} :
    Ensures aborts markDirty context post ↔
      post () { context with engine := { context.engine with dirty := true } } := Iff.rfl

@[simp] theorem ensures_pageSize {post : Nat → Context σ → Prop} :
    Ensures aborts pageSize context post ↔ post context.engine.config.vbarPageSize context :=
  Iff.rfl

@[simp] theorem ensures_vbar? {handle : Handle} {post : Option Vbar → Context σ → Prop} :
    Ensures aborts (vbar? handle) context post ↔
      post (context.engine.vbars.get? handle) context := Iff.rfl

@[simp] theorem ensures_putVbar {handle : Handle} {vbar : Vbar} {post : Unit → Context σ → Prop} :
    Ensures aborts (putVbar handle vbar) context post ↔
      post () { context with
        engine := { context.engine with vbars := context.engine.vbars.set handle vbar } } := Iff.rfl

@[simp] theorem ensures_putBuffer {buffer : Buffer} {post : Unit → Context σ → Prop} :
    Ensures aborts (putBuffer buffer) context post ↔
      post () { context with
        engine := { context.engine with
          buffers := context.engine.buffers.insert buffer.base buffer } } := Iff.rfl

/-- A sum that is no word aborts, where that is allowed. -/
theorem ensures_word {value : Nat} {post : Nat → Context σ → Prop}
    (small : value < wordLimit ∨ aborts .overflow)
    (ensured : value < wordLimit → post value context) :
    Ensures aborts (word value) context post := by
  unfold word
  split
  · rename_i fits
    exact ensured fits
  · exact small.resolve_left ‹_›

variable [Host σ]

@[simp] theorem ensures_call {driverCall : DriverCall}
    {post : Except DriverError driverCall.Answer → Context σ → Prop} :
    Ensures aborts (call driverCall) context post ↔
      Ensures (fun _ => aborts .overflow) (Host.call driverCall) context.host
        (fun answer host => post answer { context with host }) := by
  unfold Ensures call onHost HostM.call
  cases Host.call driverCall context.host <;> rfl

omit [Host σ] in
@[simp] theorem ensures_ask {question : StateM σ α} {post : α → Context σ → Prop} :
    Ensures aborts (onHost (HostM.ask question)) context post ↔
      post (question context.host).1 { context with host := (question context.host).2 } := Iff.rfl

@[simp] theorem ensures_log {notice : Notice} {post : Unit → Context σ → Prop} :
    Ensures aborts (log notice) context post ↔
      post () { context with host := Host.log notice context.host } := Iff.rfl

@[simp] theorem ensures_allocates {table : HostTable} {count : Nat}
    {post : Bool → Context σ → Prop} :
    Ensures aborts (allocates table count) context post ↔
      post (Host.room table count context.host).1
        { context with host := (Host.room table count context.host).2 } := Iff.rfl

@[simp] theorem ensures_allocatesBeside {table : HostTable} {held count bytesEach : Nat}
    {post : Bool → Context σ → Prop} :
    Ensures aborts (allocatesBeside table held count bytesEach) context post ↔
      post (Host.roomBeside table held count bytesEach context.host).1
        { context with
          host := (Host.roomBeside table held count bytesEach context.host).2 } := Iff.rfl

end EngineM

namespace Attempt

variable {σ : Type} {aborts : Abort → Prop} {context : Context σ}

/-- A stale handle fails and changes nothing. -/
@[simp] theorem ensures_vbar {handle : Handle} {post : Except Error Vbar → Context σ → Prop} :
    Ensures aborts (vbar handle).run context post ↔
      match context.engine.vbars.get? handle with
      | some vbar => post (.ok vbar) context
      | none => post (.error .invalidHandle) context := by
  unfold vbar
  rw [ensures_run_bind, ensures_run_lift, EngineM.ensures_vbar?]
  cases context.engine.vbars.get? handle <;> rfl

/-- An unknown address fails and changes nothing. -/
@[simp] theorem ensures_buffer {base : Nat} {post : Except Error Buffer → Context σ → Prop} :
    Ensures aborts (buffer base).run context post ↔
      match context.engine.buffers.get? base with
      | some buffer => post (.ok buffer) context
      | none => post (.error .invalidHandle) context := by
  unfold buffer
  rw [ensures_run_bind, ensures_run_lift, EngineM.ensures_engine]
  dsimp only
  cases context.engine.buffers.get? base <;> rfl

end Attempt

/-! ## Memory of the host -/

/-- The host refused memory for a table, which one with memory enough never does. -/
def Starved (σ : Type) [Host σ] {α : Type} (result : Except Error α) : Prop :=
  result = .error .hostOutOfMemory ∧ ¬ Host.Ample σ

section Starved

variable {σ : Type} [Host σ] {α β : Type} {result : Except Error α}

theorem Starved.map (starved : Starved σ result) (f : α → β) : Starved σ (result.map f) := by
  obtain ⟨rfl, scarce⟩ := starved
  exact ⟨rfl, scarce⟩

end Starved

end VramOvercommit
