import VramOvercommit.Proofs.Operations

set_option autoImplicit false

/-!
Runs of operations, with a host that may change in between, and what holds after every run whatever
the driver answers: the page maps agree with themselves, and what is protected stays.
-/

namespace VramOvercommit

open EngineM

variable {σ : Type} [Host σ]

/-- Operations one after the other, each admitted by its context before and after. Between two of
them the host may change as `alters` allows. -/
inductive Run (alters : σ → σ → Prop) (admits : Context σ → Operation → Context σ → Prop)
    (start : Context σ) : Context σ → Prop where
  | start : Run alters admits start start
  | alter {context : Context σ} {host : σ} : Run alters admits start context →
      alters context.host host → Run alters admits start { context with host }
  | perform {context after : Context σ} {operation : Operation} {outcome : Except Error Outcome} :
      Run alters admits start context → operation.run context = .ok outcome after →
      admits context operation after → Run alters admits start after

/-- Runs of any operations. -/
def anyOperation (_ : Context σ) (_ : Operation) (_ : Context σ) : Prop := True

instance (before : Context σ) (operation : Operation) (after : Context σ) :
    Decidable (anyOperation before operation after) := inferInstanceAs (Decidable True)

namespace Run

variable {alters : σ → σ → Prop} {admits : Context σ → Operation → Context σ → Prop}
  {start context : Context σ}

/-- What no change of the host and no admitted operation breaks holds after every run. -/
theorem preserves (invariant : Context σ → Prop)
    (alter : ∀ {context : Context σ} {host : σ}, invariant context → alters context.host host →
      invariant { context with host })
    (perform : ∀ {context after : Context σ} {operation : Operation}
      {outcome : Except Error Outcome}, invariant context →
      operation.run context = .ok outcome after → admits context operation after →
      invariant after)
    (run : Run alters admits start context) (holds : invariant start) : invariant context := by
  induction run with
  | start => exact holds
  | alter _ altered ih => exact alter ih altered
  | perform _ ran admitted ih => exact perform ih ran admitted

/-- A run that admits less is a run that admits more. -/
theorem weaken {more : Context σ → Operation → Context σ → Prop}
    (weaker : ∀ context operation after, admits context operation after →
      more context operation after) (run : Run alters admits start context) :
    Run alters more start context := by
  induction run with
  | start => exact .start
  | alter _ altered ih => exact .alter ih altered
  | perform _ ran admitted ih => exact .perform ih ran (weaker _ _ _ admitted)

/-- A run on a host that changes less is a run on a host that changes more. -/
theorem loosen {more : σ → σ → Prop}
    (looser : ∀ before after, alters before after → more before after)
    (run : Run alters admits start context) : Run more admits start context := by
  induction run with
  | start => exact .start
  | alter _ altered ih => exact .alter ih (looser _ _ altered)
  | perform _ ran admitted ih => exact .perform ih ran admitted

end Run

/-! ## Opening a context -/

namespace Engine

theorem vbars_fresh (device : Int) (config : Config) (capacity : Nat) :
    (fresh device config capacity).vbars = {} := rfl

/-- A new engine has a valid configuration and holds nothing. What is known of the host has to
outlast the three things it is asked. -/
theorem create_spec {aborts : Abort → Prop} {device : Int} {config : Config} {host : σ}
    (known : σ → Prop)
    (asked : Ensures (fun _ => aborts .overflow) (Host.call (.totalMemory device)) host
      fun _ after => known after)
    (named : ∀ {host : σ}, known host → known (Host.deviceName device host).2)
    (logged : ∀ {host : σ} (notice : Notice), known host → known (Host.log notice host)) :
    Ensures aborts (create device config) host (fun result after =>
      match result with
      | .ok engine => known after ∧ config.validate = .ok () ∧
          ∃ capacity, engine = fresh device config capacity
      | .error _ => True) := by
  unfold create
  cases valid : config.validate with
  | error fault => exact trivial
  | ok _ =>
    dsimp only
    rw [ensures_bind, HostM.ensures_call]
    apply asked.mono
    intro answer after kept
    cases answer with
    | error cause => exact trivial
    | ok capacity =>
      dsimp only
      rw [ensures_bind, HostM.ensures_ask, ensures_bind, HostM.ensures_log, ensures_pure]
      exact ⟨logged _ (named kept), rfl, capacity, rfl⟩

end Engine

/-- A new context is sound if the host agrees that nothing is held. -/
theorem sound_fresh {ledger : Ledger σ} {device : Int} {config : Config} {capacity : Nat} {host : σ}
    (valid : config.validate = .ok ()) (allowed : ledger.sizes config.vbarPageSize)
    (agrees : ledger.agrees host [] none []) :
    Sound ledger ⟨Engine.fresh device config capacity, host⟩ := by
  have none_live : ∀ handle : Handle, ({} : PriorityList Vbar).get? handle = none := fun _ => rfl
  refine ⟨⟨PriorityList.wellLinked_empty, fun {handle vbar} live => ?_⟩, soundBuffers_empty, valid,
    allowed, agrees, Nat.le_refl _, fun _ => rfl, (by decide : 0 < wordLimit)⟩
  rw [Engine.vbars_fresh, none_live] at live
  cases live

/-- Pages, chunks and allocation units of one byte each, and nothing held back. -/
def Config.bytewise : Config where
  vbarPageSize := 1
  vramChunkSize := 1
  minAllocSize := 1
  vramHeadroom := 0
  platformHeadroom := 0

/-- The context after operations that are all admitted, while nothing else changes the host. -/
def performed (admits : Context σ → Operation → Context σ → Prop)
    [∀ before operation after, Decidable (admits before operation after)] :
    List Operation → Context σ → Option (Context σ)
  | [], context => some context
  | operation :: rest, context =>
      match operation.run context with
      | .ok _ after => if admits context operation after then performed admits rest after else none
      | .error _ _ => none

theorem Run.of_performed {alters : σ → σ → Prop}
    {admits : Context σ → Operation → Context σ → Prop}
    [∀ before operation after, Decidable (admits before operation after)]
    {start context after : Context σ} {operations : List Operation}
    (run : Run alters admits start context)
    (evaluated : performed admits operations context = some after) :
    Run alters admits start after := by
  induction operations generalizing context with
  | nil =>
    cases evaluated
    exact run
  | cons operation rest ih =>
    unfold performed at evaluated
    split at evaluated
    · rename_i outcome middle ran
      split at evaluated
      · exact ih (run.perform ran ‹_›) evaluated
      · cases evaluated
    · cases evaluated

/-- Opens a context and performs operations on it: whether the context passes a test at the end. -/
def reaches (device : Int) (config : Config) (host : σ)
    (admits : Context σ → Operation → Context σ → Prop)
    [∀ before operation after, Decidable (admits before operation after)]
    (operations : List Operation) (test : Context σ → Bool) : Bool :=
  match Engine.create device config host with
  | .ok (.ok engine) host => (performed admits operations ⟨engine, host⟩).any test
  | _ => false

/-- A state that is reached by evaluation is one that a run reaches. -/
theorem exists_run_of_reaches (alters : σ → σ → Prop) {device : Int} {config : Config} {host : σ}
    {admits : Context σ → Operation → Context σ → Prop}
    [∀ before operation after, Decidable (admits before operation after)]
    {operations : List Operation} {test : Context σ → Bool}
    (reached : reaches device config host admits operations test = true) :
    ∃ engine host' context, Engine.create device config host = .ok (.ok engine) host' ∧
      Run alters admits ⟨engine, host'⟩ context ∧ test context = true := by
  unfold reaches at reached
  split at reached
  · rename_i engine host' opened
    obtain ⟨context, evaluated, passed⟩ := (Option.any_eq_true _ _).mp reached
    exact ⟨engine, host', context, opened, Run.of_performed .start evaluated, passed⟩
  · cases reached

end VramOvercommit
