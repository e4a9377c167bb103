import VramOvercommit.Engine.Query
import VramOvercommit.Proofs.PriorityList.Generations
import VramOvercommit.Proofs.Serials

set_option autoImplicit false

/-!
Handles are safe to give away. A packed handle resolves only to the VBAR it was made from, the handle
of a VBAR that was freed does not come back before its slot was freed 2^32 times, and an operation on
a handle that does not resolve has no effect.
-/

namespace VramOvercommit

open EngineM
open Attempt (lift)
open Simulation (Bench Traced)
open PriorityList (Advances)

/-! ## Packed handles -/

theorem Handle.toRaw_lt {handle : Handle} (small : handle.index + 1 < 2 ^ 32) :
    handle.toRaw < 2 ^ 64 := by
  have bound := handle.generation.toNat_lt
  unfold toRaw
  omega

theorem Handle.toRaw_inj {first second : Handle} (small : first.index + 1 < 2 ^ 32)
    (small' : second.index + 1 < 2 ^ 32) (same : first.toRaw = second.toRaw) : first = second := by
  have one := (ofRaw?_eq_some_iff (toRaw_lt small)).mpr ⟨small, rfl⟩
  have other := (ofRaw?_eq_some_iff (toRaw_lt small)).mpr ⟨small', same⟩
  exact Option.some.inj (one.symm.trans other)

namespace PriorityList

variable {α : Type} {list : PriorityList α} {handle : Handle} {value : α}

/-- The slot of an entry has a number that fits a packed handle. -/
theorem index_lt_of_get? (small : list.slots.size < 2 ^ 32) (live : list.get? handle = some value) :
    handle.index + 1 < 2 ^ 32 := by
  have found := get?_eq_some_iff.mp live
  obtain ⟨node, occupied⟩ :=
    Option.isSome_iff_exists.mp (entryAt?_isSome_iff.mp (Option.isSome_of_eq_some found))
  have inside := index_lt_of_node? occupied
  omega

/-- A word resolves exactly if it is the packed handle of an entry. -/
theorem WellLinked.get?_ofRaw? (linked : list.WellLinked) (small : list.slots.size < 2 ^ 32)
    {raw : Nat} (word : raw < 2 ^ 64) : (Handle.ofRaw? raw).bind list.get? = some value ↔
      ∃ handle, (handle, value) ∈ list.toList ∧ handle.toRaw = raw := by
  rw [Option.bind_eq_some_iff]
  constructor
  · intro outcome
    obtain ⟨handle, unpacked, live⟩ := outcome
    exact ⟨handle, linked.mem_toList.mpr live,
      ((Handle.ofRaw?_eq_some_iff word).mp unpacked).2.symm⟩
  · intro outcome
    obtain ⟨handle, listed, rfl⟩ := outcome
    have live := linked.mem_toList.mp listed
    exact ⟨handle, (Handle.ofRaw?_eq_some_iff word).mpr ⟨index_lt_of_get? small live, rfl⟩, live⟩

/-- Entries have different packed handles. -/
theorem WellLinked.raw_nodup (linked : list.WellLinked) (small : list.slots.size < 2 ^ 32) :
    (list.handles.map Handle.toRaw).Nodup := by
  refine linked.handles_nodup.map_on fun first member second member' same => ?_
  obtain ⟨_, live⟩ := linked.mem_handles.mp member
  obtain ⟨_, live'⟩ := linked.mem_handles.mp member'
  exact Handle.toRaw_inj (index_lt_of_get? small live) (index_lt_of_get? small live') same

theorem isSome_get?_iff {generation : UInt32}
    (found : list.generations[handle.index]? = some generation) :
    (list.get? handle).isSome ↔
      (list.node? handle.index).isSome ∧ generation = handle.generation := by
  rw [getElem?_generations] at found
  obtain ⟨slot, place, rfl⟩ := Option.map_eq_some_iff.mp found
  unfold get? resolve? node?
  rw [place, Option.isSome_map, Option.bind_some]
  dsimp only
  split <;> simp_all

end PriorityList

/-! ## Generations -/

section Actions

variable {σ : Type} [Host σ] {kinds : List ActionKind} {context after : Context σ} {index : Nat}

/-- Every action but the removal of a VBAR leaves the slots that exist as they are. -/
theorem Action.advances (action : Action kinds context after) (denied : .removeVbar ∉ kinds) :
    Advances context.engine.vbars after.engine.vbars index 0 := by
  cases action with
  | writeVbar _ handle vbar => exact .of_eq (PriorityList.generations_set ..)
  | moveVbar _ moved =>
    exact .of_eq (moved.elim PriorityList.moveToHighest_generations
      PriorityList.moveToLowest_generations)
  | addVbar _ added => exact (PriorityList.pushHighest_generations added).elim .of_eq .of_push
  | removeVbar allowed _ => exact absurd allowed denied
  | _ => exact .of_eq rfl

theorem Actions.advances (actions : Actions kinds context after) (denied : .removeVbar ∉ kinds) :
    Advances context.engine.vbars after.engine.vbars index 0 := by
  induction actions with
  | refl => exact .of_eq rfl
  | tail _ action ih => exact ih.trans (action.advances denied)

namespace Vbars

/-- Freeing a VBAR gives its slot the next generation. -/
theorem free_advances (handle : Handle) (index : Nat) :
    Ensures (fun _ => True) (free handle).run context (fun result after =>
      Advances context.engine.vbars after.engine.vbars index (match result with
        | .ok _ => if handle.index = index then 1 else 0
        | .error _ => 0)) := by
  unfold free
  rw [ensures_run_bind, ensures_run_lift, ensures_log]
  dsimp only
  rw [ensures_run_bind, Attempt.ensures_vbar]
  cases live : context.engine.vbars.get? handle with
  | none => exact .of_eq rfl
  | some vbar =>
    dsimp only
    rw [ensures_run_lift, ensures_bind]
    have waits : Only [.call .synchronize] (Memory.synchronize : EngineM σ Unit) :=
      Memory.synchronize_only (by decide)
    apply (waits _).ensures.mono
    intro _ first waited
    have same := waited.vbars (by decide)
    dsimp only at same
    rw [ensures_bind, ensures_engine, ensures_bind]
    cases removed : first.engine.vbars.remove handle with
    | error cause => trivial
    | ok result =>
      obtain ⟨vbars, found⟩ := result
      rw [ensures_ensure_ok, ensures_bind, ensures_setVbars]
      apply (freeTail_only vbar _).ensures.mono
      intro _ after actions
      have contained : context.engine.vbars.contains handle = true :=
        PriorityList.contains_iff.mpr ⟨vbar, live⟩
      have idle : Advances vbars after.engine.vbars index 0 := actions.advances (by decide)
      have advances := (PriorityList.remove_advances removed).trans idle
      simpa [same, contained] using advances

/-- A VBAR that is added gets the generation of its slot. -/
theorem insert_generation (vbar : Vbar) (size : Nat) :
    Ensures (fun _ => True) (insert vbar size).run context (fun result after =>
      ∀ handle, result = .ok handle →
        after.engine.vbars.generations[handle.index]? = some handle.generation) := by
  unfold insert
  rw [ensures_run_bind, ensures_run_lift]
  refine ensures_any fun granted middle => ?_
  dsimp only
  split
  · rw [ensures_run_lift, ensures_bind, ensures_engine, ensures_bind]
    cases pushed : middle.engine.vbars.pushHighest vbar with
    | error cause => trivial
    | ok result =>
      obtain ⟨vbars, handle⟩ := result
      rw [ensures_ensure_ok, ensures_bind, ensures_setVbars]
      rintro _ ⟨⟩
      exact PriorityList.pushHighest_generation pushed
  · rw [ensures_run_bind]
    exact ensures_any fun result after => by cases result <;> exact nofun

/-- A handle that is given out has the generation of its slot. -/
theorem allocate_generation (size : Nat) (device : Int) :
    Ensures (fun _ => True) (allocate size device).run context (fun result after =>
      ∀ handle, result = .ok handle →
        after.engine.vbars.generations[handle.index]? = some handle.generation) := by
  unfold allocate
  rw [ensures_run_bind, ensures_run_lift, ensures_log]
  dsimp only
  rw [ensures_run_bind, ensures_run_lift, ensures_engine]
  dsimp only
  rw [ensures_run_bind, ensures_run_lift]
  refine ensures_any fun reserved first => ?_
  dsimp only
  rw [ensures_run_bind]
  refine ensures_any fun result second => ?_
  cases result with
  | error cause => exact nofun
  | ok base =>
    dsimp only
    rw [ensures_run_bind]
    apply (insert_generation (.fresh base device _) reserved).mono
    intro result third counted
    cases result with
    | error cause => exact nofun
    | ok handle =>
      dsimp only
      rw [ensures_run_bind, ensures_run_lift, ensures_bind, ensures_markDirty, ensures_bind]
      have checked : Only [] (checkVbars : EngineM σ Unit) := Passes.checkVbars
      apply (checked _).ensures.mono
      intro _ after actions
      have same := actions.vbars (by decide)
      dsimp only at same
      rw [ensures_log, ensures_run_pure]
      rintro _ ⟨⟩
      dsimp only
      rw [same]
      exact counted handle rfl

end Vbars

end Actions

/-! ## Histories -/

/-- Whether an operation has freed the slot: it was given a handle of the slot, and the handle
resolved. -/
def Performed.vacates {σ : Type} (index : Nat) (step : Performed σ) : Bool :=
  match step.operation, step.outcome with
  | .freeVbar handle, .ok _ => handle.index = index
  | _, _ => false

section Histories

variable {σ : Type} [Host σ] {alters : σ → σ → Prop} {start context after : Context σ}
  {steps : List (Performed σ)} {index : Nat}

theorem Operation.run_advances {operation : Operation} {outcome : Except Error Outcome}
    (ran : operation.run context = .ok outcome after) :
    Advances context.engine.vbars after.engine.vbars index
      (if (Performed.mk context operation outcome after).vacates index then 1 else 0) := by
  cases operation with
  | freeVbar handle =>
    have freed : Ensures (fun _ => True) (Operation.freeVbar handle).run context
        (fun outcome after => Advances context.engine.vbars after.engine.vbars index
          (if (Performed.mk context (.freeVbar handle) outcome after).vacates index
            then 1 else 0)) := by
      refine ensures_run_bind.mpr ((Vbars.free_advances handle index).mono ?_)
      intro result after advances
      cases result with
      | ok _ => simpa [Performed.vacates] using advances
      | error cause => simpa [Performed.vacates] using advances
    exact freed.of_ok ran
  | _ =>
    exact ((Operation.run_only _ context).ensures.of_ok ran).advances (of_decide_eq_true rfl)

/-- The generation of a slot counts how often the slot was freed. -/
theorem History.advances (history : History alters start steps context) :
    Advances start.engine.vbars context.engine.vbars index
      (steps.countP (Performed.vacates index)) := by
  induction history with
  | start => exact .of_eq rfl
  | alter _ _ ih => exact ih
  | perform _ ran ih =>
    rw [List.countP_cons]
    exact ih.trans (Operation.run_advances ran)

/-- A generation comes back after 2^32 steps. -/
theorem add_ofNat_eq_self_iff {generation : UInt32} {count : Nat} :
    generation + UInt32.ofNat count = generation ↔ 2 ^ 32 ∣ count := by
  have bound := generation.toNat_lt
  rw [← UInt32.toNat_inj, UInt32.toNat_add, UInt32.toNat_ofNat', Nat.dvd_iff_mod_eq_zero]
  omega

/-- A handle resolves to a VBAR as long as its slot is occupied and was freed a multiple of 2^32
times since the handle was given out. -/
theorem History.isSome_get?_iff {recent earlier : List (Performed σ)} {issue : Performed σ}
    {handle : Handle} {size : Nat} {device : Int}
    (history : History alters start (recent ++ issue :: earlier) context)
    (allocates : issue.operation = .allocateVbar size device)
    (issued : issue.outcome = .ok (.vbar handle)) :
    (context.engine.vbars.get? handle).isSome ↔
      (context.engine.vbars.node? handle.index).isSome ∧
        2 ^ 32 ∣ recent.countP (Performed.vacates handle.index) := by
  obtain ⟨middle, before, since⟩ := history.split
  obtain ⟨-, ran, same⟩ := before.latest
  have given : Ensures (fun _ => True) (Operation.allocateVbar size device).run issue.before
      (fun outcome after => ∀ handle, outcome = .ok (.vbar handle) →
        after.engine.vbars.generations[handle.index]? = some handle.generation) := by
    refine ensures_run_bind.mpr ((Vbars.allocate_generation size device).mono ?_)
    intro result after generation
    cases result with
    | error cause => exact nofun
    | ok handle =>
      rintro _ ⟨⟩
      exact generation handle rfl
  rw [allocates] at ran
  have generation := given.of_ok ran handle issued
  rw [← same] at generation
  rw [PriorityList.isSome_get?_iff (since.advances _ generation)]
  exact and_congr_right fun _ => add_ofNat_eq_self_iff

end Histories

/-! ## Handles that do not resolve -/

namespace Operation

/-- The handle that an operation is given. -/
def target? : Operation → Option Handle
  | fault vbar _ _ | unpin vbar _ _ | freeVbar vbar | prioritize vbar | deprioritize vbar
  | setWatermarkLimit vbar _ | freeVbarMemory vbar _ | evictForVbar vbar _ => some vbar
  | _ => none

/-- The answer to a handle that does not resolve. Reclaiming for a VBAR has none to give. -/
def staleOutcome : Operation → Except Error Outcome
  | evictForVbar _ _ => .ok .done
  | _ => .error .invalidHandle

end Operation

section Stale

variable {σ : Type} [Host σ] {context : Context (Traced σ)} {handle : Handle}

/-- The context after some notices. No call reached the driver, and the engine is as it was. -/
def Context.noticed (context : Context (Traced σ)) (notices : List Notice) : Context (Traced σ) :=
  { context with
    host := { context.host with
      host := notices.foldl (fun host notice => Host.log notice host) context.host.host } }

/-- The step finds that the handle does not resolve, after some notices. -/
def Refused {α : Type} (step : Attempt (Traced σ) α) (context : Context (Traced σ))
    (notices : List Notice) : Prop :=
  step.run context = .ok (.error .invalidHandle) (context.noticed notices)

section Refused

variable {α β : Type} {notices : List Notice}

theorem Refused.bind {step : Attempt (Traced σ) α} {next : α → Attempt (Traced σ) β}
    (refused : Refused step context notices) : Refused (step >>= next) context notices := by
  unfold Refused at refused ⊢
  change EStateM.bind step.run (ExceptT.bindCont next) context = _
  unfold EStateM.bind
  rw [refused]
  rfl

theorem Refused.vbar {next : Vbar → Attempt (Traced σ) β}
    (stale : context.engine.vbars.get? handle = none) :
    Refused (Attempt.vbar handle >>= next) context [] := by
  have read : Ensures (fun _ => False) (Attempt.vbar handle).run context (fun result after =>
      result = .error .invalidHandle ∧ after = context) := by
    rw [Attempt.ensures_vbar, stale]
    exact ⟨rfl, rfl⟩
  obtain ⟨_, _, ran, rfl, rfl⟩ := read.exists_ok
  exact Refused.bind ran

/-- A handle that does not resolve after a notice did not resolve before. -/
theorem Refused.log {notice : Notice} {next : Unit → Attempt (Traced σ) β}
    (refused : Refused (next ()) (context.noticed [notice]) notices) :
    Refused (lift (EngineM.log notice) >>= next) context (notice :: notices) := refused

end Refused

/-- An operation on a handle that does not resolve is refused before it does anything but announce
itself. -/
theorem Operation.run_stale {operation : Operation} (target : operation.target? = some handle)
    (stale : context.engine.vbars.get? handle = none) :
    ∃ notices, operation.run context = .ok operation.staleOutcome (context.noticed notices) := by
  cases operation with
  | fault vbar offset size =>
    cases target
    exact ⟨[_], Refused.bind (.log (.vbar stale))⟩
  | unpin vbar offset size =>
    cases target
    exact ⟨[], Refused.bind (.vbar stale)⟩
  | freeVbar vbar =>
    cases target
    exact ⟨[_], Refused.bind (.log (.vbar stale))⟩
  | prioritize vbar =>
    cases target
    exact ⟨[_], Refused.bind (.log (.vbar stale))⟩
  | deprioritize vbar =>
    cases target
    exact ⟨[_], Refused.bind (.log (.vbar stale))⟩
  | setWatermarkLimit vbar size =>
    cases target
    exact ⟨[], Refused.bind (.vbar stale)⟩
  | freeVbarMemory vbar size =>
    cases target
    exact ⟨[_], Refused.bind (.log (.vbar stale))⟩
  | evictForVbar vbar target' =>
    cases target
    have looked : (vbar? handle : EngineM (Traced σ) _) context = .ok none context :=
      congrArg (EStateM.Result.ok · context) stale
    have left : (Eviction.evictForVbar handle target' : EngineM (Traced σ) Unit) context =
        .ok () context := by
      unfold Eviction.evictForVbar
      change EStateM.bind (vbar? handle) _ context = _
      unfold EStateM.bind
      rw [looked]
      rfl
    refine ⟨[], ?_⟩
    change EStateM.bind (EStateM.map Except.ok (Eviction.evictForVbar handle target')) _ context = _
    unfold EStateM.bind EStateM.map
    rw [left]
    rfl
  | _ => cases target

/-- Questions about a handle that does not resolve have no answer. -/
theorem Engine.queries_stale {engine : Engine} (stale : engine.vbars.get? handle = none) :
    engine.vbar handle = .error .invalidHandle ∧ engine.loadedSize handle = .error .invalidHandle ∧
      ∀ index, engine.isResident handle index = .error .invalidHandle ∧
        engine.isPinned handle index = .error .invalidHandle := by
  have unknown : engine.vbar handle = .error .invalidHandle := by
    unfold Engine.vbar
    rw [stale]
  unfold loadedSize isResident isPinned
  rw [unknown]
  exact ⟨rfl, rfl, fun _ => ⟨rfl, rfl⟩⟩

end Stale

/-- After every run with fewer than 2^32 - 1 slots a word resolves exactly if it is the packed handle
of a VBAR, and these are different words other than zero. A handle resolves exactly if its slot is
occupied and was freed a multiple of 2^32 times since the handle was given out. An operation on a
handle that does not resolve is refused, asks nothing of the driver and changes nothing. -/
theorem handles_safe {σ : Type} [Host σ] {alters : Traced σ → Traced σ → Prop} {device : Int}
    {config : Config} {host host' : Traced σ} {engine : Engine} {context : Context (Traced σ)}
    {steps : List (Performed (Traced σ))}
    (opened : Engine.create device config host = .ok (.ok engine) host')
    (history : History alters ⟨engine, host'⟩ steps context)
    (few : context.engine.vbars.slots.size < 2 ^ 32 - 1) :
    (∀ raw < 2 ^ 64, ∀ vbar, (Handle.ofRaw? raw).bind context.engine.vbars.get? = some vbar ↔
      ∃ handle, (handle, vbar) ∈ context.engine.vbars.toList ∧ handle.toRaw = raw) ∧
    (context.engine.vbars.handles.map Handle.toRaw).Nodup ∧
    (∀ handle ∈ context.engine.vbars.handles, handle.toRaw ≠ 0 ∧ handle.toRaw < 2 ^ 64) ∧
    (∀ (recent earlier : List (Performed (Traced σ))) (issue : Performed (Traced σ))
      (size : Nat) (device : Int) (handle : Handle), steps = recent ++ issue :: earlier →
      issue.operation = .allocateVbar size device → issue.outcome = .ok (.vbar handle) →
      ((context.engine.vbars.get? handle).isSome ↔
        (context.engine.vbars.node? handle.index).isSome ∧
          2 ^ 32 ∣ recent.countP (Performed.vacates handle.index)) ∧
      ((∃ step ∈ recent, step.operation = .freeVbar handle ∧ step.outcome = .ok .done) →
        (context.engine.vbars.get? handle).isSome →
          2 ^ 32 ≤ recent.countP (Performed.vacates handle.index))) ∧
    ∀ handle, context.engine.vbars.get? handle = none →
      (∀ operation : Operation, operation.target? = some handle → ∃ notices,
        operation.run context = .ok operation.staleOutcome (context.noticed notices)) ∧
      context.engine.vbar handle = .error .invalidHandle ∧
      context.engine.loadedSize handle = .error .invalidHandle ∧
      ∀ index, context.engine.isResident handle index = .error .invalidHandle ∧
        context.engine.isPinned handle index = .error .invalidHandle := by
  have linked := (sound_of_run history.run (sound_of_opened opened)).vbars.linked
  have small : context.engine.vbars.slots.size < 2 ^ 32 := by omega
  refine ⟨fun raw word vbar => linked.get?_ofRaw? small word, linked.raw_nodup small,
    fun handle member => ?_, ?_, fun handle stale => ⟨fun operation target =>
      operation.run_stale target stale, Engine.queries_stale stale⟩⟩
  · obtain ⟨_, live⟩ := linked.mem_handles.mp member
    exact ⟨handle.toRaw_ne_zero, Handle.toRaw_lt (PriorityList.index_lt_of_get? small live)⟩
  · rintro recent earlier issue size device handle rfl allocates issued
    have resolves := history.isSome_get?_iff allocates issued
    refine ⟨resolves, fun freed live => ?_⟩
    obtain ⟨step, member, frees, done⟩ := freed
    have vacated : 0 < recent.countP (Performed.vacates handle.index) := by
      refine List.countP_pos_iff.mpr ⟨step, member, ?_⟩
      unfold Performed.vacates
      rw [frees, done]
      simp
    exact Nat.le_of_dvd vacated (resolves.mp live).2

/-- A slot that was freed once and used again: the old handle does not resolve, though the slot is
occupied, and a fault on it is refused. -/
theorem handles_safe_reused :
    ∃ (context : Context (Traced Bench)) (notices : List Notice),
      (context.engine.vbars.node? 0).isSome = true ∧
      context.engine.vbars.get? ⟨0, 0⟩ = none ∧
      (Operation.fault ⟨0, 0⟩ 0 1).run context =
        .ok (.error .invalidHandle) (context.noticed notices) := by
  have passed : records 0 .bytewise { host := { device := { capacity := 1 } } : Traced Bench }
      [.allocateVbar 1 0, .freeVbar ⟨0, 0⟩, .allocateVbar 1 0]
      (fun steps context => match steps with
        | [again, freed, issue] => decide (
            issue.operation = .allocateVbar 1 0 ∧ issue.outcome = .ok (.vbar ⟨0, 0⟩) ∧
            [again, freed].countP (Performed.vacates 0) = 1 ∧
            context.engine.vbars.slots.size = 1 ∧
            (context.engine.vbars.node? 0).isSome = true)
        | _ => false) = true := by
    decide +kernel
  obtain ⟨engine, host, steps, context, opened, history, passed⟩ :=
    exists_history_of_records (fun _ _ => False) passed
  split at passed
  · rename_i again freed issue
    obtain ⟨allocates, issued, once, slots, occupied⟩ := of_decide_eq_true passed
    obtain ⟨-, -, -, resolves, stale⟩ := handles_safe opened history (by rw [slots]; decide)
    obtain ⟨exactly, -⟩ := resolves [again, freed] [] issue 1 0 ⟨0, 0⟩ rfl allocates issued
    have gone : context.engine.vbars.get? ⟨0, 0⟩ = none := by
      rw [once] at exactly
      exact Option.not_isSome_iff_eq_none.mp fun live => absurd (exactly.mp live).2 (by decide)
    obtain ⟨notices, refused⟩ := (stale ⟨0, 0⟩ gone).1 (.fault ⟨0, 0⟩ 0 1) rfl
    exact ⟨context, notices, occupied, gone, refused⟩
  · cases passed

end VramOvercommit
