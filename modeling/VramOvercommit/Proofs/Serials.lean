import VramOvercommit.Proofs.AnyDriver
import VramOvercommit.Proofs.OperationActions
import VramOvercommit.Simulation.Trace

set_option autoImplicit false

/-!
Serials prove that a page kept its memory. A serial counts the commits of its page since the VBAR
came, so two faults that report the same serial saw the same memory, and it never was away.
-/

namespace VramOvercommit

open EngineM
open Simulation (Bench Event Traced)

/-! ## Histories -/

/-- An operation of a run, with its contexts before and after. -/
structure Performed (σ : Type) where
  before : Context σ
  operation : Operation
  outcome : Except Error Outcome
  after : Context σ

section Histories

variable {σ : Type} [Host σ] {alters : σ → σ → Prop} {start context : Context σ}
  {steps : List (Performed σ)}

/-- A run of any operations together with what was performed, the latest operation first. -/
inductive History (alters : σ → σ → Prop) (start : Context σ) :
    List (Performed σ) → Context σ → Prop where
  | start : History alters start [] start
  | alter {steps : List (Performed σ)} {context : Context σ} {host : σ} :
      History alters start steps context → alters context.host host →
      History alters start steps { context with host }
  | perform {steps : List (Performed σ)} {context after : Context σ} {operation : Operation}
      {outcome : Except Error Outcome} : History alters start steps context →
      operation.run context = .ok outcome after →
      History alters start (⟨context, operation, outcome, after⟩ :: steps) after

theorem History.run (history : History alters start steps context) :
    Run alters anyOperation start context := by
  induction history with
  | start => exact .start
  | alter _ altered ih => exact .alter ih altered
  | perform _ ran ih => exact .perform ih ran trivial

/-- What came later is a history of its own. -/
theorem History.split {later earlier : List (Performed σ)}
    (history : History alters start (later ++ earlier) context) :
    ∃ middle, History alters start earlier middle ∧ History alters middle later context := by
  generalize joined : later ++ earlier = steps at history
  induction history generalizing later with
  | start =>
    obtain ⟨rfl, rfl⟩ := List.append_eq_nil_iff.mp joined
    exact ⟨start, .start, .start⟩
  | alter _ altered ih =>
    obtain ⟨middle, before, after⟩ := ih joined
    exact ⟨middle, before, .alter after altered⟩
  | @perform steps context after operation outcome earlierHistory ran ih =>
    cases later with
    | nil =>
      refine ⟨after, ?_, .start⟩
      rw [show earlier = _ from joined]
      exact .perform earlierHistory ran
    | cons step later =>
      obtain ⟨rfl, others⟩ := List.cons.inj joined
      obtain ⟨middle, before, between⟩ := ih others
      exact ⟨middle, before, .perform between ran⟩

/-- The latest operation was run, from the engine that the others left. -/
theorem History.latest {step : Performed σ}
    (history : History alters start (step :: steps) context) :
    History alters start steps step.before ∧
      step.operation.run step.before = .ok step.outcome step.after ∧
      context.engine = step.after.engine := by
  generalize joined : step :: steps = all at history
  induction history with
  | start => cases joined
  | alter _ _ ih => exact ih joined
  | perform earlier ran _ =>
    cases joined
    exact ⟨earlier, ran, rfl⟩

/-- Performs operations while nothing else changes the host, and keeps what was performed. -/
def recorded : List Operation → List (Performed σ) → Context σ →
    Option (List (Performed σ) × Context σ)
  | [], steps, context => some (steps, context)
  | operation :: rest, steps, context =>
      match operation.run context with
      | .ok outcome after => recorded rest (⟨context, operation, outcome, after⟩ :: steps) after
      | .error _ _ => none

theorem History.of_recorded {operations : List Operation} {all : List (Performed σ)}
    {after : Context σ} (history : History alters start steps context)
    (evaluated : recorded operations steps context = some (all, after)) :
    History alters start all after := by
  induction operations generalizing context steps with
  | nil =>
    cases evaluated
    exact history
  | cons operation rest ih =>
    unfold recorded at evaluated
    split at evaluated
    · exact ih (history.perform ‹_›) evaluated
    · cases evaluated

/-- Opens a context and performs operations on it: whether their record passes a test. -/
def records (device : Int) (config : Config) (host : σ) (operations : List Operation)
    (test : List (Performed σ) → Context σ → Bool) : Bool :=
  match Engine.create device config host with
  | .ok (.ok engine) host => (recorded operations [] ⟨engine, host⟩).any fun (steps, context) =>
      test steps context
  | _ => false

/-- A record that is found by evaluation is one of a history. -/
theorem exists_history_of_records (alters : σ → σ → Prop) {device : Int} {config : Config}
    {host : σ} {operations : List Operation} {test : List (Performed σ) → Context σ → Bool}
    (passed : records device config host operations test = true) :
    ∃ engine host' steps context, Engine.create device config host = .ok (.ok engine) host' ∧
      History alters ⟨engine, host'⟩ steps context ∧ test steps context = true := by
  unfold records at passed
  split at passed
  · rename_i engine host' opened
    obtain ⟨⟨steps, context⟩, evaluated, passed⟩ := (Option.any_eq_true _ _).mp passed
    exact ⟨engine, host', steps, context, opened, History.of_recorded .start evaluated, passed⟩
  · cases passed

/-- The operations performed while a VBAR was there, back to the one that brought it. -/
def lifetime (handle : Handle) (steps : List (Performed σ)) : List (Performed σ) :=
  steps.takeWhile fun step => (step.before.engine.vbars.get? handle).isSome

end Histories

/-! ## Operations that commit nothing -/

namespace Operation

/-- The operations that may commit memory. -/
def commits : Operation → Bool
  | fault _ _ _ | allocate _ _ | growBuffer _ _ => true
  | _ => false

/-- All other operations commit nothing. -/
theorem run_silent {σ : Type} [Host σ] {operation : Operation} (idle : operation.commits = false) :
    Silent (operation.run : EngineM σ (Except Error Outcome)) := by
  refine .of_only operation.run_only ?_
  cases operation with
  | fault vbar offset size => cases idle
  | allocate size device => cases idle
  | growBuffer ptr size => cases idle
  | _ => exact of_decide_eq_true rfl

end Operation

/-! ## Counting commits -/

/-- Whether a record is one of access granted to a range. -/
def Simulation.Event.grants (vaddr size : Nat) : Event → Bool
  | .called call answer => call.grants vaddr size answer
  | .named _ _ => false

/-- Whether what an operation commits is not for the VBAR. -/
def Operation.commitsElsewhere (handle : Handle) : Operation → Bool
  | fault vbar _ _ => vbar ≠ handle
  | allocate _ _ | growBuffer _ _ => true
  | _ => false

section Commits

variable {σ : Type} [Host σ] {alters : Traced σ → Traced σ → Prop}
  {start context after : Context (Traced σ)} {steps : List (Performed (Traced σ))}
  {handle : Handle} {own : Vbar} {index : Nat}

omit [Host σ] in
/-- How often access to a range is on record. A grant completes a commit. -/
def Simulation.Traced.grants (traced : Traced σ) (vaddr size : Nat) : Nat :=
  traced.events.countP (Event.grants vaddr size)

/-- The record of a host counts the grants. -/
def Simulation.Traced.tally (size : Nat) : Tally (Traced σ) size where
  count traced vaddr := traced.grants vaddr size
  call := by
    intro call host after answer called vaddr
    change (match Host.call call host.host with
      | .ok answer inner => EStateM.Result.ok answer (host.record inner (.called call answer))
      | .error overflow inner => .error overflow { host with host := inner }) = _ at called
    split at called
    · cases called
      exact Array.countP_push
    · cases called
  log _ _ := rfl
  clock _ := rfl
  platformBudget _ := rfl
  allocates _ _ _ := rfl

omit [Host σ] in
/-- How often access was granted to a range between two states. -/
def Simulation.Traced.granted (before after : Traced σ) (vaddr size : Nat) : Nat :=
  after.grants vaddr size - before.grants vaddr size

theorem Granted.count_eq {size : Nat} {addresses : List Nat} {before after : Traced σ}
    (granted : Granted size addresses before after) (vaddr : Nat) :
    before.granted after vaddr size = addresses.count vaddr := by
  have counted : after.grants vaddr size = before.grants vaddr size + addresses.count vaddr :=
    granted (Traced.tally size) vaddr
  unfold Traced.granted
  omega

/-- The commits of a page during an operation: access granted at its address, on behalf of its
VBAR. -/
def Performed.commits (step : Performed (Traced σ)) (handle : Handle) (index : Nat) : Nat :=
  match step.before.engine.vbars.get? handle with
  | none => 0
  | some own =>
      let size := step.before.engine.config.vbarPageSize
      if step.operation.commitsElsewhere handle then 0
      else step.before.host.granted step.after.host (own.base + index * size) size

/-- The commits of a page during several operations. -/
def commitsIn (handle : Handle) (index : Nat) (steps : List (Performed (Traced σ))) : Nat :=
  (steps.map (·.commits handle index)).sum

/-- A successful fault reported this serial for the page. -/
def Performed.Reports (step : Performed (Traced σ)) (handle : Handle) (index : Nat)
    (serial : UInt32) : Prop :=
  ∃ offset size serials, step.operation = .fault handle offset size ∧
    step.outcome = .ok (.serials serials) ∧
    offset / step.before.engine.config.vbarPageSize ≤ index ∧
    serials[index - offset / step.before.engine.config.vbarPageSize]? = some serial

/-! ## One operation -/

/-- Pages of a VBAR have their own addresses, so each commit is counted for its page only. -/
theorem count_addresses {size : Nat} (positive : 0 < size) (base : Nat) (commits : List Nat)
    (index : Nat) :
    (commits.map fun other => base + other * size).count (base + index * size) =
      commits.count index := by
  rw [List.count, List.count, List.countP_map]
  refine List.countP_congr fun other _ => ?_
  simp [Nat.mul_left_inj (Nat.ne_of_gt positive)]

/-- A fault counts up the serials of the pages that it commits. -/
theorem fault_ages {offset size : Nat} (sound : Sound (Ledger.unknown (Traced σ)) context)
    (live : context.engine.vbars.get? handle = some own) :
    Ensures (Ledger.unknown (Traced σ)).aborts (Operation.fault handle offset size).run context
      (fun _ after => ∃ left, after.engine.vbars.get? handle = some left ∧
        own.Ages left fun index => context.host.granted after.host
          (own.base + index * context.engine.config.vbarPageSize)
          context.engine.config.vbarPageSize) := by
  refine Operation.ensures_handOut ((Vbars.fault_spec sound).mono fun _ after outcome => ?_)
  obtain ⟨-, faulted, -⟩ := outcome
  obtain ⟨commits, progress, granted⟩ := faulted.advanced own live
  obtain ⟨left, remains, ages⟩ := progress.ages live
  simp only [granted.count_eq, count_addresses sound.vbarBooks.positive]
  have counted : Vbars.commitsFor handle commits handle = fun index => commits.count index :=
    funext fun _ => if_pos rfl
  rw [counted] at ages
  exact ⟨left, remains, ages⟩

/-- An operation that neither faults a VBAR nor commits for something else commits nothing. -/
theorem Operation.commits_eq_false {operation : Operation}
    (elsewhere : operation.commitsElsewhere handle = false) (faults : ¬ operation.faults handle) :
    operation.commits = false := by
  cases operation with
  | fault vbar offset size =>
    have same : vbar = handle := by simpa [commitsElsewhere] using elsewhere
    exact absurd same.symm faults
  | allocate size device => cases elsewhere
  | growBuffer ptr size => cases elsewhere
  | _ => rfl

/-- Every operation that does not free a VBAR counts up the serials of the pages it commits. -/
theorem Performed.ages (step : Performed (Traced σ))
    (sound : Sound (Ledger.unknown (Traced σ)) step.before)
    (ran : step.operation.run step.before = .ok step.outcome step.after)
    (live : step.before.engine.vbars.get? handle = some own)
    (notFreed : ¬ step.operation.frees handle) :
    ∃ left, step.after.engine.vbars.get? handle = some left ∧
      own.Ages left (step.commits handle) := by
  unfold Performed.commits
  rw [live]
  dsimp only
  by_cases faults : step.operation.faults handle
  · cases operation : step.operation with
    | fault vbar offset size =>
      rw [operation] at faults ran
      cases faults
      have here : Operation.commitsElsewhere handle (.fault handle offset size) = false := by
        simp [Operation.commitsElsewhere]
      simp only [here, Bool.false_eq_true, if_false]
      exact (fault_ages sound live).of_ok ran
    | _ => simp [operation, Operation.faults] at faults
  · -- the VBAR gets nothing, and nothing is counted for it
    have respected := (step.operation.run_spec sound rfl fun _ => trivial).of_ok ran
    obtain ⟨left, remains, outlives⟩ := respected.outlive handle own live notFreed
    refine ⟨left, remains, ?_⟩
    cases elsewhere : step.operation.commitsElsewhere handle with
    | true =>
      simp only [if_true]
      exact outlives.fades faults
    | false =>
      have idle := Operation.commits_eq_false elsewhere faults
      have granted := (Operation.run_silent idle step.before).of_ok ran
      simp only [Bool.false_eq_true, if_false, (granted _).count_eq, List.count_nil]
      exact outlives.fades faults

/-! ## Runs -/

omit [Host σ] in
theorem commitsIn_cons (step : Performed (Traced σ)) (steps : List (Performed (Traced σ))) :
    commitsIn handle index (step :: steps) =
      commitsIn handle index steps + step.commits handle index := by
  unfold commitsIn
  rw [List.map_cons, List.sum_cons, Nat.add_comm]

/-- As long as a VBAR is not freed, its serials count the commits. -/
theorem History.ages (history : History alters start steps context)
    (sound : Sound (Ledger.unknown (Traced σ)) start)
    (live : start.engine.vbars.get? handle = some own)
    (notFreed : ∀ step ∈ steps, ¬ step.operation.frees handle) :
    ∃ left, context.engine.vbars.get? handle = some left ∧
      own.Ages left fun index => commitsIn handle index steps := by
  induction history with
  | start => exact ⟨own, live, Vbar.Fades.refl own⟩
  | alter _ _ ih => exact ih notFreed
  | @perform steps context after operation outcome earlier ran ih =>
    obtain ⟨own', live', ages⟩ :=
      ih fun step member => notFreed step (List.mem_cons_of_mem _ member)
    obtain ⟨left, remains, ages'⟩ := Performed.ages ⟨context, operation, outcome, after⟩
      (sound_of_run earlier.run sound) ran live' (notFreed _ List.mem_cons_self)
    simp only [commitsIn_cons]
    exact ⟨left, remains, ages.trans ages'⟩

/-- The page has this memory. -/
def Backs (engine : Engine) (handle : Handle) (index : Nat) (memory : PhysicalHandle) : Prop :=
  ∃ vbar page, engine.vbars.get? handle = some vbar ∧ vbar.pages[index]? = some page ∧
    page.backing = some memory

/-- A page that has memory after operations that did not commit it had that memory all along. -/
theorem History.backs {memory : PhysicalHandle} (history : History alters start steps context)
    (sound : Sound (Ledger.unknown (Traced σ)) start)
    (live : start.engine.vbars.get? handle = some own)
    (notFreed : ∀ step ∈ steps, ¬ step.operation.frees handle)
    (idle : commitsIn handle index steps = 0) (backs : Backs context.engine handle index memory) :
    Backs start.engine handle index memory ∧
      ∀ step ∈ steps, Backs step.after.engine handle index memory := by
  induction history with
  | start => exact ⟨backs, fun _ member => nomatch member⟩
  | alter _ _ ih => exact ih notFreed idle backs
  | @perform steps context after operation outcome earlier ran ih =>
    rw [commitsIn_cons, Nat.add_eq_zero_iff] at idle
    have notFreed' : ∀ step ∈ steps, ¬ step.operation.frees handle := fun step member =>
      notFreed step (List.mem_cons_of_mem _ member)
    obtain ⟨own', live', -⟩ := earlier.ages sound live notFreed'
    obtain ⟨left, remains, ages⟩ := Performed.ages ⟨context, operation, outcome, after⟩
      (sound_of_run earlier.run sound) ran live' (notFreed _ List.mem_cons_self)
    have backs' : Backs context.engine handle index memory := by
      obtain ⟨vbar, page, live'', found, backing⟩ := backs
      rw [remains] at live''
      cases live''
      obtain ⟨page', found', -⟩ := ages.exists_before found
      obtain ⟨page'', found'', -, faded⟩ := ages.pages found'
      rw [found] at found''
      cases found''
      rcases faded idle.2 with same | lost
      · exact ⟨own', page', live', found', same.symm.trans backing⟩
      · rw [lost] at backing
        cases backing
    obtain ⟨first, others⟩ := ih notFreed' idle.1 backs'
    refine ⟨first, fun step member => ?_⟩
    rcases List.mem_cons.mp member with rfl | member
    · exact backs
    · exact others step member

/-- What a fault reports of a page is so at its end. -/
theorem Performed.Reports.exists_page {step : Performed (Traced σ)} {serial : UInt32}
    (reports : step.Reports handle index serial)
    (sound : Sound (Ledger.unknown (Traced σ)) step.before)
    (ran : step.operation.run step.before = .ok step.outcome step.after) :
    ∃ vbar page, step.after.engine.vbars.get? handle = some vbar ∧
      vbar.pages[index]? = some page ∧ page.isResident = true ∧ page.serial = serial := by
  obtain ⟨offset, size, serials, operation, outcome, low, reported⟩ := reports
  rw [operation, outcome] at ran
  have told : Ensures (Ledger.unknown (Traced σ)).aborts
      (Operation.fault handle offset size).run step.before (fun outcome after =>
        ∀ serials, outcome = .ok (.serials serials) → ∃ left,
          after.engine.vbars.get? handle = some left ∧ Vbars.Reported left
            (offset / step.before.engine.config.vbarPageSize) serials) := by
    unfold Operation.run Operation.attempt
    rw [ensures_run_bind]
    refine (Vbars.fault_spec sound).mono fun result after outcome => ?_
    obtain ⟨-, faulted, -⟩ := outcome
    cases result with
    | error cause => exact fun _ failed => nomatch failed
    | ok serials =>
      rintro _ ⟨⟩
      exact faulted.reported serials rfl
  obtain ⟨left, remains, all⟩ := told.of_ok ran serials rfl
  obtain ⟨page, found, resident, same⟩ := all _ serial reported
  rw [Nat.add_sub_cancel' low] at found
  exact ⟨left, page, remains, found, resident, same⟩

/-- The serials of all live VBARs count the commits since the VBAR came. -/
theorem History.serial_eq (history : History alters start steps context)
    (sound : Sound (Ledger.unknown (Traced σ)) start) (empty : start.engine.vbars = {})
    {vbar : Vbar} {page : Page} (live : context.engine.vbars.get? handle = some vbar)
    (found : vbar.pages[index]? = some page) :
    page.serial = UInt32.ofNat (commitsIn handle index (lifetime handle steps)) := by
  induction history generalizing vbar page with
  | start =>
    rw [empty] at live
    cases live
  | alter _ _ ih => exact ih live found
  | @perform steps context after operation outcome earlier ran ih =>
    have sound' := sound_of_run earlier.run sound
    have respected := (operation.run_spec sound' rfl fun _ => trivial).of_ok ran
    cases before : context.engine.vbars.get? handle with
    | none =>
      have came : handle ∈ after.engine.vbars.handles :=
        respected.sound.vbars.linked.mem_handles.mpr ⟨vbar, live⟩
      have stale : lifetime handle (⟨context, operation, outcome, after⟩ :: steps) = [] := by
        simp [lifetime, before]
      rw [stale]
      rcases respected.arrives handle came with old | ⟨left, live', never, -⟩
      · obtain ⟨own, live'⟩ := sound'.vbars.linked.mem_handles.mp old
        rw [before] at live'
        cases live'
      · rw [live] at live'
        cases live'
        exact never index page found
    | some own =>
      have kept : ¬ operation.frees handle := by
        intro freed
        rw [respected.gone handle freed] at live
        cases live
      have lives : lifetime handle (⟨context, operation, outcome, after⟩ :: steps) =
          ⟨context, operation, outcome, after⟩ :: lifetime handle steps := by
        simp [lifetime, before]
      obtain ⟨left, remains, ages⟩ := Performed.ages ⟨context, operation, outcome, after⟩ sound' ran
        before kept
      rw [live] at remains
      cases remains
      obtain ⟨page', found', serial⟩ := ages.exists_before found
      rw [lives, commitsIn_cons, UInt32.ofNat_add, ← ih before found', serial]

/-- Fewer commits than there are serials show in the serial. -/
theorem eq_zero_of_ofNat {serial : UInt32} {commits : Nat} (few : commits < 2 ^ 32)
    (same : serial = serial + UInt32.ofNat commits) : commits = 0 := by
  have none : UInt32.ofNat commits = 0 :=
    (UInt32.add_right_inj serial).mp (same.symm.trans (UInt32.add_zero serial).symm)
  have value := congrArg UInt32.toNat none
  rw [UInt32.toNat_ofNat', Nat.mod_eq_of_lt few] at value
  exact value

variable {device : Int} {config : Config} {host host' : Traced σ} {engine : Engine}

/-- The serial of a page counts its commits since the VBAR was allocated, up to 2^32. Hence, where
two faults report the same serial and fewer commits of the page lie between the one report and the
other, there was none: after each operation in between the page had the memory it had at first. -/
theorem serials_prove_survival
    (opened : Engine.create device config host = .ok (.ok engine) host')
    (history : History alters ⟨engine, host'⟩ steps context) (handle : Handle) (index : Nat) :
    (∀ (vbar : Vbar) (page : Page), context.engine.vbars.get? handle = some vbar →
      vbar.pages[index]? = some page →
      page.serial.toNat = commitsIn handle index (lifetime handle steps) % 2 ^ 32) ∧
    ∀ (recent between earlier : List (Performed (Traced σ))) (second first : Performed (Traced σ))
      (serial : UInt32), steps = recent ++ second :: (between ++ first :: earlier) →
      (∀ step ∈ between, step.operation ≠ .freeVbar handle) →
      first.Reports handle index serial → second.Reports handle index serial →
      commitsIn handle index (second :: between) < 2 ^ 32 →
      commitsIn handle index (second :: between) = 0 ∧
        ∃ memory, ∀ step ∈ second :: (between ++ [first]),
          Backs step.after.engine handle index memory := by
  have sound := sound_of_opened opened
  refine ⟨fun vbar page live found => ?_, ?_⟩
  · obtain ⟨-, capacity, fresh⟩ := fresh_of_opened opened
    have empty : engine.vbars = {} := by
      rw [fresh, Engine.vbars_fresh]
    rw [history.serial_eq sound empty live found, UInt32.toNat_ofNat']
  · rintro recent between earlier second first serial rfl notFreed one other few
    obtain ⟨last, upto, -⟩ := history.split
    rw [← List.cons_append] at upto
    obtain ⟨middle, untilFirst, since⟩ := upto.split
    obtain ⟨beforeFirst, ranFirst, engineFirst⟩ := untilFirst.latest
    obtain ⟨beforeSecond, ranSecond, engineSecond⟩ := since.latest
    have soundMiddle := sound_of_run untilFirst.run sound
    -- the page as each of the two faults left it
    obtain ⟨own, page, live, found, resident, reported⟩ :=
      one.exists_page (sound_of_run beforeFirst.run sound) ranFirst
    obtain ⟨left, page', live', found', resident', reported'⟩ :=
      other.exists_page (sound_of_run beforeSecond.run soundMiddle) ranSecond
    rw [← engineFirst] at live
    rw [← engineSecond] at live'
    have kept : ∀ step ∈ second :: between, ¬ step.operation.frees handle := by
      intro step member freed
      rw [Operation.frees_iff] at freed
      rcases List.mem_cons.mp member with rfl | member
      · obtain ⟨offset, size, serials, operation, -⟩ := other
        rw [operation] at freed
        cases freed
      · exact notFreed step member freed
    obtain ⟨left', remains, ages⟩ := since.ages soundMiddle live kept
    rw [live'] at remains
    cases remains
    obtain ⟨page'', found'', serials, -⟩ := ages.pages found
    rw [found'] at found''
    cases found''
    rw [reported, reported'] at serials
    have idle := eq_zero_of_ofNat few serials
    obtain ⟨memory, backing⟩ := Option.isSome_iff_exists.mp resident'
    obtain ⟨atFirst, others⟩ := since.backs soundMiddle live kept idle
      ⟨left, page', live', found', backing⟩
    refine ⟨idle, memory, fun step member => ?_⟩
    rw [← List.cons_append, List.mem_append, List.mem_singleton] at member
    rcases member with member | rfl
    · exact others step member
    · rwa [engineFirst] at atFirst

end Commits

/-- On a device of one byte a page is reclaimed and gets memory again, which shows in its serial. It
then keeps that memory, which shows as well. -/
theorem serials_prove_survival_reclaimed :
    ∃ (second first : Performed (Traced Bench)) (earlier : List (Performed (Traced Bench)))
      (vbar : Vbar) (page : Page),
      commitsIn ⟨0, 0⟩ 0 (lifetime ⟨0, 0⟩ (second :: first :: earlier)) = 2 ∧
      second.after.engine.vbars.get? ⟨0, 0⟩ = some vbar ∧ vbar.pages[0]? = some page ∧
      page.serial.toNat = 2 % 2 ^ 32 ∧
      first.Reports ⟨0, 0⟩ 0 2 ∧ second.Reports ⟨0, 0⟩ 0 2 ∧
      ∃ memory, ∀ step ∈ [second, first], Backs step.after.engine ⟨0, 0⟩ 0 memory := by
  have passed : records 0 .bytewise { host := { device := { capacity := 1 } } : Traced Bench }
      [.allocateVbar 1 0, .fault ⟨0, 0⟩ 0 1, .unpin ⟨0, 0⟩ 0 1, .evictGlobal 1,
        .prioritize ⟨0, 0⟩, .fault ⟨0, 0⟩ 0 1, .fault ⟨0, 0⟩ 0 1]
      (fun steps context => match steps with
        | second :: first :: earlier => decide (
            first.operation = .fault ⟨0, 0⟩ 0 1 ∧ first.outcome = .ok (.serials [2]) ∧
            second.operation = .fault ⟨0, 0⟩ 0 1 ∧ second.outcome = .ok (.serials [2]) ∧
            commitsIn ⟨0, 0⟩ 0 [second] = 0 ∧
            commitsIn ⟨0, 0⟩ 0 (lifetime ⟨0, 0⟩ (second :: first :: earlier)) = 2 ∧
            context.engine = second.after.engine ∧
            ((context.engine.vbars.get? ⟨0, 0⟩).bind fun vbar => vbar.pages[0]?).isSome = true)
        | _ => false) = true := by
    decide +kernel
  obtain ⟨engine, host, steps, context, opened, history, passed⟩ :=
    exists_history_of_records (fun _ _ => False) passed
  split at passed
  · rename_i second first earlier
    obtain ⟨faulted, reported, faulted', reported', idle, commits, same, backed⟩ :=
      of_decide_eq_true passed
    obtain ⟨page, backed⟩ := Option.isSome_iff_exists.mp backed
    obtain ⟨vbar, live, found⟩ := Option.bind_eq_some_iff.mp backed
    have one : first.Reports ⟨0, 0⟩ 0 2 :=
      ⟨0, 1, [2], faulted, reported, Nat.div_le_self _ _, by simp⟩
    have other : second.Reports ⟨0, 0⟩ 0 2 :=
      ⟨0, 1, [2], faulted', reported', Nat.div_le_self _ _, by simp⟩
    obtain ⟨counts, survives⟩ := serials_prove_survival opened history ⟨0, 0⟩ 0
    have serial := counts vbar page live found
    obtain ⟨-, kept⟩ := survives [] [] earlier second first 2 rfl (fun _ none => nomatch none) one
      other (by rw [idle]; decide)
    rw [commits] at serial
    rw [same] at live
    exact ⟨second, first, earlier, vbar, page, commits, live, found, serial, one, other, kept⟩
  · cases passed

end VramOvercommit
