import VramOvercommit.Proofs.Closing
import VramOvercommit.Proofs.Retries

set_option autoImplicit false

/-!
What passes of reclaiming take, read off the calls on record. A pass gives one piece of memory back
after the other, each by the address and the handle it had, so the memory behind the VBARs is what was
given back by the passes and what is left. All else that a buffer unmaps lies in its own range.
-/

namespace VramOvercommit

open EngineM
open Attempt (lift)
open Simulation (Event Traced)

/-! ## Records -/

/-- The calls that give back one piece of memory after the other. -/
def ReturnCalls (lost : List Holding) (events : List Event) : Prop :=
  events.map Event.call? = (lost.flatMap Holding.discardCalls).map some

/-- The calls of a pass of reclaiming: a wait for the device, and then all that the pass took. -/
def PassCalls (lost : List Holding) (events : List Event) : Prop :=
  ∃ answer pages, events = .called .synchronize answer :: pages ∧ ReturnCalls lost pages

/-- A call that belongs to no pass: it waits for nothing, and what it unmaps lies from an address
on. -/
def DriverCall.Beside (base : Nat) : DriverCall → Prop
  | .synchronize => False
  | .unmap vaddr _ => base ≤ vaddr
  | _ => True

/-- No event is the record of a call of a pass. -/
def Beside (base : Nat) (events : List Event) : Prop :=
  ∀ event ∈ events, ∀ call, event.call? = some call → call.Beside base

/-- How many ranges were unmapped. -/
def unmapped (events : List Event) : Nat := events.countP fun event => event.kind? = some .unmap

/-- Calls with passes of reclaiming among them, and all that these took. -/
inductive PassesAmong (base : Nat) : List Holding → List Event → Prop where
  | beside {events : List Event} (beside : Beside base events) : PassesAmong base [] events
  | pass {lost more : List Holding} {earlier pass later : List Event}
      (beside : Beside base earlier) (calls : PassCalls lost pass)
      (rest : PassesAmong base more later) :
      PassesAmong base (lost ++ more) (earlier ++ (pass ++ later))

section Records

variable {base : Nat} {lost more : List Holding} {earlier later events : List Event}

theorem beside_nil : Beside base [] := fun _ member => nomatch member

theorem Beside.append (one : Beside base earlier) (other : Beside base later) :
    Beside base (earlier ++ later) := fun event member =>
  (List.mem_append.mp member).elim (one event) (other event)

theorem beside_of_calls {calls : List DriverCall}
    (same : events.map Event.call? = calls.map some) (each : ∀ call ∈ calls, call.Beside base) :
    Beside base events := by
  intro event member call found
  have listed : some call ∈ calls.map some := same ▸ found ▸ List.mem_map_of_mem member
  obtain ⟨_, listed, same⟩ := List.mem_map.mp listed
  cases same
  exact each call listed

theorem Allowed.beside {kinds : List ActionKind} (allowed : Allowed kinds events)
    (denied : ∀ kind ∈ [CallKind.synchronize, .unmap], .call kind ∉ kinds) :
    Beside base events := by
  intro event member call found
  have other : ∀ kind ∈ [CallKind.synchronize, .unmap], call.kind ≠ kind := by
    rintro _ listed rfl
    exact allowed.ne_kind (denied _ listed) event member (by rw [Event.kind?, found]; rfl)
  cases call with
  | synchronize => exact absurd rfl (other .synchronize (by decide))
  | unmap vaddr size => exact absurd rfl (other .unmap (by decide))
  | _ => trivial

/-- A commit unmaps nothing but its own range. -/
theorem CommitCalls.beside {vaddr size : Nat} {device : Int} {answer : Except DriverError Unit}
    (calls : CommitCalls vaddr size device answer events) (low : base ≤ vaddr) :
    Beside base events := by
  unfold Beside
  cases calls <;> simp only [List.forall_mem_cons, Event.call?, Option.some.injEq, forall_eq',
    DriverCall.Beside, low, and_self, List.not_mem_nil, false_implies, implies_true]

theorem ReturnCalls.append (one : ReturnCalls lost earlier) (other : ReturnCalls more later) :
    ReturnCalls (lost ++ more) (earlier ++ later) := by
  unfold ReturnCalls at *
  rw [List.map_append, one, other, List.flatMap_append, List.map_append]

theorem PassesAmong.behind (beside : Beside base earlier) (passes : PassesAmong base lost later) :
    PassesAmong base lost (earlier ++ later) := by
  cases passes with
  | beside others => exact .beside (beside.append others)
  | pass others calls rest =>
    rw [← List.append_assoc]
    exact .pass (beside.append others) calls rest

theorem PassesAmong.append (one : PassesAmong base lost earlier)
    (other : PassesAmong base more later) : PassesAmong base (lost ++ more) (earlier ++ later) := by
  induction one with
  | beside beside => exact other.behind beside
  | pass beside calls _ ih =>
    rw [List.append_assoc, List.append_assoc, List.append_assoc]
    exact .pass beside calls ih

theorem unmapped_append (earlier later : List Event) :
    unmapped (earlier ++ later) = unmapped earlier + unmapped later := List.countP_append

/-- All that was taken was unmapped, one piece after the other. -/
theorem ReturnCalls.unmapped_eq (calls : ReturnCalls lost events) :
    unmapped events = lost.length := by
  have counted : unmapped events = (events.map Event.call?).countP
      fun call => call.map DriverCall.kind = some .unmap := by
    rw [List.countP_map]
    rfl
  rw [counted, calls, List.countP_map]
  clear calls counted
  induction lost with
  | nil => rfl
  | cons holding rest ih =>
    rw [List.flatMap_cons, List.countP_append, ih, List.length_cons, Nat.add_comm]
    rfl

theorem PassCalls.unmapped_eq (calls : PassCalls lost events) : unmapped events = lost.length := by
  obtain ⟨answer, pages, rfl, returned⟩ := calls
  rw [← returned.unmapped_eq]
  rfl

/-- The calls of one pass alone. -/
theorem PassCalls.among (calls : PassCalls lost events) : PassesAmong base lost events := by
  have alone : PassesAmong base (lost ++ []) ([] ++ (events ++ [])) :=
    .pass beside_nil calls (.beside beside_nil)
  rwa [List.append_nil, List.append_nil] at alone

end Records

/-! ## What VBARs lose -/

/-- The VBARs hold what they held but for what they lost. -/
structure Loses (before after : Engine) (lost : List Holding) : Prop where
  config : after.config = before.config
  linked : after.vbars.WellLinked
  taken : (vbarHoldings before.vbars before.config.vbarPageSize).Perm
    (lost ++ vbarHoldings after.vbars before.config.vbarPageSize)

theorem Loses.trans {before middle after : Engine} {lost more : List Holding}
    (first : Loses before middle lost) (second : Loses middle after more) :
    Loses before after (lost ++ more) := by
  obtain ⟨config, -, taken⟩ := first
  obtain ⟨config', linked, taken'⟩ := second
  refine ⟨config'.trans config, linked, taken.trans ?_⟩
  rw [config] at taken'
  rw [List.append_assoc]
  exact taken'.append_left lost

/-- A step that leaves the VBARs alone. -/
theorem Loses.nothing {before after : Engine} (linked : before.vbars.WellLinked)
    (config : after.config = before.config) (vbars : after.vbars = before.vbars) :
    Loses before after [] := by
  refine ⟨config, vbars ▸ linked, ?_⟩
  rw [vbars]
  exact .refl _

/-- What was lost are pages, so as many fewer are resident. -/
theorem Loses.totalResident_eq {before after : Engine} {lost : List Holding}
    (loses : Loses before after lost) (sound : SoundVbars before.vbars)
    (sound' : SoundVbars after.vbars) (positive : 0 < before.config.vbarPageSize) :
    totalResident after.vbars + lost.length = totalResident before.vbars := by
  have sized : ∀ holding ∈ lost, holding.size = before.config.vbarPageSize := by
    intro holding member
    obtain ⟨handle, vbar, -, held⟩ := (mem_vbarHoldings sound.linked).mp
      (loses.taken.mem_iff.mpr (List.mem_append_left _ member))
    obtain ⟨index, page, memory, -, -, rfl⟩ := Vbar.mem_holdings.mp held
    rfl
  have bytes : heldBytes lost = lost.length * before.config.vbarPageSize := by
    unfold heldBytes
    rw [List.map_congr_left sized, List.map_const', List.sum_replicate_nat]
  have whole := heldBytes_perm loses.taken
  rw [heldBytes_append, sound.heldBytes, sound'.heldBytes, bytes, ← Nat.add_mul] at whole
  have equal := Nat.eq_of_mul_eq_mul_right positive whole
  omega

/-- One VBAR in hand holds what it held but for what it lost; the table is not written yet. -/
structure VbarLoses (before after : Engine) (vbar left : Vbar) (lost : List Holding) : Prop where
  config : after.config = before.config
  vbars : after.vbars = before.vbars
  taken : (vbar.holdings before.config.vbarPageSize).Perm
    (lost ++ left.holdings before.config.vbarPageSize)

theorem VbarLoses.refl (engine : Engine) (vbar : Vbar) : VbarLoses engine engine vbar vbar [] :=
  ⟨rfl, rfl, .refl _⟩

theorem VbarLoses.trans {before middle after : Engine} {vbar other left : Vbar}
    {lost more : List Holding} (first : VbarLoses before middle vbar other lost)
    (second : VbarLoses middle after other left more) :
    VbarLoses before after vbar left (lost ++ more) := by
  obtain ⟨config, vbars, taken⟩ := first
  obtain ⟨config', vbars', taken'⟩ := second
  refine ⟨config'.trans config, vbars'.trans vbars, taken.trans ?_⟩
  rw [config] at taken'
  rw [List.append_assoc]
  exact taken'.append_left lost

/-- The VBAR in hand is written to the table. -/
theorem VbarLoses.put {before after : Engine} {handle : Handle} {vbar left : Vbar}
    {lost : List Holding} (loses : VbarLoses before after vbar left lost)
    (linked : before.vbars.WellLinked) (live : before.vbars.get? handle = some vbar) :
    Loses before { after with vbars := after.vbars.set handle left } lost := by
  obtain ⟨config, vbars, taken⟩ := loses
  obtain ⟨others, listed, put⟩ := perm_vbarHoldings linked live before.config.vbarPageSize
  rw [vbars]
  refine ⟨config, linked.set, listed.trans ((taken.append_right others).trans ?_)⟩
  rw [List.append_assoc]
  exact ((put left).symm.append_left lost)

/-! ## Passes -/

/-- What is given back from here on comes after what was given back before. -/
theorem Eviction.takes_after {σ α : Type} {context : Context (Traced σ)}
    {program : EngineM (Traced σ) α} {before : Engine} {lost : List Holding}
    {events : List Event} (calls : ReturnCalls lost events)
    (loses : Loses before context.engine lost)
    (rest : Traces program context fun more _ after =>
      ∃ lost, ReturnCalls lost more ∧ Loses context.engine after.engine lost) :
    Traces program context fun more _ after =>
      ∃ lost, ReturnCalls lost (events ++ more) ∧ Loses before after.engine lost := by
  refine rest.mono ?_
  rintro _ _ ⟨more, adds, lost', calls', others⟩
  exact ⟨more, adds, lost ++ lost', calls.append calls', loses.trans others⟩

variable {σ : Type} [Host σ] {context : Context (Traced σ)} {base : Nat}

theorem Memory.synchronize_calls :
    Traces Memory.synchronize context fun events _ _ =>
      ∃ answer, events = [.called .synchronize answer] := by
  refine Traces.call_bind fun answer _ => ?_
  cases answer with
  | ok _ => exact Traces.pure ⟨_, rfl⟩
  | error cause => exact ⟨[], .refl _, _, rfl⟩

namespace Eviction

theorem evictPage_takes (vbar : Vbar) (index : Nat) (action : PageAction) :
    Traces (evictPage vbar index action) context fun events result after =>
      ∃ lost, ReturnCalls lost events ∧
        VbarLoses context.engine after.engine vbar result.1 lost := by
  unfold evictPage
  refine Traces.pageSize_bind (Traces.ensure_bind fun vaddr address =>
    Traces.ensure_bind fun page found => ?_)
  have placed := Vbars.pageAddress_ok address
  subst placed
  have found := Vbar.pageAt_ok found
  obtain ⟨others, before, put⟩ := Vbar.perm_holdings found context.engine.config.vbarPageSize
  dsimp only
  split
  · rename_i memory taken
    have backing : page.backing = some memory := by
      split at taken
      · exact taken
      · cases taken
    have only : Only [.call .unmap, .call .release]
        (Memory.release (vbar.base + index * context.engine.config.vbarPageSize)
          context.engine.config.vbarPageSize memory : EngineM (Traced σ) Unit) :=
      Memory.release_only (by decide) (by decide) _ _ _
    refine Traces.bind (Traces.and (Memory.release_performs _ _ _).ensures (only context).ensures)
      fun events _ middle outcome => ?_
    obtain ⟨calls, actions⟩ := outcome
    refine Traces.ensure_bind fun left dropped => Traces.pure
      ⟨[⟨vbar.base + index * context.engine.config.vbarPageSize,
        context.engine.config.vbarPageSize, memory⟩], ?_, ?_⟩
    · rw [List.append_nil]
      exact calls
    · have same : left.holdings context.engine.config.vbarPageSize =
          (vbar.write index { page with
            backing := none, pinned := page.pinned && !action.unpin }).holdings
            context.engine.config.vbarPageSize := by
        unfold Vbar.dropResident at dropped
        split at dropped <;> cases dropped
        rfl
      refine ⟨actions.config, actions.vbars (by decide), ?_⟩
      rw [Page.holdings, backing] at before
      refine before.trans (List.Perm.append_left _ ?_)
      rw [same]
      exact (put { page with
        backing := none, pinned := page.pinned && !action.unpin }).symm
  · have kept := put { page with pinned := page.pinned && !action.unpin }
    exact Traces.pure ⟨[], rfl, rfl, rfl, before.trans kept.symm⟩

/-- The pages that a walk takes from one VBAR. -/
theorem lowerWatermark_takes {steps wanted : Nat} {vbar : Vbar} :
    Traces (lowerWatermark steps vbar wanted) context fun events result after =>
      ∃ lost, ReturnCalls lost events ∧
        VbarLoses context.engine after.engine vbar result.1 lost := by
  induction steps generalizing vbar wanted context with
  | zero => exact Traces.pure ⟨[], rfl, .refl _ _⟩
  | succ steps ih =>
    unfold lowerWatermark
    split
    · exact Traces.pure ⟨[], rfl, .refl _ _⟩
    · refine (evictPage_takes { vbar with watermark := vbar.watermark - 1 } _ _).bind
        fun events result middle outcome => ?_
      obtain ⟨lost, calls, first⟩ := outcome
      have first : VbarLoses context.engine middle.engine vbar result.1 lost :=
        ⟨first.config, first.vbars, first.taken⟩
      have further : ∀ wanted, Traces (lowerWatermark steps result.1 wanted) middle
          fun more left after => ∃ lost, ReturnCalls lost (events ++ more) ∧
            VbarLoses context.engine after.engine vbar left.1 lost := by
        intro wanted
        refine ih.mono ?_
        rintro _ _ ⟨more, adds, lost', calls', others⟩
        exact ⟨more, adds, _, calls.append calls', first.trans others⟩
      obtain ⟨left, freed⟩ := result
      cases freed with
      | true =>
        refine (further _).bind fun more result last outcome => Traces.pure ?_
        rwa [List.append_nil]
      | false => exact further _

theorem shrinkTail_takes (handle : Handle) (wanted : Nat)
    (linked : context.engine.vbars.WellLinked) :
    Traces (shrinkTail handle wanted) context fun events _ after =>
      ∃ lost, ReturnCalls lost events ∧ Loses context.engine after.engine lost := by
  unfold shrinkTail
  refine Traces.vbar?_bind ?_
  cases live : context.engine.vbars.get? handle with
  | none => exact Traces.pure ⟨[], rfl, .nothing linked rfl rfl⟩
  | some vbar =>
    refine lowerWatermark_takes.bind fun events result middle outcome => ?_
    obtain ⟨lost, calls, loses⟩ := outcome
    exact ⟨[], .refl middle.host, lost, by rwa [List.append_nil], loses.put linked live⟩

theorem shrinkEach_takes {wanted : Nat} {handles : List Handle}
    (linked : context.engine.vbars.WellLinked) :
    Traces (shrinkEach wanted handles) context fun events _ after =>
      ∃ lost, ReturnCalls lost events ∧ Loses context.engine after.engine lost := by
  induction handles generalizing wanted context with
  | nil => exact Traces.pure ⟨[], rfl, .nothing linked rfl rfl⟩
  | cons handle rest ih =>
    unfold shrinkEach
    refine (shrinkTail_takes handle wanted linked).bind fun events count middle outcome => ?_
    obtain ⟨lost, calls, first⟩ := outcome
    exact takes_after calls first (ih first.linked)

/-- A pass takes from the VBARs what it gives back, and nothing if nothing is wanted. -/
theorem evictGlobal_takes (base size : Nat) (linked : context.engine.vbars.WellLinked) :
    Traces (evictGlobal size) context fun events _ after =>
      ∃ lost, PassesAmong base lost events ∧ Loses context.engine after.engine lost := by
  unfold evictGlobal
  refine Traces.pageSize_bind ?_
  dsimp only
  split
  · exact Traces.pure ⟨[], .beside beside_nil, .nothing linked rfl rfl⟩
  · refine Traces.log_bind ?_
    have waits : Only [.call .synchronize] (Memory.synchronize : EngineM (Traced σ) Unit) :=
      Memory.synchronize_only (by decide)
    refine (Memory.synchronize_calls.and (waits _).ensures).bind fun wait _ first outcome => ?_
    obtain ⟨⟨answer, rfl⟩, waited⟩ := outcome
    have before : Loses context.engine first.engine [] :=
      .nothing linked waited.config (waited.vbars (by decide))
    refine Traces.engine_bind ((shrinkEach_takes before.linked).bind
      fun pages missing second outcome => ?_)
    obtain ⟨lost, calls, loses⟩ := outcome
    have ends : Only [] (do
        let freed ← word ((blocksFor size context.engine.config.vbarPageSize - missing) *
          context.engine.config.vbarPageSize)
        markDirty
        checkVbars
        log (.evictionReturned freed)
        return freed : EngineM (Traced σ) Nat) :=
      (Passes.word _).bind fun _ => Only.mark.bind fun _ => Passes.checkVbars.bind fun _ =>
        (Only.log _).bind fun _ => .pure _
    refine (Traces.silent ends (by simp)).mono ?_
    rintro _ after ⟨_, adds, rfl, actions⟩
    refine ⟨[], adds, lost, ?_, ?_⟩
    · rw [List.append_nil]
      exact PassCalls.among ⟨answer, pages, rfl, calls⟩
    · have whole := (before.trans loses).trans
        (.nothing loses.linked actions.config (actions.vbars (by simp)))
      rwa [List.nil_append, List.append_nil] at whole

variable {handle : Handle} {target : Nat}

/-- The pages that are taken from one victim. -/
theorem shrinkUntil_takes {victim : Handle} {steps cursor : Nat}
    (linked : context.engine.vbars.WellLinked) :
    Traces (shrinkUntil handle victim target steps cursor) context fun events _ after =>
      ∃ lost, ReturnCalls lost events ∧ Loses context.engine after.engine lost := by
  induction steps generalizing cursor context with
  | zero => exact Traces.pure ⟨[], rfl, .nothing linked rfl rfl⟩
  | succ steps ih =>
    have idle : ∃ lost, ReturnCalls lost [] ∧ Loses context.engine context.engine lost :=
      ⟨[], rfl, .nothing linked rfl rfl⟩
    unfold shrinkUntil
    refine Traces.vbar?_bind ?_
    cases context.engine.vbars.get? handle with
    | none => exact Traces.pure idle
    | some own =>
      refine Traces.vbar?_bind ?_
      cases live : context.engine.vbars.get? victim with
      | none => exact Traces.pure idle
      | some vbar =>
        dsimp only
        split
        · exact Traces.pure idle
        · refine (evictPage_takes { vbar with watermark := vbar.watermark - 1 } _ _).bind
            fun events result middle outcome => ?_
          obtain ⟨left, freed⟩ := result
          obtain ⟨lost, calls, first⟩ := outcome
          have first : VbarLoses context.engine middle.engine vbar left lost :=
            ⟨first.config, first.vbars, first.taken⟩
          have loses := first.put linked live
          have further : ∀ next : Nat, Traces (shrinkUntil handle victim target steps next)
              { middle with engine :=
                { middle.engine with vbars := middle.engine.vbars.set victim left } }
              fun more _ after => ∃ lost, ReturnCalls lost (events ++ more) ∧
                Loses context.engine after.engine lost :=
            fun _ => takes_after calls loses (ih loses.linked)
          refine Traces.putVbar_bind ?_
          cases freed with
          | true =>
            refine Traces.vbar?_bind ?_
            dsimp only
            split
            · exact Traces.ensure_bind fun next _ => further next
            · refine Traces.pure ⟨lost, ?_, loses⟩
              rwa [List.append_nil]
          | false => exact further cursor

theorem shrinkEachUntil_takes {victims : List Handle} {cursor : Nat}
    (linked : context.engine.vbars.WellLinked) :
    Traces (shrinkEachUntil handle target victims cursor) context fun events _ after =>
      ∃ lost, ReturnCalls lost events ∧ Loses context.engine after.engine lost := by
  induction victims generalizing cursor context with
  | nil => exact Traces.pure ⟨[], rfl, .nothing linked rfl rfl⟩
  | cons victim rest ih =>
    unfold shrinkEachUntil
    refine Traces.vbar?_bind ?_
    split
    · exact ih linked
    · refine (shrinkUntil_takes linked).bind fun events next middle outcome => ?_
      obtain ⟨lost, calls, first⟩ := outcome
      exact takes_after calls first (ih first.linked)

/-- A pass for a fault takes from the VBARs what it gives back. -/
theorem evictForVbar_takes {own : Vbar} (target : Nat)
    (linked : context.engine.vbars.WellLinked)
    (live : context.engine.vbars.get? handle = some own) :
    Traces (evictForVbar handle target) context fun events _ after =>
      ∃ lost, PassCalls lost events ∧ Loses context.engine after.engine lost := by
  unfold evictForVbar
  refine Traces.vbar?_bind ?_
  rw [live]
  refine Traces.ensure_bind fun cursor _ => ?_
  have waits : Only [.call .synchronize] (Memory.synchronize : EngineM (Traced σ) Unit) :=
    Memory.synchronize_only (by decide)
  refine (Memory.synchronize_calls.and (waits _).ensures).bind fun wait _ first outcome => ?_
  obtain ⟨⟨answer, rfl⟩, waited⟩ := outcome
  have before : Loses context.engine first.engine [] :=
    .nothing linked waited.config (waited.vbars (by decide))
  refine Traces.engine_bind ((shrinkEachUntil_takes before.linked).bind
    fun pages _ second outcome => ?_)
  obtain ⟨lost, calls, loses⟩ := outcome
  have ends : Only [] (do
      markDirty
      checkVbars : EngineM (Traced σ) Unit) := Only.mark.bind fun _ => Passes.checkVbars
  refine (Traces.silent ends (by simp)).mono ?_
  rintro _ after ⟨_, adds, rfl, actions⟩
  refine ⟨[], adds, lost, ⟨answer, pages, ?_, calls⟩, ?_⟩
  · rw [List.append_nil]
    rfl
  · have whole := (before.trans loses).trans
      (.nothing loses.linked actions.config (actions.vbars (by simp)))
    rwa [List.nil_append, List.append_nil] at whole

end Eviction

/-! ## Buffers -/

namespace Buffers

variable {buffer : Buffer} {target count : Nat}

/-- A chunk takes nothing from the VBARs but by a pass. -/
theorem backChunk_takes {vaddr size : Nat} {device : Int} (low : base ≤ vaddr)
    (linked : context.engine.vbars.WellLinked) :
    Traces (backChunk vaddr size device).run context fun events _ after =>
      ∃ lost, PassesAmong base lost events ∧ Loses context.engine after.engine lost := by
  have commits : ∀ {middle : Context (Traced σ)}, middle.engine.vbars.WellLinked →
      Traces (Memory.commit vaddr size device) middle fun events _ after =>
        Beside base events ∧ Loses middle.engine after.engine [] := by
    intro middle linked
    have only : Only Memory.committing (Memory.commit vaddr size device :
      EngineM (Traced σ) (Except DriverError PhysicalHandle)) := Memory.commit_only vaddr size device
    refine ((Memory.commit_calls vaddr size device).and (only middle).ensures).mono ?_
    rintro _ after ⟨events, adds, calls, actions⟩
    exact ⟨events, adds, calls.beside low, .nothing linked actions.config
      (actions.vbars (by decide))⟩
  unfold backChunk
  rw [Attempt.run_lift_bind]
  refine (commits linked).bind fun first answer second outcome => ?_
  obtain ⟨beside, same⟩ := outcome
  have refused : PassesAmong base [] (first ++ []) ∧ Loses context.engine second.engine [] := by
    rw [List.append_nil]
    exact ⟨.beside beside, same⟩
  rcases answer with (_ | code) | memory
  · dsimp only
    rw [Attempt.run_lift_bind]
    have reclaims : Traces (do
        log .growReclaims
        let _ ← Eviction.evictGlobal (← engine).config.vramChunkSize) second
        fun events _ after => ∃ lost, PassesAmong base lost events ∧
          Loses second.engine after.engine lost := by
      refine Traces.log_bind (Traces.engine_bind ?_)
      refine (Eviction.evictGlobal_takes base _ ?_).bind fun pass _ _ taken => Traces.pure ?_
      · exact same.linked
      · rwa [List.append_nil]
    refine reclaims.bind fun pass _ third outcome => ?_
    obtain ⟨lost, passes, loses⟩ := outcome
    rw [Attempt.run_lift_bind]
    refine (commits loses.linked).bind fun last answer fourth outcome => ?_
    obtain ⟨beside', same'⟩ := outcome
    have whole : PassesAmong base (lost ++ []) (first ++ (pass ++ (last ++ []))) ∧
        Loses context.engine fourth.engine (lost ++ []) := by
      rw [List.append_nil last]
      exact ⟨(passes.append (.beside beside')).behind beside, (same.trans loses).trans same'⟩
    cases answer with
    | ok memory => exact Traces.pure ⟨_, whole⟩
    | error cause =>
      dsimp only
      rw [Attempt.run_lift_bind]
      exact Traces.log_bind (Traces.pure ⟨_, whole⟩)
  · dsimp only
    rw [Attempt.run_lift_bind]
    exact Traces.log_bind (Traces.pure ⟨_, refused⟩)
  · exact Traces.pure ⟨_, refused⟩

theorem addChunks_takes (low : base ≤ buffer.base) (linked : context.engine.vbars.WellLinked) :
    Traces (addChunks target count buffer) context fun events _ after =>
      ∃ lost, PassesAmong base lost events ∧ Loses context.engine after.engine lost := by
  induction count generalizing buffer context with
  | zero => exact Traces.pure ⟨[], .beside beside_nil, .nothing linked rfl rfl⟩
  | succ count ih =>
    unfold addChunks
    refine Traces.engine_bind (Traces.word_bind ?_)
    refine (backChunk_takes (Nat.le_add_right_of_le low) linked).bind
      fun events result middle outcome => ?_
    obtain ⟨lost, passes, loses⟩ := outcome
    cases result with
    | error cause =>
      refine Traces.pure ⟨lost, ?_, loses⟩
      rwa [List.append_nil]
    | ok memory =>
      refine Traces.log_bind (Ensures.mono (ih ?_ ?_) ?_)
      · exact low
      · exact loses.linked
      · rintro _ after ⟨more, adds, lost', passes', loses'⟩
        exact ⟨more, adds, _, passes.append passes', loses.trans loses'⟩

/-- A buffer that grows takes nothing from the VBARs but by passes. -/
theorem grow_takes {address required : Nat} (sound : SoundBuffers context.engine.buffers)
    (low : base ≤ address) (linked : context.engine.vbars.WellLinked) :
    Traces (grow address required).run context fun events _ after =>
      ∃ lost, PassesAmong base lost events ∧ Loses context.engine after.engine lost := by
  have idle : ∃ lost, PassesAmong base lost [] ∧ Loses context.engine context.engine lost :=
    ⟨[], .beside beside_nil, .nothing linked rfl rfl⟩
  unfold grow Traces
  rw [ensures_run_bind, Attempt.ensures_buffer]
  cases found : context.engine.buffers.get? address with
  | none => exact ⟨[], .refl _, idle⟩
  | some buffer =>
    have low : base ≤ buffer.base := by rwa [sound.keyed found]
    dsimp only
    split
    · exact ⟨[], .refl _, idle⟩
    · split
      · exact ⟨[], .refl _, idle⟩
      · rw [ensures_run_bind, ensures_run_lift, ensures_engine]
        dsimp only
        rw [Attempt.run_lift_bind]
        refine Traces.allocatesBeside_bind ?_
        split
        · unfold Traces
          rw [ensures_run_mk]
          have asks : ∀ missing, Only [.call .memoryInfo]
              (Memory.deficit buffer.device missing : EngineM (Traced σ) Nat) :=
            Memory.deficit_only (by decide) _
          refine (Traces.of_only (asks _)).bind fun first deficit second outcome => ?_
          obtain ⟨allowed, actions⟩ := outcome
          have same : Loses context.engine second.engine [] :=
            .nothing linked actions.config (actions.vbars (by decide))
          refine (Eviction.evictGlobal_takes base deficit same.linked).bind
            fun pass _ third outcome => ?_
          obtain ⟨lost, passes, loses⟩ := outcome
          refine (addChunks_takes low loses.linked).bind fun supply result fourth outcome => ?_
          obtain ⟨more, passes', loses'⟩ := outcome
          refine ⟨[], .refl fourth.host, lost ++ more, ?_, ?_⟩
          · rw [List.append_nil]
            exact (passes.append passes').behind
              (allowed.beside (by decide))
          · have whole := (same.trans loses).trans loses'
            exact ⟨whole.config, whole.linked, whole.taken⟩
        · exact Traces.pure idle

/-- The chunks of a buffer lie from its base on. -/
theorem le_of_mem_chunkHoldings {vaddr : Nat} {chunks : List Chunk} {holding : Holding}
    (held : holding ∈ Buffer.chunkHoldings vaddr chunks) : vaddr ≤ holding.vaddr := by
  induction chunks generalizing vaddr with
  | nil => cases held
  | cons chunk rest ih =>
    rcases List.mem_cons.mp held with rfl | behind
    · exact Nat.le_refl _
    · exact Nat.le_trans (Nat.le_add_right _ _) (ih behind)

/-- A buffer that is destroyed unmaps nothing below its base. -/
theorem destroy_beside {address : Nat} (sound : SoundBuffers context.engine.buffers)
    (low : base ≤ address) (linked : context.engine.vbars.WellLinked) :
    Traces (destroy address).run context fun events _ after =>
      Beside base events ∧ Loses context.engine after.engine [] := by
  refine (Traces.and (destroy_performs address).ensures
    (destroy_only address context).ensures).mono ?_
  rintro _ after ⟨events, adds, calls, actions⟩
  refine ⟨events, adds, beside_of_calls calls fun call listed => ?_,
    .nothing linked actions.config (actions.vbars (by decide))⟩
  obtain ⟨buffer, found, member⟩ := List.mem_flatMap.mp listed
  have keyed := sound.keyed (Option.mem_toList.mp found)
  rcases List.mem_append.mp member with chunk | range
  · obtain ⟨holding, held, returns⟩ := List.mem_flatMap.mp chunk
    have behind := le_of_mem_chunkHoldings held
    rcases List.mem_cons.mp returns with rfl | last
    · exact Nat.le_trans (keyed ▸ low) behind
    · cases List.mem_singleton.mp last
      trivial
  · cases List.mem_singleton.mp range
    trivial

end Buffers

/-! ## The pages behind what was lost -/

namespace Vbar

variable {vbar : Vbar} {index watermark pageSize : Nat}

/-- The memory of the page is among what was taken. -/
def PageAmong (vbar : Vbar) (pageSize : Nat) (lost : List Holding) (index : Nat) : Prop :=
  ∃ page memory, vbar.pages[index]? = some page ∧ page.backing = some memory ∧
    ⟨vbar.base + index * pageSize, pageSize, memory⟩ ∈ lost

/-- The pages that a cut takes are those whose memory the VBAR does not hold any more. -/
theorem Consistent.mem_reclaimablePages_iff (consistent : vbar.Consistent)
    (positive : 0 < pageSize) : index ∈ vbar.reclaimablePages watermark ↔
      ∃ page memory, vbar.pages[index]? = some page ∧ page.backing = some memory ∧
        ⟨vbar.base + index * pageSize, pageSize, memory⟩ ∉
          (vbar.cut watermark).holdings pageSize := by
  constructor
  · intro taken
    obtain ⟨low, -, page, found, reclaims⟩ := mem_reclaimablePages.mp taken
    obtain ⟨resident, unpinned⟩ := Bool.and_eq_true_iff.mp reclaims
    obtain ⟨memory, backing⟩ := Option.isSome_iff_exists.mp resident
    refine ⟨page, memory, found, backing, fun held => ?_⟩
    obtain ⟨index', page', memory', found', backing', same⟩ := mem_holdings.mp held
    obtain rfl : index = index' := Nat.eq_of_mul_eq_mul_right positive
      (Nat.add_left_cancel (congrArg Holding.vaddr same))
    rw [getElem?_cut, found, Option.map_some, if_pos low, Page.evicted] at found'
    cases found'
    rw [Bool.not_eq_true'] at unpinned
    rw [unpinned] at backing'
    cases backing'
  · rintro ⟨page, memory, found, backing, gone⟩
    have resident : page.isResident = true := Option.isSome_iff_exists.mpr ⟨memory, backing⟩
    -- a page that the cut leaves as it is would still be held
    have changed : (vbar.cut watermark).pages[index]? ≠ some page := fun same =>
      gone (mem_holdings.mpr ⟨index, page, memory, same, backing, rfl⟩)
    rw [getElem?_cut, found, Option.map_some] at changed
    have low : watermark ≤ index := by
      by_contra below
      exact changed (by rw [if_neg below])
    rw [if_pos low] at changed
    have unpinned : page.pinned ≠ true := fun pinned =>
      changed (congrArg some (evicted_eq_self fun _ => pinned))
    refine mem_reclaimablePages.mpr ⟨low, ?_, page, found, ?_⟩
    · by_contra above
      exact unpinned (consistent.above_pinned found (Nat.le_of_not_lt above) resident)
    · rw [Page.isReclaimable, resident, Bool.eq_false_iff.mpr unpinned]
      rfl

end Vbar

section Pages

variable {vbars cut : PriorityList Vbar} {before after : Engine} {lost : List Holding}
  {handle : Handle} {vbar left : Vbar} {pageSize : Nat} {holding : Holding}

/-- What a VBAR held and is still held, the VBAR still holds itself. -/
theorem Shrunk.still_held (shrunk : Shrunk vbars cut) (sound : SoundVbars vbars)
    (sound' : SoundVbars cut) (distinct : (vbarHoldings vbars pageSize).Nodup)
    (live : vbars.get? handle = some vbar) (held : holding ∈ vbar.holdings pageSize)
    (remains : cut.get? handle = some left) (still : holding ∈ vbarHoldings cut pageSize) :
    holding ∈ left.holdings pageSize := by
  obtain ⟨other, left', live', held'⟩ :=
    (VramOvercommit.mem_vbarHoldings sound'.linked).mp still
  by_cases same : other = handle
  · subst same
    rw [remains] at live'
    cases live'
    exact held'
  · -- two VBARs that hold the same would be listed with it twice
    exfalso
    obtain ⟨old, live''⟩ := sound.linked.mem_handles.mp
      (shrunk.handles ▸ sound'.linked.mem_handles.mpr ⟨left', live'⟩)
    obtain ⟨watermark, -, -, here⟩ := shrunk.cut live''
    rw [live'] at here
    cases here
    obtain ⟨others, listed, put⟩ := perm_vbarHoldings sound.linked live pageSize
    have apart := (List.nodup_append.mp (listed.nodup_iff.mp distinct)).2.2
    refine apart holding held holding ?_ rfl
    have emptied := put (.fresh 0 0 0)
    rw [Vbar.holdings_fresh, List.nil_append] at emptied
    refine emptied.mem_iff.mp ((VramOvercommit.mem_vbarHoldings sound.linked.set).mpr
      ⟨other, old, ?_, ?_⟩)
    · rw [PriorityList.get?_set_of_ne same, live'']
    · exact Vbar.mem_holdings_cut held'

/-- Every VBAR gave up the pages behind what was lost, and nothing else of it changed. -/
theorem Loses.gaveUp (loses : Loses before after lost) (shrunk : Shrunk before.vbars after.vbars)
    (sound : SoundVbars before.vbars) (sound' : SoundVbars after.vbars)
    (positive : 0 < before.config.vbarPageSize)
    (distinct : (vbarHoldings before.vbars before.config.vbarPageSize).Nodup)
    (live : before.vbars.get? handle = some vbar) :
    ∃ left, after.vbars.get? handle = some left ∧ left.watermark ≤ vbar.watermark ∧
      vbar.GaveUp left (vbar.PageAmong before.config.vbarPageSize lost) := by
  obtain ⟨watermark, -, below, cut⟩ := shrunk.cut live
  have consistent := sound.consistent live
  refine ⟨_, cut, below, consistent.gaveUp_cut fun index => ?_⟩
  rw [consistent.mem_reclaimablePages_iff positive]
  refine exists_congr fun page => exists_congr fun memory =>
    and_congr_right fun found => and_congr_right fun backing => ?_
  have own : _ ∈ vbar.holdings before.config.vbarPageSize :=
    Vbar.mem_holdings.mpr ⟨index, page, memory, found, backing, rfl⟩
  have held := (mem_vbarHoldings sound.linked).mpr ⟨handle, vbar, live, own⟩
  have apart := (List.nodup_append.mp (loses.taken.nodup_iff.mp distinct)).2.2
  constructor
  · intro taken still
    exact apart _ taken _ ((mem_vbarHoldings sound'.linked).mpr ⟨handle, _, cut, still⟩) rfl
  · intro gone
    refine (List.mem_append.mp (loses.taken.mem_iff.mp held)).resolve_right fun still => gone ?_
    exact shrunk.still_held sound sound' distinct live own cut still

end Pages

end VramOvercommit
