import VramOvercommit.Proofs.Addressing
import VramOvercommit.Proofs.Discarding
import VramOvercommit.Proofs.PriorityList.Refinement

set_option autoImplicit false

/-!
Dropping a context gives everything back, in calls that are known beforehand and whatever each of
them comes to. Nothing on the way can end the program as long as the driver answers at all.
-/

namespace VramOvercommit

open EngineM
open Attempt (lift)
open Eviction (checkVbars_spec)
open Simulation (Event Traced)

/-! ## The calls of a drop -/

/-- The calls that give back memory behind an address. -/
def Holding.discardCalls (holding : Holding) : List DriverCall :=
  [.unmap holding.vaddr holding.size, .release holding.memory]

/-- The calls that give back the memory of a VBAR and its range, after a wait for the device. -/
def Vbar.discardCalls (vbar : Vbar) (pageSize : Nat) : List DriverCall :=
  .synchronize :: (vbar.holdings pageSize).flatMap Holding.discardCalls ++
    [.freeAddress vbar.base (vbar.nrPages * pageSize)]

/-- The calls that give back everything: VBAR by VBAR from the highest priority down, then buffer by
buffer by ascending address. -/
def Engine.closeCalls (engine : Engine) : List DriverCall :=
  (engine.vbars.values.flatMap fun vbar => vbar.discardCalls engine.config.vbarPageSize) ++
    engine.buffers.values.flatMap Buffer.discardCalls

/-! ## Drivers that answer -/

/-- The calls that a drop makes. -/
def DriverCall.Closes : DriverCall → Prop
  | .synchronize | .unmap _ _ | .release _ | .freeAddress _ _ => True
  | _ => False

/-- A driver that answers every call of a drop, if it is ready; its answers may be anything. -/
structure Answering (τ : Type) [Host τ] where
  ready : τ → Prop
  call : ∀ {host : τ} {call : DriverCall}, call.Closes → ready host →
    Ensures (fun _ => False) (Host.call call) host (fun _ after => ready after)
  log : ∀ {host : τ} (notice : Notice), ready host → ready (Host.log notice host)

variable {τ : Type} [Host τ] {answers : Answering τ} {context before middle after : Context (Traced τ)}
  {calls more : List DriverCall} {bytes extra : Nat}

/-- What a step of a drop did: it made exactly these calls, and took so many bytes off the account. -/
structure GivenBack (answers : Answering τ) (calls : List DriverCall) (bytes : Nat)
    (before after : Context (Traced τ)) : Prop where
  ready : answers.ready after.host.host
  calls : ∃ events, before.host.Adds after.host events ∧ events.map Event.call? = calls.map some
  usage : before.engine.budget.residentUsage = bytes + after.engine.budget.residentUsage
  setting : SameSetting before.engine after.engine

namespace GivenBack

theorem trans (first : GivenBack answers calls bytes before middle)
    (second : GivenBack answers more extra middle after) :
    GivenBack answers (calls ++ more) (bytes + extra) before after := by
  obtain ⟨-, ⟨events, adds, same⟩, usage, setting⟩ := first
  obtain ⟨ready, ⟨events', adds', same'⟩, usage', setting'⟩ := second
  refine ⟨ready, ⟨_, adds.trans adds', ?_⟩, by omega, setting.trans setting'⟩
  rw [List.map_append, List.map_append, same, same']

theorem nothing (ready : answers.ready context.host.host) : GivenBack answers [] 0 context context :=
  ⟨ready, ⟨[], .refl _, rfl⟩, (Nat.zero_add _).symm, .refl _⟩

/-- A step that asks nothing and gives nothing back. -/
theorem quiet (given : GivenBack answers calls bytes before middle)
    (ready : answers.ready after.host.host) (events : after.host.events = middle.host.events)
    (usage : after.engine.budget.residentUsage = middle.engine.budget.residentUsage)
    (setting : SameSetting middle.engine after.engine) :
    GivenBack answers calls bytes before after := by
  obtain ⟨-, ⟨recorded, adds, same⟩, usage', setting'⟩ := given
  refine ⟨ready, ⟨recorded, ?_, same⟩, by omega, setting'.trans setting⟩
  unfold Traced.Adds at adds ⊢
  rw [events]
  exact adds

theorem log (given : GivenBack answers calls bytes before after) (notice : Notice) :
    GivenBack answers calls bytes before
      { after with host := Host.log notice after.host } :=
  given.quiet (answers.log notice given.ready) rfl rfl (.refl _)

/-- A change of the engine that leaves its account and its settings alone. -/
theorem engine (given : GivenBack answers calls bytes before after) (engine : Engine)
    (usage : engine.budget.residentUsage = after.engine.budget.residentUsage)
    (setting : SameSetting after.engine engine) :
    GivenBack answers calls bytes before { after with engine } :=
  given.quiet given.ready rfl usage setting

/-- A call, whatever it comes to. -/
theorem call {driverCall : DriverCall} (closing : driverCall.Closes)
    (given : GivenBack answers calls bytes before after)
    {post : Except DriverError driverCall.Answer → Context (Traced τ) → Prop}
    (answered : ∀ {answer : Except DriverError driverCall.Answer} {host : Traced τ},
      GivenBack answers (calls ++ [driverCall]) bytes before { after with host } →
      post answer { after with host }) :
    Ensures (fun _ => False) (EngineM.call driverCall) after post := by
  rw [EngineM.ensures_call]
  refine Traced.ensures_call ((answers.call closing given.ready).mono fun answer host ready => ?_)
  have made : GivenBack answers [driverCall] 0 after
      { after with host := after.host.record host (.called driverCall answer) } :=
    ⟨ready, ⟨[.called driverCall answer], Array.toList_push, rfl⟩, (Nat.zero_add _).symm, .refl _⟩
  exact answered (given.trans made)

/-- A call whose refusal is only reported. -/
theorem reported {driverCall : DriverCall} (closing : driverCall.Closes)
    (given : GivenBack answers calls bytes before context)
    {next : Except DriverError driverCall.Answer → EngineM (Traced τ) Unit}
    {notice : DriverError → Notice} (granted : ∀ value, next (.ok value) = pure ())
    (refused : ∀ cause, next (.error cause) = EngineM.log (notice cause)) :
    Ensures (fun _ => False) (EngineM.call driverCall >>= next) context (fun _ after =>
      after.engine = context.engine ∧
        GivenBack answers (calls ++ [driverCall]) bytes before after) := by
  rw [ensures_bind]
  refine given.call closing fun {answer host} given => ?_
  cases answer with
  | ok value =>
    rw [granted]
    exact ⟨rfl, given⟩
  | error cause =>
    rw [refused]
    exact ⟨rfl, given.log _⟩

end GivenBack

/-! ## Memory -/

namespace Memory

theorem giveBack_closes {memory : PhysicalHandle}
    (given : GivenBack answers calls bytes before context) :
    Ensures (fun _ => False) (giveBack memory) context (fun _ after =>
      after.engine = context.engine ∧
        GivenBack answers (calls ++ [.release memory]) bytes before after) :=
  given.reported (by exact trivial) (fun _ => rfl) fun _ => rfl

theorem freeAddress_closes {vaddr size : Nat}
    (given : GivenBack answers calls bytes before context) :
    Ensures (fun _ => False) (freeAddress vaddr size) context (fun _ after =>
      after.engine = context.engine ∧
        GivenBack answers (calls ++ [.freeAddress vaddr size]) bytes before after) :=
  given.reported (by exact trivial) (fun _ => rfl) fun _ => rfl

theorem synchronize_closes (given : GivenBack answers calls bytes before context) :
    Ensures (fun _ => False) synchronize context (fun _ after =>
      after.engine = context.engine ∧
        GivenBack answers (calls ++ [.synchronize]) bytes before after) :=
  given.reported (by exact trivial) (fun _ => rfl) fun _ => rfl

/-- Memory on the account can be given back. -/
theorem release_closes (holding : Holding) (given : GivenBack answers calls bytes before context)
    (covered : holding.size ≤ context.engine.budget.residentUsage) :
    Ensures (fun _ => False) (release holding.vaddr holding.size holding.memory) context
      (fun _ after => SameTables context.engine after.engine ∧
        GivenBack answers (calls ++ holding.discardCalls) (bytes + holding.size) before after) := by
  have rest : ∀ {middle : Context (Traced τ)}, middle.engine = context.engine →
      GivenBack answers (calls ++ [.unmap holding.vaddr holding.size]) bytes before middle →
      Ensures (fun _ => False) (do
        giveBack holding.memory
        recordRelease holding.size
        EngineM.log (.released holding.size holding.vaddr)) middle (fun _ after =>
          SameTables context.engine after.engine ∧
            GivenBack answers (calls ++ holding.discardCalls) (bytes + holding.size) before
              after) := by
    intro middle same given
    rw [ensures_bind]
    apply (giveBack_closes given).mono
    rintro _ ⟨engine, host⟩ ⟨same', given⟩
    dsimp only at same'
    rw [same] at same'
    subst same'
    unfold recordRelease
    rw [ensures_bind, ensures_bind, ensures_engine, Budget.recordRelease, if_pos covered,
      ensures_bind, ensures_ensure_ok, ensures_setBudget, ensures_log]
    refine ⟨⟨⟨rfl, rfl, rfl⟩, rfl, rfl⟩, GivenBack.log ?_ _⟩
    rw [List.append_assoc] at given
    obtain ⟨ready, recorded, usage, setting⟩ := given
    refine ⟨ready, recorded, ?_, setting.trans ⟨rfl, rfl, rfl⟩⟩
    change _ = bytes + holding.size + (context.engine.budget.residentUsage - holding.size)
    dsimp only at usage
    omega
  unfold release
  rw [ensures_bind]
  refine given.call (by exact trivial) fun {answer host} given => ?_
  cases answer with
  | ok _ => exact rest rfl given
  | error cause =>
    rw [ensures_bind, EngineM.ensures_log]
    exact rest rfl (given.log _)

end Memory

/-! ## Pages -/

namespace Vbar

variable {vbar : Vbar} {index : Nat} {page : Page}

/-- What is held from a page on: the memory of the page, and that of the pages behind it, whatever
becomes of the page. -/
theorem pageHoldings_drop (found : vbar.pages[index]? = some page) (base pageSize : Nat)
    (new : Page) :
    pageHoldings base pageSize index (vbar.pages.toList.drop index) =
      page.holdings (base + index * pageSize) pageSize ++
        pageHoldings base pageSize (index + 1)
          ((vbar.write index new).pages.toList.drop (index + 1)) := by
  obtain ⟨front, back, rfl, before, written⟩ := split_pages found
  have after : (vbar.write front.length new).pages.toList = front ++ new :: back := written new
  rw [before, after, List.drop_left, pageHoldings]
  simp

end Vbar

/-- Taking the backing of one page away gives its memory back, if it has any. -/
theorem Eviction.evictPage_closes {vbar : Vbar} {index pageSize : Nat} {page : Page}
    {held : List Holding} (given : GivenBack answers calls bytes before context)
    (counted : vbar.countResident = vbar.residentCount) (found : vbar.pages[index]? = some page)
    (size : context.engine.config.vbarPageSize = pageSize)
    (fits : vbar.base + index * pageSize < wordLimit)
    (holds : page.holdings (vbar.base + index * pageSize) pageSize = held)
    (covered : heldBytes held ≤ context.engine.budget.residentUsage) :
    Ensures (fun _ => False) (evictPage vbar index ⟨true, true⟩) context (fun result after =>
      result.1 = vbar.write index (PageAction.apply ⟨true, true⟩ page) ∧
      SameTables context.engine after.engine ∧
      GivenBack answers (calls ++ held.flatMap Holding.discardCalls) (bytes + heldBytes held)
        before after) := by
  have applied : PageAction.apply ⟨true, true⟩ page = { serial := page.serial } := by
    simp [PageAction.apply]
  have absent : Page.isResident { serial := page.serial } = false := rfl
  unfold evictPage
  rw [ensures_bind, ensures_pageSize, ensures_bind, size, Vbar.pageAddress, if_pos fits,
    ensures_ensure_ok, ensures_bind, Vbar.pageAt_eq_ok found, ensures_ensure_ok, applied]
  simp only [Bool.not_true, Bool.and_false, Bool.not_false, Bool.and_true, if_true]
  unfold Page.holdings at holds
  cases backing : page.backing with
  | none =>
    rw [backing] at holds
    subst holds
    have same : Page.isResident { serial := page.serial } = page.isResident := by
      rw [absent, Page.isResident, backing]
      rfl
    dsimp only
    rw [Vbar.putPage_eq_write counted found same, ensures_pure]
    refine ⟨rfl, .refl _, ?_⟩
    simpa using given
  | some memory =>
    rw [backing] at holds
    subst holds
    have resident : page.isResident = true := by
      rw [Page.isResident, backing]
      rfl
    rw [heldBytes_cons, heldBytes_nil, Nat.add_zero] at covered ⊢
    dsimp only
    rw [ensures_bind]
    apply (Memory.release_closes ⟨_, pageSize, memory⟩ given covered).mono
    intro _ after outcome
    obtain ⟨tables, given⟩ := outcome
    rw [dropResident_putPage counted found resident absent, ensures_bind, ensures_ensure_ok]
    exact ⟨rfl, tables, given⟩

namespace Vbars

/-- Taking the backing of all pages from one on away gives back all that is held there. -/
theorem releasePages_closes {vbar : Vbar} {count index pageSize : Nat} {held : List Holding}
    (given : GivenBack answers calls bytes before context)
    (counted : vbar.countResident = vbar.residentCount) (reach : index + count = vbar.nrPages)
    (size : context.engine.config.vbarPageSize = pageSize)
    (fits : vbar.base + vbar.nrPages * pageSize < wordLimit)
    (holds : Vbar.pageHoldings vbar.base pageSize index (vbar.pages.toList.drop index) = held)
    (covered : heldBytes held ≤ context.engine.budget.residentUsage) :
    Ensures (fun _ => False) (releasePages count index vbar) context (fun left after =>
      left.base = vbar.base ∧ left.nrPages = vbar.nrPages ∧
      SameTables context.engine after.engine ∧
      GivenBack answers (calls ++ held.flatMap Holding.discardCalls) (bytes + heldBytes held)
        before after) := by
  induction count generalizing vbar index calls bytes context held with
  | zero =>
    have all : vbar.pages.toList.drop index = [] := by
      apply List.drop_of_length_le
      rw [Array.length_toList]
      unfold Vbar.nrPages at reach
      omega
    rw [all] at holds
    subst holds
    refine ⟨rfl, rfl, .refl _, ?_⟩
    simpa [Vbar.pageHoldings] using given
  | succ count ih =>
    have within : index < vbar.pages.size := by
      unfold Vbar.nrPages at reach
      omega
    have found : vbar.pages[index]? = some vbar.pages[index] := Array.getElem?_eq_getElem within
    have split := Vbar.pageHoldings_drop found vbar.base pageSize
      (Eviction.PageAction.apply ⟨true, true⟩ vbar.pages[index])
    rw [holds] at split
    subst split
    rw [heldBytes_append] at covered
    have address : vbar.base + index * pageSize < wordLimit := by
      have less : index * pageSize ≤ vbar.nrPages * pageSize :=
        Nat.mul_le_mul_right pageSize (by omega)
      omega
    unfold releasePages
    rw [ensures_bind]
    apply (Eviction.evictPage_closes given counted found size address rfl (by omega)).mono
    rintro ⟨left, freed⟩ middle ⟨written, tables, given'⟩
    dsimp only at written ⊢
    subst written
    have usage := given.usage
    have usage' := given'.usage
    have rest : heldBytes (Vbar.pageHoldings vbar.base pageSize (index + 1)
        ((vbar.write index (Eviction.PageAction.apply ⟨true, true⟩ vbar.pages[index])).pages.toList
          |>.drop (index + 1))) ≤ middle.engine.budget.residentUsage := by omega
    refine (ih given' rfl ?_ (by rw [tables.config, size]) ?_ rfl rest).mono ?_
    · rw [Vbar.write_nrPages]
      omega
    · rw [Vbar.write_nrPages]
      exact fits
    · rintro left after ⟨base, nrPages, tables', given⟩
      refine ⟨base, nrPages.trans Vbar.write_nrPages, tables.trans tables', ?_⟩
      rw [List.flatMap_append, heldBytes_append, ← List.append_assoc, ← Nat.add_assoc]
      exact given

/-- The first VBAR of the table can be freed, which leaves the others in their order. -/
theorem free_closes {handle : Handle} {vbar : Vbar} {others : List (Handle × Vbar)}
    (given : GivenBack answers calls bytes before context)
    (sound : SoundVbars context.engine.vbars)
    (first : context.engine.vbars.toList = (handle, vbar) :: others)
    (fits : vbar.base + vbar.nrPages * context.engine.config.vbarPageSize < wordLimit)
    (covered : heldBytes (vbar.holdings context.engine.config.vbarPageSize) ≤
      context.engine.budget.residentUsage) :
    Ensures (fun _ => False) (free handle).run context (fun result after =>
      result = .ok () ∧ SoundVbars after.engine.vbars ∧ after.engine.vbars.toList = others ∧
      SameSetting context.engine after.engine ∧ after.engine.buffers = context.engine.buffers ∧
      GivenBack answers (calls ++ vbar.discardCalls context.engine.config.vbarPageSize)
        (bytes + heldBytes (vbar.holdings context.engine.config.vbarPageSize)) before after) := by
  have live : context.engine.vbars.get? handle = some vbar :=
    sound.linked.mem_toList.mp (first ▸ List.mem_cons_self)
  have counted := (sound.consistent live).counted
  obtain ⟨vbars, removed, sound', remaining⟩ := sound.removeFirst first
  unfold free
  rw [ensures_run_bind, ensures_run_lift, ensures_log]
  dsimp only
  rw [ensures_run_bind, Attempt.ensures_vbar]
  dsimp only
  rw [live]
  dsimp only
  rw [ensures_run_lift, ensures_bind]
  apply (Memory.synchronize_closes (given.log (.vbarFreed handle))).mono
  rintro _ ⟨engine, host⟩ ⟨same, given⟩
  dsimp only at same given
  subst same
  rw [ensures_bind, ensures_engine, ensures_bind, removed, ensures_ensure_ok, ensures_bind,
    ensures_setVbars, ensures_bind]
  have given := given.engine { context.engine with vbars } rfl ⟨rfl, rfl, rfl⟩
  refine Ensures.mono (releasePages_closes given counted (Nat.zero_add _) rfl fits rfl covered) ?_
  rintro left second ⟨base, nrPages, tables, given⟩
  have config : second.engine.config = context.engine.config := tables.config
  rw [ensures_bind, ensures_pageSize, config, nrPages, base, ensures_bind]
  refine ensures_word (.inl (by omega)) fun _ => ?_
  rw [ensures_bind]
  apply (Memory.freeAddress_closes given).mono
  rintro _ ⟨engine, host⟩ ⟨same, given⟩
  dsimp only at same given
  subst same
  have rest : second.engine.vbars = vbars := tables.vbars
  rw [ensures_bind, ensures_markDirty]
  refine checkVbars_spec (rest ▸ sound') ⟨rfl, rest ▸ sound', ?_,
    ⟨tables.device, tables.config, tables.capacity⟩, tables.buffers, ?_⟩
  · change second.engine.vbars.toList = others
    rw [rest, remaining]
  · refine GivenBack.engine ?_ _ rfl ⟨rfl, rfl, rfl⟩
    unfold Vbar.discardCalls
    rw [List.append_assoc, List.append_assoc] at given
    exact given

/-- How the loop goes that frees the VBAR of the highest priority until there is none: it ends in the
second context. -/
inductive Emptied : Context (Traced τ) → Context (Traced τ) → Prop
  | done {context : Context (Traced τ)} (none : context.engine.vbars.highest? = none) :
      Emptied context context
  | free {context middle after : Context (Traced τ)} {handle : Handle}
      (highest : context.engine.vbars.highest? = some handle)
      (freed : (free handle).run context = .ok (.ok ()) middle) (rest : Emptied middle after) :
      Emptied context after

/-- The VBARs are freed one after the other until none is left. -/
theorem freeEach_closes {entries : List (Handle × Vbar)}
    (given : GivenBack answers calls bytes before context)
    (sound : SoundVbars context.engine.vbars) (all : context.engine.vbars.toList = entries)
    {pageSize : Nat} (size : context.engine.config.vbarPageSize = pageSize)
    (fits : ∀ entry ∈ entries, entry.2.base + entry.2.nrPages * pageSize < wordLimit)
    (covered : heldBytes (entries.flatMap fun entry => entry.2.holdings pageSize) ≤
      context.engine.budget.residentUsage) :
    Ensures (fun _ => False) (freeEach (entries.map Prod.fst)) context (fun _ after =>
      Emptied context after ∧ after.engine.vbars.toList = [] ∧
      SameSetting context.engine after.engine ∧
      after.engine.buffers = context.engine.buffers ∧
      GivenBack answers
        (calls ++ entries.flatMap fun entry => entry.2.discardCalls pageSize)
        (bytes + heldBytes (entries.flatMap fun entry => entry.2.holdings pageSize))
        before after) := by
  induction entries generalizing calls bytes context with
  | nil =>
    have highest := sound.linked.shows.highest
    rw [all] at highest
    refine ⟨.done highest, all, .refl _, rfl, ?_⟩
    simpa using given
  | cons entry others ih =>
    obtain ⟨handle, vbar⟩ := entry
    have highest := sound.linked.shows.highest
    rw [all] at highest
    subst size
    rw [List.flatMap_cons, heldBytes_append] at covered
    dsimp only at covered
    unfold freeEach
    rw [List.map_cons, ensures_bind]
    apply (free_closes given sound all (fits _ List.mem_cons_self) (by omega)).result.mono
    rintro _ middle ⟨freed, rfl, sound', left, setting, buffers, given'⟩
    have usage := given.usage
    have usage' := given'.usage
    apply (ih given' sound' left (by rw [setting.config])
      (fun other member => fits other (List.mem_cons_of_mem _ member)) (by omega)).mono
    rintro _ after ⟨emptied, none, setting', buffers', given⟩
    refine ⟨.free highest freed emptied, none, setting.trans setting', buffers'.trans buffers, ?_⟩
    rw [List.flatMap_cons, List.flatMap_cons, heldBytes_append, ← List.append_assoc,
      ← Nat.add_assoc]
    exact given

end Vbars

/-! ## Buffers -/

namespace Buffers

theorem releaseChunks_closes {chunks : List Chunk} {vaddr : Nat} {held : List Holding}
    (given : GivenBack answers calls bytes before context)
    (holds : Buffer.chunkHoldings vaddr chunks = held)
    (fits : vaddr + heldBytes held < wordLimit)
    (covered : heldBytes held ≤ context.engine.budget.residentUsage) :
    Ensures (fun _ => False) (releaseChunks chunks vaddr) context (fun _ after =>
      SameTables context.engine after.engine ∧
      GivenBack answers (calls ++ held.flatMap Holding.discardCalls) (bytes + heldBytes held)
        before after) := by
  induction chunks generalizing vaddr calls bytes context held with
  | nil =>
    subst holds
    refine ⟨.refl _, ?_⟩
    simpa [Buffer.chunkHoldings] using given
  | cons chunk rest ih =>
    rw [Buffer.chunkHoldings] at holds
    subst holds
    rw [heldBytes_cons] at fits covered
    dsimp only at fits covered
    unfold releaseChunks
    rw [ensures_bind]
    refine ensures_word (.inl (by omega)) fun _ => ?_
    rw [ensures_bind]
    apply (Memory.release_closes ⟨vaddr, chunk.size, chunk.backing⟩ given (by
      dsimp only
      omega)).mono
    rintro _ middle ⟨tables, given'⟩
    have usage := given.usage
    have usage' := given'.usage
    dsimp only at usage'
    apply (ih given' rfl (by omega) (by omega)).mono
    rintro _ after ⟨tables', given⟩
    refine ⟨tables.trans tables', ?_⟩
    rw [List.flatMap_cons, heldBytes_cons, ← List.append_assoc, ← Nat.add_assoc]
    exact given

theorem discard_closes {buffer : Buffer} (given : GivenBack answers calls bytes before context)
    (tidy : buffer.Tidy) (fits : buffer.base + buffer.maxSize < wordLimit)
    (covered : heldBytes buffer.holdings ≤ context.engine.budget.residentUsage) :
    Ensures (fun _ => False) (discard buffer) context (fun _ after =>
      SameTables context.engine after.engine ∧
      GivenBack answers (calls ++ buffer.discardCalls) (bytes + heldBytes buffer.holdings)
        before after) := by
  have within := tidy.heldBytes_holdings
  have allocated := tidy.allocated_le
  unfold discard
  rw [ensures_bind]
  apply (releaseChunks_closes given rfl (by
    change buffer.base + heldBytes buffer.holdings < wordLimit
    omega) covered).mono
  rintro _ middle ⟨tables, given⟩
  apply (Memory.freeAddress_closes given).mono
  rintro _ after ⟨same, given⟩
  refine ⟨same ▸ tables, ?_⟩
  rw [List.append_assoc] at given
  exact given

theorem discardEach_closes {buffers : List Buffer}
    (given : GivenBack answers calls bytes before context)
    (tidy : ∀ buffer ∈ buffers, buffer.Tidy)
    (fits : ∀ buffer ∈ buffers, buffer.base + buffer.maxSize < wordLimit)
    (covered : heldBytes (buffers.flatMap Buffer.holdings) ≤
      context.engine.budget.residentUsage) :
    Ensures (fun _ => False) (buffers.forM discard) context (fun _ after =>
      SameTables context.engine after.engine ∧
      GivenBack answers (calls ++ buffers.flatMap Buffer.discardCalls)
        (bytes + heldBytes (buffers.flatMap Buffer.holdings)) before after) := by
  induction buffers generalizing calls bytes context with
  | nil =>
    refine ⟨.refl _, ?_⟩
    simpa using given
  | cons buffer others ih =>
    rw [List.flatMap_cons, heldBytes_append] at covered
    change Ensures (fun _ => False) (discard buffer >>= fun _ => others.forM discard) context _
    rw [ensures_bind]
    apply (discard_closes given (tidy buffer List.mem_cons_self) (fits buffer List.mem_cons_self)
      (by omega)).mono
    rintro _ middle ⟨tables, given'⟩
    have usage := given.usage
    have usage' := given'.usage
    apply (ih given' (fun other member => tidy other (List.mem_cons_of_mem _ member))
      (fun other member => fits other (List.mem_cons_of_mem _ member)) (by omega)).mono
    rintro _ after ⟨tables', given⟩
    refine ⟨tables.trans tables', ?_⟩
    rw [List.flatMap_cons, List.flatMap_cons, heldBytes_append, ← List.append_assoc,
      ← Nat.add_assoc]
    exact given

end Buffers

/-! ## The drop -/

/-- What a context has to be like for a drop to give everything back: its tables are sound, its
ranges lie within the address space, and its account tells exactly what it holds. -/
structure Engine.Closable (engine : Engine) : Prop where
  vbars : SoundVbars engine.vbars
  buffers : SoundBuffers engine.buffers
  ends : ∀ region ∈ engine.regions, region.base + region.size < wordLimit
  exact : heldBytes engine.holdings = engine.budget.residentUsage

theorem Addressing.closable {σ : Type} [Host σ] {addressing : Addressing σ} {context : Context σ}
    (sound : Sound addressing.ledger context) : context.engine.Closable :=
  ⟨sound.vbars, sound.buffers, addressing.ends sound.books.agrees,
    sound.books.accounted.held_eq trivial⟩

/-- All VBARs are freed, highest priority first. -/
theorem Vbars.freeAll_closes (closable : context.engine.Closable)
    (ready : answers.ready context.host.host) :
    Ensures (fun _ => False) freeAll context (fun _ after =>
      Emptied context after ∧ after.engine.vbars.toList = [] ∧
      SameSetting context.engine after.engine ∧ after.engine.buffers = context.engine.buffers ∧
      GivenBack answers
        (context.engine.vbars.values.flatMap fun vbar =>
          vbar.discardCalls context.engine.config.vbarPageSize)
        (heldBytes (vbarHoldings context.engine.vbars context.engine.config.vbarPageSize))
        context after) := by
  obtain ⟨sound, -, ends, exact⟩ := closable
  have pages : vbarHoldings context.engine.vbars context.engine.config.vbarPageSize =
      context.engine.vbars.toList.flatMap fun entry =>
        entry.2.holdings context.engine.config.vbarPageSize := List.flatMap_map ..
  have calls : (context.engine.vbars.values.flatMap fun vbar =>
        vbar.discardCalls context.engine.config.vbarPageSize) =
      context.engine.vbars.toList.flatMap fun entry =>
        entry.2.discardCalls context.engine.config.vbarPageSize := List.flatMap_map ..
  have fits : ∀ entry ∈ context.engine.vbars.toList,
      entry.2.base + entry.2.nrPages * context.engine.config.vbarPageSize < wordLimit :=
    fun entry member => ends (entry.2.region context.engine.config.vbarPageSize)
      (List.mem_append_left _ (List.mem_map_of_mem (List.mem_map_of_mem member)))
  unfold Engine.holdings at exact
  rw [heldBytes_append] at exact
  unfold freeAll
  rw [ensures_bind, ensures_engine, calls]
  have freed := freeEach_closes (.nothing ready) sound rfl rfl fits (by
    rw [← pages]
    omega)
  rw [← pages, List.nil_append, Nat.zero_add] at freed
  exact freed

/-- A drop makes exactly the calls that give back what is held, and nothing is left of it. -/
theorem Engine.close_closes (closable : context.engine.Closable)
    (ready : answers.ready context.host.host) :
    Ensures (fun _ => False) close context (fun _ after =>
      after.engine.vbars.toList = [] ∧ after.engine.buffers = {} ∧ after.engine.totalUsage = 0 ∧
      GivenBack answers context.engine.closeCalls (heldBytes context.engine.holdings)
        context after) := by
  have exact := closable.exact
  unfold close
  rw [ensures_bind]
  apply (Vbars.freeAll_closes closable ready).mono
  rintro _ middle ⟨-, none, setting, same, given⟩
  have usage := given.usage
  unfold Engine.holdings at exact ⊢
  rw [heldBytes_append] at exact ⊢
  rw [ensures_bind]
  unfold Buffers.destroyAll
  rw [ensures_bind, ensures_engine]
  dsimp only
  rw [ensures_bind, ensures_modifyEngine, same]
  have left : heldBytes (bufferHoldings context.engine.buffers) ≤
      middle.engine.budget.residentUsage := by omega
  apply (Buffers.discardEach_closes
    (given.engine { middle.engine with buffers := {} } rfl ⟨rfl, rfl, rfl⟩)
    (fun buffer member => ?_) (fun buffer member => ?_) left).mono
  · rintro _ after ⟨tables, given⟩
    have usage := given.usage
    rw [ensures_bind, ensures_engine, ensures_log]
    refine ⟨tables.vbars ▸ none, tables.buffers, ?_, given.log _⟩
    change after.engine.budget.residentUsage = 0
    change _ = _ + heldBytes (bufferHoldings context.engine.buffers) + _ at usage
    omega
  · obtain ⟨base, found⟩ := mem_bufferValues.mp member
    exact closable.buffers.tidy found
  · exact closable.ends buffer.region (List.mem_append_right _ (List.mem_map_of_mem member))

/-! ## What the calls of a drop are -/

namespace Engine

variable (engine : Engine)

/-- The calls of a drop by kind: those that give memory back come from what is held. -/
theorem filter_closeCalls {kind : CallKind} (waits : kind ≠ .synchronize)
    (frees : kind ≠ .freeAddress) : engine.closeCalls.filter (·.kind = kind) =
      engine.holdings.flatMap fun holding => holding.discardCalls.filter (·.kind = kind) := by
  have vbar : ∀ vbar : Vbar, (vbar.discardCalls engine.config.vbarPageSize).filter (·.kind = kind) =
      (vbar.holdings engine.config.vbarPageSize).flatMap fun holding =>
        holding.discardCalls.filter (·.kind = kind) := by
    intro vbar
    simp [Vbar.discardCalls, List.filter_flatMap, DriverCall.kind, waits.symm, frees.symm]
  have buffer : ∀ buffer : Buffer, buffer.discardCalls.filter (·.kind = kind) =
      buffer.holdings.flatMap fun holding => holding.discardCalls.filter (·.kind = kind) := by
    intro buffer
    simp [Buffer.discardCalls, Holding.discardCalls, List.filter_flatMap, DriverCall.kind,
      frees.symm]
  unfold closeCalls holdings vbarHoldings bufferHoldings
  simp only [List.filter_append, List.filter_flatMap, vbar, buffer, List.flatMap_append,
    List.flatMap_assoc]

/-- One unmap for each piece of memory. -/
theorem closeCalls_unmap : engine.closeCalls.filter (·.kind = .unmap) =
    engine.holdings.map fun holding => .unmap holding.vaddr holding.size := by
  rw [filter_closeCalls engine (by decide) (by decide), List.map_eq_flatMap]
  rfl

/-- One release for each piece of memory. -/
theorem closeCalls_release : engine.closeCalls.filter (·.kind = .release) =
    engine.holdings.map fun holding => .release holding.memory := by
  rw [filter_closeCalls engine (by decide) (by decide), List.map_eq_flatMap]
  rfl

/-- One call for each range that gives it back. -/
theorem closeCalls_freeAddress : engine.closeCalls.filter (·.kind = .freeAddress) =
    engine.regions.map fun region => .freeAddress region.base region.size := by
  have memory : ∀ held : List Holding,
      (held.flatMap Holding.discardCalls).filter (·.kind = .freeAddress) = [] := by
    intro held
    rw [List.filter_flatMap, List.flatMap_eq_nil_iff]
    exact fun _ _ => rfl
  have vbar : ∀ vbar : Vbar,
      (vbar.discardCalls engine.config.vbarPageSize).filter (·.kind = .freeAddress) =
        [.freeAddress vbar.base (vbar.nrPages * engine.config.vbarPageSize)] := by
    intro vbar
    change ((vbar.holdings _).flatMap _ ++ [_]).filter _ = _
    rw [List.filter_append, memory]
    rfl
  have buffer : ∀ buffer : Buffer, buffer.discardCalls.filter (·.kind = .freeAddress) =
      [.freeAddress buffer.base buffer.maxSize] := by
    intro buffer
    change (buffer.holdings.flatMap Holding.discardCalls ++ [_]).filter _ = _
    rw [List.filter_append, memory]
    rfl
  unfold closeCalls regions vbarRegions bufferRegions
  simp only [List.filter_append, List.filter_flatMap, vbar, buffer, List.map_append, List.map_map]
  rw [List.map_eq_flatMap, List.map_eq_flatMap]
  rfl

/-- A drop of all that an engine holds: the calls by which it is given back, and what is left. -/
structure Dropped (engine : Engine) (calls : List DriverCall) (after : Engine) : Prop where
  unmaps : calls.filter (·.kind = .unmap) =
    engine.holdings.map fun holding => .unmap holding.vaddr holding.size
  releases : calls.filter (·.kind = .release) =
    engine.holdings.map fun holding => .release holding.memory
  frees : calls.filter (·.kind = .freeAddress) =
    engine.regions.map fun region => .freeAddress region.base region.size
  /-- The range of a VBAR is given back after all of its pages. -/
  vbar : ∀ vbar ∈ engine.vbars.values, vbar.discardCalls engine.config.vbarPageSize <:+: calls
  /-- The range of a buffer is given back after all of its chunks. -/
  buffer : ∀ buffer ∈ engine.buffers.values, buffer.discardCalls <:+: calls
  vbars : after.vbars.toList = []
  buffers : after.buffers = {}
  usage : after.totalUsage = 0

variable {engine}

theorem dropped {after : Engine} (vbars : after.vbars.toList = []) (buffers : after.buffers = {})
    (usage : after.totalUsage = 0) : engine.Dropped engine.closeCalls after := by
  have block : ∀ {α : Type} {calls : α → List DriverCall} {one : α} {all : List α}, one ∈ all →
      calls one <:+: all.flatMap calls := by
    intro α calls one all member
    rw [List.flatMap_def]
    exact List.infix_of_mem_flatten (List.mem_map_of_mem member)
  refine ⟨engine.closeCalls_unmap, engine.closeCalls_release, engine.closeCalls_freeAddress,
    fun vbar member => ?_, fun buffer member => ?_, vbars, buffers, usage⟩
  · unfold closeCalls
    apply List.IsInfix.trans _ (List.prefix_append _ _).isInfix
    exact @block _ (·.discardCalls engine.config.vbarPageSize) _ _ member
  · unfold closeCalls
    apply List.IsInfix.trans _ (List.suffix_append _ _).isInfix
    exact block member

end Engine

end VramOvercommit
