import VramOvercommit.Proofs.PassRecords
import VramOvercommit.Proofs.Simulation.FaultSupply
import VramOvercommit.Proofs.Simulation.PagedLedger
import VramOvercommit.Proofs.Simulation.TracedBench

set_option autoImplicit false

/-!
How much a fault reclaims. The first pass of a fault gives back at most as many pages as are absent
below the end of the range, those in front of it included. After it, either all pages that the fault
still asks for fit what is free, or no VBAR can be shrunk any further; so all later passes together
give back nothing.
-/

namespace VramOvercommit

open EngineM
open Attempt (lift)
open Simulation

/-! ## Tables at their limits -/

/-- No VBAR can be shrunk. -/
def AtLimits (vbars : PriorityList Vbar) : Prop :=
  ∀ (handle : Handle) (vbar : Vbar), vbars.get? handle = some vbar →
    vbar.watermark = vbar.watermarkLimit

section AtLimits

variable {vbars after : PriorityList Vbar} {handle : Handle} {own new : Vbar}

theorem AtLimits.totalReclaimable_eq (atLimits : AtLimits vbars) (sound : SoundVbars vbars) :
    totalReclaimable vbars = 0 := by
  have exhausted : Exhausted vbars vbars.handles := by
    intro handle _ vbar live
    rw [← atLimits handle vbar live]
    exact (sound.consistent live).reclaimable_watermark
  exact exhausted.totalReclaimable_eq sound.linked fun _ => id

theorem AtLimits.shrunk (atLimits : AtLimits vbars) (shrunk : Shrunk vbars after)
    (sound : SoundVbars vbars) (sound' : SoundVbars after) : AtLimits after := by
  intro handle left live
  obtain ⟨vbar, live'⟩ := sound.linked.mem_handles.mp
    (shrunk.handles ▸ sound'.linked.mem_handles.mpr ⟨left, live⟩)
  obtain ⟨watermark, low, high, cut⟩ := shrunk.cut live'
  rw [live] at cut
  cases cut
  rw [Vbar.cut_watermark, Vbar.cut_watermarkLimit]
  have same := atLimits handle vbar live'
  omega

/-- Shrinking them takes nothing. -/
theorem AtLimits.totalResident_eq (atLimits : AtLimits vbars) (shrunk : Shrunk vbars after)
    (sound : SoundVbars vbars) (sound' : SoundVbars after) :
    totalResident after = totalResident vbars :=
  shrunk.totalResident_eq sound sound' (atLimits.totalReclaimable_eq sound)

theorem AtLimits.set (atLimits : AtLimits vbars) (live : vbars.get? handle = some own)
    (watermark : new.watermark = own.watermark)
    (limit : new.watermarkLimit = own.watermarkLimit) : AtLimits (vbars.set handle new) := by
  intro other vbar live'
  by_cases same : other = handle
  · subst same
    rw [PriorityList.get?_set_self live] at live'
    cases live'
    rw [watermark, limit]
    exact atLimits other own live
  · rw [PriorityList.get?_set_of_ne same] at live'
    exact atLimits other vbar live'

/-- A pass that went through all VBARs leaves them at their limits. -/
theorem AtLimits.of_drained (shrunk : Shrunk vbars after) (sound' : SoundVbars after)
    (drained : ∀ victim ∈ vbars.handles.reverse, Drained vbars after victim) : AtLimits after := by
  intro handle left live
  have member : handle ∈ vbars.handles := shrunk.handles ▸ sound'.linked.mem_handles.mpr ⟨left, live⟩
  exact (drained handle (List.mem_reverse.mpr member)).at_limit live

end AtLimits

namespace Vbars

/-! ## What a fault may give back -/

section Allowances

variable (around : Surroundings) (size : Nat) (rest : List Holding) (stop : Nat)

/-- No pass of a fault takes anything any more: the absent pages that are still to come fit what is
free, as far as the VBAR reaches, or there is nothing to take. -/
def Settled (vbars : PriorityList Vbar) (own : Vbar) (index : Nat) : Prop :=
  own.absentIn index (min stop own.watermark) * size ≤ freeWith around size rest vbars ∨
    AtLimits vbars

/-- From the page `index` on, the passes of a fault take no more than so many pages. -/
def Allows (vbars : PriorityList Vbar) (own : Vbar) (index budget : Nat) : Prop :=
  Settled around size rest stop vbars own index ∨
    own.absentBelow (min stop own.watermark) ≤ budget

end Allowances

section Steps

variable {around : Surroundings} {size : Nat} {rest : List Holding} {stop : Nat}
  {vbars after : PriorityList Vbar} {handle : Handle} {own left : Vbar} {index budget freed : Nat}
  {page : Page}

/-- A page that is resident already. -/
theorem Allows.pass (allows : Allows around size rest stop vbars own index budget)
    (less : index < stop) (reach : index < own.watermark)
    (found : own.pages[index]? = some page) (resident : page.isResident = true) :
    Allows around size rest stop vbars own (index + 1) budget := by
  have same := Vbar.absentIn_succ found (Nat.lt_min.mpr ⟨less, reach⟩)
  rw [resident, if_pos rfl, Nat.add_zero] at same
  unfold Allows Settled at *
  rwa [← same]

/-- A page that gets memory. -/
theorem Allows.write {new : Page} {memory : PhysicalHandle}
    (allows : Allows around size rest stop vbars own index budget) (sound : SoundVbars vbars)
    (live : vbars.get? handle = some own) (less : index < stop) (reach : index < own.watermark)
    (found : own.pages[index]? = some page) (absent : page.isResident = false)
    (backed : new.backing = some memory)
    (fits : around.inUse (heldBytes
      (vbarHoldings (vbars.set handle (own.write index new)) size ++ rest)) ≤ around.capacity) :
    Allows around size rest stop (vbars.set handle (own.write index new)) (own.write index new)
      (index + 1) budget := by
  have within := Nat.lt_min.mpr ⟨less, reach⟩
  have resident : new.isResident = true := by
    rw [Page.isResident, backed]
    rfl
  rcases allows with (covered | atLimits) | enough
  · have room := freeWith_write sound live found absent backed fits
    rw [Vbar.absentIn_succ found within, absent, if_neg Bool.false_ne_true,
      Nat.add_one_mul] at covered
    refine .inl (.inl ?_)
    rw [Vbar.write_watermark, Vbar.absentIn_write found]
    omega
  · exact .inl (.inr (atLimits.set live (Vbar.write_watermark ..) (Vbar.write_watermarkLimit ..)))
  · have fewer := Vbar.absentBelow_write found absent resident within
    refine .inr ?_
    rw [Vbar.write_watermark]
    omega

/-- A pass takes no more than it may, and it is the last one that takes anything. -/
theorem Allows.reclaim (allows : Allows around size rest stop vbars own index budget)
    (sound : SoundVbars vbars) (sound' : SoundVbars after) (shrunk : Shrunk vbars after)
    (fits : around.inUse (heldBytes (vbarHoldings vbars size ++ rest)) ≤ around.capacity)
    (full : freeWith around size rest vbars < size) (less : index < stop)
    (reach : index < own.watermark) (found : own.pages[index]? = some page)
    (absent : page.isResident = false)
    (walked : Eviction.ShrunkEachUntil vbars after handle vbars.handles.reverse own stop 0 left
      freed)
    (swept : Eviction.SweptUntil vbars after vbars.handles.reverse own stop 0 left freed) :
    freed ≤ budget ∧ Settled around size rest stop after left index := by
  have total := walked.total
  rcases allows with (covered | atLimits) | enough
  · -- the page itself would fit what is free
    rw [Vbar.absentIn_succ found (Nat.lt_min.mpr ⟨less, reach⟩), absent,
      if_neg Bool.false_ne_true, Nat.add_one_mul] at covered
    omega
  · have same := atLimits.totalResident_eq shrunk sound sound'
    exact ⟨by omega, .inr (atLimits.shrunk shrunk sound sound')⟩
  · have bounded := swept.bounded
    refine ⟨by omega, ?_⟩
    rcases swept.ended with met | drained
    · obtain ⟨-, room⟩ := freeWith_reclaimed sound sound' total fits
      have covered := Nat.le_trans (left.absentIn_le index (min stop left.watermark)) met
      refine .inl ?_
      rw [room]
      exact Nat.le_trans (Nat.mul_le_mul_right size covered) (Nat.le_add_left _ _)
    · exact .inr (.of_drained shrunk sound' drained)

end Steps

end Vbars

/-! ## The calls of a fault -/

variable {σ : Type} [Host σ] {facade : Facade σ} {context : Context (Traced σ)}
  {regions : List Region} {rest : List Holding}
  {around : Surroundings} {size : Nat}

/-- What the VBARs hold fits the device. -/
theorem VbarBooks.fits
    (kept : VbarBooks (facade.traced.pagedBooks around size) context regions rest) :
    around.inUse (heldBytes (vbarHoldings context.engine.vbars size ++ rest)) ≤
      around.capacity := by
  obtain rfl : context.engine.config.vbarPageSize = size := kept.allowed
  have quiet : Bench.QuietBooks around (facade.bench context.host.host) regions none _ :=
    kept.books.agrees
  have fits := quiet.fits
  rwa [Option.toList_none, List.map_nil, List.sum_nil, Nat.zero_add] at fits

/-- While nothing is to fail, a commit has nothing to undo that was mapped. -/
theorem Memory.commit_unmaps_nothing {holdings : List Holding} {vaddr : Nat} (device : Int)
    (books : Books (facade.traced.pagedBooks around size) context regions holdings)
    (positive : 0 < size)
    (inside : ∃ region ∈ regions, region.base ≤ vaddr ∧ vaddr + size ≤ region.base + region.size) :
    Traces (Memory.commit vaddr size device) context fun events _ _ => unmapped events = 0 := by
  unfold Memory.commit
  refine Traces.call_bind_of
    ((facade.traced.pagedBooks around size).create vaddr device books.agrees rfl)
    fun created host outcome => ?_
  cases created with
  | error cause => exact Traces.pure rfl
  | ok memory =>
    refine Traces.call_bind_of
      ((facade.traced.pagedBooks around size).map outcome rfl positive inside)
      fun mapped host outcome => ?_
    cases mapped with
    | error cause =>
      refine (Memory.giveBack_calls memory).bind fun _ _ _ released => ?_
      obtain ⟨answer, rfl⟩ := released
      exact Traces.pure rfl
    | ok _ =>
      have quiet : Bench.QuietBooks around (facade.bench host.host) regions none
        (⟨vaddr, size, memory⟩ :: holdings) := outcome
      have grants : Ensures (fun _ => False) (Host.call (.setAccess vaddr size device)) host _ :=
        facade.traced.ensures_call (by nofun) quiet.setAccess
      refine Traces.call_bind_of grants fun granted host outcome => ?_
      obtain ⟨-, rfl⟩ := outcome
      refine (Traces.silent (Memory.recordCommit_only size : Only [] _) (by simp)).bind
        fun events _ _ silent => ?_
      obtain ⟨rfl, -⟩ := silent
      exact Traces.log_bind (Traces.pure rfl)

/-- A pass for a fault unmaps the pages that it frees. -/
theorem Eviction.evictForVbar_unmaps {ledger : Ledger (Traced σ)}
    {context : Context (Traced σ)} {handle : Handle} {own : Vbar} {target : Nat}
    (kept : VbarBooks ledger context regions rest)
    (live : context.engine.vbars.get? handle = some own) :
    Traces (evictForVbar handle target) context fun events _ after =>
      Reclaimed context.engine after.engine ∧ VbarBooks ledger after regions rest ∧ ∃ left,
        ShrunkEachUntil context.engine.vbars after.engine.vbars handle
          context.engine.vbars.handles.reverse own target 0 left (unmapped events) ∧
        SweptUntil context.engine.vbars after.engine.vbars context.engine.vbars.handles.reverse own
          target 0 left (unmapped events) := by
  refine ((evictForVbar_takes target kept.sound.linked live).and (evictForVbar_spec kept)).mono ?_
  rintro _ after ⟨events, adds, ⟨lost, calls, loses⟩, reclaimed, kept', walked⟩
  obtain ⟨left, freed, shrunk, swept⟩ := walked own live
  have total := loses.totalResident_eq kept.sound kept'.sound kept.positive
  have total' := shrunk.total
  obtain rfl : freed = unmapped events := by
    rw [calls.unmapped_eq]
    omega
  exact ⟨events, adds, reclaimed, kept', left, shrunk, swept⟩

namespace Vbars

variable {handle : Handle} {own : Vbar} {page : Page} {index stop budget : Nat}

/-- What a fault has given back so far is within its budget, and so is all that it may still give
back from the page `index` on. -/
structure Within (around : Surroundings) (size : Nat) (rest : List Holding) (handle : Handle)
    (stop index budget : Nat) (events : List Event) (vbars : PriorityList Vbar) : Prop where
  spent : unmapped events ≤ budget
  allows : ∃ left, vbars.get? handle = some left ∧
    Allows around size rest stop vbars left index (budget - unmapped events)

section Within

variable {earlier events later : List Event} {vbars : PriorityList Vbar}

/-- Calls that unmap nothing may come before and after. -/
theorem Within.among (within : Within around size rest handle stop index budget events vbars)
    (before : unmapped earlier = 0) (after : unmapped later = 0) :
    Within around size rest handle stop index budget (earlier ++ (events ++ later)) vbars := by
  obtain ⟨spent, allows⟩ := within
  refine ⟨?_, ?_⟩ <;>
    rwa [unmapped_append, unmapped_append, before, after, Nat.zero_add, Nat.add_zero]

theorem Allows.within (allows : Allows around size rest stop vbars own index budget)
    (live : vbars.get? handle = some own) (none : unmapped events = 0) :
    Within around size rest handle stop index budget events vbars := by
  refine ⟨none ▸ Nat.zero_le _, own, live, ?_⟩
  rwa [none]

end Within

/-- One attempt to back a page. Memory is refused only where less than a page is free. -/
theorem commitPage_idle (device : Int)
    (kept : VbarBooks (facade.traced.pagedBooks around size) context regions rest)
    (live : context.engine.vbars.get? handle = some own) (below : index < own.nrPages) :
    Traces (Memory.commit (own.base + index * size) size device) context
      fun events result after =>
        unmapped events = 0 ∧ SameTables context.engine after.engine ∧ ∀ cause,
          result = .error cause →
            VbarBooks (facade.traced.pagedBooks around size) after regions rest ∧
            (cause = .outOfMemory → freeWith around size rest context.engine.vbars < size) := by
  obtain rfl : context.engine.config.vbarPageSize = size := kept.allowed
  have positive := kept.positive
  refine ((Memory.commit_unmaps_nothing device kept.books positive
    ⟨_, kept.inside live, page_inside below _⟩).and
    (commitPage_spec device kept live below)).mono ?_
  rintro result after ⟨events, adds, none, ⟨tables, outcome⟩, -⟩
  refine ⟨events, adds, none, tables, fun cause failed => ?_⟩
  subst failed
  obtain ⟨kept', refused⟩ := outcome
  refine ⟨kept', fun exhausted => ?_⟩
  have full : around.capacity < around.inUse _ + _ := refused exhausted
  unfold freeWith
  omega

/-- A pass for a page that was refused memory. -/
theorem evictForPage_within {middle : Context (Traced σ)}
    (kept : VbarBooks (facade.traced.pagedBooks around size) middle regions rest)
    (live : middle.engine.vbars.get? handle = some own)
    (allows : Allows around size rest stop middle.engine.vbars own index budget)
    (full : freeWith around size rest middle.engine.vbars < size) (less : index < stop)
    (reach : index < own.watermark) (found : own.pages[index]? = some page)
    (absent : page.isResident = false) :
    Traces (Eviction.evictForVbar handle stop) middle fun events _ after =>
      VbarBooks (facade.traced.pagedBooks around size) after regions rest ∧
        Within around size rest handle stop index budget events after.engine.vbars ∧
        ∃ watermark, after.engine.vbars.get? handle = some (own.cut watermark) := by
  obtain rfl : middle.engine.config.vbarPageSize = size := kept.allowed
  refine (Eviction.evictForVbar_unmaps kept live).mono ?_
  rintro _ after ⟨events, adds, reclaimed, kept', left, walked, swept⟩
  obtain ⟨spent, settled⟩ := allows.reclaim kept.sound kept'.sound reclaimed.vbars kept.fits full
    less reach found absent walked swept
  obtain ⟨watermark, -, -, cut⟩ := reclaimed.vbars.cut live
  exact ⟨events, adds, kept', ⟨spent, left, walked.remains, .inl settled⟩, watermark, cut⟩

/-- A page leads to one pass at most, and only if less than a page is free. -/
theorem backPage_within {device : Int}
    (kept : VbarBooks (facade.traced.pagedBooks around size) context regions rest)
    (live : context.engine.vbars.get? handle = some own)
    (allows : Allows around size rest stop context.engine.vbars own index budget)
    (less : index < stop) (reach : index < own.watermark)
    (found : own.pages[index]? = some page) (absent : page.isResident = false) :
    Traces (backPage handle (own.base + index * size) index stop device).run context
      fun events _ after =>
        Within around size rest handle stop index budget events after.engine.vbars := by
  have pageSize : context.engine.config.vbarPageSize = size := kept.allowed
  have below := Nat.lt_of_lt_of_le reach (kept.sound.consistent live).watermark_le
  unfold backPage
  rw [Attempt.run_lift_bind]
  refine Traces.pageSize_bind ?_
  rw [pageSize, Attempt.run_lift_bind]
  refine (commitPage_idle device kept live below).bind fun first answer middle outcome => ?_
  obtain ⟨none, tables, failed⟩ := outcome
  rw [← tables.vbars] at live allows
  have idle : Within around size rest handle stop index budget (first ++ [])
      middle.engine.vbars := by
    rw [List.append_nil]
    exact allows.within live none
  rcases answer with (_ | code) | memory
  · -- one pass of reclaiming, and one more attempt
    obtain ⟨kept₁, full⟩ := failed .outOfMemory rfl
    rw [← tables.vbars] at full
    dsimp only
    rw [Attempt.run_lift_bind]
    refine Traces.bind (Traces.log_bind (evictForPage_within (kept₁.log _) live allows (full rfl)
      less reach found absent)) fun pass _ second outcome => ?_
    obtain ⟨kept₂, within, watermark, remains⟩ := outcome
    change Ensures _ _ second _
    rw [ensures_run_bind, Attempt.ensures_vbar, remains]
    dsimp only
    split
    · rw [ensures_run_bind, ensures_run_lift, ensures_log, ensures_run_throw]
      exact ⟨[], .refl second.host, within.among none rfl⟩
    · change Traces _ second fun more _ after => _
      rw [Attempt.run_lift_bind]
      refine (commitPage_idle device kept₂ remains (by rwa [Vbar.cut_nrPages])).bind
        fun last answer third outcome => ?_
      obtain ⟨none', tables', -⟩ := outcome
      have whole : Within around size rest handle stop index budget
          (first ++ (pass ++ (last ++ []))) third.engine.vbars := by
        rw [List.append_nil, tables'.vbars]
        exact within.among none none'
      rcases answer with (_ | code) | memory
      · dsimp only
        rw [Attempt.run_lift_bind]
        exact Traces.log_bind (Traces.pure whole)
      · dsimp only
        rw [Attempt.run_lift_bind]
        exact Traces.log_bind (Traces.pure whole)
      · exact Traces.pure whole
  · dsimp only
    rw [Attempt.run_lift_bind]
    exact Traces.log_bind (Traces.pure idle)
  · exact Traces.pure idle

/-- A page is within the budget, and once it is resident so are those behind it. -/
theorem faultPage_within
    (kept : VbarBooks (facade.traced.pagedBooks around size) context regions rest)
    (live : context.engine.vbars.get? handle = some own)
    (allows : Allows around size rest stop context.engine.vbars own index budget)
    (less : index < stop) :
    Traces (faultPage handle index stop).run context fun events result after =>
      unmapped events ≤ budget ∧ ∀ serial, result = .ok serial →
        Within around size rest handle stop (index + 1) budget events after.engine.vbars := by
  obtain rfl : context.engine.config.vbarPageSize = size := kept.allowed
  unfold faultPage Traces
  rw [ensures_run_bind, Attempt.ensures_vbar, live]
  dsimp only
  split
  · exact ⟨[], .refl _, Nat.zero_le _, nofun⟩
  · rename_i reach
    rw [Nat.not_le] at reach
    change Traces _ context fun events result _ => _
    rw [Attempt.run_lift_bind]
    refine Traces.ensure_bind fun page there => ?_
    have found := Vbar.pageAt_ok there
    cases resident : page.isResident with
    | true =>
      exact Traces.pure ⟨Nat.zero_le _, fun _ _ =>
        (allows.pass less reach found resident).within live rfl⟩
    | false =>
      rw [if_neg Bool.false_ne_true, Attempt.run_lift_bind]
      refine Traces.pageSize_bind ?_
      rw [Attempt.run_lift_bind]
      refine Traces.ensure_bind fun vaddr address => ?_
      have placed := pageAddress_ok address
      subst placed
      refine ((backPage_within kept live allows less reach found resident).and
        (backPage_spec kept live reach)).run_bind
        (fun events memory middle outcome => ?_) fun events cause middle outcome =>
          ⟨outcome.1.spent, nofun⟩
      obtain ⟨within, reclaimed, -, -, kept', left, readied, reach'⟩ := outcome
      obtain ⟨remains, watermark, -, -, rfl⟩ := readied.cut kept.sound live
      rw [Vbar.cut_watermark] at reach'
      have found' := (Vbar.getElem?_cut_of_lt reach').trans found
      have stored := putBacked_eq_write memory (kept'.sound.consistent remains).counted found'
        resident
      obtain ⟨-, kept''⟩ := storePage_spec remains reach' found' resident
        (by rw [Vbar.cut_base, reclaimed.config]; exact kept')
      change Ensures _ _ middle _
      rw [ensures_run_bind, Attempt.ensures_vbar, remains]
      dsimp only
      rw [ensures_run_lift, ensures_bind, Vbar.pageAt_eq_ok found', ensures_ensure_ok,
        ensures_bind, ensures_putVbar, ensures_pure]
      unfold Page.backed at stored
      rw [stored]
      refine ⟨[], .refl middle.host, ?_⟩
      rw [List.append_nil]
      refine ⟨within.spent, fun serial _ => ?_⟩
      obtain ⟨spent, left', remains', allows'⟩ := within
      rw [remains] at remains'
      cases remains'
      exact ⟨spent, _, PriorityList.get?_set_self remains _,
        allows'.write kept'.sound remains less reach' found' resident rfl kept''.fits⟩

/-- All passes of a fault are within the budget, however far it gets. -/
theorem faultPages_within {count : Nat}
    (kept : VbarBooks (facade.traced.pagedBooks around size) context regions rest)
    (live : context.engine.vbars.get? handle = some own)
    (allows : Allows around size rest stop context.engine.vbars own index budget)
    (inside : count ≤ stop - index) :
    Traces (faultPages handle stop count index).run context fun events _ _ =>
      unmapped events ≤ budget := by
  induction count generalizing context index own budget with
  | zero => exact Traces.pure (Nat.zero_le _)
  | succ count ih =>
    unfold faultPages
    refine ((faultPage_within kept live allows (by omega)).and (faultPage_spec kept)).run_bind
      (fun events serial middle outcome => ?_)
      fun events cause middle outcome => outcome.1.1
    obtain ⟨⟨spent, next⟩, -, -, kept', -⟩ := outcome
    obtain ⟨left, remains, allows'⟩ := (next serial rfl).allows
    refine (ih kept' remains allows' (by omega)).run_bind (fun more serials last spent' => ?_)
      fun more cause last spent' => ?_
    · refine Traces.pure ?_
      rw [List.append_nil, unmapped_append]
      omega
    · rw [unmapped_append]
      omega

theorem faultAndPin_within {start : Nat}
    (kept : VbarBooks (facade.traced.pagedBooks around size) context regions rest)
    (live : context.engine.vbars.get? handle = some own)
    (allows : Allows around size rest stop context.engine.vbars own start budget) :
    Traces (faultAndPin handle start stop).run context fun events _ _ =>
      unmapped events ≤ budget := by
  unfold faultAndPin
  refine ((faultPages_within kept live allows (Nat.le_refl _)).and (faultPages_spec kept)).run_bind
    (fun events serials middle outcome => ?_)
    fun events cause middle outcome => outcome.1
  obtain ⟨spent, worked, -⟩ := outcome
  obtain ⟨left, remains, -⟩ := worked.spares handle own live
  change Ensures _ _ middle _
  rw [ensures_run_bind, Attempt.ensures_vbar, remains]
  dsimp only
  rw [ensures_run_bind, ensures_run_lift, ensures_bind]
  cases pinPages left (stop - start) start with
  | error cause => exact trivial
  | ok pinned =>
    rw [ensures_ensure_ok, ensures_putVbar, ensures_run_pure]
    refine ⟨[], .refl middle.host, ?_⟩
    rw [List.append_nil]
    exact spent

/-- A fault gives back no more pages than its VBAR lacks below the end of the range. -/
theorem fault_within {offset bytes : Nat}
    (sound : Sound (facade.traced.pagedBooks around size) context)
    (live : context.engine.vbars.get? handle = some own) :
    Traces (fault handle offset bytes).run context fun events _ _ =>
      unmapped events ≤ own.absentBelow (faultEnd offset bytes size) := by
  obtain rfl : context.engine.config.vbarPageSize = size := sound.vbarBooks.allowed
  rw [fault_eq]
  unfold Traces
  rw [ensures_run_bind, ensures_run_lift, ensures_log]
  dsimp only
  rw [ensures_run_bind, Attempt.ensures_vbar, live]
  dsimp only
  rw [ensures_run_bind, ensures_run_lift, ensures_pageSize]
  dsimp only
  unfold faultRange
  split
  · rw [ensures_run_bind, ensures_run_lift, ensures_log, ensures_run_throw]
    exact ⟨[], .refl _, Nat.zero_le _⟩
  · have kept := ((sound.log (.faultStarted offset bytes)).room .serials
      (faultEnd offset bytes context.engine.config.vbarPageSize -
        offset / context.engine.config.vbarPageSize)).vbarBooks.markDirty
    rw [Attempt.run_lift_bind]
    refine Traces.allocates_bind ?_
    split
    · unfold Traces
      rw [ensures_run_bind, ensures_run_lift, ensures_bind, ensures_markDirty, ensures_bind]
      refine ((faultAndPin_within kept live
        (.inr (Vbar.absentBelow_mono (Nat.min_le_left _ _)))).and (faultAndPin_spec kept)).mono ?_
      rintro result after ⟨events, adds, spent, -, kept', -⟩
      rw [ensures_bind]
      apply Eviction.checkVbars_spec kept'.sound
      rw [ensures_bind, ensures_log, ensures_pure]
      cases result with
      | ok serials => exact ⟨events, adds, spent⟩
      | error cause => exact ⟨events, adds, spent⟩
    · exact Traces.pure (Nat.zero_le _)

end Vbars

/-! ## Faults of a run -/

/-- The range of a fault ends where its last page does, or beyond the whole VBAR. -/
theorem Sound.absentBelow_faultEnd {handle : Handle} {vbar : Vbar} {offset bytes : Nat}
    (sound : Sound (facade.traced.pagedBooks around size) context)
    (live : context.engine.vbars.get? handle = some vbar) :
    vbar.absentBelow (Vbars.faultEnd offset bytes size) ≤
      vbar.absentBelow (blocksFor (offset + bytes) size) := by
  obtain rfl : context.engine.config.vbarPageSize = size := sound.vbarBooks.allowed
  by_cases small : offset + bytes < wordLimit
  · rw [Vbars.faultEnd_eq small]
  · have ends := (sound.books.region_lt (sound.vbarBooks.inside live)).resolve_right And.left
    change vbar.base + vbar.nrPages * context.engine.config.vbarPageSize < wordLimit at ends
    have positive := sound.vbarBooks.positive
    have covers := le_blocksFor_mul (offset + bytes) positive
    exact Vbar.absentBelow_le (Nat.le_of_mul_le_mul_right (by omega) positive) _

/-- A fault on a full device. One page of its range is absent, and so is the page in front of the
range; both pages of another VBAR are given back for it. -/
theorem fault_reclaims_beyond_range :
    ∃ engine host context vbar other after left events,
      Engine.create 0 .bytewise (⟨{ device := { capacity := 2 } }, #[]⟩ : Traced Bench) =
        .ok (.ok engine) host ∧
      Run Bench.facade.traced.Adjusted anyOperation ⟨engine, host⟩ context ∧
      context.host.host.Unfailing ∧
      context.engine.config.vbarPageSize = 1 ∧ context.engine.vbars.get? ⟨1, 0⟩ = some vbar ∧
      vbar.absentIn 1 2 = 1 ∧
      (Operation.fault ⟨1, 0⟩ 1 1).run context = .ok (.ok (.serials [1])) after ∧
      context.host.Adds after.host events ∧ unmapped events = 2 ∧
      context.engine.vbars.get? ⟨0, 0⟩ = some other ∧ other.residentCount = 2 ∧
      after.engine.vbars.get? ⟨0, 0⟩ = some left ∧ left.residentCount = 0 := by
  have reached : reaches 0 .bytewise (⟨{ device := { capacity := 2 } }, #[]⟩ : Traced Bench)
      anyOperation [.allocateVbar 2 0, .fault ⟨0, 0⟩ 0 2, .unpin ⟨0, 0⟩ 0 2, .allocateVbar 2 0]
      (fun context => (context.engine.vbars.get? ⟨1, 0⟩).any fun vbar =>
        (context.engine.vbars.get? ⟨0, 0⟩).any fun other =>
          decide (context.host.host.Unfailing ∧ context.engine.config.vbarPageSize = 1 ∧
            vbar.absentIn 1 2 = 1 ∧ other.residentCount = 2 ∧
            Ensures (fun _ => False) (Operation.fault ⟨1, 0⟩ 1 1).run context fun outcome after =>
              outcome = .ok (.serials [1]) ∧
              unmapped after.host.events.toList = unmapped context.host.events.toList + 2 ∧
              (after.engine.vbars.get? ⟨0, 0⟩).any (·.residentCount = 0))) = true := by
    decide +kernel
  obtain ⟨engine, host, context, opened, run, passed⟩ :=
    exists_run_of_reaches Bench.facade.traced.Adjusted reached
  obtain ⟨vbar, live, passed⟩ := (Option.any_eq_true _ _).mp passed
  obtain ⟨other, live', passed⟩ := (Option.any_eq_true _ _).mp passed
  obtain ⟨unfailing, bytewise, absent, resident, faults⟩ := of_decide_eq_true passed
  obtain ⟨_, after, ran, rfl, gone, emptied⟩ := faults.exists_ok
  obtain ⟨left, remains, emptied⟩ := (Option.any_eq_true _ _).mp emptied
  obtain ⟨events, adds, -⟩ :=
    (((Operation.fault ⟨1, 0⟩ 1 1).run_only context).ensures.of_ok ran).adds
  unfold Traced.Adds at adds
  rw [adds, unmapped_append] at gone
  exact ⟨engine, host, context, vbar, other, after, left, events, opened, run, unfailing, bytewise,
    live, absent, ran, adds, by omega, live', resident, remains, of_decide_eq_true emptied⟩

/-- While nothing is to fail and what is in use fits the device, a fault gives back no more pages
than its VBAR lacked in front of the range and in it. Each page is given back by one call that
unmaps it, and nothing else is unmapped. The program ends early only where the bytes in use and one
more page may exceed the words. -/
theorem fault_reclaims_at_most (facade : Facade σ) {device : Int} {config : Config}
    {host host' : Traced σ} {engine : Engine} {handle : Handle} {vbar : Vbar}
    (unused : (facade.bench host.host).device.Unused)
    (opened : Engine.create device config host = .ok (.ok engine) host')
    (run : Run facade.traced.Adjusted anyOperation ⟨engine, host'⟩ context)
    (unfailing : (facade.bench context.host.host).Unfailing)
    (live : context.engine.vbars.get? handle = some vbar) {offset bytes start stop : Nat}
    (first : start = offset / context.engine.config.vbarPageSize)
    (last : stop = blocksFor (offset + bytes) context.engine.config.vbarPageSize) :
    Ensures
      (fun cause => cause = .overflow ∧ wordLimit ≤
        (facade.bench context.host.host).device.capacity + context.engine.config.vbarPageSize)
      (Operation.fault handle offset bytes).run context (fun _ after => ∃ events,
        context.host.Adds after.host events ∧
          unmapped events ≤ vbar.absentBelow start + vbar.absentIn start stop) := by
  obtain ⟨kept, sound⟩ := facade.traced.accounts_of_run run
    ⟨_, facade.traced.sound_opened unused opened⟩
  obtain ⟨around, capacity, sound⟩ := facade.traced.sound_paged sound unfailing
  have ordered : start ≤ stop := by
    have le := Nat.div_le_div_right (c := context.engine.config.vbarPageSize)
      (Nat.le_add_right offset bytes)
    rw [first, last, blocksFor]
    omega
  have most : vbar.absentBelow (Vbars.faultEnd offset bytes context.engine.config.vbarPageSize) ≤
      vbar.absentBelow start + vbar.absentIn start stop := by
    rw [vbar.absentBelow_add_absentIn ordered, last]
    exact sound.absentBelow_faultEnd live
  have capacity : around.capacity = (facade.bench context.host.host).device.capacity := capacity
  change Ensures _ (do
    let serials ← Vbars.fault handle offset bytes
    return Outcome.serials serials : Attempt (Traced σ) Outcome).run context _
  rw [ensures_run_bind, ← capacity]
  refine ((Vbars.fault_spec sound).also (Vbars.fault_within sound live)).mono ?_
  rintro result after ⟨-, events, adds, spent⟩
  cases result with
  | ok serials => exact ⟨events, adds, Nat.le_trans spent most⟩
  | error cause => exact ⟨events, adds, Nat.le_trans spent most⟩

/-- Two pages on a full device, for which two others are given back. -/
theorem fault_reclaims_at_most_two :
    ∃ (context after : Context (Traced Bench)) (events : List Event),
      (Operation.fault ⟨1, 0⟩ 0 2).run context = .ok (.ok (.serials [1, 1])) after ∧
      context.host.Adds after.host events ∧ unmapped events ≤ 2 := by
  have reached : reaches 0 .bytewise (⟨{ device := { capacity := 2 } }, #[]⟩ : Traced Bench)
      anyOperation [.allocateVbar 2 0, .fault ⟨0, 0⟩ 0 2, .unpin ⟨0, 0⟩ 0 2, .allocateVbar 2 0]
      (fun context => (context.engine.vbars.get? ⟨1, 0⟩).any fun vbar =>
        decide (context.host.host.Unfailing ∧ context.engine.config.vbarPageSize = 1 ∧
          vbar.absentBelow 0 + vbar.absentIn 0 2 = 2 ∧
          Ensures (fun _ => False) (Operation.fault ⟨1, 0⟩ 0 2).run context fun outcome _ =>
            outcome = .ok (.serials [1, 1]))) = true := by
    decide +kernel
  obtain ⟨engine, host, context, opened, run, passed⟩ :=
    exists_run_of_reaches Bench.facade.traced.Adjusted reached
  obtain ⟨vbar, live, passed⟩ := (Option.any_eq_true _ _).mp passed
  obtain ⟨unfailing, bytewise, absent, faults⟩ := of_decide_eq_true passed
  obtain ⟨_, after, ran, rfl⟩ := faults.exists_ok
  have first : 0 = 0 / context.engine.config.vbarPageSize := (Nat.zero_div _).symm
  have last : 2 = blocksFor (0 + 2) context.engine.config.vbarPageSize := by
    rw [bytewise]
    rfl
  obtain ⟨events, adds, most⟩ :=
    (fault_reclaims_at_most Bench.facade ⟨rfl, rfl, rfl, rfl, rfl⟩ opened run unfailing live first
      last).of_ok ran
  rw [absent] at most
  exact ⟨context, after, events, ran, adds, most⟩

end VramOvercommit
