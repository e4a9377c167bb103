import VramOvercommit.Proofs.Faulting

set_option autoImplicit false

/-!
A fault page by page. The pages are gone through from the first one on, and reclaiming for a later
page can cut the VBAR into those that were gone through already. The watermark does not rise again
during the fault, so a fault that succeeds has lost none of them.
-/

namespace VramOvercommit.Vbars

open EngineM
open Attempt (lift)

/-- What a fault makes of a page it goes through: one that is absent gets memory. -/
structure Page.FilledTo (page filled : Page) : Prop where
  same : page.isResident = true → filled = page
  backed : page.isResident = false → ∃ memory, filled = Page.backed page memory

/-- The page at an index of a VBAR that was cut. -/
def Page.cut (watermark index : Nat) (page : Page) : Page :=
  if watermark ≤ index then page.evicted else page

/-- The fault of a VBAR has gone through its pages from `start` to `reached`, and the VBAR may have
been cut meanwhile. -/
structure FilledUpTo (own left : Vbar) (start reached : Nat) : Prop where
  limit : own.watermarkLimit ≤ left.watermark
  below : left.watermark ≤ own.watermark
  ordered : start ≤ reached
  reach : start < reached → reached ≤ own.watermark
  outside : ∀ {index : Nat}, ¬ (start ≤ index ∧ index < reached) →
    left.pages[index]? = own.pages[index]?.map (Page.cut left.watermark index)
  inside : ∀ {index : Nat}, start ≤ index → index < reached → ∃ page filled,
    own.pages[index]? = some page ∧ Page.FilledTo page filled ∧
      left.pages[index]? = some (Page.cut left.watermark index filled)

section Pages

variable {own middle left : Vbar} {start reached index watermark : Nat} {page : Page}

theorem Page.cut_of_lt (less : index < watermark) : Page.cut watermark index page = page :=
  if_neg (Nat.not_le.mpr less)

/-- Only the lowest of several cuts counts. -/
theorem Page.cut_cut {low : Nat} (le : low ≤ watermark) :
    Page.cut low index (Page.cut watermark index page) = Page.cut low index page := by
  unfold Page.cut
  by_cases above : watermark ≤ index
  · rw [if_pos above, if_pos (Nat.le_trans le above), if_pos (Nat.le_trans le above),
      Vbar.evicted_evicted]
  · rw [if_neg above]

theorem FilledUpTo.of_cut (limit : own.watermarkLimit ≤ watermark)
    (below : watermark ≤ own.watermark) : FilledUpTo own (own.cut watermark) start start :=
  ⟨limit, below, Nat.le_refl _, fun less => absurd less (Nat.lt_irrefl _),
    fun _ => Vbar.getElem?_cut _ _, fun low high => absurd high (Nat.not_lt.mpr low)⟩

theorem FilledUpTo.refl (consistent : own.Consistent) : FilledUpTo own own start start := by
  have uncut : FilledUpTo own (own.cut own.watermark) start start :=
    .of_cut consistent.limit_le (Nat.le_refl _)
  rwa [consistent.cut_self] at uncut

variable {σ : Type} [Host σ] {ledger : Ledger σ} {size stop : Nat} {rest : List Holding}
  {handle : Handle} {vbars after : PriorityList Vbar}

/-- Below its watermark a fault of one page changes that page only. -/
theorem PageFaulted.elsewhere
    (faulted : PageFaulted ledger size rest handle index stop vbars own after left)
    (sound : SoundVbars vbars) (live : vbars.get? handle = some own) {other : Nat}
    (differ : other ≠ index) (less : other < left.watermark) :
    left.pages[other]? = own.pages[other]? := by
  cases faulted with
  | resident => rfl
  | @backed between middle page memory found absent readied reach =>
    obtain ⟨-, watermark, -, -, rfl⟩ := readied.cut sound live
    rw [Vbar.write_watermark, Vbar.cut_watermark] at less
    rw [Vbar.cut_watermark] at reach
    rw [Vbar.getElem?_write_of_ne ((Vbar.getElem?_cut_of_lt reach).trans found) differ,
      Vbar.getElem?_cut_of_lt less]

/-- One page before the others. -/
theorem FilledUpTo.step
    (faulted : PageFaulted ledger size rest handle index stop vbars own after middle)
    (sound : SoundVbars vbars) (live : vbars.get? handle = some own)
    (others : FilledUpTo middle left (index + 1) reached) : FilledUpTo own left index reached := by
  have ordered := others.ordered
  obtain ⟨-, passed, lower, -⟩ := faulted.remains sound live
  -- all pages gone through were in reach of the watermark that the first of them left
  have within : reached ≤ middle.watermark := by
    by_cases more : index + 1 < reached
    · exact others.reach more
    · omega
  cases faulted with
  | @resident page found resident reach =>
    refine ⟨others.limit, others.below, by omega, fun _ => within,
      fun {other} apart => others.outside (by omega), fun {other} low high => ?_⟩
    by_cases here : other = index
    · subst here
      refine ⟨page, page, found, ⟨fun _ => rfl, fun absent => ?_⟩, ?_⟩
      · rw [resident] at absent
        cases absent
      · rw [others.outside (by omega), found, Option.map_some]
    · exact others.inside (by omega) high
  | @backed between cut page memory found absent readied reach =>
    obtain ⟨-, watermark, limit, below, rfl⟩ := readied.cut sound live
    rw [Vbar.write_watermark, Vbar.cut_watermark] at within
    have below' := others.below
    rw [Vbar.write_watermark, Vbar.cut_watermark] at below'
    rw [Vbar.cut_watermark] at reach
    have found' := (Vbar.getElem?_cut_of_lt reach).trans found
    refine ⟨others.limit, by omega, by omega, fun _ => by omega, fun {other} apart => ?_,
      fun {other} low high => ?_⟩
    · rw [others.outside (by omega), Vbar.getElem?_write_of_ne found' (by omega),
        Vbar.getElem?_cut, Option.map_map]
      exact congrArg (Option.map · _) (funext fun page => Page.cut_cut below')
    · by_cases here : other = index
      · subst here
        refine ⟨page, Page.backed page memory, found, ⟨fun resident => ?_, fun _ => ⟨memory, rfl⟩⟩,
          ?_⟩
        · rw [absent] at resident
          cases resident
        · rw [others.outside (by omega), Vbar.getElem?_write_self found', Option.map_some]
      · obtain ⟨page', filled, before, fills, after⟩ := others.inside (by omega) high
        rw [Vbar.getElem?_write_of_ne found' here, Vbar.getElem?_cut_of_lt (by omega)] at before
        exact ⟨page', filled, before, fills, after⟩

end Pages

/-! ## Runs over the range -/

section Runs

variable {σ : Type} [Host σ] {ledger : Ledger σ} {context : Context σ} {regions : List Region}
  {rest : List Holding} {handle : Handle} {own left : Vbar} {start stop reached : Nat}

/-- The absent pages that a fault went through were committed once each, and nothing else was. -/
def CommittedOnce (own : Vbar) (start reached : Nat) (before after : Context σ) : Prop :=
  Granted before.engine.config.vbarPageSize
    ((own.absentPages start (reached - start)).map fun index =>
      own.base + index * before.engine.config.vbarPageSize) before.host after.host

/-- How far a fault has got with the pages of its VBAR, which was `own` and is `left`. Pages in
front of the range that are all resident keep those in the range from being cut. -/
structure Reached (own left : Vbar) (start reached : Nat) (before after : Context σ) : Prop
    extends FilledUpTo own left start reached where
  committed : CommittedOnce own start reached before after
  intact : start ≤ own.watermark → own.absentBelow start = 0 → reached ≤ left.watermark

/-- A fault that was stopped before its first page. -/
theorem Reached.nothing {before after : Context σ} (filled : FilledUpTo own left start start)
    (granted : Granted before.engine.config.vbarPageSize [] before.host after.host)
    (intact : start ≤ own.watermark → own.absentBelow start = 0 → start ≤ left.watermark) :
    Reached own left start start before after := by
  refine ⟨filled, ?_, intact⟩
  unfold CommittedOnce
  rw [Nat.sub_self]
  exact granted

/-- The pages of a VBAR are gone through one after the other. If all of them are backed, the
watermark has not passed any. -/
theorem faultPages_reached {count : Nat} (kept : VbarBooks ledger context regions rest)
    (live : context.engine.vbars.get? handle = some own) :
    Ensures ledger.aborts (faultPages handle stop count start).run context (fun result after =>
      ∃ left reached, after.engine.vbars.get? handle = some left ∧
        Reached own left start reached context after ∧
        match result with
        | .ok _ => reached = start + count ∧ (reached ≤ own.watermark → reached ≤ left.watermark)
        | .error _ => reached < start + count) := by
  induction count generalizing context own start with
  | zero =>
    have consistent := kept.sound.consistent live
    exact ⟨own, start, live, .nothing (.refl consistent) (.refl _) fun inside _ => inside, rfl, id⟩
  | succ count ih =>
    unfold faultPages
    rw [ensures_run_bind]
    apply (faultPage_spec kept).mono
    intro result middle outcome
    obtain ⟨worked, -, kept', first⟩ := outcome
    obtain ⟨-, granted, first⟩ := first own live
    cases result with
    | error cause =>
      cases first with
      | outOfReach unchanged _ =>
        have consistent := kept.sound.consistent live
        exact ⟨own, start, unchanged ▸ live,
          .nothing (.refl consistent) granted fun inside _ => inside, by omega⟩
      | unready _ _ _ unready =>
        obtain ⟨watermark, limit, below, remains, intact⟩ := unready.cut kept.sound live
        exact ⟨own.cut watermark, start, remains,
          .nothing (.of_cut limit below) granted (intact start), by omega⟩
    | ok serial =>
      obtain ⟨between, faulted, -⟩ := first
      obtain ⟨live', passed, lower, below, page, found, resident⟩ :=
        faulted.remains kept.sound live
      have base : between.base = own.base := by
        obtain ⟨vbar, live'', same⟩ := worked.spares handle own live
        rw [live'] at live''
        cases live''
        exact same.base
      dsimp only
      rw [ensures_run_bind]
      apply (ih kept' live').mono
      intro result after outcome
      obtain ⟨left, reached, remains, others, outcome⟩ := outcome
      have filled := others.toFilledUpTo.step faulted kept.sound live
      have ordered := others.ordered
      have within : reached ≤ between.watermark := by
        by_cases more : start + 1 < reached
        · exact others.reach more
        · omega
      obtain ⟨page', found'⟩ : ∃ page', own.pages[start]? = some page' := by
        have inside := (kept.sound.consistent live).watermark_le
        unfold Vbar.nrPages at inside
        exact ⟨_, Array.getElem?_eq_getElem (by omega)⟩
      have committed : CommittedOnce own start reached context after := by
        have same : between.absentPages (start + 1) (reached - (start + 1)) =
            own.absentPages (start + 1) (reached - (start + 1)) :=
          Vbar.absentPages_congr fun index low high =>
            faulted.elsewhere kept.sound live (by omega) (by omega)
        have granted' := others.committed
        unfold CommittedOnce at granted' ⊢
        rw [worked.config, base, same] at granted'
        rw [show reached - start = reached - (start + 1) + 1 by omega,
          Vbar.absentPages_succ found', List.map_append, ← Vbar.absentPages_one found']
        exact granted.trans granted'
      have whole : Reached own left start reached context after := by
        refine ⟨filled, committed, fun _ none => others.intact passed ?_⟩
        have front : between.absentBelow start = own.absentBelow start :=
          Vbar.absentBelow_congr below
        rw [Vbar.absentBelow_succ found, front, none, resident]
        rfl
      cases result with
      | error cause => exact ⟨left, reached, remains, whole, Nat.lt_of_lt_of_le outcome (by omega)⟩
      | ok serials => exact ⟨left, reached, remains, whole, by omega, fun _ => outcome.2 within⟩

/-- The VBAR after a fault that succeeds: every page was gone through, and then pinned. -/
structure Pinned (own left : Vbar) (start stop : Nat) : Prop where
  reach : stop ≤ left.watermark
  inside : ∀ {index : Nat}, start ≤ index → index < stop → ∃ page filled,
    own.pages[index]? = some page ∧ Page.FilledTo page filled ∧
      left.pages[index]? = some (Page.pin filled)

theorem FilledUpTo.pin {pinned : Vbar} (filled : FilledUpTo own left start stop)
    (reach : stop ≤ left.watermark)
    (changed : left.Changed pinned start (stop - start) fun _ page => Page.pin page) :
    Pinned own pinned start stop := by
  refine ⟨by rw [changed.watermark]; exact reach, fun {index} low high => ?_⟩
  obtain ⟨page, after, found, fills, found'⟩ := filled.inside low high
  refine ⟨page, after, found, fills, ?_⟩
  rw [changed.pages, found', Option.map_some, Page.cut_of_lt (by omega), if_pos (by omega)]

/-- All pages are pinned once they were gone through; until then none is. -/
theorem faultAndPin_reached (kept : VbarBooks ledger context regions rest)
    (live : context.engine.vbars.get? handle = some own) (ordered : start ≤ stop)
    (inside : stop ≤ own.watermark) :
    Ensures ledger.aborts (faultAndPin handle start stop).run context (fun result after =>
      ∃ left, after.engine.vbars.get? handle = some left ∧
        match result with
        | .ok _ => Pinned own left start stop ∧ CommittedOnce own start stop context after
        | .error _ => ∃ reached ≤ stop, Reached own left start reached context after) := by
  unfold faultAndPin
  rw [ensures_run_bind]
  apply ((faultPages_reached kept live).and (faultPages_spec kept)).mono
  intro result middle outcome
  obtain ⟨⟨left, reached, remains, filled, outcome⟩, -, -, kept', all⟩ := outcome
  cases result with
  | error cause => exact ⟨left, remains, reached, by omega, filled⟩
  | ok serials =>
    obtain ⟨rfl, reach⟩ := outcome
    obtain ⟨-, -, left', remains', -, backed, -⟩ := all own live
    rw [remains] at remains'
    cases remains'
    obtain ⟨pinned, pinning, -, changed, -⟩ :=
      pinPages_spec (kept'.sound.consistent remains) backed 0
    rw [show start + (stop - start) = stop by omega] at reach filled
    dsimp only
    rw [ensures_run_bind, Attempt.ensures_vbar, remains]
    dsimp only
    rw [ensures_run_bind, ensures_run_lift, ensures_bind, pinning, ensures_ensure_ok,
      ensures_putVbar]
    exact ⟨pinned, PriorityList.get?_set_self remains pinned,
      filled.pin (reach inside) changed, filled.committed⟩

/-- What comes before and after a fault commits nothing. -/
theorem CommittedOnce.within {before middle after final : Context σ}
    (committed : CommittedOnce own start reached middle after)
    (config : middle.engine.config = before.engine.config)
    (started : Granted before.engine.config.vbarPageSize [] before.host middle.host)
    (ended : Granted before.engine.config.vbarPageSize [] after.host final.host) :
    CommittedOnce own start reached before final := by
  unfold CommittedOnce at committed ⊢
  rw [config] at committed
  exact (started.trans committed).before_silent ended

/-- A page map that the host can hold has fewer pages than there are words. -/
theorem nrPages_lt {vbar : Vbar} (held : vbar.Held) : vbar.nrPages < wordLimit - 1 := by
  unfold Vbar.Held hostHolds Vbar.pageEntrySize at held
  have bytes := of_decide_eq_true held
  unfold wordLimit
  omega

/-- The end of a range below the watermark is the end of its last page. -/
theorem faultEnd_of_le {offset size pageSize : Nat} (consistent : own.Consistent)
    (held : own.Held) (reach : faultEnd offset size pageSize ≤ own.watermark) :
    faultEnd offset size pageSize = blocksFor (offset + size) pageSize := by
  by_cases small : offset + size < wordLimit
  · exact faultEnd_eq small pageSize
  · have none : faultEnd offset size pageSize = wordLimit - 1 := by
      unfold faultEnd rangeEnd?
      rw [if_neg small]
    have inside := consistent.watermark_le
    have few := nrPages_lt held
    omega

theorem start_le_stop (offset size pageSize : Nat) :
    offset / pageSize ≤ blocksFor (offset + size) pageSize := by
  have le : offset / pageSize ≤ (offset + size) / pageSize :=
    Nat.div_le_div_right (Nat.le_add_right _ _)
  unfold blocksFor
  omega

/-- A fault goes through the pages from the one its range starts in to the one its range ends in. -/
theorem fault_reached {offset size : Nat} (sound : Sound ledger context)
    (live : context.engine.vbars.get? handle = some own) (held : own.Held)
    (first : start = offset / context.engine.config.vbarPageSize)
    (last : stop = blocksFor (offset + size) context.engine.config.vbarPageSize) :
    Ensures ledger.aborts (fault handle offset size).run context (fun result after =>
      ∃ left, after.engine.vbars.get? handle = some left ∧
        match result with
        | .ok _ => faultEnd offset size context.engine.config.vbarPageSize = stop ∧
            Pinned own left start stop ∧ CommittedOnce own start stop context after
        | .error _ => ∃ reached ≤ stop, Reached own left start reached context after) := by
  have consistent := sound.vbars.consistent live
  have ordered : start ≤ stop := by
    rw [first, last]
    exact start_le_stop _ _ _
  rw [fault_eq, ensures_run_bind, ensures_run_lift, ensures_log]
  dsimp only
  rw [ensures_run_bind, Attempt.ensures_vbar, live]
  dsimp only
  rw [ensures_run_bind, ensures_run_lift, ensures_pageSize]
  dsimp only
  rw [← first]
  unfold faultRange
  split
  · rw [ensures_run_bind, ensures_run_lift, ensures_log]
    exact ⟨own, live, start, ordered, .nothing (.refl consistent)
      ((Granted.log _ _).before_silent (.log _ _)) fun inside _ => inside⟩
  · rename_i reach
    rw [Nat.not_lt] at reach
    have last' := (faultEnd_of_le consistent held reach).trans last.symm
    rw [last'] at reach ⊢
    rw [ensures_run_bind, ensures_run_lift, ensures_allocates]
    dsimp only
    have asked := (sound.log (.faultStarted offset size)).room .serials (stop - start)
    have started : Granted context.engine.config.vbarPageSize [] context.host _ :=
      .log (.faultStarted offset size) context.host
    have silent := started.before_silent (.room .serials (stop - start) _)
    split
    · rw [ensures_run_bind, ensures_run_lift, ensures_bind, ensures_markDirty, ensures_bind]
      have kept := asked.vbarBooks.markDirty
      apply ((faultAndPin_reached kept live ordered reach).and (faultAndPin_spec kept)).mono
      intro result after outcome
      obtain ⟨⟨left, remains, outcome⟩, -, kept', -⟩ := outcome
      rw [ensures_bind]
      apply Eviction.checkVbars_spec kept'.sound
      rw [ensures_bind, ensures_log, ensures_pure]
      cases result with
      | ok serials =>
        exact ⟨left, remains, rfl, outcome.1, outcome.2.within rfl silent (.log _ _)⟩
      | error cause =>
        obtain ⟨reached, within, outcome⟩ := outcome
        exact ⟨left, remains, reached, within, outcome.toFilledUpTo,
          outcome.committed.within rfl silent (.log _ _), outcome.intact⟩
    · exact ⟨own, live, start, ordered, .nothing (.refl consistent) silent fun inside _ => inside⟩

end Runs

/-! ## Faults of pages that are pinned -/

section Again

variable {σ : Type} [Host σ] {ledger : Ledger σ} {context : Context σ} {handle : Handle}
  {own : Vbar} {start stop : Nat} {serials : List UInt32}

/-- Pages that are resident are reported as they are. -/
theorem faultPages_again {aborts : Abort → Prop} {count : Nat}
    (live : context.engine.vbars.get? handle = some own) (reach : start + count ≤ own.watermark)
    (length : serials.length = count) (reported : Reported own start serials) :
    Ensures aborts (faultPages handle stop count start).run context
      (fun result after => result = .ok serials ∧ after = context) := by
  induction count generalizing start serials with
  | zero => exact ⟨by rw [List.eq_nil_of_length_eq_zero length], rfl⟩
  | succ count ih =>
    obtain ⟨serial, others, rfl⟩ := List.exists_of_length_succ serials length
    obtain ⟨page, found, resident, rfl⟩ := reported 0 serial rfl
    rw [Nat.add_zero] at found
    have rest : Reported own (start + 1) others := by
      intro offset serial here
      rw [Nat.add_assoc, Nat.add_comm 1]
      exact reported (offset + 1) serial here
    unfold faultPages faultPage
    rw [ensures_run_bind, ensures_run_bind, Attempt.ensures_vbar, live]
    dsimp only
    rw [if_neg (by omega), ensures_run_bind, ensures_run_lift, Vbar.pageAt_eq_ok found,
      ensures_ensure_ok]
    dsimp only
    rw [if_pos resident, ensures_run_pure]
    dsimp only
    rw [ensures_run_bind]
    apply (ih (by omega) (Nat.succ.inj length) rest).mono
    rintro result after ⟨rfl, rfl⟩
    exact ⟨rfl, rfl⟩

/-- Pinned pages stay as they are. -/
theorem pinPages_again {count : Nat} (pinned : ∀ index, start ≤ index → index < start + count →
      ∃ page, own.pages[index]? = some page ∧ page.pinned = true) :
    pinPages own count start = .ok own := by
  induction count generalizing start with
  | zero => rfl
  | succ count ih =>
    obtain ⟨page, found, pin⟩ := pinned start (Nat.le_refl _) (by omega)
    have page_eq : { page with pinned := true } = page := by rw [← pin]
    have same : own.putPage start page = own := by
      unfold Vbar.putPage
      have pages : own.pages.setIfInBounds start page = own.pages := by
        obtain ⟨inside, rfl⟩ := Array.getElem?_eq_some_iff.mp found
        simp [Array.setIfInBounds, inside]
      rw [pages]
    rw [pinPages, Vbar.pageAt_eq_ok found]
    change pinPages (own.putPage start { page with pinned := true }) count (start + 1) = _
    rw [page_eq, same]
    exact ih fun index low high => pinned index (by omega) (by omega)

/-- A fault of pages that are resident and pinned returns their serials and changes nothing, if there
is memory for the serials. -/
theorem fault_again {offset size : Nat} (sound : Sound ledger context)
    (live : context.engine.vbars.get? handle = some own) (held : own.Held)
    (first : start = offset / context.engine.config.vbarPageSize)
    (last : stop = faultEnd offset size context.engine.config.vbarPageSize)
    (reach : stop ≤ own.watermark) (length : serials.length = stop - start)
    (reported : Reported own start serials)
    (pinned : ∀ index, start ≤ index → index < stop →
      ∃ page, own.pages[index]? = some page ∧ page.pinned = true)
    (granted : (serialsAsked context offset size).1 = true) :
    (fault handle offset size).run context = .ok (.ok serials)
      { engine := { context.engine with dirty := true }
        host := Host.log (.faultReturned none) (serialsAsked context offset size).2 } := by
  have consistent := sound.vbars.consistent live
  have ordered : start ≤ stop := by
    rw [first, last, faultEnd_of_le consistent held (last ▸ reach)]
    exact start_le_stop _ _ _
  have returns : Ensures (fun _ => False) (fault handle offset size).run context
      (fun result after => result = .ok serials ∧ after =
        { engine := { context.engine with dirty := true }
          host := Host.log (.faultReturned none) (serialsAsked context offset size).2 }) := by
    unfold serialsAsked at granted ⊢
    rw [fault_eq, ensures_run_bind, ensures_run_lift, ensures_log]
    dsimp only
    rw [ensures_run_bind, Attempt.ensures_vbar, live]
    dsimp only
    rw [ensures_run_bind, ensures_run_lift, ensures_pageSize]
    dsimp only
    rw [← first, ← last] at granted ⊢
    unfold faultRange faultAndPin
    rw [if_neg (Nat.not_lt.mpr reach), ensures_run_bind, ensures_run_lift, ensures_allocates]
    dsimp only
    rw [granted, if_pos rfl, ensures_run_bind, ensures_run_lift, ensures_bind, ensures_markDirty,
      ensures_bind, ensures_run_bind]
    apply Ensures.mono (faultPages_again (by exact live) (by omega) length reported)
    rintro result after ⟨rfl, rfl⟩
    dsimp only
    rw [ensures_run_bind, Attempt.ensures_vbar]
    dsimp only
    rw [live]
    dsimp only
    rw [ensures_run_bind, ensures_run_lift, ensures_bind,
      pinPages_again fun index low high => pinned index low (by omega), ensures_ensure_ok,
      ensures_putVbar, ensures_run_pure, ensures_bind]
    dsimp only
    rw [PriorityList.set_get?_self live]
    refine Eviction.checkVbars_spec sound.vbars ?_
    rw [ensures_bind, ensures_log, ensures_pure]
    exact ⟨rfl, rfl⟩
  obtain ⟨_, _, ran, rfl, rfl⟩ := returns.exists_ok
  exact ran

end Again

end VramOvercommit.Vbars
