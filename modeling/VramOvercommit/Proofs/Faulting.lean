import VramOvercommit.Engine.Vbars
import VramOvercommit.Proofs.FaultProgress
import VramOvercommit.Proofs.Recording
import VramOvercommit.Proofs.Sound

set_option autoImplicit false

/-!
Faults. A page is backed at the end of a fault or the fault fails, and either way the VBARs stay
consistent although reclaiming may cut the very VBAR that faults.
-/

namespace VramOvercommit.Vbars

open EngineM
open Attempt (lift)

variable {σ : Type} [Host σ] {ledger : Ledger σ} {context : Context σ} {regions : List Region}
  {rest : List Holding} {handle : Handle} {vbar : Vbar} {index stop : Nat} {page : Page}

/-- A page lies within the address range of its VBAR. -/
theorem page_inside (below : index < vbar.nrPages) (pageSize : Nat) :
    vbar.base ≤ vbar.base + index * pageSize ∧
      vbar.base + index * pageSize + pageSize ≤ vbar.base + vbar.nrPages * pageSize := by
  have le : (index + 1) * pageSize ≤ vbar.nrPages * pageSize := Nat.mul_le_mul_right _ below
  rw [Nat.add_one_mul] at le
  omega

/-- One attempt to back a page. -/
theorem commitPage_spec (device : Int) (kept : VbarBooks ledger context regions rest)
    (live : context.engine.vbars.get? handle = some vbar) (below : index < vbar.nrPages) :
    Ensures ledger.aborts (Memory.commit (vbar.base + index * context.engine.config.vbarPageSize)
        context.engine.config.vbarPageSize device) context (fun result after =>
      (SameTables context.engine after.engine ∧
        match result with
        | .ok memory => VbarBooks ledger after regions
            (⟨vbar.base + index * context.engine.config.vbarPageSize,
              context.engine.config.vbarPageSize, memory⟩ :: rest)
        | .error cause => VbarBooks ledger after regions rest ∧
            ledger.refuses cause (vbar.base + index * context.engine.config.vbarPageSize)
              context.engine.config.vbarPageSize
              (vbarHoldings context.engine.vbars context.engine.config.vbarPageSize ++ rest)) ∧
      Granted context.engine.config.vbarPageSize (match result with
        | .ok _ => [vbar.base + index * context.engine.config.vbarPageSize]
        | .error _ => []) context.host after.host) :=
  (kept.commit device kept.allowed kept.positive
    ⟨_, kept.inside live, page_inside below _⟩).also (Memory.commit_granted _ device context)

section Attempts

variable (ledger) (size : Nat) (rest : List Holding) (handle : Handle) (index stop : Nat)
  (vbars : PriorityList Vbar) (own : Vbar)

/-- What is known once a commit of the page failed. -/
def Refused (cause : DriverError) : Prop :=
  ledger.refuses cause (own.base + index * size) size (vbarHoldings vbars size ++ rest)

/-- The device was exhausted, and VBARs were shrunk for the one that faults. -/
structure Squeezed (after : PriorityList Vbar) (left : Vbar) : Prop where
  refused : Refused ledger size rest index vbars own .outOfMemory
  sound : SoundVbars after
  shrunk : Shrunk vbars after
  walked : ∃ freed, Eviction.ShrunkEachUntil vbars after handle vbars.handles.reverse own stop 0
    left freed

/-- Memory for the page is there, at once or after VBARs were shrunk for it. -/
inductive Readied : PriorityList Vbar → Vbar → Prop where
  | atOnce : Readied vbars own
  | squeezed {after : PriorityList Vbar} {left : Vbar}
      (squeezed : Squeezed ledger size rest handle index stop vbars own after left) :
      Readied after left

/-- The ways in which a page that is in reach gets no memory. -/
inductive Unready (after : PriorityList Vbar) : Prop where
  | failed {code : Int} (unchanged : after = vbars)
      (refused : Refused ledger size rest index vbars own (.failed code))
  | cutOff {left : Vbar}
      (squeezed : Squeezed ledger size rest handle index stop vbars own after left)
      (beyond : left.watermark ≤ index)
  | exhausted {left : Vbar} {cause : DriverError}
      (squeezed : Squeezed ledger size rest handle index stop vbars own after left)
      (refused : Refused ledger size rest index after own cause)

end Attempts

section Attempts

variable {size : Nat} {vbars after : PriorityList Vbar} {left : Vbar}

theorem Squeezed.cut (squeezed : Squeezed ledger size rest handle index stop vbars vbar after left)
    (live : vbars.get? handle = some vbar) :
    after.get? handle = some left ∧ ∃ watermark, vbar.watermarkLimit ≤ watermark ∧
      watermark ≤ vbar.watermark ∧ left = vbar.cut watermark := by
  obtain ⟨freed, walked⟩ := squeezed.walked
  obtain ⟨watermark, limit, below, cut⟩ := squeezed.shrunk.cut live
  have remains := walked.remains
  rw [cut] at remains
  cases remains
  exact ⟨walked.remains, watermark, limit, below, rfl⟩

/-- Pages that are all resident are not cut away. -/
theorem Squeezed.intact
    (squeezed : Squeezed ledger size rest handle index stop vbars vbar after left) (below : Nat)
    (inside : below ≤ vbar.watermark) (resident : vbar.absentBelow below = 0) :
    below ≤ left.watermark := by
  obtain ⟨freed, walked⟩ := squeezed.walked
  exact walked.intact below inside (Nat.le_of_eq resident)

theorem Squeezed.progress
    (squeezed : Squeezed ledger size rest handle index stop vbars vbar after left)
    (live : vbars.get? handle = some vbar) : Progress handle stop vbars [] after := by
  obtain ⟨freed, walked⟩ := squeezed.walked
  exact .squeeze live squeezed.sound.linked squeezed.shrunk walked (.done after)

theorem Readied.cut (readied : Readied ledger size rest handle index stop vbars vbar after left)
    (sound : SoundVbars vbars) (live : vbars.get? handle = some vbar) :
    after.get? handle = some left ∧ ∃ watermark, vbar.watermarkLimit ≤ watermark ∧
      watermark ≤ vbar.watermark ∧ left = vbar.cut watermark := by
  cases readied with
  | atOnce =>
    have consistent := sound.consistent live
    exact ⟨live, vbar.watermark, consistent.limit_le, Nat.le_refl _, consistent.cut_self.symm⟩
  | squeezed squeezed => exact squeezed.cut live

/-- What becomes of a VBAR one page of which gets no memory: it may be cut, but not into pages that
are all resident. -/
theorem Unready.cut (unready : Unready ledger size rest handle index stop vbars vbar after)
    (sound : SoundVbars vbars) (live : vbars.get? handle = some vbar) :
    ∃ watermark, vbar.watermarkLimit ≤ watermark ∧ watermark ≤ vbar.watermark ∧
      after.get? handle = some (vbar.cut watermark) ∧
      ∀ stop, stop ≤ vbar.watermark → vbar.absentBelow stop = 0 → stop ≤ watermark := by
  have squeezed_cut : ∀ {left : Vbar},
      Squeezed ledger size rest handle index stop vbars vbar after left →
      ∃ watermark, vbar.watermarkLimit ≤ watermark ∧ watermark ≤ vbar.watermark ∧
        after.get? handle = some (vbar.cut watermark) ∧
        ∀ stop, stop ≤ vbar.watermark → vbar.absentBelow stop = 0 → stop ≤ watermark := by
    intro left squeezed
    obtain ⟨remains, watermark, limit, below, rfl⟩ := squeezed.cut live
    exact ⟨watermark, limit, below, remains, squeezed.intact⟩
  cases unready with
  | failed unchanged _ =>
    have consistent := sound.consistent live
    refine ⟨vbar.watermark, consistent.limit_le, Nat.le_refl _, ?_, fun _ inside _ => inside⟩
    rw [unchanged, consistent.cut_self, live]
  | cutOff squeezed _ => exact squeezed_cut squeezed
  | exhausted squeezed _ => exact squeezed_cut squeezed

end Attempts

/-- Reclaiming for a page that was refused memory. -/
theorem evictForPage_spec {size : Nat} (kept : VbarBooks ledger context regions rest)
    (live : context.engine.vbars.get? handle = some vbar)
    (refused : Refused ledger size rest index context.engine.vbars vbar .outOfMemory) :
    Ensures ledger.aborts (Eviction.evictForVbar handle stop) context (fun _ after =>
      Reclaimed context.engine after.engine ∧ VbarBooks ledger after regions rest ∧
        (∀ pageSize, Granted pageSize [] context.host after.host) ∧
        ∃ watermark, after.engine.vbars.get? handle = some (vbar.cut watermark) ∧
          Squeezed ledger size rest handle index stop context.engine.vbars vbar after.engine.vbars
            (vbar.cut watermark)) := by
  have evicted : Ensures ledger.aborts (Eviction.evictForVbar handle stop) context _ :=
    (Eviction.evictForVbar_spec kept).weaken ledger.stops_aborts
  apply (evicted.also (Eviction.evictForVbar_silent _ _ _)).mono
  intro _ after outcome
  obtain ⟨⟨reclaimed, kept', walked⟩, granted⟩ := outcome
  obtain ⟨left, freed, walked, -⟩ := walked vbar live
  have squeezed : Squeezed ledger size rest handle index stop context.engine.vbars vbar
      after.engine.vbars left := ⟨refused, kept'.sound, reclaimed.vbars, freed, walked⟩
  obtain ⟨remains, watermark, -, -, rfl⟩ := squeezed.cut live
  exact ⟨reclaimed, kept', granted, watermark, remains, squeezed⟩

/-- Either the page got memory and is still in reach, or nothing was added. -/
theorem backPage_spec {device : Int} (kept : VbarBooks ledger context regions rest)
    (live : context.engine.vbars.get? handle = some vbar) (reach : index < vbar.watermark) :
    Ensures ledger.aborts (backPage handle
        (vbar.base + index * context.engine.config.vbarPageSize) index stop device).run context
      (fun result after => Reclaimed context.engine after.engine ∧
        Progress handle stop context.engine.vbars [] after.engine.vbars ∧
        Granted context.engine.config.vbarPageSize (match result with
          | .ok _ => [vbar.base + index * context.engine.config.vbarPageSize]
          | .error _ => []) context.host after.host ∧
        match result with
        | .ok memory =>
            VbarBooks ledger after regions
              (⟨vbar.base + index * context.engine.config.vbarPageSize,
                context.engine.config.vbarPageSize, memory⟩ :: rest) ∧
            ∃ left, Readied ledger context.engine.config.vbarPageSize rest handle index stop
              context.engine.vbars vbar after.engine.vbars left ∧ index < left.watermark
        | .error _ => VbarBooks ledger after regions rest ∧
            Unready ledger context.engine.config.vbarPageSize rest handle index stop
              context.engine.vbars vbar after.engine.vbars) := by
  have within := (kept.sound.consistent live).watermark_le
  have below : index < vbar.nrPages := Nat.lt_of_lt_of_le reach within
  unfold backPage
  rw [ensures_run_bind, ensures_run_lift, ensures_pageSize]
  dsimp only
  rw [ensures_run_bind, ensures_run_lift]
  apply (commitPage_spec _ kept live below).mono
  intro result first outcome
  obtain ⟨⟨tables, outcome⟩, granted⟩ := outcome
  have idle : Progress handle stop context.engine.vbars [] first.engine.vbars := by
    rw [tables.vbars]
    exact .done _
  rcases result with (_ | code) | memory
  · -- one round of reclaiming, and one more attempt
    obtain ⟨kept₁, refused⟩ := outcome
    dsimp only
    rw [ensures_run_bind, ensures_run_lift, ensures_bind, ensures_log]
    rw [← tables.vbars] at refused
    apply (evictForPage_spec (kept₁.log _) (tables.vbars ▸ live) refused).mono
    intro _ second outcome
    obtain ⟨cuts, kept₂, silent, watermark, remains, squeezed⟩ := outcome
    have reclaimed := (kept.sound.reclaimed tables).trans cuts
    dsimp only at squeezed silent
    rw [tables.vbars] at squeezed
    have progress := squeezed.progress live
    have granted := (granted.before_silent (.log _ _)).before_silent (silent _)
    dsimp only
    rw [ensures_run_bind, Attempt.ensures_vbar, remains]
    dsimp only
    split
    · rename_i beyond
      rw [ensures_run_bind, ensures_run_lift, ensures_log, ensures_run_throw]
      exact ⟨reclaimed, progress, granted.before_silent (.log _ _), kept₂.log _,
        .cutOff squeezed beyond⟩
    · rename_i still
      rw [ensures_run_bind, ensures_run_lift]
      have below' : index < (vbar.cut watermark).nrPages := by
        rw [Vbar.cut_nrPages]
        exact below
      have again := commitPage_spec device kept₂ remains below'
      rw [Vbar.cut_base, reclaimed.config] at again
      apply again.mono
      intro result third outcome
      obtain ⟨⟨tables', outcome⟩, granted'⟩ := outcome
      have reclaimed := reclaimed.trans (kept₂.sound.reclaimed tables')
      have granted := granted.trans granted'
      rw [← tables'.vbars] at squeezed progress
      rcases result with (_ | code) | memory
      · dsimp only
        rw [ensures_run_bind, ensures_run_lift, ensures_log, ensures_run_throw]
        exact ⟨reclaimed, progress, granted.before_silent (.log _ _), outcome.1.log _,
          .exhausted squeezed (tables'.vbars ▸ outcome.2)⟩
      · dsimp only
        rw [ensures_run_bind, ensures_run_lift, ensures_log, ensures_run_throw]
        exact ⟨reclaimed, progress, granted.before_silent (.log _ _), outcome.1.log _,
          .exhausted squeezed (tables'.vbars ▸ outcome.2)⟩
      · exact ⟨reclaimed, progress, granted, outcome, _, .squeezed squeezed, Nat.not_le.mp still⟩
  · dsimp only
    rw [ensures_run_bind, ensures_run_lift, ensures_log, ensures_run_throw]
    exact ⟨kept.sound.reclaimed tables, idle, granted.before_silent (.log _ _), outcome.1.log _,
      .failed tables.vbars outcome.2⟩
  · refine ⟨kept.sound.reclaimed tables, idle, granted, outcome, vbar, ?_, reach⟩
    rw [tables.vbars]
    exact .atOnce

theorem putBacked_eq_write (memory : PhysicalHandle)
    (counted : vbar.countResident = vbar.residentCount) (found : vbar.pages[index]? = some page)
    (absent : page.isResident = false) :
    ({ vbar.putPage index (Page.backed page memory) with
      residentCount := (vbar.putPage index (Page.backed page memory)).residentCount + 1 } : Vbar) =
      vbar.write index (Page.backed page memory) := by
  have count := Vbar.countResident_write found (Page.backed page memory)
  have resident : (Page.backed page memory).isResident = true := rfl
  rw [absent, resident, counted] at count
  simp only [Bool.false_eq_true, if_false, if_true, Nat.add_zero] at count
  change { vbar.putPage index (Page.backed page memory) with
    residentCount := vbar.residentCount + 1 } = _
  rw [← count]
  rfl

/-- Storing the memory of a page that was absent takes it out of transit. -/
theorem storePage_spec {memory : PhysicalHandle}
    (live : context.engine.vbars.get? handle = some vbar) (reach : index < vbar.watermark)
    (found : vbar.pages[index]? = some page) (absent : page.isResident = false)
    (kept : VbarBooks ledger context regions
      (⟨vbar.base + index * context.engine.config.vbarPageSize,
        context.engine.config.vbarPageSize, memory⟩ :: rest)) :
    Worked context.engine { context.engine with
        vbars := context.engine.vbars.set handle (vbar.write index (Page.backed page memory)) } ∧
      VbarBooks ledger { context with engine := { context.engine with
        vbars := context.engine.vbars.set handle (vbar.write index (Page.backed page memory)) } }
        regions rest := by
  have consistent := kept.sound.consistent live
  obtain ⟨others, books, put⟩ := kept.open live
  obtain ⟨left, before, after⟩ := Vbar.perm_holdings found context.engine.config.vbarPageSize
  have here : (Page.backed page memory).holdings (vbar.base + index *
      context.engine.config.vbarPageSize) context.engine.config.vbarPageSize =
        [⟨vbar.base + index * context.engine.config.vbarPageSize,
          context.engine.config.vbarPageSize, memory⟩] := rfl
  have stored := after (Page.backed page memory)
  rw [here, List.singleton_append] at stored
  rw [Page.holdings_of_absent absent, List.nil_append] at before
  refine ⟨⟨⟨rfl, rfl, rfl⟩, rfl, kept.sound.linked.handles_set, .set live (.write found ?_)⟩,
    put (.refl _) (books.perm (.refl _) ?_) (consistent.write found (fun _ => rfl) ?_) ?_⟩
  · intro resident
    rw [absent] at resident
    cases resident
  · refine (before.append_right _).trans (List.Perm.trans ?_ (stored.symm.append_right _))
    rw [List.cons_append, ← List.append_assoc, ← List.append_assoc]
    exact List.perm_middle
  · intro above
    omega
  · rw [Vbar.region, Vbar.write_nrPages]
    rfl

/-! ## How far a fault gets -/

/-- A fault of pages of the VBAR at `base` has got from one context to another. Each of its commits
is on record, under the address of the page. -/
def Advanced (handle : Handle) (stop base : Nat) (before after : Context σ) : Prop :=
  ∃ commits, Progress handle stop before.engine.vbars commits after.engine.vbars ∧
    Granted before.engine.config.vbarPageSize
      (commits.map fun index => base + index * before.engine.config.vbarPageSize)
      before.host after.host

section Advanced

variable {base : Nat} {before middle after : Context σ}

/-- A step that neither changes the table nor grants access. -/
theorem Advanced.idle (vbars : after.engine.vbars = before.engine.vbars)
    (granted : Granted before.engine.config.vbarPageSize [] before.host after.host) :
    Advanced handle stop base before after := by
  refine ⟨[], ?_, granted⟩
  rw [vbars]
  exact .done _

theorem Advanced.refl (context : Context σ) : Advanced handle stop base context context :=
  .idle rfl (.refl _)

theorem Advanced.trans (first : Advanced handle stop base before middle)
    (second : Advanced handle stop base middle after)
    (config : middle.engine.config = before.engine.config) :
    Advanced handle stop base before after := by
  obtain ⟨commits, progress, granted⟩ := first
  obtain ⟨commits', progress', granted'⟩ := second
  rw [config] at granted'
  refine ⟨commits ++ commits', progress.trans progress', ?_⟩
  rw [List.map_append]
  exact granted.trans granted'

end Advanced

/-- These are the serials of the pages from `start` on, all of them resident. -/
def Reported (vbar : Vbar) (start : Nat) (serials : List UInt32) : Prop :=
  ∀ (offset : Nat) (serial : UInt32), serials[offset]? = some serial →
    ∃ page, vbar.pages[start + offset]? = some page ∧ page.isResident = true ∧
      page.serial = serial

section Outcomes

variable (ledger) (size : Nat) (rest : List Holding) (handle : Handle) (index stop : Nat)
  (vbars : PriorityList Vbar) (own : Vbar)

/-- The ways in which a fault of one page succeeds. -/
inductive PageFaulted : PriorityList Vbar → Vbar → Prop where
  | resident {page : Page} (found : own.pages[index]? = some page)
      (resident : page.isResident = true) (reach : index < own.watermark) : PageFaulted vbars own
  | backed {between : PriorityList Vbar} {left : Vbar} {page : Page} (memory : PhysicalHandle)
      (found : own.pages[index]? = some page) (absent : page.isResident = false)
      (readied : Readied ledger size rest handle index stop vbars own between left)
      (reach : index < left.watermark) :
      PageFaulted (between.set handle (left.write index (Page.backed page memory)))
        (left.write index (Page.backed page memory))

/-- The ways in which it fails. -/
inductive PageLost (after : PriorityList Vbar) : Prop where
  | outOfReach (unchanged : after = vbars) (beyond : own.watermark ≤ index)
  | unready {page : Page} (found : own.pages[index]? = some page)
      (absent : page.isResident = false) (reach : index < own.watermark)
      (unready : Unready ledger size rest handle index stop vbars own after)

end Outcomes

section Outcomes

variable {size : Nat} {vbars after : PriorityList Vbar} {left : Vbar}

/-- After a fault the page is resident and still in reach, and those below it are as before. -/
theorem PageFaulted.remains
    (faulted : PageFaulted ledger size rest handle index stop vbars vbar after left)
    (sound : SoundVbars vbars) (live : vbars.get? handle = some vbar) :
    after.get? handle = some left ∧ index < left.watermark ∧ left.watermark ≤ vbar.watermark ∧
      (∀ other < index, left.pages[other]? = vbar.pages[other]?) ∧
      ∃ page, left.pages[index]? = some page ∧ page.isResident = true := by
  cases faulted with
  | resident found resident reach =>
    exact ⟨live, reach, Nat.le_refl _, fun _ _ => rfl, _, found, resident⟩
  | @backed between left page memory found absent readied reach =>
    obtain ⟨remains, watermark, -, below, rfl⟩ := readied.cut sound live
    rw [Vbar.cut_watermark] at reach
    have found' := (Vbar.getElem?_cut_of_lt reach).trans found
    refine ⟨PriorityList.get?_set_self remains _, reach, below, fun other less => ?_,
      Page.backed page memory, ?_, rfl⟩
    · rw [Vbar.getElem?_write_of_ne found' (by omega), Vbar.getElem?_cut_of_lt (by omega)]
    · exact Vbar.getElem?_write_self found' _

theorem Reported.singleton (found : vbar.pages[index]? = some page)
    (resident : page.isResident = true) : Reported vbar index [page.serial] := by
  intro offset serial reported
  cases offset with
  | zero => exact ⟨page, found, resident, Option.some.inj reported⟩
  | succ offset => cases reported

/-- The first page before the others. -/
theorem Reported.cons {serial : UInt32} {serials : List UInt32}
    (first : Reported vbar index [serial]) (others : Reported vbar (index + 1) serials) :
    Reported vbar index (serial :: serials) := by
  intro offset serial' reported
  cases offset with
  | zero => exact first 0 serial' reported
  | succ offset =>
    have other := others offset serial' reported
    rwa [Nat.add_assoc, Nat.add_comm 1] at other

/-- A report holds for as long as the pages are the same but for their pins. -/
theorem Reported.congr {left : Vbar} {serials : List UInt32}
    (reported : Reported vbar index serials)
    (same : ∀ (offset : Nat) (page : Page), offset < serials.length →
      vbar.pages[index + offset]? = some page → ∃ page', left.pages[index + offset]? = some page' ∧
        page'.isResident = page.isResident ∧ page'.serial = page.serial) :
    Reported left index serials := by
  intro offset serial found
  obtain ⟨page, here, resident, rfl⟩ := reported offset serial found
  obtain ⟨page', here', resident', serial'⟩ :=
    same offset page (List.getElem?_eq_some_iff.mp found).1 here
  exact ⟨page', here', resident'.trans resident, serial'⟩

/-- A fault of one page. -/
theorem faultPage_spec (kept : VbarBooks ledger context regions rest) :
    Ensures ledger.aborts (faultPage handle index stop).run context (fun result after =>
      Worked context.engine after.engine ∧
        KeptOutside context.engine.vbars after.engine.vbars
          (fun other page => other = handle ∧ page = index) ∧
        VbarBooks ledger after regions rest ∧
        ∀ own, context.engine.vbars.get? handle = some own →
          Advanced handle stop own.base context after ∧
          Granted context.engine.config.vbarPageSize ((match result with
            | .ok _ => own.absentPages index 1
            | .error _ => []).map fun page =>
              own.base + page * context.engine.config.vbarPageSize) context.host after.host ∧
          match result with
          | .ok serial => ∃ left, PageFaulted ledger context.engine.config.vbarPageSize rest handle
              index stop context.engine.vbars own after.engine.vbars left ∧
              Reported left index [serial]
          | .error _ => PageLost ledger context.engine.config.vbarPageSize rest handle index stop
              context.engine.vbars own after.engine.vbars) := by
  unfold faultPage
  rw [ensures_run_bind, Attempt.ensures_vbar]
  cases live : context.engine.vbars.get? handle with
  | none => exact ⟨.refl _, .refl _, kept, fun own found => nomatch found⟩
  | some vbar =>
    dsimp only
    split
    · rename_i beyond
      refine ⟨.refl _, .refl _, kept, ?_⟩
      rintro own ⟨⟩
      exact ⟨.refl _, .refl _, .outOfReach rfl beyond⟩
    · rename_i reach
      have within := (kept.sound.consistent live).watermark_le
      have below : index < vbar.pages.size := by
        unfold Vbar.nrPages at within
        omega
      have found : vbar.pages[index]? = some vbar.pages[index] := Array.getElem?_eq_getElem below
      rw [ensures_run_bind, ensures_run_lift, Vbar.pageAt_eq_ok found, ensures_ensure_ok]
      dsimp only
      cases resident : vbar.pages[index].isResident with
      | true =>
        rw [if_pos rfl]
        refine ⟨.refl _, .refl _, kept, ?_⟩
        rintro own ⟨⟩
        rw [Vbar.absentPages_one found, resident]
        exact ⟨.refl _, .refl _, vbar, .resident found resident (by omega),
          .singleton found resident⟩
      | false =>
        rw [if_neg Bool.false_ne_true, ensures_run_bind, ensures_run_lift, ensures_pageSize]
        dsimp only
        rw [ensures_run_bind, ensures_run_lift]
        refine Ensures.weaken ?_ ledger.stops_aborts
        apply Eviction.pageAddress_eq_ok kept.books (kept.inside live) kept.positive found
        dsimp only
        rw [ensures_run_bind]
        apply (backPage_spec kept live (by omega)).mono
        intro result middle outcome
        obtain ⟨reclaimed, progress, granted, outcome⟩ := outcome
        cases result with
        | error cause =>
          refine ⟨reclaimed.worked, reclaimed.vbars.keptOutside, outcome.1, ?_⟩
          rintro own ⟨⟩
          exact ⟨⟨[], progress, granted⟩, granted, .unready found resident (by omega) outcome.2⟩
        | ok memory =>
          obtain ⟨kept', left, readied, reach'⟩ := outcome
          obtain ⟨remains, watermark, -, -, rfl⟩ := readied.cut kept.sound live
          have faulted := PageFaulted.backed memory found resident readied reach'
          rw [Vbar.cut_watermark] at reach'
          have found' := (Vbar.getElem?_cut_of_lt reach').trans found
          have stored := putBacked_eq_write memory (kept'.sound.consistent remains).counted found'
            resident
          obtain ⟨worked, kept''⟩ := storePage_spec remains reach' found' resident
            (by rw [Vbar.cut_base, reclaimed.config]; exact kept')
          dsimp only
          rw [ensures_run_bind, Attempt.ensures_vbar, remains]
          dsimp only
          rw [ensures_run_lift, ensures_bind, Vbar.pageAt_eq_ok found', ensures_ensure_ok]
          dsimp only
          rw [ensures_bind, ensures_putVbar, ensures_pure]
          unfold Page.backed at stored
          rw [stored]
          refine ⟨reclaimed.worked.trans worked, reclaimed.vbars.keptOutside.trans
            (.set remains (.write found' _ ⟨rfl, rfl⟩)), kept'', ?_⟩
          rintro own ⟨⟩
          rw [Vbar.absentPages_one found, resident]
          exact ⟨⟨[index], progress.trans (.back memory remains found' (.done _)), granted⟩,
            granted, _, faulted, .singleton (Vbar.getElem?_write_self found' _) rfl⟩

end Outcomes

/-- A fault of several pages. If it succeeds, all of them are resident at the end, and there is a
serial for each. -/
theorem faultPages_spec {count : Nat} (kept : VbarBooks ledger context regions rest) :
    Ensures ledger.aborts (faultPages handle stop count index).run context (fun result after =>
      Worked context.engine after.engine ∧
        KeptOutside context.engine.vbars after.engine.vbars
          (fun other page => other = handle ∧ index ≤ page ∧ page < index + count) ∧
        VbarBooks ledger after regions rest ∧
        ∀ vbar, context.engine.vbars.get? handle = some vbar →
          Advanced handle stop vbar.base context after ∧
          match result with
          | .ok serials => serials.length = count ∧ ∃ left,
              after.engine.vbars.get? handle = some left ∧
              (∀ other < index, left.pages[other]? = vbar.pages[other]?) ∧
              (∀ other, index ≤ other → other < index + count →
                ∃ page, left.pages[other]? = some page ∧ page.isResident = true) ∧
              Reported left index serials
          | .error _ => True) := by
  induction count generalizing context index with
  | zero =>
    exact ⟨.refl _, .refl _, kept, fun vbar live => ⟨.refl _, rfl, vbar, live, fun _ _ => rfl,
      fun _ _ _ => by omega, fun _ _ reported => nomatch reported⟩⟩
  | succ count ih =>
    unfold faultPages
    rw [ensures_run_bind]
    apply (faultPage_spec kept).mono
    intro result middle outcome
    obtain ⟨worked, outside, kept', first⟩ := outcome
    have outside := outside.mono fun other page (here : other = handle ∧ page = index) =>
      (⟨here.1, by omega, by omega⟩ : other = handle ∧ index ≤ page ∧ page < index + (count + 1))
    cases result with
    | error cause => exact ⟨worked, outside, kept', fun vbar live => ⟨(first vbar live).1, trivial⟩⟩
    | ok serial =>
      dsimp only
      rw [ensures_run_bind]
      apply (ih kept').mono
      intro result after outcome
      obtain ⟨worked', outside', kept'', others⟩ := outcome
      have outside := outside.trans (outside'.mono fun other page here =>
        ⟨here.1, by omega, by omega⟩)
      have advanced : ∀ vbar, context.engine.vbars.get? handle = some vbar →
          Advanced handle stop vbar.base context after := by
        intro vbar live
        obtain ⟨vbar', live', same⟩ := worked.spares handle vbar live
        have further := (others vbar' live').1
        rw [same.base] at further
        exact (first vbar live).1.trans further worked.config
      cases result with
      | error cause =>
        exact ⟨worked.trans worked', outside, kept'', fun vbar live =>
          ⟨advanced vbar live, trivial⟩⟩
      | ok serials =>
        refine ⟨worked.trans worked', outside, kept'', fun vbar live => ⟨advanced vbar live, ?_⟩⟩
        obtain ⟨-, -, vbar', faulted, reported⟩ := first vbar live
        obtain ⟨live', -, -, same, page, found, resident⟩ := faulted.remains kept.sound live
        obtain ⟨-, length, left, remains, same', all, reported'⟩ := others vbar' live'
        have here : Reported left index [serial] := by
          refine reported.congr fun offset page within found => ?_
          rw [List.length_singleton, Nat.lt_one_iff] at within
          subst within
          exact ⟨page, by rw [same' _ (by omega), found], rfl, rfl⟩
        refine ⟨congrArg Nat.succ length, left, remains, fun other less => ?_,
          fun other low high => ?_, here.cons reported'⟩
        · rw [same' other (by omega), same other less]
        · by_cases here : other = index
          · subst here
            exact ⟨page, by rw [same' other (by omega), found], resident⟩
          · exact all other (by omega) (by omega)

/-- A fault of pages that the watermark has passed fails. -/
theorem faultPages_beyond {count : Nat} (kept : VbarBooks ledger context regions rest)
    (live : context.engine.vbars.get? handle = some vbar) (inside : index ≤ vbar.watermark)
    (beyond : vbar.watermark < index + count) :
    Ensures ledger.aborts (faultPages handle stop count index).run context
      (fun result _ => result.isOk = false) := by
  induction count generalizing context index vbar with
  | zero => omega
  | succ count ih =>
    unfold faultPages
    rw [ensures_run_bind]
    apply (faultPage_spec kept).mono
    intro result middle outcome
    obtain ⟨-, -, kept', first⟩ := outcome
    cases result with
    | error cause => exact rfl
    | ok serial =>
      obtain ⟨-, -, left, faulted, -⟩ := first vbar live
      obtain ⟨live', reach, below, -⟩ := faulted.remains kept.sound live
      dsimp only
      rw [ensures_run_bind]
      apply (ih kept' live' reach (by omega)).mono
      intro result after failed
      cases result with
      | error cause => exact rfl
      | ok serials => cases failed

/-! ## Pinning -/

/-- Pinning goes through the pages of the range. The memory behind them stays the same. -/
theorem pinPages_spec {count start : Nat} (consistent : vbar.Consistent)
    (backed : ∀ other, start ≤ other → other < start + count →
      ∃ page, vbar.pages[other]? = some page ∧ page.isResident = true) (pageSize : Nat) :
    ∃ after, pinPages vbar count start = .ok after ∧ after.Consistent ∧
      vbar.Changed after start count (fun _ page => Page.pin page) ∧
      (after.holdings pageSize).Perm (vbar.holdings pageSize) := by
  induction count generalizing vbar start with
  | zero => exact ⟨vbar, rfl, consistent, .zero consistent.counted, .refl _⟩
  | succ count ih =>
    obtain ⟨page, found, resident⟩ := backed start (Nat.le_refl _) (by omega)
    have written : vbar.putPage start { page with pinned := true } =
        vbar.write start (Page.pin page) :=
      Vbar.putPage_eq_write consistent.counted found rfl
    obtain ⟨left, before, put⟩ := Vbar.perm_holdings found pageSize
    have written_consistent : (vbar.write start (Page.pin page)).Consistent :=
      consistent.write found (fun _ => resident) fun _ _ => rfl
    have others : ∀ other, start + 1 ≤ other → other < start + 1 + count →
        ∃ page', (vbar.write start (Page.pin page)).pages[other]? = some page' ∧
          page'.isResident = true := by
      intro other low high
      obtain ⟨page', found', resident'⟩ := backed other (by omega) (by omega)
      exact ⟨page', by rw [Vbar.getElem?_write_of_ne found (by omega), found'], resident'⟩
    obtain ⟨after, ran, consistent', changed, same⟩ := ih written_consistent others
    refine ⟨after, ?_, consistent', .step found changed,
      same.trans ((put (Page.pin page)).trans before.symm)⟩
    rw [pinPages, Vbar.pageAt_eq_ok found]
    change pinPages (vbar.putPage start { page with pinned := true }) count (start + 1) = _
    rw [written, ran]

section Pinned

variable {pinned : Vbar} {start count : Nat}

theorem Reported.pin {first : Nat} {serials : List UInt32} (reported : Reported vbar first serials)
    (changed : vbar.Changed pinned start count fun _ page => Page.pin page) :
    Reported pinned first serials := by
  refine reported.congr fun offset page _ found => ?_
  rw [changed.pages, found, Option.map_some]
  refine ⟨_, rfl, ?_⟩
  split <;> exact ⟨rfl, rfl⟩

/-- The pages that pinning went through are pinned. -/
theorem pinned_of_changed (changed : vbar.Changed pinned start count fun _ page => Page.pin page)
    (found : pinned.pages[index]? = some page) (low : start ≤ index)
    (high : index < start + count) : page.pinned = true := by
  rw [changed.pages] at found
  obtain ⟨old, -, rfl⟩ := Option.map_eq_some_iff.mp found
  rw [if_pos ⟨low, high⟩]
  rfl

end Pinned

/-- What a fault of the pages from `start` to `stop` did, wherever it ended. If it succeeds it
reports one serial for each page, the one the page has at the end, and all of them are pinned. -/
structure Faulted (handle : Handle) (start stop : Nat) (context after : Context σ)
    (result : Except Error (List UInt32)) : Prop where
  worked : Worked context.engine after.engine
  advanced : ∀ own, context.engine.vbars.get? handle = some own →
    Advanced handle stop own.base context after
  outside : KeptOutside context.engine.vbars after.engine.vbars
    (fun other page => other = handle ∧ start ≤ page ∧ page < stop)
  reported : ∀ serials, result = .ok serials →
    ∃ left, after.engine.vbars.get? handle = some left ∧ Reported left start serials
  counted : ∀ serials, result = .ok serials → serials.length = stop - start
  pinned : result.isOk = true → ∀ left, after.engine.vbars.get? handle = some left →
    ∀ (index : Nat) (page : Page), left.pages[index]? = some page → start ≤ index → index < stop →
      page.pinned = true

theorem Faulted.failed {start : Nat} {after : Context σ} {cause : Error}
    (worked : Worked context.engine after.engine)
    (advanced : ∀ own, context.engine.vbars.get? handle = some own →
      Advanced handle stop own.base context after)
    (outside : KeptOutside context.engine.vbars after.engine.vbars
      (fun other page => other = handle ∧ start ≤ page ∧ page < stop)) :
    Faulted handle start stop context after (.error cause) :=
  ⟨worked, advanced, outside, nofun, nofun, nofun⟩

/-- All pages are pinned if all of them were backed. -/
theorem faultAndPin_spec {start : Nat} (kept : VbarBooks ledger context regions rest) :
    Ensures ledger.aborts (faultAndPin handle start stop).run context (fun result after =>
      Faulted handle start stop context after result ∧ VbarBooks ledger after regions rest ∧
        ∀ own, context.engine.vbars.get? handle = some own → ∃ backed middle,
          (faultPages handle stop (stop - start) start).run context = .ok backed middle ∧
            result.isOk = backed.isOk) := by
  unfold faultAndPin
  rw [ensures_run_bind]
  apply (faultPages_spec kept).result.mono
  intro result middle outcome
  obtain ⟨ran, worked, outside, kept', outcome⟩ := outcome
  have outside := outside.mono fun other page here =>
    (⟨here.1, here.2.1, by omega⟩ : other = handle ∧ start ≤ page ∧ page < stop)
  cases result with
  | error cause =>
    exact ⟨.failed worked (fun own live => (outcome own live).1) outside, kept',
      fun own _ => ⟨_, _, ran, rfl⟩⟩
  | ok serials =>
    dsimp only
    rw [ensures_run_bind, Attempt.ensures_vbar]
    cases live : middle.engine.vbars.get? handle with
    | none =>
      have stale : ∀ own, context.engine.vbars.get? handle ≠ some own := by
        intro own live'
        obtain ⟨-, -, left, remains, -⟩ := outcome own live'
        rw [live] at remains
        cases remains
      exact ⟨.failed worked (fun own live' => absurd live' (stale own)) outside, kept',
        fun own live' => absurd live' (stale own)⟩
    | some vbar =>
      -- the VBAR was live at the start, as no fault brings one back
      have before : ∃ vbar, context.engine.vbars.get? handle = some vbar := by
        rw [← kept.sound.linked.mem_handles, ← worked.handles, kept'.sound.linked.mem_handles]
        exact ⟨vbar, live⟩
      obtain ⟨old, live'⟩ := before
      obtain ⟨advanced, length, left, remains, -, backed, reported⟩ := outcome old live'
      rw [live] at remains
      cases remains
      obtain ⟨pinned, pinning, consistent, changed, same⟩ := pinPages_spec
        (kept'.sound.consistent live) backed middle.engine.config.vbarPageSize
      obtain ⟨others, books, put⟩ := kept'.open live
      have spares : vbar.Spares pinned := changed.spares fun _ _ _ => ⟨rfl, rfl, fun _ => rfl⟩
      dsimp only
      rw [ensures_run_bind, ensures_run_lift, ensures_bind, pinning, ensures_ensure_ok,
        ensures_putVbar]
      refine ⟨⟨worked.trans ⟨⟨rfl, rfl, rfl⟩, rfl, kept'.sound.linked.handles_set,
        .set live spares⟩, fun own live'' => ?_,
        outside.trans (.set live (changed.keepsOutside ?_)), ?_, ?_, ?_⟩,
        put (.refl _) (books.perm (.refl _) ?_) consistent ?_,
        fun own _ => ⟨_, _, ran, rfl⟩⟩
      · rw [live'] at live''
        cases live''
        exact advanced.trans ⟨[], .pin live changed (.done _), .refl _⟩ worked.config
      · exact fun index low high => ⟨rfl, low, by omega⟩
      · rintro serials ⟨⟩
        exact ⟨pinned, PriorityList.get?_set_self live pinned, reported.pin changed⟩
      · rintro serials ⟨⟩
        exact length
      · intro _ left' remains' index page found low high
        change (middle.engine.vbars.set handle pinned).get? handle = some left' at remains'
        rw [PriorityList.get?_set_self live pinned] at remains'
        cases remains'
        exact pinned_of_changed changed found low (by omega)
      · exact (same.append_right _).symm
      · rw [Vbar.region, changed.base, changed.nrPages]
        rfl

/-- The first page after a range; one that ends beyond the words lies beyond every VBAR. -/
def faultEnd (offset size pageSize : Nat) : Nat :=
  match rangeEnd? offset size with
  | some stop => blocksFor stop pageSize
  | none => wordLimit - 1

theorem faultEnd_eq {offset size : Nat} (small : offset + size < wordLimit) (pageSize : Nat) :
    faultEnd offset size pageSize = blocksFor (offset + size) pageSize := by
  unfold faultEnd rangeEnd?
  rw [if_pos small]

/-- A fault of the pages from `start` to `stop`, of a VBAR with the given watermark. -/
def faultRange (handle : Handle) (watermark start stop : Nat) : Attempt σ (List UInt32) := do
  if watermark < stop then
    lift (log .faultAboveWatermark)
    throw .outOfMemory
  else if ← lift (allocates .serials (stop - start)) then
    let result ← lift do
      markDirty
      let result ← (faultAndPin handle start stop).run
      checkVbars
      log (.faultReturned (match result with | .ok _ => none | .error cause => some cause))
      return result
    match result with
    | .ok serials => return serials
    | .error cause => throw cause
  else throw .hostOutOfMemory

theorem fault_eq (handle : Handle) (offset size : Nat) :
    (fault handle offset size : Attempt σ (List UInt32)) = (do
      lift (log (.faultStarted offset size))
      let vbar ← Attempt.vbar handle
      let pageSize ← lift pageSize
      faultRange handle vbar.watermark (offset / pageSize) (faultEnd offset size pageSize)) :=
  rfl

/-- What comes before and after a fault changes no VBAR and grants nothing. -/
theorem Faulted.within {start : Nat} {before middle after final : Context σ}
    {result : Except Error (List UInt32)} (faulted : Faulted handle start stop middle after result)
    (worked : Worked before.engine middle.engine)
    (vbars : middle.engine.vbars = before.engine.vbars)
    (granted : Granted before.engine.config.vbarPageSize [] before.host middle.host)
    (engine : final.engine = after.engine)
    (granted' : Granted before.engine.config.vbarPageSize [] after.host final.host) :
    Faulted handle start stop before final result := by
  refine ⟨?_, fun own live => ?_, ?_, fun serials ok => ?_, faulted.counted, ?_⟩
  · rw [engine]
    exact worked.trans faulted.worked
  · rw [← vbars] at live
    have config : after.engine.config = before.engine.config :=
      faulted.worked.config.trans worked.config
    have started : Advanced handle stop own.base before middle := .idle vbars granted
    have ended : Advanced handle stop own.base after final := by
      refine .idle (by rw [engine]) ?_
      rw [config]
      exact granted'
    exact (started.trans (faulted.advanced own live) worked.config).trans ended config
  · rw [engine, ← vbars]
    exact faulted.outside
  · rw [engine]
    exact faulted.reported serials ok
  · rw [engine]
    exact faulted.pinned

theorem faultRange_spec {watermark start : Nat} (sound : Sound ledger context) :
    Ensures ledger.aborts (faultRange handle watermark start stop).run context (fun result after =>
      Sound ledger after ∧ Faulted handle start stop context after result ∧
        ∀ own, context.engine.vbars.get? handle = some own → stop ≤ watermark →
          (Host.room .serials (stop - start) context.host).1 = true → ∃ backed middle,
            (faultPages handle stop (stop - start) start).run
              { engine := { context.engine with dirty := true }
                host := (Host.room .serials (stop - start) context.host).2 } =
              .ok backed middle ∧ result.isOk = backed.isOk) := by
  unfold faultRange
  split
  · rw [ensures_run_bind, ensures_run_lift, ensures_log]
    exact ⟨sound.log _,
      .failed (.refl _) (fun own _ => .idle rfl (.log _ _)) (.refl _),
      fun own _ reach => absurd reach (by omega)⟩
  rw [ensures_run_bind, ensures_run_lift, ensures_allocates]
  dsimp only
  have asked := sound.room .serials (stop - start)
  split
  · rw [ensures_run_bind, ensures_run_lift, ensures_bind, ensures_markDirty, ensures_bind]
    apply (faultAndPin_spec asked.vbarBooks.markDirty).mono
    intro result after outcome
    obtain ⟨faulted, kept, backed⟩ := outcome
    rw [ensures_bind]
    apply Eviction.checkVbars_spec kept.sound
    rw [ensures_bind, ensures_log, ensures_pure]
    have whole : ∀ notice, Faulted handle start stop context
        { after with host := Host.log notice after.host } result := fun notice =>
      faulted.within ⟨⟨rfl, rfl, rfl⟩, rfl, rfl, .refl _⟩ rfl (.room _ _ _) rfl (.log _ _)
    have worked : Worked context.engine after.engine := (whole (.faultReturned none)).worked
    have done := sound.worked worked kept
    cases result with
    | ok serials => exact ⟨done.log _, whole _, fun own live _ _ => backed own live⟩
    | error cause => exact ⟨done.log _, whole _, fun own live _ _ => backed own live⟩
  · rename_i refused
    exact ⟨asked, .failed (.refl _) (fun own _ => .idle rfl (.room _ _ _)) (.refl _),
      fun own _ _ granted => absurd granted refused⟩

/-- What the host answers when it is asked for memory for the serials of a fault. -/
def serialsAsked (context : Context σ) (offset size : Nat) : Bool × σ :=
  Host.room .serials
    (faultEnd offset size context.engine.config.vbarPageSize -
      offset / context.engine.config.vbarPageSize)
    (Host.log (.faultStarted offset size) context.host)

/-- The context in which the pages of a fault are gone through. -/
def faultStarted (context : Context σ) (offset size : Nat) : Context σ where
  engine := { context.engine with dirty := true }
  host := (serialsAsked context offset size).2

/-- A fault under a stale handle changes nothing. -/
theorem fault_stale {aborts : Abort → Prop} {offset size : Nat}
    (stale : context.engine.vbars.get? handle = none) :
    Ensures aborts (fault handle offset size).run context
      (fun _ after => after.engine = context.engine) := by
  rw [fault_eq, ensures_run_bind, ensures_run_lift, ensures_log]
  dsimp only
  rw [ensures_run_bind, Attempt.ensures_vbar, stale]

/-- A fault within reach is refused, with no effect, if there is no memory for its serials. -/
theorem fault_unserialed {own : Vbar} {offset size : Nat}
    (live : context.engine.vbars.get? handle = some own)
    (reach : faultEnd offset size context.engine.config.vbarPageSize ≤ own.watermark)
    (refused : (serialsAsked context offset size).1 = false) :
    (fault handle offset size).run context = .ok (.error .hostOutOfMemory)
      { context with host := (serialsAsked context offset size).2 } := by
  have returns : Ensures (fun _ => False) (fault handle offset size).run context
      (fun result after => result = .error .hostOutOfMemory ∧ after =
        { context with host := (serialsAsked context offset size).2 }) := by
    unfold serialsAsked at refused ⊢
    rw [fault_eq, ensures_run_bind, ensures_run_lift, ensures_log]
    dsimp only
    rw [ensures_run_bind, Attempt.ensures_vbar, live]
    dsimp only
    rw [ensures_run_bind, ensures_run_lift, ensures_pageSize]
    dsimp only
    unfold faultRange
    rw [if_neg (Nat.not_lt.mpr reach), ensures_run_bind, ensures_run_lift, ensures_allocates]
    dsimp only
    rw [refused]
    exact ⟨rfl, rfl⟩
  obtain ⟨_, _, ran, rfl, rfl⟩ := returns.exists_ok
  exact ran

/-- A fault of a range below the watermark succeeds if there is memory for its serials and all of its
pages can be backed. -/
theorem fault_spec {offset size : Nat} (sound : Sound ledger context) :
    Ensures ledger.aborts (fault handle offset size).run context (fun result after =>
      Sound ledger after ∧
        Faulted handle (offset / context.engine.config.vbarPageSize)
          (faultEnd offset size context.engine.config.vbarPageSize) context after result ∧
        ∀ own, context.engine.vbars.get? handle = some own →
          ∀ start, start = offset / context.engine.config.vbarPageSize →
          ∀ stop, stop = faultEnd offset size context.engine.config.vbarPageSize →
          stop ≤ own.watermark → (serialsAsked context offset size).1 = true → ∃ backed middle,
            (faultPages handle stop (stop - start) start).run
                (faultStarted context offset size) = .ok backed middle ∧
              result.isOk = backed.isOk) := by
  rw [fault_eq, ensures_run_bind, ensures_run_lift, ensures_log]
  dsimp only
  rw [ensures_run_bind, Attempt.ensures_vbar]
  cases live : context.engine.vbars.get? handle with
  | none =>
    refine ⟨sound.log _, .failed (.refl _) (fun own found => ?_) (.refl _),
      fun own found => nomatch found⟩
    rw [live] at found
    cases found
  | some vbar =>
    dsimp only
    rw [ensures_run_bind, ensures_run_lift, ensures_pageSize]
    apply (faultRange_spec (sound.log _)).mono
    intro result after outcome
    obtain ⟨done, faulted, backed⟩ := outcome
    refine ⟨done, faulted.within (.refl _) rfl (.log _ _) rfl (.refl _), ?_⟩
    rintro own ⟨⟩ start rfl stop rfl reach granted
    exact backed vbar live reach granted

end VramOvercommit.Vbars
