import VramOvercommit.Engine.Eviction
import VramOvercommit.Proofs.ReclaimOrder

set_option autoImplicit false

/-!
What reclaiming does. A page is written, the pages of one walk come to a cut, and the walks over
several VBARs shrink the table. None of them aborts, and the books follow every page that was freed.
-/

namespace VramOvercommit.Eviction

open EngineM
open Attempt (lift)

variable {σ : Type} [Host σ] {ledger : Ledger σ} {context : Context σ} {regions : List Region}
  {rest : List Holding} {vbar : Vbar} {index : Nat} {page : Page} {handle : Handle}

/-- The page after an action. -/
def PageAction.apply (action : PageAction) (page : Page) : Page :=
  { page with
    pinned := page.pinned && !action.unpin
    backing := if action.free && !(page.pinned && !action.unpin) then none else page.backing }

theorem PageAction.apply_evicted (page : Page) :
    PageAction.apply ⟨true, false⟩ page = page.evicted := by
  unfold PageAction.apply Page.evicted
  cases pinned : page.pinned <;> simp
  cases page
  simp_all

/-- A VBAR whose page was put without the backing that the count still includes. -/
theorem dropResident_putPage {new : Page} (counted : vbar.countResident = vbar.residentCount)
    (found : vbar.pages[index]? = some page) (resident : page.isResident = true)
    (absent : new.isResident = false) :
    (vbar.putPage index new).dropResident = .ok (vbar.write index new) := by
  have count := Vbar.countResident_write found new
  rw [resident, absent, counted] at count
  simp only [if_true, Bool.false_eq_true, if_false, Nat.add_zero] at count
  have cached : (vbar.putPage index new).residentCount = vbar.residentCount := rfl
  unfold Vbar.dropResident Vbar.write
  rw [cached, ← count]
  rfl

/-- A page of a VBAR lies within its address range. -/
theorem pageAddress_eq_ok (books : Books ledger context regions rest) {pageSize : Nat}
    (inside : vbar.region pageSize ∈ regions) (positive : 0 < pageSize)
    (found : vbar.pages[index]? = some page) {post : Nat → Context σ → Prop}
    (ensured : post (vbar.base + index * pageSize) context) :
    Ensures ledger.stops (ensure (vbar.pageAddress pageSize index)) context post := by
  have below : index < vbar.nrPages := (Array.getElem?_eq_some_iff.mp found).1
  have less : index * pageSize < vbar.nrPages * pageSize :=
    Nat.mul_lt_mul_of_pos_right below positive
  unfold Vbar.pageAddress
  by_cases fits : vbar.base + index * pageSize < wordLimit
  · rw [if_pos fits]
    exact ensured
  · rw [if_neg fits]
    refine (books.region_lt inside).resolve_left fun ends => fits ?_
    change vbar.base + vbar.nrPages * pageSize < wordLimit at ends
    omega

/-- The memory that an action takes from a page. -/
def PageAction.taken (action : PageAction) (page : Page) : Option PhysicalHandle :=
  if action.free && !(page.pinned && !action.unpin) then page.backing else none

theorem PageAction.apply_of_kept {action : PageAction} (kept : action.taken page = none) :
    action.apply page = { page with pinned := page.pinned && !action.unpin } := by
  unfold PageAction.taken at kept
  unfold PageAction.apply
  split
  · rename_i frees
    rw [if_pos frees] at kept
    rw [kept]
  · rfl

theorem PageAction.apply_of_taken {action : PageAction} {memory : PhysicalHandle}
    (taken : action.taken page = some memory) : page.backing = some memory ∧
      action.apply page =
        { page with backing := none, pinned := page.pinned && !action.unpin } := by
  unfold PageAction.taken at taken
  unfold PageAction.apply
  split at taken
  · rename_i frees
    rw [if_pos frees]
    exact ⟨taken, rfl⟩
  · cases taken

/-- An action writes one page, and frees the memory behind it where it says so. -/
theorem evictPage_spec {action : PageAction} {others : List Holding}
    (counted : vbar.countResident = vbar.residentCount)
    (found : vbar.pages[index]? = some page)
    (positive : 0 < context.engine.config.vbarPageSize)
    (inside : vbar.region context.engine.config.vbarPageSize ∈ regions)
    (books : Books ledger context regions
      (vbar.holdings context.engine.config.vbarPageSize ++ others)) :
    Ensures ledger.stops (evictPage vbar index action) context (fun result after =>
      result = (vbar.write index (action.apply page),
        page.isResident && !(action.apply page).isResident) ∧
      Recounted context.engine after.engine ∧
      Books ledger after regions ((vbar.write index (action.apply page)).holdings
        context.engine.config.vbarPageSize ++ others)) := by
  obtain ⟨left, before, put⟩ := Vbar.perm_holdings found context.engine.config.vbarPageSize
  have written := put (action.apply page)
  unfold evictPage
  rw [ensures_bind, ensures_pageSize, ensures_bind]
  apply pageAddress_eq_ok books inside positive found
  rw [ensures_bind, Vbar.pageAt_eq_ok found, ensures_ensure_ok]
  have takes : (if action.free && !(page.pinned && !action.unpin) then page.backing else none) =
      action.taken page := rfl
  dsimp only
  rw [takes]
  cases taken : action.taken page with
  | none =>
    -- the page keeps its backing, so only its pin may change
    have applied := PageAction.apply_of_kept taken
    have backing : (action.apply page).backing = page.backing := by rw [applied]
    have same : (action.apply page).isResident = page.isResident := by
      unfold Page.isResident
      rw [backing]
    dsimp only
    rw [ensures_pure, ← applied, Vbar.putPage_eq_write counted found same, same]
    refine ⟨by cases page.isResident <;> rfl, .refl _, books.perm (.refl _) ?_⟩
    refine List.Perm.append_right _ (before.trans (List.Perm.trans ?_ written.symm))
    unfold Page.holdings
    rw [backing]
  | some memory =>
    obtain ⟨backing, applied⟩ := PageAction.apply_of_taken taken
    have absent : (action.apply page).isResident = false := by
      rw [applied]
      rfl
    have resident : page.isResident = true := by
      rw [Page.isResident, backing]
      rfl
    have held := books.perm (.refl _) (before.append_right others)
    rw [Page.holdings, backing] at held
    rw [Page.holdings_of_absent absent, List.nil_append] at written
    dsimp only
    rw [ensures_bind]
    apply (Memory.release_spec held).mono
    intro _ after outcome
    obtain ⟨recounted, books⟩ := outcome
    rw [← applied, dropResident_putPage counted found resident absent, ensures_bind,
      ensures_ensure_ok, ensures_pure, resident, absent]
    exact ⟨rfl, recounted, books.perm (.refl _) (written.symm.append_right others)⟩

/-! ## Walks over one VBAR -/

/-- Evicting the page below the watermark is a cut by one. -/
theorem evictTop_spec {others : List Holding} (consistent : vbar.Consistent)
    (top : vbar.watermark = index + 1)
    (positive : 0 < context.engine.config.vbarPageSize)
    (inside : vbar.region context.engine.config.vbarPageSize ∈ regions)
    (books : Books ledger context regions
      (vbar.holdings context.engine.config.vbarPageSize ++ others)) :
    Ensures ledger.stops (evictPage { vbar with watermark := index } index ⟨true, false⟩) context
      (fun result after =>
        result.1 = vbar.cut index ∧ (if result.2 then 1 else 0) = vbar.reclaimable index ∧
        SameTables context.engine after.engine ∧
        Books ledger after regions
          ((vbar.cut index).holdings context.engine.config.vbarPageSize ++ others)) := by
  have below : index < vbar.pages.size := by
    have := consistent.watermark_le
    unfold Vbar.nrPages at this
    omega
  have found : vbar.pages[index]? = some vbar.pages[index] := Array.getElem?_eq_getElem below
  have lowered : ({ vbar with watermark := index } : Vbar).pages[index]? =
      some vbar.pages[index] := found
  refine Ensures.mono (evictPage_spec consistent.counted lowered positive inside books) ?_
  intro result after outcome
  obtain ⟨eq, recounted, books⟩ := outcome
  rw [PageAction.apply_evicted, consistent.write_evicted top found] at eq books
  subst eq
  refine ⟨rfl, ?_, recounted.tables, books⟩
  have none : vbar.reclaimable (index + 1) = 0 := by
    rw [← top]
    exact consistent.reclaimable_watermark
  rw [Vbar.reclaimable_succ found, none, Vbar.evicted_isResident, Page.isReclaimable]
  cases vbar.pages[index].isResident <;> cases vbar.pages[index].pinned <;> rfl

/-- The outcome of lowering a watermark is a cut, with the number of pages it freed. It stops when
what was wanted is freed, or after the last step; one page higher would not have been enough. -/
def Lowered (vbar : Vbar) (steps wanted : Nat) (result : Vbar × Nat) : Prop :=
  ∃ watermark, vbar.watermarkLimit ≤ watermark ∧ watermark ≤ vbar.watermark ∧
    result = (vbar.cut watermark, vbar.reclaimable watermark) ∧
    vbar.reclaimable watermark ≤ wanted ∧
    (vbar.reclaimable watermark = wanted ∨ watermark + steps = vbar.watermark) ∧
    (watermark < vbar.watermark → vbar.reclaimable (watermark + 1) < wanted)

theorem Lowered.stop {wanted : Nat} (consistent : vbar.Consistent) {steps : Nat}
    (done : wanted = 0 ∨ steps = 0) : Lowered vbar steps wanted (vbar, 0) := by
  have none := consistent.reclaimable_watermark
  refine ⟨vbar.watermark, consistent.limit_le, Nat.le_refl _, ?_, by omega, ?_,
    fun less => absurd less (Nat.lt_irrefl _)⟩
  · rw [consistent.cut_self, none]
  · rcases done with met | last
    · exact .inl (by omega)
    · exact .inr (by omega)

/-- A cut by one before the others, which counts if it freed a page. -/
theorem Lowered.step {steps wanted freed : Nat} {result : Vbar × Nat}
    (consistent : vbar.Consistent) (top : vbar.watermark = index + 1)
    (count : freed = vbar.reclaimable index) (unmet : 0 < wanted + freed)
    (lowered : Lowered (vbar.cut index) steps wanted result) :
    Lowered vbar (steps + 1) (wanted + freed) (result.1, result.2 + freed) := by
  obtain ⟨watermark, limit, below, rfl, most, last, least⟩ := lowered
  rw [Vbar.cut_watermark] at below last least
  have sum := vbar.reclaimable_cut below
  refine ⟨watermark, limit, by omega, ?_, by omega, by omega, fun less => ?_⟩
  · dsimp only
    rw [Vbar.cut_cut below, count, sum]
  · rcases Nat.lt_or_eq_of_le below with lower | rfl
    · have sum' := vbar.reclaimable_cut (show watermark + 1 ≤ index from lower)
      have further := least lower
      omega
    · rw [← top, consistent.reclaimable_watermark]
      exact unmet

theorem lowerWatermark_spec {steps wanted : Nat} {others : List Holding}
    (consistent : vbar.Consistent) (room : vbar.watermarkLimit + steps ≤ vbar.watermark)
    (positive : 0 < context.engine.config.vbarPageSize)
    (inside : vbar.region context.engine.config.vbarPageSize ∈ regions)
    (books : Books ledger context regions
      (vbar.holdings context.engine.config.vbarPageSize ++ others)) :
    Ensures ledger.stops (lowerWatermark steps vbar wanted) context (fun result after =>
      Lowered vbar steps wanted result ∧ SameTables context.engine after.engine ∧
        Books ledger after regions
          (result.1.holdings context.engine.config.vbarPageSize ++ others)) := by
  induction steps generalizing vbar context wanted with
  | zero => exact ⟨.stop consistent (.inr rfl), .refl _, books⟩
  | succ steps ih =>
    unfold lowerWatermark
    by_cases met : wanted = 0
    · rw [if_pos met]
      exact ⟨.stop consistent (.inl met), .refl _, books⟩
    · rw [if_neg met]
      have top : vbar.watermark = vbar.watermark - 1 + 1 := by omega
      rw [ensures_bind]
      apply (evictTop_spec consistent top positive inside books).mono
      rintro ⟨shrunk, freed⟩ middle ⟨rfl, count, tables, books⟩
      have consistent' := consistent.cut (vbar.watermark - 1) (by omega) (by omega)
      have config := tables.config
      have further := fun wanted => @ih middle _ wanted consistent'
        (by rw [Vbar.cut_watermarkLimit, Vbar.cut_watermark]; omega) (by rwa [config])
        (by rw [config, Vbar.region, Vbar.cut_nrPages]; exact inside) (by rwa [config])
      cases freed with
      | true =>
        dsimp only at count ⊢
        rw [if_pos rfl, ensures_bind]
        apply (further (wanted - 1)).mono
        intro result after outcome
        obtain ⟨lowered, tables', books⟩ := outcome
        rw [config] at books
        have total := lowered.step consistent top count (by rw [if_pos rfl]; omega)
        rw [if_pos rfl, Nat.sub_add_cancel (by omega)] at total
        exact ⟨total, tables.trans tables', books⟩
      | false =>
        apply (further wanted).mono
        intro result after outcome
        obtain ⟨lowered, tables', books⟩ := outcome
        rw [config] at books
        exact ⟨lowered.step consistent top count (by omega), tables.trans tables', books⟩

/-- The outcome of shrinking one VBAR: a cut that frees no page more than wanted, and as many as are
wanted unless it reaches the limit. -/
structure ShrunkTail (vbars after : PriorityList Vbar) (handle : Handle) (vbar : Vbar)
    (wanted watermark count : Nat) : Prop where
  limit : vbar.watermarkLimit ≤ watermark
  below : watermark ≤ vbar.watermark
  vbars : after = vbars.set handle (vbar.cut watermark)
  counts : count = vbar.reclaimable watermark
  most : count ≤ wanted
  ended : count = wanted ∨ watermark = vbar.watermarkLimit
  least : watermark < vbar.watermark → vbar.reclaimable (watermark + 1) < wanted

/-- Shrinking a stale handle frees nothing. -/
theorem shrinkTail_stale {wanted : Nat} {aborts : Abort → Prop}
    (stale : context.engine.vbars.get? handle = none) :
    Ensures aborts (shrinkTail handle wanted) context
      (fun count after => count = 0 ∧ after = context) := by
  unfold shrinkTail
  rw [ensures_bind, ensures_vbar?, stale]
  exact ⟨rfl, rfl⟩

/-- Shrinking the VBAR behind a handle cuts it. -/
theorem shrinkTail_spec {wanted : Nat} (kept : VbarBooks ledger context regions rest)
    (live : context.engine.vbars.get? handle = some vbar) :
    Ensures ledger.stops (shrinkTail handle wanted) context (fun count after =>
      Reclaimed context.engine after.engine ∧ VbarBooks ledger after regions rest ∧
      ∃ watermark, ShrunkTail context.engine.vbars after.engine.vbars handle vbar wanted watermark
        count) := by
  have consistent := kept.sound.consistent live
  have above := consistent.limit_le
  obtain ⟨others, books, put⟩ := kept.open live
  unfold shrinkTail
  rw [ensures_bind, ensures_vbar?, live]
  dsimp only
  rw [ensures_bind]
  refine (lowerWatermark_spec consistent (by omega) kept.positive (kept.inside live) books).mono ?_
  rintro ⟨shrunk, count⟩ after ⟨⟨watermark, limit, below, same, most, last, least⟩, tables, books⟩
  cases same
  rw [ensures_bind, ensures_putVbar, ensures_pure]
  have cut := consistent.cut watermark limit below
  refine ⟨⟨⟨tables.device, tables.config, tables.capacity⟩, tables.buffers, ?_⟩,
    put tables books cut (by rw [Vbar.region, Vbar.cut_nrPages]; rfl), watermark, limit, below, ?_,
    rfl, most, last.imp_right fun atLimit => by omega, least⟩
  · rw [tables.vbars]
    exact .set kept.sound live limit below
  · rw [← tables.vbars]

/-! ## Walks over several VBARs -/

/-- The outcome of shrinking one VBAR after the other. -/
structure ShrunkEach (vbars after : PriorityList Vbar) (victims : List Handle)
    (wanted missing : Nat) : Prop where
  fewer : missing ≤ wanted
  total : totalResident after + wanted = totalResident vbars + missing
  outside : ∀ other, other ∉ victims → after.get? other = vbars.get? other
  idle : wanted = 0 → after = vbars
  supplied : 0 < wanted → Supplied vbars after victims wanted (wanted - missing)

section Victims

variable {vbars middle after : PriorityList Vbar} {victims : List Handle}
  {wanted watermark count missing : Nat}

theorem ShrunkEach.nil : ShrunkEach vbars vbars [] wanted wanted := by
  refine ⟨Nat.le_refl _, rfl, fun _ _ => rfl, fun _ => rfl, fun positive => ?_⟩
  rw [Nat.sub_self]
  exact .short (fun _ member => absurd member List.not_mem_nil) positive

/-- Nothing is wanted and nothing changes. -/
theorem ShrunkEach.unasked : ShrunkEach vbars vbars victims 0 0 :=
  ⟨Nat.le_refl _, rfl, fun _ _ => rfl, fun _ => rfl,
    fun positive => absurd positive (Nat.lt_irrefl 0)⟩

theorem ShrunkEach.skip (stale : vbars.get? handle = none) (fresh : handle ∉ victims)
    (shrunk : ShrunkEach vbars after victims wanted missing) :
    ShrunkEach vbars after (handle :: victims) wanted missing := by
  refine ⟨shrunk.fewer, shrunk.total,
    fun other free => shrunk.outside other (List.not_mem_of_not_mem_cons free), shrunk.idle,
    fun positive => ?_⟩
  have more := (shrunk.supplied positive).cons
    (.of_stale stale ((shrunk.outside handle fresh).trans stale))
  rwa [length_reclaimOrder_of_stale stale, Nat.zero_add, Nat.zero_add] at more

theorem ShrunkTail.get?_self (live : vbars.get? handle = some vbar)
    (shrunk : ShrunkTail vbars after handle vbar wanted watermark count) :
    after.get? handle = some (vbar.cut watermark) := by
  rw [shrunk.vbars, PriorityList.get?_set_self live]

theorem ShrunkTail.get?_of_ne (shrunk : ShrunkTail vbars after handle vbar wanted watermark count)
    {other : Handle} (differ : other ≠ handle) : after.get? other = vbars.get? other := by
  rw [shrunk.vbars, PriorityList.get?_set_of_ne differ]

/-- If nothing is wanted the cut is at the watermark itself. -/
theorem ShrunkTail.idle (sound : SoundVbars vbars) (live : vbars.get? handle = some vbar)
    (shrunk : ShrunkTail vbars after handle vbar 0 watermark count) : after = vbars := by
  have same : watermark = vbar.watermark := by
    have below := shrunk.below
    by_contra differ
    exact absurd (shrunk.least (by omega)) (Nat.not_lt_zero _)
  rw [shrunk.vbars, same, (sound.consistent live).cut_self, PriorityList.set_get?_self live]

/-- A VBAR that gives up all that is wanted is cut at the last page of it. -/
theorem ShrunkTail.served (sound : SoundVbars vbars) (live : vbars.get? handle = some vbar)
    (shrunk : ShrunkTail vbars after handle vbar wanted watermark wanted) (positive : 0 < wanted)
    (fresh : handle ∉ victims) : Supplied vbars after (handle :: victims) wanted wanted := by
  have enough := shrunk.counts
  have less : watermark < vbar.watermark := by
    rcases Nat.lt_or_eq_of_le shrunk.below with less | rfl
    · exact less
    · have none := (sound.consistent live).reclaimable_watermark
      omega
  have last := shrunk.least less
  have here : StoppedIn vbars after [] handle victims vbar watermark :=
    .first live shrunk.limit shrunk.below (shrunk.get?_self live)
      fun other member => shrunk.get?_of_ne (ne_of_mem_of_not_mem member fresh)
  exact .served here (by omega) (by rw [← enough]; exact Nat.zero_add _)

/-- Shrinking one VBAR, and then the others for what is still missing. -/
theorem ShrunkEach.cons (sound : SoundVbars vbars) (live : vbars.get? handle = some vbar)
    (fresh : handle ∉ victims)
    (first : ShrunkTail vbars middle handle vbar wanted watermark count)
    (others : ShrunkEach middle after victims (wanted - count) missing) :
    ShrunkEach vbars after (handle :: victims) wanted missing := by
  have most := first.most
  have fewer := others.fewer
  have total := totalResident_cut sound live watermark
  have total' := others.total
  rw [← first.vbars, ← first.counts] at total
  refine ⟨by omega, by omega, fun other free => ?_, fun none => ?_, fun positive => ?_⟩
  · obtain ⟨differ, free⟩ := List.ne_and_not_mem_of_not_mem_cons free
    exact (others.outside other free).trans (first.get?_of_ne differ)
  · subst none
    exact (others.idle (Nat.zero_sub _)).trans (first.idle sound live)
  · by_cases met : count = wanted
    · subst met
      rw [others.idle (Nat.sub_self _), show count - missing = count by omega]
      exact first.served sound live positive fresh
    · obtain rfl : watermark = vbar.watermarkLimit := first.ended.resolve_left met
      have cut := (others.outside handle fresh).trans (first.get?_self live)
      have rest : ∀ other ∈ victims, middle.get? other = vbars.get? other :=
        fun other member => first.get?_of_ne (ne_of_mem_of_not_mem member fresh)
      have more := ((others.supplied (by omega)).congr rest).cons (.of_live live cut)
      rw [length_reclaimOrder_of_live sound live, ← first.counts] at more
      rwa [show count + (wanted - count) = wanted by omega,
        show count + (wanted - count - missing) = wanted - missing by omega] at more

theorem ShrunkTail.each (sound : SoundVbars vbars) (live : vbars.get? handle = some vbar)
    (shrunk : ShrunkTail vbars after handle vbar wanted watermark count) :
    ShrunkEach vbars after [handle] wanted (wanted - count) :=
  .cons sound live List.not_mem_nil shrunk .nil

/-- Nothing is left above the limit of a victim if fewer pages were freed than wanted. -/
theorem ShrunkEach.exhausted (shrunk : ShrunkEach vbars after victims wanted missing)
    (sound : SoundVbars vbars) (sound' : SoundVbars after) (short : missing ≠ 0) :
    Exhausted after victims := by
  have fewer := shrunk.fewer
  have supplied := shrunk.supplied (by omega)
  have freed := supplied.freed_eq sound
  exact exhausted_of_drained sound' (supplied.drained sound (by omega))

end Victims

theorem shrinkEach_spec {handles : List Handle} {wanted : Nat}
    (kept : VbarBooks ledger context regions rest) (distinct : handles.Nodup) :
    Ensures ledger.stops (shrinkEach wanted handles) context (fun missing after =>
      Reclaimed context.engine after.engine ∧ VbarBooks ledger after regions rest ∧
      ShrunkEach context.engine.vbars after.engine.vbars handles wanted missing) := by
  induction handles generalizing context wanted with
  | nil => exact ⟨.refl kept, kept, .nil⟩
  | cons handle others ih =>
    obtain ⟨fresh, distinct⟩ := List.nodup_cons.mp distinct
    unfold shrinkEach
    rw [ensures_bind]
    cases live : context.engine.vbars.get? handle with
    | none =>
      apply (shrinkTail_stale live).mono
      rintro _ _ ⟨rfl, rfl⟩
      apply (ih kept distinct).mono
      intro missing after outcome
      obtain ⟨reclaimed, kept, shrunk⟩ := outcome
      exact ⟨reclaimed, kept, shrunk.skip live fresh⟩
    | some vbar =>
      apply (shrinkTail_spec kept live).mono
      intro count middle outcome
      obtain ⟨reclaimed, kept', watermark, first⟩ := outcome
      apply (ih kept' distinct).mono
      intro missing after outcome
      obtain ⟨reclaimed', kept'', others⟩ := outcome
      exact ⟨reclaimed.trans reclaimed', kept'', .cons kept.sound live fresh first others⟩

omit [Host σ] in
/-- A sound table passes the check of every VBAR. -/
theorem checkVbars_spec {aborts : Abort → Prop} {post : Unit → Context σ → Prop}
    (sound : SoundVbars context.engine.vbars) (ensured : post () context) :
    Ensures aborts checkVbars context post := by
  unfold checkVbars
  rw [ensures_bind, ensures_engine]
  have all : ∀ vbar ∈ context.engine.vbars.values, vbar.Consistent := by
    intro vbar member
    obtain ⟨handle, live⟩ := sound.linked.mem_values.mp member
    exact sound.consistent live
  generalize context.engine.vbars.values = values at all
  induction values with
  | nil => exact ensured
  | cons vbar others ih =>
    change Ensures aborts (ensure vbar.check >>= fun _ => others.forM _) context post
    rw [ensures_bind, Vbar.check_eq_ok (all vbar List.mem_cons_self), ensures_ensure_ok]
    exact ih fun other member => all other (List.mem_cons_of_mem _ member)

/-- The bytes of freed pages are a word, as these pages were on the account. -/
theorem freed_small {freed : Nat} (kept : VbarBooks ledger context regions rest)
    (most : freed ≤ totalResident context.engine.vbars) :
    freed * context.engine.config.vbarPageSize < wordLimit := by
  have held := kept.books.accounted.held_le
  have word := kept.books.accounted.word
  rw [heldBytes_append, kept.sound.heldBytes] at held
  have bytes := Nat.mul_le_mul_right context.engine.config.vbarPageSize most
  omega

/-- All that is wanted is freed, or all that can be. -/
theorem evictGlobal_spec {size : Nat} (kept : VbarBooks ledger context regions rest) :
    Ensures ledger.stops (evictGlobal size) context (fun freed after =>
      Reclaimed context.engine after.engine ∧ VbarBooks ledger after regions rest ∧
      (totalResident after.engine.vbars + blocksFor size context.engine.config.vbarPageSize ≤
          totalResident context.engine.vbars ∨
        totalReclaimable after.engine.vbars = 0) ∧
      ∃ missing, freed = (blocksFor size context.engine.config.vbarPageSize - missing) *
          context.engine.config.vbarPageSize ∧
        ShrunkEach context.engine.vbars after.engine.vbars context.engine.vbars.handles.reverse
          (blocksFor size context.engine.config.vbarPageSize) missing) := by
  have ascending := kept.sound.linked.ascending_eq
  have distinct := List.nodup_reverse.mpr kept.sound.linked.handles_nodup
  unfold evictGlobal
  rw [ensures_bind, ensures_pageSize]
  dsimp only
  split
  · rename_i none
    rw [none]
    exact ⟨.refl kept, kept, .inl (Nat.le_refl _), 0, (Nat.zero_mul _).symm, .unasked⟩
  · rw [ensures_bind, ensures_log, ensures_bind]
    apply (Memory.synchronize_spec (kept.log _).books).mono
    intro _ first outcome
    obtain ⟨same, books⟩ := outcome
    have kept₁ := (kept.log (.evictionStarted size)).congr (by rw [same]; exact .refl _) books
    dsimp only at same
    rw [ensures_bind, ensures_engine, same, ascending, ensures_bind]
    apply (shrinkEach_spec kept₁ distinct).mono
    intro missing second outcome
    obtain ⟨reclaimed, kept₂, shrunk⟩ := outcome
    rw [same] at reclaimed shrunk
    have total := shrunk.total
    have missed : missing = 0 ∨ totalReclaimable second.engine.vbars = 0 := by
      refine or_iff_not_imp_left.mpr fun short => ?_
      refine (shrunk.exhausted kept.sound kept₂.sound short).totalReclaimable_eq
        kept₂.sound.linked fun handle member => ?_
      rw [List.mem_reverse, ← reclaimed.vbars.handles]
      exact member
    have most : blocksFor size context.engine.config.vbarPageSize - missing ≤
        totalResident context.engine.vbars := by omega
    rw [ensures_bind]
    apply ensures_word (.inl (freed_small kept most))
    intro _
    rw [ensures_bind, ensures_markDirty, ensures_bind]
    refine checkVbars_spec kept₂.sound ?_
    rw [ensures_bind, ensures_log, ensures_pure]
    refine ⟨reclaimed.markDirty, kept₂.markDirty.log _, missed.imp_left fun none => ?_, missing,
      rfl, shrunk⟩
    dsimp only
    omega

end VramOvercommit.Eviction
