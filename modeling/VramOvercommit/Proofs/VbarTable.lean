import VramOvercommit.Proofs.Ledger

set_option autoImplicit false

/-!
The table of VBARs. Reclaiming memory cuts VBARs and does nothing else to the table, however the
cuts are spread over the walks that make them.
-/

namespace VramOvercommit

variable {vbars : PriorityList Vbar} {handle : Handle} {vbar new : Vbar}

/-- What holds of the table of VBARs between any two steps. -/
structure SoundVbars (vbars : PriorityList Vbar) : Prop where
  linked : vbars.WellLinked
  consistent : ∀ {handle : Handle} {vbar : Vbar}, vbars.get? handle = some vbar → vbar.Consistent

theorem SoundVbars.set (sound : SoundVbars vbars) (consistent : new.Consistent) :
    SoundVbars (vbars.set handle new) := by
  refine ⟨sound.linked.set, fun {other vbar} live => ?_⟩
  by_cases same : other = handle
  · subst same
    cases old : vbars.get? other with
    | none =>
      rw [PriorityList.set_of_stale old] at live
      exact sound.consistent live
    | some _ =>
      rw [PriorityList.get?_set_self old new] at live
      cases live
      exact consistent
  · rw [PriorityList.get?_set_of_ne same] at live
    exact sound.consistent live

/-- The table `whole` holds one VBAR more than `rest`. -/
structure OneMore (rest whole : PriorityList Vbar) (handle : Handle) (vbar : Vbar) : Prop where
  less : rest.WellLinked
  linked : whole.WellLinked
  entries : whole.toList.Perm ((handle, vbar) :: rest.toList)

section OneMore

variable {rest whole : PriorityList Vbar}

theorem SoundVbars.pushHighest (sound : SoundVbars vbars) (vbar : Vbar) :
    (∃ whole handle, vbars.pushHighest vbar = .ok (whole, handle) ∧
      OneMore vbars whole handle vbar) ∨
    (vbars.pushHighest vbar = .error .overflow ∧ vbars.toList.length = slotLimit) := by
  refine (sound.linked.pushHighest vbar).imp_left fun pushed => ?_
  obtain ⟨whole, handle, pushed, linked, -, entries⟩ := pushed
  exact ⟨whole, handle, pushed, sound.linked, linked, .of_eq entries⟩

theorem SoundVbars.remove (sound : SoundVbars vbars) (live : vbars.get? handle = some vbar) :
    ∃ rest, vbars.remove handle = .ok (rest, some vbar) ∧ OneMore rest vbars handle vbar := by
  obtain ⟨rest, front, back, removed, less, before, entries⟩ := sound.linked.remove live
  refine ⟨rest, removed, less, sound.linked, ?_⟩
  rw [before, entries]
  exact List.perm_middle

theorem OneMore.get?_eq_some_iff (more : OneMore rest whole handle vbar) {other : Handle}
    {vbar' : Vbar} : whole.get? other = some vbar' ↔
      (other = handle ∧ vbar' = vbar) ∨ rest.get? other = some vbar' := by
  rw [← more.linked.mem_toList, more.entries.mem_iff, List.mem_cons, Prod.mk.injEq,
    more.less.mem_toList]

theorem OneMore.sound_rest (more : OneMore rest whole handle vbar) (sound : SoundVbars whole) :
    SoundVbars rest :=
  ⟨more.less, fun live => sound.consistent (more.get?_eq_some_iff.mpr (.inr live))⟩

theorem OneMore.sound_whole (more : OneMore rest whole handle vbar) (sound : SoundVbars rest)
    (consistent : vbar.Consistent) : SoundVbars whole := by
  refine ⟨more.linked, fun {other vbar'} live => ?_⟩
  rcases more.get?_eq_some_iff.mp live with ⟨-, rfl⟩ | old
  · exact consistent
  · exact sound.consistent old

theorem OneMore.perm_handles (more : OneMore rest whole handle vbar) :
    whole.handles.Perm (handle :: rest.handles) := more.entries.map Prod.fst

/-- The one VBAR is not in the rest of the table. -/
theorem OneMore.not_live (more : OneMore rest whole handle vbar) : rest.get? handle = none := by
  have nodup := more.perm_handles.nodup_iff.mp more.linked.handles_nodup
  rw [Option.eq_none_iff_forall_ne_some]
  intro left live
  exact (List.nodup_cons.mp nodup).1 (more.less.mem_handles.mpr ⟨left, live⟩)

/-- Taking the first VBAR out leaves the others in their order. -/
theorem SoundVbars.removeFirst (sound : SoundVbars vbars) {others : List (Handle × Vbar)}
    (first : vbars.toList = (handle, vbar) :: others) :
    ∃ rest, vbars.remove handle = .ok (rest, some vbar) ∧ SoundVbars rest ∧
      rest.toList = others := by
  have live : vbars.get? handle = some vbar :=
    sound.linked.mem_toList.mp (first ▸ List.mem_cons_self)
  obtain ⟨rest, front, back, removed, less, before, entries⟩ := sound.linked.remove live
  have one : OneMore rest vbars handle vbar := by
    refine ⟨less, sound.linked, ?_⟩
    rw [before, entries]
    exact List.perm_middle
  refine ⟨rest, removed, one.sound_rest sound, ?_⟩
  have nodup := sound.linked.handles_nodup
  unfold PriorityList.handles at nodup
  cases front with
  | nil =>
    rw [before] at first
    cases first
    exact entries
  | cons entry more =>
    -- a second entry of the same handle
    rw [before] at first nodup
    cases first
    simp at nodup

theorem OneMore.perm_values (more : OneMore rest whole handle vbar) :
    whole.values.Perm (vbar :: rest.values) := more.entries.map Prod.snd

theorem OneMore.perm_regions (more : OneMore rest whole handle vbar) (pageSize : Nat) :
    (vbarRegions whole pageSize).Perm (vbar.region pageSize :: vbarRegions rest pageSize) :=
  more.perm_values.map fun vbar : Vbar => vbar.region pageSize

theorem OneMore.perm_holdings (more : OneMore rest whole handle vbar) (pageSize : Nat) :
    (vbarHoldings whole pageSize).Perm (vbar.holdings pageSize ++ vbarHoldings rest pageSize) :=
  more.perm_values.flatMap_right fun vbar : Vbar => vbar.holdings pageSize

end OneMore

/-- The resident pages of all VBARs. -/
def totalResident (vbars : PriorityList Vbar) : Nat := (vbars.values.map Vbar.residentCount).sum

theorem totalResident_set (linked : vbars.WellLinked) (live : vbars.get? handle = some vbar)
    (new : Vbar) :
    totalResident (vbars.set handle new) + vbar.residentCount =
      totalResident vbars + new.residentCount := by
  obtain ⟨rest, before, after⟩ := linked.perm_values live
  have old := (before.map Vbar.residentCount).sum_nat
  have changed := ((after new).map Vbar.residentCount).sum_nat
  rw [List.map_cons, List.sum_cons] at old changed
  unfold totalResident
  omega

theorem SoundVbars.heldBytes (sound : SoundVbars vbars) (pageSize : Nat) :
    heldBytes (vbarHoldings vbars pageSize) = totalResident vbars * pageSize := by
  have each : ∀ values : List Vbar, (∀ vbar ∈ values, vbar.Consistent) →
      VramOvercommit.heldBytes (values.flatMap fun vbar => vbar.holdings pageSize) =
        (values.map Vbar.residentCount).sum * pageSize := by
    intro values
    induction values with
    | nil => simp
    | cons vbar rest ih =>
      intro consistent
      have others := ih fun other member => consistent other (List.mem_cons_of_mem _ member)
      have counted := (consistent vbar List.mem_cons_self).counted
      simp only [List.flatMap_cons, heldBytes_append, vbar.heldBytes_holdings, others, counted,
        List.map_cons, List.sum_cons, Nat.add_mul]
  apply each _
  intro vbar member
  obtain ⟨handle, live⟩ := sound.linked.mem_values.mp member
  exact sound.consistent live

/-! ## Tables that were shrunk -/

/-- Every VBAR was cut at its limit or above, and nothing else was done. -/
structure Shrunk (before after : PriorityList Vbar) : Prop where
  handles : after.handles = before.handles
  cut : ∀ {handle : Handle} {vbar : Vbar}, before.get? handle = some vbar →
    ∃ watermark, vbar.watermarkLimit ≤ watermark ∧ watermark ≤ vbar.watermark ∧
      after.get? handle = some (vbar.cut watermark)

theorem Shrunk.refl (sound : SoundVbars vbars) : Shrunk vbars vbars := by
  refine ⟨rfl, fun {handle vbar} live => ?_⟩
  have consistent := sound.consistent live
  exact ⟨vbar.watermark, consistent.limit_le, Nat.le_refl _, by rw [consistent.cut_self, live]⟩

theorem Shrunk.trans {before middle after : PriorityList Vbar} (first : Shrunk before middle)
    (second : Shrunk middle after) : Shrunk before after := by
  refine ⟨second.handles.trans first.handles, fun {handle vbar} live => ?_⟩
  obtain ⟨high, limit, inside, cut⟩ := first.cut live
  obtain ⟨low, limit', inside', cut'⟩ := second.cut cut
  rw [Vbar.cut_watermark] at inside'
  rw [Vbar.cut_watermarkLimit] at limit'
  rw [Vbar.cut_cut inside'] at cut'
  exact ⟨low, limit', Nat.le_trans inside' inside, cut'⟩

theorem Shrunk.set (sound : SoundVbars vbars) (live : vbars.get? handle = some vbar)
    {watermark : Nat} (limit : vbar.watermarkLimit ≤ watermark)
    (inside : watermark ≤ vbar.watermark) :
    Shrunk vbars (vbars.set handle (vbar.cut watermark)) := by
  refine ⟨sound.linked.handles_set, fun {other vbar'} live' => ?_⟩
  by_cases same : other = handle
  · subst same
    rw [live] at live'
    cases live'
    exact ⟨watermark, limit, inside, PriorityList.get?_set_self live _⟩
  · rw [PriorityList.get?_set_of_ne same]
    exact (Shrunk.refl sound).cut live'

/-- A cut frees what could be reclaimed above it. -/
theorem totalResident_cut (sound : SoundVbars vbars) (live : vbars.get? handle = some vbar)
    (watermark : Nat) :
    totalResident (vbars.set handle (vbar.cut watermark)) + vbar.reclaimable watermark =
      totalResident vbars := by
  have total := totalResident_set sound.linked live (vbar.cut watermark)
  have counted := (sound.consistent live).counted
  have cut := vbar.countResident_cut watermark
  rw [Vbar.counted_cut] at cut
  omega

/-- What is still held was held before. -/
theorem Shrunk.mem_vbarHoldings {after : PriorityList Vbar} (shrunk : Shrunk vbars after)
    (linked : vbars.WellLinked) (linked' : after.WellLinked) {pageSize : Nat} {holding : Holding}
    (held : holding ∈ vbarHoldings after pageSize) : holding ∈ vbarHoldings vbars pageSize := by
  obtain ⟨handle, left, live, held⟩ := (VramOvercommit.mem_vbarHoldings linked').mp held
  have before : handle ∈ vbars.handles := shrunk.handles ▸ linked'.mem_handles.mpr ⟨left, live⟩
  obtain ⟨vbar, live'⟩ := linked.mem_handles.mp before
  obtain ⟨watermark, -, -, cut⟩ := shrunk.cut live'
  rw [live] at cut
  cases cut
  exact (VramOvercommit.mem_vbarHoldings linked).mpr
    ⟨handle, vbar, live', Vbar.mem_holdings_cut held⟩

/-- The pages that reclaiming could free, of all VBARs. -/
def totalReclaimable (vbars : PriorityList Vbar) : Nat :=
  (vbars.values.map fun vbar => vbar.reclaimable vbar.watermarkLimit).sum

/-- Whatever reclaiming frees is what it cannot free any more, and it frees what it could before. -/
theorem Shrunk.totals {after : PriorityList Vbar} (shrunk : Shrunk vbars after)
    (sound : SoundVbars vbars) (sound' : SoundVbars after) :
    totalResident vbars + totalReclaimable after =
        totalResident after + totalReclaimable vbars ∧
      totalReclaimable after ≤ totalReclaimable vbars := by
  unfold totalResident totalReclaimable
  rw [sound.linked.values_eq, sound'.linked.values_eq, shrunk.handles]
  have all : ∀ handle ∈ vbars.handles, ∃ vbar, vbars.get? handle = some vbar :=
    fun handle => sound.linked.mem_handles.mp
  generalize vbars.handles = handles at all
  induction handles with
  | nil => exact ⟨rfl, Nat.le_refl _⟩
  | cons handle rest ih =>
    have others := ih fun other member => all other (List.mem_cons_of_mem _ member)
    obtain ⟨vbar, live⟩ := all handle List.mem_cons_self
    obtain ⟨watermark, limit, -, cut⟩ := shrunk.cut live
    have resident := vbar.countResident_cut watermark
    rw [Vbar.counted_cut, (sound.consistent live).counted] at resident
    have reclaimable := vbar.reclaimable_cut limit
    simp only [List.filterMap_cons, live, cut, List.map_cons, List.sum_cons,
      Vbar.cut_watermarkLimit]
    omega

theorem Shrunk.conserves {after : PriorityList Vbar} (shrunk : Shrunk vbars after)
    (sound : SoundVbars vbars) (sound' : SoundVbars after) :
    totalResident vbars + totalReclaimable after =
      totalResident after + totalReclaimable vbars := (shrunk.totals sound sound').1

/-- Where nothing can be reclaimed, nothing is. -/
theorem Shrunk.totalResident_eq {after : PriorityList Vbar} (shrunk : Shrunk vbars after)
    (sound : SoundVbars vbars) (sound' : SoundVbars after) (none : totalReclaimable vbars = 0) :
    totalResident after = totalResident vbars := by
  have totals := shrunk.totals sound sound'
  omega

/-- Nothing can be reclaimed from the VBARs behind the handles. -/
def Exhausted (vbars : PriorityList Vbar) (handles : List Handle) : Prop :=
  ∀ handle ∈ handles, ∀ vbar, vbars.get? handle = some vbar →
    vbar.reclaimable vbar.watermarkLimit = 0

theorem Exhausted.totalReclaimable_eq (linked : vbars.WellLinked) {handles : List Handle}
    (exhausted : Exhausted vbars handles) (all : ∀ handle ∈ vbars.handles, handle ∈ handles) :
    totalReclaimable vbars = 0 := by
  have each : ∀ vbar ∈ vbars.values, vbar.reclaimable vbar.watermarkLimit = 0 := by
    intro vbar member
    obtain ⟨handle, live⟩ := linked.mem_values.mp member
    exact exhausted handle (all handle (linked.mem_handles.mpr ⟨vbar, live⟩)) vbar live
  unfold totalReclaimable
  exact List.sum_eq_zero_iff_forall_eq_nat.mpr fun count member => by
    obtain ⟨vbar, inside, rfl⟩ := List.mem_map.mp member
    exact each vbar inside

/-- Where nothing can be reclaimed from all VBARs, nothing can from any. -/
theorem reclaimable_of_total (linked : vbars.WellLinked) (none : totalReclaimable vbars = 0)
    (live : vbars.get? handle = some vbar) : vbar.reclaimable vbar.watermarkLimit = 0 :=
  List.sum_eq_zero_iff_forall_eq_nat.mp none _
    (List.mem_map_of_mem (linked.mem_values.mpr ⟨handle, live⟩))

/-- Only resident pages can be reclaimed. -/
theorem SoundVbars.totalReclaimable_le (sound : SoundVbars vbars) :
    totalReclaimable vbars ≤ totalResident vbars := by
  have each : ∀ vbar ∈ vbars.values, vbar.reclaimable vbar.watermarkLimit ≤ vbar.residentCount := by
    intro vbar member
    obtain ⟨handle, live⟩ := sound.linked.mem_values.mp member
    have cut := vbar.countResident_cut vbar.watermarkLimit
    rw [(sound.consistent live).counted] at cut
    omega
  unfold totalReclaimable totalResident
  generalize vbars.values = values at each
  induction values with
  | nil => exact Nat.le_refl _
  | cons vbar rest ih =>
    obtain ⟨first, others⟩ := List.forall_mem_cons.mp each
    simp only [List.map_cons, List.sum_cons]
    exact Nat.add_le_add first (ih others)

/-- One step of reclaiming: some VBARs were cut. -/
structure Reclaimed (before after : Engine) : Prop extends SameSetting before after where
  buffers : after.buffers = before.buffers
  vbars : Shrunk before.vbars after.vbars

/-- A step that leaves the tables alone is one that cuts nothing. -/
theorem SoundVbars.reclaimed {before after : Engine} (sound : SoundVbars before.vbars)
    (tables : SameTables before after) : Reclaimed before after := by
  refine ⟨tables.toSameSetting, tables.buffers, ?_⟩
  rw [tables.vbars]
  exact .refl sound

theorem Reclaimed.trans {before middle after : Engine} (first : Reclaimed before middle)
    (second : Reclaimed middle after) : Reclaimed before after :=
  ⟨first.toSameSetting.trans second.toSameSetting, second.buffers.trans first.buffers,
    first.vbars.trans second.vbars⟩

theorem Reclaimed.markDirty {before after : Engine} (reclaimed : Reclaimed before after) :
    Reclaimed before { after with dirty := true } :=
  ⟨⟨reclaimed.device, reclaimed.config, reclaimed.capacity⟩, reclaimed.buffers, reclaimed.vbars⟩

variable {σ : Type} [Host σ] {ledger : Ledger σ} {context : Context σ} {regions : List Region}
  {rest : List Holding}

/-- The VBARs are sound, lie in their regions, and are all that is held but for `rest`. -/
structure VbarBooks (ledger : Ledger σ) (context : Context σ) (regions : List Region)
    (rest : List Holding) : Prop where
  sound : SoundVbars context.engine.vbars
  positive : 0 < context.engine.config.vbarPageSize
  allowed : ledger.sizes context.engine.config.vbarPageSize
  inside : ∀ {handle : Handle} {vbar : Vbar}, context.engine.vbars.get? handle = some vbar →
    vbar.region context.engine.config.vbarPageSize ∈ regions
  books : Books ledger context regions
    (vbarHoldings context.engine.vbars context.engine.config.vbarPageSize ++ rest)

/-- The books of a table with one of its VBARs in front. -/
theorem OneMore.open_books {less whole : PriorityList Vbar} {pageSize : Nat}
    (more : OneMore less whole handle vbar)
    (books : Books ledger context (vbarRegions whole pageSize ++ regions)
      (vbarHoldings whole pageSize ++ rest)) :
    Books ledger context (vbar.region pageSize :: (vbarRegions less pageSize ++ regions))
      (vbar.holdings pageSize ++ (vbarHoldings less pageSize ++ rest)) := by
  rw [← List.append_assoc]
  exact books.perm ((more.perm_regions _).append_right _) ((more.perm_holdings _).append_right _)

/-- The other way round, for a VBAR that joins the table. -/
theorem OneMore.close_books {less whole : PriorityList Vbar} {pageSize : Nat}
    (more : OneMore less whole handle vbar)
    (books : Books ledger context (vbar.region pageSize :: (vbarRegions less pageSize ++ regions))
      (vbar.holdings pageSize ++ (vbarHoldings less pageSize ++ rest))) :
    Books ledger context (vbarRegions whole pageSize ++ regions)
      (vbarHoldings whole pageSize ++ rest) := by
  rw [← List.append_assoc] at books
  exact books.perm ((more.perm_regions _).symm.append_right _)
    ((more.perm_holdings _).symm.append_right _)

theorem Reclaimed.refl (books : VbarBooks ledger context regions rest) :
    Reclaimed context.engine context.engine := ⟨.refl _, rfl, .refl books.sound⟩

/-- A step that leaves the tables alone keeps the books of the VBARs. -/
theorem VbarBooks.congr {after : Context σ} {rest' : List Holding}
    (kept : VbarBooks ledger context regions rest) (tables : SameTables context.engine after.engine)
    (books : Books ledger after regions
      (vbarHoldings context.engine.vbars context.engine.config.vbarPageSize ++ rest')) :
    VbarBooks ledger after regions rest' := by
  obtain ⟨⟨-, config, -⟩, vbars, -⟩ := tables
  refine ⟨?_, ?_, ?_, ?_, ?_⟩
  · rw [vbars]
    exact kept.sound
  · rw [config]
    exact kept.positive
  · rw [config]
    exact kept.allowed
  · rw [vbars, config]
    exact kept.inside
  · rw [vbars, config]
    exact books

theorem VbarBooks.log (kept : VbarBooks ledger context regions rest) (notice : Notice) :
    VbarBooks ledger { context with host := Host.log notice context.host } regions rest :=
  ⟨kept.sound, kept.positive, kept.allowed, kept.inside, kept.books.log notice⟩

theorem VbarBooks.markDirty (kept : VbarBooks ledger context regions rest) :
    VbarBooks ledger { context with engine := { context.engine with dirty := true } } regions
      rest :=
  ⟨kept.sound, kept.positive, kept.allowed, kept.inside, kept.books.engine rfl⟩

/-- The books of one VBAR apart from all others, which may be put back changed and with other memory
around them. -/
theorem VbarBooks.open (kept : VbarBooks ledger context regions rest)
    (live : context.engine.vbars.get? handle = some vbar) :
    ∃ others,
      Books ledger context regions
        (vbar.holdings context.engine.config.vbarPageSize ++ (others ++ rest)) ∧
      ∀ {after : Context σ} {new : Vbar} {rest' : List Holding},
        SameTables context.engine after.engine →
        Books ledger after regions
          (new.holdings context.engine.config.vbarPageSize ++ (others ++ rest')) →
        new.Consistent → new.region context.engine.config.vbarPageSize =
          vbar.region context.engine.config.vbarPageSize →
        VbarBooks ledger
          { after with engine :=
            { after.engine with vbars := after.engine.vbars.set handle new } } regions rest' := by
  obtain ⟨others, before, put⟩ := perm_vbarHoldings kept.sound.linked live
    context.engine.config.vbarPageSize
  refine ⟨others, ?_, fun {after new rest'} tables books consistent region => ?_⟩
  · apply kept.books.perm (.refl _)
    rw [← List.append_assoc]
    exact before.append_right rest
  · obtain ⟨⟨-, config, -⟩, vbars, -⟩ := tables
    refine ⟨?_, ?_, ?_, fun {other vbar'} live' => ?_, ?_⟩
    · rw [vbars]
      exact kept.sound.set consistent
    · rw [config]
      exact kept.positive
    · rw [config]
      exact kept.allowed
    · rw [config]
      rw [vbars] at live'
      by_cases same : other = handle
      · subst same
        rw [PriorityList.get?_set_self live new] at live'
        cases live'
        rw [region]
        exact kept.inside live
      · rw [PriorityList.get?_set_of_ne same] at live'
        exact kept.inside live'
    · refine Books.perm (books.engine rfl) (.refl _) ?_
      rw [vbars, config, ← List.append_assoc]
      exact ((put new).append_right rest').symm

/-- A commit puts new memory beside that of the VBARs, or leaves the books as they were. -/
theorem VbarBooks.commit {vaddr size : Nat} (kept : VbarBooks ledger context regions rest)
    (device : Int) (allowed : ledger.sizes size) (positive : 0 < size)
    (inside : ∃ region ∈ regions, region.base ≤ vaddr ∧ vaddr + size ≤ region.base + region.size) :
    Ensures ledger.aborts (Memory.commit vaddr size device) context (fun result after =>
      SameTables context.engine after.engine ∧
        match result with
        | .ok memory => VbarBooks ledger after regions (⟨vaddr, size, memory⟩ :: rest)
        | .error cause => VbarBooks ledger after regions rest ∧
            ledger.refuses cause vaddr size
              (vbarHoldings context.engine.vbars context.engine.config.vbarPageSize ++ rest)) := by
  apply (Memory.commit_spec kept.books allowed positive inside).mono
  intro result after outcome
  obtain ⟨tables, outcome⟩ := outcome
  refine ⟨tables, ?_⟩
  cases result with
  | ok memory => exact kept.congr tables (outcome.perm (.refl _) List.perm_middle.symm)
  | error cause => exact ⟨kept.congr tables outcome.1, outcome.2⟩

theorem VbarBooks.perm {rest' : List Holding} (kept : VbarBooks ledger context regions rest)
    (same : rest.Perm rest') : VbarBooks ledger context regions rest' :=
  ⟨kept.sound, kept.positive, kept.allowed, kept.inside,
    kept.books.perm (.refl _) (same.append_left _)⟩

theorem VbarBooks.perm_regions {regions' : List Region}
    (kept : VbarBooks ledger context regions rest) (same : regions.Perm regions') :
    VbarBooks ledger context regions' rest :=
  ⟨kept.sound, kept.positive, kept.allowed, fun live => same.mem_iff.mp (kept.inside live),
    kept.books.perm same (.refl _)⟩

/-- Moving a watermark and a limit changes no memory. -/
theorem VbarBooks.raise (kept : VbarBooks ledger context regions rest)
    (live : context.engine.vbars.get? handle = some vbar) {limit watermark : Nat}
    (limit_le : limit ≤ watermark) (raised : vbar.watermark ≤ watermark)
    (inside : watermark ≤ vbar.nrPages) :
    VbarBooks ledger { context with engine := { context.engine with
        vbars := context.engine.vbars.set handle
          { vbar with watermark, watermarkLimit := limit } } } regions rest := by
  obtain ⟨others, books, put⟩ := kept.open live
  exact put (.refl _) books ((kept.sound.consistent live).raise limit_le raised inside) rfl

/-- The order of the VBARs does not matter to the books. -/
theorem VbarBooks.reorder (kept : VbarBooks ledger context regions rest)
    {vbars : PriorityList Vbar} (linked : vbars.WellLinked)
    (same : vbars.toList.Perm context.engine.vbars.toList) :
    VbarBooks ledger { context with engine := { context.engine with vbars } } regions rest := by
  have lookup := kept.sound.linked.get?_eq_of_perm linked same
  refine ⟨⟨linked, fun {handle vbar} live => ?_⟩, kept.positive, kept.allowed,
    fun {handle vbar} live => ?_, ?_⟩
  · change vbars.get? handle = some vbar at live
    rw [lookup] at live
    exact kept.sound.consistent live
  · change vbars.get? handle = some vbar at live
    rw [lookup] at live
    exact kept.inside live
  · have values : context.engine.vbars.values.Perm vbars.values := (same.map Prod.snd).symm
    exact Books.perm (kept.books.engine rfl) (.refl _) ((values.flatMap_right fun vbar : Vbar =>
      vbar.holdings context.engine.config.vbarPageSize).append_right rest)

end VramOvercommit
