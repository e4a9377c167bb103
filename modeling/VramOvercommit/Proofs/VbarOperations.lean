import VramOvercommit.Proofs.Faulting

set_option autoImplicit false

/-!
The other operations of VBARs. Each leaves a sound context and says what became of every VBAR.
-/

namespace VramOvercommit.Vbars

open EngineM
open Attempt (lift)
open Eviction (PageAction evictPage_spec checkVbars_spec)

variable {σ : Type} [Host σ] {ledger : Ledger σ} {context : Context σ} {regions : List Region}
  {rest : List Holding} {handle : Handle} {vbar : Vbar}

/-! ## Unpinning -/

/-- What unpinning does to a page: those the watermark passed are freed. -/
def unpinAction (watermark index : Nat) : PageAction := ⟨watermark ≤ index, true⟩

/-- A walk takes an action on every page of a range, which may depend on the watermark. -/
theorem walkPages_spec {walk : Nat → Nat → Vbar → EngineM σ Vbar} {action : Nat → Nat → PageAction}
    (stops : ∀ index vbar, walk 0 index vbar = pure vbar)
    (steps : ∀ count index vbar, walk (count + 1) index vbar = do
      let (vbar, _) ← Eviction.evictPage vbar index (action vbar.watermark index)
      walk count (index + 1) vbar)
    {count index : Nat} {others : List Holding} (counted : vbar.countResident = vbar.residentCount)
    (inside : index + count ≤ vbar.nrPages)
    (positive : 0 < context.engine.config.vbarPageSize)
    (region : vbar.region context.engine.config.vbarPageSize ∈ regions)
    (books : Books ledger context regions
      (vbar.holdings context.engine.config.vbarPageSize ++ others)) :
    Ensures ledger.stops (walk count index vbar) context (fun left after =>
      vbar.Changed left index count
        (fun index page => (action vbar.watermark index).apply page) ∧
      Recounted context.engine after.engine ∧
      Books ledger after regions
        (left.holdings context.engine.config.vbarPageSize ++ others)) := by
  induction count generalizing vbar index context with
  | zero =>
    rw [stops]
    exact ⟨.zero counted, .refl _, books⟩
  | succ count ih =>
    have within : index < vbar.pages.size := by
      unfold Vbar.nrPages at inside
      omega
    have found : vbar.pages[index]? = some vbar.pages[index] := Array.getElem?_eq_getElem within
    rw [steps, ensures_bind]
    apply (evictPage_spec counted found positive region books).mono
    intro _ middle outcome
    obtain ⟨rfl, recounted, books⟩ := outcome
    have config := recounted.tables.config
    rw [← config] at positive region books ⊢
    refine (ih rfl ?_ positive ?_ books).mono ?_
    · rw [Vbar.write_nrPages]
      omega
    · rw [Vbar.region, Vbar.write_nrPages]
      exact region
    · intro left after outcome
      obtain ⟨changed, recounted', books⟩ := outcome
      exact ⟨.step found changed, recounted.trans recounted', books⟩

theorem unpinPages_spec {count index : Nat} {others : List Holding}
    (counted : vbar.countResident = vbar.residentCount)
    (inside : index + count ≤ vbar.nrPages)
    (positive : 0 < context.engine.config.vbarPageSize)
    (region : vbar.region context.engine.config.vbarPageSize ∈ regions)
    (books : Books ledger context regions
      (vbar.holdings context.engine.config.vbarPageSize ++ others)) :
    Ensures ledger.stops (unpinPages count index vbar) context (fun left after =>
      vbar.Changed left index count
        (fun index page => (unpinAction vbar.watermark index).apply page) ∧
      Recounted context.engine after.engine ∧
      Books ledger after regions
        (left.holdings context.engine.config.vbarPageSize ++ others)) :=
  walkPages_spec (fun _ _ => rfl) (fun _ _ _ => rfl) counted inside positive region books

/-- Taking the backing of every page away leaves no memory with the VBAR. -/
theorem releasePages_spec {count index : Nat} {others : List Holding}
    (counted : vbar.countResident = vbar.residentCount)
    (inside : index + count ≤ vbar.nrPages)
    (positive : 0 < context.engine.config.vbarPageSize)
    (region : vbar.region context.engine.config.vbarPageSize ∈ regions)
    (books : Books ledger context regions
      (vbar.holdings context.engine.config.vbarPageSize ++ others)) :
    Ensures ledger.aborts (releasePages count index vbar) context (fun left after =>
      vbar.Changed left index count (fun _ page => PageAction.apply ⟨true, true⟩ page) ∧
      Recounted context.engine after.engine ∧
      Books ledger after regions
        (left.holdings context.engine.config.vbarPageSize ++ others)) :=
  (@walkPages_spec _ _ _ _ _ _ releasePages (fun _ _ => ⟨true, true⟩) (fun _ _ => rfl)
    (fun _ _ _ => rfl) _ _ _ counted inside positive region books).weaken ledger.stops_aborts

theorem holdings_released {left : Vbar}
    (released : vbar.Changed left 0 vbar.nrPages
      (fun _ page => PageAction.apply ⟨true, true⟩ page)) (pageSize : Nat) :
    left.holdings pageSize = [] := by
  rw [List.eq_nil_iff_forall_not_mem]
  intro holding member
  obtain ⟨index, page, memory, found, backing, -⟩ := Vbar.mem_holdings.mp member
  rw [released.pages] at found
  obtain ⟨old, found', rfl⟩ := Option.map_eq_some_iff.mp found
  have inside : index < vbar.nrPages := (Array.getElem?_eq_some_iff.mp found').1
  rw [if_pos (by omega)] at backing
  simp [PageAction.apply] at backing

/-- The end of the pages that an unpin reaches. -/
def unpinEnd (offset size pageSize nrPages : Nat) : Nat :=
  match rangeEnd? offset size with
  | some stop => min (blocksFor stop pageSize) nrPages
  | none => nrPages

theorem unpinEnd_le (offset size pageSize nrPages : Nat) :
    unpinEnd offset size pageSize nrPages ≤ nrPages := by
  unfold unpinEnd
  split
  · exact Nat.min_le_right _ _
  · exact Nat.le_refl _

/-- Unpinning the pages of a VBAR from `start` to `stop`. -/
def unpinRange (handle : Handle) (vbar : Vbar) (start stop : Nat) : EngineM σ Unit := do
  if vbar.watermark < stop then Memory.synchronize
  let vbar ← unpinPages (stop - start) start vbar
  putVbar handle vbar
  markDirty
  checkVbars

theorem unpinRange_eq (handle : Handle) (vbar : Vbar) (start stop : Nat) :
    (unpinRange handle vbar start stop : EngineM σ Unit) =
      ((if vbar.watermark < stop then Memory.synchronize else pure ()) >>= fun _ => do
        let vbar ← unpinPages (stop - start) start vbar
        putVbar handle vbar
        markDirty
        checkVbars) := by
  unfold unpinRange
  split <;> rfl

theorem unpin_eq (handle : Handle) (offset size : Nat) :
    (unpin handle offset size : Attempt σ Unit) = (do
      let vbar ← Attempt.vbar handle
      lift do
        let pageSize ← pageSize
        unpinRange handle vbar
          (min (offset / pageSize) (unpinEnd offset size pageSize vbar.nrPages))
          (unpinEnd offset size pageSize vbar.nrPages)) := rfl

theorem region_of_changed {left : Vbar} {start count : Nat} {change : Nat → Page → Page}
    (changed : vbar.Changed left start count change) (pageSize : Nat) :
    left.region pageSize = vbar.region pageSize := by
  rw [Vbar.region, Vbar.region, changed.base, changed.nrPages]

theorem consistent_unpinned {left : Vbar} {start count : Nat} (consistent : vbar.Consistent)
    (unpinned : vbar.Changed left start count
      (fun index page => (unpinAction vbar.watermark index).apply page)) : left.Consistent := by
  refine unpinned.consistent consistent ?_ ?_
  · intro index page _ _ _ pinned
    simp [unpinAction, PageAction.apply] at pinned
  · intro index page _ _ _ above resident
    simp [unpinAction, PageAction.apply, Page.isResident, above] at resident

/-- Every page of the range loses its pin, and its backing if the watermark has passed it. -/
theorem unpinRange_spec {start stop : Nat} (sound : Sound ledger context)
    (live : context.engine.vbars.get? handle = some vbar) (le : start ≤ stop)
    (inside : stop ≤ vbar.nrPages) :
    Ensures ledger.stops (unpinRange handle vbar start stop) context (fun _ after =>
      Sound ledger after ∧ ∃ left,
        vbar.Changed left start (stop - start)
          (fun index page => (unpinAction vbar.watermark index).apply page) ∧
        after.engine = { context.engine with
          vbars := context.engine.vbars.set handle left
          budget := { context.engine.budget with
            residentUsage := after.engine.budget.residentUsage }
          dirty := true }) := by
  have consistent := sound.vbars.consistent live
  have waited : Ensures ledger.stops
      (if vbar.watermark < stop then Memory.synchronize else pure ()) context (fun _ between =>
        between.engine = context.engine ∧
          Books ledger between context.engine.regions context.engine.holdings) := by
    split
    · exact Memory.synchronize_spec sound.books
    · exact ⟨rfl, sound.books⟩
  rw [unpinRange_eq, ensures_bind]
  apply waited.mono
  rintro _ ⟨engine, host⟩ ⟨same, books⟩
  dsimp only at same books
  subst same
  have sound : Sound ledger ⟨context.engine, host⟩ := sound.congr (.refl _) books
  have kept := sound.vbarBooks
  obtain ⟨others, books, put⟩ := kept.open live
  rw [ensures_bind]
  refine Ensures.mono (unpinPages_spec consistent.counted (by omega) kept.positive
    (kept.inside live) books) ?_
  intro left after outcome
  obtain ⟨changed, recounted, books⟩ := outcome
  have tables := recounted.tables
  have region := region_of_changed changed context.engine.config.vbarPageSize
  have kept' := put tables books (consistent_unpinned consistent changed) region
  rw [ensures_bind, ensures_putVbar, ensures_bind, ensures_markDirty]
  refine checkVbars_spec kept'.sound ?_
  refine ⟨(sound.putVbar live tables kept' region).dirty true, left, changed, ?_⟩
  dsimp only
  rw [tables.vbars]
  exact congrArg (fun engine : Engine =>
    { engine with vbars := context.engine.vbars.set handle left, dirty := true }) recounted

/-- The pages from the one a range starts in up to the one it ends in; a range that ends beyond the
words reaches all that follow its start. -/
def Covers (pageSize offset size index : Nat) : Prop :=
  offset / pageSize ≤ index ∧
    (offset + size < wordLimit → index < blocksFor (offset + size) pageSize)

theorem covers_of_unpinned {offset size pageSize index : Nat}
    (low : min (offset / pageSize) (unpinEnd offset size pageSize vbar.nrPages) ≤ index)
    (high : index < unpinEnd offset size pageSize vbar.nrPages) :
    Covers pageSize offset size index := by
  refine ⟨by omega, fun word => ?_⟩
  unfold unpinEnd rangeEnd? at high
  rw [if_pos word] at high
  exact Nat.lt_of_lt_of_le high (Nat.min_le_left _ _)

/-- Every VBAR that is not freed remains, with what is kept of it. -/
def OutliveAll (before after : PriorityList Vbar) (freed faulted relimited : Handle → Prop)
    (unpinned : Handle → Nat → Prop) : Prop :=
  ∀ (handle : Handle) (vbar : Vbar), before.get? handle = some vbar → ¬ freed handle →
    ∃ left, after.get? handle = some left ∧
      vbar.Outlives left (faulted handle) (relimited handle) (unpinned handle)

variable {freed faulted relimited : Handle → Prop} {unpinned : Handle → Nat → Prop}

theorem outliveAll_of_spares {before after : PriorityList Vbar} (spares : SparesAll before after)
    (fades : ∀ (handle : Handle) (vbar : Vbar), before.get? handle = some vbar →
      ¬ faulted handle → ∃ left, after.get? handle = some left ∧ vbar.Fades left) :
    OutliveAll before after freed faulted relimited unpinned := by
  intro handle vbar live _
  obtain ⟨left, live', kept⟩ := spares handle vbar live
  refine ⟨left, live', kept.outlives fun unfaulted => ?_⟩
  obtain ⟨left', live'', faded⟩ := fades handle vbar live unfaulted
  rw [live'] at live''
  cases live''
  exact faded

theorem outliveAll_of_endures {before after : PriorityList Vbar}
    (endures : Endures before after) :
    OutliveAll before after freed faulted relimited unpinned :=
  outliveAll_of_spares endures.spares fun handle vbar live _ => endures.fades handle vbar live

theorem outliveAll_set {vbars : PriorityList Vbar} {new : Vbar}
    (live : vbars.get? handle = some vbar)
    (outlives : vbar.Outlives new (faulted handle) (relimited handle) (unpinned handle)) :
    OutliveAll vbars (vbars.set handle new) freed faulted relimited unpinned := by
  intro other vbar' live' _
  exact exists_related_set (fun other before after =>
      before.Outlives after (faulted other) (relimited other) (unpinned other)) live outlives
    (fun _ vbar => (Vbar.Spares.refl vbar).outlives fun _ => .refl vbar) other vbar' live'

/-- No VBAR arrives where the table has the same handles. -/
theorem arrives_of_handles {before after : PriorityList Vbar}
    (handles : after.handles = before.handles) : Arrives before after :=
  fun _ member => .inl (handles ▸ member)

theorem unpin_spec {offset size : Nat} (sound : Sound ledger context) :
    Ensures ledger.aborts (unpin handle offset size).run context (fun _ after =>
      Sound ledger after ∧ SameSetting context.engine after.engine ∧
      OutliveAll context.engine.vbars after.engine.vbars (fun _ => False) (fun _ => False)
        (fun _ => False) (fun other index => other = handle ∧
          Covers context.engine.config.vbarPageSize offset size index) ∧
      Arrives context.engine.vbars after.engine.vbars) := by
  rw [unpin_eq, ensures_run_bind, Attempt.ensures_vbar]
  cases live : context.engine.vbars.get? handle with
  | none => exact ⟨sound, .refl _, outliveAll_of_endures (.refl _), arrives_of_handles rfl⟩
  | some vbar =>
    dsimp only
    rw [ensures_run_lift, ensures_bind, ensures_pageSize]
    apply ((unpinRange_spec sound live (Nat.min_le_right _ _) (unpinEnd_le _ _ _ _)).weaken
      ledger.stops_aborts).mono
    intro _ after outcome
    obtain ⟨done, left, changed, unpinned⟩ := outcome
    have vbars : after.engine.vbars = context.engine.vbars.set handle left := by rw [unpinned]
    refine ⟨done, by rw [unpinned]; exact ⟨rfl, rfl, rfl⟩, ?_,
      arrives_of_handles (vbars ▸ sound.vbars.linked.handles_set)⟩
    rw [vbars]
    refine outliveAll_set live ⟨changed.base, changed.nrPages, fun _ => changed.watermarkLimit, ?_,
      fun _ => changed.fades fun _ page => ⟨rfl, ?_⟩⟩
    swap
    · unfold PageAction.apply
      dsimp only
      split
      · exact .inr rfl
      · exact .inl rfl
    intro index page found resident guarded
    have found' := changed.pages index
    rw [found, Option.map_some] at found'
    split at found'
    · rename_i inside
      have covered := covers_of_unpinned inside.1 (by omega : index < _)
      rcases guarded with ⟨-, notCovered⟩ | below
      · exact absurd ⟨rfl, covered⟩ notCovered
      · -- the watermark has not passed a page below the limit
        have limit := (sound.vbars.consistent live).limit_le
        have notPassed : ¬ vbar.watermark ≤ index := by omega
        refine ⟨_, found', ?_, rfl, fun _ notCovered => absurd ⟨rfl, covered⟩ notCovered⟩
        simp [unpinAction, PageAction.apply, notPassed]
    · exact ⟨page, found', rfl, rfl, fun pin _ => pin⟩

end VramOvercommit.Vbars
