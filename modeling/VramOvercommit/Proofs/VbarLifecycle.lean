import VramOvercommit.Proofs.VbarOperations

set_option autoImplicit false

/-!
The life of a VBAR: operations that add one to the table, take one out or move one, and those that
change limits. All other VBARs are as before.
-/

namespace VramOvercommit.Vbars

open EngineM
open Attempt (lift)
open Eviction (checkVbars_spec)

variable {σ : Type} [Host σ] {ledger : Ledger σ} {context : Context σ} {handle : Handle}
  {vbar : Vbar}

/-! ## Adding and removing -/

theorem reservePages_spec {nrPages size : Nat} (sound : Sound ledger context)
    (allowed : ledger.aborts .overflow) :
    Ensures ledger.aborts (reservePages nrPages size).run context (fun result after =>
      after.engine = context.engine ∧
        match result with
        | .ok base => hostHolds nrPages Vbar.pageEntrySize = true ∧ Books ledger after
            (⟨base, size⟩ :: context.engine.regions) context.engine.holdings
        | .error _ => Sound ledger after) := by
  have asked := sound.roomBeside .pageMap 0 nrPages Vbar.pageEntrySize
  unfold reservePages
  rw [ensures_run_bind, ensures_run_lift, ensures_allocatesBeside]
  dsimp only
  split
  · rename_i granted
    have holds := Host.holds_of_roomBeside granted
    rw [Nat.zero_add] at holds
    rw [ensures_run_bind, ensures_run_lift]
    apply (Memory.reserve_spec asked.books allowed).mono
    intro answer after outcome
    obtain ⟨same, outcome⟩ := outcome
    cases answer with
    | ok base => exact ⟨same, holds, outcome.1⟩
    | error cause =>
      dsimp only
      rw [ensures_run_bind, ensures_run_lift, ensures_log, ensures_run_throw]
      exact ⟨same, (asked.congr (by rw [same]; exact .refl _) outcome).log _⟩
  · rw [ensures_run_bind, ensures_run_lift, ensures_log, ensures_run_throw]
    exact ⟨rfl, asked.log _⟩

theorem allocatesSlot_spec {aborts : Abort → Prop} {regions : List Region}
    {holdings : List Holding} (books : Books ledger context regions holdings) :
    Ensures aborts allocatesSlot context (fun _ after =>
      after.engine = context.engine ∧ Books ledger after regions holdings) := by
  unfold allocatesSlot
  rw [ensures_bind, ensures_engine]
  dsimp only
  split
  · rw [ensures_bind, ensures_allocates]
    have asked := books.room .slots 1
    split
    · rw [ensures_allocates]
      exact ⟨rfl, asked.room .freeSlots _⟩
    · exact ⟨rfl, asked⟩
  · exact ⟨rfl, books⟩

/-- A VBAR gets a slot, or its addresses are given back. -/
theorem insert_spec (vbar : Vbar) {size : Nat} {regions : List Region} {holdings : List Holding}
    (vbars : SoundVbars context.engine.vbars) (allowed : ledger.aborts .overflow)
    (books : Books ledger context (⟨vbar.base, size⟩ :: regions) holdings) :
    Ensures ledger.aborts (insert vbar size).run context (fun result after =>
      match result with
      | .ok handle => ∃ whole, OneMore context.engine.vbars whole handle vbar ∧
          after.engine = { context.engine with vbars := whole } ∧
          Books ledger after (⟨vbar.base, size⟩ :: regions) holdings
      | .error cause => cause = .hostOutOfMemory ∧ after.engine = context.engine ∧
          Books ledger after regions holdings) := by
  unfold insert
  rw [ensures_run_bind, ensures_run_lift]
  apply (allocatesSlot_spec books).mono
  intro granted after outcome
  obtain ⟨same, books⟩ := outcome
  dsimp only
  split
  · rw [ensures_run_lift, ensures_bind, ensures_engine, ensures_bind, same]
    obtain ⟨whole, handle, pushed, more⟩ | ⟨full, -⟩ := vbars.pushHighest vbar
    · rw [pushed, ensures_ensure_ok, ensures_bind, ensures_setVbars]
      exact ⟨whole, more, by rw [same], books.engine rfl⟩
    · rw [full]
      exact allowed
  · rw [ensures_run_bind, ensures_run_lift, ensures_bind, ensures_log]
    apply (Memory.freeAddress_spec (books.log _)).mono
    intro _ last outcome
    obtain ⟨unchanged, books⟩ := outcome
    exact ⟨rfl, unchanged.trans same, books⟩

/-- A new VBAR comes on top of all others, without any memory. -/
theorem allocate_spec {size : Nat} {device : Int} (sound : Sound ledger context)
    (allowed : ledger.aborts .overflow) :
    Ensures ledger.aborts (allocate size device).run context (fun _ after =>
      Sound ledger after ∧ Undisturbed context.engine after.engine) := by
  unfold allocate
  rw [ensures_run_bind, ensures_run_lift, ensures_log]
  dsimp only
  rw [ensures_run_bind, ensures_run_lift, ensures_engine]
  dsimp only
  rw [ensures_run_bind, ensures_run_lift]
  apply ensures_word (.inr allowed)
  intro _
  dsimp only
  generalize min (blocksFor size context.engine.config.vbarPageSize)
    (blocksFor context.engine.budget.capacity context.engine.config.vbarPageSize) = nrPages
  rw [ensures_run_bind]
  apply (reservePages_spec (sound.log _) allowed).mono
  intro result middle outcome
  obtain ⟨same, outcome⟩ := outcome
  cases result with
  | error cause => exact ⟨outcome, .of_eq same⟩
  | ok base =>
    dsimp only at same outcome ⊢
    obtain ⟨holds, books⟩ := outcome
    rw [ensures_run_bind]
    have vbars : SoundVbars middle.engine.vbars := by
      rw [same]
      exact sound.vbars
    apply (insert_spec (.fresh base device nrPages) vbars allowed books).mono
    intro result after outcome
    cases result with
    | error cause =>
      obtain ⟨-, unchanged, books⟩ := outcome
      have same := unchanged.trans same
      exact ⟨sound.congr (by rw [same]; exact .refl _) books, .of_eq same⟩
    | ok handle =>
      dsimp only at outcome ⊢
      obtain ⟨whole, more, added, books⟩ := outcome
      rw [same] at more added
      have table := more.sound_whole sound.vbars (Vbar.consistent_fresh _ _ _)
      have tables : after.engine.vbars = whole := by rw [added]
      rw [ensures_run_bind, ensures_run_lift, ensures_bind, ensures_markDirty, ensures_bind]
      apply checkVbars_spec (by rw [tables]; exact table)
      rw [ensures_log]
      have books : Books ledger after
          (vbarRegions whole context.engine.config.vbarPageSize ++
            bufferRegions context.engine.buffers)
          (vbarHoldings whole context.engine.config.vbarPageSize ++
            bufferHoldings context.engine.buffers) := by
        apply more.close_books
        rw [Vbar.region_fresh, Vbar.holdings_fresh, List.nil_append]
        exact books
      have setting : SameSetting context.engine after.engine := by
        rw [added]
        exact ⟨rfl, rfl, rfl⟩
      have buffers : after.engine.buffers = context.engine.buffers := by rw [added]
      refine ⟨sound.of_table ⟨setting.device, setting.config, setting.capacity⟩
        buffers (by rw [tables]; exact table)
        (by rw [tables]; exact ⟨ledger.log _ books.agrees, books.accounted.congr rfl⟩),
        ⟨setting.device, setting.config, setting.capacity⟩, fun other vbar live => ?_,
        fun other vbar live => ?_, fun other member => ?_⟩
      · exact ⟨vbar, tables ▸ more.get?_eq_some_iff.mpr (.inr live), .refl vbar⟩
      · exact ⟨vbar, tables ▸ more.get?_eq_some_iff.mpr (.inr live), .refl vbar⟩
      · change other ∈ after.engine.vbars.handles at member
        rw [tables] at member
        rcases List.mem_cons.mp (more.perm_handles.mem_iff.mp member) with rfl | old
        · refine .inr ⟨_, tables ▸ more.get?_eq_some_iff.mpr (.inl ⟨rfl, rfl⟩),
            Vbar.neverBacked_fresh _ _ _, ?_⟩
          rwa [Vbar.Held, Vbar.nrPages, Vbar.fresh, Array.size_replicate]
        · exact .inl old

/-- A freed VBAR leaves with its memory and its region; no other changes. -/
theorem free_spec (sound : Sound ledger context) :
    Ensures ledger.aborts (free handle).run context (fun _ after =>
      Sound ledger after ∧ SameSetting context.engine after.engine ∧
      OutliveAll context.engine.vbars after.engine.vbars (fun other => other = handle)
        (fun _ => False) (fun _ => False) (fun _ _ => False) ∧
      Arrives context.engine.vbars after.engine.vbars ∧
      after.engine.vbars.get? handle = none) := by
  unfold free
  rw [ensures_run_bind, ensures_run_lift, ensures_log]
  dsimp only
  rw [ensures_run_bind, Attempt.ensures_vbar]
  cases live : context.engine.vbars.get? handle with
  | none =>
    exact ⟨sound.log _, .refl _, outliveAll_of_endures (.refl _), arrives_of_handles rfl, rfl⟩
  | some vbar =>
    have kept := sound.vbarBooks
    have consistent := sound.vbars.consistent live
    dsimp only
    rw [ensures_run_lift, ensures_bind]
    apply ((Memory.synchronize_spec (sound.log _).books).weaken ledger.stops_aborts).mono
    rintro _ ⟨engine, host⟩ ⟨same, books⟩
    dsimp only at same books
    subst same
    rw [ensures_bind, ensures_engine, ensures_bind]
    obtain ⟨vbars, removed, more⟩ := sound.vbars.remove live
    have table := more.sound_rest sound.vbars
    have opened := more.open_books books
    rw [removed, ensures_ensure_ok, ensures_bind, ensures_setVbars, ensures_bind]
    refine Ensures.mono (releasePages_spec consistent.counted (by omega) kept.positive
      List.mem_cons_self (opened.engine rfl)) ?_
    intro left second outcome
    obtain ⟨changed, recounted, books⟩ := outcome
    have tables := recounted.tables
    have config : second.engine.config = context.engine.config := tables.config
    dsimp only at books
    rw [holdings_released changed, List.nil_append] at books
    rw [ensures_bind, ensures_pageSize, config, changed.nrPages, changed.base, ensures_bind]
    apply ensures_word ((opened.size_lt List.mem_cons_self).imp_right (ledger.stops_aborts _))
    intro _
    rw [ensures_bind]
    apply (Memory.freeAddress_spec books).mono
    intro _ third outcome
    obtain ⟨same', books⟩ := outcome
    have setting : SameSetting context.engine third.engine := by
      rw [same']
      exact ⟨tables.device, tables.config, tables.capacity⟩
    have last : third.engine.vbars = vbars := by rw [same', tables.vbars]
    have buffers : third.engine.buffers = context.engine.buffers := by
      rw [same', tables.buffers]
    rw [ensures_bind, ensures_markDirty]
    apply checkVbars_spec (by rw [last]; exact table)
    refine ⟨(sound.of_table setting buffers (by rw [last]; exact table) ?_).dirty true,
      ⟨setting.device, setting.config, setting.capacity⟩, ?_, ?_, ?_⟩
    · rw [last]
      exact books
    · intro other vbar' live' notFreed
      refine ⟨vbar', ?_, (Vbar.Spares.refl _).outlives fun _ => .refl _⟩
      change third.engine.vbars.get? other = some vbar'
      rw [last]
      rcases more.get?_eq_some_iff.mp live' with ⟨freed, -⟩ | others
      · exact absurd freed notFreed
      · exact others
    · intro other member
      change other ∈ third.engine.vbars.handles at member
      rw [last] at member
      exact .inl (more.perm_handles.mem_iff.mpr (List.mem_cons_of_mem _ member))
    · change third.engine.vbars.get? handle = none
      rw [last]
      exact more.not_live

/-! ## Order -/

theorem vbarRegions_perm {vbars other : PriorityList Vbar}
    (same : other.toList.Perm vbars.toList) (pageSize : Nat) :
    (vbarRegions other pageSize).Perm (vbarRegions vbars pageSize) := by
  have values : other.values.Perm vbars.values := same.map Prod.snd
  exact values.map fun vbar => vbar.region pageSize

theorem prioritize_spec (sound : Sound ledger context) :
    Ensures ledger.aborts (prioritize handle).run context (fun _ after =>
      Sound ledger after ∧ Undisturbed context.engine after.engine) := by
  unfold prioritize
  rw [ensures_run_bind, ensures_run_lift, ensures_log]
  dsimp only
  rw [ensures_run_bind, Attempt.ensures_vbar]
  cases live : context.engine.vbars.get? handle with
  | none => exact ⟨sound.log _, .refl _⟩
  | some vbar =>
    have consistent := sound.vbars.consistent live
    obtain ⟨vbars, front, back, moved, linked, before, entries⟩ :=
      sound.vbars.linked.moveToHighest live
    have same : vbars.toList.Perm context.engine.vbars.toList := by
      rw [before, entries]
      exact List.perm_middle.symm
    have lookup := sound.vbars.linked.get?_eq_of_perm linked same
    have live' : vbars.get? handle = some vbar := by rw [lookup, live]
    have kept := ((sound.log (.vbarPrioritized handle)).vbarBooks.reorder linked same).raise live'
      (Nat.le_trans consistent.limit_le consistent.watermark_le) consistent.watermark_le
      (Nat.le_refl vbar.nrPages)
    dsimp only
    rw [ensures_run_lift, ensures_bind, ensures_engine, ensures_bind, moved, ensures_ensure_ok,
      ensures_bind, ensures_setVbars, ensures_bind, ensures_putVbar, ensures_bind,
      ensures_markDirty]
    have region : Vbar.region { vbar with watermark := vbar.nrPages }
        context.engine.config.vbarPageSize = vbar.region context.engine.config.vbarPageSize := rfl
    have done := (sound.log (.vbarPrioritized handle)).of_vbarBooks kept ⟨rfl, rfl, rfl⟩ rfl
      ((perm_vbarRegions linked live' region).trans (vbarRegions_perm same _))
    have raised : vbar.Spares { vbar with watermark := vbar.nrPages } :=
      ⟨rfl, rfl, rfl, fun {index page} guarded => ⟨page, guarded.found, rfl, rfl, id⟩⟩
    have faded : vbar.Fades { vbar with watermark := vbar.nrPages } := .of_pages_eq rfl rfl
    refine checkVbars_spec kept.sound ⟨done.dirty true, ⟨rfl, rfl, rfl⟩, ?_, ?_, ?_⟩
    · intro other vbar' live''
      rw [← lookup] at live''
      exact SparesAll.set live' raised other vbar' live''
    · intro other vbar' live''
      rw [← lookup] at live''
      exact FadesAll.set live' faded other vbar' live''
    · intro other member
      have moved : other ∈ vbars.handles := linked.handles_set ▸ member
      exact .inl ((same.map Prod.fst).mem_iff.mp moved)

theorem deprioritize_spec (sound : Sound ledger context) :
    Ensures ledger.aborts (deprioritize handle).run context (fun _ after =>
      Sound ledger after ∧ Undisturbed context.engine after.engine) := by
  unfold deprioritize
  rw [ensures_run_bind, ensures_run_lift, ensures_log]
  dsimp only
  rw [ensures_run_bind, Attempt.ensures_vbar]
  cases live : context.engine.vbars.get? handle with
  | none => exact ⟨sound.log _, .refl _⟩
  | some vbar =>
    obtain ⟨vbars, front, back, moved, linked, before, entries⟩ :=
      sound.vbars.linked.moveToLowest live
    have same : vbars.toList.Perm context.engine.vbars.toList := by
      rw [before, entries]
      exact (List.perm_append_singleton _ _).trans List.perm_middle.symm
    have lookup := sound.vbars.linked.get?_eq_of_perm linked same
    have kept := (sound.log (.vbarDeprioritized handle)).vbarBooks.reorder linked same
    dsimp only
    rw [ensures_run_lift, ensures_bind, ensures_engine, ensures_bind, moved, ensures_ensure_ok,
      ensures_bind, ensures_setVbars, ensures_markDirty]
    have done := (sound.log (.vbarDeprioritized handle)).of_vbarBooks kept ⟨rfl, rfl, rfl⟩ rfl
      (vbarRegions_perm same _)
    have stays : ∀ {other : Handle} {vbar' : Vbar},
        context.engine.vbars.get? other = some vbar' → vbars.get? other = some vbar' := by
      intro other vbar' live'
      rw [lookup, live']
    exact ⟨done.dirty true, ⟨rfl, rfl, rfl⟩, fun other vbar' live' => ⟨vbar', stays live', .refl _⟩,
      fun other vbar' live' => ⟨vbar', stays live', .refl _⟩,
      fun other member => .inl ((same.map Prod.fst).mem_iff.mp member)⟩

/-! ## Limits -/

theorem setWatermarkLimit_spec {size : Nat} (sound : Sound ledger context) :
    Ensures ledger.aborts (setWatermarkLimit handle size).run context (fun _ after =>
      Sound ledger after ∧ SameSetting context.engine after.engine ∧
      OutliveAll context.engine.vbars after.engine.vbars (fun _ => False) (fun _ => False)
        (fun other => other = handle) (fun _ _ => False) ∧
      Arrives context.engine.vbars after.engine.vbars) := by
  unfold setWatermarkLimit
  rw [ensures_run_bind, Attempt.ensures_vbar]
  cases live : context.engine.vbars.get? handle with
  | none => exact ⟨sound, .refl _, outliveAll_of_endures (.refl _), arrives_of_handles rfl⟩
  | some vbar =>
    have consistent := sound.vbars.consistent live
    have inside := consistent.watermark_le
    dsimp only
    rw [ensures_run_lift, ensures_bind, ensures_pageSize]
    generalize limit_eq : min (blocksFor size context.engine.config.vbarPageSize) vbar.nrPages =
      limit
    have raised : max vbar.watermark limit ≤ vbar.nrPages := by omega
    have kept := sound.vbarBooks.raise live (Nat.le_max_right vbar.watermark limit)
      (Nat.le_max_left _ _) raised
    rw [ensures_bind, ensures_putVbar, ensures_bind, ensures_log, ensures_bind, ensures_markDirty]
    refine checkVbars_spec kept.sound
      ⟨?_, ⟨rfl, rfl, rfl⟩, ?_, arrives_of_handles sound.vbars.linked.handles_set⟩
    · exact ((sound.putVbar live (.refl _) kept rfl).log _).dirty true
    · refine outliveAll_set live (Vbar.outlives_of_pages rfl rfl fun stays => ?_)
      exact absurd rfl stays

theorem clearLimits_spec {handles : List Handle} (sound : Sound ledger context) :
    Ensures ledger.aborts (handles.forM clearLimit) context (fun _ after =>
      Sound ledger after ∧ SameSetting context.engine after.engine ∧
      after.engine.vbars.handles = context.engine.vbars.handles ∧
      ∀ (handle : Handle) (vbar : Vbar), context.engine.vbars.get? handle = some vbar →
        ∃ left, after.engine.vbars.get? handle = some left ∧ left.base = vbar.base ∧
          left.pages = vbar.pages) := by
  induction handles generalizing context with
  | nil => exact ⟨sound, .refl _, rfl, fun _ vbar live => ⟨vbar, live, rfl, rfl⟩⟩
  | cons handle others ih =>
    change Ensures ledger.aborts (clearLimit handle >>= fun _ => others.forM clearLimit) context _
    unfold clearLimit
    rw [ensures_bind, ensures_bind, ensures_vbar?]
    cases live : context.engine.vbars.get? handle with
    | none => exact ih sound
    | some vbar =>
      dsimp only
      rw [ensures_putVbar]
      have consistent := sound.vbars.consistent live
      have kept := sound.vbarBooks.raise live (Nat.zero_le vbar.watermark) (Nat.le_refl _)
        consistent.watermark_le
      apply (ih (sound.putVbar live (.refl _) kept rfl)).mono
      intro _ after outcome
      obtain ⟨done, setting, same, pages⟩ := outcome
      refine ⟨done, ⟨setting.device, setting.config, setting.capacity⟩,
        same.trans sound.vbars.linked.handles_set, fun other vbar' live' => ?_⟩
      by_cases same : other = handle
      · subst same
        rw [live] at live'
        cases live'
        obtain ⟨left, remains, base, same⟩ := pages other _ (PriorityList.get?_set_self live _)
        exact ⟨left, remains, base, same⟩
      · exact pages other vbar' (by
          change (context.engine.vbars.set handle _).get? other = _
          rw [PriorityList.get?_set_of_ne same, live'])

theorem resetWatermarkLimits_spec (sound : Sound ledger context) :
    Ensures ledger.aborts resetWatermarkLimits context (fun _ after =>
      Sound ledger after ∧ SameSetting context.engine after.engine ∧
      OutliveAll context.engine.vbars after.engine.vbars (fun _ => False) (fun _ => False)
        (fun _ => True) (fun _ _ => False) ∧
      Arrives context.engine.vbars after.engine.vbars) := by
  unfold resetWatermarkLimits
  rw [ensures_bind, ensures_log, ensures_bind, ensures_engine, ensures_bind]
  apply (clearLimits_spec (sound.log _)).mono
  intro _ after outcome
  obtain ⟨done, setting, same, pages⟩ := outcome
  refine ⟨done.dirty true, ⟨setting.device, setting.config, setting.capacity⟩, ?_,
    arrives_of_handles same⟩
  intro handle vbar live _
  obtain ⟨left, remains, base, same⟩ := pages handle vbar live
  exact ⟨left, remains, Vbar.outlives_of_pages base same fun stays => absurd trivial stays⟩

end VramOvercommit.Vbars
