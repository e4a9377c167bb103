import VramOvercommit.Proofs.VbarOperations

set_option autoImplicit false

/-!
What several unpins of one VBAR come to. It is told by the pages that any of the ranges reaches:
neither their order nor how often a page is reached leaves a trace.
-/

namespace VramOvercommit

/-! ## Ranges -/

namespace Vbars

/-- Whether a range, an offset and a size, reaches a page: from the page it starts in up to the one
it ends in. The end may be a number of any size. -/
def spans (pageSize : Nat) (range : Nat × Nat) (index : Nat) : Bool :=
  range.1 / pageSize ≤ index && index < blocksFor (range.1 + range.2) pageSize

/-- Whether any of the ranges reaches a page. -/
def spanned (pageSize : Nat) (ranges : List (Nat × Nat)) (index : Nat) : Bool :=
  ranges.any fun range => spans pageSize range index

theorem spanned_perm {pageSize : Nat} {order ranges : List (Nat × Nat)}
    (same : order.Perm ranges) : spanned pageSize order = spanned pageSize ranges :=
  funext fun _ => same.any_eq

end Vbars

namespace Vbar

/-- The end of the pages that a range reaches, as far as the VBAR has any. -/
def reach (vbar : Vbar) (pageSize : Nat) (range : Nat × Nat) : Nat :=
  min (blocksFor (range.1 + range.2) pageSize) vbar.nrPages

theorem reach_le (vbar : Vbar) (pageSize : Nat) (range : Nat × Nat) :
    vbar.reach pageSize range ≤ vbar.nrPages := Nat.min_le_right _ _

variable {vbar : Vbar} {pageSize index : Nat} {range : Nat × Nat}

/-- A range that ends beyond the words ends beyond every VBAR. -/
theorem unpinEnd_eq_reach (positive : 0 < pageSize) (small : vbar.nrPages * pageSize < wordLimit)
    (range : Nat × Nat) :
    Vbars.unpinEnd range.1 range.2 pageSize vbar.nrPages = vbar.reach pageSize range := by
  unfold Vbars.unpinEnd rangeEnd? reach
  split <;> rename_i found
  · split at found <;> cases found
    rfl
  · split at found
    · cases found
    · have beyond : vbar.nrPages < blocksFor (range.1 + range.2) pageSize := by
        refine (lt_blocksFor_iff positive).mpr ?_
        omega
      omega

/-- The pages that an unpin goes through are those that its range reaches. -/
theorem walked_iff_spans (below : index < vbar.nrPages) :
    min (range.1 / pageSize) (vbar.reach pageSize range) ≤ index ∧
        index < vbar.reach pageSize range ↔ Vbars.spans pageSize range index = true := by
  simp only [Vbars.spans, reach, Bool.and_eq_true, decide_eq_true_eq]
  omega

/-- Whether the unpin of a range waits for the device: only pages beyond the watermark lose their
memory. -/
def awaits (vbar : Vbar) (pageSize : Nat) (range : Nat × Nat) : Bool :=
  vbar.watermark < vbar.reach pageSize range

end Vbar

/-- The page without its pin, and without its memory if the watermark has passed it. -/
def Page.unpinned (page : Page) (passed : Bool) : Page :=
  { page with pinned := false, backing := if passed then none else page.backing }

theorem Page.unpinned_unpinned (page : Page) (passed : Bool) :
    (page.unpinned passed).unpinned passed = page.unpinned passed := by
  cases passed <;> rfl

namespace Vbar

variable {vbar left : Vbar} {pageSize : Nat} {reached more : Nat → Bool}

/-! ## Pages -/

/-- The VBAR after the pages that were reached lost their pins, and those of them that the watermark
has passed their memory as well. -/
def unpinned (vbar : Vbar) (reached : Nat → Bool) : Vbar :=
  let pages := vbar.pages.mapIdx fun index page =>
    if reached index then page.unpinned (vbar.watermark ≤ index) else page
  { vbar with pages, residentCount := pages.countP Page.isResident }

@[simp] theorem unpinned_watermark : (vbar.unpinned reached).watermark = vbar.watermark := rfl

@[simp] theorem unpinned_nrPages : (vbar.unpinned reached).nrPages = vbar.nrPages :=
  Array.size_mapIdx

theorem counted_unpinned (vbar : Vbar) (reached : Nat → Bool) :
    (vbar.unpinned reached).countResident = (vbar.unpinned reached).residentCount := rfl

theorem getElem?_unpinned (vbar : Vbar) (reached : Nat → Bool) (index : Nat) :
    (vbar.unpinned reached).pages[index]? = vbar.pages[index]?.map fun page =>
      if reached index then page.unpinned (vbar.watermark ≤ index) else page :=
  Array.getElem?_mapIdx

/-- Where no page is reached nothing changes. -/
theorem unpinned_unreached (counted : vbar.countResident = vbar.residentCount) :
    vbar.unpinned (fun _ => false) = vbar := by
  refine eq_of_pages rfl rfl rfl rfl (counted_unpinned _ _) counted fun index => ?_
  rw [getElem?_unpinned]
  exact Option.map_id'

/-- What is reached once and what is reached later is reached. -/
theorem unpinned_unpinned (vbar : Vbar) (reached more : Nat → Bool) :
    (vbar.unpinned reached).unpinned more =
      vbar.unpinned fun index => reached index || more index := by
  refine eq_of_pages rfl rfl rfl rfl (counted_unpinned _ _) (counted_unpinned _ _) fun index => ?_
  rw [getElem?_unpinned, getElem?_unpinned, getElem?_unpinned, Option.map_map]
  congr 1
  funext page
  dsimp only [Function.comp]
  cases reached index <;> cases more index
  · rfl
  · rfl
  · rfl
  · exact page.unpinned_unpinned _

/-- A walk that unpins the pages that are reached leaves the VBAR unpinned. -/
theorem Changed.eq_unpinned {start count : Nat}
    (changed : vbar.Changed left start count
      fun index page => (Vbars.unpinAction vbar.watermark index).apply page)
    (walked : ∀ index < vbar.nrPages,
      start ≤ index ∧ index < start + count ↔ reached index = true) :
    left = vbar.unpinned reached := by
  refine eq_of_pages changed.base changed.device changed.watermark changed.watermarkLimit
    changed.counted (counted_unpinned _ _) fun index => ?_
  rw [changed.pages, getElem?_unpinned]
  cases found : vbar.pages[index]? with
  | none => rfl
  | some page =>
    have inside := walked index (Array.getElem?_eq_some_iff.mp found).1
    simp [inside, Vbars.unpinAction, Eviction.PageAction.apply, Page.unpinned]

/-! ## Memory -/

/-- The memory that pages lose which were reached: that of the pages the watermark has passed. -/
def released (vbar : Vbar) (pageSize : Nat) (reached : Nat → Bool) : List Holding :=
  vbar.pages.toList.zipIdx.filterMap fun entry =>
    if reached entry.2 && vbar.watermark ≤ entry.2 then
      entry.1.backing.map fun memory => ⟨vbar.base + entry.2 * pageSize, pageSize, memory⟩
    else none

/-- Pages hold what they held but for the memory that was taken from some of them. -/
theorem perm_pageHoldings {taken : Nat → Bool} {change : Nat → Page → Page}
    (backing : ∀ (index : Nat) (page : Page),
      (change index page).backing = if taken index then none else page.backing)
    (base pageSize index : Nat) (pages : List Page) :
    (pageHoldings base pageSize index pages).Perm
      ((pages.zipIdx index).filterMap (fun entry =>
          if taken entry.2 then
            entry.1.backing.map fun memory => ⟨base + entry.2 * pageSize, pageSize, memory⟩
          else none) ++
        pageHoldings base pageSize index
          (pages.mapIdx fun place page => change (index + place) page)) := by
  induction pages generalizing index with
  | nil => exact .refl _
  | cons page rest ih =>
    have others := ih (index + 1)
    simp only [Nat.add_assoc, Nat.add_comm 1] at others
    have first := backing index page
    rw [List.mapIdx_cons, Nat.add_zero, List.zipIdx_cons, List.filterMap_cons, pageHoldings,
      pageHoldings, Page.holdings, Page.holdings, first]
    dsimp only
    cases taken index with
    | true =>
      generalize page.backing = backing
      cases backing with
      | none => exact others
      | some memory => exact others.cons _
    | false => exact (others.append_left _).trans (List.perm_append_comm_assoc _ _ _)

/-- A VBAR that is unpinned holds what it held but for what was released. -/
theorem perm_holdings_unpinned (vbar : Vbar) (pageSize : Nat) (reached : Nat → Bool) :
    (vbar.holdings pageSize).Perm
      (vbar.released pageSize reached ++ (vbar.unpinned reached).holdings pageSize) := by
  have parted := @perm_pageHoldings (fun index => reached index && vbar.watermark ≤ index)
    (fun index page => if reached index then page.unpinned (vbar.watermark ≤ index) else page)
    (fun index page => by cases reached index <;> rfl) vbar.base pageSize 0 vbar.pages.toList
  simp only [Nat.zero_add] at parted
  unfold holdings released unpinned
  rw [Array.toList_mapIdx]
  exact parted

@[simp] theorem awaits_unpinned :
    (vbar.unpinned reached).awaits pageSize = vbar.awaits pageSize := by
  funext range
  rw [awaits, awaits, reach, reach, unpinned_nrPages, unpinned_watermark]

end Vbar

/-! ## Engines -/

/-- The engine after ranges of one of its VBARs were unpinned. -/
def Engine.unpinned (engine : Engine) (handle : Handle) (vbar : Vbar) (ranges : List (Nat × Nat)) :
    Engine :=
  let reached := Vbars.spanned engine.config.vbarPageSize ranges
  { engine with
    vbars := engine.vbars.set handle (vbar.unpinned reached)
    budget := { engine.budget with
      residentUsage := engine.budget.residentUsage -
        heldBytes (vbar.released engine.config.vbarPageSize reached) }
    dirty := engine.dirty || !ranges.isEmpty }

theorem Engine.unpinned_perm {order ranges : List (Nat × Nat)} (same : order.Perm ranges)
    (engine : Engine) (handle : Handle) (vbar : Vbar) :
    engine.unpinned handle vbar order = engine.unpinned handle vbar ranges := by
  unfold Engine.unpinned
  rw [Vbars.spanned_perm same, same.isEmpty_eq]

namespace Vbars

/-- What unpins change of an engine, with whatever is left on the account. -/
def Unpins (handle : Handle) (vbar : Vbar) (reached : Nat → Bool) (marked : Bool)
    (before after : Engine) : Prop :=
  after = { before with
    vbars := before.vbars.set handle (vbar.unpinned reached)
    budget := { before.budget with residentUsage := after.budget.residentUsage }
    dirty := before.dirty || marked }

variable {handle : Handle} {vbar : Vbar} {reached more : Nat → Bool} {marked again : Bool}
  {before middle after : Engine}

theorem Unpins.none (live : before.vbars.get? handle = some vbar)
    (counted : vbar.countResident = vbar.residentCount) :
    Unpins handle vbar (fun _ => false) false before before := by
  unfold Unpins
  rw [Vbar.unpinned_unreached counted, PriorityList.set_get?_self live, Bool.or_false]

/-- Unpins of a VBAR one after the other. -/
theorem Unpins.trans (first : Unpins handle vbar reached marked before middle)
    (second : Unpins handle (vbar.unpinned reached) more again middle after) :
    Unpins handle vbar (fun index => reached index || more index) (marked || again) before
      after := by
  unfold Unpins at *
  rw [second, first]
  simp only [Vbar.unpinned_unpinned, PriorityList.set_set, Bool.or_assoc]

theorem Unpins.live (unpins : Unpins handle vbar reached marked before after)
    (live : before.vbars.get? handle = some vbar) :
    after.vbars.get? handle = some (vbar.unpinned reached) := by
  rw [unpins]
  exact PriorityList.get?_set_self live _

/-- What is held comes apart into what was released and what is still held. -/
theorem Unpins.perm_holdings (unpins : Unpins handle vbar reached marked before after)
    (linked : before.vbars.WellLinked) (live : before.vbars.get? handle = some vbar) :
    before.holdings.Perm (vbar.released before.config.vbarPageSize reached ++ after.holdings) := by
  obtain ⟨others, held, put⟩ := perm_vbarHoldings linked live before.config.vbarPageSize
  have parted := vbar.perm_holdings_unpinned before.config.vbarPageSize reached
  have left := put (vbar.unpinned reached)
  rw [unpins]
  unfold Engine.holdings
  rw [← List.append_assoc]
  refine List.Perm.append_right _ (held.trans ((parted.append_right _).trans ?_))
  rw [List.append_assoc]
  exact left.symm.append_left _

variable {σ : Type} [Host σ] {ledger : Ledger σ} {context last : Context σ}

/-- What was released is no longer on the account. -/
theorem Unpins.eq_unpinned {ranges : List (Nat × Nat)} (distinct : ledger.distinct)
    (sound : Sound ledger context) (sound' : Sound ledger last)
    (live : context.engine.vbars.get? handle = some vbar)
    (unpins : Unpins handle vbar (spanned context.engine.config.vbarPageSize ranges)
      (!ranges.isEmpty) context.engine last.engine) :
    last.engine = context.engine.unpinned handle vbar ranges := by
  have bytes := heldBytes_perm (unpins.perm_holdings sound.vbars.linked live)
  have usage := sound.books.accounted.held_eq distinct
  have usage' := sound'.books.accounted.held_eq distinct
  rw [heldBytes_append] at bytes
  have left : last.engine.budget.residentUsage = context.engine.budget.residentUsage -
      heldBytes (vbar.released context.engine.config.vbarPageSize
        (spanned context.engine.config.vbarPageSize ranges)) := by omega
  rw [unpins, left]
  rfl

/-- An unpin of a live VBAR goes through the pages that its range reaches. -/
theorem ensures_unpin {aborts : Abort → Prop} {post : Except Error Unit → Context σ → Prop}
    (never : ¬ ledger.mayStop) (sound : Sound ledger context)
    (live : context.engine.vbars.get? handle = some vbar) (range : Nat × Nat) :
    Ensures aborts (unpin handle range.1 range.2).run context post ↔
      Ensures aborts (unpinRange handle vbar
        (min (range.1 / context.engine.config.vbarPageSize)
          (vbar.reach context.engine.config.vbarPageSize range))
        (vbar.reach context.engine.config.vbarPageSize range)) context
        fun _ after => post (.ok ()) after := by
  have positive := (Config.validate_ok sound.valid).1
  have small : vbar.nrPages * context.engine.config.vbarPageSize < wordLimit :=
    (sound.books.size_lt (sound.vbarBooks.inside live)).resolve_right fun stops => never stops.1
  rw [unpin_eq, ensures_run_bind, Attempt.ensures_vbar, live]
  dsimp only
  rw [ensures_run_lift, ensures_bind, EngineM.ensures_pageSize,
    Vbar.unpinEnd_eq_reach positive small]

theorem unpinRange_unpins (never : ¬ ledger.mayStop) (sound : Sound ledger context)
    (live : context.engine.vbars.get? handle = some vbar) (range : Nat × Nat) :
    Ensures (fun _ => False) (unpinRange handle vbar
      (min (range.1 / context.engine.config.vbarPageSize)
        (vbar.reach context.engine.config.vbarPageSize range))
      (vbar.reach context.engine.config.vbarPageSize range)) context fun _ after =>
        Sound ledger after ∧ Unpins handle vbar (spans context.engine.config.vbarPageSize range)
          true context.engine after.engine := by
  have inside := vbar.reach_le context.engine.config.vbarPageSize range
  refine ((unpinRange_spec sound live (Nat.min_le_right _ _) inside).weaken
    fun _ stops => never stops.1).mono ?_
  intro _ after outcome
  obtain ⟨sound', left, changed, same⟩ := outcome
  refine ⟨sound', ?_⟩
  unfold Unpins
  rw [← changed.eq_unpinned fun index below => ?_, Bool.or_true]
  · exact same
  · rw [← Vbar.walked_iff_spans below]
    omega

end Vbars

end VramOvercommit
