import VramOvercommit.Proofs.Vbar.Pages

set_option autoImplicit false

/-!
Shrinking a VBAR. Lowering the watermark page by page comes to one cut: every unpinned page at or
above the new watermark is absent, and all else is as before.
-/

namespace VramOvercommit

/-- The page after reclaiming passed it. -/
def Page.evicted (page : Page) : Page :=
  if page.pinned then page else { page with backing := none }

namespace Vbar

variable {vbar : Vbar} {index : Nat} {page new : Page}

/-- The VBAR after its watermark was lowered. -/
def cut (vbar : Vbar) (watermark : Nat) : Vbar :=
  let pages := (vbar.pages.toList.take watermark ++
    (vbar.pages.toList.drop watermark).map Page.evicted).toArray
  { vbar with watermark, pages, residentCount := pages.countP Page.isResident }

@[simp] theorem cut_base (watermark : Nat) : (vbar.cut watermark).base = vbar.base := rfl

@[simp] theorem cut_watermark (watermark : Nat) : (vbar.cut watermark).watermark = watermark := rfl

@[simp] theorem cut_watermarkLimit (watermark : Nat) :
    (vbar.cut watermark).watermarkLimit = vbar.watermarkLimit := rfl

@[simp] theorem cut_nrPages (watermark : Nat) : (vbar.cut watermark).nrPages = vbar.nrPages := by
  simp only [cut, nrPages, List.size_toArray, List.length_append, List.length_map, List.length_take,
    List.length_drop, Array.length_toList]
  omega

theorem getElem?_cut (watermark index : Nat) :
    (vbar.cut watermark).pages[index]? =
      vbar.pages[index]?.map (fun page => if watermark ≤ index then page.evicted else page) := by
  simp only [cut, List.getElem?_toArray, List.getElem?_append, List.length_take,
    Array.length_toList, List.getElem?_map, List.getElem?_drop, List.getElem?_take,
    Array.getElem?_toList]
  by_cases below : index < watermark
  · have notAbove : ¬ watermark ≤ index := by omega
    by_cases inside : index < vbar.pages.size
    · have within : index < min watermark vbar.pages.size := by omega
      simp [below, notAbove, inside, within]
    · have outside : vbar.pages.size ≤ index := by omega
      have beyond : vbar.pages.size ≤ watermark + (index - min watermark vbar.pages.size) := by
        omega
      simp [inside, beyond]
  · have above : watermark ≤ index := by omega
    by_cases inside : watermark ≤ vbar.pages.size
    · have same : watermark + (index - watermark) = index := by omega
      simp [below, above, Nat.min_eq_left inside, same]
    · have outside : vbar.pages.size ≤ index := by omega
      have beyond : vbar.pages.size ≤ watermark + (index - min watermark vbar.pages.size) := by
        omega
      have notInside : ¬ index < min watermark vbar.pages.size := by omega
      simp [notInside, outside, beyond]

/-- A page below a cut is as it was. -/
theorem getElem?_cut_of_lt {watermark other : Nat} (below : other < watermark) :
    (vbar.cut watermark).pages[other]? = vbar.pages[other]? := by
  have notAbove : ¬ watermark ≤ other := Nat.not_le.mpr below
  simp [getElem?_cut, notAbove]

/-- VBARs with counted pages are equal if their pages are. -/
theorem eq_of_pages {first second : Vbar} (base : first.base = second.base)
    (device : first.device = second.device) (watermark : first.watermark = second.watermark)
    (limit : first.watermarkLimit = second.watermarkLimit)
    (counted : first.countResident = first.residentCount)
    (counted' : second.countResident = second.residentCount)
    (pages : ∀ index : Nat, first.pages[index]? = second.pages[index]?) : first = second := by
  have same : first.pages = second.pages := Array.ext_getElem? pages
  have count : first.residentCount = second.residentCount := by
    rw [← counted, ← counted', countResident, countResident, same]
  cases first
  cases second
  simp only at base device watermark limit same count
  subst base device watermark limit same count
  rfl

theorem counted_cut (watermark : Nat) :
    (vbar.cut watermark).countResident = (vbar.cut watermark).residentCount := rfl

theorem evicted_evicted (page : Page) : page.evicted.evicted = page.evicted := by
  unfold Page.evicted
  by_cases pinned : page.pinned = true <;> simp [pinned]

theorem evicted_isResident (page : Page) :
    page.evicted.isResident = (page.isResident && page.pinned) := by
  unfold Page.evicted Page.isResident
  by_cases pinned : page.pinned = true <;> simp [pinned]

theorem evicted_pinned (page : Page) : page.evicted.pinned = page.pinned := by
  unfold Page.evicted
  by_cases pinned : page.pinned = true <;> simp [pinned]

/-- A page that reclaiming would pass without an effect. -/
theorem evicted_eq_self (kept : page.isResident = true → page.pinned = true) :
    page.evicted = page := by
  unfold Page.evicted
  by_cases pinned : page.pinned = true
  · rw [if_pos pinned]
  · rw [if_neg pinned]
    cases page with
    | mk backing pinned serial =>
      cases backing with
      | none => rfl
      | some memory => exact absurd (kept rfl) ‹_›

/-- Nothing happens at the watermark itself. -/
theorem Consistent.cut_self (consistent : vbar.Consistent) : vbar.cut vbar.watermark = vbar := by
  refine eq_of_pages rfl rfl rfl rfl (counted_cut _) consistent.counted fun index => ?_
  rw [getElem?_cut]
  cases found : vbar.pages[index]? with
  | none => rfl
  | some page =>
    rw [Option.map_some]
    split
    · rename_i above
      rw [evicted_eq_self (consistent.above_pinned found above)]
    · rfl

/-- Only the lowest of several cuts counts. -/
theorem cut_cut {high low : Nat} (le : low ≤ high) : (vbar.cut high).cut low = vbar.cut low := by
  refine eq_of_pages rfl rfl rfl rfl (counted_cut _) (counted_cut _) fun index => ?_
  rw [getElem?_cut, getElem?_cut, getElem?_cut, Option.map_map]
  congr 1
  funext page
  simp only [Function.comp_apply]
  by_cases above : low ≤ index
  · by_cases beyond : high ≤ index
    · simp [above, beyond, evicted_evicted]
    · simp [above, beyond]
  · have below : ¬ high ≤ index := by omega
    simp [above, below]

/-- Evicting the page below the watermark moves the cut down by one. -/
theorem Consistent.write_evicted (consistent : vbar.Consistent)
    (top : vbar.watermark = index + 1) (found : vbar.pages[index]? = some page) :
    ({ vbar with watermark := index }).write index page.evicted = vbar.cut index := by
  refine eq_of_pages rfl rfl rfl rfl write_residentCount.symm (counted_cut _) fun other => ?_
  have lowered : ({ vbar with watermark := index } : Vbar).pages[index]? = some page := found
  rw [getElem?_write lowered, getElem?_cut]
  by_cases same : other = index
  · subst same
    rw [if_pos rfl, found, Option.map_some, if_pos (Nat.le_refl _)]
  · rw [if_neg same]
    cases found' : vbar.pages[other]? with
    | none => rfl
    | some page' =>
      rw [Option.map_some]
      split
      · rename_i above
        rw [evicted_eq_self (consistent.above_pinned found' (by omega))]
      · rfl

theorem Consistent.cut (consistent : vbar.Consistent) (watermark : Nat)
    (limit_le : vbar.watermarkLimit ≤ watermark) (inside : watermark ≤ vbar.watermark) :
    (vbar.cut watermark).Consistent := by
  have within := consistent.watermark_le
  rw [consistent_iff]
  refine ⟨counted_cut _, limit_le, ?_, ?_, ?_⟩
  · rw [cut_watermark, cut_nrPages]
    omega
  · intro index page found pinned
    rw [getElem?_cut] at found
    obtain ⟨old, found', rfl⟩ := Option.map_eq_some_iff.mp found
    by_cases above : watermark ≤ index
    · rw [if_pos above, evicted_pinned] at pinned
      rw [if_pos above, evicted_isResident, consistent.pinned_isResident found' pinned, pinned]
      rfl
    · rw [if_neg above] at pinned ⊢
      exact consistent.pinned_isResident found' pinned
  · intro index page found above resident
    rw [getElem?_cut] at found
    obtain ⟨old, found', rfl⟩ := Option.map_eq_some_iff.mp found
    rw [cut_watermark] at above
    rw [if_pos above, evicted_isResident, Bool.and_eq_true] at resident
    rw [if_pos above, evicted_pinned]
    exact resident.2

/-- A cut frees the pages that could be reclaimed above it. -/
theorem countResident_cut (watermark : Nat) :
    (vbar.cut watermark).countResident + vbar.reclaimable watermark = vbar.countResident := by
  have evicted : ∀ pages : List Page,
      (pages.map Page.evicted).countP Page.isResident + pages.countP Page.isReclaimable =
        pages.countP Page.isResident := by
    intro pages
    induction pages with
    | nil => rfl
    | cons page rest ih =>
      simp only [List.map_cons, List.countP_cons, evicted_isResident, Page.isReclaimable]
      by_cases resident : page.isResident = true
      · by_cases pinned : page.pinned = true
        · simp only [resident, pinned, Bool.and_self, Bool.not_true, Bool.and_false]
          simp only [if_true, Bool.false_eq_true, if_false]
          omega
        · simp only [resident, pinned, Bool.and_false, Bool.not_false, Bool.and_true]
          simp only [if_true, Bool.false_eq_true, if_false]
          omega
      · simp only [resident, Bool.false_and]
        simp only [Bool.false_eq_true, if_false]
        omega
  have pages : (vbar.cut watermark).pages.toList = vbar.pages.toList.take watermark ++
      (vbar.pages.toList.drop watermark).map Page.evicted := by simp [Vbar.cut]
  have whole : vbar.countResident = (vbar.pages.toList.take watermark).countP Page.isResident +
      (vbar.pages.toList.drop watermark).countP Page.isResident := by
    rw [← List.countP_append, List.take_append_drop, countResident_eq]
  rw [countResident_eq, pages, List.countP_append, whole, reclaimable]
  have above := evicted (vbar.pages.toList.drop watermark)
  omega

/-- What a cut leaves to be reclaimed below it. -/
theorem reclaimable_cut (vbar : Vbar) {high low : Nat} (le : low ≤ high) :
    (vbar.cut high).reclaimable low + vbar.reclaimable high = vbar.reclaimable low := by
  have whole := vbar.countResident_cut low
  have first := vbar.countResident_cut high
  have second := (vbar.cut high).countResident_cut low
  rw [cut_cut le] at second
  omega

theorem Consistent.reclaimable_watermark (consistent : vbar.Consistent) :
    vbar.reclaimable vbar.watermark = 0 := by
  rw [← countResidentAbove_eq]
  exact consistent.none_above

/-! ## Absent pages -/

/-- How many pages below `stop` are absent. -/
def absentBelow (vbar : Vbar) (stop : Nat) : Nat :=
  (vbar.pages.toList.take stop).countP (fun page => !page.isResident)

theorem absentBelow_succ (found : vbar.pages[index]? = some page) :
    vbar.absentBelow (index + 1) = vbar.absentBelow index + if page.isResident then 0 else 1 := by
  obtain ⟨front, back, rfl, pages, -⟩ := split_pages found
  unfold absentBelow
  rw [pages, List.take_left, ← List.singleton_append, ← List.append_assoc,
    List.take_left' (by simp), List.countP_append, List.countP_singleton]
  cases page.isResident <;> rfl

theorem absentBelow_mono {low high : Nat} (le : low ≤ high) :
    vbar.absentBelow low ≤ vbar.absentBelow high := by
  unfold absentBelow
  exact (List.take_sublist_take_left le).countP_le

/-- No page lies beyond the last one. -/
theorem absentBelow_le {high : Nat} (all : vbar.nrPages ≤ high) (low : Nat) :
    vbar.absentBelow low ≤ vbar.absentBelow high := by
  unfold absentBelow
  rw [List.take_of_length_le (show vbar.pages.toList.length ≤ high from all)]
  exact (List.take_sublist low vbar.pages.toList).countP_le

/-- Only the pages below the end matter. -/
theorem absentBelow_congr {other : Vbar} {stop : Nat}
    (same : ∀ index < stop, other.pages[index]? = vbar.pages[index]?) :
    other.absentBelow stop = vbar.absentBelow stop := by
  unfold absentBelow
  congr 1
  apply List.ext_getElem?
  intro index
  simp only [List.getElem?_take, Array.getElem?_toList]
  split
  · exact same index ‹_›
  · rfl

theorem absentBelow_cut {watermark stop : Nat} (below : stop ≤ watermark) :
    (vbar.cut watermark).absentBelow stop = vbar.absentBelow stop := by
  apply absentBelow_congr
  intro index inside
  exact getElem?_cut_of_lt (by omega)

/-- A VBAR that was cut lacks no more pages than before. -/
theorem absentBelow_cut_le (vbar : Vbar) {watermark target : Nat}
    (below : watermark ≤ vbar.watermark) :
    (vbar.cut watermark).absentBelow (min target (vbar.cut watermark).watermark) ≤
      vbar.absentBelow (min target vbar.watermark) := by
  rw [cut_watermark, absentBelow_cut (Nat.min_le_right _ _)]
  exact absentBelow_mono (by omega)

/-- Every page below the watermark limit is resident. -/
def BackedToLimit (vbar : Vbar) : Prop :=
  ∀ (index : Nat) (page : Page), index < vbar.watermarkLimit → vbar.pages[index]? = some page →
    page.isResident = true

theorem BackedToLimit.absentBelow_eq_zero (backed : vbar.BackedToLimit) :
    vbar.absentBelow vbar.watermarkLimit = 0 := by
  unfold absentBelow
  rw [List.countP_eq_zero]
  intro page member
  obtain ⟨index, found⟩ := List.getElem?_of_mem member
  rw [List.getElem?_take, Array.getElem?_toList] at found
  split at found
  · simp [backed index page ‹_› found]
  · cases found

theorem BackedToLimit.cut (backed : vbar.BackedToLimit) {watermark : Nat}
    (limit : vbar.watermarkLimit ≤ watermark) : (vbar.cut watermark).BackedToLimit := by
  intro index page below found
  rw [cut_watermarkLimit] at below
  rw [getElem?_cut_of_lt (by omega)] at found
  exact backed index page below found

/-- How many pages from `start` to `stop` are absent. -/
def absentIn (vbar : Vbar) (start stop : Nat) : Nat :=
  ((vbar.pages.toList.take stop).drop start).countP (fun page => !page.isResident)

theorem absentBelow_add_absentIn {start stop : Nat} (le : start ≤ stop) :
    vbar.absentBelow start + vbar.absentIn start stop = vbar.absentBelow stop := by
  have front : (vbar.pages.toList.take stop).take start = vbar.pages.toList.take start := by
    rw [List.take_take, Nat.min_eq_left le]
  unfold absentBelow absentIn
  rw [← front, ← List.countP_append, List.take_append_drop]

theorem absentIn_le (vbar : Vbar) (start stop : Nat) :
    vbar.absentIn start stop ≤ vbar.absentBelow stop :=
  (List.drop_sublist start (vbar.pages.toList.take stop)).countP_le

/-- Only the pages of the range matter. -/
theorem absentIn_congr {other : Vbar} {start stop : Nat}
    (same : ∀ index, start ≤ index → index < stop → other.pages[index]? = vbar.pages[index]?) :
    other.absentIn start stop = vbar.absentIn start stop := by
  unfold absentIn
  congr 1
  apply List.ext_getElem?
  intro offset
  simp only [List.getElem?_drop, List.getElem?_take, Array.getElem?_toList]
  split
  · exact same _ (Nat.le_add_right _ _) ‹_›
  · rfl

theorem absentIn_succ {stop : Nat} (found : vbar.pages[index]? = some page) (less : index < stop) :
    vbar.absentIn index stop =
      vbar.absentIn (index + 1) stop + if page.isResident then 0 else 1 := by
  have whole := vbar.absentBelow_add_absentIn (Nat.le_of_lt less)
  have others := vbar.absentBelow_add_absentIn (show index + 1 ≤ stop from less)
  have first := absentBelow_succ found
  omega

/-- A page written in front of a range is no matter to it. -/
theorem absentIn_write (found : vbar.pages[index]? = some page) (stop : Nat) :
    (vbar.write index new).absentIn (index + 1) stop = vbar.absentIn (index + 1) stop :=
  absentIn_congr fun _ low _ => getElem?_write_of_ne found (by omega)

/-- Once an absent page is resident there is one page fewer to back. -/
theorem absentBelow_write {stop : Nat} (found : vbar.pages[index]? = some page)
    (absent : page.isResident = false) (resident : new.isResident = true) (less : index < stop) :
    vbar.absentBelow stop = (vbar.write index new).absentBelow stop + 1 := by
  have front : (vbar.write index new).absentBelow index = vbar.absentBelow index :=
    absentBelow_congr fun other low => getElem?_write_of_ne found (by omega)
  have back : (vbar.write index new).absentIn (index + 1) stop = vbar.absentIn (index + 1) stop :=
    absentIn_write found stop
  have before := absentBelow_succ found
  have after := absentBelow_succ (getElem?_write_self found new)
  have whole := vbar.absentBelow_add_absentIn (show index + 1 ≤ stop from less)
  have whole' := (vbar.write index new).absentBelow_add_absentIn (show index + 1 ≤ stop from less)
  rw [absent, if_neg Bool.false_ne_true] at before
  rw [resident, if_pos rfl] at after
  omega

theorem reclaimable_write {start : Nat} (found : vbar.pages[index]? = some page)
    (less : index < start) : (vbar.write index new).reclaimable start = vbar.reclaimable start :=
  reclaimable_congr fun _ _ => getElem?_write_of_ne found (by omega)

/-- The absent ones of `count` pages from `start` on. -/
def absentPages (vbar : Vbar) (start count : Nat) : List Nat :=
  (List.range' start count).filter fun index => vbar.pages[index]?.any fun page => !page.isResident

theorem absentPages_succ (found : vbar.pages[index]? = some page) (count : Nat) :
    vbar.absentPages index (count + 1) =
      (if page.isResident then [] else [index]) ++ vbar.absentPages (index + 1) count := by
  unfold absentPages
  rw [List.range'_succ, List.filter_cons, found, Option.any_some]
  cases page.isResident <;> rfl

theorem absentPages_one (found : vbar.pages[index]? = some page) :
    vbar.absentPages index 1 = if page.isResident then [] else [index] := by
  rw [absentPages_succ found, show vbar.absentPages (index + 1) 0 = [] from rfl, List.append_nil]

/-- Only the pages of the range matter. -/
theorem absentPages_congr {other : Vbar} {start count : Nat}
    (same : ∀ index, start ≤ index → index < start + count →
      other.pages[index]? = vbar.pages[index]?) :
    other.absentPages start count = vbar.absentPages start count := by
  refine List.filter_congr fun index member => ?_
  obtain ⟨low, high⟩ := List.mem_range'_1.mp member
  rw [same index low high]

theorem mem_absentPages {start count : Nat} (found : vbar.pages[index]? = some page) :
    index ∈ vbar.absentPages start count ↔
      start ≤ index ∧ index < start + count ∧ page.isResident = false := by
  unfold absentPages
  rw [List.mem_filter, List.mem_range'_1, found, Option.any_some, Bool.not_eq_true', and_assoc]

/-- A run of resident pages ends at the first absent one. -/
theorem residentRunEnd_spec {steps start : Nat} (inside : start + steps ≤ vbar.nrPages) :
    ∃ stop, vbar.residentRunEnd steps start = .ok stop ∧ start ≤ stop ∧ stop ≤ start + steps ∧
      vbar.absentBelow stop = vbar.absentBelow start ∧
      (stop < start + steps → ∃ page, vbar.pages[stop]? = some page ∧ page.isResident = false) := by
  induction steps generalizing start with
  | zero => exact ⟨start, rfl, Nat.le_refl _, Nat.le_refl _, rfl, fun less => by omega⟩
  | succ steps ih =>
    have within : start < vbar.pages.size := by
      unfold nrPages at inside
      omega
    have found : vbar.pages[start]? = some vbar.pages[start] := Array.getElem?_eq_getElem within
    have step : vbar.residentRunEnd (steps + 1) start =
        if vbar.pages[start].isResident then vbar.residentRunEnd steps (start + 1)
        else .ok start := by
      rw [residentRunEnd, pageAt_eq_ok found]
      rfl
    cases resident : vbar.pages[start].isResident with
    | false =>
      refine ⟨start, ?_, Nat.le_refl _, Nat.le_add_right _ _, rfl, fun _ => ⟨_, found, resident⟩⟩
      rw [step, resident]
      rfl
    | true =>
      obtain ⟨stop, ran, low, high, absent, last⟩ := @ih (start + 1) (by omega)
      refine ⟨stop, ?_, by omega, by omega, ?_, fun less => last (by omega)⟩
      · rw [step, resident]
        exact ran
      · rw [absent, absentBelow_succ found, resident]
        rfl

end Vbar

end VramOvercommit
