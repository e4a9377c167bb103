import VramOvercommit.Vbar

set_option autoImplicit false

/-!
Page maps. Whatever happens to a VBAR changes its pages one at a time, so one function that writes a
page and counts anew stands for every such step, and one lemma says when it keeps a VBAR consistent.
-/

namespace VramOvercommit

/-- Reclaiming memory may take the backing of the page away. -/
def Page.isReclaimable (page : Page) : Bool := page.isResident && !page.pinned

namespace Vbar

variable {vbar : Vbar} {index : Nat} {page new : Page}

/-- How many pages from `start` on could be reclaimed. -/
def reclaimable (vbar : Vbar) (start : Nat) : Nat :=
  (vbar.pages.toList.drop start).countP Page.isReclaimable

/-- The VBAR with one page replaced and its resident pages counted anew. -/
def write (vbar : Vbar) (index : Nat) (page : Page) : Vbar :=
  { vbar.putPage index page with residentCount := (vbar.putPage index page).countResident }

/-- A page splits the page map, and replacing it changes nothing around it. -/
theorem split_pages (found : vbar.pages[index]? = some page) :
    ∃ front back, front.length = index ∧ vbar.pages.toList = front ++ page :: back ∧
      ∀ new, (vbar.pages.setIfInBounds index new).toList = front ++ new :: back := by
  obtain ⟨inside, rfl⟩ := Array.getElem?_eq_some_iff.mp found
  have length : (vbar.pages.toList.take index).length = index := by
    simp only [List.length_take, Array.length_toList]
    omega
  have drop : vbar.pages.toList.drop index =
      vbar.pages[index] :: vbar.pages.toList.drop (index + 1) := by
    rw [List.drop_eq_getElem_cons (by simpa using inside), Array.getElem_toList]
  refine ⟨vbar.pages.toList.take index, vbar.pages.toList.drop (index + 1), length, ?_,
    fun new => ?_⟩
  · rw [← drop, List.take_append_drop]
  · rw [Array.toList_setIfInBounds, List.set_eq_take_append_cons_drop,
      if_pos (by simpa using inside)]

theorem countResident_eq (vbar : Vbar) :
    vbar.countResident = vbar.pages.toList.countP Page.isResident := by
  rw [countResident, Array.countP_toList]

theorem countResidentAbove_eq (vbar : Vbar) :
    vbar.countResidentAbove = vbar.reclaimable vbar.watermark := by
  unfold countResidentAbove reclaimable
  rw [← Array.countP_toList, Array.toList_extract, List.extract_eq_take_drop,
    List.take_of_length_le (by simp)]
  rfl

theorem reclaimable_eq_zero_iff {start : Nat} :
    vbar.reclaimable start = 0 ↔ ∀ (index : Nat) (page : Page), vbar.pages[index]? = some page →
      start ≤ index → page.isResident = true → page.pinned = true := by
  unfold reclaimable
  rw [List.countP_eq_zero]
  constructor
  · intro none index page found above resident
    have member : page ∈ vbar.pages.toList.drop start := by
      rw [List.mem_iff_getElem?]
      exact ⟨index - start, by rw [List.getElem?_drop, Array.getElem?_toList]; rwa [show
        start + (index - start) = index by omega]⟩
    simpa [Page.isReclaimable, resident] using none page member
  · intro pinned page member
    obtain ⟨offset, found⟩ := List.mem_iff_getElem?.mp member
    rw [List.getElem?_drop, Array.getElem?_toList] at found
    have kept := pinned _ page found (Nat.le_add_right start offset)
    simp only [Page.isReclaimable, Bool.and_eq_true, Bool.not_eq_true', not_and,
      Bool.not_eq_false]
    exact kept

/-- One page fewer is left once the walk has passed it. -/
theorem reclaimable_succ (found : vbar.pages[index]? = some page) :
    vbar.reclaimable index =
      vbar.reclaimable (index + 1) + if page.isReclaimable then 1 else 0 := by
  obtain ⟨front, back, rfl, pages, -⟩ := split_pages found
  unfold reclaimable
  rw [pages, List.drop_left, ← List.singleton_append, ← List.append_assoc,
    List.drop_left' (by simp), List.singleton_append, List.countP_cons]

theorem reclaimable_anti {low high : Nat} (le : low ≤ high) :
    vbar.reclaimable high ≤ vbar.reclaimable low := by
  unfold reclaimable
  obtain ⟨gap, rfl⟩ := Nat.exists_eq_add_of_le le
  rw [← List.drop_drop]
  exact (List.drop_sublist _ _).countP_le

/-- Only the pages from the start on matter. -/
theorem reclaimable_congr {other : Vbar} {start : Nat}
    (same : ∀ index, start ≤ index → other.pages[index]? = vbar.pages[index]?) :
    other.reclaimable start = vbar.reclaimable start := by
  unfold reclaimable
  congr 1
  apply List.ext_getElem?
  intro offset
  simp only [List.getElem?_drop, Array.getElem?_toList]
  exact same _ (Nat.le_add_right _ _)

/-- What consistency says of each page. -/
theorem consistent_iff : vbar.Consistent ↔
    vbar.countResident = vbar.residentCount ∧ vbar.watermarkLimit ≤ vbar.watermark ∧
      vbar.watermark ≤ vbar.nrPages ∧
      (∀ (index : Nat) (page : Page), vbar.pages[index]? = some page → page.pinned = true →
        page.isResident = true) ∧
      ∀ (index : Nat) (page : Page), vbar.pages[index]? = some page → vbar.watermark ≤ index →
        page.isResident = true → page.pinned = true := by
  rw [← reclaimable_eq_zero_iff, ← countResidentAbove_eq]
  have pins : vbar.pages.all (fun page => !page.pinned || page.isResident) = true ↔
      ∀ (index : Nat) (page : Page), vbar.pages[index]? = some page → page.pinned = true →
        page.isResident = true := by
    rw [Array.all_eq_true]
    constructor
    · intro every index page found pinned
      obtain ⟨inside, rfl⟩ := Array.getElem?_eq_some_iff.mp found
      simpa [pinned] using every index inside
    · intro every index inside
      have resident := every index _ (Array.getElem?_eq_getElem inside)
      cases pinned : vbar.pages[index].pinned with
      | false => rfl
      | true => simpa using resident pinned
  constructor
  · intro outcome
    obtain ⟨counted, limit, watermark, pinned, above⟩ := outcome
    exact ⟨counted, limit, watermark, pins.mp pinned, above⟩
  · intro outcome
    obtain ⟨counted, limit, watermark, pinned, above⟩ := outcome
    exact ⟨counted, limit, watermark, pins.mpr pinned, above⟩

theorem Consistent.pinned_isResident (consistent : vbar.Consistent)
    (found : vbar.pages[index]? = some page) (pinned : page.pinned = true) :
    page.isResident = true :=
  (consistent_iff.mp consistent).2.2.2.1 index page found pinned

theorem Consistent.above_pinned (consistent : vbar.Consistent)
    (found : vbar.pages[index]? = some page) (above : vbar.watermark ≤ index)
    (resident : page.isResident = true) : page.pinned = true :=
  (consistent_iff.mp consistent).2.2.2.2 index page found above resident

theorem check_eq_ok (consistent : vbar.Consistent) : vbar.check = .ok () := if_pos consistent

theorem pageAt_eq_ok (found : vbar.pages[index]? = some page) : vbar.pageAt index = .ok page := by
  rw [pageAt, found]

theorem pageAt_ok (there : vbar.pageAt index = .ok page) : vbar.pages[index]? = some page := by
  unfold pageAt at there
  split at there <;> cases there
  assumption

/-! ## Writing a page -/

@[simp] theorem write_watermark : (vbar.write index new).watermark = vbar.watermark := rfl

@[simp] theorem write_watermarkLimit :
    (vbar.write index new).watermarkLimit = vbar.watermarkLimit := rfl

@[simp] theorem write_nrPages : (vbar.write index new).nrPages = vbar.nrPages := by
  simp [write, putPage, nrPages]

theorem write_residentCount :
    (vbar.write index new).residentCount = (vbar.write index new).countResident := rfl

theorem getElem?_write (found : vbar.pages[index]? = some page) (new : Page) (other : Nat) :
    (vbar.write index new).pages[other]? =
      if other = index then some new else vbar.pages[other]? := by
  have inside := (Array.getElem?_eq_some_iff.mp found).1
  change (vbar.pages.setIfInBounds index new)[other]? = _
  rw [Array.getElem?_setIfInBounds]
  by_cases same : index = other
  · subst same
    rw [if_pos rfl, if_pos rfl, if_pos inside]
  · rw [if_neg same, if_neg (Ne.symm same)]

theorem getElem?_write_self (found : vbar.pages[index]? = some page) (new : Page) :
    (vbar.write index new).pages[index]? = some new := by
  rw [getElem?_write found, if_pos rfl]

theorem getElem?_write_of_ne {other : Nat} (found : vbar.pages[index]? = some page)
    (differ : other ≠ index) : (vbar.write index new).pages[other]? = vbar.pages[other]? := by
  rw [getElem?_write found, if_neg differ]

/-- Writing a page changes the count by that page alone. -/
theorem countResident_write (found : vbar.pages[index]? = some page) (new : Page) :
    (vbar.write index new).countResident + (if page.isResident then 1 else 0) =
      vbar.countResident + if new.isResident then 1 else 0 := by
  obtain ⟨front, back, -, before, after⟩ := split_pages found
  rw [countResident_eq, countResident_eq, before]
  change (vbar.pages.setIfInBounds index new).toList.countP _ + _ = _
  rw [after]
  simp only [List.countP_append, List.countP_cons]
  omega

theorem putPage_eq_write (counted : vbar.countResident = vbar.residentCount)
    (found : vbar.pages[index]? = some page) (same : new.isResident = page.isResident) :
    vbar.putPage index new = vbar.write index new := by
  have count := countResident_write found new
  rw [same] at count
  have kept : vbar.residentCount = (vbar.write index new).residentCount := by
    rw [write_residentCount, ← counted]
    omega
  change { vbar.putPage index new with residentCount := vbar.residentCount } = _
  rw [kept]
  rfl

/-- A page that satisfies the laws of its place keeps the VBAR consistent. -/
theorem Consistent.write (consistent : vbar.Consistent)
    (found : vbar.pages[index]? = some page)
    (pinned : new.pinned = true → new.isResident = true)
    (above : vbar.watermark ≤ index → new.isResident = true → new.pinned = true) :
    (vbar.write index new).Consistent := by
  rw [consistent_iff]
  refine ⟨rfl, consistent.limit_le, ?_, ?_, ?_⟩
  · simpa using consistent.watermark_le
  · intro other page' found'
    rw [getElem?_write found new] at found'
    split at found'
    · cases found'
      exact pinned
    · exact consistent.pinned_isResident found'
  · intro other page' found' above'
    rw [getElem?_write found new] at found'
    split at found'
    · rename_i same
      cases found'
      exact above (same ▸ above')
    · exact consistent.above_pinned found' above'

/-! ## New VBARs and new watermarks -/

theorem consistent_fresh (base : Nat) (device : Int) (nrPages : Nat) :
    (fresh base device nrPages).Consistent := by
  have absent : ∀ (index : Nat) (page : Page),
      (fresh base device nrPages).pages[index]? = some page → page = {} := by
    intro index page found
    simp only [fresh, Array.getElem?_replicate, Option.ite_none_right_eq_some,
      Option.some.injEq] at found
    exact found.2.symm
  rw [consistent_iff]
  refine ⟨?_, Nat.zero_le _, ?_, ?_, ?_⟩
  · simp [countResident, fresh, Array.countP_replicate, Page.isResident]
  · simp [fresh, Vbar.nrPages]
  · intro index page found pinned
    simp [absent index page found] at pinned
  · intro index page found _ resident
    simp [absent index page found, Page.isResident] at resident

/-- A watermark can be raised as far as there are pages. -/
theorem Consistent.raise (consistent : vbar.Consistent) {limit watermark : Nat}
    (limit_le : limit ≤ watermark) (raised : vbar.watermark ≤ watermark)
    (inside : watermark ≤ vbar.nrPages) :
    { vbar with watermark, watermarkLimit := limit }.Consistent := by
  rw [consistent_iff]
  refine ⟨consistent.counted, limit_le, inside, ?_, ?_⟩
  · exact fun index page found => consistent.pinned_isResident found
  · exact fun index page found above =>
      consistent.above_pinned found (Nat.le_trans raised above)

end Vbar

end VramOvercommit
