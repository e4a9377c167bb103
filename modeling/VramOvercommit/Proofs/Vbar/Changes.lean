import VramOvercommit.Proofs.Vbar.Shrinking

set_option autoImplicit false

/-!
Changes of a page map as a whole: walks that change every page of a range, and steps that spare
what is protected. A page is protected by its pin, or by the watermark limit above it.
-/

namespace VramOvercommit.Vbar

variable {vbar before after : Vbar} {index start count : Nat} {page new : Page}

/-! ## Walks over a range -/

/-- Each page of a range was changed, and nothing else. -/
structure Changed (before after : Vbar) (start count : Nat) (change : Nat → Page → Page) :
    Prop where
  base : after.base = before.base
  device : after.device = before.device
  watermark : after.watermark = before.watermark
  watermarkLimit : after.watermarkLimit = before.watermarkLimit
  counted : after.countResident = after.residentCount
  pages : ∀ index : Nat, after.pages[index]? = before.pages[index]?.map (fun page =>
    if start ≤ index ∧ index < start + count then change index page else page)

variable {change : Nat → Page → Page}

theorem Changed.nrPages (changed : Changed before after start count change) :
    after.nrPages = before.nrPages := by
  have outside : before.pages.size ≤ after.pages.size := by
    have none := changed.pages after.pages.size
    rw [Array.getElem?_eq_none (Nat.le_refl _)] at none
    exact Array.getElem?_eq_none_iff.mp (Option.map_eq_none_iff.mp none.symm)
  have inside : after.pages.size ≤ before.pages.size := by
    have none := changed.pages before.pages.size
    have beyond : before.pages[before.pages.size]? = Option.none :=
      Array.getElem?_eq_none (Nat.le_refl _)
    rw [beyond] at none
    exact Array.getElem?_eq_none_iff.mp none
  unfold Vbar.nrPages
  omega

theorem Changed.zero (counted : vbar.countResident = vbar.residentCount) :
    Changed vbar vbar start 0 change := by
  refine ⟨rfl, rfl, rfl, rfl, counted, fun index => ?_⟩
  have outside : ¬ (start ≤ index ∧ index < start + 0) := by omega
  simp only [outside, if_false]
  exact Option.map_id'.symm

/-- The first page of a range before the others. -/
theorem Changed.step (found : before.pages[start]? = some page)
    (changed : Changed (before.write start (change start page)) after (start + 1) count change) :
    Changed before after start (count + 1) change := by
  refine ⟨changed.base, changed.device, changed.watermark, changed.watermarkLimit,
    changed.counted, fun index => ?_⟩
  rw [changed.pages, getElem?_write found]
  by_cases same : index = start
  · subst same
    have outside : ¬ (index + 1 ≤ index ∧ index < index + 1 + count) := by omega
    have inside : index ≤ index ∧ index < index + (count + 1) := by omega
    simp only [found, Option.map_some, if_true, outside, if_false, inside, and_self]
  · have shifted : (start + 1 ≤ index ∧ index < start + 1 + count) ↔
        (start ≤ index ∧ index < start + (count + 1)) := by omega
    simp only [same, if_false, shifted]

theorem Changed.consistent (changed : Changed before after start count change)
    (consistent : before.Consistent)
    (pinned : ∀ (index : Nat) (page : Page), before.pages[index]? = some page → start ≤ index →
      index < start + count → (change index page).pinned = true →
        (change index page).isResident = true)
    (above : ∀ (index : Nat) (page : Page), before.pages[index]? = some page → start ≤ index →
      index < start + count → before.watermark ≤ index →
        (change index page).isResident = true → (change index page).pinned = true) :
    after.Consistent := by
  rw [consistent_iff, changed.nrPages, changed.watermark, changed.watermarkLimit]
  refine ⟨changed.counted, consistent.limit_le, consistent.watermark_le, ?_, ?_⟩
  · intro index page found
    rw [changed.pages] at found
    obtain ⟨old, found', rfl⟩ := Option.map_eq_some_iff.mp found
    split
    · rename_i inside
      exact pinned index old found' inside.1 inside.2
    · exact consistent.pinned_isResident found'
  · intro index page found high
    rw [changed.pages] at found
    obtain ⟨old, found', rfl⟩ := Option.map_eq_some_iff.mp found
    split
    · rename_i inside
      exact above index old found' inside.1 inside.2 high
    · exact consistent.above_pinned found' high

/-! ## Protected pages -/

/-- The page still has the same backing, under the same serial. -/
def Keeps (page : Page) (after : Vbar) (index : Nat) : Prop :=
  ∃ page', after.pages[index]? = some page' ∧ page'.backing = page.backing ∧
    page'.serial = page.serial ∧ (page.pinned = true → page'.pinned = true)

/-- A resident page that is pinned or lies below the watermark limit. -/
structure Protected (vbar : Vbar) (index : Nat) (page : Page) : Prop where
  found : vbar.pages[index]? = some page
  resident : page.isResident = true
  guarded : page.pinned = true ∨ index < vbar.watermarkLimit

/-- Every protected page keeps its backing and its pin. -/
structure Spares (before after : Vbar) : Prop where
  base : after.base = before.base
  nrPages : after.nrPages = before.nrPages
  watermarkLimit : after.watermarkLimit = before.watermarkLimit
  keeps : ∀ {index : Nat} {page : Page}, before.Protected index page → Keeps page after index

theorem Spares.refl (vbar : Vbar) : vbar.Spares vbar :=
  ⟨rfl, rfl, rfl, fun {_ page} guarded => ⟨page, guarded.found, rfl, rfl, id⟩⟩

theorem Spares.trans {middle : Vbar} (first : before.Spares middle)
    (second : middle.Spares after) : before.Spares after := by
  refine ⟨second.base.trans first.base, second.nrPages.trans first.nrPages,
    second.watermarkLimit.trans first.watermarkLimit, fun {index page} guarded => ?_⟩
  obtain ⟨page', found, backing, serial, pinned⟩ := first.keeps guarded
  have still : middle.Protected index page' := by
    refine ⟨found, ?_, ?_⟩
    · have resident := guarded.resident
      unfold Page.isResident at resident ⊢
      rwa [backing]
    · rw [first.watermarkLimit]
      exact guarded.guarded.imp_left pinned
  obtain ⟨page'', found', backing', serial', pinned'⟩ := second.keeps still
  exact ⟨page'', found', backing'.trans backing, serial'.trans serial, pinned' ∘ pinned⟩

/-- A cut at the limit or above spares what is protected. -/
theorem Spares.cut {watermark : Nat} (limit : vbar.watermarkLimit ≤ watermark) :
    vbar.Spares (vbar.cut watermark) := by
  refine ⟨rfl, cut_nrPages watermark, rfl, fun {index page} guarded => ?_⟩
  refine ⟨page, ?_, rfl, rfl, id⟩
  rw [getElem?_cut, guarded.found, Option.map_some]
  rcases guarded.guarded with pinned | below
  · rw [evicted_eq_self fun _ => pinned, ite_self]
  · rw [if_neg (by omega)]

/-- Backing an absent page, or pinning a page, takes nothing away. -/
theorem Spares.write (found : vbar.pages[index]? = some page)
    (keeps : page.isResident = true → new.backing = page.backing ∧ new.serial = page.serial ∧
      (page.pinned = true → new.pinned = true)) : vbar.Spares (vbar.write index new) := by
  refine ⟨rfl, write_nrPages, rfl, fun {other page'} guarded => ?_⟩
  by_cases same : other = index
  · subst same
    have equal := guarded.found
    rw [found] at equal
    cases equal
    obtain ⟨backing, serial, pinned⟩ := keeps guarded.resident
    exact ⟨new, getElem?_write_self found new, backing, serial, pinned⟩
  · refine ⟨page', ?_, rfl, rfl, id⟩
    rw [getElem?_write_of_ne found same, guarded.found]

/-- A walk spares a VBAR if it spares each of its protected pages. -/
theorem Changed.spares (changed : Changed before after start count change)
    (keeps : ∀ {index : Nat} {page : Page}, before.Protected index page → start ≤ index →
      index < start + count → (change index page).backing = page.backing ∧
        (change index page).serial = page.serial ∧
        (page.pinned = true → (change index page).pinned = true)) : before.Spares after := by
  refine ⟨changed.base, changed.nrPages, changed.watermarkLimit, fun {index page} guarded => ?_⟩
  have found := changed.pages index
  rw [guarded.found, Option.map_some] at found
  by_cases inside : start ≤ index ∧ index < start + count
  · rw [if_pos inside] at found
    exact ⟨_, found, keeps guarded inside.1 inside.2⟩
  · rw [if_neg inside] at found
    exact ⟨page, found, rfl, rfl, id⟩

/-! ## Backings and serials -/

/-- With each commit of a page its serial advances by one. A page without a commit has its backing
still, or has lost it. -/
structure Ages (before after : Vbar) (commits : Nat → Nat) : Prop where
  base : after.base = before.base
  nrPages : after.nrPages = before.nrPages
  pages : ∀ {index : Nat} {page : Page}, before.pages[index]? = some page →
    ∃ page', after.pages[index]? = some page' ∧
      page'.serial = page.serial + UInt32.ofNat (commits index) ∧
      (commits index = 0 → page'.backing = page.backing ∨ page'.backing = none)

/-- No page got new backing. -/
def Fades (before after : Vbar) : Prop := before.Ages after fun _ => 0

/-- Pages under their serials, with their backing or without, have aged by no commit. -/
theorem fades_of_pages (base : after.base = before.base) (nrPages : after.nrPages = before.nrPages)
    (pages : ∀ {index : Nat} {page : Page}, before.pages[index]? = some page →
      ∃ page', after.pages[index]? = some page' ∧ page'.serial = page.serial ∧
        (page'.backing = page.backing ∨ page'.backing = none)) : before.Fades after := by
  refine ⟨base, nrPages, fun {index page} found => ?_⟩
  obtain ⟨page', found', serial, backing⟩ := pages found
  exact ⟨page', found', by rw [serial]; simp, fun _ => backing⟩

theorem Fades.of_pages_eq (base : after.base = before.base) (pages : after.pages = before.pages) :
    before.Fades after := by
  refine fades_of_pages base ?_ fun {index page} found => ⟨page, ?_, rfl, .inl rfl⟩
  · rw [nrPages, nrPages, pages]
  · rw [pages, found]

theorem Fades.refl (vbar : Vbar) : vbar.Fades vbar := .of_pages_eq rfl rfl

theorem Ages.trans {middle : Vbar} {first second : Nat → Nat} (one : before.Ages middle first)
    (other : middle.Ages after second) :
    before.Ages after fun index => first index + second index := by
  refine ⟨other.base.trans one.base, other.nrPages.trans one.nrPages, fun {index page} found => ?_⟩
  obtain ⟨page', found', serial, backing⟩ := one.pages found
  obtain ⟨page'', found'', serial', backing'⟩ := other.pages found'
  refine ⟨page'', found'', ?_, fun none => ?_⟩
  · rw [serial', serial, UInt32.ofNat_add, UInt32.add_assoc]
  · obtain ⟨none, none'⟩ := Nat.add_eq_zero_iff.mp none
    rcases backing' none' with same | lost
    · rw [same]
      exact backing none
    · exact .inr lost

theorem Fades.cut (vbar : Vbar) (watermark : Nat) : vbar.Fades (vbar.cut watermark) := by
  refine fades_of_pages rfl (cut_nrPages watermark) fun {index page} found => ?_
  rw [getElem?_cut, found, Option.map_some]
  refine ⟨_, rfl, ?_⟩
  split
  · unfold Page.evicted
    split
    · exact ⟨rfl, .inl rfl⟩
    · exact ⟨rfl, .inr rfl⟩
  · exact ⟨rfl, .inl rfl⟩

/-- A walk that writes no serial and adds no backing. -/
theorem Changed.fades (changed : Changed before after start count change)
    (keeps : ∀ index page, (change index page).serial = page.serial ∧
      ((change index page).backing = page.backing ∨ (change index page).backing = none)) :
    before.Fades after := by
  refine fades_of_pages changed.base changed.nrPages fun {index page} found => ?_
  rw [changed.pages index, found, Option.map_some]
  refine ⟨_, rfl, ?_⟩
  split
  · exact keeps index page
  · exact ⟨rfl, .inl rfl⟩

/-- No page of the VBAR ever got memory. -/
def NeverBacked (vbar : Vbar) : Prop :=
  ∀ (index : Nat) (page : Page), vbar.pages[index]? = some page → page.serial = 0

theorem neverBacked_fresh (base : Nat) (device : Int) (nrPages : Nat) :
    (fresh base device nrPages).NeverBacked := by
  intro index page found
  have member := Array.mem_of_getElem? found
  rw [Array.eq_of_mem_replicate member]

theorem Ages.exists_before {commits : Nat → Nat} (ages : before.Ages after commits)
    (found : after.pages[index]? = some page) : ∃ page', before.pages[index]? = some page' ∧
      page.serial = page'.serial + UInt32.ofNat (commits index) := by
  have inside : index < before.pages.size := by
    have below := (Array.getElem?_eq_some_iff.mp found).1
    have size : after.pages.size = before.pages.size := ages.nrPages
    omega
  obtain ⟨page', found', serial, -⟩ := ages.pages (Array.getElem?_eq_getElem inside)
  rw [found] at found'
  cases found'
  exact ⟨_, Array.getElem?_eq_getElem inside, serial⟩

/-- New backing under the next serial is one commit of the page. -/
theorem ages_write (new : Page) (found : vbar.pages[index]? = some page)
    (serial : new.serial = page.serial + 1) :
    vbar.Ages (vbar.write index new) fun other => [index].count other := by
  refine ⟨rfl, write_nrPages, fun {other page'} found' => ?_⟩
  by_cases same : other = index
  · subst same
    rw [found] at found'
    cases found'
    exact ⟨new, getElem?_write_self found new, by simpa using serial, fun none => by simp at none⟩
  · refine ⟨page', by rw [getElem?_write_of_ne found same, found'], ?_, fun _ => .inl rfl⟩
    simp [Ne.symm same]

/-! ## Pages outside a range -/

/-- Outside some of the pages none was pinned or unpinned, and none got new backing. -/
def KeepsOutside (before after : Vbar) (inside : Nat → Prop) : Prop :=
  ∀ (index : Nat) (page : Page), before.pages[index]? = some page → ¬ inside index →
    ∃ page', after.pages[index]? = some page' ∧ page'.pinned = page.pinned ∧
      page'.serial = page.serial ∧ (page'.backing = page.backing ∨ page'.backing = none)

variable {inside wider : Nat → Prop}

theorem KeepsOutside.refl (vbar : Vbar) : vbar.KeepsOutside vbar inside :=
  fun _ page found _ => ⟨page, found, rfl, rfl, .inl rfl⟩

theorem KeepsOutside.trans {middle : Vbar} (first : before.KeepsOutside middle inside)
    (second : middle.KeepsOutside after inside) : before.KeepsOutside after inside := by
  intro index page found outside
  obtain ⟨page', found', pinned, serial, backing⟩ := first index page found outside
  obtain ⟨page'', found'', pinned', serial', backing'⟩ := second index page' found' outside
  refine ⟨page'', found'', pinned'.trans pinned, serial'.trans serial, ?_⟩
  rcases backing' with same | lost
  · rwa [same]
  · exact .inr lost

theorem KeepsOutside.mono (kept : before.KeepsOutside after inside)
    (wide : ∀ index, inside index → wider index) : before.KeepsOutside after wider :=
  fun index page found outside => kept index page found fun narrow => outside (wide index narrow)

/-- Reclaiming keeps every pin and every serial. -/
theorem KeepsOutside.cut (vbar : Vbar) (watermark : Nat) :
    vbar.KeepsOutside (vbar.cut watermark) inside := by
  intro index page found _
  rw [getElem?_cut, found, Option.map_some]
  refine ⟨_, rfl, ?_⟩
  split
  · unfold Page.evicted
    split
    · exact ⟨rfl, rfl, .inl rfl⟩
    · exact ⟨rfl, rfl, .inr rfl⟩
  · exact ⟨rfl, rfl, .inl rfl⟩

theorem KeepsOutside.write (found : vbar.pages[index]? = some page) (new : Page)
    (here : inside index) : vbar.KeepsOutside (vbar.write index new) inside := by
  intro other page' found' outside
  have differ : other ≠ index := fun same => outside (same ▸ here)
  exact ⟨page', by rw [getElem?_write_of_ne found differ, found'], rfl, rfl, .inl rfl⟩

theorem Changed.getElem?_of_outside (changed : Changed before after start count change)
    (outside : ¬ (start ≤ index ∧ index < start + count)) :
    after.pages[index]? = before.pages[index]? := by
  rw [changed.pages]
  simp only [outside, if_false]
  exact Option.map_id'

theorem Changed.keepsOutside (changed : Changed before after start count change)
    (here : ∀ index, start ≤ index → index < start + count → inside index) :
    before.KeepsOutside after inside := by
  intro index page found outside
  have beyond : ¬ (start ≤ index ∧ index < start + count) := fun range =>
    outside (here index range.1 range.2)
  exact ⟨page, by rw [changed.getElem?_of_outside beyond, found], rfl, rfl, .inl rfl⟩

/-! ## What remains of a VBAR after an operation -/

/-- A pinned page is kept unless it is unpinned, and a page below the limit is kept anyway. The
limit itself stays unless the operation sets it, and only a fault gives a page new backing. -/
structure Outlives (before after : Vbar) (faulted relimited : Prop) (unpinned : Nat → Prop) :
    Prop where
  base : after.base = before.base
  nrPages : after.nrPages = before.nrPages
  limit : ¬ relimited → after.watermarkLimit = before.watermarkLimit
  keeps : ∀ {index : Nat} {page : Page}, before.pages[index]? = some page →
    page.isResident = true →
    (page.pinned = true ∧ ¬ unpinned index) ∨ index < before.watermarkLimit →
      ∃ page', after.pages[index]? = some page' ∧ page'.backing = page.backing ∧
        page'.serial = page.serial ∧
        (page.pinned = true → ¬ unpinned index → page'.pinned = true)
  fades : ¬ faulted → before.Fades after

variable {faulted relimited : Prop} {unpinned : Nat → Prop}

theorem Spares.outlives (spares : before.Spares after) (fades : ¬ faulted → before.Fades after) :
    before.Outlives after faulted relimited unpinned := by
  refine ⟨spares.base, spares.nrPages, fun _ => spares.watermarkLimit, ?_, fades⟩
  intro index page found resident guarded
  obtain ⟨page', found', backing, serial, pinned⟩ :=
    spares.keeps ⟨found, resident, guarded.imp_left And.left⟩
  exact ⟨page', found', backing, serial, fun pin _ => pinned pin⟩

/-- An operation that moves watermarks and limits only keeps every page. -/
theorem outlives_of_pages (base : after.base = before.base) (pages : after.pages = before.pages)
    (limit : ¬ relimited → after.watermarkLimit = before.watermarkLimit) :
    before.Outlives after faulted relimited unpinned := by
  refine ⟨base, ?_, limit, fun {index page} found _ _ => ⟨page, ?_, rfl, rfl, fun pin _ => pin⟩,
    fun _ => .of_pages_eq base pages⟩
  · rw [Vbar.nrPages, Vbar.nrPages, pages]
  · rw [pages, found]

end VramOvercommit.Vbar
