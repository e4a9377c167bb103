import VramOvercommit.Proofs.Faulting
import VramOvercommit.Proofs.Simulation.Accounts
import VramOvercommit.Proofs.Simulation.QuietLedger

set_option autoImplicit false

/-!
When a fault gets its pages. Reclaiming on its behalf does not stop once the absent pages of the
range are covered. It goes on for every absent page of the VBAR below the end of the range, and
where the VBARs of lower priority have nothing left it cuts the VBAR itself, possibly into the
range.
-/

namespace VramOvercommit.Vbars

open Simulation

/-- What decides about a fault of the pages from `start` to `stop`: they fit what is free, or the
limit keeps reclaiming out of the range, or every absent page below its end is covered. -/
def Affordable (size free supply : Nat) (own : Vbar) (start stop : Nat) : Prop :=
  own.absentIn start stop * size ≤ free ∨ stop ≤ own.watermarkLimit ∨
    own.absentBelow stop * size ≤ free + (supply + own.reclaimable stop) * size

section Loop

variable (around : Surroundings) (size : Nat) (rest : List Holding) (handle : Handle) (stop : Nat)

/-- The bytes that are free while the pages of a table are held. -/
def freeWith (vbars : PriorityList Vbar) : Nat :=
  around.capacity - around.inUse (heldBytes (vbarHoldings vbars size ++ rest))

/-- A fault on its way, with the pages from `index` on still to go. -/
structure Pending (vbars : PriorityList Vbar) (own : Vbar) (index : Nat) : Prop where
  sound : SoundVbars vbars
  live : vbars.get? handle = some own
  reach : stop ≤ own.watermark
  fits : around.inUse (heldBytes (vbarHoldings vbars size ++ rest)) ≤ around.capacity
  /-- No mapping is in the way of a page that is absent. -/
  clear : ∀ {other : Nat} {page : Page}, index ≤ other → other < stop →
    own.pages[other]? = some page → page.isResident = false →
    ∀ entry ∈ around.strays ++ (vbarHoldings vbars size ++ rest).map Holding.mapping,
      ¬ Device.Overlaps entry (own.base + other * size) size
  enough : own.absentIn index stop * size ≤
    freeWith around size rest vbars + Eviction.supplyBelow vbars handle * size

/-- Whether the pages from `index` on can be had. -/
def Served (vbars : PriorityList Vbar) (own : Vbar) (index : Nat) : Prop :=
  Affordable size (freeWith around size rest vbars) (Eviction.supplyBelow vbars handle) own index
    stop

end Loop

variable {σ : Type} [Host σ] {facade : Facade σ} {around : Surroundings} {size : Nat}
  {rest : List Holding} {handle : Handle} {stop : Nat} {vbars after : PriorityList Vbar} {own left : Vbar} {index : Nat} {page : Page}

/-- Memory for a page is refused only where less than a page is free. -/
theorem Pending.full (pending : Pending around size rest handle stop vbars own index)
    (less : index < stop) (found : own.pages[index]? = some page)
    (absent : page.isResident = false) {cause : DriverError}
    (refused : Refused (facade.quietBooks around) size rest index vbars own cause) :
    cause = .outOfMemory ∧ freeWith around size rest vbars < size := by
  have fits := pending.fits
  rcases refused with ⟨rfl, full⟩ | ⟨entry, member, overlaps⟩
  · refine ⟨rfl, ?_⟩
    unfold freeWith
    unfold Surroundings.inUse at full fits ⊢
    omega
  · exact absurd overlaps (pending.clear (Nat.le_refl _) less found absent entry member)

/-- Where less than a page is free, only whole pages that are reclaimed count. -/
theorem le_of_covered {count free supply : Nat} (full : free < size)
    (covered : count * size ≤ free + supply * size) : count ≤ supply := by
  by_contra more
  have mono := Nat.mul_le_mul_right size (Nat.succ_le_of_lt (Nat.not_le.mp more))
  rw [Nat.succ_mul] at mono
  omega

/-- Shrinking spares the range exactly if the fault can be served. -/
theorem Pending.spared_iff (pending : Pending around size rest handle stop vbars own index)
    (less : index < stop) (found : own.pages[index]? = some page)
    (absent : page.isResident = false)
    (squeezed : Squeezed (facade.quietBooks around) size rest handle index stop vbars own after
      left) :
    stop ≤ left.watermark ↔ Served around size rest handle stop vbars own index := by
  have full := (pending.full less found absent squeezed.refused).2
  have member : handle ∈ vbars.handles.reverse :=
    List.mem_reverse.mpr (pending.sound.linked.mem_handles.mpr ⟨own, pending.live⟩)
  obtain ⟨-, watermark, limit, -, rfl⟩ := squeezed.cut pending.live
  obtain ⟨freed, walked⟩ := squeezed.walked
  constructor
  · intro reach
    rcases walked.pinched member reach with kept | covered
    · exact .inr (.inl kept)
    · rw [Nat.zero_add] at covered
      exact .inr (.inr (Nat.le_trans (Nat.mul_le_mul_right size covered) (Nat.le_add_left _ _)))
  · rintro (free | kept | covered)
    · have none : own.absentIn index stop ≤ 0 := le_of_covered full (by omega)
      rw [Vbar.absentIn_succ found less, absent] at none
      cases none
    · exact Nat.le_trans kept limit
    · apply walked.spared pending.reach
      rw [Nat.zero_add]
      exact le_of_covered full covered

/-- What is reclaimed becomes free. -/
theorem freeWith_reclaimed {freed : Nat} (sound : SoundVbars vbars) (sound' : SoundVbars after)
    (total : totalResident after + freed = totalResident vbars)
    (fits : around.inUse (heldBytes (vbarHoldings vbars size ++ rest)) ≤ around.capacity) :
    around.inUse (heldBytes (vbarHoldings after size ++ rest)) ≤ around.capacity ∧
      freeWith around size rest after = freeWith around size rest vbars + freed * size := by
  have bytes := congrArg (· * size) total
  simp only [Nat.add_mul] at bytes
  unfold freeWith
  unfold Surroundings.inUse at fits ⊢
  simp only [heldBytes_append, sound.heldBytes, sound'.heldBytes] at fits ⊢
  omega

/-- Once the range is spared, what is left to go fits what is free. -/
theorem Pending.squeezed (pending : Pending around size rest handle stop vbars own index)
    (less : index < stop) (found : own.pages[index]? = some page)
    (absent : page.isResident = false)
    (squeezed : Squeezed (facade.quietBooks around) size rest handle index stop vbars own after
      left)
    (reach : stop ≤ left.watermark) :
    Pending around size rest handle stop after left index ∧
      left.absentIn index stop * size ≤ freeWith around size rest after := by
  have full := (pending.full less found absent squeezed.refused).2
  obtain ⟨remains, watermark, -, -, rfl⟩ := squeezed.cut pending.live
  obtain ⟨freed, walked⟩ := squeezed.walked
  have got : own.absentIn index stop ≤ freed := by
    have missing := own.absentBelow_add_absentIn (Nat.le_of_lt less)
    rcases walked.served reach with all | supply
    · omega
    · rw [Nat.zero_add] at supply
      exact Nat.le_trans (le_of_covered full pending.enough) supply
  rw [Vbar.cut_watermark] at reach
  have uncut : ∀ other < stop, (own.cut watermark).pages[other]? = own.pages[other]? :=
    fun other inside => Vbar.getElem?_cut_of_lt (Nat.lt_of_lt_of_le inside reach)
  obtain ⟨fits, room⟩ :=
    freeWith_reclaimed pending.sound squeezed.sound walked.total pending.fits
  have covered : (own.cut watermark).absentIn index stop * size ≤
      freeWith around size rest after := by
    rw [Vbar.absentIn_congr fun other _ => uncut other, room]
    exact Nat.le_trans (Nat.mul_le_mul_right size got) (Nat.le_add_left _ _)
  refine ⟨⟨squeezed.sound, remains, reach, fits, ?_, Nat.le_trans covered (Nat.le_add_right _ _)⟩,
    covered⟩
  intro other page' low high found' absent' entry inside
  rw [uncut other high] at found'
  apply pending.clear low high found' absent' entry
  rcases List.mem_append.mp inside with stray | mapped
  · exact List.mem_append_left _ stray
  · obtain ⟨holding, held, rfl⟩ := List.mem_map.mp mapped
    refine List.mem_append_right _ (List.mem_map_of_mem ?_)
    rcases List.mem_append.mp held with ofVbar | ofBuffer
    · exact List.mem_append_left _ (squeezed.shrunk.mem_vbarHoldings pending.sound.linked
        squeezed.sound.linked ofVbar)
    · exact List.mem_append_right _ ofBuffer

/-- A page that is resident already. -/
theorem Pending.pass (pending : Pending around size rest handle stop vbars own index)
    (less : index < stop) (found : own.pages[index]? = some page)
    (resident : page.isResident = true) :
    Pending around size rest handle stop vbars own (index + 1) ∧
      (Served around size rest handle stop vbars own (index + 1) ↔
        Served around size rest handle stop vbars own index) := by
  have same := Vbar.absentIn_succ found less
  rw [resident, if_pos rfl, Nat.add_zero] at same
  refine ⟨⟨pending.sound, pending.live, pending.reach, pending.fits, fun {other page} low =>
    pending.clear (by omega), ?_⟩, ?_⟩
  · rw [← same]
    exact pending.enough
  · unfold Served Affordable
    rw [same]

section Write

variable {new : Page} {memory : PhysicalHandle}

/-- A page that gets memory takes up the bytes of a page. -/
theorem freeWith_write (sound : SoundVbars vbars) (live : vbars.get? handle = some own)
    (found : own.pages[index]? = some page) (absent : page.isResident = false)
    (backed : new.backing = some memory)
    (fits : around.inUse (heldBytes
      (vbarHoldings (vbars.set handle (own.write index new)) size ++ rest)) ≤ around.capacity) :
    freeWith around size rest vbars =
      freeWith around size rest (vbars.set handle (own.write index new)) + size := by
  have bytes := heldBytes_perm (perm_vbarHoldings_write sound.linked live found absent backed size)
  unfold freeWith
  unfold Surroundings.inUse at fits ⊢
  simp only [heldBytes_append, bytes, heldBytes_cons] at fits ⊢
  omega

/-- The mapping of a page that gets memory is in the way of no other page. -/
theorem Pending.clear_write (pending : Pending around size rest handle stop vbars own index)
    (positive : 0 < size) (found : own.pages[index]? = some page)
    (absent : page.isResident = false) (backed : new.backing = some memory) {other : Nat}
    {page' : Page} (low : index + 1 ≤ other) (high : other < stop)
    (found' : own.pages[other]? = some page') (absent' : page'.isResident = false)
    {entry : Nat × Mapping}
    (inside : entry ∈ around.strays ++
      (vbarHoldings (vbars.set handle (own.write index new)) size ++ rest).map Holding.mapping) :
    ¬ Device.Overlaps entry (own.base + other * size) size := by
  have stored := perm_vbarHoldings_write pending.sound.linked pending.live found absent backed size
  have same := (((stored.append_right rest).map Holding.mapping).append_left around.strays)
  have mapped : entry = Holding.mapping ⟨own.base + index * size, size, memory⟩ ∨
      entry ∈ around.strays ++ (vbarHoldings vbars size ++ rest).map Holding.mapping := by
    rcases List.mem_append.mp (same.mem_iff.mp inside) with stray | held
    · exact .inr (List.mem_append_left _ stray)
    · exact (List.mem_cons.mp held).imp id (List.mem_append_right _)
  rcases mapped with rfl | old
  · -- the pages of a VBAR lie side by side
    have apart := Nat.mul_le_mul_right size low
    rw [Nat.add_one_mul] at apart
    rintro ⟨-, starts | reaches⟩
    · change own.base + other * size ≤ own.base + index * size at starts
      omega
    · change own.base + other * size < own.base + index * size + size at reaches
      omega
  · exact pending.clear (by omega) high found' absent' entry old

/-- A page that gets memory takes up as much as there is less to cover. -/
theorem Pending.write (pending : Pending around size rest handle stop vbars own index)
    (positive : 0 < size) (less : index < stop) (found : own.pages[index]? = some page)
    (absent : page.isResident = false) (backed : new.backing = some memory)
    (fits : around.inUse (heldBytes
      (vbarHoldings (vbars.set handle (own.write index new)) size ++ rest)) ≤ around.capacity) :
    Pending around size rest handle stop (vbars.set handle (own.write index new))
        (own.write index new) (index + 1) ∧
      (Served around size rest handle stop (vbars.set handle (own.write index new))
          (own.write index new) (index + 1) ↔
        Served around size rest handle stop vbars own index) := by
  have resident : new.isResident = true := by
    rw [Page.isResident, backed]
    rfl
  have room := freeWith_write pending.sound pending.live found absent backed fits
  have supply : Eviction.supplyBelow (vbars.set handle (own.write index new)) handle =
      Eviction.supplyBelow vbars handle := Eviction.supplyBelow_set_self pending.sound
  have fewer : own.absentIn index stop = own.absentIn (index + 1) stop + 1 := by
    rw [Vbar.absentIn_succ found less, absent]
    rfl
  constructor
  · refine ⟨?_, PriorityList.get?_set_self pending.live _, pending.reach, fits, ?_, ?_⟩
    · refine pending.sound.set ((pending.sound.consistent pending.live).write found
        (fun _ => resident) fun above => ?_)
      have reach := pending.reach
      omega
    · intro other page' low high found' absent' entry inside
      rw [Vbar.getElem?_write_of_ne found (by omega)] at found'
      exact pending.clear_write positive found absent backed low high found' absent' inside
    · have enough := pending.enough
      rw [fewer, room, Nat.add_one_mul] at enough
      rw [Vbar.absentIn_write found, supply]
      omega
  · unfold Served Affordable
    rw [Vbar.absentIn_write found, Vbar.reclaimable_write found less, supply, fewer, room,
      Vbar.absentBelow_write found absent resident less, Nat.add_one_mul, Nat.add_one_mul,
      Vbar.write_watermarkLimit]
    omega

end Write

/-- A page is lost only where the fault cannot be served. -/
theorem Pending.lost (pending : Pending around size rest handle stop vbars own index)
    (less : index < stop)
    (lost : PageLost (facade.quietBooks around) size rest handle index stop vbars own after) :
    ¬ Served around size rest handle stop vbars own index := by
  cases lost with
  | outOfReach _ beyond =>
    have reach := pending.reach
    omega
  | unready found absent reach unready =>
    cases unready with
    | failed _ refused => cases (pending.full less found absent refused).1
    | cutOff squeezed beyond =>
      rw [← pending.spared_iff less found absent squeezed]
      omega
    | exhausted squeezed refused =>
      rw [← pending.spared_iff less found absent squeezed]
      intro spared
      obtain ⟨pending', covered⟩ := pending.squeezed less found absent squeezed spared
      obtain ⟨-, watermark, -, -, rfl⟩ := squeezed.cut pending.live
      rw [Vbar.cut_watermark] at spared
      have found' := (Vbar.getElem?_cut_of_lt (Nat.lt_of_lt_of_le less spared)).trans found
      have full := (pending'.full less found' absent refused).2
      rw [Vbar.absentIn_succ found' less, absent, if_neg Bool.false_ne_true,
        Nat.add_one_mul] at covered
      omega

/-- After a page was faulted the fault can be served as before, or the watermark has passed the
range and it cannot be served. -/
theorem Pending.step (pending : Pending around size rest handle stop vbars own index)
    (positive : 0 < size) (less : index < stop)
    (faulted : PageFaulted (facade.quietBooks around) size rest handle index stop vbars own after
      left)
    (fits : around.inUse (heldBytes (vbarHoldings after size ++ rest)) ≤ around.capacity) :
    (Pending around size rest handle stop after left (index + 1) ∧
      (Served around size rest handle stop after left (index + 1) ↔
        Served around size rest handle stop vbars own index)) ∨
    (left.watermark < stop ∧ ¬ Served around size rest handle stop vbars own index) := by
  cases faulted with
  | resident found resident _ => exact .inl (pending.pass less found resident)
  | @backed between middle page memory found absent readied reach =>
    cases readied with
    | atOnce => exact .inl (pending.write positive less found absent rfl fits)
    | squeezed squeezed =>
      have spared_iff := pending.spared_iff less found absent squeezed
      by_cases spared : stop ≤ middle.watermark
      · obtain ⟨pending', covered⟩ := pending.squeezed less found absent squeezed spared
        obtain ⟨-, watermark, -, -, rfl⟩ := squeezed.cut pending.live
        rw [Vbar.cut_watermark] at spared
        have found' := (Vbar.getElem?_cut_of_lt (Nat.lt_of_lt_of_le less spared)).trans found
        obtain ⟨pending'', served⟩ := pending'.write positive less found' absent rfl fits
        exact .inl ⟨pending'', served.trans ⟨fun _ => spared_iff.mp spared, fun _ => .inl covered⟩⟩
      · refine .inr ⟨?_, fun served => spared (spared_iff.mpr served)⟩
        rw [Vbar.write_watermark]
        omega

variable {context : Context σ} {regions : List Region}

/-- A fault gets its pages exactly if it can be served. -/
theorem faultPages_served {count : Nat}
    (pending : Pending around size rest handle stop context.engine.vbars own index)
    (kept : VbarBooks (facade.quietBooks around) context regions rest)
    (pageSize : context.engine.config.vbarPageSize = size) (all : index + count = stop) :
    Ensures (fun _ => False) (faultPages handle stop count index).run context (fun result _ =>
      result.isOk = true ↔ Served around size rest handle stop context.engine.vbars own index) := by
  induction count generalizing context index own with
  | zero =>
    have nothing := own.absentBelow_add_absentIn (Nat.le_refl stop)
    have none : own.absentIn index stop = 0 := by
      rw [show index = stop from all]
      omega
    refine ⟨fun _ => .inl ?_, fun _ => rfl⟩
    rw [none, Nat.zero_mul]
    exact Nat.zero_le _
  | succ count ih =>
    have positive := kept.positive
    have less : index < stop := by omega
    rw [pageSize] at positive
    unfold faultPages
    rw [ensures_run_bind]
    apply Ensures.mono (faultPage_spec kept)
    intro result middle outcome
    obtain ⟨worked, -, kept', outcome⟩ := outcome
    have outcome := (outcome own pending.live).2.2
    have pageSize' : middle.engine.config.vbarPageSize = size := by
      rw [worked.config, pageSize]
    rw [pageSize] at outcome
    cases result with
    | error cause =>
      have lost := pending.lost less outcome
      exact ⟨fun ok => absurd ok Bool.false_ne_true, fun served => absurd served lost⟩
    | ok serial =>
      obtain ⟨left, faulted, -⟩ := outcome
      have fits := kept'.books.agrees.fits
      rw [pageSize', Option.toList_none, List.map_nil, List.sum_nil, Nat.zero_add] at fits
      obtain ⟨live', reach, -⟩ := faulted.remains pending.sound pending.live
      dsimp only
      rw [ensures_run_bind]
      rcases pending.step positive less faulted fits with ⟨pending', same⟩ | ⟨beyond, unserved⟩
      · apply (ih pending' kept' pageSize' (by omega)).mono
        intro result after outcome
        rw [same] at outcome
        cases result <;> exact outcome
      · refine Ensures.mono (faultPages_beyond kept' live' reach (by omega))
          fun result after failed => ?_
        cases result with
        | error cause =>
          exact ⟨fun ok => absurd ok Bool.false_ne_true, fun served => absurd served unserved⟩
        | ok serials => cases failed

end VramOvercommit.Vbars
