import VramOvercommit.Proofs.VbarTable

set_option autoImplicit false

/-!
The order in which pages are reclaimed: victim by victim, and the last page of a victim first. A
walk that drains some victims and stops in the next one has taken a beginning of this order.
-/

namespace VramOvercommit

namespace Vbar

variable {vbar left : Vbar} {index start watermark : Nat} {page : Page} {given : Nat → Prop}

/-- The pages from `start` up to the watermark that reclaiming can take, the last one first. -/
def reclaimablePages (vbar : Vbar) (start : Nat) : List Nat :=
  ((List.range' start (vbar.watermark - start)).filter fun index =>
    vbar.pages[index]?.any Page.isReclaimable).reverse

theorem mem_reclaimablePages : index ∈ vbar.reclaimablePages start ↔
    start ≤ index ∧ index < vbar.watermark ∧
      ∃ page, vbar.pages[index]? = some page ∧ page.isReclaimable = true := by
  unfold reclaimablePages
  rw [List.mem_reverse, List.mem_filter, List.mem_range'_1, Option.any_eq_true]
  constructor
  · rintro ⟨⟨low, high⟩, found⟩
    exact ⟨low, by omega, found⟩
  · rintro ⟨low, high, found⟩
    exact ⟨⟨low, by omega⟩, found⟩

theorem reclaimablePages_watermark : vbar.reclaimablePages vbar.watermark = [] := by
  unfold reclaimablePages
  rw [Nat.sub_self]
  rfl

/-- One page more at the lower end. -/
theorem reclaimablePages_succ (found : vbar.pages[index]? = some page)
    (below : index < vbar.watermark) :
    vbar.reclaimablePages index =
      vbar.reclaimablePages (index + 1) ++ if page.isReclaimable then [index] else [] := by
  unfold reclaimablePages
  rw [show vbar.watermark - index = vbar.watermark - (index + 1) + 1 by omega, List.range'_succ,
    List.filter_cons, found, Option.any_some]
  cases page.isReclaimable with
  | true => exact List.reverse_cons
  | false => exact (List.append_nil _).symm

/-- The pages from a higher start on come first. -/
theorem reclaimablePages_prefix_of_le {low : Nat} (le : low ≤ start)
    (below : start ≤ vbar.watermark) :
    vbar.reclaimablePages start <+: vbar.reclaimablePages low := by
  unfold reclaimablePages
  rw [List.reverse_prefix, show vbar.watermark - low = (start - low) + (vbar.watermark - start) by
    omega, ← List.range'_append_1, List.filter_append, show low + (start - low) = start by omega]
  exact List.suffix_append _ _

theorem Consistent.length_reclaimablePages (consistent : vbar.Consistent)
    (below : start ≤ vbar.watermark) :
    (vbar.reclaimablePages start).length = vbar.reclaimable start := by
  generalize count : vbar.watermark - start = steps
  induction steps generalizing start with
  | zero =>
    obtain rfl : start = vbar.watermark := by omega
    rw [reclaimablePages_watermark, consistent.reclaimable_watermark, List.length_nil]
  | succ steps ih =>
    have inside := consistent.watermark_le
    unfold nrPages at inside
    have found : vbar.pages[start]? = some vbar.pages[start] :=
      Array.getElem?_eq_getElem (by omega)
    rw [reclaimablePages_succ found (by omega), reclaimable_succ found, List.length_append,
      ih (by omega) (by omega)]
    cases vbar.pages[start].isReclaimable <;> rfl

/-- The first pages to go are those that a cut takes. -/
theorem Consistent.take_reclaimablePages (consistent : vbar.Consistent) {low : Nat}
    (le : low ≤ start) (below : start ≤ vbar.watermark) :
    (vbar.reclaimablePages low).take (vbar.reclaimable start) = vbar.reclaimablePages start := by
  rw [← consistent.length_reclaimablePages below]
  exact (List.prefix_iff_eq_take.mp (reclaimablePages_prefix_of_le le below)).symm

/-- A cut that could have spared a page ends at the last page that it takes. -/
theorem Consistent.getElem?_reclaimablePages (consistent : vbar.Consistent) {low : Nat}
    (le : low ≤ watermark) (below : watermark ≤ vbar.watermark)
    (last : vbar.reclaimable (watermark + 1) < vbar.reclaimable watermark) :
    (vbar.reclaimablePages low)[vbar.reclaimable watermark - 1]? = some watermark := by
  have less : watermark < vbar.watermark := by
    rcases Nat.lt_or_eq_of_le below with less | rfl
    · exact less
    · rw [consistent.reclaimable_watermark] at last
      omega
  have inside := consistent.watermark_le
  unfold nrPages at inside
  have found : vbar.pages[watermark]? = some vbar.pages[watermark] :=
    Array.getElem?_eq_getElem (by omega)
  have sum := reclaimable_succ found
  have length := consistent.length_reclaimablePages (show watermark + 1 ≤ vbar.watermark from less)
  obtain ⟨others, split⟩ := reclaimablePages_prefix_of_le le below
  rw [← split, reclaimablePages_succ found less]
  cases reclaims : vbar.pages[watermark].isReclaimable with
  | false =>
    rw [reclaims] at sum
    simp only [Bool.false_eq_true, if_false] at sum
    omega
  | true =>
    rw [reclaims, if_pos rfl] at sum
    rw [if_pos rfl, List.append_assoc, List.getElem?_append_right (by omega), length,
      show vbar.reclaimable watermark - 1 - vbar.reclaimable (watermark + 1) = 0 by omega]
    rfl

/-- The VBAR gave up the memory of these pages, and nothing else of it changed but the watermark and
the count. -/
structure GaveUp (before after : Vbar) (given : Nat → Prop) : Prop where
  base : after.base = before.base
  device : after.device = before.device
  limit : after.watermarkLimit = before.watermarkLimit
  taken : ∀ index, given index → ∃ page, before.pages[index]? = some page ∧
    page.isReclaimable = true ∧ after.pages[index]? = some { page with backing := none }
  kept : ∀ index, ¬ given index → after.pages[index]? = before.pages[index]?

theorem GaveUp.refl (none : ∀ index, ¬ given index) : vbar.GaveUp vbar given :=
  ⟨rfl, rfl, rfl, fun index member => absurd member (none index), fun _ _ => rfl⟩

/-- A cut takes the pages that reclaiming can take from there on. -/
theorem Consistent.gaveUp_cut (consistent : vbar.Consistent)
    (which : ∀ index, given index ↔ index ∈ vbar.reclaimablePages watermark) :
    vbar.GaveUp (vbar.cut watermark) given := by
  refine ⟨rfl, rfl, rfl, fun index member => ?_, fun index outside => ?_⟩
  · obtain ⟨low, -, page, found, reclaims⟩ := mem_reclaimablePages.mp ((which index).mp member)
    have unpinned : page.pinned = false := by
      unfold Page.isReclaimable at reclaims
      simpa using (Bool.and_eq_true_iff.mp reclaims).2
    refine ⟨page, found, reclaims, ?_⟩
    rw [getElem?_cut, found, Option.map_some, if_pos low, Page.evicted, unpinned,
      if_neg Bool.false_ne_true]
  · rw [getElem?_cut]
    cases found : vbar.pages[index]? with
    | none => rfl
    | some page =>
      rw [Option.map_some]
      split
      · rename_i low
        rw [evicted_eq_self fun resident => ?_]
        by_contra notPinned
        have unpinned : page.pinned = false := by simpa using notPinned
        rcases Nat.lt_or_ge index vbar.watermark with below | above
        · have reclaims : page.isReclaimable = true := by
            simp [Page.isReclaimable, resident, unpinned]
          exact outside ((which index).mpr
            (mem_reclaimablePages.mpr ⟨low, below, page, found, reclaims⟩))
        · exact notPinned (consistent.above_pinned found above resident)
      · rfl

end Vbar

/-! ## Several victims -/

/-- The pages that victims can give up, in the order in which reclaiming takes them. -/
def reclaimOrder (vbars : PriorityList Vbar) (victims : List Handle) : List (Handle × Nat) :=
  victims.flatMap fun victim =>
    match vbars.get? victim with
    | some vbar => (vbar.reclaimablePages vbar.watermarkLimit).map (victim, ·)
    | none => []

section Walks

variable {before middle after : PriorityList Vbar} {victims lower higher : List Handle}
  {victim owner handle : Handle} {vbar own : Vbar} {watermark wanted freed index : Nat}

theorem reclaimOrder_cons_of_live (live : before.get? victim = some vbar) :
    reclaimOrder before (victim :: victims) =
      (vbar.reclaimablePages vbar.watermarkLimit).map (victim, ·) ++
        reclaimOrder before victims := by
  unfold reclaimOrder
  rw [List.flatMap_cons, live]

theorem reclaimOrder_cons_of_stale (stale : before.get? victim = none) :
    reclaimOrder before (victim :: victims) = reclaimOrder before victims := by
  unfold reclaimOrder
  rw [List.flatMap_cons, stale]
  rfl

theorem reclaimOrder_append : reclaimOrder before (lower ++ higher) =
    reclaimOrder before lower ++ reclaimOrder before higher := List.flatMap_append

/-- Only the victims matter. -/
theorem reclaimOrder_congr (same : ∀ victim ∈ victims, middle.get? victim = before.get? victim) :
    reclaimOrder middle victims = reclaimOrder before victims := by
  unfold reclaimOrder
  refine List.flatMap_congr fun victim member => ?_
  rw [same victim member]

theorem mem_reclaimOrder (live : before.get? handle = some vbar) :
    (handle, index) ∈ reclaimOrder before victims ↔
      handle ∈ victims ∧ index ∈ vbar.reclaimablePages vbar.watermarkLimit := by
  unfold reclaimOrder
  rw [List.mem_flatMap]
  constructor
  · rintro ⟨victim, member, inside⟩
    cases live' : before.get? victim with
    | none =>
      rw [live'] at inside
      cases inside
    | some other =>
      rw [live'] at inside
      obtain ⟨index', inside, same⟩ := List.mem_map.mp inside
      cases same
      rw [live] at live'
      cases live'
      exact ⟨member, inside⟩
  · rintro ⟨member, inside⟩
    refine ⟨handle, member, ?_⟩
    rw [live]
    exact List.mem_map_of_mem inside

theorem length_reclaimOrder_cons : (reclaimOrder before (victim :: victims)).length =
    (reclaimOrder before [victim]).length + (reclaimOrder before victims).length := by
  rw [← List.singleton_append, reclaimOrder_append, List.length_append]

/-- A victim can give up the pages above its limit. -/
theorem length_reclaimOrder_of_live (sound : SoundVbars before)
    (live : before.get? victim = some vbar) :
    (reclaimOrder before [victim]).length = vbar.reclaimable vbar.watermarkLimit := by
  have consistent := sound.consistent live
  rw [reclaimOrder_cons_of_live live, List.length_append, List.length_map,
    consistent.length_reclaimablePages consistent.limit_le]
  rfl

theorem length_reclaimOrder_of_stale (stale : before.get? victim = none) :
    (reclaimOrder before [victim]).length = 0 := by
  rw [reclaimOrder_cons_of_stale stale]
  rfl

/-- What victims can give up is resident. -/
theorem length_reclaimOrder_le (sound : SoundVbars before) (distinct : victims.Nodup) :
    (reclaimOrder before victims).length ≤ totalResident before := by
  induction victims generalizing before with
  | nil => exact Nat.zero_le _
  | cons victim victims ih =>
    obtain ⟨fresh, distinct⟩ := List.nodup_cons.mp distinct
    rw [length_reclaimOrder_cons]
    cases live : before.get? victim with
    | none =>
      rw [length_reclaimOrder_of_stale live, Nat.zero_add]
      exact ih sound distinct
    | some vbar =>
      -- without what the first victim gives up, the others still have theirs
      have consistent := sound.consistent live
      have cut := consistent.cut vbar.watermarkLimit (Nat.le_refl _) consistent.limit_le
      have total := totalResident_cut sound live vbar.watermarkLimit
      have without : SoundVbars (before.set victim (vbar.cut vbar.watermarkLimit)) := sound.set cut
      have others := ih without distinct
      rw [reclaimOrder_congr fun other member =>
        PriorityList.get?_set_of_ne (ne_of_mem_of_not_mem member fresh)] at others
      rw [length_reclaimOrder_of_live sound live]
      omega

/-! ### How a walk ends -/

/-- A walk went through the whole of a victim, down to its limit. -/
def Drained (before after : PriorityList Vbar) (victim : Handle) : Prop :=
  after.get? victim = (before.get? victim).map fun vbar => vbar.cut vbar.watermarkLimit

theorem Drained.of_live (live : before.get? victim = some vbar)
    (cut : after.get? victim = some (vbar.cut vbar.watermarkLimit)) :
    Drained before after victim := by
  unfold Drained
  rw [live, cut]
  rfl

theorem Drained.of_stale (stale : before.get? victim = none) (same : after.get? victim = none) :
    Drained before after victim := by
  unfold Drained
  rw [stale, same]
  rfl

theorem Drained.congr (drained : Drained middle after victim)
    (same : middle.get? victim = before.get? victim) : Drained before after victim := by
  unfold Drained at drained ⊢
  rw [drained, same]

/-- Nothing above its limit is left to a victim that was drained. -/
theorem Drained.at_limit (drained : Drained before after victim)
    (live : after.get? victim = some vbar) : vbar.watermark = vbar.watermarkLimit := by
  unfold Drained at drained
  rw [live] at drained
  obtain ⟨old, -, rfl⟩ := Option.map_eq_some_iff.mp drained.symm
  rfl

/-- A walk ended in one victim. Those before it are drained, and those behind it as they were. -/
structure StoppedIn (before after : PriorityList Vbar) (lower : List Handle) (owner : Handle)
    (higher : List Handle) (own : Vbar) (watermark : Nat) : Prop where
  live : before.get? owner = some own
  limit : own.watermarkLimit ≤ watermark
  below : watermark ≤ own.watermark
  cut : after.get? owner = some (own.cut watermark)
  drained : ∀ victim ∈ lower, Drained before after victim
  same : ∀ victim ∈ higher, after.get? victim = before.get? victim

theorem StoppedIn.congr (here : StoppedIn middle after lower owner higher own watermark)
    (same : ∀ victim ∈ lower ++ owner :: higher, middle.get? victim = before.get? victim) :
    StoppedIn before after lower owner higher own watermark := by
  refine ⟨?_, here.limit, here.below, here.cut, fun victim member => ?_, fun victim member => ?_⟩
  · rw [← same owner (List.mem_append_right _ List.mem_cons_self)]
    exact here.live
  · exact (here.drained victim member).congr (same victim (List.mem_append_left _ member))
  · rw [here.same victim member]
    exact same victim (List.mem_append_right _ (List.mem_cons_of_mem _ member))

/-- A walk that ended in its first victim. -/
theorem StoppedIn.first (live : before.get? owner = some own)
    (limit : own.watermarkLimit ≤ watermark) (below : watermark ≤ own.watermark)
    (cut : after.get? owner = some (own.cut watermark))
    (same : ∀ victim ∈ higher, after.get? victim = before.get? victim) :
    StoppedIn before after [] owner higher own watermark :=
  ⟨live, limit, below, cut, fun _ member => absurd member List.not_mem_nil, same⟩

/-- A victim that is drained before the others. -/
theorem StoppedIn.cons (here : StoppedIn before after lower owner higher own watermark)
    (first : Drained before after victim) :
    StoppedIn before after (victim :: lower) owner higher own watermark := by
  have drained : ∀ other ∈ victim :: lower, Drained before after other :=
    List.forall_mem_cons.mpr ⟨first, here.drained⟩
  exact { here with drained }

/-- A walk over victims that freed a number of pages. -/
inductive Walked (before after : PriorityList Vbar) : (victims : List Handle) → (freed : Nat) →
    Prop where
  | drained {victims : List Handle} (all : ∀ victim ∈ victims, Drained before after victim) :
      Walked before after victims (reclaimOrder before victims).length
  | stopped {lower higher : List Handle} {owner : Handle} {own : Vbar} {watermark : Nat}
      (here : StoppedIn before after lower owner higher own watermark) :
      Walked before after (lower ++ owner :: higher)
        ((reclaimOrder before lower).length + own.reclaimable watermark)

theorem Walked.congr (walked : Walked middle after victims freed)
    (same : ∀ victim ∈ victims, middle.get? victim = before.get? victim) :
    Walked before after victims freed := by
  cases walked with
  | drained all =>
    rw [reclaimOrder_congr same]
    exact .drained fun victim member => (all victim member).congr (same victim member)
  | stopped here =>
    rw [reclaimOrder_congr fun victim member => same victim (List.mem_append_left _ member)]
    exact .stopped (here.congr same)

/-- A victim that is drained before the others. -/
theorem Walked.cons (first : Drained before after victim)
    (walked : Walked before after victims freed) :
    Walked before after (victim :: victims) ((reclaimOrder before [victim]).length + freed) := by
  cases walked with
  | drained all =>
    rw [← length_reclaimOrder_cons]
    exact .drained (List.forall_mem_cons.mpr ⟨first, all⟩)
  | stopped here =>
    rw [← Nat.add_assoc, ← length_reclaimOrder_cons]
    exact .stopped (here.cons first)

/-- A walk for a number of pages. It ends at the page that is the last one wanted, or it goes
through all victims because they have fewer. -/
inductive Supplied (before after : PriorityList Vbar) : (victims : List Handle) →
    (wanted freed : Nat) → Prop where
  | short {victims : List Handle} {wanted : Nat}
      (all : ∀ victim ∈ victims, Drained before after victim)
      (few : (reclaimOrder before victims).length < wanted) :
      Supplied before after victims wanted (reclaimOrder before victims).length
  | served {lower higher : List Handle} {owner : Handle} {own : Vbar} {watermark wanted : Nat}
      (here : StoppedIn before after lower owner higher own watermark)
      (last : own.reclaimable (watermark + 1) < own.reclaimable watermark)
      (total : (reclaimOrder before lower).length + own.reclaimable watermark = wanted) :
      Supplied before after (lower ++ owner :: higher) wanted wanted

theorem Supplied.congr (supplied : Supplied middle after victims wanted freed)
    (same : ∀ victim ∈ victims, middle.get? victim = before.get? victim) :
    Supplied before after victims wanted freed := by
  cases supplied with
  | short all few =>
    rw [reclaimOrder_congr same] at few ⊢
    exact .short (fun victim member => (all victim member).congr (same victim member)) few
  | served here last total =>
    rw [reclaimOrder_congr fun victim member => same victim (List.mem_append_left _ member)]
      at total
    exact .served (here.congr same) last total

/-- A victim that is drained before the others. -/
theorem Supplied.cons (first : Drained before after victim)
    (supplied : Supplied before after victims wanted freed) :
    Supplied before after (victim :: victims) ((reclaimOrder before [victim]).length + wanted)
      ((reclaimOrder before [victim]).length + freed) := by
  cases supplied with
  | short all few =>
    rw [← length_reclaimOrder_cons]
    refine .short (List.forall_mem_cons.mpr ⟨first, all⟩) ?_
    rw [length_reclaimOrder_cons]
    omega
  | served here last total =>
    refine .served (here.cons first) last ?_
    rw [length_reclaimOrder_cons]
    omega

theorem Supplied.walked (supplied : Supplied before after victims wanted freed) :
    Walked before after victims freed := by
  cases supplied with
  | short all _ => exact .drained all
  | served here _ total =>
    rw [← total]
    exact .stopped here

/-! ### What a walk took -/

theorem Drained.gaveUp (drained : Drained before after handle)
    (live : before.get? handle = some vbar) (consistent : vbar.Consistent)
    {given : Nat → Prop}
    (which : ∀ index, given index ↔ index ∈ vbar.reclaimablePages vbar.watermarkLimit) :
    ∃ left, after.get? handle = some left ∧ vbar.GaveUp left given := by
  unfold Drained at drained
  rw [live] at drained
  exact ⟨_, drained, consistent.gaveUp_cut which⟩

/-- A walk takes the first pages of the order and no others. -/
theorem Walked.gaveUp (walked : Walked before after victims freed) (sound : SoundVbars before)
    (distinct : victims.Nodup) (member : handle ∈ victims)
    (live : before.get? handle = some vbar) :
    ∃ left, after.get? handle = some left ∧
      vbar.GaveUp left fun index => (handle, index) ∈ (reclaimOrder before victims).take freed := by
  have consistent := sound.consistent live
  cases walked with
  | drained all =>
    refine (all handle member).gaveUp live consistent fun index => ?_
    rw [List.take_length, mem_reclaimOrder live]
    exact and_iff_right member
  | @stopped lower higher owner own watermark here =>
    have taken : (reclaimOrder before (lower ++ owner :: higher)).take
        ((reclaimOrder before lower).length + own.reclaimable watermark) =
          reclaimOrder before lower ++ (own.reclaimablePages watermark).map (owner, ·) := by
      have length := (sound.consistent here.live).length_reclaimablePages here.below
      have first := (sound.consistent here.live).take_reclaimablePages here.limit here.below
      have short : own.reclaimable watermark ≤
          ((own.reclaimablePages own.watermarkLimit).map (owner, ·)).length := by
        rw [List.length_map, ← length]
        exact (Vbar.reclaimablePages_prefix_of_le here.limit here.below).length_le
      rw [reclaimOrder_append, List.take_length_add_append, reclaimOrder_cons_of_live here.live,
        List.take_append_of_le_length short, ← List.map_take, first]
    rw [taken]
    have which : ∀ index, (handle, index) ∈ reclaimOrder before lower ++
        (own.reclaimablePages watermark).map (owner, ·) ↔
          (handle ∈ lower ∧ index ∈ vbar.reclaimablePages vbar.watermarkLimit) ∨
            (handle = owner ∧ index ∈ own.reclaimablePages watermark) := by
      intro index
      rw [List.mem_append, mem_reclaimOrder live, List.mem_map]
      refine or_congr Iff.rfl ⟨?_, ?_⟩
      · rintro ⟨other, inside, same⟩
        cases same
        exact ⟨rfl, inside⟩
      · rintro ⟨rfl, inside⟩
        exact ⟨index, inside, rfl⟩
    obtain ⟨-, tail, apart⟩ := List.nodup_append.mp distinct
    have outside := (List.nodup_cons.mp tail).1
    have not_lower : ∀ other ∈ owner :: higher, other ∉ lower := fun other member inside =>
      apart other inside other member rfl
    simp only [which]
    rcases List.mem_append.mp member with inside | inside
    · have other : handle ≠ owner := by
        rintro rfl
        exact not_lower handle List.mem_cons_self inside
      refine (here.drained handle inside).gaveUp live consistent fun index => ?_
      simp only [inside, other, true_and, false_and, or_false]
    · have free := not_lower handle inside
      rcases List.mem_cons.mp inside with rfl | above
      · obtain rfl : vbar = own := Option.some.inj (live.symm.trans here.live)
        refine ⟨_, here.cut, consistent.gaveUp_cut fun index => ?_⟩
        simp only [free, true_and, false_and, false_or]
      · have other : handle ≠ owner := by
          rintro rfl
          exact outside above
        refine ⟨vbar, (here.same handle above).trans live, .refl fun index => ?_⟩
        simp only [free, other, false_and, or_false, not_false_eq_true]

/-- A walk takes no more pages than there are. -/
theorem Walked.freed_le (walked : Walked before after victims freed) (sound : SoundVbars before) :
    freed ≤ (reclaimOrder before victims).length := by
  cases walked with
  | drained => exact Nat.le_refl _
  | @stopped lower higher owner own watermark here =>
    have most := own.reclaimable_anti here.limit
    rw [reclaimOrder_append, List.length_append, length_reclaimOrder_cons,
      length_reclaimOrder_of_live sound here.live]
    omega

/-- What is wanted is freed, or all that there is. -/
theorem Supplied.freed_eq (supplied : Supplied before after victims wanted freed)
    (sound : SoundVbars before) : freed = min wanted (reclaimOrder before victims).length := by
  have most := supplied.walked.freed_le sound
  cases supplied with
  | short _ few => omega
  | served _ _ _ => omega

theorem Supplied.drained (supplied : Supplied before after victims wanted freed)
    (sound : SoundVbars before) (few : (reclaimOrder before victims).length < wanted) :
    ∀ victim ∈ victims, Drained before after victim := by
  have most := supplied.walked.freed_le sound
  cases supplied with
  | short all _ => exact all
  | served _ _ _ => omega

/-- Where there are enough pages, a walk ends in the victim that the last one wanted belongs to, and
with its watermark at that page. -/
theorem Supplied.stopped (supplied : Supplied before after victims wanted freed)
    (sound : SoundVbars before) (enough : wanted ≤ (reclaimOrder before victims).length) :
    ∃ lower owner higher own index, victims = lower ++ owner :: higher ∧
      (reclaimOrder before victims)[wanted - 1]? = some (owner, index) ∧
      StoppedIn before after lower owner higher own index := by
  cases supplied with
  | short _ few => omega
  | @served lower higher owner own watermark _ here last total =>
    refine ⟨lower, owner, higher, own, watermark, rfl, ?_, here⟩
    have consistent := sound.consistent here.live
    have page := consistent.getElem?_reclaimablePages here.limit here.below last
    have inside := (List.getElem?_eq_some_iff.mp page).1
    rw [reclaimOrder_append, List.getElem?_append_right (by omega),
      reclaimOrder_cons_of_live here.live,
      List.getElem?_append_left (by rw [List.length_map]; omega),
      show wanted - 1 - (reclaimOrder before lower).length = own.reclaimable watermark - 1 by omega,
      List.getElem?_map, page]
    rfl

/-- From victims that are drained nothing can be reclaimed. -/
theorem exhausted_of_drained (sound : SoundVbars after)
    (all : ∀ victim ∈ victims, Drained before after victim) : Exhausted after victims := by
  intro victim member vbar live
  rw [← (all victim member).at_limit live]
  exact (sound.consistent live).reclaimable_watermark

end Walks

end VramOvercommit
