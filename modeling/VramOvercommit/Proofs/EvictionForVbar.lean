import VramOvercommit.Proofs.Eviction

set_option autoImplicit false

/-!
Reclaiming on behalf of a fault. The cursor stands for a count: it is the absent page that one more
freed page would be for. So the walk ends when as many pages were freed as are absent below the
target, unless there is nothing left to free.
-/

namespace VramOvercommit.Eviction

open EngineM
open Attempt (lift)

/-- As many pages are absent below the cursor as were freed. -/
structure Counted (own : Vbar) (freed cursor : Nat) : Prop where
  covered : own.absentBelow (min cursor own.watermark) ≤ freed
  exact : cursor < own.watermark → own.absentBelow cursor = freed

/-- The cursor is the absent page that comes next. -/
structure Waits (own : Vbar) (freed cursor : Nat) : Prop extends Counted own freed cursor where
  absent : cursor < own.watermark →
    ∃ page, own.pages[cursor]? = some page ∧ page.isResident = false

variable {own vbar : Vbar} {freed cursor target watermark : Nat}

theorem Counted.cut (counted : Counted own freed cursor) (below : watermark ≤ own.watermark) :
    Counted (own.cut watermark) freed cursor := by
  refine ⟨?_, fun less => ?_⟩
  · rw [Vbar.cut_watermark, Vbar.absentBelow_cut (Nat.min_le_right _ _)]
    exact Nat.le_trans (Vbar.absentBelow_mono (by omega)) counted.covered
  · rw [Vbar.cut_watermark] at less
    rw [Vbar.absentBelow_cut (Nat.le_of_lt less)]
    exact counted.exact (by omega)

theorem Waits.cut (waits : Waits own freed cursor) (below : watermark ≤ own.watermark) :
    Waits (own.cut watermark) freed cursor := by
  refine ⟨waits.toCounted.cut below, fun less => ?_⟩
  rw [Vbar.cut_watermark] at less
  obtain ⟨page, found, absent⟩ := waits.absent (by omega)
  refine ⟨page, ?_, absent⟩
  simp [Vbar.getElem?_cut, found, Nat.not_le.mpr less]

/-- One more page was freed for the one that is waited for. -/
theorem Waits.pass (waits : Waits own freed cursor) (less : cursor < own.watermark) :
    Counted own (freed + 1) (cursor + 1) := by
  obtain ⟨page, found, absent⟩ := waits.absent less
  have next : own.absentBelow (cursor + 1) = freed + 1 := by
    rw [Vbar.absentBelow_succ found, waits.exact less, absent]
    rfl
  exact ⟨next ▸ Vbar.absentBelow_mono (Nat.min_le_left _ _), fun _ => next⟩

/-- The search for the next absent page skips resident ones only. -/
theorem Counted.search (counted : Counted own freed cursor) (consistent : own.Consistent) :
    ∃ next, own.firstAbsent cursor = .ok next ∧ Waits own freed next := by
  have inside := consistent.watermark_le
  unfold Vbar.firstAbsent
  by_cases less : cursor ≤ own.watermark
  · obtain ⟨next, ran, low, high, same, last⟩ := @Vbar.residentRunEnd_spec own
      (own.watermark - cursor) cursor (by omega)
    have end_eq : cursor + (own.watermark - cursor) = own.watermark := by omega
    rw [end_eq] at high last
    refine ⟨next, ran, ⟨?_, fun less' => ?_⟩, last⟩
    · have covered := counted.covered
      rw [Nat.min_eq_left less, ← same] at covered
      rwa [Nat.min_eq_left high]
    · rw [same]
      exact counted.exact (by omega)
  · have none : own.watermark - cursor = 0 := by omega
    rw [none]
    exact ⟨cursor, rfl, counted, fun less' => absurd (Nat.le_of_lt less') less⟩

theorem needMet_iff :
    needMet own target cursor = true ↔ target ≤ cursor ∨ own.watermark ≤ cursor := by
  unfold needMet
  rw [Bool.or_eq_true, decide_eq_true_iff, decide_eq_true_iff]

/-- Once the need is met there is a freed page for every absent one below the target, as far as the
watermark lets the VBAR reach. -/
theorem Counted.met (counted : Counted own freed cursor) (met : needMet own target cursor = true) :
    own.absentBelow (min target own.watermark) ≤ freed := by
  have far := needMet_iff.mp met
  exact Nat.le_trans (Vbar.absentBelow_mono (by omega)) counted.covered

/-- Before that there is an absent page without a freed one. -/
theorem Waits.short (waits : Waits own freed cursor) (unmet : needMet own target cursor = false) :
    cursor < own.watermark ∧ freed < own.absentBelow (min target own.watermark) := by
  have near : ¬ (target ≤ cursor ∨ own.watermark ≤ cursor) := by
    rw [← needMet_iff, unmet]
    exact Bool.false_ne_true
  have less : cursor < own.watermark := by omega
  have passed := (waits.pass less).covered
  obtain ⟨page, found, absent⟩ := waits.absent less
  have next : own.absentBelow (cursor + 1) = freed + 1 := by
    rw [Vbar.absentBelow_succ found, waits.exact less, absent]
    rfl
  have mono := own.absentBelow_mono (show cursor + 1 ≤ min target own.watermark by omega)
  exact ⟨less, by omega⟩

section Walks

variable {σ : Type} [Host σ] {ledger : Ledger σ} {context : Context σ} {regions : List Region}
  {rest : List Holding} {handle victim : Handle}

/-- What has become of the VBAR that waits when a victim, which may be itself, was cut. -/
theorem exists_own {vbars : PriorityList Vbar} (live : vbars.get? handle = some own)
    (chosen : vbars.get? victim = some vbar) (below : watermark ≤ vbar.watermark) :
    ∃ left, (vbars.set victim (vbar.cut watermark)).get? handle = some left ∧
      (victim = handle → vbar = own ∧ left = own.cut watermark) ∧
      (victim ≠ handle → left = own) ∧
      (∀ {freed cursor : Nat}, Counted own freed cursor → Counted left freed cursor) ∧
      ∀ {freed cursor : Nat}, Waits own freed cursor → Waits left freed cursor := by
  by_cases same : victim = handle
  · subst same
    rw [live] at chosen
    cases chosen
    exact ⟨own.cut watermark, PriorityList.get?_set_self live _, fun _ => ⟨rfl, rfl⟩,
      fun differ => absurd rfl differ, fun counted => counted.cut below,
      fun waits => waits.cut below⟩
  · refine ⟨own, ?_, fun equal => absurd equal same, fun _ => rfl, id, id⟩
    rw [PriorityList.get?_set_of_ne (Ne.symm same), live]

/-- The outcome of shrinking a victim on behalf of the VBAR `own`. It ends when the need is met or
at the limit of the victim; a VBAR whose own tail can make up for what is missing is not cut into
the range it waits for. A need that is met from the start changes nothing. -/
structure ShrunkUntil (vbars after : PriorityList Vbar) (handle victim : Handle) (own vbar : Vbar)
    (target freed cursor : Nat) (watermark : Nat) (left : Vbar) : Prop where
  limit : vbar.watermarkLimit ≤ watermark
  below : watermark ≤ vbar.watermark
  idle : own.absentBelow (min target own.watermark) ≤ freed → after = vbars
  vbars : after = vbars.set victim (vbar.cut watermark)
  remains : after.get? handle = some left
  waits : Waits left (freed + vbar.reclaimable watermark) cursor
  ended : needMet left target cursor = true ∨ watermark = vbar.watermarkLimit
  spared : victim = handle → target ≤ own.watermark →
    own.absentBelow target ≤ freed + own.reclaimable target → target ≤ watermark
  /-- It is not cut into pages of which enough were freed from the start. -/
  intact : victim = handle → ∀ stop, stop ≤ own.watermark → own.absentBelow stop ≤ freed →
    stop ≤ watermark
  /-- No page is freed beyond the need. -/
  bounded : freed + vbar.reclaimable watermark ≤
    max freed (own.absentBelow (min target own.watermark))

theorem ShrunkUntil.get?_self {vbars after : PriorityList Vbar} {left : Vbar}
    (shrunk : ShrunkUntil vbars after handle victim own vbar target freed cursor watermark left)
    (chosen : vbars.get? victim = some vbar) : after.get? victim = some (vbar.cut watermark) := by
  rw [shrunk.vbars, PriorityList.get?_set_self chosen]

theorem ShrunkUntil.get?_of_ne {vbars after : PriorityList Vbar} {left : Vbar} {other : Handle}
    (shrunk : ShrunkUntil vbars after handle victim own vbar target freed cursor watermark left)
    (differ : other ≠ victim) : after.get? other = vbars.get? other := by
  rw [shrunk.vbars, PriorityList.get?_set_of_ne differ]

theorem ShrunkUntil.stop {vbars : PriorityList Vbar} (sound : SoundVbars vbars)
    (live : vbars.get? handle = some own) (chosen : vbars.get? victim = some vbar)
    (waits : Waits own freed cursor)
    (ended : needMet own target cursor = true ∨ vbar.watermark ≤ vbar.watermarkLimit) :
    ShrunkUntil vbars vbars handle victim own vbar target freed cursor vbar.watermark own := by
  have consistent := sound.consistent chosen
  have limit := consistent.limit_le
  have same : victim = handle → vbar = own := by
    rintro rfl
    rw [live] at chosen
    exact (Option.some.inj chosen).symm
  refine ⟨limit, Nat.le_refl _, fun _ => rfl, ?_, live, ?_, ended.imp id fun _ => by omega,
    fun self reach _ => same self ▸ reach, fun self stop inside _ => same self ▸ inside, ?_⟩
  · rw [consistent.cut_self, PriorityList.set_get?_self chosen]
  · rw [consistent.reclaimable_watermark]
    exact waits
  · rw [consistent.reclaimable_watermark]
    exact Nat.le_max_left _ _

/-- A VBAR that was shrunk itself, but not into the range, has a tail that makes up for what is
missing or a limit that keeps the range out of reach. -/
theorem ShrunkUntil.pinched {vbars after : PriorityList Vbar}
    (shrunk : ShrunkUntil vbars after handle handle own own target freed cursor watermark
      (own.cut watermark)) (reach : target ≤ watermark) :
    target ≤ own.watermarkLimit ∨ own.absentBelow target ≤ freed + 0 + own.reclaimable target := by
  rcases shrunk.ended with met | atLimit
  · have served := shrunk.waits.met met
    have tail := own.reclaimable_anti reach
    rw [Vbar.cut_watermark, Nat.min_eq_left reach, Vbar.absentBelow_cut reach] at served
    exact .inr (by omega)
  · exact .inl (atLimit ▸ reach)

/-- A cut by one before the others. -/
theorem ShrunkUntil.step {vbars after : PriorityList Vbar} {index cursor' count : Nat}
    {middle left : Vbar}
    (top : vbar.watermark = index + 1) (consistent : own.Consistent)
    (waits : Waits own freed cursor)
    (unmet : needMet own target cursor = false)
    (self : victim = handle → vbar = own ∧ middle = own.cut index)
    (apart : victim ≠ handle → middle = own)
    (frees : count = vbar.reclaimable index) (single : count ≤ 1)
    (further : ShrunkUntil (vbars.set victim (vbar.cut index)) after handle victim middle
      (vbar.cut index) target (freed + count) cursor' watermark left) :
    ShrunkUntil vbars after handle victim own vbar target freed cursor' watermark left := by
  have below := further.below
  rw [Vbar.cut_watermark] at below
  have sum := vbar.reclaimable_cut below
  have missing := (waits.short unmet).2
  refine ⟨further.limit, by omega, fun enough => by omega, ?_, further.remains, ?_, further.ended,
    fun same reach short => ?_, fun same stop inside enough => ?_, ?_⟩
  · rw [further.vbars, PriorityList.set_set, Vbar.cut_cut below]
  · have waits' := further.waits
    rwa [Nat.add_assoc, frees, Nat.add_comm (vbar.reclaimable index), sum] at waits'
  · obtain ⟨rfl, rfl⟩ := self same
    by_cases inside : target ≤ index
    · apply further.spared same inside
      have sum' := vbar.reclaimable_cut inside
      rw [Vbar.absentBelow_cut inside]
      omega
    · -- the target is the watermark itself, and nothing above it could make up for the shortage
      have equal : target = vbar.watermark := by omega
      have none := consistent.reclaimable_watermark
      rw [equal] at short missing
      rw [Nat.min_self] at missing
      omega
  · obtain ⟨rfl, rfl⟩ := self same
    have below : stop ≤ index := by
      -- otherwise nothing would be missing below the watermark
      have all := vbar.absentBelow_mono (Nat.min_le_right target vbar.watermark)
      by_contra beyond
      obtain rfl : stop = vbar.watermark := by omega
      omega
    apply further.intact same stop below
    rw [Vbar.absentBelow_cut below]
    omega
  · have most := further.bounded
    have lacks : middle.absentBelow (min target middle.watermark) ≤
        own.absentBelow (min target own.watermark) := by
      by_cases same : victim = handle
      · obtain ⟨rfl, rfl⟩ := self same
        exact vbar.absentBelow_cut_le (by omega)
      · rw [apart same]
    omega

/-- Evicting the top page of a victim is a cut of one VBAR of the table. -/
theorem evictVictim_spec {index : Nat} (kept : VbarBooks ledger context regions rest)
    (chosen : context.engine.vbars.get? victim = some vbar) (top : vbar.watermark = index + 1)
    (above : vbar.watermarkLimit ≤ index) :
    Ensures ledger.stops (evictPage { vbar with watermark := index } index ⟨true, false⟩) context
      (fun result after =>
        result.1 = vbar.cut index ∧ (if result.2 then 1 else 0) = vbar.reclaimable index ∧
        after.engine.vbars = context.engine.vbars ∧
        Reclaimed context.engine
          { after.engine with vbars := context.engine.vbars.set victim (vbar.cut index) } ∧
        VbarBooks ledger { after with engine :=
          { after.engine with vbars := context.engine.vbars.set victim (vbar.cut index) } }
          regions rest) := by
  have consistent := kept.sound.consistent chosen
  have below : index ≤ vbar.watermark := by omega
  obtain ⟨others, books, put⟩ := kept.open chosen
  apply (evictTop_spec consistent top kept.positive (kept.inside chosen) books).mono
  rintro ⟨shrunk, frees⟩ after ⟨rfl, count, tables, books⟩
  have kept' := put tables books (consistent.cut index above below)
    (by rw [Vbar.region, Vbar.cut_nrPages]; rfl)
  rw [tables.vbars] at kept'
  refine ⟨rfl, count, tables.vbars, ⟨⟨tables.device, tables.config, tables.capacity⟩,
    tables.buffers, ?_⟩, kept'⟩
  exact .set kept.sound chosen above below

/-- Shrinking a victim frees pages until the need is met or its limit is reached. -/
theorem shrinkUntil_spec {steps : Nat} (kept : VbarBooks ledger context regions rest)
    (live : context.engine.vbars.get? handle = some own)
    (chosen : context.engine.vbars.get? victim = some vbar)
    (enough : vbar.watermark ≤ vbar.watermarkLimit + steps) (waits : Waits own freed cursor) :
    Ensures ledger.stops (shrinkUntil handle victim target steps cursor) context
      (fun cursor' after => Reclaimed context.engine after.engine ∧
        VbarBooks ledger after regions rest ∧ ∃ watermark left,
          ShrunkUntil context.engine.vbars after.engine.vbars handle victim own vbar target freed
            cursor' watermark left) := by
  induction steps generalizing context own vbar freed cursor with
  | zero =>
    exact ⟨.refl kept, kept, _, _, .stop kept.sound live chosen waits (.inr (by omega))⟩
  | succ steps ih =>
    unfold shrinkUntil
    rw [ensures_bind, ensures_vbar?, live]
    dsimp only
    rw [ensures_bind, ensures_vbar?, chosen]
    dsimp only
    split
    · rename_i ended
      rw [Bool.or_eq_true, decide_eq_true_iff] at ended
      exact ⟨.refl kept, kept, _, _, .stop kept.sound live chosen waits ended⟩
    · rename_i goesOn
      rw [Bool.or_eq_true, decide_eq_true_iff, not_or, Bool.not_eq_true] at goesOn
      obtain ⟨unmet, above⟩ := goesOn
      obtain ⟨index, top⟩ : ∃ index, vbar.watermark = index + 1 := ⟨vbar.watermark - 1, by omega⟩
      rw [top, Nat.add_sub_cancel, ensures_bind]
      apply (evictVictim_spec kept chosen top (by omega)).mono
      rintro ⟨shrunk, frees⟩ between ⟨rfl, count, vbars, reclaimed, kept'⟩
      dsimp only at count ⊢
      rw [ensures_bind, ensures_putVbar, vbars]
      obtain ⟨middle, live', self, apart, counted', waits'⟩ :=
        exists_own live chosen (show index ≤ vbar.watermark by omega)
      have single : (if frees then 1 else 0) ≤ 1 := by cases frees <;> decide
      have chosen' := PriorityList.get?_set_self chosen (vbar.cut index)
      have room : (vbar.cut index).watermark ≤ (vbar.cut index).watermarkLimit + steps := by
        rw [Vbar.cut_watermark, Vbar.cut_watermarkLimit]
        omega
      have further : ∀ {next : Nat}, Waits middle (freed + if frees then 1 else 0) next →
          Ensures ledger.stops (shrinkUntil handle victim target steps next)
            { between with engine :=
              { between.engine with vbars := context.engine.vbars.set victim (vbar.cut index) } }
            (fun cursor' after => Reclaimed context.engine after.engine ∧
              VbarBooks ledger after regions rest ∧ ∃ watermark left,
                ShrunkUntil context.engine.vbars after.engine.vbars handle victim own vbar target
                  freed cursor' watermark left) := by
        intro next waiting
        apply (ih kept' live' chosen' room waiting).mono
        intro cursor' after outcome
        obtain ⟨reclaimed', kept'', watermark, left, shrunk⟩ := outcome
        exact ⟨reclaimed.trans reclaimed', kept'', watermark, left,
          shrunk.step top (kept.sound.consistent live) waits unmet self apart count single⟩
      cases frees with
      | false => exact further (waits' waits)
      | true =>
        rw [if_pos rfl, ensures_bind, ensures_vbar?]
        dsimp only
        rw [live']
        obtain ⟨next, ran, waiting⟩ := (counted' (waits.pass (waits.short unmet).1)).search
          (kept'.sound.consistent live')
        dsimp only
        rw [ensures_bind, ran, ensures_ensure_ok]
        exact further waiting

/-- The pages that the victims before a VBAR can give up. -/
def supplyBefore (vbars : PriorityList Vbar) (handle : Handle) : List Handle → Nat
  | [] => 0
  | victim :: rest =>
      if victim = handle then 0
      else
        (match vbars.get? victim with
          | some vbar => vbar.reclaimable vbar.watermarkLimit
          | none => 0) + supplyBefore vbars handle rest

theorem supplyBefore_set {vbars : PriorityList Vbar} {new : Vbar} {victims : List Handle}
    (outside : victim ∉ victims) :
    supplyBefore (vbars.set victim new) handle victims = supplyBefore vbars handle victims := by
  induction victims with
  | nil => rfl
  | cons other rest ih =>
    simp only [List.mem_cons, not_or] at outside
    obtain ⟨differ, outside⟩ := outside
    rw [supplyBefore, supplyBefore, PriorityList.get?_set_of_ne (Ne.symm differ), ih outside]

theorem supplyBefore_set_self {vbars : PriorityList Vbar} {new : Vbar} {victims : List Handle} :
    supplyBefore (vbars.set handle new) handle victims = supplyBefore vbars handle victims := by
  induction victims with
  | nil => rfl
  | cons other rest ih =>
    rw [supplyBefore, supplyBefore, ih]
    by_cases same : other = handle
    · rw [if_pos same, if_pos same]
    · rw [PriorityList.get?_set_of_ne same]

/-- The pages that all VBARs of strictly lower priority can give up. -/
def supplyBelow (vbars : PriorityList Vbar) (handle : Handle) : Nat :=
  supplyBefore vbars handle vbars.handles.reverse

/-- The VBAR itself is not among those of lower priority. -/
theorem supplyBelow_set_self {vbars : PriorityList Vbar} {new : Vbar} (sound : SoundVbars vbars) :
    supplyBelow (vbars.set handle new) handle = supplyBelow vbars handle := by
  unfold supplyBelow
  rw [sound.linked.handles_set, supplyBefore_set_self]

/-- A VBAR that waits for nothing any more is as it was. -/
theorem ShrunkUntil.remains_idle {vbars after : PriorityList Vbar} {left : Vbar}
    (shrunk : ShrunkUntil vbars after handle victim own vbar target freed cursor watermark left)
    (live : vbars.get? handle = some own)
    (enough : own.absentBelow (min target own.watermark) ≤ freed) : after = vbars ∧ left = own := by
  have same := shrunk.idle enough
  have remains := shrunk.remains
  rw [same, live] at remains
  exact ⟨same, (Option.some.inj remains).symm⟩

/-- The outcome of shrinking several victims on behalf of the VBAR `own`, which becomes `left`. -/
structure ShrunkEachUntil (vbars after : PriorityList Vbar) (handle : Handle)
    (victims : List Handle) (own : Vbar) (target freed : Nat) (left : Vbar) (freed' : Nat) :
    Prop where
  remains : after.get? handle = some left
  total : totalResident after + freed' = totalResident vbars + freed
  more : freed ≤ freed'
  below : left.watermark ≤ own.watermark
  apart : handle ∉ victims → left = own
  /-- Where the victims before it and its own tail make up for what is missing, the VBAR is not cut
  into the range it waits for. -/
  spared : target ≤ own.watermark →
    own.absentBelow target ≤ freed + supplyBefore vbars handle victims + own.reclaimable target →
      target ≤ left.watermark
  /-- Where they do not, it is, unless its limit keeps the range out of reach. -/
  pinched : handle ∈ victims → target ≤ left.watermark → target ≤ own.watermarkLimit ∨
    own.absentBelow target ≤ freed + supplyBefore vbars handle victims + own.reclaimable target
  /-- All that is missing was freed, or all that the victims before it can give up. -/
  served : target ≤ left.watermark →
    own.absentBelow target ≤ freed' ∨ freed + supplyBefore vbars handle victims ≤ freed'
  idle : own.absentBelow (min target own.watermark) ≤ freed → after = vbars
  /-- The VBAR is not cut into pages of which enough were freed from the start. -/
  intact : ∀ stop, stop ≤ own.watermark → own.absentBelow stop ≤ freed → stop ≤ left.watermark
  /-- A VBAR without absent pages below its limit waits for nothing once it was shrunk itself, so no
  victim behind it is touched. -/
  shielded : own.absentBelow own.watermarkLimit = 0 → ∀ front back : List Handle,
    victims = front ++ handle :: back → ∀ other ∈ back, after.get? other = vbars.get? other

theorem ShrunkEachUntil.nil {vbars : PriorityList Vbar} (live : vbars.get? handle = some own) :
    ShrunkEachUntil vbars vbars handle [] own target freed own freed :=
  ⟨live, rfl, Nat.le_refl _, Nat.le_refl _, fun _ => rfl, fun reach _ => reach,
    fun member => absurd member List.not_mem_nil, fun _ => .inr (Nat.le_refl _), fun _ => rfl,
    fun _ inside _ => inside, fun _ _ _ _ _ _ => rfl⟩

/-- A list that starts with another handle has that handle in front. -/
theorem exists_front_of_ne {victims front back : List Handle} (differ : victim ≠ handle)
    (split : victim :: victims = front ++ handle :: back) : ∃ rest, front = victim :: rest := by
  cases front with
  | nil => exact absurd (List.cons.inj split).1 differ
  | cons first rest => exact ⟨rest, by rw [(List.cons.inj split).1]⟩

theorem ShrunkEachUntil.skip {vbars after : PriorityList Vbar} {victims : List Handle}
    {left : Vbar} {freed' : Nat} (live : vbars.get? handle = some own)
    (stale : vbars.get? victim = none)
    (shrunk : ShrunkEachUntil vbars after handle victims own target freed left freed') :
    ShrunkEachUntil vbars after handle (victim :: victims) own target freed left freed' := by
  have differ : victim ≠ handle := by
    rintro rfl
    rw [live] at stale
    cases stale
  have supply : supplyBefore vbars handle (victim :: victims) =
      supplyBefore vbars handle victims := by
    rw [supplyBefore, if_neg differ, stale, Nat.zero_add]
  refine ⟨shrunk.remains, shrunk.total, shrunk.more, shrunk.below,
    fun outside => shrunk.apart (List.not_mem_of_not_mem_cons outside), ?_, fun member => ?_, ?_,
    shrunk.idle, shrunk.intact, fun settled front back split => ?_⟩
  · rw [supply]
    exact shrunk.spared
  · rw [supply]
    exact shrunk.pinched ((List.mem_cons.mp member).resolve_left (Ne.symm differ))
  · rw [supply]
    exact shrunk.served
  · obtain ⟨front, rfl⟩ := exists_front_of_ne differ split
    exact shrunk.shielded settled front back (List.cons.inj split).2

section Cons

variable {vbars middle after : PriorityList Vbar} {victims : List Handle} {own' left : Vbar}
  {cursor' freed' : Nat}

/-- The VBAR itself before the others, which it does not wait for any more. -/
theorem ShrunkEachUntil.cons_self (sound : SoundVbars vbars)
    (live : vbars.get? handle = some own) (fresh : handle ∉ victims)
    (first : ShrunkUntil vbars middle handle handle own own target freed cursor' watermark own')
    (others : ShrunkEachUntil middle after handle victims own' target
      (freed + own.reclaimable watermark) left freed') :
    ShrunkEachUntil vbars after handle (handle :: victims) own target freed left freed' := by
  have total := totalResident_cut sound live watermark
  have total' := others.total
  have more := others.more
  have here := first.remains
  rw [first.get?_self live] at here
  cases here
  have last := others.apart fresh
  have nothing : supplyBefore vbars handle (handle :: victims) = 0 := if_pos rfl
  rw [← first.vbars] at total
  refine ⟨others.remains, by omega, by omega, Nat.le_trans others.below first.below,
    fun outside => absurd List.mem_cons_self outside, fun reach short => ?_, fun _ reach => ?_,
    fun _ => .inr (by omega), fun enough => ?_, fun stop inside enough => ?_,
    fun settled front back split other member => ?_⟩
  · rw [nothing] at short
    rw [last]
    exact first.spared rfl reach short
  · rw [last, Vbar.cut_watermark] at reach
    rw [nothing]
    exact first.pinched reach
  · obtain ⟨same, remains⟩ := first.remains_idle live enough
    rw [others.idle (by rw [remains]; omega), same]
  · rw [last, Vbar.cut_watermark]
    exact first.intact rfl stop inside enough
  · -- it waits for nothing: either its need is met, or its watermark is at its limit
    have enough : (own.cut watermark).absentBelow (min target (own.cut watermark).watermark) ≤
        freed + own.reclaimable watermark := by
      rcases first.ended with met | atLimit
      · exact first.waits.met met
      · rw [Vbar.cut_watermark, Vbar.absentBelow_cut (Nat.min_le_right _ _), atLimit]
        have low := own.absentBelow_mono (Nat.min_le_right target own.watermarkLimit)
        omega
    have behind : other ∈ victims := by
      cases front with
      | nil => exact (List.cons.inj split).2 ▸ member
      | cons first rest => exact (List.cons.inj split).2 ▸ by simp [member]
    rw [others.idle enough, first.get?_of_ne (ne_of_mem_of_not_mem behind fresh)]

/-- Another victim before the others. -/
theorem ShrunkEachUntil.cons_of_ne (sound : SoundVbars vbars)
    (live : vbars.get? handle = some own) (chosen : vbars.get? victim = some vbar)
    (differ : victim ≠ handle) (fresh : victim ∉ victims)
    (first : ShrunkUntil vbars middle handle victim own vbar target freed cursor' watermark own')
    (others : ShrunkEachUntil middle after handle victims own' target
      (freed + vbar.reclaimable watermark) left freed') :
    ShrunkEachUntil vbars after handle (victim :: victims) own target freed left freed' := by
  have total := totalResident_cut sound chosen watermark
  have total' := others.total
  have more := others.more
  have here := first.remains
  rw [first.get?_of_ne (Ne.symm differ), live] at here
  cases here
  have supply : supplyBefore middle handle victims = supplyBefore vbars handle victims := by
    rw [first.vbars, supplyBefore_set fresh]
  have gives : supplyBefore vbars handle (victim :: victims) =
      vbar.reclaimable vbar.watermarkLimit + supplyBefore vbars handle victims := by
    rw [supplyBefore, if_neg differ, chosen]
  rw [← first.vbars] at total
  refine ⟨others.remains, by omega, by omega, others.below,
    fun outside => others.apart (List.not_mem_of_not_mem_cons outside), fun reach short => ?_,
    fun member reach => ?_, fun reach => ?_, fun enough => ?_,
    fun stop inside enough => others.intact stop inside (by omega),
    fun settled front back split other member => ?_⟩
  · apply others.spared reach
    rcases first.ended with met | atLimit
    · have served := first.waits.met met
      rw [Nat.min_eq_left reach] at served
      omega
    · subst atLimit
      omega
  · have gave := vbar.reclaimable_anti first.limit
    rcases others.pinched ((List.mem_cons.mp member).resolve_left (Ne.symm differ)) reach with
      kept | enough
    · exact .inl kept
    · exact .inr (by omega)
  · rcases others.served reach with served | all
    · exact .inl served
    · rcases first.ended with met | atLimit
      · have served := first.waits.met met
        rw [Nat.min_eq_left (Nat.le_trans reach others.below)] at served
        exact .inl (by omega)
      · subst atLimit
        exact .inr (by omega)
  · have same := first.idle enough
    rw [others.idle (by omega), same]
  · obtain ⟨front, rfl⟩ := exists_front_of_ne differ split
    have tail := (List.cons.inj split).2
    rw [others.shielded settled front back tail other member,
      first.get?_of_ne (ne_of_mem_of_not_mem (by simp [tail, member]) fresh)]

theorem ShrunkEachUntil.cons (sound : SoundVbars vbars) (live : vbars.get? handle = some own)
    (chosen : vbars.get? victim = some vbar) (fresh : victim ∉ victims)
    (first : ShrunkUntil vbars middle handle victim own vbar target freed cursor' watermark own')
    (others : ShrunkEachUntil middle after handle victims own' target
      (freed + vbar.reclaimable watermark) left freed') :
    ShrunkEachUntil vbars after handle (victim :: victims) own target freed left freed' := by
  by_cases same : victim = handle
  · subst same
    rw [live] at chosen
    cases chosen
    exact .cons_self sound live fresh first others
  · exact .cons_of_ne sound live chosen same fresh first others

end Cons

/-- What shrinking several victims on behalf of the VBAR `own` takes: the first pages of the order,
no more than the VBAR lacked, and fewer than it lacks at the end only if there are no others. -/
structure SweptUntil (vbars after : PriorityList Vbar) (victims : List Handle) (own : Vbar)
    (target freed : Nat) (left : Vbar) (freed' : Nat) : Prop where
  outside : ∀ other, other ∉ victims → after.get? other = vbars.get? other
  walked : ∃ taken, freed' = freed + taken ∧ Walked vbars after victims taken
  bounded : freed' ≤ max freed (own.absentBelow (min target own.watermark))
  ended : left.absentBelow (min target left.watermark) ≤ freed' ∨
    ∀ victim ∈ victims, Drained vbars after victim

theorem SweptUntil.nil {vbars : PriorityList Vbar} :
    SweptUntil vbars vbars [] own target freed own freed := by
  have none : ∀ victim ∈ ([] : List Handle), Drained vbars vbars victim :=
    fun _ member => absurd member List.not_mem_nil
  exact ⟨fun _ _ => rfl, ⟨_, rfl, .drained none⟩, Nat.le_max_left _ _, .inr none⟩

section Sweeps

variable {vbars middle after : PriorityList Vbar} {victims : List Handle} {own' left : Vbar}
  {cursor' freed' : Nat}

theorem SweptUntil.skip (stale : vbars.get? victim = none) (fresh : victim ∉ victims)
    (swept : SweptUntil vbars after victims own target freed left freed') :
    SweptUntil vbars after (victim :: victims) own target freed left freed' := by
  have drained : Drained vbars after victim :=
    .of_stale stale ((swept.outside victim fresh).trans stale)
  obtain ⟨taken, total, walked⟩ := swept.walked
  have more := walked.cons drained
  rw [length_reclaimOrder_of_stale stale, Nat.zero_add] at more
  exact ⟨fun other free => swept.outside other (List.not_mem_of_not_mem_cons free),
    ⟨taken, total, more⟩, swept.bounded,
    swept.ended.imp_right fun all => List.forall_mem_cons.mpr ⟨drained, all⟩⟩

/-- The VBAR that waits lacks no more pages than before, even if it is the victim. -/
theorem ShrunkUntil.lacks
    (shrunk : ShrunkUntil vbars middle handle victim own vbar target freed cursor' watermark own')
    (live : vbars.get? handle = some own) (chosen : vbars.get? victim = some vbar) :
    own'.absentBelow (min target own'.watermark) ≤ own.absentBelow (min target own.watermark) := by
  obtain ⟨left, remains, self, apart, -⟩ := exists_own live chosen shrunk.below
  rw [← shrunk.vbars, shrunk.remains] at remains
  cases remains
  by_cases same : victim = handle
  · obtain ⟨rfl, rfl⟩ := self same
    exact vbar.absentBelow_cut_le shrunk.below
  · rw [apart same]

/-- A victim that met the need, so nothing happens to the others. -/
theorem SweptUntil.met (chosen : vbars.get? victim = some vbar) (fresh : victim ∉ victims)
    (first : ShrunkUntil vbars middle handle victim own vbar target freed cursor' watermark own')
    (enough : own'.absentBelow (min target own'.watermark) ≤ freed + vbar.reclaimable watermark) :
    SweptUntil vbars middle (victim :: victims) own target freed own'
      (freed + vbar.reclaimable watermark) := by
  have here : StoppedIn vbars middle [] victim victims vbar watermark :=
    .first chosen first.limit first.below (first.get?_self chosen)
      fun other member => first.get?_of_ne (ne_of_mem_of_not_mem member fresh)
  have walked := Walked.stopped here
  rw [show (reclaimOrder vbars []).length = 0 from rfl, Nat.zero_add] at walked
  exact ⟨fun other free => first.get?_of_ne (List.ne_of_not_mem_cons free), ⟨_, rfl, walked⟩,
    first.bounded, .inl enough⟩

/-- One victim before the others. -/
theorem SweptUntil.cons (sound : SoundVbars vbars) (live : vbars.get? handle = some own)
    (chosen : vbars.get? victim = some vbar) (fresh : victim ∉ victims)
    (first : ShrunkUntil vbars middle handle victim own vbar target freed cursor' watermark own')
    (shrunk : ShrunkEachUntil middle after handle victims own' target
      (freed + vbar.reclaimable watermark) left freed')
    (others : SweptUntil middle after victims own' target (freed + vbar.reclaimable watermark) left
      freed') :
    SweptUntil vbars after (victim :: victims) own target freed left freed' := by
  have most := others.bounded
  obtain ⟨taken, total, walked⟩ := others.walked
  rcases first.ended with met | atLimit
  · have enough := first.waits.met met
    obtain rfl : freed' = freed + vbar.reclaimable watermark := by omega
    have same : after = middle := shrunk.idle enough
    have remains := shrunk.remains
    rw [same, first.remains] at remains
    cases remains
    rw [same]
    exact .met chosen fresh first enough
  · subst atLimit
    have cut := (others.outside victim fresh).trans (first.get?_self chosen)
    have drained : Drained vbars after victim := .of_live chosen cut
    have rest : ∀ other ∈ victims, middle.get? other = vbars.get? other :=
      fun other member => first.get?_of_ne (ne_of_mem_of_not_mem member fresh)
    have more := (walked.congr rest).cons drained
    rw [length_reclaimOrder_of_live sound chosen] at more
    have lacks := first.lacks live chosen
    have bounded := first.bounded
    refine ⟨fun other free => ?_, ⟨_, by omega, more⟩, by omega,
      others.ended.imp_right fun all => ?_⟩
    · obtain ⟨differ, free⟩ := List.ne_and_not_mem_of_not_mem_cons free
      exact (others.outside other free).trans (first.get?_of_ne differ)
    · exact List.forall_mem_cons.mpr
        ⟨drained, fun other member => (all other member).congr (rest other member)⟩

end Sweeps

/-- Shrinking one VBAR after the other frees what is missing, or all that there is. -/
theorem shrinkEachUntil_spec {victims : List Handle} (kept : VbarBooks ledger context regions rest)
    (live : context.engine.vbars.get? handle = some own) (distinct : victims.Nodup)
    (waits : Waits own freed cursor) :
    Ensures ledger.stops (shrinkEachUntil handle target victims cursor) context
      (fun _ after => Reclaimed context.engine after.engine ∧
        VbarBooks ledger after regions rest ∧ ∃ left freed',
          ShrunkEachUntil context.engine.vbars after.engine.vbars handle victims own target freed
            left freed' ∧
          SweptUntil context.engine.vbars after.engine.vbars victims own target freed left
            freed') := by
  induction victims generalizing context own freed cursor with
  | nil => exact ⟨.refl kept, kept, own, freed, .nil live, .nil⟩
  | cons victim victims ih =>
    obtain ⟨fresh, distinct⟩ := List.nodup_cons.mp distinct
    unfold shrinkEachUntil
    rw [ensures_bind, ensures_vbar?]
    cases chosen : context.engine.vbars.get? victim with
    | none =>
      dsimp only
      apply (ih kept live distinct waits).mono
      intro _ after outcome
      obtain ⟨reclaimed, kept, left, freed', shrunk, swept⟩ := outcome
      exact ⟨reclaimed, kept, left, freed', shrunk.skip live chosen, swept.skip chosen fresh⟩
    | some vbar =>
      dsimp only
      have limit := (kept.sound.consistent chosen).limit_le
      rw [ensures_bind]
      apply (shrinkUntil_spec kept live chosen (by omega) waits).mono
      intro cursor' middle outcome
      obtain ⟨cuts, kept', watermark, own', first⟩ := outcome
      apply (ih kept' first.remains distinct first.waits).mono
      intro _ after outcome
      obtain ⟨reclaimed, kept'', left, freed', others, swept⟩ := outcome
      exact ⟨cuts.trans reclaimed, kept'', left, freed',
        .cons kept.sound live chosen fresh first others,
        .cons kept.sound live chosen fresh first others swept⟩

theorem evictForVbar_spec (kept : VbarBooks ledger context regions rest) :
    Ensures ledger.stops (evictForVbar handle target) context (fun _ after =>
      Reclaimed context.engine after.engine ∧ VbarBooks ledger after regions rest ∧
      ∀ own, context.engine.vbars.get? handle = some own → ∃ left freed,
        ShrunkEachUntil context.engine.vbars after.engine.vbars handle
          context.engine.vbars.handles.reverse own target 0 left freed ∧
        SweptUntil context.engine.vbars after.engine.vbars context.engine.vbars.handles.reverse own
          target 0 left freed) := by
  unfold evictForVbar
  rw [ensures_bind, ensures_vbar?]
  cases live : context.engine.vbars.get? handle with
  | none => exact ⟨.refl kept, kept, fun own found => nomatch found⟩
  | some own =>
    have start : Counted own 0 0 :=
      ⟨by simp [Vbar.absentBelow], fun _ => by simp [Vbar.absentBelow]⟩
    obtain ⟨cursor, ran, waits⟩ := start.search (kept.sound.consistent live)
    dsimp only
    rw [ran, ensures_bind, ensures_ensure_ok, ensures_bind]
    apply (Memory.synchronize_spec kept.books).mono
    intro _ first outcome
    obtain ⟨same, books⟩ := outcome
    have kept := kept.congr (by rw [same]; exact .refl _) books
    have distinct : context.engine.vbars.handles.reverse.Nodup :=
      List.nodup_reverse.mpr (same ▸ kept.sound.linked.handles_nodup)
    rw [ensures_bind, ensures_engine, kept.sound.linked.ascending_eq, ensures_bind]
    refine (shrinkEachUntil_spec kept (by rw [same]; exact live) (by rw [same]; exact distinct)
      waits).mono ?_
    intro _ second outcome
    obtain ⟨reclaimed, kept, left, freed, shrunk, swept⟩ := outcome
    rw [same] at reclaimed shrunk swept
    rw [ensures_bind, ensures_markDirty]
    refine checkVbars_spec kept.sound ⟨reclaimed.markDirty, kept.markDirty, ?_⟩
    rintro _ ⟨⟩
    exact ⟨left, freed, shrunk, swept⟩

/-- Shrinking one VBAR by a size; a stale handle changes nothing. -/
theorem shrinkVbar_spec {size : Nat} (kept : VbarBooks ledger context regions rest) :
    Ensures ledger.stops (shrinkVbar handle size).run context (fun result after =>
      Reclaimed context.engine after.engine ∧ VbarBooks ledger after regions rest ∧
      ((context.engine.vbars.get? handle).isSome → ∃ missing,
        result = .ok ((blocksFor size context.engine.config.vbarPageSize - missing) *
          context.engine.config.vbarPageSize) ∧
        ShrunkEach context.engine.vbars after.engine.vbars [handle]
          (blocksFor size context.engine.config.vbarPageSize) missing)) := by
  unfold shrinkVbar
  rw [ensures_run_bind, ensures_run_lift, ensures_log]
  dsimp only
  rw [ensures_run_bind, ensures_run_lift, ensures_pageSize]
  dsimp only
  rw [ensures_run_bind, Attempt.ensures_vbar]
  cases live : context.engine.vbars.get? handle with
  | none => exact ⟨.refl kept, kept.log _, fun found => Bool.noConfusion found⟩
  | some vbar =>
    dsimp only
    split
    · rename_i none
      rw [none]
      exact ⟨.refl kept, kept.log _, fun _ => ⟨0, congrArg _ (Nat.zero_mul _).symm, .unasked⟩⟩
    · rw [ensures_run_lift, ensures_bind]
      apply (Memory.synchronize_spec (kept.log _).books).mono
      intro _ first outcome
      obtain ⟨same, books⟩ := outcome
      have kept₁ := (kept.log (.shrinkStarted size)).congr (by rw [same]; exact .refl _) books
      dsimp only at same
      rw [ensures_bind]
      apply (shrinkTail_spec kept₁ (by rw [same]; exact live)).mono
      intro count second outcome
      obtain ⟨reclaimed, kept₂, watermark, shrunk⟩ := outcome
      rw [same] at reclaimed shrunk
      have each := shrunk.each kept.sound live
      have total := each.total
      have fits := shrunk.most
      have most : count ≤ totalResident context.engine.vbars := by omega
      rw [ensures_bind]
      apply ensures_word (.inl (freed_small kept most))
      intro _
      rw [ensures_bind, ensures_markDirty, ensures_bind]
      refine checkVbars_spec kept₂.sound ?_
      rw [ensures_bind, ensures_log, ensures_pure]
      refine ⟨reclaimed.markDirty, kept₂.markDirty.log _, fun _ => ⟨_, ?_, each⟩⟩
      rw [Nat.sub_sub_self fits]

end Walks

end VramOvercommit.Eviction
