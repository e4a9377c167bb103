import VramOvercommit.Proofs.Barriers
import VramOvercommit.Proofs.FaultedPages
import VramOvercommit.Proofs.Serials

set_option autoImplicit false

/-!
What a fault leaves of the pages of its range. If it succeeds, each of them is resident and pinned
under the serial reported for it, and one that was resident before was never away. If it fails, the
pages that it committed are kept as far as reclaiming for a later page did not pass them.
-/

namespace VramOvercommit

open Simulation (Bench Traced)

namespace Vbars

section Pages

variable {σ : Type} [Host σ] {context after : Context (Traced σ)} {handle : Handle}
  {own left : Vbar} {start stop reached index : Nat} {page : Page} {serials : List UInt32}

omit [Host σ] in
/-- How often a page of a VBAR was committed between two contexts. -/
def commitsOf (own : Vbar) (before after : Context (Traced σ)) (index : Nat) : Nat :=
  before.host.granted after.host (own.base + index * before.engine.config.vbarPageSize)
    before.engine.config.vbarPageSize

/-- What a fault commits are the absent pages it went through. -/
theorem CommittedOnce.commitsOf_eq (committed : CommittedOnce own start reached context after)
    (positive : 0 < context.engine.config.vbarPageSize) (found : own.pages[index]? = some page) :
    commitsOf own context after index =
      if start ≤ index ∧ index < reached ∧ page.isResident = false then 1 else 0 := by
  have apart : (own.absentPages start (reached - start)).Nodup := .filter _ List.nodup_range'
  unfold commitsOf
  rw [Granted.count_eq committed, count_addresses positive, apart.count]
  refine if_congr ?_ rfl rfl
  rw [Vbar.mem_absentPages found]
  constructor
  · rintro ⟨low, high, absent⟩
    exact ⟨low, by omega, absent⟩
  · rintro ⟨low, high, absent⟩
    exact ⟨low, by omega, absent⟩

/-! ## Faults that succeed -/

/-- What a fault that succeeds makes of a page under the serial it reports. The page has the memory
that it had before, or else memory that was committed for it. -/
structure Page.Signed (page signed : Page) (serial : UInt32) (commits : Nat) : Prop where
  resident : signed.isResident = true
  pinned : signed.pinned = true
  reported : signed.serial = serial
  kept : page.isResident = true →
    signed.backing = page.backing ∧ signed.serial = page.serial ∧ commits = 0
  renewed : page.isResident = false → signed.serial = page.serial + 1 ∧ commits = 1

theorem Page.FilledTo.signed {filled : Page} {commits : Nat} (fills : Page.FilledTo page filled)
    (idle : page.isResident = true → commits = 0) (once : page.isResident = false → commits = 1) :
    Page.Signed page (Page.pin filled) filled.serial commits := by
  cases resident : page.isResident with
  | true =>
    obtain rfl := fills.same resident
    refine ⟨resident, rfl, rfl, fun _ => ⟨rfl, rfl, idle resident⟩, fun absent => ?_⟩
    rw [resident] at absent
    cases absent
  | false =>
    obtain ⟨memory, rfl⟩ := fills.backed resident
    refine ⟨rfl, rfl, rfl, fun present => ?_, fun _ => ⟨rfl, once resident⟩⟩
    rw [resident] at present
    cases present

/-- The pages from `start` to `stop` after a fault of them that reported these serials. -/
structure RangeSigned (own left : Vbar) (start stop : Nat) (serials : List UInt32)
    (before after : Context (Traced σ)) : Prop where
  reach : stop ≤ left.watermark
  length : serials.length = stop - start
  pages : ∀ (place : Nat) (serial : UInt32), serials[place]? = some serial → ∃ page signed,
    own.pages[start + place]? = some page ∧ left.pages[start + place]? = some signed ∧
      Page.Signed page signed serial (commitsOf own before after (start + place))

theorem Pinned.rangeSigned (pinned : Pinned own left start stop)
    (committed : CommittedOnce own start stop context after)
    (positive : 0 < context.engine.config.vbarPageSize) (length : serials.length = stop - start)
    (reported : Reported left start serials) :
    RangeSigned own left start stop serials context after := by
  refine ⟨pinned.reach, length, fun place serial here => ?_⟩
  have inside := (List.getElem?_eq_some_iff.mp here).1
  have low : start ≤ start + place := Nat.le_add_right _ _
  have high : start + place < stop := by omega
  obtain ⟨page, filled, found, fills, found'⟩ := pinned.inside low high
  obtain ⟨signed, same, -, rfl⟩ := reported place serial here
  rw [found'] at same
  cases same
  have commits := committed.commitsOf_eq positive found
  refine ⟨page, Page.pin filled, found, found', fills.signed (fun resident => ?_) fun absent => ?_⟩
  · rw [commits, resident, if_neg (by simp)]
  · rw [commits, absent, if_pos ⟨low, high, rfl⟩]

end Pages

end Vbars

variable {σ : Type} [Host σ] {alters : Traced σ → Traced σ → Prop} {device : Int}
  {config : Config} {host host' : Traced σ} {engine : Engine} {context after : Context (Traced σ)}
  {handle : Handle} {own : Vbar} {offset size start stop : Nat} {serials : List UInt32}

/-- A fault that succeeds reports one serial for each page from the one its range starts in to the
one its range ends in, whatever the driver answers. All of these are resident and pinned; those that
were resident before were not committed again, and the others were committed once. No other page of
any VBAR got memory or a pin or another serial. The same fault once more asks the driver for nothing.
It reports the same serials, and all it changes is that the context has to be audited; if the host
has no memory for the serials it fails and changes nothing. -/
theorem fault_signs_range (opened : Engine.create device config host = .ok (.ok engine) host')
    (run : Run alters anyOperation ⟨engine, host'⟩ context)
    (live : context.engine.vbars.get? handle = some own)
    (first : start = offset / context.engine.config.vbarPageSize)
    (last : stop = blocksFor (offset + size) context.engine.config.vbarPageSize)
    (ran : (Vbars.fault handle offset size).run context = .ok (.ok serials) after) :
    (∃ left, after.engine.vbars.get? handle = some left ∧
      Vbars.RangeSigned own left start stop serials context after) ∧
    after.engine.vbars.handles = context.engine.vbars.handles ∧
    KeptOutside context.engine.vbars after.engine.vbars
      (fun other index => other = handle ∧ start ≤ index ∧ index < stop) ∧
    after.host.Adds (Vbars.serialsAsked after offset size).2 [] ∧
    (Vbars.fault handle offset size).run after =
      if (Vbars.serialsAsked after offset size).1 = true then
        .ok (.ok serials)
          { engine := { after.engine with dirty := true }
            host := Host.log (.faultReturned none) (Vbars.serialsAsked after offset size).2 }
      else .ok (.error .hostOutOfMemory)
        { after with host := (Vbars.serialsAsked after offset size).2 } := by
  have sound := sound_of_run run (sound_of_opened opened)
  have held := held_of_run opened run
  obtain ⟨left, remains, whole, pinned, committed⟩ :=
    (Vbars.fault_reached sound live (held handle own live) first last).of_ok ran
  obtain ⟨sound', faulted, -⟩ := (Vbars.fault_spec sound).of_ok ran
  rw [whole, ← first] at faulted
  have length := faulted.counted serials rfl
  obtain ⟨left', remains', reported⟩ := faulted.reported serials rfl
  rw [remains] at remains'
  cases remains'
  have held' : left.Held := by
    obtain ⟨left', remains', spares⟩ := faulted.worked.spares handle own live
    rw [remains] at remains'
    cases remains'
    unfold Vbar.Held
    rw [spares.nrPages]
    exact held handle own live
  refine ⟨⟨left, remains, pinned.rangeSigned committed sound.vbarBooks.positive length reported⟩,
    faulted.worked.handles, faulted.outside, Traced.adds_room .serials _ _, ?_⟩
  have same : stop = Vbars.faultEnd offset size after.engine.config.vbarPageSize := by
    rw [faulted.worked.config, whole]
  split
  · rename_i granted
    refine Vbars.fault_again sound' remains held' ?_ same pinned.reach length reported
      (fun index low high => ?_) granted
    · rw [faulted.worked.config, first]
    · obtain ⟨page, filled, -, -, found⟩ := pinned.inside low high
      exact ⟨Vbars.Page.pin filled, found, rfl⟩
  · rename_i refused
    exact Vbars.fault_unserialed remains (same ▸ pinned.reach) (Bool.eq_false_iff.mpr refused)

/-- On a device of two bytes a page of another VBAR has to give way to the second page of a fault,
while the first page keeps its memory. -/
theorem fault_signs_range_reclaiming :
    ∃ (context after final : Context (Traced Bench)) (own left : Vbar),
      context.engine.vbars.get? ⟨1, 0⟩ = some own ∧ own.residentCount = 1 ∧
      (Vbars.fault ⟨1, 0⟩ 0 2).run context = .ok (.ok [1, 1]) after ∧
      (after.engine.vbars.get? ⟨0, 0⟩).map Vbar.residentCount = some 0 ∧
      after.engine.vbars.get? ⟨1, 0⟩ = some left ∧
      Vbars.RangeSigned own left 0 2 [1, 1] context after ∧
      (Vbars.fault ⟨1, 0⟩ 0 2).run after = .ok (.ok [1, 1]) final := by
  have reached : reaches 0 .bytewise { host := { device := { capacity := 2 } } : Traced Bench }
      anyOperation
      [.allocateVbar 1 0, .fault ⟨0, 0⟩ 0 1, .unpin ⟨0, 0⟩ 0 1, .allocateVbar 2 0,
        .fault ⟨1, 0⟩ 0 1]
      (fun context => context.engine.config.vbarPageSize = 1 ∧
        (context.engine.vbars.get? ⟨1, 0⟩).map Vbar.residentCount = some 1 ∧
        Ensures (fun _ => False) (Vbars.fault ⟨1, 0⟩ 0 2).run context (fun result after =>
          result = .ok [1, 1] ∧
            (after.engine.vbars.get? ⟨0, 0⟩).map Vbar.residentCount = some 0)) = true := by
    decide +kernel
  obtain ⟨engine, host, context, opened, run, passed⟩ :=
    exists_run_of_reaches (fun _ _ => False) reached
  obtain ⟨size, resident, returns⟩ := of_decide_eq_true passed
  obtain ⟨own, live, resident⟩ := Option.map_eq_some_iff.mp resident
  obtain ⟨_, after, ran, rfl, lost⟩ := returns.exists_ok
  have first : 0 = 0 / context.engine.config.vbarPageSize := (Nat.zero_div _).symm
  have last : 2 = blocksFor (0 + 2) context.engine.config.vbarPageSize := by
    rw [size]
    rfl
  obtain ⟨⟨left, remains, signed⟩, -, -, -, again⟩ :=
    fault_signs_range opened run live first last ran
  have ample : Host.Ample (Traced Bench) := fun _ _ _ => rfl
  have granted : (Vbars.serialsAsked after 0 2).1 = true := ample.room .serials _ _
  rw [if_pos granted] at again
  exact ⟨context, after, _, own, left, live, resident, ran, lost, remains, signed, again⟩

/-! ## Faults that fail -/

namespace Vbars

/-- A page that a fault committed before it failed: no pin, the serial that the commit gave it, and
the memory too unless reclaiming passed the page. -/
structure Page.LeftBehind (page left : Page) (passed : Prop) : Prop where
  absent : page.isResident = false
  unpinned : left.pinned = false
  serial : left.serial = page.serial + 1
  resident : left.isResident = true ↔ ¬ passed

theorem Page.FilledTo.leftBehind {page filled : Page} {watermark index : Nat}
    (fills : Page.FilledTo page filled) (absent : page.isResident = false)
    (unpinned : page.pinned = false) :
    Page.LeftBehind page (Page.cut watermark index filled) (watermark ≤ index) := by
  obtain ⟨memory, rfl⟩ := fills.backed absent
  unfold Page.cut
  by_cases passed : watermark ≤ index
  · rw [if_pos passed, Page.evicted, if_neg (by simp [Page.backed, unpinned])]
    exact ⟨absent, unpinned, rfl, by simp [Page.isResident, passed]⟩
  · rw [if_neg passed]
    exact ⟨absent, unpinned, rfl, by simp [Page.backed, Page.isResident, passed]⟩

section Pages

variable {σ : Type} [Host σ] {context after : Context (Traced σ)} {own left : Vbar}
  {start stop reached : Nat}

/-- The pages of a VBAR after a fault of those from `start` to `stop` that failed. -/
structure CommitsLeft (own left : Vbar) (start stop : Nat) (before after : Context (Traced σ)) :
    Prop where
  once : ∀ (index : Nat) (page : Page), own.pages[index]? = some page →
    commitsOf own before after index = 0 ∨
      commitsOf own before after index = 1 ∧ start ≤ index ∧ index < stop ∧
        ∃ page', left.pages[index]? = some page' ∧
          Page.LeftBehind page page' (left.watermark ≤ index)
  intact : own.absentBelow start = 0 ∨ stop ≤ own.watermarkLimit →
    ∀ (index : Nat) (page : Page), own.pages[index]? = some page →
      commitsOf own before after index = 1 → index < left.watermark

theorem Reached.commitsLeft (filled : Reached own left start reached context after)
    (consistent : own.Consistent) (positive : 0 < context.engine.config.vbarPageSize)
    (within : reached ≤ stop) : CommitsLeft own left start stop context after := by
  refine ⟨fun index page found => ?_, fun guarded index page found committed => ?_⟩
  · have commits := filled.committed.commitsOf_eq positive found
    split at commits
    · rename_i inside
      obtain ⟨low, high, absent⟩ := inside
      have unpinned : page.pinned = false := by
        by_contra pinned
        have resident := consistent.pinned_isResident found (by simpa using pinned)
        rw [absent] at resident
        cases resident
      obtain ⟨page', after', found', fills, remains⟩ := filled.inside low high
      rw [found] at found'
      cases found'
      exact .inr ⟨commits, low, by omega, _, remains, fills.leftBehind absent unpinned⟩
    · exact .inl commits
  · rw [filled.committed.commitsOf_eq positive found] at committed
    split at committed
    · rename_i inside
      obtain ⟨low, high, -⟩ := inside
      have reach := filled.reach (by omega)
      rcases guarded with resident | below
      · have intact := filled.intact (by omega) resident
        omega
      · have limit := filled.limit
        omega
    · cases committed

end Pages

end Vbars

/-- A fault that fails has committed pages of its range once each and nothing else, whatever the
driver answers. These pages are not pinned and have the serials that the commits gave them. They are
resident as far as the watermark has not passed them, which it did not if no page in front of the
range was absent, or if the range lies below the limit. -/
theorem failed_fault_leaves_commits
    (opened : Engine.create device config host = .ok (.ok engine) host')
    (run : Run alters anyOperation ⟨engine, host'⟩ context)
    (live : context.engine.vbars.get? handle = some own)
    (first : start = offset / context.engine.config.vbarPageSize)
    (last : stop = blocksFor (offset + size) context.engine.config.vbarPageSize) {cause : Error}
    (ran : (Vbars.fault handle offset size).run context = .ok (.error cause) after) :
    ∃ left, after.engine.vbars.get? handle = some left ∧
      Vbars.CommitsLeft own left start stop context after := by
  have sound := sound_of_run run (sound_of_opened opened)
  have held := held_of_run opened run handle own live
  obtain ⟨left, remains, reached, within, filled⟩ :=
    (Vbars.fault_reached sound live held first last).of_ok ran
  exact ⟨left, remains,
    filled.commitsLeft (sound.vbars.consistent live) sound.vbarBooks.positive within⟩

/-- Page 0 is resident and there is room for one page more. A fault of the two pages above it
commits the lower of the two, finds no room for the other and fails. Page 1 stays. -/
theorem failed_fault_leaves_commits_above_page :
    ∃ (context after : Context (Traced Bench)) (own left : Vbar) (page : Page),
      context.engine.vbars.get? ⟨0, 0⟩ = some own ∧
      (Vbars.fault ⟨0, 0⟩ 1 2).run context = .ok (.error .outOfMemory) after ∧
      Vbars.commitsOf own context after 1 = 1 ∧ after.engine.vbars.get? ⟨0, 0⟩ = some left ∧
      left.pages[1]? = some page ∧ page.isResident = true ∧ page.pinned = false ∧
      page.serial = 1 := by
  have reached : reaches 0 .bytewise
      { host := { device := { capacity := 3, foreignUsage := 1 } } : Traced Bench }
      anyOperation [.allocateVbar 3 0, .fault ⟨0, 0⟩ 0 1] (fun context =>
        (context.engine.vbars.get? ⟨0, 0⟩).any fun own =>
          context.engine.config.vbarPageSize = 1 ∧ own.absentBelow 1 = 0 ∧
          own.pages[1]? = some (⟨none, false, 0⟩ : Page) ∧
          Ensures (fun _ => False) (Vbars.fault ⟨0, 0⟩ 1 2).run context (fun result after =>
            result = .error .outOfMemory ∧ Vbars.commitsOf own context after 1 = 1)) = true := by
    decide +kernel
  obtain ⟨engine, host, context, opened, run, passed⟩ :=
    exists_run_of_reaches (fun _ _ => False) reached
  obtain ⟨own, live, passed⟩ := (Option.any_eq_true _ _).mp passed
  obtain ⟨size, resident, found, returns⟩ := of_decide_eq_true passed
  obtain ⟨_, after, ran, rfl, committed⟩ := returns.exists_ok
  have first : 1 = 1 / context.engine.config.vbarPageSize := by rw [size]
  have last : 3 = blocksFor (1 + 2) context.engine.config.vbarPageSize := by
    rw [size]
    rfl
  obtain ⟨left, remains, leaves⟩ := failed_fault_leaves_commits opened run live first last ran
  rcases leaves.once 1 _ found with none | ⟨-, -, -, page, found', behind⟩
  · rw [committed] at none
    cases none
  · have kept := leaves.intact (.inl resident) 1 _ found committed
    exact ⟨context, after, own, left, page, live, ran, committed, remains, found',
      behind.resident.mpr (Nat.not_le.mpr kept), behind.unpinned, behind.serial⟩

/-- With room for one page, a fault of the upper two pages of three commits the lower of the two and
fails at the other. Page 0, which no fault has asked for, is absent as well, and so reclaiming for
the fault takes the page that the fault has just committed. -/
theorem failed_fault_loses_commit :
    ∃ (engine : Engine) (host : Traced Bench) (context after : Context (Traced Bench))
      (own left : Vbar) (page : Page),
      Engine.create 0 .bytewise
        { host := { device := { capacity := 3, foreignUsage := 2 } } : Traced Bench } =
          .ok (.ok engine) host ∧
      Run (fun _ _ => False) anyOperation ⟨engine, host⟩ context ∧
      context.engine.vbars.get? ⟨0, 0⟩ = some own ∧
      (Vbars.fault ⟨0, 0⟩ 1 2).run context = .ok (.error .outOfMemory) after ∧
      Vbars.commitsOf own context after 1 = 1 ∧ after.engine.vbars.get? ⟨0, 0⟩ = some left ∧
      left.pages[1]? = some page ∧ page.serial = 1 ∧ page.isResident = false := by
  have reached : reaches 0 .bytewise
      { host := { device := { capacity := 3, foreignUsage := 2 } } : Traced Bench }
      anyOperation [.allocateVbar 3 0] (fun context =>
        (context.engine.vbars.get? ⟨0, 0⟩).any fun own =>
          Ensures (fun _ => False) (Vbars.fault ⟨0, 0⟩ 1 2).run context (fun result after =>
            result = .error .outOfMemory ∧ Vbars.commitsOf own context after 1 = 1 ∧
              ((after.engine.vbars.get? ⟨0, 0⟩).bind fun left => left.pages[1]?) =
                some (⟨none, false, 1⟩ : Page))) = true := by
    decide +kernel
  obtain ⟨engine, host, context, opened, run, passed⟩ :=
    exists_run_of_reaches (fun _ _ => False) reached
  obtain ⟨own, live, passed⟩ := (Option.any_eq_true _ _).mp passed
  obtain ⟨_, after, ran, rfl, committed, lost⟩ := (of_decide_eq_true passed).exists_ok
  obtain ⟨left, remains, found⟩ := Option.bind_eq_some_iff.mp lost
  exact ⟨engine, host, context, after, own, left, _, opened, run, live, ran, committed, remains,
    found, rfl, rfl⟩

end VramOvercommit
