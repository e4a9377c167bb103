import VramOvercommit.Proofs.EvictionForVbar
import VramOvercommit.Proofs.Vbar.Changes

set_option autoImplicit false

/-!
What a fault does to the table of VBARs, step by step, wherever it ends: VBARs are shrunk, pages of
the VBAR that faults get memory, and the pages of the range get their pins.
-/

namespace VramOvercommit.Vbars

/-- The page with new backing. -/
def Page.backed (page : Page) (memory : PhysicalHandle) : Page :=
  { page with backing := some memory, serial := page.serial + 1 }

/-- The page with a pin. -/
def Page.pin (page : Page) : Page := { page with pinned := true }

/-- The steps of a fault of the pages below `stop`, from one table to another. The list says which
pages got memory, the first one first. -/
inductive Progress (handle : Handle) (stop : Nat) :
    PriorityList Vbar → List Nat → PriorityList Vbar → Prop where
  | done (vbars : PriorityList Vbar) : Progress handle stop vbars [] vbars
  | squeeze {vbars middle after : PriorityList Vbar} {commits : List Nat} {own left : Vbar}
      {freed : Nat} (live : vbars.get? handle = some own) (linked : middle.WellLinked)
      (shrunk : Shrunk vbars middle)
      (walked : Eviction.ShrunkEachUntil vbars middle handle vbars.handles.reverse own stop 0 left
        freed)
      (others : Progress handle stop middle commits after) :
      Progress handle stop vbars commits after
  | back {vbars after : PriorityList Vbar} {commits : List Nat} {own : Vbar} {index : Nat}
      {page : Page} (memory : PhysicalHandle) (live : vbars.get? handle = some own)
      (found : own.pages[index]? = some page)
      (others : Progress handle stop
        (vbars.set handle (own.write index (Page.backed page memory))) commits after) :
      Progress handle stop vbars (index :: commits) after
  | pin {vbars after : PriorityList Vbar} {commits : List Nat} {own pinned : Vbar}
      {start count : Nat} (live : vbars.get? handle = some own)
      (changed : own.Changed pinned start count fun _ page => Page.pin page)
      (others : Progress handle stop (vbars.set handle pinned) commits after) :
      Progress handle stop vbars commits after

variable {handle : Handle} {stop : Nat} {vbars middle after : PriorityList Vbar}
  {commits commits' : List Nat} {own : Vbar}

theorem Progress.trans (first : Progress handle stop vbars commits middle)
    (second : Progress handle stop middle commits' after) :
    Progress handle stop vbars (commits ++ commits') after := by
  induction first with
  | done vbars => exact second
  | squeeze live linked shrunk walked _ ih => exact .squeeze live linked shrunk walked (ih second)
  | back memory live found _ ih => exact .back memory live found (ih second)
  | pin live changed _ ih => exact .pin live changed (ih second)

/-! ## Age -/

/-- What a table makes of another in which one VBAR was replaced. -/
theorem exists_set {other' : Vbar} {other : Handle} (new : Vbar)
    (live : vbars.get? handle = some own) (live' : vbars.get? other = some other') :
    other = handle ∧ other' = own ∧ (vbars.set handle new).get? other = some new ∨
      other ≠ handle ∧ (vbars.set handle new).get? other = some other' := by
  by_cases same : other = handle
  · subst same
    rw [live] at live'
    cases live'
    exact .inl ⟨rfl, rfl, PriorityList.get?_set_self live new⟩
  · exact .inr ⟨same, by rw [PriorityList.get?_set_of_ne same, live']⟩

/-- The commits of a fault that concern a VBAR. -/
def commitsFor (handle : Handle) (commits : List Nat) (other : Handle) (index : Nat) : Nat :=
  if other = handle then commits.count index else 0

theorem commitsFor_append (other : Handle) (index : Nat) :
    commitsFor handle (commits ++ commits') other index =
      commitsFor handle commits other index + commitsFor handle commits' other index := by
  unfold commitsFor
  split
  · exact List.count_append
  · rfl

theorem commitsFor_nil (other : Handle) (index : Nat) : commitsFor handle [] other index = 0 := by
  unfold commitsFor
  split <;> rfl

/-- A step of a fault before the others. -/
theorem ages_step {other : Handle} {vbar between left : Vbar}
    (first : vbar.Ages between (commitsFor handle commits other))
    (others : between.Ages left (commitsFor handle commits' other)) :
    vbar.Ages left (commitsFor handle (commits ++ commits') other) := by
  have both := first.trans others
  simp only [← commitsFor_append] at both
  exact both

/-- Each VBAR is still there, and its pages have aged by their commits. -/
theorem Progress.ages (progress : Progress handle stop vbars commits after) {other : Handle}
    {vbar : Vbar} (live : vbars.get? other = some vbar) :
    ∃ left, after.get? other = some left ∧ vbar.Ages left (commitsFor handle commits other) := by
  have fades : ∀ {vbar between : Vbar}, vbar.Fades between →
      vbar.Ages between (commitsFor handle [] other) := by
    intro vbar between faded
    have none : commitsFor handle [] other = fun _ => 0 := funext (commitsFor_nil other)
    rw [none]
    exact faded
  induction progress generalizing vbar with
  | done vbars => exact ⟨vbar, live, fades (.refl vbar)⟩
  | squeeze own linked shrunk walked _ ih =>
    obtain ⟨watermark, -, -, cut⟩ := shrunk.cut live
    obtain ⟨left, remains, ages⟩ := ih cut
    exact ⟨left, remains, ages_step (fades (.cut vbar watermark)) ages⟩
  | @back vbars after commits own index page memory live' found _ ih =>
    rcases exists_set (own.write index (Page.backed page memory)) live' live with
      ⟨rfl, rfl, set⟩ | ⟨differ, same⟩
    · obtain ⟨left, remains, ages⟩ := ih set
      have written := Vbar.ages_write (Page.backed page memory) found rfl
      have here : commitsFor other [index] other = fun index' => [index].count index' :=
        funext fun _ => if_pos rfl
      rw [← here] at written
      exact ⟨left, remains, ages_step written ages⟩
    · obtain ⟨left, remains, ages⟩ := ih same
      have elsewhere : commitsFor handle (index :: commits) other = commitsFor handle commits other
          := by
        funext index'
        simp [commitsFor, differ]
      rw [elsewhere]
      exact ⟨left, remains, ages⟩
  | @pin vbars after commits own pinned start count live' changed _ ih =>
    rcases exists_set pinned live' live with ⟨rfl, rfl, set⟩ | ⟨-, same⟩
    · obtain ⟨left, remains, ages⟩ := ih set
      exact ⟨left, remains, ages_step (fades (changed.fades fun _ _ => ⟨rfl, .inl rfl⟩)) ages⟩
    · exact ih same

/-- A VBAR other than the one that faults gets nothing. -/
theorem Progress.fades (progress : Progress handle stop vbars commits after) {other : Handle}
    {vbar : Vbar} (live : vbars.get? other = some vbar) (differ : other ≠ handle) :
    ∃ left, after.get? other = some left ∧ vbar.Fades left := by
  obtain ⟨left, remains, ages⟩ := progress.ages live
  have none : commitsFor handle commits other = fun _ => 0 := funext fun _ => if_neg differ
  rw [none] at ages
  exact ⟨left, remains, ages⟩

/-! ## Priority -/

/-- A fault of a VBAR whose pages below the limit are resident leaves all VBARs of higher priority
alone. The pages below the limit stay resident, so this goes on for as many rounds of reclaiming as
the fault needs. -/
theorem Progress.shields (progress : Progress handle stop vbars commits after)
    (linked : vbars.WellLinked) (live : vbars.get? handle = some own) (backed : own.BackedToLimit)
    {front back : List Handle} (split : vbars.handles = front ++ handle :: back) :
    after.WellLinked ∧ after.handles = vbars.handles ∧ (∃ left, after.get? handle = some left) ∧
      ∀ other ∈ front, after.get? other = vbars.get? other := by
  have nodup := linked.handles_nodup
  rw [split, List.nodup_middle, List.nodup_cons] at nodup
  have apart : ∀ other ∈ front, other ≠ handle := by
    rintro other member rfl
    exact nodup.1 (List.mem_append_left _ member)
  clear nodup
  induction progress generalizing own with
  | done vbars => exact ⟨linked, rfl, ⟨own, live⟩, fun _ _ => rfl⟩
  | @squeeze vbars middle after commits own' left freed live' linked' shrunk walked _ ih =>
    rw [live] at live'
    cases live'
    obtain ⟨watermark, limit, -, cut⟩ := shrunk.cut live
    obtain ⟨linked'', handles, remains, same⟩ :=
      ih linked' cut (backed.cut limit) (shrunk.handles.trans split)
    refine ⟨linked'', handles.trans shrunk.handles, remains, fun other member => ?_⟩
    have reversed : vbars.handles.reverse = back.reverse ++ handle :: front.reverse := by
      rw [split]
      simp
    rw [same other member, walked.shielded backed.absentBelow_eq_zero _ _ reversed other
      (List.mem_reverse.mpr member)]
  | @back vbars after commits own' index page memory live' found _ ih =>
    rw [live] at live'
    cases live'
    have backed' : (own'.write index (Page.backed page memory)).BackedToLimit := by
      intro other page' below found'
      by_cases same : other = index
      · subst same
        rw [Vbar.getElem?_write_self found] at found'
        cases found'
        rfl
      · rw [Vbar.getElem?_write_of_ne found same] at found'
        exact backed other page' below found'
    obtain ⟨linked', handles, remains, same⟩ := ih linked.set (PriorityList.get?_set_self live _)
      backed' (linked.handles_set.trans split)
    refine ⟨linked', handles.trans linked.handles_set, remains, fun other member => ?_⟩
    rw [same other member, PriorityList.get?_set_of_ne (apart other member)]
  | @pin vbars after commits own' pinned start count live' changed _ ih =>
    rw [live] at live'
    cases live'
    have backed' : pinned.BackedToLimit := by
      intro other page' below found'
      rw [changed.pages] at found'
      obtain ⟨old, found, rfl⟩ := Option.map_eq_some_iff.mp found'
      rw [changed.watermarkLimit] at below
      have resident := backed other old below found
      split <;> exact resident
    obtain ⟨linked', handles, remains, same⟩ := ih linked.set (PriorityList.get?_set_self live _)
      backed' (linked.handles_set.trans split)
    refine ⟨linked', handles.trans linked.handles_set, remains, fun other member => ?_⟩
    rw [same other member, PriorityList.get?_set_of_ne (apart other member)]

end VramOvercommit.Vbars
