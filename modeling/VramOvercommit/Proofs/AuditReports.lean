import VramOvercommit.Proofs.Operations

set_option autoImplicit false

/-!
What an audit has to tell, read off the table of VBARs and off their pages by index, and that the
report of a sound engine tells it.
-/

namespace VramOvercommit

/-! ## Counting by index -/

/-- The items from `start` on that pass a test, counted by their indices. -/
theorem countP_range_getElem? {α : Type} (items : List α) (start : Nat) (test : α → Bool) :
    (List.range items.length).countP (fun index => start ≤ index && items[index]?.any test) =
      (items.drop start).countP test := by
  induction items generalizing start with
  | nil => simp
  | cons item others ih =>
    rw [List.length_cons, List.range_succ_eq_map, List.countP_cons, List.countP_map]
    cases start with
    | zero =>
      have later := ih 0
      simp only [Nat.zero_le, decide_true, Bool.true_and, List.drop_zero] at later
      simp [Function.comp_def, List.countP_cons, later]
    | succ start =>
      rw [List.drop_succ_cons, ← ih start]
      simp [Function.comp_def]

namespace Vbar

variable (vbar : Vbar)

/-- How many pages with an index of at least `start` pass a test. -/
def pagesFrom (start : Nat) (test : Page → Bool) : Nat :=
  (List.range vbar.pages.size).countP fun index => start ≤ index && vbar.pages[index]?.any test

theorem pagesFrom_eq (start : Nat) (test : Page → Bool) :
    vbar.pagesFrom start test = (vbar.pages.toList.drop start).countP test := by
  rw [← countP_range_getElem?, Array.length_toList]
  simp only [pagesFrom, Array.getElem?_toList]

theorem pagesFrom_zero (test : Page → Bool) :
    vbar.pagesFrom 0 test = vbar.pages.countP test := by
  rw [pagesFrom_eq, List.drop_zero, Array.countP_toList]

end Vbar

/-! ## Reports -/

namespace VbarAudit

/-- The snapshot tells what the VBAR behind the handle is like. -/
structure Describes (audit : VbarAudit) (handle : Handle) (vbar : Vbar) : Prop where
  handle : audit.handle = handle
  base : audit.base = vbar.base
  nrPages : audit.nrPages = vbar.pages.size
  watermark : audit.watermark = vbar.watermark
  watermarkLimit : audit.watermarkLimit = vbar.watermarkLimit
  cached : audit.cachedResident = vbar.residentCount
  counted : audit.countedResident = vbar.pagesFrom 0 fun page => page.backing.isSome
  pinned : audit.pinned = vbar.pagesFrom 0 fun page => page.pinned
  above : audit.residentAboveWatermark =
    vbar.pagesFrom vbar.watermark fun page => page.backing.isSome && !page.pinned

/-- The numbers of the snapshot agree with each other. -/
structure Coherent (audit : VbarAudit) : Prop where
  counted : audit.cachedResident = audit.countedResident
  none_above : audit.residentAboveWatermark = 0
  limit_le : audit.watermarkLimit ≤ audit.watermark
  watermark_le : audit.watermark ≤ audit.nrPages

theorem of_describes (handle : Handle) (vbar : Vbar) :
    (VbarAudit.of handle vbar).Describes handle vbar where
  handle := rfl
  base := rfl
  nrPages := rfl
  watermark := rfl
  watermarkLimit := rfl
  cached := rfl
  counted := (vbar.pagesFrom_zero _).symm
  pinned := (vbar.pagesFrom_zero _).symm
  above := by
    rw [Vbar.pagesFrom_eq]
    exact vbar.countResidentAbove_eq

theorem isConsistent_iff (audit : VbarAudit) : audit.isConsistent = true ↔ audit.Coherent := by
  simp only [isConsistent, Bool.and_eq_true, beq_iff_eq, decide_eq_true_eq, and_assoc]
  exact ⟨fun ⟨counted, none_above, limit_le, watermark_le⟩ =>
      ⟨counted, none_above, limit_le, watermark_le⟩,
    fun coherent => ⟨coherent.counted, coherent.none_above, coherent.limit_le,
      coherent.watermark_le⟩⟩

end VbarAudit

/-- The report tells of all VBARs in the order of their priorities, and of the bytes that they have
loaded. -/
structure AuditReport.Describes (report : AuditReport) (engine : Engine) : Prop where
  vbars : List.Forall₂ (fun audit handle => ∃ vbar, engine.vbars.get? handle = some vbar ∧
    audit.Describes handle vbar) report.vbars engine.vbars.handles
  residentBytes : ∃ sizes, List.Forall₂ (fun handle size => engine.loadedSize handle = .ok size)
    engine.vbars.handles sizes ∧ report.residentBytes = sizes.sum

theorem AuditReport.isConsistent_iff (report : AuditReport) :
    report.isConsistent = true ↔ ∀ audit ∈ report.vbars, audit.Coherent := by
  simp only [isConsistent, List.all_eq_true, VbarAudit.isConsistent_iff]

namespace Engine

variable {engine : Engine}

theorem audit_describes (sound : SoundVbars engine.vbars) : engine.audit.Describes engine where
  vbars := by
    unfold audit PriorityList.handles
    rw [List.forall₂_map_left_iff, List.forall₂_map_right_iff, List.forall₂_same]
    rintro ⟨handle, vbar⟩ entry
    exact ⟨vbar, sound.linked.mem_toList.mp entry, VbarAudit.of_describes handle vbar⟩
  residentBytes := by
    refine ⟨engine.vbars.values.map fun vbar => vbar.countResident * engine.config.vbarPageSize, ?_,
      rfl⟩
    unfold PriorityList.handles PriorityList.values
    rw [List.map_map, List.forall₂_map_left_iff, List.forall₂_map_right_iff, List.forall₂_same]
    rintro ⟨handle, vbar⟩ entry
    have live := sound.linked.mem_toList.mp entry
    unfold loadedSize Engine.vbar
    rw [live]
    exact congrArg (fun count => Except.ok (count * engine.config.vbarPageSize))
      (sound.consistent live).counted.symm

/-- Sound VBARs are reported with numbers that agree. -/
theorem isConsistent_audit (sound : SoundVbars engine.vbars) :
    engine.audit.isConsistent = true := by
  rw [AuditReport.isConsistent_iff]
  intro audit member
  obtain ⟨⟨handle, vbar⟩, entry, rfl⟩ := List.mem_map.mp member
  have consistent := sound.consistent (sound.linked.mem_toList.mp entry)
  exact ⟨consistent.counted.symm, consistent.none_above, consistent.limit_le,
    consistent.watermark_le⟩

end Engine

end VramOvercommit
