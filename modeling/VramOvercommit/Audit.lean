import VramOvercommit.Vbar

set_option autoImplicit false

/-! Snapshots of VBARs that tell cached counts from counted ones. -/

namespace VramOvercommit

structure VbarAudit where
  handle : Handle
  base : Nat
  nrPages : Nat
  watermark : Nat
  watermarkLimit : Nat
  /-- Resident pages according to the cached count. -/
  cachedResident : Nat
  /-- Resident pages according to the page map. -/
  countedResident : Nat
  pinned : Nat
  /-- Unpinned resident pages at or above the watermark. -/
  residentAboveWatermark : Nat
  deriving DecidableEq, Repr

namespace VbarAudit

def of (handle : Handle) (vbar : Vbar) : VbarAudit where
  handle := handle
  base := vbar.base
  nrPages := vbar.nrPages
  watermark := vbar.watermark
  watermarkLimit := vbar.watermarkLimit
  cachedResident := vbar.residentCount
  countedResident := vbar.countResident
  pinned := vbar.countPinned
  residentAboveWatermark := vbar.countResidentAbove

def isConsistent (audit : VbarAudit) : Bool :=
  audit.cachedResident == audit.countedResident && audit.residentAboveWatermark == 0 &&
    audit.watermarkLimit ≤ audit.watermark && audit.watermark ≤ audit.nrPages

/-- One line for the VBAR, and a warning for every inconsistency. -/
def notices (audit : VbarAudit) (pageSize : Nat) : List Notice :=
  let summary := Notice.auditedVbar audit.base (audit.countedResident * pageSize) audit.watermark
    audit.nrPages audit.watermarkLimit audit.pinned
  let mismatch := if audit.cachedResident = audit.countedResident then [] else
    [Notice.residentMismatch audit.base audit.cachedResident audit.countedResident]
  let above := if audit.residentAboveWatermark = 0 then [] else
    [Notice.residentAboveWatermark audit.base audit.residentAboveWatermark audit.watermark]
  let outside :=
    if audit.watermarkLimit ≤ audit.watermark ∧ audit.watermark ≤ audit.nrPages then [] else
      [Notice.watermarkOutside audit.base audit.watermark audit.watermarkLimit audit.nrPages]
  summary :: mismatch ++ above ++ outside

end VbarAudit

/-- An audit of all VBARs, from the highest priority to the lowest. -/
structure AuditReport where
  vbars : List VbarAudit
  /-- Resident bytes according to the page maps. -/
  residentBytes : Nat
  deriving DecidableEq, Repr

def AuditReport.isConsistent (report : AuditReport) : Bool :=
  report.vbars.all VbarAudit.isConsistent

end VramOvercommit
