import VramOvercommit.Abort
import VramOvercommit.Host

set_option autoImplicit false

/-!
A VBAR: a range of reserved addresses whose pages are backed by physical memory on demand. The
watermark bounds the pages that may be backed from above; reclaiming memory moves it down to the
watermark limit at most.
-/

namespace VramOvercommit

structure Page where
  /-- The physical memory behind the page; without it the page is absent. -/
  backing : Option PhysicalHandle := none
  /-- In use by work in flight, must not be evicted. -/
  pinned : Bool := false
  /-- Counts how often the page got fresh backing. -/
  serial : UInt32 := 0
  deriving DecidableEq, Repr

def Page.isResident (page : Page) : Bool := page.backing.isSome

structure Vbar where
  base : Nat
  device : Int
  /-- No page at or above this index may be resident unless it is pinned. -/
  watermark : Nat
  /-- Reclaiming memory never moves the watermark below this. -/
  watermarkLimit : Nat := 0
  /-- The number of resident pages. -/
  residentCount : Nat := 0
  pages : Array Page
  deriving DecidableEq, Repr

namespace Vbar

/-- The bytes a page takes on the host. -/
def pageEntrySize : Nat := 16

/-- A VBAR without backing that may use all of its pages. -/
def fresh (base : Nat) (device : Int) (nrPages : Nat) : Vbar :=
  { base, device, watermark := nrPages, pages := Array.replicate nrPages {} }

def nrPages (vbar : Vbar) : Nat := vbar.pages.size

def pageAt (vbar : Vbar) (index : Nat) : Except Abort Page :=
  match vbar.pages[index]? with
  | some page => .ok page
  | none => .error .pageOutOfRange

def pageAddress (vbar : Vbar) (pageSize index : Nat) : Except Abort Nat :=
  if vbar.base + index * pageSize < wordLimit then .ok (vbar.base + index * pageSize)
  else .error .overflow

def putPage (vbar : Vbar) (index : Nat) (page : Page) : Vbar :=
  { vbar with pages := vbar.pages.setIfInBounds index page }

/-- The VBAR after one of its pages lost its backing. -/
def dropResident (vbar : Vbar) : Except Abort Vbar :=
  match vbar.residentCount with
  | 0 => .error .countUnderflow
  | count + 1 => .ok { vbar with residentCount := count }

def countResident (vbar : Vbar) : Nat := vbar.pages.countP Page.isResident

def countPinned (vbar : Vbar) : Nat := vbar.pages.countP Page.pinned

/-- Unpinned pages at or above the watermark that are still resident. -/
def countResidentAbove (vbar : Vbar) : Nat :=
  (vbar.pages.extract vbar.watermark).countP (fun page => page.isResident && !page.pinned)

/-- The end of the run of resident pages that starts at `index`, after at most `steps` pages. -/
def residentRunEnd (vbar : Vbar) : (steps : Nat) → (index : Nat) → Except Abort Nat
  | 0, index => .ok index
  | steps + 1, index => do
      let page ← vbar.pageAt index
      if page.isResident then vbar.residentRunEnd steps (index + 1) else .ok index

/-- The first absent page at or after `index`, but no further than the watermark. -/
def firstAbsent (vbar : Vbar) (index : Nat) : Except Abort Nat :=
  vbar.residentRunEnd (vbar.watermark - index) index

/-- What holds of a VBAR between any two steps of an operation. -/
structure Consistent (vbar : Vbar) : Prop where
  counted : vbar.countResident = vbar.residentCount
  limit_le : vbar.watermarkLimit ≤ vbar.watermark
  watermark_le : vbar.watermark ≤ vbar.nrPages
  pinned_resident : vbar.pages.all (fun page => !page.pinned || page.isResident) = true
  none_above : vbar.countResidentAbove = 0

instance (vbar : Vbar) : Decidable vbar.Consistent :=
  decidable_of_iff
    (vbar.countResident = vbar.residentCount ∧ vbar.watermarkLimit ≤ vbar.watermark ∧
      vbar.watermark ≤ vbar.nrPages ∧
      vbar.pages.all (fun page => !page.pinned || page.isResident) = true ∧
      vbar.countResidentAbove = 0)
    ⟨fun ⟨counted, limit, watermark, pinned, above⟩ => ⟨counted, limit, watermark, pinned, above⟩,
      fun ⟨counted, limit, watermark, pinned, above⟩ => ⟨counted, limit, watermark, pinned, above⟩⟩

/-- Aborts unless the page map agrees with itself. -/
def check (vbar : Vbar) : Except Abort Unit :=
  if vbar.Consistent then .ok () else .error (.inconsistentVbar vbar.base)

end Vbar

end VramOvercommit
