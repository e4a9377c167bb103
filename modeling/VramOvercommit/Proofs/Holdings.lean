import Mathlib.Algebra.Ring.Nat
import VramOvercommit.Engine.Basic
import VramOvercommit.Proofs.NatMap
import VramOvercommit.Proofs.PriorityList.Operations
import VramOvercommit.Proofs.Vbar.Shrinking

set_option autoImplicit false

/-!
What an engine holds: the physical memory behind the pages of its VBARs and the chunks of its
buffers, and the address ranges they lie in. Each step exchanges one piece for another, so the books
are kept up to the order of their entries.
-/

namespace VramOvercommit

/-- Physical memory that backs a range of addresses. -/
structure Holding where
  vaddr : Nat
  size : Nat
  memory : PhysicalHandle
  deriving DecidableEq, Repr

/-- A reserved range of addresses. -/
structure Region where
  base : Nat
  size : Nat
  deriving DecidableEq, Repr

/-- The bytes that are backed. -/
def heldBytes (holdings : List Holding) : Nat := (holdings.map Holding.size).sum

@[simp] theorem heldBytes_nil : heldBytes [] = 0 := rfl

@[simp] theorem heldBytes_cons (holding : Holding) (rest : List Holding) :
    heldBytes (holding :: rest) = holding.size + heldBytes rest := List.sum_cons

@[simp] theorem heldBytes_append (front back : List Holding) :
    heldBytes (front ++ back) = heldBytes front + heldBytes back := by
  unfold heldBytes
  rw [List.map_append, List.sum_append]

theorem heldBytes_perm {first second : List Holding} (same : first.Perm second) :
    heldBytes first = heldBytes second := (same.map _).sum_nat

/-! ## Pages -/

/-- The memory behind a page at an address. -/
def Page.holdings (page : Page) (vaddr size : Nat) : List Holding :=
  match page.backing with
  | some memory => [⟨vaddr, size, memory⟩]
  | none => []

theorem Page.holdings_of_absent {page : Page} (absent : page.isResident = false)
    (vaddr size : Nat) : page.holdings vaddr size = [] := by
  unfold Page.isResident at absent
  unfold Page.holdings
  cases backing : page.backing with
  | none => rfl
  | some memory => simp [backing] at absent

theorem Page.heldBytes_holdings (page : Page) (vaddr size : Nat) :
    heldBytes (page.holdings vaddr size) = if page.isResident then size else 0 := by
  unfold Page.holdings Page.isResident
  cases page.backing <;> simp

namespace Vbar

variable {vbar : Vbar} {index : Nat} {page : Page}

/-- The address range of a VBAR. -/
def region (vbar : Vbar) (pageSize : Nat) : Region := ⟨vbar.base, vbar.nrPages * pageSize⟩

/-- The memory behind pages that lie one after the other, the first of them with a given number. -/
def pageHoldings (base pageSize : Nat) : (index : Nat) → List Page → List Holding
  | _, [] => []
  | index, page :: rest =>
      page.holdings (base + index * pageSize) pageSize ++
        pageHoldings base pageSize (index + 1) rest

/-- The memory behind the pages of a VBAR. -/
def holdings (vbar : Vbar) (pageSize : Nat) : List Holding :=
  pageHoldings vbar.base pageSize 0 vbar.pages.toList

theorem pageHoldings_append (base pageSize index : Nat) (front back : List Page) :
    pageHoldings base pageSize index (front ++ back) =
      pageHoldings base pageSize index front ++
        pageHoldings base pageSize (index + front.length) back := by
  induction front generalizing index with
  | nil => rfl
  | cons page rest ih =>
    simp only [List.cons_append, pageHoldings, ih, List.length_cons, List.append_assoc]
    rw [Nat.add_assoc, Nat.add_comm 1]

theorem mem_pageHoldings {base pageSize index : Nat} {pages : List Page} {holding : Holding} :
    holding ∈ pageHoldings base pageSize index pages ↔
      ∃ offset page memory, pages[offset]? = some page ∧ page.backing = some memory ∧
        holding = ⟨base + (index + offset) * pageSize, pageSize, memory⟩ := by
  induction pages generalizing index with
  | nil => simp [pageHoldings]
  | cons page rest ih =>
    rw [pageHoldings, List.mem_append, ih]
    constructor
    · rintro (first | ⟨offset, page', memory, found, backing, rfl⟩)
      · unfold Page.holdings at first
        cases backing : page.backing with
        | none => simp [backing] at first
        | some memory =>
          rw [backing, List.mem_singleton] at first
          exact ⟨0, page, memory, rfl, backing, first⟩
      · refine ⟨offset + 1, page', memory, found, backing, ?_⟩
        rw [Nat.add_assoc, Nat.add_comm 1]
    · intro outcome
      obtain ⟨offset, page', memory, found, backing, rfl⟩ := outcome
      cases offset with
      | zero =>
        cases found
        exact .inl (by simp [Page.holdings, backing])
      | succ offset =>
        refine .inr ⟨offset, page', memory, found, backing, ?_⟩
        rw [Nat.add_assoc, Nat.add_comm 1]

theorem mem_holdings {pageSize : Nat} {holding : Holding} :
    holding ∈ vbar.holdings pageSize ↔
      ∃ index page memory, vbar.pages[index]? = some page ∧ page.backing = some memory ∧
        holding = ⟨vbar.base + index * pageSize, pageSize, memory⟩ := by
  unfold holdings
  rw [mem_pageHoldings]
  simp only [Nat.zero_add, Array.getElem?_toList]

/-- A cut only takes memory away. -/
theorem mem_holdings_cut {watermark pageSize : Nat} {holding : Holding}
    (held : holding ∈ (vbar.cut watermark).holdings pageSize) :
    holding ∈ vbar.holdings pageSize := by
  obtain ⟨index, page, memory, found, backing, rfl⟩ := mem_holdings.mp held
  rw [getElem?_cut] at found
  obtain ⟨old, found', rfl⟩ := Option.map_eq_some_iff.mp found
  refine mem_holdings.mpr ⟨index, old, memory, found', ?_, rfl⟩
  split at backing
  · unfold Page.evicted at backing
    split at backing
    · exact backing
    · cases backing
  · exact backing

theorem heldBytes_holdings (vbar : Vbar) (pageSize : Nat) :
    heldBytes (vbar.holdings pageSize) = vbar.countResident * pageSize := by
  have pages : ∀ (index : Nat) (pages : List Page),
      heldBytes (pageHoldings vbar.base pageSize index pages) =
        pages.countP Page.isResident * pageSize := by
    intro index pages
    induction pages generalizing index with
    | nil => simp [pageHoldings]
    | cons page rest ih =>
      simp only [pageHoldings, heldBytes_append, page.heldBytes_holdings, ih, List.countP_cons]
      split
      · rw [Nat.add_one_mul, Nat.add_comm]
      · rw [Nat.zero_add, Nat.add_zero]
  rw [countResident_eq]
  exact pages 0 _

/-- Writing a page exchanges the memory behind it. -/
theorem perm_holdings (found : vbar.pages[index]? = some page) (pageSize : Nat) :
    ∃ rest, (vbar.holdings pageSize).Perm
        (page.holdings (vbar.base + index * pageSize) pageSize ++ rest) ∧
      ∀ new, ((vbar.write index new).holdings pageSize).Perm
        (new.holdings (vbar.base + index * pageSize) pageSize ++ rest) := by
  obtain ⟨front, back, rfl, before, after⟩ := split_pages found
  refine ⟨pageHoldings vbar.base pageSize 0 front ++
    pageHoldings vbar.base pageSize (front.length + 1) back, ?_, fun new => ?_⟩
  · unfold holdings
    rw [before, pageHoldings_append, pageHoldings, Nat.zero_add]
    exact List.perm_append_comm_assoc _ _ _
  · change (pageHoldings vbar.base pageSize 0
      (vbar.pages.setIfInBounds front.length new).toList).Perm _
    rw [after, pageHoldings_append, pageHoldings, Nat.zero_add]
    exact List.perm_append_comm_assoc _ _ _

theorem region_fresh (base : Nat) (device : Int) (nrPages pageSize : Nat) :
    (fresh base device nrPages).region pageSize = ⟨base, nrPages * pageSize⟩ := by
  rw [region, Vbar.nrPages, fresh, Array.size_replicate]

theorem holdings_fresh (base : Nat) (device : Int) (nrPages pageSize : Nat) :
    (fresh base device nrPages).holdings pageSize = [] := by
  rw [List.eq_nil_iff_forall_not_mem]
  intro holding member
  obtain ⟨index, page, memory, found, backing, -⟩ := mem_holdings.mp member
  simp only [fresh, Array.getElem?_replicate, Option.ite_none_right_eq_some,
    Option.some.injEq] at found
  rw [← found.2] at backing
  cases backing

end Vbar

/-! ## Chunks -/

namespace Buffer

/-- The address range of a buffer. -/
def region (buffer : Buffer) : Region := ⟨buffer.base, buffer.maxSize⟩

/-- The memory behind chunks that lie one after the other from an address on. -/
def chunkHoldings : (vaddr : Nat) → List Chunk → List Holding
  | _, [] => []
  | vaddr, chunk :: rest =>
      ⟨vaddr, chunk.size, chunk.backing⟩ :: chunkHoldings (vaddr + chunk.size) rest

/-- The memory behind the chunks of a buffer. -/
def holdings (buffer : Buffer) : List Holding := chunkHoldings buffer.base buffer.chunks.toList

/-- The chunks add up to the bytes that are backed, and those fit the range. -/
structure Tidy (buffer : Buffer) : Prop where
  total : (buffer.chunks.toList.map Chunk.size).sum = buffer.allocated
  allocated_le : buffer.allocated ≤ buffer.maxSize

theorem heldBytes_chunkHoldings (vaddr : Nat) (chunks : List Chunk) :
    heldBytes (chunkHoldings vaddr chunks) = (chunks.map Chunk.size).sum := by
  induction chunks generalizing vaddr with
  | nil => rfl
  | cons chunk rest ih =>
    simp only [chunkHoldings, heldBytes_cons, ih, List.map_cons, List.sum_cons]

theorem Tidy.heldBytes_holdings {buffer : Buffer} (tidy : buffer.Tidy) :
    heldBytes buffer.holdings = buffer.allocated := by
  unfold holdings
  rw [heldBytes_chunkHoldings, tidy.total]

theorem chunkHoldings_append (vaddr : Nat) (front back : List Chunk) :
    chunkHoldings vaddr (front ++ back) =
      chunkHoldings vaddr front ++ chunkHoldings (vaddr + (front.map Chunk.size).sum) back := by
  induction front generalizing vaddr with
  | nil => rfl
  | cons chunk rest ih =>
    simp only [List.cons_append, chunkHoldings, ih, List.map_cons, List.sum_cons]
    rw [Nat.add_assoc]

/-- A new chunk lies behind all others. -/
theorem holdings_addChunk {buffer : Buffer}
    (total : (buffer.chunks.toList.map Chunk.size).sum = buffer.allocated) (chunk : Chunk) :
    (buffer.addChunk chunk).holdings =
      buffer.holdings ++ [⟨buffer.base + buffer.allocated, chunk.size, chunk.backing⟩] := by
  unfold holdings addChunk
  rw [Array.toList_push, chunkHoldings_append, total]
  rfl

theorem Tidy.holdings_addChunk {buffer : Buffer} (tidy : buffer.Tidy) (chunk : Chunk) :
    (buffer.addChunk chunk).holdings =
      buffer.holdings ++ [⟨buffer.base + buffer.allocated, chunk.size, chunk.backing⟩] :=
  Buffer.holdings_addChunk tidy.total chunk

theorem total_addChunk {buffer : Buffer}
    (total : (buffer.chunks.toList.map Chunk.size).sum = buffer.allocated) (chunk : Chunk) :
    ((buffer.addChunk chunk).chunks.toList.map Chunk.size).sum =
      (buffer.addChunk chunk).allocated := by
  simp only [Buffer.addChunk, Array.toList_push, List.map_append, List.sum_append, total,
    List.map_cons, List.map_nil, List.sum_singleton]

theorem Tidy.addChunk {buffer : Buffer} (tidy : buffer.Tidy) {chunk : Chunk}
    (fits : buffer.allocated + chunk.size ≤ buffer.maxSize) : (buffer.addChunk chunk).Tidy :=
  ⟨total_addChunk tidy.total chunk, fits⟩

end Buffer

/-! ## Tables -/

/-- The memory behind all VBARs of a table. -/
def vbarHoldings (vbars : PriorityList Vbar) (pageSize : Nat) : List Holding :=
  vbars.values.flatMap fun vbar => vbar.holdings pageSize

def vbarRegions (vbars : PriorityList Vbar) (pageSize : Nat) : List Region :=
  vbars.values.map fun vbar => vbar.region pageSize

/-- The memory behind all buffers of a table. -/
def bufferHoldings (buffers : NatMap Buffer) : List Holding :=
  buffers.values.flatMap Buffer.holdings

def bufferRegions (buffers : NatMap Buffer) : List Region := buffers.values.map Buffer.region

namespace Engine

def holdings (engine : Engine) : List Holding :=
  vbarHoldings engine.vbars engine.config.vbarPageSize ++ bufferHoldings engine.buffers

def regions (engine : Engine) : List Region :=
  vbarRegions engine.vbars engine.config.vbarPageSize ++ bufferRegions engine.buffers

end Engine

/-- Changing one VBAR exchanges its memory. -/
theorem perm_vbarHoldings {vbars : PriorityList Vbar} (linked : vbars.WellLinked)
    {handle : Handle} {vbar : Vbar} (live : vbars.get? handle = some vbar) (pageSize : Nat) :
    ∃ rest, (vbarHoldings vbars pageSize).Perm (vbar.holdings pageSize ++ rest) ∧
      ∀ new, (vbarHoldings (vbars.set handle new) pageSize).Perm
        (new.holdings pageSize ++ rest) := by
  obtain ⟨others, before, after⟩ := linked.perm_values live
  refine ⟨others.flatMap fun vbar => vbar.holdings pageSize, ?_, fun new => ?_⟩
  · exact before.flatMap_right fun vbar : Vbar => vbar.holdings pageSize
  · exact (after new).flatMap_right fun vbar : Vbar => vbar.holdings pageSize

/-- A page that gets memory adds it. -/
theorem perm_vbarHoldings_write {vbars : PriorityList Vbar} (linked : vbars.WellLinked)
    {handle : Handle} {vbar : Vbar} (live : vbars.get? handle = some vbar) {index : Nat}
    {page new : Page} (found : vbar.pages[index]? = some page) (absent : page.isResident = false)
    {memory : PhysicalHandle} (backed : new.backing = some memory) (pageSize : Nat) :
    (vbarHoldings (vbars.set handle (vbar.write index new)) pageSize).Perm
      (⟨vbar.base + index * pageSize, pageSize, memory⟩ :: vbarHoldings vbars pageSize) := by
  obtain ⟨others, before, put⟩ := perm_vbarHoldings linked live pageSize
  obtain ⟨left, before', put'⟩ := Vbar.perm_holdings found pageSize
  have here := put' new
  rw [Page.holdings, backed, List.singleton_append] at here
  rw [Page.holdings_of_absent absent, List.nil_append] at before'
  refine (put _).trans ((here.append_right _).trans ?_)
  rw [List.cons_append]
  exact ((before'.append_right _).symm.trans before.symm).cons _

/-- A VBAR keeps its range whatever happens to its pages. -/
theorem perm_vbarRegions {vbars : PriorityList Vbar} (linked : vbars.WellLinked)
    {handle : Handle} {vbar new : Vbar} (live : vbars.get? handle = some vbar) {pageSize : Nat}
    (same : new.region pageSize = vbar.region pageSize) :
    (vbarRegions (vbars.set handle new) pageSize).Perm (vbarRegions vbars pageSize) := by
  obtain ⟨others, before, after⟩ := linked.perm_values live
  have changed := (after new).map fun vbar => vbar.region pageSize
  have original := before.map fun vbar => vbar.region pageSize
  rw [List.map_cons, same] at changed
  exact changed.trans original.symm

theorem mem_vbarHoldings {vbars : PriorityList Vbar} (linked : vbars.WellLinked) {pageSize : Nat}
    {holding : Holding} : holding ∈ vbarHoldings vbars pageSize ↔
      ∃ handle vbar, vbars.get? handle = some vbar ∧ holding ∈ vbar.holdings pageSize := by
  unfold vbarHoldings
  rw [List.mem_flatMap]
  constructor
  · intro outcome
    obtain ⟨vbar, member, held⟩ := outcome
    obtain ⟨handle, live⟩ := linked.mem_values.mp member
    exact ⟨handle, vbar, live, held⟩
  · intro outcome
    obtain ⟨handle, vbar, live, held⟩ := outcome
    exact ⟨vbar, linked.mem_values.mpr ⟨handle, live⟩, held⟩

theorem mem_vbarRegions {vbars : PriorityList Vbar} (linked : vbars.WellLinked)
    {handle : Handle} {vbar : Vbar} (live : vbars.get? handle = some vbar) (pageSize : Nat) :
    vbar.region pageSize ∈ vbarRegions vbars pageSize :=
  List.mem_map_of_mem (linked.mem_values.mpr ⟨handle, live⟩)

theorem perm_bufferValues {buffers : NatMap Buffer} {base : Nat} {buffer : Buffer}
    (found : buffers.get? base = some buffer) :
    buffers.values.Perm (buffer :: (buffers.erase base).values) :=
  ((buffers.perm_values.trans ((NatMap.perm_erase found).map Prod.snd)).trans
    (((buffers.erase base).perm_values).symm.cons buffer))

theorem perm_bufferValues_insert (buffers : NatMap Buffer) (base : Nat) (buffer : Buffer) :
    (buffers.insert base buffer).values.Perm (buffer :: (buffers.erase base).values) :=
  ((NatMap.perm_values _).trans ((NatMap.perm_insert buffers base buffer).map Prod.snd)).trans
    (((buffers.erase base).perm_values).symm.cons buffer)

theorem mem_bufferValues {buffers : NatMap Buffer} {buffer : Buffer} :
    buffer ∈ buffers.values ↔ ∃ base, buffers.get? base = some buffer := by
  rw [buffers.perm_values.mem_iff, List.mem_map]
  constructor
  · intro outcome
    obtain ⟨⟨base, buffer⟩, member, rfl⟩ := outcome
    exact ⟨base, NatMap.get?_eq_some_iff.mpr member⟩
  · intro outcome
    obtain ⟨base, found⟩ := outcome
    exact ⟨(base, buffer), NatMap.get?_eq_some_iff.mp found, rfl⟩

end VramOvercommit
