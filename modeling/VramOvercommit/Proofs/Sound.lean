import VramOvercommit.Proofs.EvictionForVbar
import VramOvercommit.Proofs.Vbar.Changes

set_option autoImplicit false

/-!
What holds of a context between any two operations, and what an operation leaves of the VBARs that
were there before it.
-/

namespace VramOvercommit

/-! ## VBARs that remain -/

/-- Every VBAR is still there, with all that is protected. -/
def SparesAll (before after : PriorityList Vbar) : Prop :=
  ∀ (handle : Handle) (vbar : Vbar), before.get? handle = some vbar →
    ∃ left, after.get? handle = some left ∧ vbar.Spares left

theorem SparesAll.refl (vbars : PriorityList Vbar) : SparesAll vbars vbars :=
  fun _ vbar live => ⟨vbar, live, .refl vbar⟩

theorem SparesAll.trans {before middle after : PriorityList Vbar} (first : SparesAll before middle)
    (second : SparesAll middle after) : SparesAll before after := by
  intro handle vbar live
  obtain ⟨left, live', spares⟩ := first handle vbar live
  obtain ⟨left', live'', spares'⟩ := second handle left live'
  exact ⟨left', live'', spares.trans spares'⟩

theorem Shrunk.spares {before after : PriorityList Vbar} (shrunk : Shrunk before after) :
    SparesAll before after := by
  intro handle vbar live
  obtain ⟨watermark, limit, -, cut⟩ := shrunk.cut live
  exact ⟨vbar.cut watermark, cut, .cut limit⟩

/-- Replacing one VBAR relates every VBAR to what remains of it if the new one is related to the
old one. -/
theorem exists_related_set (related : Handle → Vbar → Vbar → Prop) {vbars : PriorityList Vbar}
    {handle : Handle} {vbar new : Vbar} (live : vbars.get? handle = some vbar)
    (here : related handle vbar new) (elsewhere : ∀ other vbar, related other vbar vbar)
    (other : Handle) (vbar' : Vbar) (live' : vbars.get? other = some vbar') :
    ∃ left, (vbars.set handle new).get? other = some left ∧ related other vbar' left := by
  by_cases same : other = handle
  · subst same
    rw [live] at live'
    cases live'
    exact ⟨new, PriorityList.get?_set_self live new, here⟩
  · exact ⟨vbar', by rw [PriorityList.get?_set_of_ne same, live'], elsewhere other vbar'⟩

theorem SparesAll.set {vbars : PriorityList Vbar} {handle : Handle} {vbar new : Vbar}
    (live : vbars.get? handle = some vbar) (spares : vbar.Spares new) :
    SparesAll vbars (vbars.set handle new) :=
  exists_related_set (fun _ => Vbar.Spares) live spares fun _ => .refl

/-- VBARs that remain lie in the regions they lay in. -/
theorem vbarRegions_eq {before after : PriorityList Vbar} (linked : before.WellLinked)
    (linked' : after.WellLinked) (handles : after.handles = before.handles)
    (spares : SparesAll before after) (pageSize : Nat) :
    vbarRegions after pageSize = vbarRegions before pageSize := by
  unfold vbarRegions
  rw [linked.values_eq, linked'.values_eq, handles, List.map_filterMap, List.map_filterMap]
  apply List.filterMap_congr
  intro handle member
  obtain ⟨vbar, live⟩ := linked.mem_handles.mp member
  obtain ⟨left, live', same⟩ := spares handle vbar live
  rw [live, live', Option.map_some, Option.map_some, Vbar.region, Vbar.region, same.base,
    same.nrPages]

/-- Every VBAR is still there, and none of its pages got new backing. -/
def FadesAll (before after : PriorityList Vbar) : Prop :=
  ∀ (handle : Handle) (vbar : Vbar), before.get? handle = some vbar →
    ∃ left, after.get? handle = some left ∧ vbar.Fades left

theorem FadesAll.set {vbars : PriorityList Vbar} {handle : Handle} {vbar new : Vbar}
    (live : vbars.get? handle = some vbar) (fades : vbar.Fades new) :
    FadesAll vbars (vbars.set handle new) :=
  exists_related_set (fun _ => Vbar.Fades) live fades fun _ => .refl

/-- Every VBAR is still there. Outside some of the pages none was pinned or unpinned, and none got
new backing. -/
def KeptOutside (before after : PriorityList Vbar) (inside : Handle → Nat → Prop) : Prop :=
  ∀ (handle : Handle) (vbar : Vbar), before.get? handle = some vbar →
    ∃ left, after.get? handle = some left ∧ vbar.KeepsOutside left (inside handle)

section KeptOutside

variable {before middle after : PriorityList Vbar} {inside wider : Handle → Nat → Prop}

theorem KeptOutside.refl (vbars : PriorityList Vbar) : KeptOutside vbars vbars inside :=
  fun _ vbar live => ⟨vbar, live, .refl vbar⟩

theorem KeptOutside.trans (first : KeptOutside before middle inside)
    (second : KeptOutside middle after inside) : KeptOutside before after inside := by
  intro handle vbar live
  obtain ⟨left, live', kept⟩ := first handle vbar live
  obtain ⟨left', live'', kept'⟩ := second handle left live'
  exact ⟨left', live'', kept.trans kept'⟩

theorem KeptOutside.mono (kept : KeptOutside before after inside)
    (wide : ∀ handle index, inside handle index → wider handle index) :
    KeptOutside before after wider := by
  intro handle vbar live
  obtain ⟨left, live', kept⟩ := kept handle vbar live
  exact ⟨left, live', kept.mono (wide handle)⟩

theorem Shrunk.keptOutside (shrunk : Shrunk before after) : KeptOutside before after inside := by
  intro handle vbar live
  obtain ⟨watermark, -, -, cut⟩ := shrunk.cut live
  exact ⟨vbar.cut watermark, cut, .cut vbar watermark⟩

theorem KeptOutside.set {handle : Handle} {vbar new : Vbar}
    (live : before.get? handle = some vbar) (kept : vbar.KeepsOutside new (inside handle)) :
    KeptOutside before (before.set handle new) inside :=
  exists_related_set (fun other before after => before.KeepsOutside after (inside other)) live kept
    fun _ => .refl

end KeptOutside

/-- The host holds the page map of the VBAR. -/
def Vbar.Held (vbar : Vbar) : Prop := hostHolds vbar.nrPages pageEntrySize = true

/-- A VBAR that was not there before comes without memory. -/
def Arrives (before after : PriorityList Vbar) : Prop :=
  ∀ handle ∈ after.handles, handle ∈ before.handles ∨
    ∃ left, after.get? handle = some left ∧ left.NeverBacked ∧ left.Held

/-- VBARs may have come, but of those that were there nothing that is protected is gone, and nothing
was added to them. -/
structure Endures (before after : PriorityList Vbar) : Prop where
  spares : SparesAll before after
  fades : FadesAll before after
  arrives : Arrives before after

theorem Endures.refl (vbars : PriorityList Vbar) : Endures vbars vbars :=
  ⟨.refl vbars, fun _ vbar live => ⟨vbar, live, .refl vbar⟩, fun _ member => .inl member⟩

theorem Shrunk.endures {before after : PriorityList Vbar} (shrunk : Shrunk before after) :
    Endures before after := by
  refine ⟨shrunk.spares, fun handle vbar live => ?_, fun handle member => ?_⟩
  · obtain ⟨watermark, -, -, cut⟩ := shrunk.cut live
    exact ⟨vbar.cut watermark, cut, .cut vbar watermark⟩
  · exact .inl (shrunk.handles ▸ member)

/-- Buffers may have come and gone, and VBARs may have come. -/
structure Undisturbed (before after : Engine) : Prop
    extends SameSetting before after, Endures before.vbars after.vbars

theorem Undisturbed.refl (engine : Engine) : Undisturbed engine engine := ⟨.refl engine, .refl _⟩

theorem Undisturbed.of_eq {before after : Engine} (same : after = before) :
    Undisturbed before after := same ▸ .refl before

theorem SameTables.undisturbed {before after : Engine} (tables : SameTables before after) :
    Undisturbed before after := by
  refine ⟨tables.toSameSetting, ?_⟩
  rw [tables.vbars]
  exact .refl _

theorem Reclaimed.undisturbed {before after : Engine} (reclaimed : Reclaimed before after) :
    Undisturbed before after :=
  ⟨reclaimed.toSameSetting, reclaimed.vbars.endures⟩

/-- A step within a fault or an eviction: memory comes and goes, but no VBAR does. -/
structure Worked (before after : Engine) : Prop extends SameSetting before after where
  buffers : after.buffers = before.buffers
  handles : after.vbars.handles = before.vbars.handles
  spares : SparesAll before.vbars after.vbars

theorem Worked.refl (engine : Engine) : Worked engine engine := ⟨.refl engine, rfl, rfl, .refl _⟩

theorem Worked.trans {before middle after : Engine} (first : Worked before middle)
    (second : Worked middle after) : Worked before after :=
  ⟨first.toSameSetting.trans second.toSameSetting, second.buffers.trans first.buffers,
    second.handles.trans first.handles, first.spares.trans second.spares⟩

theorem Reclaimed.worked {before after : Engine} (reclaimed : Reclaimed before after) :
    Worked before after :=
  ⟨reclaimed.toSameSetting, reclaimed.buffers, reclaimed.vbars.handles, reclaimed.vbars.spares⟩

/-! ## Contexts -/

theorem Config.validate_ok {config : Config} (valid : config.validate = .ok ()) :
    0 < config.vbarPageSize ∧ 0 < config.vramChunkSize ∧ 0 < config.minAllocSize := by
  unfold Config.validate at valid
  split at valid
  · cases valid
  · omega

/-- What holds of the table of buffers between any two steps. -/
structure SoundBuffers (buffers : NatMap Buffer) : Prop where
  keyed : ∀ {base : Nat} {buffer : Buffer}, buffers.get? base = some buffer → buffer.base = base
  tidy : ∀ {base : Nat} {buffer : Buffer}, buffers.get? base = some buffer → buffer.Tidy

theorem SoundBuffers.insert {buffers : NatMap Buffer} (sound : SoundBuffers buffers)
    {buffer : Buffer} (tidy : buffer.Tidy) : SoundBuffers (buffers.insert buffer.base buffer) := by
  refine ⟨fun {base other} found => ?_, fun {base other} found => ?_⟩
  · rw [NatMap.get?_insert] at found
    split at found
    · rename_i same
      cases found
      exact same.symm
    · exact sound.keyed found
  · rw [NatMap.get?_insert] at found
    split at found
    · cases found
      exact tidy
    · exact sound.tidy found

theorem SoundBuffers.erase {buffers : NatMap Buffer} (sound : SoundBuffers buffers) (base : Nat) :
    SoundBuffers (buffers.erase base) := by
  refine ⟨fun {other buffer} found => ?_, fun {other buffer} found => ?_⟩
  · rw [NatMap.get?_erase] at found
    split at found
    · cases found
    · exact sound.keyed found
  · rw [NatMap.get?_erase] at found
    split at found
    · cases found
    · exact sound.tidy found

theorem soundBuffers_empty : SoundBuffers {} where
  keyed := by simp
  tidy := by simp

variable {σ : Type} [Host σ] {ledger : Ledger σ} {context after : Context σ}

/-- What holds of a context between any two operations. -/
structure Sound (ledger : Ledger σ) (context : Context σ) : Prop where
  vbars : SoundVbars context.engine.vbars
  buffers : SoundBuffers context.engine.buffers
  valid : context.engine.config.validate = .ok ()
  allowed : ledger.sizes context.engine.config.vbarPageSize
  books : Books ledger context context.engine.regions context.engine.holdings

theorem Sound.log (sound : Sound ledger context) (notice : Notice) :
    Sound ledger { context with host := Host.log notice context.host } :=
  ⟨sound.vbars, sound.buffers, sound.valid, sound.allowed, sound.books.log notice⟩

theorem Sound.room (sound : Sound ledger context) (table : HostTable) (count : Nat) :
    Sound ledger { context with host := (Host.room table count context.host).2 } :=
  ⟨sound.vbars, sound.buffers, sound.valid, sound.allowed, sound.books.room table count⟩

theorem Sound.roomBeside (sound : Sound ledger context) (table : HostTable)
    (held count bytesEach : Nat) :
    Sound ledger
      { context with host := (Host.roomBeside table held count bytesEach context.host).2 } :=
  ⟨sound.vbars, sound.buffers, sound.valid, sound.allowed,
    sound.books.roomBeside table held count bytesEach⟩

theorem Sound.dirty (sound : Sound ledger context) (dirty : Bool) :
    Sound ledger { context with engine := { context.engine with dirty } } :=
  ⟨sound.vbars, sound.buffers, sound.valid, sound.allowed, sound.books.engine rfl⟩

/-- A step that leaves the settings alone leaves a sound context if both tables are sound and on the
books. -/
theorem Sound.of_parts (sound : Sound ledger context)
    (setting : SameSetting context.engine after.engine) (vbars : SoundVbars after.engine.vbars)
    (buffers : SoundBuffers after.engine.buffers)
    (books : Books ledger after
      (vbarRegions after.engine.vbars context.engine.config.vbarPageSize ++
        bufferRegions after.engine.buffers)
      (vbarHoldings after.engine.vbars context.engine.config.vbarPageSize ++
        bufferHoldings after.engine.buffers)) : Sound ledger after := by
  refine ⟨vbars, buffers, ?_, ?_, ?_⟩
  · rw [setting.config]
    exact sound.valid
  · rw [setting.config]
    exact sound.allowed
  · unfold Engine.regions Engine.holdings
    rw [setting.config]
    exact books

theorem Sound.congr (sound : Sound ledger context) (tables : SameTables context.engine after.engine)
    (books : Books ledger after context.engine.regions context.engine.holdings) :
    Sound ledger after := by
  obtain ⟨setting, vbars, buffers⟩ := tables
  refine sound.of_parts setting ?_ ?_ ?_
  · rw [vbars]
    exact sound.vbars
  · rw [buffers]
    exact sound.buffers
  · rw [vbars, buffers]
    exact books

/-- The VBARs of a context, with its buffers around them. -/
theorem Sound.vbarBooks (sound : Sound ledger context) :
    VbarBooks ledger context context.engine.regions (bufferHoldings context.engine.buffers) :=
  ⟨sound.vbars, (Config.validate_ok sound.valid).1, sound.allowed,
    fun live => List.mem_append_left _ (mem_vbarRegions sound.vbars.linked live _), sound.books⟩

/-- A step that leaves the buffers in place leaves a sound context if the table of VBARs is sound
and on the books. -/
theorem Sound.of_table (sound : Sound ledger context)
    (setting : SameSetting context.engine after.engine)
    (buffers : after.engine.buffers = context.engine.buffers)
    (vbars : SoundVbars after.engine.vbars)
    (books : Books ledger after
      (vbarRegions after.engine.vbars context.engine.config.vbarPageSize ++
        bufferRegions context.engine.buffers)
      (vbarHoldings after.engine.vbars context.engine.config.vbarPageSize ++
        bufferHoldings context.engine.buffers)) : Sound ledger after := by
  rw [← buffers] at books
  exact sound.of_parts setting vbars (by rw [buffers]; exact sound.buffers) books

/-- And one that leaves the VBARs in place if the table of buffers is. -/
theorem Sound.of_buffers (sound : Sound ledger context)
    (setting : SameSetting context.engine after.engine)
    (vbars : after.engine.vbars = context.engine.vbars)
    (buffers : SoundBuffers after.engine.buffers)
    (books : Books ledger after
      (vbarRegions context.engine.vbars context.engine.config.vbarPageSize ++
        bufferRegions after.engine.buffers)
      (vbarHoldings context.engine.vbars context.engine.config.vbarPageSize ++
        bufferHoldings after.engine.buffers)) : Sound ledger after := by
  rw [← vbars] at books
  exact sound.of_parts setting (by rw [vbars]; exact sound.vbars) buffers books

/-- A step that leaves the buffers and all regions in place leaves a sound context. -/
theorem Sound.of_vbarBooks (sound : Sound ledger context)
    (kept : VbarBooks ledger after context.engine.regions (bufferHoldings context.engine.buffers))
    (setting : SameSetting context.engine after.engine)
    (buffers : after.engine.buffers = context.engine.buffers)
    (regions : (vbarRegions after.engine.vbars context.engine.config.vbarPageSize).Perm
      (vbarRegions context.engine.vbars context.engine.config.vbarPageSize)) :
    Sound ledger after := by
  have books := kept.books
  rw [setting.config] at books
  exact sound.of_table setting buffers kept.sound
    (books.perm (regions.symm.append_right _) (.refl _))

/-- A step that works on VBARs alone leaves a sound context. -/
theorem Sound.worked (sound : Sound ledger context) (worked : Worked context.engine after.engine)
    (kept : VbarBooks ledger after context.engine.regions
      (bufferHoldings context.engine.buffers)) : Sound ledger after := by
  have regions := vbarRegions_eq sound.vbars.linked kept.sound.linked worked.handles worked.spares
    context.engine.config.vbarPageSize
  exact sound.of_vbarBooks kept worked.toSameSetting worked.buffers (.of_eq regions)

/-- Changing one VBAR, with its memory on the books, leaves a sound context. -/
theorem Sound.putVbar {handle : Handle} {vbar new : Vbar} (sound : Sound ledger context)
    (live : context.engine.vbars.get? handle = some vbar)
    (tables : SameTables context.engine after.engine)
    (kept : VbarBooks ledger
      { after with engine :=
        { after.engine with vbars := after.engine.vbars.set handle new } }
      context.engine.regions (bufferHoldings context.engine.buffers))
    (region : new.region context.engine.config.vbarPageSize =
      vbar.region context.engine.config.vbarPageSize) :
    Sound ledger { after with engine :=
      { after.engine with vbars := after.engine.vbars.set handle new } } := by
  apply sound.of_vbarBooks kept ⟨tables.device, tables.config, tables.capacity⟩ tables.buffers
  change (vbarRegions (after.engine.vbars.set handle new) _).Perm _
  rw [tables.vbars]
  exact perm_vbarRegions sound.vbars.linked live region

end VramOvercommit
