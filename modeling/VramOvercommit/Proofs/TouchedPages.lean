import VramOvercommit.Abi.Process
import VramOvercommit.Proofs.AnyDriver

set_option autoImplicit false

/-!
Which pages a fault and an unpin work on. These are the pages that share a byte with the range, and
nothing happens to the pins and serials of others. An empty range is the exception: it shares no
byte with any page, but where it lies inside a page, that page is faulted and unpinned.
-/

namespace VramOvercommit

open Simulation (Bench)

/-! ## Bytes and pages -/

/-- The page has a byte of the range. -/
def Touches (pageSize offset size index : Nat) : Prop :=
  ∃ byte, offset ≤ byte ∧ byte < offset + size ∧ byte / pageSize = index

section Touches

variable {pageSize offset size index : Nat}

/-- A range that has bytes touches the pages from the one it starts in to the one it ends in. -/
theorem touches_iff (positive : 0 < pageSize) :
    Touches pageSize offset size index ↔
      0 < size ∧ offset / pageSize ≤ index ∧ index * pageSize < offset + size := by
  constructor
  · rintro ⟨byte, low, high, rfl⟩
    have below := Nat.div_mul_le_self byte pageSize
    exact ⟨by omega, Nat.div_le_div_right low, by omega⟩
  · rintro ⟨some_byte, low, high⟩
    rcases Nat.lt_or_ge (index * pageSize) offset with before | after
    · -- the range starts inside the page
      have here : offset / pageSize = index := by
        have le := (Nat.le_div_iff_mul_le positive).mpr (Nat.le_of_lt before)
        omega
      exact ⟨offset, Nat.le_refl _, by omega, here⟩
    · exact ⟨index * pageSize, after, high, Nat.mul_div_cancel _ positive⟩

/-- The pages gone through are the pages touched if the range has bytes or starts with a page. -/
theorem touches_iff_range (positive : 0 < pageSize) (whole : 0 < size ∨ pageSize ∣ offset) :
    Touches pageSize offset size index ↔
      offset / pageSize ≤ index ∧ index < blocksFor (offset + size) pageSize := by
  rw [touches_iff positive, lt_blocksFor_iff positive]
  constructor
  · exact And.right
  · rintro ⟨low, high⟩
    refine ⟨?_, low, high⟩
    rcases whole with some_byte | ⟨first, rfl⟩
    · exact some_byte
    · rw [Nat.mul_div_cancel_left _ positive] at low
      have below := Nat.mul_le_mul_left pageSize low
      rw [Nat.mul_comm index] at high
      omega

/-- An empty range inside a page goes through that page. -/
theorem inside_iff_range (positive : 0 < pageSize) (inside : ¬ pageSize ∣ offset) :
    index = offset / pageSize ↔
      offset / pageSize ≤ index ∧ index < blocksFor offset pageSize := by
  have starts : offset / pageSize * pageSize < offset := by
    have le := Nat.div_mul_le_self offset pageSize
    have differ : offset / pageSize * pageSize ≠ offset := fun same => inside ⟨_, by
      rw [Nat.mul_comm, same]⟩
    omega
  rw [lt_blocksFor_iff positive]
  constructor
  · rintro rfl
    exact ⟨Nat.le_refl _, starts⟩
  · rintro ⟨low, high⟩
    have le := (Nat.le_div_iff_mul_le positive).mpr (Nat.le_of_lt high)
    omega

end Touches

/-! ## Faults -/

namespace Vbars

variable {σ : Type} [Host σ] {ledger : Ledger σ} {context after : Context σ} {handle : Handle}
  {vbar : Vbar} {offset size start stop : Nat} {pages : Nat → Prop}

/-- One serial for each of some pages in a row, all of them resident and pinned. -/
structure Signs (vbar : Vbar) (pages : Nat → Prop) (serials : List UInt32) (first : Nat) :
    Prop where
  each : ∀ index, pages index ↔ first ≤ index ∧ index < first + serials.length
  serial : ∀ (place : Nat) (serial : UInt32), serials[place]? = some serial →
    ∃ page, vbar.pages[first + place]? = some page ∧ page.isResident = true ∧
      page.pinned = true ∧ page.serial = serial

/-- What a fault of these pages may do. Other pages can lose their memory to it, but none of them
gets any, and none is pinned or unpinned. -/
structure FaultsOnly (handle : Handle) (pages : Nat → Prop) (context after : Context σ)
    (result : Except Error (List UInt32)) : Prop where
  handles : after.engine.vbars.handles = context.engine.vbars.handles
  outside : KeptOutside context.engine.vbars after.engine.vbars
    (fun other index => other = handle ∧ pages index)
  signed : ∀ serials, result = .ok serials → ∃ left first,
    after.engine.vbars.get? handle = some left ∧ Signs left pages serials first

theorem Faulted.faultsOnly {result : Except Error (List UInt32)}
    (faulted : Faulted handle start stop context after result)
    (range : ∀ index, pages index ↔ start ≤ index ∧ index < stop) :
    FaultsOnly handle pages context after result where
  handles := faulted.worked.handles
  outside := faulted.outside.mono fun _ index here => ⟨here.1, (range index).mpr here.2⟩
  signed serials ok := by
    have length := faulted.counted serials ok
    obtain ⟨left, live, reported⟩ := faulted.reported serials ok
    refine ⟨left, start, live, fun index => ?_, fun place serial found => ?_⟩
    · rw [range, length]
      omega
    · obtain ⟨page, found', resident, same⟩ := reported place serial found
      have inside := (List.getElem?_eq_some_iff.mp found).1
      have pinned := faulted.pinned (by rw [ok]; rfl) left live _ _ found' (by omega) (by omega)
      exact ⟨page, found', resident, pinned, same⟩

theorem fault_only (sound : Sound ledger context) (small : offset + size < wordLimit)
    (range : ∀ index, pages index ↔ offset / context.engine.config.vbarPageSize ≤ index ∧
      index < blocksFor (offset + size) context.engine.config.vbarPageSize) :
    Ensures ledger.aborts (fault handle offset size).run context (fun result after =>
      FaultsOnly handle pages context after result) := by
  refine (fault_spec sound).mono fun result after outcome => ?_
  obtain ⟨-, faulted, -⟩ := outcome
  rw [faultEnd_eq small] at faulted
  exact faulted.faultsOnly range

/-! ## Unpins -/

/-- What an unpin of these pages may do. Each loses its pin, and its memory too if the watermark has
passed it, and every other page is as it was. -/
structure UnpinsOnly (handle : Handle) (pages : Nat → Prop) (context after : Context σ) : Prop where
  handles : after.engine.vbars.handles = context.engine.vbars.handles
  inside : ∀ vbar, context.engine.vbars.get? handle = some vbar → ∃ left,
    after.engine.vbars.get? handle = some left ∧ ∀ index, pages index →
      left.pages[index]? = vbar.pages[index]?.map fun page =>
        { page with
          pinned := false
          backing := if vbar.watermark ≤ index then none else page.backing }
  outside : ∀ other vbar, context.engine.vbars.get? other = some vbar → ∃ left,
    after.engine.vbars.get? other = some left ∧ ∀ index, ¬ (other = handle ∧ pages index) →
      left.pages[index]? = vbar.pages[index]?

/-- The pages that an unpin goes through are those of the range, as far as the VBAR reaches. -/
theorem unpinned_iff {index pageSize nrPages : Nat} (small : offset + size < wordLimit)
    (last : unpinEnd offset size pageSize nrPages = stop)
    (first : min (offset / pageSize) stop = start) (below : index < nrPages) :
    start ≤ index ∧ index < start + (stop - start) ↔
      offset / pageSize ≤ index ∧ index < blocksFor (offset + size) pageSize := by
  unfold unpinEnd rangeEnd? at last
  rw [if_pos small] at last
  dsimp only at last
  omega

/-- Of a VBAR that was unpinned, the pages gone through lost their pins and the others are the
same. -/
theorem getElem?_unpinned {left : Vbar} {count : Nat}
    (changed : vbar.Changed left start count
      (fun index page => (unpinAction vbar.watermark index).apply page))
    (walked : ∀ index < vbar.nrPages, start ≤ index ∧ index < start + count ↔ pages index)
    (index : Nat) :
    (pages index → left.pages[index]? = vbar.pages[index]?.map fun page =>
        { page with
          pinned := false
          backing := if vbar.watermark ≤ index then none else page.backing }) ∧
      (¬ pages index → left.pages[index]? = vbar.pages[index]?) := by
  rw [changed.pages]
  cases found : vbar.pages[index]? with
  | none => exact ⟨fun _ => rfl, fun _ => rfl⟩
  | some page =>
    have below : index < vbar.nrPages := (Array.getElem?_eq_some_iff.mp found).1
    refine ⟨fun inside => ?_, fun outside => ?_⟩
    · rw [Option.map_some, if_pos ((walked index below).mpr inside)]
      simp [unpinAction, Eviction.PageAction.apply]
    · rw [Option.map_some, if_neg (mt (walked index below).mp outside)]

theorem unpin_only (sound : Sound ledger context) (small : offset + size < wordLimit)
    (range : ∀ index, pages index ↔ offset / context.engine.config.vbarPageSize ≤ index ∧
      index < blocksFor (offset + size) context.engine.config.vbarPageSize) :
    Ensures ledger.aborts (unpin handle offset size).run context (fun _ after =>
      UnpinsOnly handle pages context after) := by
  rw [unpin_eq, ensures_run_bind, Attempt.ensures_vbar]
  cases live : context.engine.vbars.get? handle with
  | none =>
    refine ⟨rfl, fun vbar live' => ?_, fun other vbar live' => ⟨vbar, live', fun _ _ => rfl⟩⟩
    rw [live] at live'
    cases live'
  | some vbar =>
    dsimp only
    rw [ensures_run_lift, ensures_bind, EngineM.ensures_pageSize]
    have reach := unpinEnd_le offset size context.engine.config.vbarPageSize vbar.nrPages
    generalize last : unpinEnd offset size context.engine.config.vbarPageSize vbar.nrPages = stop
      at reach ⊢
    generalize first : min (offset / context.engine.config.vbarPageSize) stop = start
    have le : start ≤ stop := first ▸ Nat.min_le_right _ _
    apply ((unpinRange_spec sound live le reach).weaken ledger.stops_aborts).mono
    intro _ after outcome
    obtain ⟨-, left, changed, unpinned⟩ := outcome
    have vbars : after.engine.vbars = context.engine.vbars.set handle left := by rw [unpinned]
    have pagewise := getElem?_unpinned changed fun index below =>
      (unpinned_iff small last first below).trans (range index).symm
    refine ⟨by rw [vbars]; exact sound.vbars.linked.handles_set, fun vbar' live' => ?_, ?_⟩
    · rw [live] at live'
      cases live'
      exact ⟨left, by rw [vbars]; exact PriorityList.get?_set_self live left, fun index =>
        (pagewise index).1⟩
    · rw [vbars]
      exact exists_related_set (fun other before after => ∀ index : Nat,
        ¬ (other = handle ∧ pages index) → after.pages[index]? = before.pages[index]?) live
        (fun index outside => (pagewise index).2 fun inside => outside ⟨rfl, inside⟩)
        fun _ _ _ _ => rfl

end Vbars

/-! ## Faults for another program -/

section Abi

variable {σ : Type} [AccessHost σ] {α : Type} {aborts : Abort → Prop}

/-- An operation runs on the context of the process if there is one and nobody uses it. -/
theorem Access.ensures_use {operation : Attempt σ α} {process : σ}
    {post : Except Error α → σ → Prop} :
    Ensures aborts (Access.use operation) process post ↔
      match AccessHost.access process with
      | .held => post (.error .busy) process
      | .free none => post (.error .notInitialized) process
      | .free (some engine) =>
          Ensures aborts operation.run ⟨engine, AccessHost.setAccess .held process⟩
            (fun result after => post result
              (AccessHost.setAccess (.free (some after.engine)) after.host)) := by
  unfold Access.use
  rw [ensures_bind]
  change Ensures aborts (match AccessHost.access process with
    | .held => _
    | .free none => _
    | .free (some engine) => _) process post ↔ _
  cases AccessHost.access process with
  | held => rfl
  | free engine =>
    cases engine with
    | none => rfl
    | some engine =>
      dsimp only
      unfold Access.holding Ensures
      dsimp only
      cases operation.run ⟨engine, AccessHost.setAccess .held process⟩ <;> rfl

/-- How a fault of another program is answered. Words are written only if it succeeds, and then they
are the serials of the pages of the VBAR that was named. -/
inductive Abi.FaultAnswer (raw : Nat) (engine : Engine) (pages : Nat → Prop) (process : σ) :
    Reply → σ → Prop where
  | failed {code : FaultCode} {left : σ} (failed : code ≠ .success) :
      FaultAnswer raw engine pages process (.fault code []) left
  | served {handle : Handle} {serials : List UInt32} {after : Context σ}
      (named : Handle.ofRaw? raw = some handle)
      (only : Vbars.FaultsOnly handle pages ⟨engine, AccessHost.setAccess .held process⟩ after
        (.ok serials)) :
      FaultAnswer raw engine pages process (.fault .success serials)
        (AccessHost.setAccess (.free (some after.engine)) after.host)

/-- A fault of another program has the context of the process to itself. -/
theorem Abi.fault_spec {raw offset size : Nat} {hasSignature : Bool} {engine : Engine}
    {pages : Nat → Prop} {process : σ}
    (only : ∀ engine', AccessHost.access process = .free (some engine') → engine' = engine)
    (faults : ∀ handle, Ensures aborts (Vbars.fault handle offset size).run
      ⟨engine, AccessHost.setAccess .held process⟩ (fun result after =>
        Vbars.FaultsOnly handle pages ⟨engine, AccessHost.setAccess .held process⟩ after result)) :
    Ensures aborts (Abi.fault raw offset size hasSignature) process
      (FaultAnswer raw engine pages process) := by
  unfold Abi.fault
  cases hasSignature with
  | false => exact .failed nofun
  | true =>
    rw [if_pos rfl, ensures_bind, Access.ensures_use]
    cases free : AccessHost.access process with
    | held => exact .failed nofun
    | free engine' =>
      cases engine' with
      | none => exact .failed nofun
      | some engine' =>
        cases only engine' free
        dsimp only
        unfold handle
        rw [ensures_run_bind]
        cases named : Handle.ofRaw? raw with
        | none => exact .failed nofun
        | some handle =>
          apply (faults handle).mono
          intro result after outcome
          cases result with
          | ok serials => exact .served named outcome
          | error cause => cases cause <;> exact .failed nofun

end Abi

/-! ## Every range -/

/-- In this context faults and unpins of a range work on these pages. -/
structure Confined {σ : Type} [AccessHost σ] (context : Context σ) (offset size : Nat)
    (pages : Nat → Prop) : Prop where
  fault : ∀ (handle : Handle) (result : Except Error (List UInt32)) (after : Context σ),
    (Vbars.fault handle offset size).run context = .ok result after →
      Vbars.FaultsOnly handle pages context after result
  unpin : ∀ (handle : Handle) (result : Except Error Unit) (after : Context σ),
    (Vbars.unpin handle offset size).run context = .ok result after →
      Vbars.UnpinsOnly handle pages context after
  answer : ∀ (raw : Nat) (hasSignature : Bool) (process left : σ) (reply : Abi.Reply),
    (∀ engine, AccessHost.access process = .free (some engine) → engine = context.engine) →
      Abi.fault raw offset size hasSignature process = .ok reply left →
        Abi.FaultAnswer raw context.engine pages process reply left

variable {σ : Type} [AccessHost σ] {alters : σ → σ → Prop} {device : Int} {config : Config}
  {host host' : σ} {engine : Engine} {context : Context σ} {offset size : Nat}

theorem Sound.confined {pages : Nat → Prop} (sound : Sound (Ledger.unknown σ) context)
    (small : offset + size < wordLimit)
    (range : ∀ index, pages index ↔ offset / context.engine.config.vbarPageSize ≤ index ∧
      index < blocksFor (offset + size) context.engine.config.vbarPageSize) :
    Confined context offset size pages where
  fault _ _ _ ran := (Vbars.fault_only sound small range).of_ok ran
  unpin _ _ _ ran := (Vbars.unpin_only sound small range).of_ok ran
  answer _ _ process _ _ only ran := by
    have sound := sound.on_host (AccessHost.setAccess .held process)
    exact (Abi.fault_spec only fun _ => Vbars.fault_only sound small range).of_ok ran

/-- In every state that a run reaches, and whatever the driver answers, a fault reports and writes
one serial for each page that shares a byte with its range, and gives memory and pins to no other
page; one that fails writes nothing. An unpin takes pins and memory from these pages only. This is
so for every range that has bytes or starts with a page. An empty range inside a page is treated as
if it had a byte of that page. -/
theorem faults_and_unpins_confined
    (opened : Engine.create device config host = .ok (.ok engine) host')
    (run : Run alters anyOperation ⟨engine, host'⟩ context) (small : offset + size < wordLimit) :
    (0 < size ∨ context.engine.config.vbarPageSize ∣ offset →
      Confined context offset size (Touches context.engine.config.vbarPageSize offset size)) ∧
    (size = 0 → ¬ context.engine.config.vbarPageSize ∣ offset →
      Confined context offset size (· = offset / context.engine.config.vbarPageSize)) := by
  have sound := sound_of_run run (sound_of_opened opened)
  have positive := (Config.validate_ok sound.valid).1
  refine ⟨fun whole => sound.confined small fun _ => touches_iff_range positive whole, ?_⟩
  rintro rfl inside
  exact sound.confined small fun _ => inside_iff_range positive inside

/-- Bytes one and two of a VBAR with pages of two bytes lie on two pages, and the empty range at
byte one lies inside the first. -/
theorem faults_and_unpins_confined_across_pages :
    ∃ context after : Context (Abi.Process Bench),
      (Vbars.fault ⟨0, 0⟩ 1 2).run context = .ok (.ok [1, 1]) after ∧
      Vbars.FaultsOnly ⟨0, 0⟩ (Touches 2 1 2) context after (.ok [1, 1]) ∧
      Confined context 1 0 (· = 0) := by
  have reached : reaches 0 { Config.bytewise with vbarPageSize := 2 }
      { host := { device := { capacity := 4 } } : Abi.Process Bench } anyOperation
      [.allocateVbar 4 0] (fun context => context.engine.config.vbarPageSize = 2 ∧
        Ensures (fun _ => False) (Vbars.fault ⟨0, 0⟩ 1 2).run context
          (fun result _ => result = .ok [1, 1])) = true := by
    decide +kernel
  obtain ⟨engine, process, context, opened, run, passed⟩ :=
    exists_run_of_reaches (fun _ _ => False) reached
  obtain ⟨size, returns⟩ := of_decide_eq_true passed
  obtain ⟨_, after, ran, rfl⟩ := returns.exists_ok
  have small : 1 + 2 < wordLimit := by decide
  have bytes := (faults_and_unpins_confined opened run small).1 (.inl Nat.zero_lt_two)
  have empty := (faults_and_unpins_confined opened run (Nat.lt_of_add_right_lt small)).2 rfl
    (by rw [size]; decide)
  rw [size] at bytes empty
  exact ⟨context, after, ran, bytes.fault _ _ _ ran, empty⟩

/-- The empty range at byte one of a page of two bytes touches no page. Yet a fault of it writes a
serial and pins a page, and an unpin of it takes the pin away. -/
theorem empty_range_not_confined :
    ∃ (engine : Engine) (process process' : Abi.Process Bench)
      (context : Context (Abi.Process Bench)),
      Engine.create 0 { Config.bytewise with vbarPageSize := 2 } process =
        .ok (.ok engine) process' ∧
      Run (fun _ _ => False) anyOperation ⟨engine, process'⟩ context ∧
      (∀ index, ¬ Touches context.engine.config.vbarPageSize 1 0 index) ∧
      ¬ Confined context 1 0 (Touches context.engine.config.vbarPageSize 1 0) ∧
      (context.engine.vbars.get? ⟨0, 0⟩).map Vbar.countPinned = some 0 ∧
      Ensures (fun _ => False) (Vbars.fault ⟨0, 0⟩ 1 0).run context (fun result after =>
        result = .ok [1] ∧ (after.engine.vbars.get? ⟨0, 0⟩).map Vbar.countPinned = some 1 ∧
          Ensures (fun _ => False) (Vbars.unpin ⟨0, 0⟩ 1 0).run after (fun result final =>
            result = .ok () ∧ (final.engine.vbars.get? ⟨0, 0⟩).map Vbar.countPinned = some 0)) ∧
      Ensures (fun _ => False)
        (Abi.fault (Handle.toRaw ⟨0, 0⟩) 1 0 true)
        { context.host with access := .free (some context.engine) }
        (fun reply _ => reply = .fault .success [1]) := by
  have reached : reaches 0 { Config.bytewise with vbarPageSize := 2 }
      { host := { device := { capacity := 2 } } : Abi.Process Bench } anyOperation
      [.allocateVbar 2 0] (fun context => context.engine.config.vbarPageSize = 2 ∧
        (context.engine.vbars.get? ⟨0, 0⟩).map Vbar.countPinned = some 0 ∧
        Ensures (fun _ => False) (Vbars.fault ⟨0, 0⟩ 1 0).run context (fun result after =>
          result = .ok [1] ∧ (after.engine.vbars.get? ⟨0, 0⟩).map Vbar.countPinned = some 1 ∧
            Ensures (fun _ => False) (Vbars.unpin ⟨0, 0⟩ 1 0).run after (fun result final =>
              result = .ok () ∧ (final.engine.vbars.get? ⟨0, 0⟩).map Vbar.countPinned = some 0)) ∧
        Ensures (fun _ => False)
          (Abi.fault (Handle.toRaw ⟨0, 0⟩) 1 0 true)
          { context.host with access := .free (some context.engine) }
          (fun reply _ => reply = .fault .success [1])) = true := by
    decide +kernel
  obtain ⟨engine, process, context, opened, run, passed⟩ :=
    exists_run_of_reaches (fun _ _ => False) reached
  obtain ⟨size, unpinned, pins, writes⟩ := of_decide_eq_true passed
  have none_touched : ∀ index, ¬ Touches context.engine.config.vbarPageSize 1 0 index := by
    rw [size]
    exact fun index touched => nomatch ((touches_iff Nat.zero_lt_two).mp touched).1
  refine ⟨engine, _, process, context, opened, run, none_touched, fun confined => ?_, unpinned,
    pins, writes⟩
  obtain ⟨_, after, ran, rfl, -⟩ := pins.exists_ok
  obtain ⟨left, first, -, signs⟩ := (confined.fault _ _ _ ran).signed [1] rfl
  exact none_touched first ((signs.each first).mpr ⟨Nat.le_refl _, Nat.lt_add_one _⟩)

end VramOvercommit
