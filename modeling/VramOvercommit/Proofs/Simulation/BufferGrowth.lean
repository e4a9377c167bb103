import VramOvercommit.Proofs.BufferShape
import VramOvercommit.Proofs.Simulation.Accounts

set_option autoImplicit false

/-!
Buffers in front of a bench, whatever calls are made to fail: how they lie in memory between any two
operations, and how far a request to back more of one gets.
-/

namespace VramOvercommit

open Simulation

namespace Buffer

/-- A chunk lies behind all chunks before it. -/
theorem mem_chunkHoldings {vaddr index : Nat} {chunks : List Chunk} {chunk : Chunk}
    (found : chunks[index]? = some chunk) :
    ⟨vaddr + ((chunks.take index).map Chunk.size).sum, chunk.size, chunk.backing⟩ ∈
      chunkHoldings vaddr chunks := by
  induction chunks generalizing vaddr index with
  | nil => simp at found
  | cons first rest ih =>
    cases index with
    | zero =>
      cases found
      exact List.mem_cons_self
    | succ index =>
      have behind := @ih (vaddr + first.size) index found
      rw [List.take_succ_cons, List.map_cons, List.sum_cons, ← Nat.add_assoc]
      exact List.mem_cons_of_mem _ behind

/-- The chunks of a buffer are mapped back to back from its base, in full chunks up to the last. -/
structure LaidOut (buffer : Buffer) (chunkSize : Nat) (device : Device) : Prop
    extends buffer.Shaped chunkSize where
  mapped : ∀ {index : Nat} {chunk : Chunk}, buffer.chunks[index]? = some chunk →
    device.mappings.get?
        (buffer.base + ((buffer.chunks.toList.take index).map Chunk.size).sum) =
      some ⟨chunk.size, chunk.backing⟩

end Buffer

variable {σ : Type} [Host σ] {facade : Facade σ} {context : Context σ} {kept base : Nat}
  {buffer : Buffer}

/-- The device maps every chunk of a live buffer. -/
theorem Sound.laidOut (sound : Sound (facade.books kept) context)
    (shaped : context.engine.ShapedBuffers)
    (live : context.engine.buffers.get? base = some buffer) :
    buffer.LaidOut context.engine.config.vramChunkSize (facade.bench context.host).device := by
  refine ⟨shaped base buffer live, fun {index chunk} found => ?_⟩
  obtain ⟨-, -, strays, leaks, book, -⟩ := sound.books.agrees
  rw [← Array.getElem?_toList] at found
  have held : _ ∈ context.engine.holdings := List.mem_append_right _ (List.mem_flatMap.mpr
    ⟨buffer, mem_bufferValues.mpr ⟨base, live⟩, Buffer.mem_chunkHoldings found⟩)
  exact NatMap.get?_eq_some_iff.mpr
    (book.mappings.mem_iff.mpr (List.mem_append_right _ (List.mem_map_of_mem held)))

theorem Sound.maxSize_lt (sound : Sound (facade.books kept) context)
    (live : context.engine.buffers.get? base = some buffer) : buffer.maxSize < wordLimit := by
  have books : (facade.bench context.host).Books kept context.engine.regions none
    context.engine.holdings := sound.books.agrees
  have listed : buffer.region ∈ context.engine.regions :=
    List.mem_append_right _ (List.mem_map_of_mem (mem_bufferValues.mpr ⟨base, live⟩))
  have ends := books.addresses.region_lt listed
  change buffer.base + buffer.maxSize < wordLimit at ends
  omega

/-- A run leaves every buffer in its shape, whatever is made to fail. -/
theorem Simulation.Facade.shaped_of_run {admits : Context σ → Operation → Context σ → Prop}
    {start : Context σ} (run : Run facade.Adjusted admits start context)
    (sound : ∃ kept, Sound (facade.books kept) start) (shaped : start.engine.ShapedBuffers) :
    context.engine.ShapedBuffers := by
  induction run with
  | start => exact shaped
  | alter _ _ ih => exact ih
  | perform run ran _ ih =>
    obtain ⟨kept, sound⟩ := facade.accounts_of_run run sound
    exact (Operation.run_shapes _ sound rfl (fun _ => trivial) ih).of_ok ran

/-- The bytes that are backed for a request: whole chunks, cut at the end of the range. -/
def Buffer.wholeTarget (buffer : Buffer) (chunkSize required : Nat) : Nat :=
  min (blocksFor required chunkSize * chunkSize) buffer.maxSize

/-- What comes of a request to back `required` bytes of a live buffer. -/
structure GrowthDecided (context : Context σ) (base : Nat) (buffer : Buffer) (required : Nat) :
    Prop where
  exceeded : buffer.maxSize < required → (Operation.growBuffer base required).run context =
    .ok (.error (.exceedsReservation required buffer.maxSize)) context
  idle : required ≤ buffer.allocated →
    (Operation.growBuffer base required).run context = .ok (.ok .done) context
  grown : buffer.allocated < required → required ≤ buffer.maxSize →
    Ensures (· = .overflow) (Operation.growBuffer base required).run context (fun outcome after =>
      (∃ grown, after.engine.buffers.get? base = some grown ∧
        Buffers.Filled context.engine.config.vramChunkSize
          (buffer.wholeTarget context.engine.config.vramChunkSize required) buffer outcome grown) ∧
      ∀ asked most, outcome ≠ .error (.exceedsReservation asked most))

theorem Sound.growthDecided (sound : Sound (facade.books kept) context)
    (shaped : context.engine.ShapedBuffers)
    (live : context.engine.buffers.get? base = some buffer) (required : Nat) :
    GrowthDecided context base buffer required := by
  have target := buffer.growTarget_eq context.engine.config.vramChunkSize required
    (sound.maxSize_lt live)
  have below := (shaped base buffer live).allocated_le
  have handOut : ∀ {result : Except Error Unit} {after : Context σ},
      (Buffers.grow base required).run context = .ok result after →
      (Operation.growBuffer base required).run context =
        .ok (result.map fun _ => Outcome.done) after := by
    intro result after ran
    change EStateM.bind (Buffers.grow base required).run (ExceptT.bindCont _) context = _
    unfold EStateM.bind
    rw [ran]
    cases result <;> rfl
  refine ⟨fun exceeds => handOut (Buffers.grow_exceeds live exceeds),
    fun backed => handOut (Buffers.grow_backed live (Nat.le_trans backed below) backed),
    fun missing fits => ?_⟩
  refine Operation.ensures_handOut_result ((Buffers.grow_fills sound (fun _ _ => trivial) live
    (shaped base buffer live) fits missing).mono ?_)
  intro result after outcome
  obtain ⟨grown, live', filled, causes⟩ := outcome
  rw [target] at filled
  refine ⟨⟨grown, live', filled.map _⟩, fun asked most refused => ?_⟩
  cases result with
  | ok _ => cases refused
  | error cause =>
    cases refused
    rcases causes _ rfl with other | other | ⟨code, other⟩ <;> cases other

/-- Between any two operations in front of a bench every live buffer is mapped chunk by chunk from its
base, all chunks of the full size but one that ends with the range. A request beyond the range is
refused and one for what is backed does nothing; any other adds chunks up to the target, or stops
short of it where a chunk cannot be had. Nothing but an operation on the buffer itself changes it. -/
theorem buffers_grow_in_chunks (facade : Facade σ) {device : Int} {config : Config} {host host' : σ}
    {engine : Engine} (unused : (facade.bench host).device.Unused)
    (opened : Engine.create device config host = .ok (.ok engine) host')
    (run : Run facade.Adjusted anyOperation ⟨engine, host'⟩ context)
    (live : context.engine.buffers.get? base = some buffer) :
    buffer.base = base ∧
    buffer.LaidOut context.engine.config.vramChunkSize (facade.bench context.host).device ∧
    (∀ required, GrowthDecided context base buffer required) ∧
    ∀ operation : Operation, ¬ operation.rewrites base →
      Ensures (· = .overflow) operation.run context
        (fun _ after => after.engine.buffers.get? base = some buffer) := by
  have start := facade.sound_opened unused opened
  obtain ⟨kept, sound⟩ := facade.accounts_of_run run ⟨_, start⟩
  have fresh : engine.ShapedBuffers := by
    obtain ⟨-, -, capacity, rfl⟩ := (facade.create_spec unused).of_ok opened
    exact shapedBuffers_fresh device config capacity
  have shaped := facade.shaped_of_run run ⟨_, start⟩ fresh
  exact ⟨sound.buffers.keyed live, sound.laidOut shaped live, sound.growthDecided shaped live,
    fun operation other =>
      operation.run_keepsBuffer sound trivial rfl (fun _ => trivial) live other⟩

/-- Five bytes in chunks of two, of which the second could not be had: one chunk is there. A sixth
byte is out of reach, the two that are backed need nothing, and for three bytes the buffer grows to
two full chunks. -/
theorem buffers_grow_in_chunks_after_failure :
    ∃ (context : Context Bench) (buffer : Buffer),
      context.engine.buffers.get? addressBase = some buffer ∧ buffer.allocated = 2 ∧
      buffer.LaidOut 2 context.host.device ∧
      (Operation.growBuffer addressBase 6).run context =
        .ok (.error (.exceedsReservation 6 5)) context ∧
      (Operation.growBuffer addressBase 2).run context = .ok (.ok .done) context ∧
      Ensures (· = .overflow) (Operation.growBuffer addressBase 3).run context
        (fun outcome after => ∃ grown, after.engine.buffers.get? addressBase = some grown ∧
          Buffers.Filled 2 4 buffer outcome grown) := by
  have reached : reaches 0 { Config.bytewise with vbarPageSize := 2, vramChunkSize := 2 }
      { device := { capacity := 8 }
        failures := [{ kind := .create, cause := .failed 7, skip := 1 }] : Bench }
      anyOperation [.createBuffer 0 5, .growBuffer addressBase 5]
      (fun context => context.engine.config.vramChunkSize = 2 ∧
        (context.engine.buffers.get? addressBase).any
          fun buffer => buffer.allocated = 2 ∧ buffer.maxSize = 5) = true := by
    decide +kernel
  obtain ⟨engine, host, context, opened, run, passed⟩ :=
    exists_run_of_reaches Bench.facade.Adjusted reached
  obtain ⟨chunk, found⟩ := of_decide_eq_true passed
  obtain ⟨buffer, live, sizes⟩ := (Option.any_eq_true _ _).mp found
  obtain ⟨allocated, maxSize⟩ := of_decide_eq_true sizes
  obtain ⟨-, laid, decided, -⟩ :=
    buffers_grow_in_chunks Bench.facade ⟨rfl, rfl, rfl, rfl, rfl⟩ opened run live
  have target : buffer.wholeTarget 2 3 = 4 := by rw [Buffer.wholeTarget, maxSize]; decide
  have refused := (decided 6).exceeded (by omega)
  have partly := (decided 3).grown (by omega) (by omega)
  rw [chunk] at laid partly
  rw [maxSize] at refused
  rw [target] at partly
  exact ⟨context, buffer, live, allocated, laid, refused, (decided 2).idle (by omega),
    partly.mono fun _ _ outcome => outcome.1⟩

end VramOvercommit
