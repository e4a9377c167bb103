import VramOvercommit.Config
import VramOvercommit.Host

set_option autoImplicit false

/-!
A buffer: a range of reserved addresses that is backed chunk by chunk from its base upwards.
Chunks stay until the buffer is destroyed.
-/

namespace VramOvercommit

/-- A piece of physical memory behind a buffer. -/
structure Chunk where
  size : Nat
  backing : PhysicalHandle
  deriving DecidableEq, Repr

structure Buffer where
  base : Nat
  device : Int
  /-- The size of the reserved range. -/
  maxSize : Nat
  /-- Bytes that are backed, always starting at the base. -/
  allocated : Nat := 0
  /-- In address order. -/
  chunks : Array Chunk := #[]
  deriving DecidableEq, Repr

namespace Buffer

/-- The bytes a chunk takes on the host. -/
def chunkEntrySize : Nat := 16

/-- The size a buffer grows to so that `required` bytes are backed: whole chunks, cut at the end of
the reservation. -/
def growTarget (buffer : Buffer) (chunkSize required : Nat) : Nat :=
  match roundUp? required chunkSize with
  | some size => min size buffer.maxSize
  | none => buffer.maxSize

def addChunk (buffer : Buffer) (chunk : Chunk) : Buffer :=
  { buffer with
    allocated := buffer.allocated + chunk.size
    chunks := buffer.chunks.push chunk }

end Buffer

end VramOvercommit
