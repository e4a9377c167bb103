import VramOvercommit.Word

set_option autoImplicit false

/-!
Broken internal assumptions. An abort is not an error of the caller: it ends the program, and a
correct engine reaches none but an overflow.
-/

namespace VramOvercommit

inductive Abort where
  /-- A sum, a product or the number of a slot does not fit its word. -/
  | overflow
  /-- More physical memory was released than is committed. -/
  | overRelease
  /-- A page number beyond the end of its VBAR. -/
  | pageOutOfRange
  /-- The count of resident pages would drop below zero. -/
  | countUnderflow
  /-- A link of a priority list leads to an empty slot. -/
  | danglingLink
  /-- A slot taken for reuse still holds an entry. -/
  | occupiedSlot
  /-- The page map of the VBAR at `base` contradicts itself. -/
  | inconsistentVbar (base : Nat)
  deriving DecidableEq, Repr

end VramOvercommit
