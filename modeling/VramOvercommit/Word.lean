set_option autoImplicit false

/-! Sizes, addresses and page numbers: natural numbers that have to fit a 64 bit word. -/

namespace VramOvercommit

/-- Every size, address and page number is below this bound. -/
abbrev wordLimit : Nat := 0x10000000000000000

/-- Bytes of a kibibyte. -/
def kib : Nat := 1024

/-- Bytes of a mebibyte. -/
def mib : Nat := 1024 * 1024

/-- A sum or product that does not fit a word. -/
structure Overflow where
  deriving DecidableEq, Repr

/-- How many blocks of `block` bytes cover `size` bytes. -/
def blocksFor (size block : Nat) : Nat :=
  size / block + if size % block = 0 then 0 else 1

/-- The cover is the least number of blocks that suffices. -/
theorem blocksFor_le_iff {size block count : Nat} (positive : 0 < block) :
    blocksFor size block ≤ count ↔ size ≤ count * block := by
  have split := Nat.div_add_mod' size block
  have covered := Nat.div_lt_iff_lt_mul (x := size) (y := count) positive
  rw [blocksFor]
  by_cases whole : size % block = 0
  · rw [if_pos whole, Nat.add_zero, ← Nat.mul_le_mul_right_iff positive]
    omega
  · have between : size ≠ count * block := fun equal =>
      whole (equal ▸ Nat.mul_mod_left count block)
    rw [if_neg whole]
    omega

theorem lt_blocksFor_iff {size block count : Nat} (positive : 0 < block) :
    count < blocksFor size block ↔ count * block < size := by
  rw [← Nat.not_le, blocksFor_le_iff positive, Nat.not_le]

theorem le_blocksFor_mul {block : Nat} (size : Nat) (positive : 0 < block) :
    size ≤ blocksFor size block * block :=
  (blocksFor_le_iff positive).mp (Nat.le_refl _)

theorem blocksFor_mul (count : Nat) {block : Nat} (positive : 0 < block) :
    blocksFor (count * block) block = count := by
  rw [blocksFor, Nat.mul_mod_left, if_pos rfl, Nat.mul_div_cancel _ positive, Nat.add_zero]

/-- The least multiple of `block` that is at least `size`, if it is a word. -/
def roundUp? (size block : Nat) : Option Nat :=
  let rounded := blocksFor size block * block
  if rounded < wordLimit then some rounded else none

theorem roundUp?_eq_some_iff {size block rounded : Nat} :
    roundUp? size block = some rounded ↔
      rounded = blocksFor size block * block ∧ rounded < wordLimit := by
  grind [roundUp?]

/-- The first address after a range, if it is a word. -/
def rangeEnd? (offset size : Nat) : Option Nat :=
  if offset + size < wordLimit then some (offset + size) else none

/-- Cuts a signed amount to the range of a word. -/
def saturate (amount : Int) : Nat := min amount.toNat (wordLimit - 1)

/-- The host refuses a table whose bytes exceed the signed word range. -/
def hostHolds (count bytesEach : Nat) : Bool := count * bytesEach < 0x8000000000000000

end VramOvercommit
