import VramOvercommit.Error
import VramOvercommit.Word

set_option autoImplicit false

/-! Sizes and reserves of a context. -/

namespace VramOvercommit

structure Config where
  /-- Page size of a VBAR. -/
  vbarPageSize : Nat := 32 * mib
  /-- Size of the physical chunks a buffer grows by. -/
  vramChunkSize : Nat := 16 * mib
  /-- Requested sizes are rounded up to this. -/
  minAllocSize : Nat := 2 * mib
  /-- Bytes kept free on the device. -/
  vramHeadroom : Nat := 256 * mib
  /-- Bytes kept free below the budget of the platform. -/
  platformHeadroom : Nat := 512 * mib
  /-- Milliseconds between two queries of the platform budget. -/
  budgetPollInterval : Nat := 2000
  deriving DecidableEq, Repr

/-- A page consists of whole chunks and a chunk of whole allocation units. -/
def Config.validate (config : Config) : Except ConfigFault Unit :=
  if config.vbarPageSize = 0 ∨ config.vramChunkSize = 0 ∨ config.minAllocSize = 0 then
    .error .zeroSize
  else if config.vbarPageSize % config.vramChunkSize ≠ 0 then .error .pageNotInChunks
  else if config.vramChunkSize % config.minAllocSize ≠ 0 then .error .chunkNotInUnits
  else .ok ()

end VramOvercommit
