import VramOvercommit.Notice

set_option autoImplicit false

/-!
The world around an engine: the driver of the device, a clock, the budget of the platform, the memory
of the host itself and the journal. An engine runs over every instance of `Host`, so a statement about
all hosts is one about whatever a driver answers and whichever allocations the host refuses.
-/

namespace VramOvercommit

/-- A piece of physical device memory, as the driver names it. -/
structure PhysicalHandle where
  id : Nat
  deriving DecidableEq, Repr

/-- Device memory as the driver sees it. -/
structure MemoryInfo where
  free : Nat
  total : Nat
  deriving DecidableEq, Repr

/-- What the platform accounts to this process and what it lets the process use. -/
structure PlatformBudget where
  currentUsage : Nat
  budget : Nat
  deriving DecidableEq, Repr

/-- The calls of a driver that may fail. -/
inductive DriverCall where
  | totalMemory (device : Int)
  | memoryInfo
  /-- Takes virtual address space without backing. -/
  | reserve (size : Nat)
  | freeAddress (vaddr size : Nat)
  /-- Takes physical memory. -/
  | create (size : Nat) (device : Int)
  | map (vaddr size : Nat) (memory : PhysicalHandle)
  | setAccess (vaddr size : Nat) (device : Int)
  | unmap (vaddr size : Nat)
  /-- Gives physical memory back once it is unmapped. -/
  | release (memory : PhysicalHandle)
  /-- Waits for all outstanding work of the device. -/
  | synchronize
  deriving DecidableEq, Repr

/-- What a successful call hands out. -/
@[reducible] def DriverCall.Answer : DriverCall → Type
  | totalMemory _ => Nat
  | memoryInfo => MemoryInfo
  | reserve _ => Nat
  | create _ _ => PhysicalHandle
  | freeAddress _ _ | map _ _ _ | setAccess _ _ _ | unmap _ _ | release _ | synchronize => Unit

/-- A driver call without its arguments. -/
inductive CallKind where
  | totalMemory
  | memoryInfo
  | reserve
  | freeAddress
  | create
  | map
  | setAccess
  | unmap
  | release
  | synchronize
  deriving DecidableEq, Repr

def DriverCall.kind : DriverCall → CallKind
  | totalMemory _ => .totalMemory
  | memoryInfo => .memoryInfo
  | reserve _ => .reserve
  | freeAddress _ _ => .freeAddress
  | create _ _ => .create
  | map _ _ _ => .map
  | setAccess _ _ _ => .setAccess
  | unmap _ _ => .unmap
  | release _ => .release
  | synchronize => .synchronize

/-- The tables of an engine that take memory of the host while it works. -/
inductive HostTable where
  /-- The page map of one VBAR. -/
  | pageMap
  | slots
  /-- The slots for reuse. -/
  | freeSlots
  | buffers
  /-- The chunks of one buffer. -/
  | chunks
  /-- The serials a fault returns. -/
  | serials
  deriving DecidableEq, Repr

class Host (σ : Type) where
  call : (call : DriverCall) → EStateM Overflow σ (Except DriverError call.Answer)
  /-- The name of a device, if it has one. -/
  deviceName : Int → StateM σ (Option String)
  /-- Milliseconds since a fixed moment. -/
  clock : StateM σ Nat
  platformBudget : StateM σ (Option PlatformBudget)
  /-- Whether there is memory for so many more entries of a table. -/
  allocates : (table : HostTable) → (count : Nat) → StateM σ Bool
  log : Notice → σ → σ
  /-- Sets the least urgent level that is still kept. -/
  limitLog : Option Level → σ → σ

/-- Asks for memory for `count` more entries of a table. No entries need none. -/
def Host.room {σ : Type} [Host σ] (table : HostTable) (count : Nat) : StateM σ Bool :=
  if count = 0 then pure true else Host.allocates table count

/-- The same for a table that holds entries already, which is refused at once if its bytes would
exceed the signed word range. -/
def Host.roomBeside {σ : Type} [Host σ] (table : HostTable) (held count bytesEach : Nat) :
    StateM σ Bool :=
  if hostHolds (held + count) bytesEach then Host.room table count else pure false

/-- Hosts of one process have something in common, such as the journal. -/
class SharedHost (σ : Type) extends Host σ where
  /-- The second host, with what all hosts have in common taken from the first. -/
  share : σ → σ → σ

/-- A host that works on a part of a larger state. -/
@[reducible] def Host.within {σ τ : Type} [Host σ] (get : τ → σ) (set : σ → τ → τ) : Host τ where
  call c := fun state =>
    match Host.call c (get state) with
    | .ok answer inner => .ok answer (set inner state)
    | .error overflow inner => .error overflow (set inner state)
  deviceName device := fun state =>
    let (name, inner) := Host.deviceName device (get state)
    (name, set inner state)
  clock := fun state =>
    let (now, inner) := (Host.clock : StateM σ Nat) (get state)
    (now, set inner state)
  platformBudget := fun state =>
    let (reading, inner) := (Host.platformBudget : StateM σ (Option PlatformBudget)) (get state)
    (reading, set inner state)
  allocates table count := fun state =>
    let (granted, inner) := Host.allocates table count (get state)
    (granted, set inner state)
  log notice := fun state => set (Host.log notice (get state)) state
  limitLog limit := fun state => set (Host.limitLog limit (get state)) state

namespace Host

variable {σ : Type} [Host σ]

/-- Whoever is not asked stays as it is. -/
theorem room_cases (table : HostTable) (count : Nat) (host : σ) :
    (room table count host).2 = host ∨
      (room table count host).2 = (Host.allocates table count host).2 := by
  unfold room
  split
  · exact .inl rfl
  · exact .inr rfl

theorem roomBeside_cases (table : HostTable) (held count bytesEach : Nat) (host : σ) :
    (roomBeside table held count bytesEach host).2 = host ∨
      (roomBeside table held count bytesEach host).2 = (Host.allocates table count host).2 := by
  unfold roomBeside
  split
  · exact room_cases table count host
  · exact .inl rfl

/-- What is granted beside the entries a table holds does not exceed the range of a word. -/
theorem holds_of_roomBeside {table : HostTable} {held count bytesEach : Nat} {host : σ}
    (granted : (roomBeside table held count bytesEach host).1 = true) :
    hostHolds (held + count) bytesEach = true := by
  unfold roomBeside at granted
  split at granted
  · assumption
  · cases granted

/-- Hosts of this kind never run out of memory of their own. -/
def Ample (σ : Type) [Host σ] : Prop :=
  ∀ (table : HostTable) (count : Nat) (host : σ), (Host.allocates table count host).1 = true

theorem Ample.room (ample : Ample σ) (table : HostTable) (count : Nat) (host : σ) :
    (Host.room table count host).1 = true := by
  unfold Host.room
  split
  · rfl
  · exact ample table count host

theorem Ample.roomBeside_eq (ample : Ample σ) (table : HostTable) (held count bytesEach : Nat)
    (host : σ) :
    (Host.roomBeside table held count bytesEach host).1 = hostHolds (held + count) bytesEach := by
  unfold Host.roomBeside
  split
  · rename_i holds
    rw [holds]
    exact ample.room table count host
  · rename_i refused
    exact (Bool.eq_false_iff.mpr refused).symm

end Host

end VramOvercommit
