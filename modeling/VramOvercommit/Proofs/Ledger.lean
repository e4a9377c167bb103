import VramOvercommit.Engine.Memory
import VramOvercommit.Proofs.Ensures
import VramOvercommit.Proofs.Holdings

set_option autoImplicit false

/-!
The books of a host. A ledger says what a host knows of the memory that an engine holds, and how
each call of the driver changes that. Every operation is walked through once, over any ledger: what
follows for hosts that answer at will and for the simulated device depends on the ledger put in.
-/

namespace VramOvercommit

/-- Physical memory in transit: taken and not mapped yet, or given up and not released yet. -/
structure Spare where
  memory : PhysicalHandle
  size : Nat
  /-- The mapping could not be taken away. -/
  mapped : Bool
  deriving DecidableEq, Repr

/-- What a host of one kind knows of regions and memory, with the laws of its driver. -/
structure Ledger (σ : Type) [Host σ] where
  agrees : σ → List Region → Option Spare → List Holding → Prop
  /-- The causes a step may abort for. -/
  aborts : Abort → Prop
  /-- Whether a step that only gives memory back may abort for them. -/
  mayStop : Prop
  /-- The sizes in which physical memory may be asked for. -/
  sizes : Nat → Prop
  /-- What is known once the memory for a range was refused. -/
  refuses : (cause : DriverError) → (vaddr size : Nat) → List Holding → Prop
  /-- Whether no address is handed out while a range at it is in use. -/
  distinct : Prop
  perm : ∀ {host regions regions' spare holdings holdings'}, regions.Perm regions' →
    holdings.Perm holdings' → agrees host regions spare holdings →
      agrees host regions' spare holdings'
  log : ∀ {host regions spare holdings} (notice : Notice), agrees host regions spare holdings →
    agrees (Host.log notice host) regions spare holdings
  clock : ∀ {host regions spare holdings}, agrees host regions spare holdings →
    agrees (Host.clock host).2 regions spare holdings
  platformBudget : ∀ {host regions spare holdings}, agrees host regions spare holdings →
    agrees (Host.platformBudget host).2 regions spare holdings
  allocates : ∀ {host regions spare holdings} (table : HostTable) (count : Nat),
    agrees host regions spare holdings →
      agrees (Host.allocates table count host).2 regions spare holdings
  /-- A host that hands out an address twice has no books to keep. -/
  unkept : ¬ distinct → ∀ host regions spare holdings, agrees host regions spare holdings
  regionEnds : ∀ {host regions spare holdings}, agrees host regions spare holdings →
    (∀ region ∈ regions, region.base + region.size < wordLimit) ∨ mayStop ∧ aborts .overflow
  heldSmall : ∀ {host regions spare holdings}, agrees host regions spare holdings →
    distinct ∧ heldBytes holdings < wordLimit ∨ aborts .overflow
  memoryInfo : ∀ {host regions holdings}, agrees host regions none holdings →
    Ensures (fun _ => aborts .overflow) (Host.call .memoryInfo) host
      (fun _ after => agrees after regions none holdings)
  synchronize : ∀ {host regions holdings}, agrees host regions none holdings →
    Ensures (fun _ => mayStop ∧ aborts .overflow) (Host.call .synchronize) host
      (fun _ after => agrees after regions none holdings)
  reserve : ∀ {host regions holdings} (size : Nat), agrees host regions none holdings →
    aborts .overflow →
    Ensures (fun _ => aborts .overflow) (Host.call (.reserve size)) host (fun answer after =>
      match answer with
      | .ok base => agrees after (⟨base, size⟩ :: regions) none holdings ∧
          (distinct → ∀ region ∈ regions, region.base ≠ base)
      | .error _ => agrees after regions none holdings)
  freeAddress : ∀ {host regions holdings} {vaddr size : Nat},
    agrees host (⟨vaddr, size⟩ :: regions) none holdings →
    Ensures (fun _ => aborts .overflow) (Host.call (.freeAddress vaddr size)) host
      (fun _ after => agrees after regions none holdings)
  create : ∀ {host regions holdings} {size : Nat} (vaddr : Nat) (device : Int),
    agrees host regions none holdings → sizes size →
    Ensures (fun _ => aborts .overflow) (Host.call (.create size device)) host
      (fun answer after =>
        match answer with
        | .ok memory => agrees after regions (some ⟨memory, size, false⟩) holdings
        | .error cause =>
            agrees after regions none holdings ∧ refuses cause vaddr size holdings)
  map : ∀ {host regions holdings} {vaddr size : Nat} {memory : PhysicalHandle},
    agrees host regions (some ⟨memory, size, false⟩) holdings → sizes size → 0 < size →
    (∃ region ∈ regions, region.base ≤ vaddr ∧ vaddr + size ≤ region.base + region.size) →
    Ensures (fun _ => aborts .overflow) (Host.call (.map vaddr size memory)) host
      (fun answer after =>
        match answer with
        | .ok _ => agrees after regions none (⟨vaddr, size, memory⟩ :: holdings)
        | .error cause => agrees after regions (some ⟨memory, size, false⟩) holdings ∧
            refuses cause vaddr size holdings)
  setAccess : ∀ {host regions holdings} {vaddr size : Nat} {memory : PhysicalHandle}
    (device : Int), agrees host regions none (⟨vaddr, size, memory⟩ :: holdings) →
    Ensures (fun _ => aborts .overflow) (Host.call (.setAccess vaddr size device)) host
      (fun answer after => agrees after regions none (⟨vaddr, size, memory⟩ :: holdings) ∧
        match answer with
        | .ok _ => True
        | .error cause => refuses cause vaddr size holdings)
  unmap : ∀ {host regions holdings} {vaddr size : Nat} {memory : PhysicalHandle},
    agrees host regions none (⟨vaddr, size, memory⟩ :: holdings) →
    Ensures (fun _ => mayStop ∧ aborts .overflow) (Host.call (.unmap vaddr size)) host
      (fun answer after =>
        match answer with
        | .ok _ => agrees after regions (some ⟨memory, size, false⟩) holdings
        | .error _ => agrees after regions (some ⟨memory, size, true⟩) holdings)
  release : ∀ {host regions holdings} {memory : PhysicalHandle} {size : Nat} {mapped : Bool},
    agrees host regions (some ⟨memory, size, mapped⟩) holdings →
    Ensures (fun _ => mayStop ∧ aborts .overflow) (Host.call (.release memory)) host
      (fun _ after => agrees after regions none holdings)

/-- The causes a step that only gives memory back may abort for. -/
def Ledger.stops {σ : Type} [Host σ] (ledger : Ledger σ) (cause : Abort) : Prop :=
  ledger.mayStop ∧ ledger.aborts cause

variable {σ : Type} [Host σ] {ledger : Ledger σ} {context : Context σ} {regions : List Region}
  {holdings : List Holding}

theorem Ledger.stops_aborts (ledger : Ledger σ) (cause : Abort) (stops : ledger.stops cause) :
    ledger.aborts cause := stops.2

/-- The account of the engine covers what is held; only a buffer that was overwritten at its address
can make it exceed that. -/
structure Accounted (ledger : Ledger σ) (engine : Engine) (holdings : List Holding) : Prop where
  held_le : heldBytes holdings ≤ engine.budget.residentUsage
  held_eq : ledger.distinct → heldBytes holdings = engine.budget.residentUsage
  word : engine.budget.residentUsage < wordLimit

/-- The books of the host and the account of the engine tell of the same memory. -/
structure Books (ledger : Ledger σ) (context : Context σ) (regions : List Region)
    (holdings : List Holding) : Prop where
  agrees : ledger.agrees context.host regions none holdings
  accounted : Accounted ledger context.engine holdings

/-- What is fixed once a context is open. -/
structure SameSetting (before after : Engine) : Prop where
  device : after.device = before.device
  config : after.config = before.config
  capacity : after.budget.capacity = before.budget.capacity

theorem SameSetting.refl (engine : Engine) : SameSetting engine engine := ⟨rfl, rfl, rfl⟩

theorem SameSetting.trans {before middle after : Engine} (first : SameSetting before middle)
    (second : SameSetting middle after) : SameSetting before after :=
  ⟨second.device.trans first.device, second.config.trans first.config,
    second.capacity.trans first.capacity⟩

/-- Nothing but the account and the reading of the platform may differ. -/
structure SameTables (before after : Engine) : Prop extends SameSetting before after where
  vbars : after.vbars = before.vbars
  buffers : after.buffers = before.buffers

theorem SameTables.refl (engine : Engine) : SameTables engine engine := ⟨.refl engine, rfl, rfl⟩

theorem SameTables.trans {before middle after : Engine} (first : SameTables before middle)
    (second : SameTables middle after) : SameTables before after :=
  ⟨first.toSameSetting.trans second.toSameSetting, second.vbars.trans first.vbars,
    second.buffers.trans first.buffers⟩

/-- Nothing but the bytes on the account may differ. -/
def Recounted (before after : Engine) : Prop :=
  after = { before with
    budget := { before.budget with residentUsage := after.budget.residentUsage } }

theorem Recounted.refl (engine : Engine) : Recounted engine engine := rfl

theorem Recounted.trans {before middle after : Engine} (first : Recounted before middle)
    (second : Recounted middle after) : Recounted before after := by
  unfold Recounted at *
  rw [second, first]

theorem Recounted.tables {before after : Engine} (recounted : Recounted before after) :
    SameTables before after := by
  rw [recounted]
  exact ⟨⟨rfl, rfl, rfl⟩, rfl, rfl⟩

theorem Accounted.perm {engine : Engine} {holdings' : List Holding}
    (accounted : Accounted ledger engine holdings) (same : holdings.Perm holdings') :
    Accounted ledger engine holdings' := by
  have bytes := heldBytes_perm same
  refine ⟨?_, fun distinct => ?_, accounted.word⟩
  · rw [← bytes]
    exact accounted.held_le
  · rw [← bytes]
    exact accounted.held_eq distinct

theorem Accounted.congr {engine other : Engine} (accounted : Accounted ledger engine holdings)
    (usage : other.budget.residentUsage = engine.budget.residentUsage) :
    Accounted ledger other holdings := by
  refine ⟨?_, fun distinct => ?_, ?_⟩
  · rw [usage]
    exact accounted.held_le
  · rw [usage]
    exact accounted.held_eq distinct
  · rw [usage]
    exact accounted.word

theorem Books.perm {regions' : List Region} {holdings' : List Holding}
    (books : Books ledger context regions holdings) (sameRegions : regions.Perm regions')
    (sameHoldings : holdings.Perm holdings') : Books ledger context regions' holdings' :=
  ⟨ledger.perm sameRegions sameHoldings books.agrees, books.accounted.perm sameHoldings⟩

/-- A change of the engine that leaves the account alone. -/
theorem Books.engine (books : Books ledger context regions holdings) {engine : Engine}
    (usage : engine.budget.residentUsage = context.engine.budget.residentUsage) :
    Books ledger { context with engine } regions holdings :=
  ⟨books.agrees, books.accounted.congr usage⟩

/-- A change of the host that the ledger knows. -/
theorem Books.host (books : Books ledger context regions holdings) {host : σ}
    {regions' : List Region} (agrees : ledger.agrees host regions' none holdings) :
    Books ledger { context with host } regions' holdings :=
  ⟨agrees, books.accounted⟩

theorem Books.log (books : Books ledger context regions holdings) (notice : Notice) :
    Books ledger { context with host := Host.log notice context.host } regions holdings :=
  books.host (ledger.log notice books.agrees)

/-- Whether there is memory for more entries of a table makes no difference to the books. -/
theorem Books.room (books : Books ledger context regions holdings) (table : HostTable)
    (count : Nat) :
    Books ledger { context with host := (Host.room table count context.host).2 } regions
      holdings := by
  refine books.host ?_
  rcases Host.room_cases table count context.host with same | asked
  · rw [same]
    exact books.agrees
  · rw [asked]
    exact ledger.allocates table count books.agrees

theorem Books.roomBeside (books : Books ledger context regions holdings) (table : HostTable)
    (held count bytesEach : Nat) :
    Books ledger
      { context with host := (Host.roomBeside table held count bytesEach context.host).2 } regions
      holdings := by
  refine books.host ?_
  rcases Host.roomBeside_cases table held count bytesEach context.host with same | asked
  · rw [same]
    exact books.agrees
  · rw [asked]
    exact ledger.allocates table count books.agrees

theorem Books.region_lt (books : Books ledger context regions holdings) {region : Region}
    (member : region ∈ regions) :
    region.base + region.size < wordLimit ∨ ledger.stops .overflow :=
  (ledger.regionEnds books.agrees).imp (fun ends => ends region member) id

theorem Books.size_lt (books : Books ledger context regions holdings) {region : Region}
    (member : region ∈ regions) : region.size < wordLimit ∨ ledger.stops .overflow :=
  (books.region_lt member).imp (Nat.lt_of_le_of_lt (Nat.le_add_left _ _)) id

namespace Memory

open EngineM

/-- Giving memory back clears it from transit, whatever the driver answers. -/
theorem giveBack_spec {memory : PhysicalHandle} {size : Nat} {mapped : Bool}
    (agrees : ledger.agrees context.host regions (some ⟨memory, size, mapped⟩) holdings) :
    Ensures ledger.stops (giveBack memory) context (fun _ after =>
      after.engine = context.engine ∧ ledger.agrees after.host regions none holdings) := by
  unfold giveBack
  rw [ensures_bind, ensures_call]
  apply (ledger.release agrees).mono
  intro answer host agrees
  cases answer with
  | ok _ => exact ⟨rfl, agrees⟩
  | error cause => exact ⟨rfl, ledger.log _ agrees⟩

/-- Undoing the start of a commit. -/
theorem rollback_spec {memory : PhysicalHandle} {size : Nat} {mapped : Bool}
    (agrees : ledger.agrees context.host regions (some ⟨memory, size, mapped⟩) holdings)
    (accounted : Accounted ledger context.engine holdings) :
    Ensures ledger.aborts (giveBack memory) context (fun _ after =>
      SameTables context.engine after.engine ∧ Books ledger after regions holdings) := by
  apply ((giveBack_spec agrees).weaken ledger.stops_aborts).mono
  intro _ after outcome
  obtain ⟨same, known⟩ := outcome
  rw [← same] at accounted ⊢
  exact ⟨.refl _, known, accounted⟩

theorem recordCommit_spec (holding : Holding)
    (agrees : ledger.agrees context.host regions none (holding :: holdings))
    (accounted : Accounted ledger context.engine holdings) :
    Ensures ledger.aborts (recordCommit holding.size) context (fun _ after =>
      SameTables context.engine after.engine ∧
        Books ledger after regions (holding :: holdings)) := by
  have small : context.engine.budget.residentUsage + holding.size < wordLimit ∨
      ledger.aborts .overflow := by
    refine (ledger.heldSmall agrees).imp (fun ⟨distinct, less⟩ => ?_) id
    rw [heldBytes_cons, accounted.held_eq distinct] at less
    omega
  unfold recordCommit
  rw [ensures_bind, ensures_engine]
  unfold Budget.recordCommit
  by_cases fits : context.engine.budget.residentUsage + holding.size < wordLimit
  · rw [if_pos fits, ensures_bind, ensures_ensure_ok, ensures_setBudget]
    refine ⟨⟨⟨rfl, rfl, rfl⟩, rfl, rfl⟩, agrees, ?_, fun distinct => ?_, fits⟩
    · have held := accounted.held_le
      rw [heldBytes_cons]
      change _ ≤ context.engine.budget.residentUsage + holding.size
      omega
    · have held := accounted.held_eq distinct
      rw [heldBytes_cons]
      change _ = context.engine.budget.residentUsage + holding.size
      omega
  · rw [if_neg fits]
    exact small.resolve_left fits

/-- What is held has been committed, so its release cannot exceed the account. -/
theorem recordRelease_spec (holding : Holding)
    (agrees : ledger.agrees context.host regions none holdings)
    (accounted : Accounted ledger context.engine (holding :: holdings)) :
    Ensures ledger.stops (recordRelease holding.size) context (fun _ after =>
      Recounted context.engine after.engine ∧ Books ledger after regions holdings) := by
  have held := accounted.held_le
  rw [heldBytes_cons] at held
  have covered : holding.size ≤ context.engine.budget.residentUsage := by omega
  unfold recordRelease
  rw [ensures_bind, ensures_engine]
  unfold Budget.recordRelease
  rw [if_pos covered, ensures_bind, ensures_ensure_ok, ensures_setBudget]
  refine ⟨rfl, agrees, ?_, fun distinct => ?_,
    Nat.lt_of_le_of_lt (Nat.sub_le _ _) accounted.word⟩
  · change _ ≤ context.engine.budget.residentUsage - holding.size
    omega
  · have held := accounted.held_eq distinct
    rw [heldBytes_cons] at held
    change _ = context.engine.budget.residentUsage - holding.size
    omega

/-- A commit adds the memory to the books, or undoes all it did. -/
theorem commit_spec {vaddr size : Nat} {device : Int}
    (books : Books ledger context regions holdings) (allowed : ledger.sizes size)
    (positive : 0 < size)
    (inside : ∃ region ∈ regions, region.base ≤ vaddr ∧ vaddr + size ≤ region.base + region.size) :
    Ensures ledger.aborts (commit vaddr size device) context (fun result after =>
      SameTables context.engine after.engine ∧
        match result with
        | .ok memory => Books ledger after regions (⟨vaddr, size, memory⟩ :: holdings)
        | .error cause => Books ledger after regions holdings ∧
            ledger.refuses cause vaddr size holdings) := by
  obtain ⟨agrees, accounted⟩ := books
  unfold commit
  rw [ensures_bind, ensures_call]
  apply (ledger.create vaddr device agrees allowed).mono
  intro created host agrees
  cases created with
  | error cause => exact ⟨.refl _, ⟨agrees.1, accounted⟩, agrees.2⟩
  | ok memory =>
    dsimp only at agrees ⊢
    rw [ensures_bind, ensures_call]
    apply (ledger.map agrees allowed positive inside).mono
    intro mapped host agrees
    cases mapped with
    | error cause =>
      dsimp only at agrees ⊢
      rw [ensures_bind]
      exact Ensures.mono (rollback_spec agrees.1 accounted) fun _ after ⟨same, books⟩ =>
        ⟨same, books, agrees.2⟩
    | ok _ =>
      dsimp only at agrees ⊢
      rw [ensures_bind, ensures_call]
      apply (ledger.setAccess device agrees).mono
      intro answer host outcome
      obtain ⟨agrees, refused⟩ := outcome
      cases answer with
      | ok _ =>
        dsimp only
        rw [ensures_bind]
        refine Ensures.mono (recordCommit_spec ⟨vaddr, size, memory⟩ agrees accounted)
          fun _ after ⟨same, books⟩ => ?_
        exact ⟨same, books.log _⟩
      | error cause =>
        dsimp only at refused ⊢
        rw [ensures_bind, ensures_call]
        apply ((ledger.unmap agrees).weaken fun _ => ledger.stops_aborts _).mono
        intro undone host agrees
        cases undone with
        | ok _ =>
          dsimp only at agrees ⊢
          rw [ensures_bind]
          exact Ensures.mono (rollback_spec agrees accounted) fun _ after ⟨same, books⟩ =>
            ⟨same, books, refused⟩
        | error unmapCause =>
          dsimp only at agrees ⊢
          rw [ensures_bind, ensures_log, ensures_bind]
          exact Ensures.mono (rollback_spec (ledger.log _ agrees) accounted)
            fun _ after ⟨same, books⟩ => ⟨same, books, refused⟩

/-- A release takes the memory off the books, even if the driver refuses. -/
theorem release_spec {vaddr size : Nat} {memory : PhysicalHandle}
    (books : Books ledger context regions (⟨vaddr, size, memory⟩ :: holdings)) :
    Ensures ledger.stops (release vaddr size memory) context (fun _ after =>
      Recounted context.engine after.engine ∧ Books ledger after regions holdings) := by
  obtain ⟨agrees, accounted⟩ := books
  have settle : ∀ {between : Context σ} {mapped : Bool}, between.engine = context.engine →
      ledger.agrees between.host regions (some ⟨memory, size, mapped⟩) holdings →
      Ensures ledger.stops (do giveBack memory; recordRelease size; log (.released size vaddr))
        between (fun _ after =>
          Recounted context.engine after.engine ∧ Books ledger after regions holdings) := by
    intro between mapped unchanged agrees
    rw [ensures_bind]
    apply (giveBack_spec agrees).mono
    intro _ middle outcome
    obtain ⟨same, known⟩ := outcome
    rw [ensures_bind]
    have engine : middle.engine = context.engine := same.trans unchanged
    refine Ensures.mono (recordRelease_spec ⟨vaddr, size, memory⟩ known (engine ▸ accounted))
      fun _ after ⟨recounted, books⟩ => ?_
    exact ⟨engine ▸ recounted, books.log _⟩
  unfold release
  rw [ensures_bind, ensures_call]
  apply (ledger.unmap agrees).mono
  intro undone host agrees
  cases undone with
  | ok _ =>
    exact settle rfl agrees
  | error cause =>
    dsimp only at agrees ⊢
    rw [ensures_bind, ensures_log]
    exact settle rfl (ledger.log _ agrees)

theorem synchronize_spec (books : Books ledger context regions holdings) :
    Ensures ledger.stops synchronize context (fun _ after =>
      after.engine = context.engine ∧ Books ledger after regions holdings) := by
  unfold synchronize
  rw [ensures_bind, ensures_call]
  apply (ledger.synchronize books.agrees).mono
  intro answer host agrees
  cases answer with
  | ok _ => exact ⟨rfl, books.host agrees⟩
  | error cause => exact ⟨rfl, books.host (ledger.log _ agrees)⟩

theorem info_spec (books : Books ledger context regions holdings) :
    Ensures ledger.aborts info context (fun _ after =>
      after.engine = context.engine ∧ Books ledger after regions holdings) := by
  unfold info
  rw [ensures_bind, ensures_call]
  apply (ledger.memoryInfo books.agrees).mono
  intro answer host agrees
  cases answer with
  | ok info => exact ⟨rfl, books.host agrees⟩
  | error cause => exact ⟨rfl, books.host (ledger.log _ agrees)⟩

theorem poll_spec (books : Books ledger context regions holdings) :
    Ensures ledger.aborts poll context (fun _ after =>
      SameTables context.engine after.engine ∧ Books ledger after regions holdings) := by
  unfold poll
  rw [ensures_bind, ensures_ask, ensures_bind, ensures_engine]
  have asked := ledger.clock books.agrees
  dsimp only
  split
  · rw [ensures_bind, ensures_ask, ensures_setBudget]
    exact ⟨⟨⟨rfl, rfl, rfl⟩, rfl, rfl⟩, ledger.platformBudget asked, books.accounted.congr rfl⟩
  · exact ⟨.refl _, books.host asked⟩

theorem deficit_spec {device : Int} {extra : Nat}
    (books : Books ledger context regions holdings) :
    Ensures ledger.aborts (deficit device extra) context (fun _ after =>
      SameTables context.engine after.engine ∧ Books ledger after regions holdings) := by
  unfold deficit
  rw [ensures_bind]
  apply (info_spec books).mono
  intro _ middle outcome
  obtain ⟨unchanged, books⟩ := outcome
  rw [← unchanged, ensures_bind]
  apply (poll_spec books).mono
  intro _ last outcome
  obtain ⟨tables, books⟩ := outcome
  rw [ensures_bind, ensures_engine]
  dsimp only
  split
  · exact ⟨tables, books.log _⟩
  · exact ⟨tables, books⟩

theorem reserve_spec {size : Nat} (books : Books ledger context regions holdings)
    (allowed : ledger.aborts .overflow) :
    Ensures ledger.aborts (reserve size) context (fun answer after =>
      after.engine = context.engine ∧
        match answer with
        | .ok base => Books ledger after (⟨base, size⟩ :: regions) holdings ∧
            (ledger.distinct → ∀ region ∈ regions, region.base ≠ base)
        | .error _ => Books ledger after regions holdings) := by
  unfold reserve
  rw [ensures_call]
  apply (ledger.reserve size books.agrees allowed).mono
  intro answer host agrees
  cases answer with
  | ok base => exact ⟨rfl, books.host agrees.1, agrees.2⟩
  | error cause => exact ⟨rfl, books.host agrees⟩

theorem freeAddress_spec {vaddr size : Nat}
    (books : Books ledger context (⟨vaddr, size⟩ :: regions) holdings) :
    Ensures ledger.aborts (freeAddress vaddr size) context (fun _ after =>
      after.engine = context.engine ∧ Books ledger after regions holdings) := by
  unfold freeAddress
  rw [ensures_bind, ensures_call]
  apply (ledger.freeAddress books.agrees).mono
  intro answer host agrees
  cases answer with
  | ok _ => exact ⟨rfl, books.host agrees⟩
  | error cause => exact ⟨rfl, books.host (ledger.log _ agrees)⟩

end Memory

end VramOvercommit
