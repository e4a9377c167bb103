import VramOvercommit.Proofs.Run

set_option autoImplicit false

/-!
Drivers that keep their address ranges apart. Of all other answers nothing is known, and yet every
engine on such a driver accounts for exactly the memory that it holds.
-/

namespace VramOvercommit

/-- What a driver promises of addresses: it hands out no range that starts where one in use does, and
no range reaches the end of the address space. -/
structure Addressing (σ : Type) [Host σ] where
  /-- The ranges that are in use. -/
  reserves : σ → List Region → Prop
  perm : ∀ {host regions regions'}, regions.Perm regions' → reserves host regions →
    reserves host regions'
  ends : ∀ {host regions}, reserves host regions →
    ∀ region ∈ regions, region.base + region.size < wordLimit
  reserve : ∀ {host regions} (size : Nat), reserves host regions →
    Ensures (fun _ => True) (Host.call (.reserve size)) host (fun answer after =>
      match answer with
      | .ok base => reserves after (⟨base, size⟩ :: regions) ∧
          ∀ region ∈ regions, region.base ≠ base
      | .error _ => reserves after regions)
  freeAddress : ∀ {host regions} {vaddr size : Nat}, reserves host (⟨vaddr, size⟩ :: regions) →
    Ensures (fun _ => True) (Host.call (.freeAddress vaddr size)) host
      (fun _ after => reserves after regions)
  call : ∀ {host regions} {call : DriverCall}, call.kind ≠ .reserve → call.kind ≠ .freeAddress →
    reserves host regions →
    Ensures (fun _ => True) (Host.call call) host (fun _ after => reserves after regions)
  deviceName : ∀ {host regions} (device : Int), reserves host regions →
    reserves (Host.deviceName device host).2 regions
  clock : ∀ {host regions}, reserves host regions → reserves (Host.clock host).2 regions
  platformBudget : ∀ {host regions}, reserves host regions →
    reserves (Host.platformBudget host).2 regions
  allocates : ∀ {host regions} (table : HostTable) (count : Nat), reserves host regions →
    reserves (Host.allocates table count host).2 regions
  log : ∀ {host regions} (notice : Notice), reserves host regions →
    reserves (Host.log notice host) regions

namespace Addressing

variable {σ : Type} [Host σ] (addressing : Addressing σ)

/-- The books of a driver that keeps its address ranges apart. -/
def ledger : Ledger σ where
  agrees host regions _ _ := addressing.reserves host regions
  aborts cause := cause = .overflow
  mayStop := True
  sizes _ := True
  refuses _ _ _ _ := True
  distinct := True
  perm sameRegions _ := addressing.perm sameRegions
  log notice := addressing.log notice
  clock := addressing.clock
  platformBudget := addressing.platformBudget
  allocates := addressing.allocates
  unkept clash := absurd trivial clash
  regionEnds agrees := .inl (addressing.ends agrees)
  heldSmall _ := .inr rfl
  memoryInfo agrees := (addressing.call (by nofun) (by nofun) agrees).weaken fun _ _ => rfl
  synchronize agrees :=
    (addressing.call (by nofun) (by nofun) agrees).weaken fun _ _ => ⟨trivial, rfl⟩
  reserve size agrees _ := by
    apply ((addressing.reserve size agrees).weaken fun _ _ => rfl).mono
    intro answer after outcome
    cases answer with
    | ok base => exact ⟨outcome.1, fun _ => outcome.2⟩
    | error cause => exact outcome
  freeAddress agrees := (addressing.freeAddress agrees).weaken fun _ _ => rfl
  create vaddr device agrees _ := by
    apply ((addressing.call (by nofun) (by nofun) agrees).weaken fun _ _ => rfl).mono
    intro answer after outcome
    cases answer with
    | ok memory => exact outcome
    | error cause => exact ⟨outcome, trivial⟩
  map agrees _ _ _ := by
    apply ((addressing.call (by nofun) (by nofun) agrees).weaken fun _ _ => rfl).mono
    intro answer after outcome
    cases answer with
    | ok _ => exact outcome
    | error cause => exact ⟨outcome, trivial⟩
  setAccess device agrees := by
    apply ((addressing.call (by nofun) (by nofun) agrees).weaken fun _ _ => rfl).mono
    intro answer after outcome
    refine ⟨outcome, ?_⟩
    cases answer <;> exact trivial
  unmap agrees := by
    apply ((addressing.call (by nofun) (by nofun) agrees).weaken fun _ _ => ⟨trivial, rfl⟩).mono
    intro answer after outcome
    cases answer <;> exact outcome
  release agrees := (addressing.call (by nofun) (by nofun) agrees).weaken fun _ _ => ⟨trivial, rfl⟩

/-- The host may change in between as long as no range in use is handed out for it. -/
def Keeps (alters : σ → σ → Prop) : Prop :=
  ∀ {before after : σ} {regions : List Region}, alters before after →
    addressing.reserves before regions → addressing.reserves after regions

variable {addressing} {alters : σ → σ → Prop} {context : Context σ}

theorem sound_of_opened {device : Int} {config : Config} {host host' : σ} {engine : Engine}
    (unused : addressing.reserves host [])
    (opened : Engine.create device config host = .ok (.ok engine) host') :
    Sound addressing.ledger ⟨engine, host'⟩ := by
  have created : Ensures (fun _ => True) (Engine.create device config) host _ :=
    Engine.create_spec (fun host => addressing.reserves host [])
      (addressing.call (by nofun) (by nofun) unused)
      (fun known => addressing.deviceName _ known)
      fun notice known => addressing.log notice known
  obtain ⟨known, valid, capacity, rfl⟩ := created.of_ok opened
  exact sound_fresh valid trivial known

theorem sound_of_run {admits : Context σ → Operation → Context σ → Prop} {start : Context σ}
    (keeps : addressing.Keeps alters) (run : Run alters admits start context)
    (sound : Sound addressing.ledger start) : Sound addressing.ledger context := by
  refine run.preserves (Sound addressing.ledger) (fun {context host} sound altered => ?_)
    (fun {context after operation outcome} sound ran _ => ?_) sound
  · exact ⟨sound.vbars, sound.buffers, sound.valid, sound.allowed,
      sound.books.host (keeps altered sound.books.agrees)⟩
  · exact ((operation.run_spec sound rfl fun _ => trivial).of_ok ran).sound

end Addressing

end VramOvercommit
