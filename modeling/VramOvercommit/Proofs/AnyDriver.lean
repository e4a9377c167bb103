import VramOvercommit.Proofs.OperationActions
import VramOvercommit.Proofs.Run
import VramOvercommit.Simulation.Bench

set_option autoImplicit false

/-!
What holds of every run, whatever the driver answers: no page map ever disagrees with itself, no
step aborts but for a sum that is no word, and no protected page loses its memory.
-/

namespace VramOvercommit

open EngineM
open Simulation (Bench)

variable {σ : Type} [Host σ]

/-- The books of a host of which nothing is known. -/
def Ledger.unknown (σ : Type) [Host σ] : Ledger σ where
  agrees _ _ _ _ := True
  aborts cause := cause = .overflow
  mayStop := True
  sizes _ := True
  refuses _ _ _ _ := True
  distinct := False
  perm _ _ _ := trivial
  log _ _ := trivial
  clock _ := trivial
  platformBudget _ := trivial
  allocates _ _ _ := trivial
  unkept _ _ _ _ _ := trivial
  regionEnds _ := .inr ⟨trivial, rfl⟩
  heldSmall _ := .inr rfl
  memoryInfo _ := ensures_trivial (fun _ => rfl) fun _ _ => trivial
  synchronize _ := ensures_trivial (fun _ => ⟨trivial, rfl⟩) fun _ _ => trivial
  reserve _ _ _ := ensures_trivial (fun _ => rfl) fun answer _ => by
    cases answer with
    | ok base => exact ⟨trivial, False.elim⟩
    | error cause => exact trivial
  freeAddress _ := ensures_trivial (fun _ => rfl) fun _ _ => trivial
  create _ _ _ _ := ensures_trivial (fun _ => rfl) fun answer _ => by
    cases answer with
    | ok memory => exact trivial
    | error cause => exact ⟨trivial, trivial⟩
  map _ _ _ _ := ensures_trivial (fun _ => rfl) fun answer _ => by
    cases answer with
    | ok _ => exact trivial
    | error cause => exact ⟨trivial, trivial⟩
  setAccess _ _ := ensures_trivial (fun _ => rfl) fun answer _ => by
    cases answer with
    | ok _ => exact ⟨trivial, trivial⟩
    | error cause => exact ⟨trivial, trivial⟩
  unmap _ := ensures_trivial (fun _ => ⟨trivial, rfl⟩) fun answer _ => by
    cases answer with
    | ok _ => exact trivial
    | error cause => exact trivial
  release _ := ensures_trivial (fun _ => ⟨trivial, rfl⟩) fun _ _ => trivial

variable {alters : σ → σ → Prop} {device : Int} {config : Config} {host host' : σ}
  {engine : Engine} {context : Context σ}

/-- Whatever the driver answers, an engine that was opened is new and has a valid configuration. -/
theorem fresh_of_opened (opened : Engine.create device config host = .ok (.ok engine) host') :
    config.validate = .ok () ∧ ∃ capacity, engine = Engine.fresh device config capacity := by
  have asked : Ensures (fun _ => True) (Host.call (.totalMemory device)) host fun _ _ => True :=
    ensures_any fun _ _ => trivial
  have created : Ensures (fun _ => True) (Engine.create device config) host _ :=
    Engine.create_spec (fun _ => True) asked (fun _ => trivial) fun _ _ => trivial
  exact (created.of_ok opened).2

/-- No run changes the configuration, nor what the account is measured against. -/
theorem limits_of_run {admits : Context σ → Operation → Context σ → Prop} {start : Context σ}
    (run : Run alters admits start context) :
    context.engine.config = start.engine.config ∧
      start.engine.budget.SameLimits context.engine.budget := by
  refine run.preserves (fun context => context.engine.config = start.engine.config ∧
    start.engine.budget.SameLimits context.engine.budget) (fun kept _ => kept)
    (fun {context after operation outcome} kept ran _ => ?_) ⟨rfl, .refl _⟩
  have actions := (operation.run_only context).ensures.of_ok ran
  exact ⟨actions.config.trans kept.1, kept.2.trans actions.limits⟩

/-- A context is sound as soon as it is open. -/
theorem sound_of_opened (opened : Engine.create device config host = .ok (.ok engine) host') :
    Sound (Ledger.unknown σ) ⟨engine, host'⟩ := by
  obtain ⟨valid, capacity, rfl⟩ := fresh_of_opened opened
  exact sound_fresh valid trivial trivial

/-- Nothing is known of a host, so any other can take its place. -/
theorem Sound.on_host (sound : Sound (Ledger.unknown σ) context) (host : σ) :
    Sound (Ledger.unknown σ) { context with host } :=
  ⟨sound.vbars, sound.buffers, sound.valid, sound.allowed, trivial, sound.books.accounted⟩

/-- A context stays sound through every run. -/
theorem sound_of_run {admits : Context σ → Operation → Context σ → Prop} {start : Context σ}
    (run : Run alters admits start context) (sound : Sound (Ledger.unknown σ) start) :
    Sound (Ledger.unknown σ) context := by
  refine run.preserves (Sound (Ledger.unknown σ)) (fun {context host} sound _ => ?_)
    (fun {context after operation outcome} sound ran _ => ?_) sound
  · exact sound.on_host host
  · exact ((operation.run_spec sound rfl fun _ => trivial).of_ok ran).sound

/-! ## Page maps -/

/-- After every run each page map agrees with itself, and whatever comes next aborts for no cause
but a sum that is no word: no check of a page map fails, no page is looked up beyond the end, and no
count falls below zero. -/
theorem page_maps_consistent (opened : Engine.create device config host = .ok (.ok engine) host')
    (run : Run alters anyOperation ⟨engine, host'⟩ context) :
    (∀ (handle : Handle) (vbar : Vbar), context.engine.vbars.get? handle = some vbar →
      vbar.residentCount = vbar.pages.countP Page.isResident ∧
      vbar.watermarkLimit ≤ vbar.watermark ∧ vbar.watermark ≤ vbar.nrPages ∧
      (∀ (index : Nat) (page : Page), vbar.pages[index]? = some page → page.pinned = true →
        page.isResident = true) ∧
      ∀ (index : Nat) (page : Page), vbar.pages[index]? = some page → vbar.watermark ≤ index →
        page.isResident = true → page.pinned = true) ∧
    (∀ (operation : Operation) (cause : Abort) (after : Context σ),
      operation.run context = .error cause after → cause = .overflow) ∧
    ∀ (cause : Abort) (after : Context σ),
      Engine.close context = .error cause after → cause = .overflow := by
  have sound := sound_of_run run (sound_of_opened opened)
  refine ⟨fun handle vbar live => ?_, fun operation cause after ran => ?_,
    fun cause after ran => ?_⟩
  · obtain ⟨counted, laws⟩ := Vbar.consistent_iff.mp (sound.vbars.consistent live)
    exact ⟨counted.symm, laws⟩
  · exact (operation.run_spec sound rfl fun _ => trivial).of_error ran
  · exact (Engine.close_spec sound rfl).of_error ran

/-- A device of two bytes, on which the first page of a VBAR is pinned. -/
theorem page_maps_consistent_pinned :
    ∃ (context : Context Bench) (vbar : Vbar),
      context.engine.vbars.get? ⟨0, 0⟩ = some vbar ∧ vbar.countPinned = 1 ∧
      vbar.residentCount = vbar.pages.countP Page.isResident := by
  have reached : reaches 0 .bytewise { device := { capacity := 2 } : Bench } anyOperation
      [.allocateVbar 2 0, .fault ⟨0, 0⟩ 0 1]
      (fun after => (after.engine.vbars.get? ⟨0, 0⟩).map Vbar.countPinned = some 1) = true := by
    decide +kernel
  obtain ⟨engine, host, context, opened, run, passed⟩ :=
    exists_run_of_reaches (fun _ _ => False) reached
  obtain ⟨vbar, live, pinned⟩ := Option.map_eq_some_iff.mp (of_decide_eq_true passed)
  exact ⟨context, vbar, live, pinned, ((page_maps_consistent opened run).1 _ _ live).1⟩

/-! ## Protected pages -/

/-- The page has the same memory under the same serial, and something more holds of it and of the
VBAR it belongs to. -/
def KeepsPage (engine : Engine) (handle : Handle) (index : Nat) (page : Page)
    (more : Vbar → Page → Prop) : Prop :=
  ∃ vbar page', engine.vbars.get? handle = some vbar ∧ vbar.pages[index]? = some page' ∧
    page'.backing = page.backing ∧ page'.serial = page.serial ∧ more vbar page'

variable {handle : Handle} {vbar : Vbar} {index : Nat} {page : Page}

theorem KeepsPage.mono {more less : Vbar → Page → Prop}
    (kept : KeepsPage engine handle index page more)
    (weaker : ∀ vbar page, more vbar page → less vbar page) :
    KeepsPage engine handle index page less := by
  obtain ⟨vbar, page', live, found, backing, serial, holds⟩ := kept
  exact ⟨vbar, page', live, found, backing, serial, weaker _ _ holds⟩

/-- What one operation leaves of a page that it may neither free nor unpin, or that lies below the
limit. -/
theorem Operation.Respected.keepsPage {ledger : Ledger σ} {operation : Operation}
    {after : Context σ} (respected : operation.Respected ledger context after)
    (live : context.engine.vbars.get? handle = some vbar) (found : vbar.pages[index]? = some page)
    (resident : page.isResident = true) (notFreed : ¬ operation.frees handle)
    (guarded : page.pinned = true ∧
        ¬ operation.unpins context.engine.config.vbarPageSize handle index ∨
      index < vbar.watermarkLimit) :
    KeepsPage after.engine handle index page (fun vbar' page' =>
      (page.pinned = true → ¬ operation.unpins context.engine.config.vbarPageSize handle index →
        page'.pinned = true) ∧
      (¬ operation.relimits handle → vbar'.watermarkLimit = vbar.watermarkLimit)) := by
  obtain ⟨left, remains, outlives⟩ := respected.outlive handle vbar live notFreed
  obtain ⟨page', found', backing, serial, pinned⟩ := outlives.keeps found resident guarded
  exact ⟨left, page', remains, found', backing, serial, pinned, outlives.limit⟩

/-- A page that has the memory of a resident one is resident. -/
theorem isResident_of_backing {page page' : Page} (backing : page'.backing = page.backing)
    (resident : page.isResident = true) : page'.isResident = true := by
  unfold Page.isResident at resident ⊢
  rwa [backing]

/-- A run keeps what each admitted operation keeps of the engine. -/
theorem Run.keeps {admits : Context σ → Operation → Context σ → Prop} {start : Context σ}
    (kept : Engine → Prop) (run : Run alters admits start context)
    (sound : Sound (Ledger.unknown σ) start)
    (step : ∀ {before after : Context σ} {operation : Operation}, Sound (Ledger.unknown σ) before →
      operation.Respected (Ledger.unknown σ) before after → admits before operation after →
        kept before.engine → kept after.engine)
    (holds : kept start.engine) : kept context.engine := by
  induction run with
  | start => exact holds
  | alter _ _ ih => exact ih
  | perform earlier ran admitted ih =>
    have sound' := sound_of_run earlier sound
    have respected := (Operation.run_spec _ sound' rfl fun _ => trivial).of_ok ran
    exact step sound' respected admitted ih

/-- The host holds the page map of every VBAR. -/
def AllHeld (engine : Engine) : Prop :=
  ∀ (handle : Handle) (vbar : Vbar), engine.vbars.get? handle = some vbar → vbar.Held

theorem Operation.Respected.allHeld {ledger : Ledger σ} {operation : Operation} {after : Context σ}
    (respected : operation.Respected ledger context after) (linked : context.engine.vbars.WellLinked)
    (held : AllHeld context.engine) : AllHeld after.engine := by
  intro handle vbar live
  have member := respected.sound.vbars.linked.mem_handles.mpr ⟨vbar, live⟩
  rcases respected.arrives handle member with old | ⟨left, live', -, held'⟩
  · have notFreed : ¬ operation.frees handle := by
      intro freed
      rw [respected.gone handle freed] at live
      cases live
    obtain ⟨own, live'⟩ := linked.mem_handles.mp old
    obtain ⟨left, remains, outlives⟩ := respected.outlive handle own live' notFreed
    rw [live] at remains
    cases remains
    unfold Vbar.Held
    rw [outlives.nrPages]
    exact held handle own live'
  · rw [live] at live'
    cases live'
    exact held'

/-- No VBAR has more pages than a host can hold. -/
theorem held_of_run (opened : Engine.create device config host = .ok (.ok engine) host')
    (run : Run alters anyOperation ⟨engine, host'⟩ context) : AllHeld context.engine := by
  have sound := sound_of_opened opened
  refine run.keeps AllHeld sound (fun sound' respected _ held => ?_) fun handle vbar live => ?_
  · exact respected.allHeld sound'.vbars.linked held
  · obtain ⟨-, capacity, rfl⟩ := fresh_of_opened opened
    cases (live : ({} : PriorityList Vbar).get? handle = some vbar)

theorem pinned_kept {after : Context σ} (sound : Sound (Ledger.unknown σ) context)
    (live : context.engine.vbars.get? handle = some vbar) (found : vbar.pages[index]? = some page)
    (resident : page.isResident = true) (pinned : page.pinned = true)
    (run : Run alters (fun before operation _ => ¬ operation.frees handle ∧
      ¬ operation.unpins before.engine.config.vbarPageSize handle index) context after) :
    KeepsPage after.engine handle index page fun _ page => page.pinned = true := by
  refine run.keeps (KeepsPage · handle index page fun _ page => page.pinned = true) sound ?_
    ⟨vbar, page, live, found, rfl, rfl, pinned⟩
  rintro before after operation - respected ⟨notFreed, notUnpinned⟩
    ⟨vbar', page', live', found', backing, serial, pinned'⟩
  obtain ⟨left, page'', remains, found'', backing', serial', more, -⟩ := respected.keepsPage live'
    found' (isResident_of_backing backing resident) notFreed (.inl ⟨pinned', notUnpinned⟩)
  exact ⟨left, page'', remains, found'', backing'.trans backing, serial'.trans serial,
    more pinned' notUnpinned⟩

theorem limited_kept {after : Context σ} (sound : Sound (Ledger.unknown σ) context)
    (live : context.engine.vbars.get? handle = some vbar) (found : vbar.pages[index]? = some page)
    (resident : page.isResident = true) (below : index < vbar.watermarkLimit)
    (run : Run alters (fun _ operation _ => ¬ operation.frees handle ∧
      ¬ operation.relimits handle) context after) :
    KeepsPage after.engine handle index page fun vbar _ => index < vbar.watermarkLimit := by
  refine run.keeps (KeepsPage · handle index page fun vbar _ => index < vbar.watermarkLimit) sound
    ?_ ⟨vbar, page, live, found, rfl, rfl, below⟩
  rintro before after operation - respected ⟨notFreed, notRelimited⟩
    ⟨vbar', page', live', found', backing, serial, below'⟩
  obtain ⟨left, page'', remains, found'', backing', serial', -, limit⟩ := respected.keepsPage live'
    found' (isResident_of_backing backing resident) notFreed (.inr below')
  refine ⟨left, page'', remains, found'', backing'.trans backing, serial'.trans serial, ?_⟩
  change index < left.watermarkLimit
  rw [limit notRelimited]
  exact below'

theorem Operation.frees_iff {operation : Operation} :
    operation.frees handle ↔ operation = .freeVbar handle := by
  cases operation <;> simp [frees, eq_comm]

theorem Operation.unpins_iff {operation : Operation} {pageSize : Nat} :
    operation.unpins pageSize handle index ↔ ∃ offset size,
      operation = .unpin handle offset size ∧ Vbars.Covers pageSize offset size index := by
  cases operation with
  | unpin vbar offset size =>
    constructor
    · intro outcome
      obtain ⟨rfl, covers⟩ := outcome
      exact ⟨offset, size, rfl, covers⟩
    · intro outcome
      obtain ⟨offset', size', same, covers⟩ := outcome
      cases same
      exact ⟨rfl, covers⟩
  | _ => simp [unpins]

/-- An operation takes the memory of a page only if it frees the VBAR, or if the page lies at or
above the watermark limit and is not pinned any more. Hence a pinned page keeps its memory along
every run that does not unpin it or free its VBAR, and a page below the limit along every run that
does not change the limit or free its VBAR. -/
theorem protected_pages_kept (opened : Engine.create device config host = .ok (.ok engine) host')
    (reached : Run alters anyOperation ⟨engine, host'⟩ context)
    (live : context.engine.vbars.get? handle = some vbar) (found : vbar.pages[index]? = some page)
    (resident : page.isResident = true) :
    (∀ (operation : Operation) (outcome : Except Error Outcome) (after : Context σ),
      operation.run context = .ok outcome after →
      KeepsPage after.engine handle index page (fun _ _ => True) ∨
      operation = .freeVbar handle ∨
      vbar.watermarkLimit ≤ index ∧
        (page.pinned = false ∨ ∃ offset size, operation = .unpin handle offset size ∧
          Vbars.Covers context.engine.config.vbarPageSize offset size index)) ∧
    (page.pinned = true → ∀ after : Context σ,
      Run alters (fun before operation _ => ¬ operation.frees handle ∧
        ¬ operation.unpins before.engine.config.vbarPageSize handle index) context after →
      KeepsPage after.engine handle index page (fun _ _ => True)) ∧
    (index < vbar.watermarkLimit → ∀ after : Context σ,
      Run alters (fun _ operation _ => ¬ operation.frees handle ∧
        ¬ operation.relimits handle) context after →
      KeepsPage after.engine handle index page (fun _ _ => True)) := by
  have sound := sound_of_run reached (sound_of_opened opened)
  refine ⟨fun operation outcome after ran => ?_, fun pinned after run => ?_,
    fun below after run => ?_⟩
  · have respected := (operation.run_spec sound rfl fun _ => trivial).of_ok ran
    by_cases freed : operation.frees handle
    · exact .inr (.inl (Operation.frees_iff.mp freed))
    · by_cases guarded : page.pinned = true ∧
          ¬ operation.unpins context.engine.config.vbarPageSize handle index ∨
        index < vbar.watermarkLimit
      · refine .inl ((respected.keepsPage live found resident freed guarded).mono ?_)
        exact fun _ _ _ => trivial
      · obtain ⟨exposed, above⟩ := not_or.mp guarded
        refine .inr (.inr ⟨by omega, ?_⟩)
        by_cases pinned : page.pinned = true
        · have unpinned := Classical.not_not.mp fun kept => exposed ⟨pinned, kept⟩
          exact .inr (Operation.unpins_iff.mp unpinned)
        · exact .inl (by simpa using pinned)
  · exact (pinned_kept sound live found resident pinned run).mono fun _ _ _ => trivial
  · exact (limited_kept sound live found resident below run).mono fun _ _ _ => trivial

/-- The pinned page of a VBAR of two on a device of two bytes. -/
theorem protected_pages_kept_pinned :
    ∃ (context : Context Bench) (vbar : Vbar) (page : Page),
      context.engine.vbars.get? ⟨0, 0⟩ = some vbar ∧ vbar.pages[0]? = some page ∧
      page.backing = some ⟨1⟩ ∧ ∀ after : Context Bench,
        Run (fun _ _ => False) (fun before operation _ => ¬ operation.frees ⟨0, 0⟩ ∧
          ¬ operation.unpins before.engine.config.vbarPageSize ⟨0, 0⟩ 0) context after →
        KeepsPage after.engine ⟨0, 0⟩ 0 page (fun _ _ => True) := by
  have reached : reaches 0 .bytewise { device := { capacity := 2 } : Bench } anyOperation
      [.allocateVbar 2 0, .fault ⟨0, 0⟩ 0 1]
      (fun after => (after.engine.vbars.get? ⟨0, 0⟩).bind (fun vbar => vbar.pages[0]?) =
        some ⟨some ⟨1⟩, true, 1⟩) = true := by
    decide +kernel
  obtain ⟨engine, host, context, opened, run, passed⟩ :=
    exists_run_of_reaches (fun _ _ => False) reached
  obtain ⟨vbar, live, found⟩ := Option.bind_eq_some_iff.mp (of_decide_eq_true passed)
  refine ⟨context, vbar, _, live, found, rfl, ?_⟩
  exact (protected_pages_kept opened run live found rfl).2.1 rfl

end VramOvercommit
