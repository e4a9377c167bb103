import VramOvercommit.Engine.Lifecycle
import VramOvercommit.Proofs.Run
import VramOvercommit.Proofs.Simulation.Facade

set_option autoImplicit false

/-!
The shortage that is found after any history. Commits, releases and estimates are written down one
after the other, each with what the host said meanwhile. What an estimate has to be follows from what
was written down before, in numbers without bound; the account keeps just enough of the past to
find it.
-/

namespace VramOvercommit.Accounting

open EngineM

/-! ## What a host says -/

/-- An answer to a question that an estimate asks. -/
inductive Saying where
  /-- The memory of the device, unless the driver refuses to tell. -/
  | memory (info : Option MemoryInfo)
  | time (now : Nat)
  | platform (reading : Option PlatformBudget)
  deriving DecidableEq, Repr

/-- What the answer to a driver call says. -/
def quote : (call : DriverCall) → Except DriverError call.Answer → List Saying
  | .memoryInfo, answer => [.memory answer.toOption]
  | _, _ => []

/-- A host of which every answer is written down. -/
structure Quoted (σ : Type) where
  host : σ
  /-- What was said since the last request was done, in order. -/
  said : List Saying := []

namespace Quoted

variable {σ : Type} [Host σ]

/-- Asks the host behind and writes its answer down. -/
def ask {α : Type} (say : α → Saying) (question : StateM σ α) : StateM (Quoted σ) α :=
  fun quoted =>
    ((question quoted.host).1,
      { host := (question quoted.host).2, said := quoted.said ++ [say (question quoted.host).1] })

/-- The end of a call of the host behind, with the answer written down. -/
def heard (quoted : Quoted σ) (c : DriverCall) :
    EStateM.Result Overflow σ (Except DriverError c.Answer) →
      EStateM.Result Overflow (Quoted σ) (Except DriverError c.Answer)
  | .ok answer host => .ok answer { host, said := quoted.said ++ quote c answer }
  | .error overflow host => .error overflow { quoted with host }

instance : Host (Quoted σ) where
  call c := fun quoted => quoted.heard c (Host.call c quoted.host)
  deviceName device := fun quoted =>
    ((Host.deviceName device quoted.host).1,
      { quoted with host := (Host.deviceName device quoted.host).2 })
  clock := ask .time Host.clock
  platformBudget := ask .platform Host.platformBudget
  allocates table count := fun quoted =>
    ((Host.allocates table count quoted.host).1,
      { quoted with host := (Host.allocates table count quoted.host).2 })
  log notice := fun quoted => { quoted with host := Host.log notice quoted.host }
  limitLog limit := fun quoted => { quoted with host := Host.limitLog limit quoted.host }

/-- Takes what was said, and starts over. -/
def collect : HostM (Quoted σ) (List Saying) := fun quoted =>
  .ok quoted.said { quoted with said := [] }

end Quoted

/-! ## Histories -/

/-- A change of the account, or a question how much memory falls short. -/
inductive Request where
  | commit (size : Nat)
  | release (size : Nat)
  | deficit (device : Int) (extra : Nat)
  deriving DecidableEq, Repr

/-- A request that was carried out. -/
structure Entry where
  request : Request
  said : List Saying
  /-- The shortage that was found, if it was asked for. -/
  found : Option Nat
  deriving DecidableEq, Repr

section Requests

variable {σ : Type} [Host σ]

def Request.run : Request → EngineM σ (Option Nat)
  | .commit size => do
      Memory.recordCommit size
      return none
  | .release size => do
      Memory.recordRelease size
      return none
  | .deficit device extra => return some (← Memory.deficit device extra)

/-- Carries a request out and writes down what came of it. -/
def Request.note (request : Request) : EngineM (Quoted σ) Entry := do
  let found ← request.run
  let said ← onHost Quoted.collect
  return { request, said, found }

/-- Carries requests out, after those of the past. The latest entry comes first. -/
def record : (past : List Entry) → List Request → EngineM (Quoted σ) (List Entry)
  | past, [] => return past
  | past, request :: rest => do record ((← request.note) :: past) rest

end Requests

/-- By how much a request changes what is committed. -/
def Request.change : Request → Int
  | .commit size => size
  | .release size => -size
  | .deficit _ _ => 0

/-- The sum of all commits less the sum of all releases. -/
def committed (past : List Entry) : Int :=
  past.foldr (fun entry total => total + entry.request.change) 0

/-- No release exceeds what is committed, and what is committed stays a word. -/
def Admissible : (usage : Int) → List Request → Prop
  | _, [] => True
  | usage, request :: rest =>
      (0 ≤ usage + request.change ∧ usage + request.change < wordLimit) ∧
        Admissible (usage + request.change) rest

/-- A question to the platform, answered or not. -/
structure Poll where
  time : Nat
  reading : Option PlatformBudget
  /-- What was committed at that time. -/
  usage : Int

def Saying.time? : Saying → Option Nat
  | .memory _ => none
  | .time now => some now
  | .platform _ => none

def Saying.reading? : Saying → Option (Option PlatformBudget)
  | .memory _ => none
  | .time _ => none
  | .platform reading => some reading

/-- The last time that the platform was asked. -/
def lastPoll : List Entry → Option Poll
  | [] => none
  | entry :: past =>
      ((entry.said.findSome? Saying.time?).bind fun now =>
        (entry.said.findSome? Saying.reading?).map fun reading =>
          ⟨now, reading, committed past⟩).or (lastPoll past)

/-- The platform was never asked, or an interval has passed since. -/
def Due (interval : Nat) (past : List Entry) (now : Nat) : Prop :=
  ∀ poll ∈ lastPoll past, interval ≤ now - poll.time

/-! ## Shortages -/

/-- By how much the free memory that the driver tells of falls short. -/
def driverShortages (config : Config) (extra : Nat) : Option MemoryInfo → List Int
  | none => []
  | some info => [config.vramHeadroom + extra - info.free]

/-- By how much the budget of the platform falls short, if the last poll was answered. What was
committed since the poll is not in its reading. -/
def platformShortages (config : Config) (usage : Int) (extra : Nat) : Option Poll → List Int
  | some ⟨_, some reading, before⟩ =>
      [reading.currentUsage + (usage - before) + extra + config.platformHeadroom - reading.budget]
  | _ => []

/-- The shortages by all sources that are known. -/
def shortages (config : Config) (capacity : Nat) (usage : Int) (extra : Nat)
    (info : Option MemoryInfo) (poll : Option Poll) : List Int :=
  (usage + extra + config.vramHeadroom - capacity) ::
    (driverShortages config extra info ++ platformShortages config usage extra poll)

/-- The greatest of the amounts that is positive, or zero; a word at most. -/
def worst (amounts : List Int) : Int := min (wordLimit - 1) (amounts.foldr max 0)

/-- The histories of an account in which every shortage is the worst of all sources, and the platform
was asked once by each estimate that was due and by no other. -/
inductive Exact (config : Config) (capacity : Nat) : List Entry → Prop where
  | start : Exact config capacity []
  | commit {past : List Entry} (earlier : Exact config capacity past) (size : Nat) :
      Exact config capacity (⟨.commit size, [], none⟩ :: past)
  | release {past : List Entry} (earlier : Exact config capacity past) (size : Nat) :
      Exact config capacity (⟨.release size, [], none⟩ :: past)
  | due {past : List Entry} {device : Int} {extra now bytes : Nat} {info : Option MemoryInfo}
      {reading : Option PlatformBudget} (earlier : Exact config capacity past)
      (due : Due config.budgetPollInterval past now)
      (exact : bytes = worst (shortages config capacity (committed past) extra info
        (some ⟨now, reading, committed past⟩))) :
      Exact config capacity
        (⟨.deficit device extra, [.memory info, .time now, .platform reading], some bytes⟩ :: past)
  | undue {past : List Entry} {device : Int} {extra now bytes : Nat} {info : Option MemoryInfo}
      (earlier : Exact config capacity past) (undue : ¬ Due config.budgetPollInterval past now)
      (exact : bytes = worst (shortages config capacity (committed past) extra info
        (lastPoll past))) :
      Exact config capacity
        (⟨.deficit device extra, [.memory info, .time now], some bytes⟩ :: past)

/-! ## What the account remembers -/

/-- What the account keeps of a history: what is committed, and the last poll with its reading. -/
structure Remembers (config : Config) (capacity : Nat) (past : List Entry) (budget : Budget) :
    Prop where
  capacity : budget.capacity = capacity
  headroom : budget.headroom = config.vramHeadroom
  platformHeadroom : budget.platformHeadroom = config.platformHeadroom
  pollInterval : budget.pollInterval = config.budgetPollInterval
  usage : (budget.residentUsage : Int) = committed past
  small : budget.residentUsage < wordLimit
  polled : budget.lastPoll = (lastPoll past).map Poll.time
  read : budget.lastReading.map (fun reading => (reading.platform, (reading.usage : Int))) =
    (lastPoll past).bind fun poll => poll.reading.map fun platform => (platform, poll.usage)

section Remembers

variable {config : Config} {capacity : Nat} {past : List Entry} {budget : Budget}

theorem remembers_fresh (device : Int) (config : Config) (capacity : Nat) :
    Remembers config capacity [] (Engine.fresh device config capacity).budget :=
  ⟨rfl, rfl, rfl, rfl, rfl, Nat.two_pow_pos 64, rfl, rfl⟩

theorem committed_cons (entry : Entry) (past : List Entry) :
    committed (entry :: past) = committed past + entry.request.change := rfl

/-- A request without an estimate changes nothing but what is committed. -/
theorem Remembers.changed (remembers : Remembers config capacity past budget) {request : Request}
    {usage : Nat} (changed : (usage : Int) = committed past + request.change)
    (small : usage < wordLimit) :
    Remembers config capacity (⟨request, [], none⟩ :: past)
      { budget with residentUsage := usage } :=
  ⟨remembers.capacity, remembers.headroom, remembers.platformHeadroom, remembers.pollInterval,
    changed.trans (committed_cons ⟨request, [], none⟩ past).symm, small, remembers.polled,
    remembers.read⟩

/-- An estimate that asks the platform. -/
theorem Remembers.poll (remembers : Remembers config capacity past budget) (device : Int)
    (extra now : Nat) (info : Option MemoryInfo) (reading : Option PlatformBudget)
    (found : Option Nat) :
    Remembers config capacity
      (⟨.deficit device extra, [.memory info, .time now, .platform reading], found⟩ :: past)
      (budget.recordPoll now reading) := by
  refine ⟨remembers.capacity, remembers.headroom, remembers.platformHeadroom,
    remembers.pollInterval, ?_, remembers.small, rfl, ?_⟩
  · rw [committed_cons]
    exact remembers.usage.trans (Int.add_zero _).symm
  · cases reading with
    | none => rfl
    | some platform => exact congrArg (fun usage => some (platform, usage)) remembers.usage

/-- An estimate that leaves the platform alone. -/
theorem Remembers.wait (remembers : Remembers config capacity past budget) (device : Int)
    (extra now : Nat) (info : Option MemoryInfo) (found : Option Nat) :
    Remembers config capacity
      (⟨.deficit device extra, [.memory info, .time now], found⟩ :: past) budget := by
  refine ⟨remembers.capacity, remembers.headroom, remembers.platformHeadroom,
    remembers.pollInterval, ?_, remembers.small, remembers.polled, remembers.read⟩
  rw [committed_cons]
  exact remembers.usage.trans (Int.add_zero _).symm

theorem Remembers.pollDue_iff (remembers : Remembers config capacity past budget) (now : Nat) :
    budget.pollDue now = true ↔ Due config.budgetPollInterval past now := by
  unfold Budget.pollDue Due
  rw [remembers.polled, remembers.pollInterval]
  cases lastPoll past with
  | none => simp
  | some poll => simp

theorem cast_saturate (amount : Int) :
    (saturate amount : Int) = min ((wordLimit : Int) - 1) (max amount 0) := by
  unfold saturate
  simp only [wordLimit]
  omega

/-- The usage of the last reading is what was committed when it was taken. -/
theorem Remembers.platformShortages_eq (remembers : Remembers config capacity past budget)
    (extra : Nat) :
    platformShortages config (committed past) extra (lastPoll past) =
      budget.lastReading.toList.map fun reading =>
        (budget.platformShortfall extra reading).bytes := by
  obtain ⟨-, -, platformHeadroom, -, usage, -, -, read⟩ := remembers
  rw [← usage]
  cases known : lastPoll past with
  | none =>
    rw [known] at read
    rw [Option.map_eq_none_iff.mp read]
    rfl
  | some poll =>
    obtain ⟨now, answer, before⟩ := poll
    rw [known] at read
    cases answer with
    | none =>
      rw [Option.map_eq_none_iff.mp read]
      rfl
    | some platform =>
      obtain ⟨⟨_, then'⟩, found, same⟩ := Option.map_eq_some_iff.mp read
      obtain ⟨rfl, rfl⟩ := Prod.mk.inj same
      rw [found]
      simp only [platformShortages, Budget.platformShortfall, Option.toList_some, List.map_cons,
        List.map_nil, List.cons.injEq, and_true]
      omega

/-- The shortage of an account is the worst of all sources. -/
theorem Remembers.deficit_eq (remembers : Remembers config capacity past budget) (extra : Nat)
    (info : Option MemoryInfo) :
    (budget.deficit extra (info.map MemoryInfo.free) : Int) =
      worst (shortages config capacity (committed past) extra info (lastPoll past)) := by
  unfold Budget.deficit worst shortages
  rw [cast_saturate, remembers.platformShortages_eq, ← remembers.usage, ← remembers.capacity]
  congr 1
  unfold Budget.shortfall driverShortages
  rw [← remembers.headroom]
  cases info <;> cases budget.lastReading <;>
    simp [Shortfall.max_bytes, Budget.accountingShortfall, Budget.driverShortfall]

end Remembers

/-! ## One request -/

section Steps

variable {σ : Type} [Host σ] {config : Config} {capacity : Nat} {past : List Entry}
  {context : Context (Quoted σ)}

/-- Between two requests nothing is said, and the account remembers the past. -/
structure Kept (config : Config) (capacity : Nat) (past : List Entry)
    (context : Context (Quoted σ)) : Prop where
  silent : context.host.said = []
  remembers : Remembers config capacity past context.engine.budget

/-- Whether a request is one that the account can take. -/
def Request.Admitted (request : Request) (usage : Int) : Prop :=
  0 ≤ usage + request.change ∧ usage + request.change < wordLimit

/-- What comes of one request: it is refused if the account cannot take it. -/
abbrev Request.Noted (request : Request) (config : Config) (capacity : Nat) (past : List Entry)
    (context : Context (Quoted σ)) : Prop :=
  Ensures (fun _ => ¬ request.Admitted (committed past)) request.note context fun entry after =>
    request.Admitted (committed past) ∧ entry.request = request ∧
      (Exact config capacity past → Exact config capacity (entry :: past)) ∧
      Kept config capacity (entry :: past) after

/-- What follows a request is writing down what was said. -/
theorem noted_of_run {request : Request} {aborts : Abort → Prop}
    {post : Entry → Context (Quoted σ) → Prop}
    (ran : Ensures aborts request.run context fun found after =>
      post ⟨request, after.host.said, found⟩
        { after with host := { after.host with said := [] } }) :
    Ensures aborts request.note context post := by
  unfold Request.note
  rw [ensures_bind]
  exact ran

/-- A request that only moves the account. -/
theorem noted_of_moved {request : Request} {step : EngineM (Quoted σ) Unit}
    (runs : request.run = (do step; return none)) (kept : Kept config capacity past context)
    (moved : Ensures (fun _ => ¬ request.Admitted (committed past)) step context fun _ after =>
      request.Admitted (committed past) ∧ after.host = context.host ∧
        after.engine.budget = { context.engine.budget with
          residentUsage := (committed past + request.change).toNat })
    (exact : Exact config capacity past → Exact config capacity (⟨request, [], none⟩ :: past)) :
    request.Noted config capacity past context := by
  apply noted_of_run
  rw [runs, ensures_bind]
  apply moved.mono
  intro _ after outcome
  obtain ⟨admitted, host, budget⟩ := outcome
  rw [ensures_pure, host, kept.silent]
  refine ⟨admitted, rfl, exact, rfl, ?_⟩
  change Remembers _ _ _ after.engine.budget
  rw [budget]
  have usage := Int.toNat_of_nonneg admitted.1
  refine kept.remembers.changed usage ?_
  have small := admitted.2
  omega

theorem commit_noted (kept : Kept config capacity past context) (size : Nat) :
    (Request.commit size).Noted config capacity past context := by
  refine noted_of_moved rfl kept ?_ (.commit · size)
  have usage := kept.remembers.usage
  unfold Memory.recordCommit Budget.recordCommit
  simp only [Request.Admitted, Request.change]
  rw [ensures_bind, ensures_engine]
  split
  · rw [ensures_bind, ensures_ensure_ok, ensures_setBudget]
    refine ⟨by omega, rfl, ?_⟩
    simp only [Budget.mk.injEq, and_true, true_and]
    omega
  · intro admitted
    omega

theorem release_noted (kept : Kept config capacity past context) (size : Nat) :
    (Request.release size).Noted config capacity past context := by
  refine noted_of_moved rfl kept ?_ (.release · size)
  have usage := kept.remembers.usage
  have small := kept.remembers.small
  unfold Memory.recordRelease Budget.recordRelease
  simp only [Request.Admitted, Request.change]
  rw [ensures_bind, ensures_engine]
  split
  · rw [ensures_bind, ensures_ensure_ok, ensures_setBudget]
    refine ⟨by omega, rfl, ?_⟩
    simp only [Budget.mk.injEq, and_true, true_and]
    omega
  · intro admitted
    omega

/-! ## One estimate -/

/-- The driver answers whenever it is asked for the memory of the device. -/
def Tells (σ : Type) [Host σ] : Prop :=
  ∀ host : σ, ∃ answer after, Host.call .memoryInfo host = .ok answer after

theorem info_noted (tells : Tells σ) (context : Context (Quoted σ)) :
    Ensures (fun _ => False) Memory.info context fun info after =>
      after.engine = context.engine ∧ after.host.said = context.host.said ++ [.memory info] := by
  obtain ⟨answer, host, told⟩ := tells context.host.host
  have heard : Host.call .memoryInfo context.host =
      context.host.heard .memoryInfo (.ok answer host) :=
    congrArg (context.host.heard .memoryInfo) told
  unfold Memory.info
  rw [ensures_bind, ensures_call]
  unfold Ensures
  rw [heard]
  cases answer with
  | ok info => exact ⟨rfl, rfl⟩
  | error cause => exact ⟨rfl, rfl⟩

/-- A poll tells the time, and asks the platform if it is due. -/
theorem poll_noted (context : Context (Quoted σ)) :
    Ensures (fun _ => False) Memory.poll context fun _ after => ∃ now,
      (context.engine.budget.pollDue now = true ∧ ∃ reading,
        after.engine.budget = context.engine.budget.recordPoll now reading ∧
        after.host.said = context.host.said ++ [.time now, .platform reading]) ∨
      (context.engine.budget.pollDue now = false ∧
        after.engine.budget = context.engine.budget ∧
        after.host.said = context.host.said ++ [.time now]) := by
  unfold Memory.poll
  rw [ensures_bind, ensures_ask, ensures_bind, ensures_engine]
  dsimp only
  split
  · rename_i due
    rw [ensures_bind, ensures_ask, ensures_setBudget]
    exact ⟨_, .inl ⟨due, _, rfl, List.append_assoc _ _ _⟩⟩
  · rename_i undue
    exact ⟨_, .inr ⟨eq_false_of_ne_true undue, rfl, rfl⟩⟩

/-- An estimate is what the account makes of the answers that it got. -/
theorem deficit_found {device : Int} {extra : Nat} {info : Option MemoryInfo}
    {context informed polled : Context σ} (asked : Memory.info context = .ok info informed)
    (read : Memory.poll informed = .ok () polled) :
    Ensures (fun _ => False) (Memory.deficit device extra) context fun bytes after =>
      bytes = polled.engine.budget.deficit extra (info.map MemoryInfo.free) ∧
        after.engine = polled.engine ∧
        (after.host = polled.host ∨ ∃ notice, after.host = Host.log notice polled.host) := by
  unfold Memory.deficit
  rw [ensures_bind_of_ok asked, ensures_bind_of_ok read, ensures_bind, ensures_engine]
  dsimp only
  split
  · rw [ensures_bind, ensures_log, ensures_pure]
    exact ⟨rfl, rfl, .inr ⟨_, rfl⟩⟩
  · exact ⟨rfl, rfl, .inl rfl⟩

theorem deficit_noted (tells : Tells σ) (kept : Kept config capacity past context) (device : Int)
    (extra : Nat) : (Request.deficit device extra).Noted config capacity past context := by
  obtain ⟨silent, remembers⟩ := kept
  obtain ⟨info, informed, asked, same, told⟩ := (info_noted tells context).exists_ok
  obtain ⟨⟨⟩, polled, read, now, polled_eq⟩ := (poll_noted informed).exists_ok
  have admitted : (Request.deficit device extra).Admitted (committed past) := by
    have usage := remembers.usage
    have small := remembers.small
    simp only [Request.Admitted, Request.change]
    omega
  rw [silent, List.nil_append] at told
  rw [same, told] at polled_eq
  apply noted_of_run
  rw [Request.run, ensures_bind]
  apply ((deficit_found asked read).weaken fun _ => False.elim).mono
  intro bytes after outcome
  obtain ⟨found, engine, host⟩ := outcome
  have said : after.host.said = polled.host.said := by
    rcases host with host | ⟨notice, host⟩
    · rw [host]
    · rw [host]
      rfl
  have exact : ∀ {past : List Entry}, Remembers config capacity past polled.engine.budget →
      (bytes : Int) =
        worst (shortages config capacity (committed past) extra info (lastPoll past)) :=
    fun remembers => found ▸ remembers.deficit_eq extra info
  rw [ensures_pure, said]
  rcases polled_eq with ⟨due, reading, budget, heard⟩ | ⟨undue, budget, heard⟩
  · rw [heard]
    have remembers' := remembers.poll device extra now info reading (some bytes)
    rw [← budget] at remembers'
    refine ⟨admitted, rfl, fun earlier => ?_, rfl, engine ▸ remembers'⟩
    refine .due earlier ((remembers.pollDue_iff now).mp due) ?_
    have worst_eq := exact remembers'
    rwa [committed_cons, Request.change, Int.add_zero] at worst_eq
  · rw [heard]
    have remembers' := remembers.wait device extra now info (some bytes)
    rw [← budget] at remembers'
    refine ⟨admitted, rfl, fun earlier => ?_, rfl, engine ▸ remembers'⟩
    refine .undue earlier (fun due => ?_) (exact (budget ▸ remembers))
    rw [(remembers.pollDue_iff now).mpr due] at undue
    cases undue

theorem Request.noted (tells : Tells σ) (kept : Kept config capacity past context)
    (request : Request) : request.Noted config capacity past context := by
  cases request with
  | commit size => exact commit_noted kept size
  | release size => exact release_noted kept size
  | deficit device extra => exact deficit_noted tells kept device extra

/-! ## All requests -/

/-- Requests are carried out one after the other, up to one that the account cannot take. -/
theorem record_noted (tells : Tells σ) (requests : List Request)
    (kept : Kept config capacity past context) :
    Ensures (fun _ => ¬ Admissible (committed past) requests) (record past requests) context
      fun history after => Admissible (committed past) requests ∧
        history.reverse.map Entry.request = past.reverse.map Entry.request ++ requests ∧
        (Exact config capacity past → Exact config capacity history) ∧
        Kept config capacity history after := by
  induction requests generalizing past context with
  | nil => exact ⟨trivial, (List.append_nil _).symm, id, kept⟩
  | cons request rest ih =>
    unfold record
    rw [ensures_bind]
    refine ((request.noted tells kept).weaken fun _ refused => ?_).mono
      fun entry middle outcome => ?_
    · exact fun admissible => refused admissible.1
    · obtain ⟨admitted, rfl, exact, kept'⟩ := outcome
      have rest := ih kept'
      rw [committed_cons] at rest
      refine (rest.weaken fun _ refused => ?_).mono fun history after outcome => ?_
      · exact fun admissible => refused admissible.2
      · obtain ⟨admissible, requests, exact', kept''⟩ := outcome
        refine ⟨⟨admitted, admissible⟩, ?_, exact' ∘ exact, kept''⟩
        rw [requests, List.reverse_cons, List.map_append, List.append_assoc]
        rfl

theorem shortfall_mono (budget : Budget) {extra more : Nat} (le : extra ≤ more)
    (free : Option Nat) :
    (budget.shortfall extra free).bytes ≤ (budget.shortfall more free).bytes := by
  unfold Budget.shortfall
  cases free <;> cases budget.lastReading <;>
    simp only [Shortfall.max_bytes, Budget.accountingShortfall, Budget.driverShortfall,
      Budget.platformShortfall] <;>
    omega

/-- To commit more leaves no smaller a shortage. -/
theorem deficit_mono (tells : Tells σ) (context : Context (Quoted σ)) (device : Int)
    {extra more : Nat} (le : extra ≤ more) :
    ∃ bytes bytes' after after', Memory.deficit device extra context = .ok bytes after ∧
      Memory.deficit device more context = .ok bytes' after' ∧ bytes ≤ bytes' := by
  obtain ⟨info, informed, asked, -⟩ := (info_noted tells context).exists_ok
  obtain ⟨⟨⟩, polled, read, -⟩ := (poll_noted informed).exists_ok
  have found : ∀ extra, ∃ after, Memory.deficit device extra context =
      .ok (polled.engine.budget.deficit extra (info.map MemoryInfo.free)) after := by
    intro extra
    obtain ⟨_, after, ran, rfl, -⟩ := (deficit_found asked read).exists_ok
    exact ⟨after, ran⟩
  obtain ⟨after, ran⟩ := found extra
  obtain ⟨after', ran'⟩ := found more
  refine ⟨_, _, after, after', ran, ran', ?_⟩
  have mono := shortfall_mono polled.engine.budget le (info.map MemoryInfo.free)
  unfold Budget.deficit saturate
  omega

/-- Requests to a new account are carried out as long as no release exceeds what is committed and
what is committed stays a word. Whatever the host said meanwhile, every estimate is then the worst
of all sources, and the platform was asked once by each estimate that was due and by no other. The
next estimate is no smaller if more is to be committed. -/
theorem estimates_exact (tells : Tells σ) (device : Int) (config : Config) (capacity : Nat)
    (host : σ) (requests : List Request) :
    ((∃ history after, record [] requests ⟨Engine.fresh device config capacity, { host }⟩ =
        .ok history after) ↔ Admissible 0 requests) ∧
    ∀ history after, record [] requests ⟨Engine.fresh device config capacity, { host }⟩ =
        .ok history after →
      history.reverse.map Entry.request = requests ∧ Exact config capacity history ∧
      ∀ (device : Int) (extra more : Nat), extra ≤ more → ∃ bytes bytes' last last',
        Memory.deficit device extra after = .ok bytes last ∧
        Memory.deficit device more after = .ok bytes' last' ∧ bytes ≤ bytes' := by
  have kept : Kept config capacity [] (⟨Engine.fresh device config capacity, { host }⟩ :
      Context (Quoted σ)) := ⟨rfl, remembers_fresh device config capacity⟩
  have noted := record_noted tells requests kept
  refine ⟨⟨fun ⟨history, after, ran⟩ => (noted.of_ok ran).1, fun admissible => ?_⟩,
    fun history after ran => ?_⟩
  · obtain ⟨history, after, ran, -⟩ :=
      (noted.weaken fun _ refused => refused admissible).exists_ok
    exact ⟨history, after, ran⟩
  · obtain ⟨-, requests, exact, -⟩ := noted.of_ok ran
    exact ⟨requests, exact .start, fun device extra more le => deficit_mono tells after device le⟩

end Steps

/-- Carries requests out from a start: whether their history passes a test. -/
def records {σ : Type} [Host σ] (requests : List Request) (start : Context (Quoted σ))
    (test : List Entry → Bool) : Bool :=
  match record [] requests start with
  | .ok history _ => test history
  | .error _ _ => false

theorem exists_of_records {σ : Type} [Host σ] {requests : List Request}
    {start : Context (Quoted σ)} {test : List Entry → Bool}
    (passed : records requests start test = true) :
    ∃ history after, record [] requests start = .ok history after ∧ test history = true := by
  unfold records at passed
  split at passed
  · rename_i history after ran
    exact ⟨history, after, ran, passed⟩
  · cases passed

/-- A host whose clock moves on, and whose platform answers the first question only. -/
def fickleHost : Simulation.Rumours where
  bench := { device := { capacity := 1024 } }
  infos asked := if asked = 3 then .error (.failed 1) else .ok ⟨999, 999⟩
  moments asked := 2 * asked
  readings asked := if asked = 2 then some ⟨400, 600⟩ else none

/-- The platform counts 300 bytes that are released before the next estimate, which comes too early
to ask again and finds 200 bytes too few. The last one asks again, and gets no answer. -/
theorem estimates_exact_between_polls :
    ∃ (history : List Entry) (after : Context (Quoted Simulation.Rumours)),
      record [] [.commit 300, .deficit 0 0, .release 300, .deficit 0 700, .deficit 0 700]
        ⟨Engine.fresh 0 { Config.bytewise with budgetPollInterval := 10 } 1024,
          { host := fickleHost }⟩ = .ok history after ∧
      history.map (fun entry => (entry.said, entry.found)) = [
        ([.memory (some ⟨999, 999⟩), .time 12, .platform none], some 0),
        ([.memory none, .time 8], some 200),
        ([], none),
        ([.memory (some ⟨999, 999⟩), .time 2, .platform (some ⟨400, 600⟩)], some 0),
        ([], none)] ∧
      Exact { Config.bytewise with budgetPollInterval := 10 } 1024 history := by
  have tells : Tells Simulation.Rumours := fun host => ⟨_, _, rfl⟩
  have recorded : records
      [.commit 300, .deficit 0 0, .release 300, .deficit 0 700, .deficit 0 700]
      ⟨Engine.fresh 0 { Config.bytewise with budgetPollInterval := 10 } 1024,
        { host := fickleHost }⟩
      (fun history => history.map (fun entry => (entry.said, entry.found)) = [
        ([.memory (some ⟨999, 999⟩), .time 12, .platform none], some 0),
        ([.memory none, .time 8], some 200),
        ([], none),
        ([.memory (some ⟨999, 999⟩), .time 2, .platform (some ⟨400, 600⟩)], some 0),
        ([], none)]) = true := by
    decide +kernel
  obtain ⟨history, after, ran, passed⟩ := exists_of_records recorded
  have exact := (estimates_exact tells 0 _ 1024 fickleHost _).2 history after ran
  exact ⟨history, after, ran, of_decide_eq_true passed, exact.2.1⟩

end VramOvercommit.Accounting
