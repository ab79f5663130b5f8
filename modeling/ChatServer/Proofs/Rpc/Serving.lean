import ChatServer.Proofs.Live.Bystanders
import ChatServer.Proofs.Rpc.Operation

/-! The service from one state to the next, whoever it serves: the steps of a run without its record
of callers and of what they are shown. All connections are then those of sessions, so that a message
for an identity is offered to the live streams of the identity and to nothing else.
-/

namespace ChatServer

namespace Live

variable {σ : Type} {services : Services σ} {elsewhere : σ → σ → Prop}

-----------------------------------------------------------------------------------------
-- Live streams
-----------------------------------------------------------------------------------------

/-- No connection leads to a session that is marked as evicted. -/
def World.CutsMarked (world : World σ) : Prop :=
  ∀ number session, world.sessions.get? number = some session →
    world.endpoints.isEvicted number = true → world.IsUnconnected number

theorem World.CutsMarked.start (backend : σ) (now : Instant)
    : ({ backend, now } : World σ).CutsMarked :=
  fun _ _ found => by cases found

/-- Every step keeps marked sessions without connections: a mark comes with the failed delivery that
takes the connection away.
-/
theorem Occurs.cutsMarked {world next : World σ} {event : Event} (h : Tidy world)
    (cuts : world.CutsMarked) (occurs : Occurs services elsewhere world event next)
    : next.CutsMarked := by
  intro number session found marked
  rcases occurs.opened_or_kept h found with
    ⟨identity, capacity, reports, rfl, rfl⟩ | ⟨old, there, _⟩
  · -- The mailbox of a new session is not marked.
    have unmarked : (world.openSession world.freshNumber identity capacity
        reports).endpoints.isEvicted world.freshNumber = false := by
      refine (Endpoints.isEvicted_set _ _ _ _).trans ?_
      rw [if_pos rfl]
    cases unmarked.symm.trans marked
  · rcases occurs.marked h there marked with before | ⟨_, _, _, fails⟩
    · exact occurs.unconnected h there (cuts number old there before)
    · exact fails.unconnected h occurs there

/-- The stream of a session is live: the session runs and is not evicted. -/
def World.IsStreaming (world : World σ) (number : Nat) (session : Session) : Prop :=
  session.isRunning = true ∧ world.endpoints.isEvicted number = false

/-- If all connections are those of sessions, a message is offered to the live streams of its
recipient and to nothing else.
-/
theorem attempted_iff {world : World σ} (tidy : Tidy world) (sound : Sound [] world)
    (cuts : world.CutsMarked) {recipient : String}
    (normal : Identity.normalize recipient = recipient) (message : Delivery) (number : Nat)
    : (∃ attempt ∈ (world.exchange.attempts endpointOps recipient message).1,
        attempt.sink = number)
      ↔ ∃ session, world.sessions.get? number = some session
          ∧ session.identity = recipient ∧ world.IsStreaming number session := by
  constructor
  · rintro ⟨attempt, tried, rfl⟩
    have held := Exchange.sink?_of_attempt tidy.coherent tried
    have among := tidy.coherent.mem_ids_iff.mpr ⟨_, _, held⟩
    rcases sound.accounted _ among with foreign | ⟨number, session, found, connection⟩
    · cases foreign
    have kept := sound.kept found
    obtain ⟨sink, identity⟩ := kept.own (connection ▸ held)
    rw [sink]
    refine ⟨session, found, ?_, ?_, ?_⟩
    · rw [← tidy.normal found, ← identity, normal]
    · by_contra ended
      exact kept.gone (Bool.eq_false_iff.mpr ended) (connection ▸ among)
    · exact Bool.eq_false_iff.mpr fun marked => cuts number session found marked _ _ (sink ▸ held)
  · rintro ⟨session, found, rfl, running, unmarked⟩
    rcases (sound.kept found).reachable running with held | marked
    · obtain ⟨attempt, tried, _, sink⟩ := Exchange.attempt_of_sink? endpointOps message held
      exact ⟨attempt, tried, sink⟩
    · cases unmarked.symm.trans marked

/-- What a client sends in, and that it sends no more, leaves connections as they are. -/
theorem Sound.feed {world : World σ} (h : Sound [] world) (number : Nat) (inbound : List Inbound)
    : Sound [] (world.feed number inbound) := by
  unfold World.feed
  split
  next session found =>
    split
    next => exact h
    next => exact h.setSession found _ rfl rfl rfl
  next => exact h

theorem Sound.endInput {world : World σ} (h : Sound [] world) (number : Nat)
    : Sound [] (world.endInput number) := by
  unfold World.endInput
  split
  next session found => exact h.setSession found _ rfl rfl rfl
  next => exact h

end Live

namespace Rpc

variable {deps : Deps Backend}

-----------------------------------------------------------------------------------------
-- Steps
-----------------------------------------------------------------------------------------

/-- A step of the service for anybody: work, the opening of a stream, or the reading of one. -/
inductive Proceeds (deps : Deps Backend) (state : State Backend) : State Backend → Prop where
  | works {later : State Backend} (works : Works deps state later) : Proceeds deps state later
  | opens {caller : Token.Caller} {later : State Backend}
    (opened : chatStream deps (some caller) state.world.freshNumber state
      = (.returned (.ok ()), later))
    : Proceeds deps state later
  | takes (number : Nat)
    : Proceeds deps state { state with world := (state.world.take number).2 }

/-- Every run is made of such steps, by induction on the run. -/
theorem Operates.proceeds (shared : deps.ShareStore) {start : State Backend} {operation : Operation}
    {receipts : List Receipt} (run : Operates deps start operation receipts)
    : Relation.ReflTransGen (Proceeds deps) start operation.state := by
  induction run with
  | starts => exact .refl
  | works _ works ih => exact ih.tail (.works works)
  | @passes operation _ state path authorization _ _ passed ih =>
      have guarded : Works deps operation.state
          (throughGuard deps path authorization operation.state).2 :=
        .guards path authorization
      rw [passed] at guarded
      exact ih.tail (.works guarded)
  | lists _ _ requested ih =>
      rw [listChats_eq shared]
      exact ih
  | looksBack _ _ partner ih =>
      rw [getHistory_eq shared]
      exact ih
  | opens _ _ opened ih => exact ih.tail (.opens opened)
  | takes _ _ ih => exact ih.tail (.takes _)

theorem Proceeds.moves (shared : deps.ShareStore) {state later : State Backend}
    (proceeds : Proceeds deps state later)
    : Moves deps state.world later.world := by
  cases proceeds with
  | works works => exact works.moves shared.accounts
  | opens opened => exact (chatStream_opens opened).1
  | takes number => exact .occurs (.took number) fun _ _ same => by cases same

-----------------------------------------------------------------------------------------
-- What all steps keep
-----------------------------------------------------------------------------------------

/-- No step of the service gives a connection to anything but a session. -/
theorem Proceeds.sound (shared : deps.ShareStore) {state later : State Backend}
    (proceeds : Proceeds deps state later) (h : Live.Sound [] state.world)
    : Live.Sound [] later.world := by
  have counted {later : State Backend} (counted : Counted state later)
      : Live.Sound [] later.world := by
    obtain ⟨metrics, same⟩ := counted
    rw [same]
    exact h.calm ⟨rfl, rfl, .refl _, fun _ => rfl⟩
  have used {later : State Backend} {backend : Backend} {now : Instant}
      (same : later.world = { state.world with backend, now })
      : Live.Sound [] later.world := by
    rw [same]
    exact h.calm ⟨rfl, rfl, .refl _, fun _ => rfl⟩
  cases proceeds with
  | takes number => exact h.calm (state.world.calm_take number)
  | @opens caller _ opened =>
      rw [chatStream_eq] at opened
      split at opened
      next =>
        cases opened
        exact h.opened caller.identity deps.streamBuffer true
      next => cases opened
  | works works =>
      cases works with
      | admits email peer => exact counted (counted_admission email peer state)
      | hashes password => exact counted (counted_hashPassword deps password state)
      | creates email hash now =>
          rw [shared.accounts, Call.snd_use]
          exact used rfl
      | finds email =>
          rw [shared.accounts, Call.snd_use]
          exact used rfl
      | issues user => exact counted (counted_issueFor deps user state)
      | guards path authorization =>
          exact counted (counted_throughGuard deps path authorization state)
      | waits now ticks => exact used rfl
      | sweeps => exact h.calm ⟨rfl, rfl, .refl _, fun _ => rfl⟩
      | turns taken => exact h.turn taken
      | feeds number inbound => exact h.feed number inbound
      | endsInput number => exact h.endInput number
      | closes number => exact h.calm (.updateChannel _ number Live.Channel.close)

/-- A world that the service can come to: sessions are discreet, all connections are theirs, and
those that are marked have none.
-/
structure IsServed (world : Live.World Backend) : Prop where
  discreet : Live.Discreet Backend.store world
  sound : Live.Sound [] world
  cuts : world.CutsMarked

theorem IsServed.start (config : Config) (ids : IdSource) (now : Instant)
    : IsServed (State.ofConfig config ids now).world :=
  ⟨.start _ now, .fresh _ now, .start _ now⟩

theorem IsServed.step (shared : deps.ShareStore) {state later : State Backend}
    (h : IsServed state.world) (proceeds : Proceeds deps state later)
    : IsServed later.world where
  discreet := (proceeds.moves shared).discreet shared h.discreet
  sound := proceeds.sound shared h.sound
  cuts := by
    have moves := proceeds.moves shared
    generalize later.world = next at moves
    cases moves with
    | counts metrics => exact h.cuts
    | occurs occurs _ => exact occurs.cutsMarked h.discreet.tidy h.cuts

/-- So is every world later on, by induction on the steps. -/
theorem IsServed.later (shared : deps.ShareStore) {state later : State Backend}
    (h : IsServed state.world) (goesOn : Relation.ReflTransGen (Proceeds deps) state later)
    : IsServed later.world := by
  induction goesOn with
  | refl => exact h
  | tail _ proceeds ih => exact ih.step shared proceeds

/-- An account stays as it was made, by induction on the steps. -/
theorem IsServed.keeps_user (shared : deps.ShareStore) {state later : State Backend}
    (h : IsServed state.world) (goesOn : Relation.ReflTransGen (Proceeds deps) state later)
    {identity : String} {user : User}
    (found : state.world.backend.store.users.get? identity = some user)
    : later.world.backend.store.users.get? identity = some user := by
  induction goesOn with
  | refl => exact found
  | tail before proceeds ih =>
      have tidy := (h.later shared before).discreet.tidy
      exact ((proceeds.moves shared).used shared tidy).keeps_user ih

end Rpc

end ChatServer
