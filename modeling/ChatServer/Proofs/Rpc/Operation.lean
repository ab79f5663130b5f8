import ChatServer.Proofs.Live.Discretion
import ChatServer.Proofs.Live.Ledger
import ChatServer.Proofs.Rpc.Calls
import ChatServer.Proofs.Rpc.Guard
import Mathlib.Logic.Relation

/-! The service in operation: any number of calls and chat streams at once. Calls interleave, so a
registration or a login is not one step but several, between which anything else may happen. What
callers are shown is recorded with the caller, and everybody who acts as a caller has come past the
guard before.
-/

namespace ChatServer.Rpc

-----------------------------------------------------------------------------------------
-- Steps
-----------------------------------------------------------------------------------------

/-- The state after the limiter has forgotten who has long been silent. -/
def State.swept {σ : Type} (state : State σ) : State σ :=
  let exchange := state.world.exchange
  let (limiter, metrics) := state.limiter.sweepCounted state.ticks exchange.metrics
  { state with limiter, world := { state.world with exchange := { exchange with metrics } } }

/-- Steps in which nobody is shown a message: those of registering and logging in, the guard with
whatever path and headers, the passing of time, the sweeper, and what sessions and clients do with a
stream other than reading from it.
-/
inductive Works (deps : Deps Backend) (state : State Backend) : State Backend → Prop where
  | admits (email : String) (peer : Option Net.Address)
    : Works deps state (admission email peer state).2
  | hashes (password : String) : Works deps state (hashPassword deps password state).2
  | creates (email hash : String) (now : Instant)
    : Works deps state
        (Call.use (deps.accounts.createUser email hash now) accountStatus state).2
  | finds (email : String)
    : Works deps state (Call.use (deps.accounts.findByEmail email) accountStatus state).2
  | issues (user : User) : Works deps state (issueFor deps user state).2
  | guards (path : String) (authorization : List (List UInt8))
    : Works deps state (throughGuard deps path authorization state).2
  | waits (now : Instant) (ticks : Nat)
    : Works deps state { state with world := { state.world with now }, ticks }
  | sweeps : Works deps state state.swept
  | turns {number : Nat} {next : Live.World Backend}
    (taken : state.world.turn deps.services number = some next)
    : Works deps state { state with world := next }
  | feeds (number : Nat) (inbound : List Live.Inbound)
    : Works deps state { state with world := state.world.feed number inbound }
  | endsInput (number : Nat)
    : Works deps state { state with world := state.world.endInput number }
  | closes (number : Nat)
    : Works deps state { state with world := state.world.closeMailbox number }

/-- What a caller is shown: a chat of a list, a message of a history, or a message of a stream. -/
inductive Row where
  | chat (summary : ChatSummary)
  | message (message : StoredMessage)
  | delivery (delivery : Delivery)
  deriving DecidableEq

/-- A row with the caller who has got it. -/
structure Receipt where
  caller : Token.Caller
  row : Row
  deriving DecidableEq

/-- The rows of an answer. An outcome that is no answer has none. -/
def receiptsOf {α : Type} (caller : Token.Caller) (row : α → Row)
    : Completion (Except Status (List α)) → List Receipt
  | .returned (.ok items) => items.map fun item => ⟨caller, row item⟩
  | _ => []

/-- The message that somebody has taken from a stream, if it was one. -/
def receiptOf (caller : Token.Caller) (item : Option Live.Item) : List Receipt :=
  ((item.bind Live.Item.message?).map fun delivery => ⟨caller, .delivery delivery⟩).toList

/-- The service in operation: its state, the callers who have come past the guard, and the streams
with their callers.
-/
structure Operation where
  state : State Backend
  callers : List Token.Caller := []
  streams : List (Nat × Token.Caller) := []

/-- The runs of the service from a state, with everything that callers have been shown in them. A
caller who has come past the guard may make any call at any later time, and reads from the streams
that it has opened.
-/
inductive Operates (deps : Deps Backend) (start : State Backend)
    : Operation → List Receipt → Prop where
  | starts : Operates deps start { state := start } []
  | works {operation : Operation} {receipts : List Receipt} {state : State Backend}
    (run : Operates deps start operation receipts) (works : Works deps operation.state state)
    : Operates deps start { operation with state } receipts
  | passes {operation : Operation} {receipts : List Receipt} {state : State Backend}
    {path : String} {authorization : List (List UInt8)} {caller : Token.Caller}
    (run : Operates deps start operation receipts)
    (passed : throughGuard deps path authorization operation.state
      = (.returned (.ok (some caller)), state))
    : Operates deps start { operation with state, callers := caller :: operation.callers } receipts
  | lists {operation : Operation} {receipts : List Receipt} {caller : Token.Caller}
    (run : Operates deps start operation receipts) (known : caller ∈ operation.callers)
    (requested : Nat)
    : Operates deps start
        { operation with state := (listChats deps (some caller) requested operation.state).2 }
        (receipts ++ receiptsOf caller .chat
          (listChats deps (some caller) requested operation.state).1)
  | looksBack {operation : Operation} {receipts : List Receipt} {caller : Token.Caller}
    (run : Operates deps start operation receipts) (known : caller ∈ operation.callers)
    (partner : String)
    : Operates deps start
        { operation with state := (getHistory deps (some caller) partner operation.state).2 }
        (receipts ++ receiptsOf caller .message
          (getHistory deps (some caller) partner operation.state).1)
  | opens {operation : Operation} {receipts : List Receipt} {caller : Token.Caller}
    {state : State Backend} (run : Operates deps start operation receipts)
    (known : caller ∈ operation.callers)
    (opened : chatStream deps (some caller) operation.state.world.freshNumber operation.state
      = (.returned (.ok ()), state))
    : Operates deps start
        { operation with
          state
          streams := (operation.state.world.freshNumber, caller) :: operation.streams }
        receipts
  | takes {operation : Operation} {receipts : List Receipt} {number : Nat} {caller : Token.Caller}
    (run : Operates deps start operation receipts) (own : (number, caller) ∈ operation.streams)
    : Operates deps start
        { operation with
          state := { operation.state with world := (operation.state.world.take number).2 } }
        (receipts ++ receiptOf caller (operation.state.world.take number).1)

variable {deps : Deps Backend}

-----------------------------------------------------------------------------------------
-- Whole calls
-----------------------------------------------------------------------------------------

/-- A call does nothing but steps of the service. -/
def Call.IsWork {α : Type} (deps : Deps Backend) (call : Call Backend α) : Prop :=
  ∀ state, Relation.ReflTransGen (Works deps) state (call state).2

namespace Call

variable {α β : Type}

theorem IsWork.of_step {call : Call Backend α} (step : ∀ state, Works deps state (call state).2)
    : call.IsWork deps :=
  fun state => .single (step state)

theorem IsWork.of_same {call : Call Backend α} (same : ∀ state, (call state).2 = state)
    : call.IsWork deps := by
  intro state
  rw [same]

theorem IsWork.bind {call : Call Backend α} {next : α → Call Backend β}
    (first : call.IsWork deps) (rest : ∀ value, (next value).IsWork deps)
    : (call >>= next).IsWork deps := by
  intro state
  rcases bind_cases call next state with ⟨_, _, left⟩ | ⟨value, middle, came, goesOn⟩
  · rw [left]
    exact first state
  · have reached := first state
    rw [came] at reached
    rw [goesOn]
    exact reached.trans (rest value middle)

end Call

/-- Registering is made of steps of the service. -/
theorem register_isWork (credentials : Credentials) (peer : Option Net.Address)
    : (register deps credentials peer).IsWork deps := by
  refine .bind (.of_step fun _ => .admits credentials.email peer) fun _ => ?_
  refine .bind (.of_same (Call.snd_orFail _)) fun identity => ?_
  refine .bind (.of_step fun _ => .hashes credentials.password) fun hash => ?_
  refine .bind (.of_same fun _ => rfl) fun state => ?_
  refine .bind (.of_step fun _ => .creates identity hash state.world.now) fun user => ?_
  exact .of_step fun _ => .issues user

/-- A run goes on with any call that is made of steps of the service. -/
theorem Operates.call {α : Type} {start : State Backend} {operation : Operation}
    {receipts : List Receipt} (run : Operates deps start operation receipts)
    {call : Call Backend α} (work : call.IsWork deps)
    : Operates deps start { operation with state := (call operation.state).2 } receipts := by
  have along {state : State Backend}
      (reached : Relation.ReflTransGen (Works deps) operation.state state)
      : Operates deps start { operation with state } receipts := by
    induction reached with
    | refl => exact run
    | tail _ step ih => exact ih.works step
  exact along (work operation.state)

/-- A run goes on with the holder of a token that the broker verifies coming past the guard. -/
theorem Operates.passes_of_verified {start : State Backend} {operation : Operation}
    {receipts : List Receipt} (run : Operates deps start operation receipts) {path : String}
    (closed : isPublic path = false) {now : Int}
    (clock : operation.state.world.now.seconds = now) {key : SigningKey}
    {written : Token.TokenClaims} {claims : Token.Claims}
    (verified : deps.broker.verify now (Token.Broker.encode key written) = .ok claims)
    : Operates deps start
        { operation with
          state := { operation.state with
            world := operation.state.world.updateMetrics
              (·.increment (.tokenVerifications .success)) }
          callers := claims.caller :: operation.callers }
        receipts :=
  run.passes (throughGuard_of_verified closed (clock ▸ verified) [])

/-- A run goes on with turns of sessions, by induction on them. A session that waits is left out. -/
theorem Operates.turns {start : State Backend} {operation : Operation} {receipts : List Receipt}
    (run : Operates deps start operation receipts) (numbers : List Nat)
    : Operates deps start
        { operation with
          state := { operation.state with
            world := operation.state.world.afterTurns deps.services numbers } }
        receipts := by
  induction numbers generalizing operation with
  | nil => exact run
  | cons number rest ih =>
      rw [Live.World.afterTurns]
      cases taken : operation.state.world.turn deps.services number with
      | none => exact ih run
      | some next => exact ih (run.works (.turns taken))

-----------------------------------------------------------------------------------------
-- What a step does to the world
-----------------------------------------------------------------------------------------

/-- The rest of the service uses the store as a store is used. -/
def Uses (before after : Backend) : Prop :=
  before.store.Used after.store

/-- A world after a step of the service: nothing but what is counted has changed, or one of the
steps of sessions and clients has happened, and nobody but a session has sent a message.
-/
inductive Moves (deps : Deps Backend) (world : Live.World Backend) : Live.World Backend → Prop where
  | counts (metrics : Metrics) : Moves deps world (world.updateMetrics fun _ => metrics)
  | occurs {event : Live.Event} {next : Live.World Backend}
    (occurs : Live.Occurs deps.services Uses world event next)
    (nobody : ∀ recipient message, event ≠ .sent recipient message)
    : Moves deps world next

theorem Moves.of_counted {state later : State Backend} (counted : Counted state later)
    : Moves deps state.world later.world := by
  obtain ⟨metrics, same⟩ := counted
  rw [same]
  exact .counts metrics

/-- What the rest of the service does to the store. -/
theorem Moves.of_used {world : Live.World Backend} {backend : Backend}
    (used : world.backend.store.Used backend.store) (now : Instant)
    : Moves deps world { world with backend, now } :=
  .occurs (.elsewhere (show Uses world.backend backend from used) now)
    fun _ _ same => Live.Event.noConfusion same

/-- What a client sends in comes in for its session, or nowhere. -/
theorem Moves.feed (world : Live.World Backend) (number : Nat) (inbound : List Live.Inbound)
    : Moves deps world (world.feed number inbound) := by
  have nothing : Moves deps world world := .counts world.exchange.metrics
  cases found : world.sessions.get? number with
  | none =>
      rw [Live.World.feed, found]
      exact nothing
  | some session =>
      cases goesOn : session.inputEnded with
      | true =>
          simp only [Live.World.feed, found, goesOn, if_true]
          exact nothing
      | false => exact .occurs (.fed found goesOn inbound) fun _ _ same => by cases same

/-- Every step moves the world, by cases on the step. -/
theorem Works.moves (memory : deps.accounts = .memory) {state later : State Backend}
    (works : Works deps state later)
    : Moves deps state.world later.world := by
  cases works with
  | admits email peer => exact .of_counted (counted_admission email peer state)
  | hashes password => exact .of_counted (counted_hashPassword deps password state)
  | creates email hash now =>
      rw [memory, Call.snd_use]
      exact .of_used (.created email hash now) state.world.now
  | finds email =>
      rw [memory, Call.snd_use]
      exact .of_used .looked state.world.now
  | issues user => exact .of_counted (counted_issueFor deps user state)
  | guards path authorization =>
      exact .of_counted (counted_throughGuard deps path authorization state)
  | waits now ticks => exact .of_used .looked now
  | sweeps => exact .counts _
  | turns taken => exact .occurs (.turn taken) fun _ _ same => by cases same
  | feeds number inbound => exact .feed state.world number inbound
  | endsInput number => exact .occurs (.inputEnded number) fun _ _ same => by cases same
  | closes number => exact .occurs (.closed number) fun _ _ same => by cases same

-----------------------------------------------------------------------------------------
-- What all steps keep
-----------------------------------------------------------------------------------------

/-- One store in memory keeps the accounts and the messages, and answers for the conversations. -/
structure Deps.ShareStore (deps : Deps Backend) : Prop where
  accounts : deps.accounts = .memory
  conversations : deps.conversations = .memory
  services : deps.services = ⟨.memory, .memory⟩

theorem Deps.shareStore_of_ofConfig {config : Config} {salt : Nat → List UInt8}
    (deployed : Deps.ofConfig config salt = .ok deps)
    : deps.ShareStore := by
  obtain ⟨_, _, rfl⟩ := Deps.ofConfig_eq_ok deployed
  exact ⟨rfl, rfl, rfl⟩

theorem Deps.ShareStore.storesIn (shared : deps.ShareStore)
    : deps.services.StoresIn Backend.store :=
  shared.services ▸ Live.storesIn_memory

section

variable {world next : Live.World Backend}

theorem Moves.tidy (tidy : Live.Tidy world) (moves : Moves deps world next) : Live.Tidy next := by
  cases moves with
  | counts metrics => exact tidy.calm ⟨rfl, rfl, .refl _, fun _ => rfl⟩
  | occurs occurs _ => exact occurs.tidy tidy

theorem Moves.used (shared : deps.ShareStore) (tidy : Live.Tidy world)
    (moves : Moves deps world next)
    : world.backend.store.Used next.backend.store := by
  cases moves with
  | counts => exact .looked
  | occurs occurs _ => exact occurs.used shared.storesIn tidy

theorem Moves.messages (shared : deps.ShareStore) (tidy : Live.Tidy world)
    (moves : Moves deps world next)
    : ∀ message ∈ world.backend.store.messages, message ∈ next.backend.store.messages :=
  (moves.used shared tidy).grows

theorem Moves.keeps (tidy : Live.Tidy world) (moves : Moves deps world next) {number : Nat}
    {session : Live.Session} (found : world.sessions.get? number = some session)
    : ∃ later, next.sessions.get? number = some later ∧ later.identity = session.identity := by
  cases moves with
  | counts => exact ⟨session, found, rfl⟩
  | occurs occurs _ => exact occurs.keeps tidy found

theorem Moves.discreet (shared : deps.ShareStore) (h : Live.Discreet Backend.store world)
    (moves : Moves deps world next)
    : Live.Discreet Backend.store next := by
  have messages := moves.messages shared h.tidy
  cases moves with
  | counts metrics =>
      exact h.lessens_of_same (h.tidy.calm ⟨rfl, rfl, .refl _, fun _ => rfl⟩) messages rfl
        fun _ _ => id
  | occurs occurs nobody =>
      exact occurs.discreet shared.storesIn (fun used => Store.Used.grows used) h nobody

end

-----------------------------------------------------------------------------------------
-- Runs
-----------------------------------------------------------------------------------------

/-- Every operation is orderly: its sessions are discreet, accounts stand under their own email
addresses, callers have normalized identities, and a stream is a session of its caller.
-/
structure Orderly (operation : Operation) : Prop where
  discreet : Live.Discreet Backend.store operation.state.world
  filed : operation.state.world.backend.store.Filed
  normal
    : ∀ caller ∈ operation.callers, Identity.normalize caller.identity = caller.identity
  own
    : ∀ number caller, (number, caller) ∈ operation.streams →
        ∃ session, operation.state.world.sessions.get? number = some session
          ∧ session.identity = caller.identity

/-- A run starts orderly. -/
theorem Orderly.start (config : Config) (ids : IdSource) (now : Instant)
    : Orderly { state := State.ofConfig config ids now } where
  discreet := .start _ now
  filed := .empty ids
  normal _ known := by cases known
  own _ _ among := by cases among

/-- A move of the world keeps an operation orderly. -/
theorem Orderly.moves {operation : Operation} (h : Orderly operation) (shared : deps.ShareStore)
    {state : State Backend} (moves : Moves deps operation.state.world state.world)
    : Orderly { operation with state } where
  discreet := moves.discreet shared h.discreet
  filed := h.filed.used (moves.used shared h.discreet.tidy)
  normal := h.normal
  own number caller among := by
    obtain ⟨session, found, identity⟩ := h.own number caller among
    obtain ⟨later, kept, same⟩ := moves.keeps h.discreet.tidy found
    exact ⟨later, kept, same.trans identity⟩

/-- Listing chats answers from the store and changes nothing. -/
theorem listChats_eq (shared : deps.ShareStore) (caller : Token.Caller) (requested : Nat)
    (state : State Backend)
    : listChats deps (some caller) requested state
      = (.returned (.ok (state.world.backend.store.recentChats caller.identity
          (listLimit requested))), state) := by
  rw [listChats, shared.conversations]
  rfl

/-- A history is answered from the store, or refused for want of a partner; nothing is changed. -/
theorem getHistory_eq (shared : deps.ShareStore) (caller : Token.Caller) (partner : String)
    (state : State Backend)
    : getHistory deps (some caller) partner state
      = (if Identity.normalize partner = "" then
          .returned (.error (Failure.invalidArgument "with_email is required").status)
        else
          .returned (.ok (state.world.backend.store.history caller.identity
            (Identity.normalize partner) historyLimit)), state) := by
  rw [getHistory, shared.conversations, Call.callerOf_bind]
  by_cases nobody : Identity.normalize partner = ""
  · rw [if_pos nobody, if_pos nobody]
    rfl
  · rw [if_neg nobody, if_neg nobody]
    rfl

/-- A stream is opened for its caller if a mailbox of the configured size can be made. -/
theorem chatStream_eq (caller : Token.Caller) (number : Nat) (state : State Backend)
    : chatStream deps (some caller) number state
      = if Live.isCapacity deps.streamBuffer = true then
          (.returned (.ok ()), { state with
            world := state.world.openSession number caller.identity deps.streamBuffer true })
        else
          (.brokenOff, state) := by
  rw [chatStream, Call.callerOf_bind]
  by_cases room : Live.isCapacity deps.streamBuffer = true
  · rw [if_pos room, if_pos room]
    rfl
  · rw [if_neg room, if_neg room]
    rfl

/-- Opening a stream moves the world, and the stream is a session of its caller. -/
theorem chatStream_opens {caller : Token.Caller} {state later : State Backend}
    (opened : chatStream deps (some caller) state.world.freshNumber state
      = (.returned (.ok ()), later))
    : Moves deps state.world later.world
      ∧ ∃ session, later.world.sessions.get? state.world.freshNumber = some session
          ∧ session.identity = Identity.normalize caller.identity := by
  rw [chatStream_eq] at opened
  split at opened
  next =>
    cases opened
    refine ⟨.occurs (.opened _ _ _) fun _ _ same => (by cases same), ?_⟩
    exact ⟨_, (Table.get?_set _ _ _ _).trans (if_pos rfl), rfl⟩
  next => cases opened

/-- Every run stays orderly, by induction on the run. -/
theorem Operates.orderly (shared : deps.ShareStore) {config : Config} {ids : IdSource}
    {now : Instant} {operation : Operation} {receipts : List Receipt}
    (run : Operates deps (State.ofConfig config ids now) operation receipts)
    : Orderly operation := by
  induction run with
  | starts => exact .start config ids now
  | works _ works ih => exact ih.moves shared (works.moves shared.accounts)
  | @passes operation _ state path authorization caller _ passed ih =>
      have counted := counted_throughGuard deps path authorization operation.state
      rw [passed] at counted
      have moved := ih.moves shared (.of_counted counted)
      obtain ⟨_, _, _, _, normal⟩ := caller_of_throughGuard passed
      exact { moved with normal := List.forall_mem_cons.mpr ⟨normal, moved.normal⟩ }
  | lists _ _ requested ih =>
      rw [listChats_eq shared]
      exact ih
  | looksBack _ _ partner ih =>
      rw [getHistory_eq shared]
      exact ih
  | @opens operation _ caller state _ known opened ih =>
      obtain ⟨moves, session, found, identity⟩ := chatStream_opens opened
      have moved := ih.moves shared moves
      refine { moved with own := fun number other among => ?_ }
      rcases List.mem_cons.mp among with same | old
      · obtain ⟨rfl, rfl⟩ := Prod.mk.inj same
        exact ⟨session, found, identity.trans (ih.normal _ known)⟩
      · exact moved.own number other old
  | @takes operation _ number caller _ _ ih =>
      have moves : Moves deps operation.state.world (operation.state.world.take number).2 :=
        .occurs (.took number) fun _ _ same => by cases same
      exact ih.moves shared moves

end ChatServer.Rpc
