import ChatServer.Proofs.Rpc.Correspondence
import ChatServer.Proofs.Rpc.Grants
import ChatServer.Proofs.Store.Histories

/-! One identity from end to end. Every part of the service normalizes the identities that it is
given, most of them again. So whoever has registered is one user everywhere, under one string: in
the accounts, in the token, behind the guard, in the registry, and as sender and recipient of
messages; and is found under it by whoever writes any spelling of it.

What is told about messages to a user has two limits. A history shows so many messages and no more,
the latest ones; and a message that is stored but cannot be acknowledged is not delivered.
-/

namespace ChatServer

-----------------------------------------------------------------------------------------
-- What a token says
-----------------------------------------------------------------------------------------

namespace Token

/-- Whoever reads a written payload finds the subject and the email address that it was written
with.
-/
theorem TokenClaims.names_of_ofPayload? {claims read : TokenClaims} {now : Int}
    (found : ofPayload? now (.object (Json.Member.readAll claims.membersOf)) = some read)
    : read.subject = claims.subject ∧ read.email = claims.email := by
  obtain ⟨⟨sub, email, iat, exp⟩, _⟩ := valuesOf_membersOf claims
  simp only [ofPayload?, Json.members?_readAll, Option.bind_eq_bind, Option.bind_some] at found
  obtain ⟨made, came, found⟩ := Option.bind_eq_some_iff.mp found
  simp only [ofMembers?, Json.only?_eq_some_iff.mpr sub, Json.only?_eq_some_iff.mpr email,
    Json.only?_eq_some_iff.mpr iat, Json.only?_eq_some_iff.mpr exp, Option.bind_eq_bind,
    Option.bind_some, ofValues?, Json.Tree.string?_ofText] at came
  obtain ⟨issuedAt, _, came⟩ := Option.bind_eq_some_iff.mp came
  obtain ⟨expiresAt, _, came⟩ := Option.bind_eq_some_iff.mp came
  split at found
  next =>
    obtain rfl := Option.some.inj found
    obtain rfl := Option.some.inj came
    exact ⟨rfl, rfl⟩
  next => cases found

/-- Whichever broker verifies a token at whatever time, the caller is the one that the token was
written for.
-/
theorem Broker.caller_of_verify_encode {broker : Broker} {key : SigningKey} {written : TokenClaims}
    {now : Int} {claims : Claims}
    (verified : broker.verify now (encode key written) = .ok claims)
    : claims.caller = ⟨written.subject, Identity.normalize written.email⟩ := by
  obtain ⟨_, secret, made, _, _, read, _, _, rfl⟩ := verify_eq_ok verified
  have payload : decodePart (Parts.ofClaims key written).payload
      = some (.object (Json.Member.readAll written.membersOf)) :=
    (decodePart_encode _).trans written.parse_write
  simp only [claimsOf?, Parts.ofBytes?_encode, Option.bind_eq_bind, Option.bind_some, payload]
    at read
  obtain ⟨_, _, read⟩ := Option.bind_eq_some_iff.mp read
  split at read
  next =>
    obtain ⟨subject, email⟩ := TokenClaims.names_of_ofPayload? read
    rw [Claims.caller, subject, email]
  next => cases read

end Token

namespace Rpc

section

variable {deps : Deps Backend}

-----------------------------------------------------------------------------------------
-- Statements
-----------------------------------------------------------------------------------------

/-- A user who holds a grant, issued at a time, goes by an identity in a world and only by that. -/
structure GoesBy (deps : Deps Backend) (grant : Grant) (issuedAt : Int) (who : String)
    (world : Live.World Backend) : Prop where
  account
    : ∃ user, world.backend.store.users.get? who = some user
        ∧ user.email = who ∧ user.id.simple = grant.userId
  token
    : ∃ key expiresAt,
        grant.token = Token.Broker.encode key ⟨grant.userId, who, issuedAt, expiresAt⟩
  /-- With the token one comes past the guard as the identity or not at all, and does come past
  from the time of issue, if that is after 1970, until the token expires.
  -/
  guard
    : ∀ {path : String}, isPublic path = false → ∀ (rest : List (List UInt8))
        (state : State Backend),
        let outcome := (throughGuard deps path (Text.utf8 (bearer ++ grant.token) :: rest) state).1
        let known := .returned (.ok (some ⟨grant.userId, who⟩))
        (outcome = known ∨ outcome = .returned (.error unauthenticated))
        ∧ (0 ≤ issuedAt → issuedAt ≤ state.world.now.seconds →
          state.world.now.seconds ≤ issuedAt + deps.broker.lifetime → outcome = known)
  /-- A stream that is opened as the identity is connected under the identity. -/
  stream
    : ∀ {caller : Token.Caller}, caller.identity = who → ∀ {state later : State Backend},
        chatStream deps (some caller) state.world.freshNumber state
          = (.returned (.ok ()), later) →
        ∃ session connections,
          later.world.sessions.get? state.world.freshNumber = some session
          ∧ session.identity = who
          ∧ later.world.exchange.registry.connections.get? who = some connections
          ∧ connections.get? session.connection = some state.world.freshNumber
  /-- Whatever a session of the identity stores, acknowledges and delivers is from the identity. -/
  sends
    : ∀ {number : Nat} {session : Live.Session} {next : Live.World Backend},
        world.sessions.get? number = some session → session.identity = who →
        world.turn deps.services number = some next →
        ∃ (stored : List StoredMessage) (posted : Nat → List Delivery),
          next.backend.store.messages = world.backend.store.messages ++ stored
          ∧ (∀ other,
            next.endpoints.contents other = world.endpoints.contents other ++ posted other)
          ∧ (∀ message ∈ stored, message.sender = who)
          ∧ ∀ other, ∀ delivery ∈ posted other, delivery.sender = who

/-- In a world, messages for any spelling of an identity go to the user of the identity. -/
structure IsReachedAt (deps : Deps Backend) (who : String) (world : Live.World Backend)
    : Prop where
  /-- Whoever asks for the user goes on to store the message. -/
  finds
    : ∀ {number : Nat} {session : Live.Session} {request : Outgoing},
        world.sessions.get? number = some session → session.stage = .checking request →
        Identity.normalize request.recipient = who →
        world.turn deps.services number = some (world.enter number session (.storing request))
  /-- The message is stored for the identity. -/
  stores
    : ∀ {number : Nat} {session : Live.Session} {request : Outgoing},
        world.sessions.get? number = some session → session.stage = .storing request →
        Identity.normalize request.recipient = who →
        ∃ next stored, world.turn deps.services number = some next
          ∧ next.backend.store.messages = world.backend.store.messages ++ [stored]
          ∧ stored.sender = session.identity ∧ stored.recipient = who
          ∧ stored.content = request.content
          ∧ next.sessions.get? number
            = some { session with stage := .acknowledging (Live.shown stored) who }
  /-- It stays in hand for the identity, unless its session ends before it is acknowledged. -/
  acknowledges
    : ∀ {number : Nat} {session : Live.Session} {message : Delivery}
        {next : Live.World Backend},
        world.sessions.get? number = some session →
        session.stage = .acknowledging message who ∨ session.stage = .waiting message who →
        world.turn deps.services number = some next →
        ∃ session', next.sessions.get? number = some session'
          ∧ (session'.isRunning = false ∨ session'.stage.HasInHand message who)
  /-- Then it is offered, once each, to the connections under the identity, which are the live
  streams of the identity and no others.
  -/
  offers
    : ∀ {number : Nat} {session : Live.Session} {message : Delivery},
        world.sessions.get? number = some session → session.stage = .spreading message who →
        let attempts := (world.exchange.attempts Live.endpointOps who message).1
        world.turn deps.services number
            = some ((world.enter number session .receiving).spread who message)
          ∧ attempts.map (fun attempt => (attempt.id, attempt.sink))
            = ((world.exchange.registry.connections.get? who).getD {}).entries
          ∧ (attempts.map (·.id)).Nodup
          ∧ ∀ other, (∃ attempt ∈ attempts, attempt.sink = other)
            ↔ ∃ receiver, world.sessions.get? other = some receiver
                ∧ receiver.identity = who ∧ world.IsStreaming other receiver
  /-- Whoever of the two asks, and however both are spelled, it is the same history, and a message
  is in it unless the limit is used up by others that are as late or later.
  -/
  history
    : ∀ stored ∈ world.backend.store.messages, stored.recipient = who →
        ∀ {one other : String},
          Identity.normalize one = stored.sender → Identity.normalize other = who →
          let store := world.backend.store
          ∀ limit,
            store.history one other limit = store.history stored.sender who limit
            ∧ store.history other one limit = store.history stored.sender who limit
            ∧ ((store.conversation stored.sender who).countP (Store.isNotLater stored) ≤ limit →
              stored ∈ store.history one other limit)

-----------------------------------------------------------------------------------------
-- The account and the token
-----------------------------------------------------------------------------------------

/-- A registration that is answered leaves the account that the token of its answer was issued for,
and all else but for the metrics as it was.
-/
theorem world_after_register (memory : deps.accounts = .memory) {credentials : Credentials}
    {peer : Option Net.Address} {state later : State Backend} {grant : Grant}
    (answered : register deps credentials peer state = (.returned (.ok grant), later))
    : ∃ hash metrics issued,
        let backend := state.world.backend
        let user := backend.store.newUser credentials.email hash state.world.now
        later.world = { state.world with
          exchange := { state.world.exchange with metrics }
          backend := { backend with
            store := backend.store.withUser credentials.email hash state.world.now } }
        ∧ deps.broker.issue state.world.now user.id.simple user.email = .returned (.ok issued)
        ∧ grant = ⟨issued.token, user.id.simple, .ofInstant issued.expiresAt⟩ := by
  have came := registration_of_register memory credentials peer state
  generalize register deps credentials peer state = outcome at came answered
  cases came with
  | ends _ unanswered _ => exact (unanswered ⟨grant, congrArg Prod.fst answered⟩).elim
  | @creates hash counted can only =>
      obtain ⟨issued, returned, same⟩ := issueFor_eq_answer answered
      obtain ⟨metrics, left⟩ := counted_issueFor deps
        (state.world.backend.store.newUser credentials.email hash state.world.now)
        (counted.withBackend { state.world.backend with
          store := state.world.backend.store.withUser credentials.email hash state.world.now })
      rw [answered] at left
      refine ⟨hash, metrics, issued, ?_, only.now ▸ returned, same⟩
      obtain ⟨_, before⟩ := only
      rw [left, State.withBackend, before]
      rfl

/-- So there is an account under the normalized email address. -/
theorem account_of_register (memory : deps.accounts = .memory) {credentials : Credentials}
    {peer : Option Net.Address} {state later : State Backend} {grant : Grant}
    (answered : register deps credentials peer state = (.returned (.ok grant), later))
    : ∃ user issued,
        later.world.backend.store.users.get? (Identity.normalize credentials.email) = some user
        ∧ user.email = Identity.normalize credentials.email
        ∧ deps.broker.issue state.world.now user.id.simple user.email = .returned (.ok issued)
        ∧ grant = ⟨issued.token, user.id.simple, .ofInstant issued.expiresAt⟩ := by
  obtain ⟨hash, metrics, issued, after, returned, same⟩ := world_after_register memory answered
  refine ⟨_, issued, ?_, rfl, returned, same⟩
  rw [after]
  exact (Table.get?_set _ _ _ _).trans (if_pos rfl)

section

variable {path : String} (closed : isPublic path = false) {now : Instant}
  {subject identity : String} {issued : Token.IssuedToken}
  (returned : deps.broker.issue now subject identity = .returned (.ok issued))

include closed returned

/-- Nobody comes past the guard with an issued token but as the one that it was issued for. -/
theorem throughGuard_of_issued (rest : List (List UInt8)) (state : State Backend)
    : let outcome := (throughGuard deps path (Text.utf8 (bearer ++ issued.token) :: rest) state).1
      outcome = .returned (.ok (some ⟨subject, Identity.normalize identity⟩))
      ∨ outcome = .returned (.error unauthenticated) := by
  obtain ⟨_, _, _, written⟩ := Token.Broker.issue_eq_ok returned
  have given : (Text.utf8 (bearer ++ issued.token) :: rest).head?.bind bearerToken?
      = some issued.token := by
    rw [List.head?_cons, Option.bind_some, written, bearerToken?_encode]
  intro outcome
  have came : outcome = _ := congrArg Prod.fst (throughGuard_of_token closed given state)
  rw [came, written]
  cases verified : deps.broker.verify state.world.now.seconds
      (Token.Broker.encode deps.broker.keys.active ⟨subject, Identity.normalize identity,
        now.seconds, now.seconds + deps.broker.lifetime⟩) with
  | error fault => exact .inr rfl
  | ok claims =>
      left
      dsimp only
      rw [Token.Broker.caller_of_verify_encode verified, Identity.normalize_normalize]

/-- The broker's own tokens lead past the guard from their issue until they expire. -/
theorem throughGuard_in_time (named : deps.broker.keys.active.id ≠ "")
    (known : deps.broker.secretFor? (some deps.broker.keys.active.id)
      = some deps.broker.keys.active.secret)
    (close : deps.broker.clockSkew ≤ Config.maxClockSkew)
    (small : (Text.utf8 issued.token).length ≤ Token.maxSize) (started : 0 ≤ now.seconds)
    {state : State Backend} (since : now.seconds ≤ state.world.now.seconds)
    (alive : state.world.now.seconds ≤ now.seconds + deps.broker.lifetime)
    (rest : List (List UInt8))
    : (throughGuard deps path (Text.utf8 (bearer ++ issued.token) :: rest) state).1
      = .returned (.ok (some ⟨subject, Identity.normalize identity⟩)) := by
  obtain ⟨nonempty, _, within, written⟩ := Token.Broker.issue_eq_ok returned
  have calendar : Instant.lastSecond + Config.maxClockSkew ≤ Int64.maxValue.toInt := by decide
  have skew : (deps.broker.clockSkew : Int) ≤ Config.maxClockSkew := Int.ofNat_le.mpr close
  have inTime : now.seconds
      ≤ Token.latestIssue state.world.now.seconds deps.broker.clockSkew := by
    rw [Token.Broker.latestIssue_eq (Int.le_trans started since) (by omega)]
    omega
  rw [written] at small ⊢
  have verified := Token.Broker.verify_encode state.world.now.seconds named small known
    ⟨started, by dsimp only; omega⟩ ⟨by dsimp only; omega, by dsimp only; omega⟩
  rw [Identity.normalize_normalize, if_pos ⟨alive, inTime, nonempty⟩] at verified
  rw [throughGuard_of_verified closed verified]
  rfl

end

-----------------------------------------------------------------------------------------
-- Streams
-----------------------------------------------------------------------------------------

/-- A stream that somebody opens is connected under the identity of the caller. -/
theorem connected_of_chatStream {caller : Token.Caller}
    (normal : Identity.normalize caller.identity = caller.identity) {number : Nat}
    {state later : State Backend}
    (opened : chatStream deps (some caller) number state = (.returned (.ok ()), later))
    : ∃ session connections,
        later.world.sessions.get? number = some session
        ∧ session.identity = caller.identity
        ∧ later.world.exchange.registry.connections.get? caller.identity = some connections
        ∧ connections.get? session.connection = some number := by
  rw [chatStream_eq] at opened
  split at opened
  next =>
    cases opened
    refine ⟨_, _, (Table.get?_set _ _ _ _).trans (if_pos rfl), normal,
      (Table.get?_set _ _ _ _).trans (if_pos ?_), (Table.get?_set _ _ _ _).trans (if_pos rfl)⟩
    rw [normal, normal]
  next => cases opened

/-- Whatever a turn stores and gives to sinks is from the identity of its session. -/
theorem senders_of_turn (shared : deps.ShareStore) {world next : Live.World Backend}
    (h : Live.Discreet Backend.store world) {number : Nat} {session : Live.Session}
    (found : world.sessions.get? number = some session)
    (taken : world.turn deps.services number = some next)
    : ∃ (stored : List StoredMessage) (posted : Nat → List Delivery),
        next.backend.store.messages = world.backend.store.messages ++ stored
        ∧ (∀ other,
          next.endpoints.contents other = world.endpoints.contents other ++ posted other)
        ∧ (∀ message ∈ stored, message.sender = session.identity)
        ∧ ∀ other, ∀ delivery ∈ posted other, delivery.sender = session.identity := by
  obtain ⟨session', stored, posted, progress, advanced⟩ :=
    Live.progress_of_turn shared.storesIn h.tidy found taken
  refine ⟨stored, posted, advanced.messages, advanced.contents, ?_, ?_⟩
  · intro message among
    cases progress with
    | stores _ stems =>
        obtain rfl := List.mem_singleton.mp among
        exact stems.sender
    | takes | finds | waits | acknowledges | spreads | ends => cases among
  · intro other delivery given
    obtain ⟨recipient, inHand⟩ := progress.in_hand given
    obtain ⟨_, _, rfl, sender, _⟩ := h.inHand found inHand
    exact sender

end

-----------------------------------------------------------------------------------------
-- One registration
-----------------------------------------------------------------------------------------

namespace Plain

/-- The least settings that are accepted. -/
def settings : Settings := [("JWT_SECRET", "single-secret-single-secret-single")]

def key : SigningKey := ⟨"default", ⟨"single-secret-single-secret-single"⟩⟩

def config : Config := Config.plain [key] "default" (some key.secret)

def deps : Deps Backend :=
  .inMemory config ⟨⟨[key], key⟩, some key.secret, config.tokenLifetime, config.clockSkew⟩
    fun _ => []

/-- The first registration, under an email address that is not in normalized spelling. -/
def registration : Completion (Except Status Grant) × State Backend :=
  register deps ⟨" B@x", "pw"⟩ none (.ofConfig config default ⟨1700000000, 0⟩)

theorem accepted : Config.ofSettings settings = .ok config := eq_ok_of_toOption (by decide +kernel)

theorem deployed : Deps.ofConfig config (fun _ => []) = .ok deps := rfl

theorem normal : Identity.normalize " B@x" = "b@x" := by decide +kernel

theorem settled : Identity.normalize "a@x" = "a@x" ∧ Identity.normalize "b@x" = "b@x" := by
  decide +kernel

/-- It is answered with a token that is small enough. -/
theorem registered
    : ∃ grant, registration = (.returned (.ok grant), registration.2)
        ∧ (Text.utf8 grant.token).length ≤ Token.maxSize := by
  have valid : validate ⟨" B@x", "pw"⟩ = .ok (Identity.normalize " B@x") := by decide +kernel
  have issues : deps.broker.CanIssue ⟨1700000000, 0⟩ := ⟨by decide, by decide⟩
  obtain ⟨grant, later, came⟩ :=
    register_at_start deployed default valid (by decide +kernel) (by decide) issues
  have answered : registration.1 = .returned (.ok grant) := congrArg Prod.fst came
  refine ⟨grant, Prod.ext answered rfl, ?_⟩
  have userId : (answerOf? registration.1).map (·.userId)
      = some "00000000000000000000000000000000" := by
    decide +kernel
  rw [answered] at userId
  obtain ⟨user, issued, email, returned, rfl⟩ := isGranted_of_register rfl came
  obtain ⟨_, _, _, written⟩ := Token.Broker.issue_eq_ok returned
  have id : user.id.simple = "00000000000000000000000000000000" := Option.some.inj userId
  rw [id, email, normal, settled.2] at written
  rw [written, Token.Broker.utf8_encode]
  decide +kernel

theorem opens {state : State Backend} {number : Nat} (fresh : state.world.freshNumber = number)
    (identity : String)
    : Proceeds deps state { state with
        world := state.world.openSession number identity deps.streamBuffer true } := by
  subst fresh
  exact .opens ((chatStream_eq ⟨"u", identity⟩ state.world.freshNumber state).trans
    (if_pos (by decide)))

/-- The state in which two streams have been opened, the second one by the user. -/
def streams : State Backend :=
  { registration.2 with
    world := (registration.2.world.openSession 1 "a@x" deps.streamBuffer true).openSession 2 "b@x"
      deps.streamBuffer true }

theorem proceeds_to_streams : Relation.ReflTransGen (Proceeds deps) registration.2 streams :=
  .tail (.single (opens (by decide +kernel) "a@x")) (opens (by decide +kernel) "b@x")

/-- One of so many messages for the user. -/
def messageOf (i : Nat) : StoredMessage :=
  ⟨(default : IdSource).draw (1 + i), "a@x", "b@x", "hello", ⟨1700000000, 0⟩⟩

/-- Any number of messages may be written to the user, who finds the last ones in the history. -/
theorem proceeds_to_messages (n : Nat)
    : ∃ state, Relation.ReflTransGen (Proceeds deps) registration.2 state
        ∧ state.world.backend.store.messages = (List.range n).map messageOf
        ∧ ∀ limit, state.world.backend.store.history "b@x" "a@x" limit
          = ((List.range n).map messageOf).drop (n - limit) := by
  have shared := Deps.shareStore_of_ofConfig deployed
  obtain ⟨grant, registered, _⟩ := registered
  obtain ⟨hash, metrics, _, after, _⟩ := world_after_register shared.accounts registered
  let now : Instant := ⟨1700000000, 0⟩
  let store := ({ ids := default } : Store).withUser " B@x" hash now
  let writer : Token.Caller := ⟨"u", "a@x"⟩
  have known : store.userExists (Identity.normalize "b@x") = true := by
    refine userExists_of_account ((Table.get?_set _ _ _ _).trans (if_pos ?_))
    rw [settled.2, normal]
  have away : Identity.normalize "b@x" ≠ Identity.normalize "a@x" := by
    rw [settled.1, settled.2]
    decide
  obtain ⟨counted, opened⟩ :=
    @Proceeds.opens_sole deps (by decide) writer settled.1 registration.2 store metrics now after
  obtain ⟨_, rounds⟩ := @Proceeds.rounds deps shared (by decide) writer ⟨"b@x", "hello"⟩ store known
    away registration.2 counted now n
  simp only [settled.2] at rounds
  obtain ⟨messages, _, _⟩ := store.messages_filled "a@x" "b@x" "hello" now n
  have all : (store.filled "a@x" "b@x" "hello" now n).messages = (List.range n).map messageOf := by
    rw [messages, settled.1, settled.2]
    rfl
  refine ⟨_, .head opened rounds, all, fun limit => ?_⟩
  rw [Store.history_comm, ← all]
  exact store.history_filled rfl "a@x" "b@x" "hello" now n limit

/-- A message whose sender has gone away is stored, but is not offered to the user's stream. -/
theorem proceeds_to_loss
    : ∃ state stored sender receiver,
        Relation.ReflTransGen (Proceeds deps) registration.2 state
        ∧ state.world.backend.store.messages = [stored]
        ∧ stored.sender = "a@x" ∧ stored.recipient = "b@x"
        ∧ state.world.sessions.get? 1 = some sender
        ∧ sender.isRunning = false
        ∧ state.world.sessions.get? 2 = some receiver
        ∧ receiver.identity = "b@x" ∧ state.world.IsStreaming 2 receiver
        ∧ state.world.endpoints.contents 2 = [] := by
  let world := ((streams.world.closeMailbox 1).feed 1 [.ok ⟨"b@x", "hello"⟩]).afterTurns
    deps.services [1, 1, 1, 1]
  have goesOn : Relation.ReflTransGen (Proceeds deps) registration.2 { streams with world } :=
    ((proceeds_to_streams.tail (.works (.closes 1))).tail (.works (.feeds 1 _))).trans
      (Proceeds.turns _ _)
  have messages : world.backend.store.messages = [messageOf 0] := by decide +kernel
  have ended : (world.sessions.get? 1).map (·.isRunning) = some false := by decide +kernel
  have streaming : (world.sessions.get? 2).map (fun session =>
      (session.identity, session.isRunning, world.endpoints.isEvicted 2))
        = some ("b@x", true, false) := by
    decide +kernel
  have nothing : world.endpoints.contents 2 = [] := by decide +kernel
  clear_value world
  obtain ⟨sender, writing, ended⟩ := Option.map_eq_some_iff.mp ended
  obtain ⟨receiver, reading, streaming⟩ := Option.map_eq_some_iff.mp streaming
  simp only [Prod.mk.injEq] at streaming
  exact ⟨_, messageOf 0, sender, receiver, goesOn, messages, rfl, rfl, writing, ended, reading,
    streaming.1, streaming.2, nothing⟩

end Plain

-----------------------------------------------------------------------------------------
-- From end to end
-----------------------------------------------------------------------------------------

section

variable {deps : Deps Backend}

/-- The user of an account is reached under its identity, in any world that the service can come
to.
-/
theorem isReachedAt_of_account (shared : deps.ShareStore) {world : Live.World Backend}
    (h : IsServed world) {who : String} (normal : Identity.normalize who = who) {user : User}
    (account : world.backend.store.users.get? who = some user)
    : IsReachedAt deps who world where
  finds found stage named :=
    turn_of_known shared found (h.discreet.tidy.mailbox found) stage
      (userExists_of_account (named.symm ▸ account))
  stores {number session request} found stage named := by
    obtain ⟨next, stored, taken, messages, stems, after⟩ :=
      turn_of_storing shared h.discreet.tidy found stage
    have recipient : stored.recipient = who := stems.recipient.trans named
    rw [recipient] at after
    exact ⟨next, stored, taken, messages, stems.sender, recipient, stems.content, after⟩
  acknowledges found stage taken := kept_in_hand shared h.discreet.tidy found stage taken
  offers {number session message} found stage := by
    have targets := Live.Exchange.attempts_targets Live.endpointOps world.exchange who message
    rw [Live.Registry.connectionsOf, normal] at targets
    exact ⟨turn_of_acknowledged found (h.discreet.tidy.mailbox found) stage, targets,
      Live.Exchange.attempts_nodup Live.endpointOps h.discreet.tidy.coherent who message,
      Live.attempted_iff h.discreet.tidy h.sound h.cuts normal message⟩
  history stored among recipient {one other} sender named := by
    intro store limit
    have sent : Identity.normalize stored.sender = stored.sender := by
      rw [← sender, Identity.normalize_normalize]
    have spelled := @Store.history_spelled store one other limit stored.sender who
      (sender.trans sent.symm) (named.trans normal.symm)
    refine ⟨spelled, (store.history_comm other one limit).trans spelled, fun recent => ?_⟩
    rw [spelled]
    refine Store.mem_history_of_recent (List.mem_filter.mpr ⟨among, ?_⟩) recent
    simp [Store.isBetween, sent, normal, recipient]

/-- The user of an account whom a token was issued for goes by the identity of the account, in any
world that the service can come to.
-/
theorem goesBy_of_issued {settings : Settings} {config : Config}
    (accepted : Config.ofSettings settings = .ok config) {salt : Nat → List UInt8}
    (deployed : Deps.ofConfig config salt = .ok deps) {world : Live.World Backend}
    (h : IsServed world) {user : User} (normal : Identity.normalize user.email = user.email)
    (account : world.backend.store.users.get? user.email = some user) {now : Instant}
    {issued : Token.IssuedToken}
    (returned : deps.broker.issue now user.id.simple user.email = .returned (.ok issued))
    (small : (Text.utf8 issued.token).length ≤ Token.maxSize)
    : GoesBy deps ⟨issued.token, user.id.simple, .ofInstant issued.expiresAt⟩ now.seconds
        user.email world where
  account := ⟨user, account, rfl, rfl⟩
  token := by
    obtain ⟨_, _, _, written⟩ := Token.Broker.issue_eq_ok returned
    rw [normal] at written
    exact ⟨_, _, written⟩
  guard {path} closed rest state := by
    have outcomes := throughGuard_of_issued closed returned rest state
    obtain ⟨broker, brokered, rfl⟩ := Deps.ofConfig_eq_ok deployed
    obtain ⟨named, known, close⟩ := Token.Broker.knows_active accepted brokered
    rw [normal] at outcomes
    refine ⟨outcomes, fun started since alive => ?_⟩
    have passes := throughGuard_in_time closed returned named known close small started since alive
      rest
    rw [normal] at passes
    exact passes
  stream := by
    intro caller known state later opened
    rw [← known] at normal ⊢
    exact connected_of_chatStream normal opened
  sends := by
    intro number session next found identity taken
    rw [← identity]
    exact senders_of_turn (Deps.shareStore_of_ofConfig deployed) h.discreet found taken

/-- Whoever has registered goes by the normalized email address, and is reached at it, in whatever
the service comes to later; provided that the token of the answer is not too large.
-/
theorem one_identity_end_to_end {settings : Settings} {config : Config}
    (accepted : Config.ofSettings settings = .ok config) {salt : Nat → List UInt8}
    (deployed : Deps.ofConfig config salt = .ok deps) {ids : IdSource} {start : Instant}
    {before after state : State Backend}
    (reached : Relation.ReflTransGen (Proceeds deps) (State.ofConfig config ids start) before)
    {credentials : Credentials} {peer : Option Net.Address} {grant : Grant}
    (registered : register deps credentials peer before = (.returned (.ok grant), after))
    (small : (Text.utf8 grant.token).length ≤ Token.maxSize)
    (goesOn : Relation.ReflTransGen (Proceeds deps) after state)
    : let who := Identity.normalize credentials.email
      GoesBy deps grant before.world.now.seconds who state.world
      ∧ IsReachedAt deps who state.world := by
  intro who
  have shared := Deps.shareStore_of_ofConfig deployed
  have normal : Identity.normalize who = who := Identity.normalize_normalize credentials.email
  have registering : Relation.ReflTransGen (Proceeds deps) before after := by
    have work : (register deps credentials peer).IsWork deps := register_isWork credentials peer
    have steps := work before
    rw [registered] at steps
    exact Relation.ReflTransGen.mono (fun _ _ => Proceeds.works) _ _ steps
  have served := (IsServed.start config ids start).later shared (reached.trans registering)
  have servedNow := served.later shared goesOn
  obtain ⟨user, issued, made, email, returned, rfl⟩ :=
    account_of_register shared.accounts registered
  have account := served.keeps_user shared goesOn made
  refine ⟨?_, isReachedAt_of_account shared servedNow normal account⟩
  have goes := goesBy_of_issued accepted deployed servedNow (email ▸ normal) (email ▸ account)
    returned small
  rw [email] at goes
  exact goes

end

/-- A user registers and opens a stream, and the message of another one for that user is about to be
delivered.
-/
theorem one_identity_end_to_end_of_first
    : ∃ config deps grant after state session message,
        Config.ofSettings Plain.settings = .ok config
        ∧ Deps.ofConfig config (fun _ => []) = .ok deps
        ∧ register deps ⟨" B@x", "pw"⟩ none (State.ofConfig config default ⟨1700000000, 0⟩)
          = (.returned (.ok grant), after)
        ∧ Relation.ReflTransGen (Proceeds deps) after state
        ∧ state.world.sessions.get? 1 = some session
        ∧ session.stage = .spreading message "b@x"
        ∧ GoesBy deps grant 1700000000 "b@x" state.world
        ∧ IsReachedAt deps "b@x" state.world := by
  obtain ⟨grant, registered, small⟩ := Plain.registered
  let world := (Plain.streams.world.feed 1 [.ok ⟨" B@X", "hello"⟩]).afterTurns
    Plain.deps.services [1, 1, 1, 1]
  have written : Relation.ReflTransGen (Proceeds Plain.deps) Plain.registration.2
      { Plain.streams with world } :=
    (Plain.proceeds_to_streams.tail (.works (.feeds 1 _))).trans (Proceeds.turns _ _)
  have reached : (world.sessions.get? 1).map (·.stage)
      = some (.spreading ⟨"00000000000000000000000000000001", "a@x", "hello",
          some ⟨1700000000, 0⟩⟩ "b@x") := by
    decide +kernel
  obtain ⟨session, found, stage⟩ := Option.map_eq_some_iff.mp reached
  clear_value world
  obtain ⟨goes, isReached⟩ := one_identity_end_to_end Plain.accepted Plain.deployed .refl
    registered small written
  rw [Plain.normal] at goes isReached
  exact ⟨_, _, grant, _, _, session, _, Plain.accepted, Plain.deployed, registered, written, found,
    stage, goes, isReached⟩

/-- There are two ways in which a registered user may miss messages. The history leaves out the
first of more messages than it shows; and a message whose sender has gone away is stored but not
offered to the user's live stream, as the session that it came from has ended.
-/
theorem message_missed_in_two_ways
    : ∃ config deps grant after,
        Config.ofSettings Plain.settings = .ok config
        ∧ Deps.ofConfig config (fun _ => []) = .ok deps
        ∧ register deps ⟨" B@x", "pw"⟩ none (State.ofConfig config default ⟨1700000000, 0⟩)
          = (.returned (.ok grant), after)
        ∧ (Text.utf8 grant.token).length ≤ Token.maxSize
        ∧ (∃ state stored history,
          Relation.ReflTransGen (Proceeds deps) after state
          ∧ stored ∈ state.world.backend.store.messages
          ∧ stored.sender = "a@x" ∧ stored.recipient = "b@x"
          ∧ (getHistory deps (some ⟨grant.userId, "b@x"⟩) "a@x" state).1
            = .returned (.ok history)
          ∧ stored ∉ history)
        ∧ ∃ state stored sender receiver,
          Relation.ReflTransGen (Proceeds deps) after state
          ∧ state.world.backend.store.messages = [stored]
          ∧ stored.sender = "a@x" ∧ stored.recipient = "b@x"
          ∧ state.world.sessions.get? 1 = some sender
          ∧ sender.isRunning = false
          ∧ state.world.sessions.get? 2 = some receiver
          ∧ receiver.identity = "b@x" ∧ state.world.IsStreaming 2 receiver
          ∧ state.world.endpoints.contents 2 = [] := by
  obtain ⟨grant, registered, small⟩ := Plain.registered
  obtain ⟨state, goesOn, messages, history⟩ := Plain.proceeds_to_messages 101
  refine ⟨_, _, grant, _, Plain.accepted, Plain.deployed, registered, small, ?_, Plain.proceeds_to_loss⟩
  have shared := Deps.shareStore_of_ofConfig Plain.deployed
  have asked := getHistory_eq shared ⟨grant.userId, "b@x"⟩ "a@x" state
  rw [Plain.settled.1, if_neg (by decide), history] at asked
  have missing : Plain.messageOf 0 ∉ ((List.range 101).map Plain.messageOf).drop 1 := by
    decide +kernel
  refine ⟨state, Plain.messageOf 0, _, goesOn, ?_, rfl, rfl, congrArg Prod.fst asked, missing⟩
  rw [messages]
  exact List.mem_map_of_mem (by decide)

end Rpc

end ChatServer
