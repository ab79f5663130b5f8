import ChatServer.Proofs.Live.Likeness
import ChatServer.Proofs.Rpc.Operation
import ChatServer.Proofs.Rpc.Pending

/-! What goes wrong inside is not told. Errors of the parts that keep the data come with texts for
the log. Whatever these texts say, a client is told the same: two services whose parts differ in
nothing else answer every call alike and end every stream alike.
-/

namespace ChatServer.Rpc

variable {σ τ α β : Type} {related : σ → τ → Prop}

-----------------------------------------------------------------------------------------
-- States and calls that are alike
-----------------------------------------------------------------------------------------

/-- The state with something else behind the capabilities. -/
def State.upon (state : State σ) (backend : τ) : State τ :=
  { world := state.world.upon backend, limiter := state.limiter, ticks := state.ticks,
    salts := state.salts }

/-- The states are the same but for what stands behind the capabilities, and that is related. -/
inductive State.Alike (related : σ → τ → Prop) (state : State σ) : State τ → Prop where
  | swapped {backend : τ} (behind : related state.world.backend backend)
    : Alike related state (state.upon backend)

namespace State.Alike

variable {state : State σ} {another : State τ}

theorem world (alike : state.Alike related another)
    : state.world.Alike related another.world := by
  obtain @⟨_, behind⟩ := alike
  exact .swapped behind

theorem setWorld (alike : state.Alike related another) {world : Live.World σ}
    {worldToo : Live.World τ} (worlds : world.Alike related worldToo)
    : State.Alike related { state with world } { another with world := worldToo } := by
  obtain ⟨_⟩ := alike
  obtain @⟨_, behind⟩ := worlds
  exact .swapped behind

theorem wait (alike : state.Alike related another) (now : Instant) (ticks : Nat)
    : State.Alike related { state with world := { state.world with now }, ticks }
        { another with world := { another.world with now }, ticks } := by
  obtain @⟨_, behind⟩ := alike
  exact .swapped behind

theorem swept (alike : state.Alike related another)
    : state.swept.Alike related another.swept := by
  obtain @⟨_, behind⟩ := alike
  exact .swapped behind

end State.Alike

/-- From states that are alike, the calls end alike and leave states that are alike. -/
def Call.Alike (related : σ → τ → Prop) (one : Call σ α) (other : Call τ α) : Prop :=
  ∀ ⦃state another⦄, State.Alike related state another →
    (one state).1 = (other another).1 ∧ State.Alike related (one state).2 (other another).2

namespace Call.Alike

/-- A call that does not touch the backend ends as it does with any other one. -/
theorem of_upon {one : Call σ α} {other : Call τ α}
    (same : ∀ state backend, other (state.upon backend)
      = ((one state).1, (one state).2.upon backend))
    (kept : ∀ state, (one state).2.world.backend = state.world.backend)
    : Call.Alike related one other := by
  rintro state _ @⟨backend, behind⟩
  rw [same]
  exact ⟨rfl, .swapped ((kept state).symm ▸ behind)⟩

theorem bind {one : Call σ α} {other : Call τ α} {next : α → Call σ β} {otherNext : α → Call τ β}
    (first : Call.Alike related one other)
    (rest : ∀ value, Call.Alike related (next value) (otherNext value))
    : Call.Alike related (one >>= next) (other >>= otherNext) := by
  intro state another h
  obtain ⟨same, left⟩ := first h
  change (Call.bind one next state).1 = (Call.bind other otherNext another).1
    ∧ State.Alike related (Call.bind one next state).2 (Call.bind other otherNext another).2
  simp only [Call.bind]
  rcases here : one state with ⟨outcome, later⟩
  rcases there : other another with ⟨outcomeToo, laterToo⟩
  rw [here, there] at same left
  obtain rfl : outcome = outcomeToo := same
  rcases outcome with (status | value) | _
  · exact ⟨rfl, left⟩
  · exact rest value left
  · exact ⟨rfl, left⟩

theorem answer (value : α) : Call.Alike related (Call.answer value) (Call.answer value) :=
  fun _ _ h => ⟨rfl, h⟩

theorem refuse (status : Status)
    : Call.Alike related (Call.refuse status : Call σ α) (Call.refuse status) :=
  fun _ _ h => ⟨rfl, h⟩

theorem breakOff : Call.Alike related (Call.breakOff : Call σ α) Call.breakOff :=
  fun _ _ h => ⟨rfl, h⟩

theorem orFail (result : Except Failure α)
    : Call.Alike related (Call.orFail result) (Call.orFail result) := by
  cases result with
  | ok value => exact answer value
  | error failure => exact refuse failure.status

/-- A use of a capability answers alike if its status does not tell the text of an error. -/
theorem use {one : Use σ α} {other : Use τ α} (alike : Use.Alike related one other)
    {statusOf : CollaboratorError → Status}
    (untold : ∀ {e e'}, e.withoutText = e'.withoutText → statusOf e = statusOf e')
    : Call.Alike related (Call.use one statusOf) (Call.use other statusOf) := by
  rintro state _ @⟨backend, behind⟩
  have came := alike behind
  have kept : (state.upon backend).world.backend = backend := rfl
  simp only [Call.use, kept]
  generalize one state.world.backend = here at came ⊢
  generalize other backend = there at came ⊢
  cases came with
  | answers _ left => exact ⟨rfl, .swapped left⟩
  | fails same left =>
      refine ⟨?_, .swapped left⟩
      dsimp only
      rw [untold same]
  | breaksOff left => exact ⟨rfl, .swapped left⟩

end Call.Alike

-----------------------------------------------------------------------------------------
-- Methods
-----------------------------------------------------------------------------------------

/-- No status of a call tells the text of an error. -/
theorem accountStatus_untold {e e' : CollaboratorError} (same : e.withoutText = e'.withoutText)
    : accountStatus e = accountStatus e' := by
  cases e <;> cases e' <;> first | rfl | cases same

theorem internalError_untold {e e' : CollaboratorError} (_ : e.withoutText = e'.withoutText)
    : internalError e = internalError e' :=
  rfl

/-- The methods rely on the same settings, and on parts that come out alike. -/
structure Deps.Alike (related : σ → τ → Prop) (deps : Deps σ) (others : Deps τ) : Prop where
  broker : others.broker = deps.broker
  passwordCost : others.passwordCost = deps.passwordCost
  streamBuffer : others.streamBuffer = deps.streamBuffer
  salt : others.salt = deps.salt
  services : deps.services.Alike related others.services
  createUser (email hash : String) (now : Instant)
    : Use.Alike related (deps.accounts.createUser email hash now)
        (others.accounts.createUser email hash now)
  findByEmail (email : String)
    : Use.Alike related (deps.accounts.findByEmail email) (others.accounts.findByEmail email)
  recentChats (identity : String) (limit : Nat)
    : Use.Alike related (deps.conversations.recentChats identity limit)
        (others.conversations.recentChats identity limit)
  history (identity other : String) (limit : Nat)
    : Use.Alike related (deps.conversations.history identity other limit)
        (others.conversations.history identity other limit)

theorem alike_admission (email : String) (peer : Option Net.Address)
    : Call.Alike related (admission email peer) (admission email peer) := by
  refine Call.Alike.of_upon (fun state backend => ?_)
    (fun state => (counted_admission email peer state).backend)
  rcases decided : state.limiter.allowCounted state.ticks
    (Admission.Key.ofCall (some email) peer).render state.world.exchange.metrics
    with ⟨allowed, limiter, metrics⟩
  simp only [admission, State.upon, Live.World.upon, decided]
  cases allowed <;> rfl

theorem alike_callerOf (caller : Option Token.Caller)
    : Call.Alike related (callerOf caller) (callerOf caller) := by
  cases caller with
  | none => exact .refuse unauthenticated
  | some caller => exact .answer caller

namespace Deps.Alike

variable {deps : Deps σ} {others : Deps τ}

theorem hashPassword (alike : deps.Alike related others) (password : String)
    : Call.Alike related (hashPassword deps password) (Rpc.hashPassword others password) := by
  refine Call.Alike.of_upon (fun state backend => ?_) fun _ => rfl
  rw [Rpc.hashPassword, alike.passwordCost, alike.salt]
  rfl

theorem issueFor (alike : deps.Alike related others) (user : User)
    : Call.Alike related (issueFor deps user) (Rpc.issueFor others user) := by
  refine Call.Alike.of_upon (fun state backend => ?_)
    (fun state => (counted_issueFor deps user state).backend)
  simp only [Rpc.issueFor, State.upon, Live.World.upon, alike.broker]
  split
  next => rfl
  next => split <;> rfl

theorem throughGuard (alike : deps.Alike related others) (path : String)
    (authorization : List (List UInt8))
    : Call.Alike related (throughGuard deps path authorization)
        (Rpc.throughGuard others path authorization) := by
  refine Call.Alike.of_upon (fun state backend => ?_)
    (fun state => (counted_throughGuard deps path authorization state).backend)
  simp only [Rpc.throughGuard, State.upon, Live.World.upon, alike.broker]
  split <;> rfl

theorem creating (alike : deps.Alike related others) (identity hash : String)
    : Call.Alike related (creating deps identity hash) (Rpc.creating others identity hash) := by
  rintro state _ @⟨backend, behind⟩
  exact Call.Alike.use (alike.createUser identity hash state.world.now) accountStatus_untold
    (.swapped behind)

theorem listChats (alike : deps.Alike related others) (caller : Option Token.Caller)
    (requested : Nat)
    : Call.Alike related (listChats deps caller requested)
        (Rpc.listChats others caller requested) :=
  (alike_callerOf caller).bind fun caller =>
    .use (alike.recentChats caller.identity (listLimit requested)) internalError_untold

theorem getHistory (alike : deps.Alike related others) (caller : Option Token.Caller)
    (partner : String)
    : Call.Alike related (getHistory deps caller partner)
        (Rpc.getHistory others caller partner) := by
  refine (alike_callerOf caller).bind fun caller => ?_
  dsimp only
  split
  next => exact .refuse _
  next => exact .use (alike.history caller.identity _ historyLimit) internalError_untold

theorem opening (alike : deps.Alike related others) (caller : Option Token.Caller)
    : Call.Alike related (opening deps caller) (Rpc.opening others caller) := by
  have opens (number : Nat)
      : Call.Alike related (chatStream deps caller number) (chatStream others caller number) := by
    refine (alike_callerOf caller).bind fun caller => ?_
    rw [alike.streamBuffer]
    split
    next => exact Call.Alike.of_upon (fun _ _ => rfl) fun _ => rfl
    next => exact .breakOff
  rintro state _ @⟨backend, behind⟩
  exact ((opens state.world.freshNumber).bind fun _ => .answer state.world.freshNumber)
    (.swapped behind)

end Deps.Alike

-----------------------------------------------------------------------------------------
-- Calls in flight
-----------------------------------------------------------------------------------------

/-- Calls in flight have ended alike, or their next steps are alike and leave calls that are alike.
-/
inductive Pending.Alike (related : σ → τ → Prop) : Pending σ α → Pending τ α → Prop where
  | ended (outcome : Completion (Except Status α)) : Alike related (.ended outcome) (.ended outcome)
  | step {run : State σ → State σ} {rest : State σ → Pending σ α} {otherRun : State τ → State τ}
      {otherRest : State τ → Pending τ α}
      (runs : ∀ {state another}, State.Alike related state another →
        State.Alike related (run state) (otherRun another))
      (goesOn : ∀ {state another}, State.Alike related state another →
        Alike related (rest state) (otherRest another))
    : Alike related (.step run rest) (.step otherRun otherRest)

namespace Pending.Alike

theorem first {one : Call σ α} {other : Call τ α} {next : α → Pending σ β}
    {otherNext : α → Pending τ β} (alike : Call.Alike related one other)
    (rest : ∀ value, Pending.Alike related (next value) (otherNext value))
    : Pending.Alike related (.first one next) (.first other otherNext) := by
  refine .step (fun h => (alike h).2) fun h => ?_
  rw [(alike h).1]
  split
  next value _ => exact rest value
  next => exact .ended _
  next => exact .ended _

theorem last {one : Call σ α} {other : Call τ α} (alike : Call.Alike related one other)
    : Pending.Alike related (.last one) (.last other) := by
  refine .step (fun h => (alike h).2) fun h => ?_
  rw [(alike h).1]
  exact .ended _

theorem holding {one : Pending σ α} {other : Pending τ α} (alike : one.Alike related other)
    (content : α → Content)
    : (one.holding content).Alike related (other.holding content) := by
  induction alike with
  | ended outcome => exact .ended _
  | step runs _ ih => exact .step runs ih

end Pending.Alike

theorem Call.Alike.holding {one : Call σ α} {other : Call τ α}
    (alike : Call.Alike related one other) (content : α → Content)
    : Call.Alike related (one.holding content) (other.holding content) :=
  alike.bind fun value => .answer (content value)

namespace Deps.Alike

variable {deps : Deps σ} {others : Deps τ}

theorem register (alike : deps.Alike related others) (credentials : Credentials)
    (peer : Option Net.Address)
    : (Pending.register deps credentials peer).Alike related
        (Pending.register others credentials peer) :=
  .first (alike_admission credentials.email peer) fun _ =>
  .first (.orFail (validate credentials)) fun identity =>
  .first (alike.hashPassword credentials.password) fun hash =>
  .first (alike.creating identity hash) fun user =>
  .last (alike.issueFor user)

theorem compare (alike : deps.Alike related others) (password : String) (user? : Option User)
    : (Pending.compare deps password user?).Alike related
        (Pending.compare others password user?) := by
  cases user? with
  | none => exact .last (.refuse _)
  | some user =>
      refine .first (.orFail (Password.verify password user.passwordHash)) fun same => ?_
      cases same with
      | true => exact .last (alike.issueFor user)
      | false => exact .last (.refuse _)

theorem login (alike : deps.Alike related others) (credentials : Credentials)
    (peer : Option Net.Address)
    : (Pending.login deps credentials peer).Alike related
        (Pending.login others credentials peer) :=
  .first (alike_admission credentials.email peer) fun _ =>
  .first (.orFail (validate credentials)) fun identity =>
  .first (.use (alike.findByEmail identity) accountStatus_untold) fun user? =>
  alike.compare credentials.password user?

theorem handle (alike : deps.Alike related others) (arrival : Arrival)
    : (Pending.handle deps arrival).Alike related (Pending.handle others arrival) := by
  refine .first (alike.throughGuard _ arrival.authorization) fun caller => ?_
  cases arrival.request with
  | register credentials => exact (alike.register credentials arrival.peer).holding .grant
  | login credentials => exact (alike.login credentials arrival.peer).holding .grant
  | listChats limit => exact .last ((alike.listChats caller limit).holding .chats)
  | getHistory partner => exact .last ((alike.getHistory caller partner).holding .messages)
  | chatStream => exact .last ((alike.opening caller).holding .stream)

end Deps.Alike

-----------------------------------------------------------------------------------------
-- The service
-----------------------------------------------------------------------------------------

/-- The service with its calls in flight. -/
structure Service (σ : Type) where
  state : State σ
  pending : Table Nat (Pending σ Content) := {}

/-- What happens next: a request arrives, a call in flight takes a step or is given up, a session
takes a turn, a client sends something or sends no more, reads an item or goes away, time passes, or
the limiter is swept.
-/
inductive Impulse where
  | arrives (call : Nat) (arrival : Arrival)
  | goesOn (call : Nat)
  | givesUp (call : Nat)
  | turns (number : Nat)
  | feeds (number : Nat) (inbound : List Live.Inbound)
  | endsInput (number : Nat)
  | takes (number : Nat)
  | leaves (number : Nat)
  | waits (now : Instant) (ticks : Nat)
  | sweeps

/-- What a client sees of it: how its call ended, or what it finds in its stream. -/
inductive Seen where
  | outcome (call : Nat) (outcome : Completion (Except Status Content))
  | item (number : Nat) (item? : Option Live.Item)
  deriving DecidableEq

namespace Service

/-- The service with another world. -/
def setWorld (service : Service σ) (world : Live.World σ) : Service σ :=
  { service with state := { service.state with world } }

/-- A call in flight takes a step; one that has ended is answered. -/
def goOn (service : Service σ) (call : Nat) : Option Seen × Service σ :=
  match service.pending.get? call with
  | none => (none, service)
  | some (.ended outcome) =>
    (some (.outcome call outcome), { service with pending := service.pending.erase call })
  | some (.step run rest) =>
    (none, { state := run service.state, pending := service.pending.set call (rest service.state) })

/-- What happens, with what is seen of it. -/
def after (deps : Deps σ) (service : Service σ) : Impulse → Option Seen × Service σ
  | .arrives call arrival =>
    (none, { service with pending := service.pending.set call (Pending.handle deps arrival) })
  | .goesOn call => service.goOn call
  | .givesUp call => (none, { service with pending := service.pending.erase call })
  | .turns number =>
    (none, ((service.state.world.turn deps.services number).map service.setWorld).getD service)
  | .feeds number inbound => (none, service.setWorld (service.state.world.feed number inbound))
  | .endsInput number => (none, service.setWorld (service.state.world.endInput number))
  | .takes number =>
    let (item?, world) := service.state.world.take number
    (some (.item number item?), service.setWorld world)
  | .leaves number => (none, service.setWorld (service.state.world.closeMailbox number))
  | .waits now ticks =>
    (none, { service with
      state := { service.state with world := { service.state.world with now }, ticks } })
  | .sweeps => (none, { service with state := service.state.swept })

/-- Everything that happens, with all that is seen of it. -/
def run (deps : Deps σ) (service : Service σ) : List Impulse → List Seen × Service σ
  | [] => ([], service)
  | impulse :: rest =>
    let (seen?, next) := service.after deps impulse
    let (seen, last) := next.run deps rest
    (seen?.toList ++ seen, last)

/-- How the session of a number ended, if it has. -/
def endingOf (service : Service σ) (number : Nat) : Option Live.Ending :=
  (service.state.world.sessions.get? number).bind Live.Session.ending?

/-- The states are alike, and so are the calls in flight. -/
structure Alike (related : σ → τ → Prop) (service : Service σ) (other : Service τ) : Prop where
  state : service.state.Alike related other.state
  pending (call : Nat)
    : Option.Rel (Pending.Alike related) (service.pending.get? call) (other.pending.get? call)

namespace Alike

variable {service : Service σ} {other : Service τ}

theorem start {state : State σ} {another : State τ} (alike : state.Alike related another)
    : Alike related { state } { state := another } :=
  ⟨alike, fun _ => .none⟩

theorem setWorld (alike : service.Alike related other) {world : Live.World σ}
    {another : Live.World τ} (worlds : world.Alike related another)
    : (service.setWorld world).Alike related (other.setWorld another) :=
  ⟨alike.state.setWorld worlds, alike.pending⟩

/-- Calls that are alike take the place of a call in both tables. -/
theorem pending_set (alike : service.Alike related other) (call : Nat)
    {next : Pending σ Content} {nextToo : Pending τ Content} (nexts : next.Alike related nextToo)
    (another : Nat)
    : Option.Rel (Pending.Alike related) ((service.pending.set call next).get? another)
        ((other.pending.set call nextToo).get? another) := by
  rw [Table.get?_set, Table.get?_set]
  split
  next => exact .some nexts
  next => exact alike.pending another

theorem pending_erase (alike : service.Alike related other) (call another : Nat)
    : Option.Rel (Pending.Alike related) ((service.pending.erase call).get? another)
        ((other.pending.erase call).get? another) := by
  rw [Table.get?_erase, Table.get?_erase]
  split
  next => exact .none
  next => exact alike.pending another

/-- A call in flight takes the same kind of step in both services, and is answered alike. -/
theorem goOn (alike : service.Alike related other) (call : Nat)
    : (service.goOn call).1 = (other.goOn call).1
      ∧ (service.goOn call).2.Alike related (other.goOn call).2 := by
  have found := alike.pending call
  unfold Service.goOn
  generalize service.pending.get? call = one at found ⊢
  generalize other.pending.get? call = two at found ⊢
  cases found with
  | none => exact ⟨rfl, alike⟩
  | some steps =>
      cases steps with
      | ended outcome => exact ⟨rfl, alike.state, alike.pending_erase call⟩
      | step runs goesOn =>
          exact ⟨rfl, runs alike.state, alike.pending_set call (goesOn alike.state)⟩

theorem turn {deps : Deps σ} {others : Deps τ} (parts : deps.Alike related others)
    (alike : service.Alike related other) (number : Nat)
    : (((service.state.world.turn deps.services number).map service.setWorld).getD service).Alike
        related
        (((other.state.world.turn others.services number).map other.setWorld).getD other) := by
  have turned := Live.World.Alike.turn parts.services alike.state.world number
  generalize service.state.world.turn deps.services number = one at turned ⊢
  generalize other.state.world.turn others.services number = two at turned ⊢
  cases turned with
  | none => exact alike
  | some worlds => exact alike.setWorld worlds

/-- Whatever happens, the same is seen of both services, and they stay alike. -/
theorem after {deps : Deps σ} {others : Deps τ} (parts : deps.Alike related others)
    (alike : service.Alike related other) (impulse : Impulse)
    : (service.after deps impulse).1 = (other.after others impulse).1
      ∧ (service.after deps impulse).2.Alike related (other.after others impulse).2 := by
  have worlds := alike.state.world
  cases impulse with
  | arrives call arrival =>
      exact ⟨rfl, alike.state, alike.pending_set call (parts.handle arrival)⟩
  | goesOn call => exact alike.goOn call
  | givesUp call => exact ⟨rfl, alike.state, alike.pending_erase call⟩
  | turns number => exact ⟨rfl, alike.turn parts number⟩
  | feeds number inbound => exact ⟨rfl, alike.setWorld (worlds.feed number inbound)⟩
  | endsInput number => exact ⟨rfl, alike.setWorld (worlds.endInput number)⟩
  | takes number =>
      obtain ⟨same, left⟩ := worlds.take number
      exact ⟨congrArg (fun item? => some (Seen.item number item?)) same, alike.setWorld left⟩
  | leaves number => exact ⟨rfl, alike.setWorld (worlds.closeMailbox number)⟩
  | waits now ticks => exact ⟨rfl, alike.state.wait now ticks, alike.pending⟩
  | sweeps => exact ⟨rfl, alike.state.swept, alike.pending⟩

/-- The same is seen of two runs, and they leave services that are alike. -/
theorem run {deps : Deps σ} {others : Deps τ} (parts : deps.Alike related others)
    (alike : service.Alike related other) (impulses : List Impulse)
    : (service.run deps impulses).1 = (other.run others impulses).1
      ∧ (service.run deps impulses).2.Alike related (other.run others impulses).2 := by
  induction impulses generalizing service other with
  | nil => exact ⟨rfl, alike⟩
  | cons impulse rest ih =>
      obtain ⟨same, next⟩ := alike.after parts impulse
      obtain ⟨sameRest, left⟩ := ih next
      refine ⟨?_, left⟩
      simp only [Service.run, same, sameRest]

/-- The sessions of both services are in the same stages. -/
theorem endingOf (alike : service.Alike related other) (number : Nat)
    : service.endingOf number = other.endingOf number := by
  rw [Service.endingOf, Service.endingOf, alike.state.world.sessions]

end Alike

end Service

/-- Two services that start alike, and whose parts answer alike and fail alike but for the texts of
their errors: whatever happens to both, every call is answered the same, every stream brings the
same and ends the same.
-/
theorem texts_untold {deps : Deps σ} {others : Deps τ} (parts : deps.Alike related others)
    {start : State σ} {another : State τ} (alike : start.Alike related another)
    (impulses : List Impulse)
    : (Service.run deps { state := start } impulses).1
        = (Service.run others { state := another } impulses).1
      ∧ ∀ number, (Service.run deps { state := start } impulses).2.endingOf number
          = (Service.run others { state := another } impulses).2.endingOf number := by
  obtain ⟨same, left⟩ := (Service.Alike.start alike).run parts impulses
  exact ⟨same, left.endingOf⟩

/-- Whether the disk is full or a table is missing, a failed login and a failed message are answered
the same.
-/
theorem texts_untold_of_broken_store
    : let key : SigningKey := ⟨"k1", ⟨"first-secret-first-secret-first-secret!!"⟩⟩
      let deps (text : String) : Deps Backend :=
        { broker := ⟨⟨[key], key⟩, none, 86400, 300⟩
          accounts := .failing (.storage text)
          conversations := .failing (.internal text)
          services := ⟨.failing (.storage text), .failing (.notFound text)⟩
          passwordCost := 4, streamBuffer := 8, salt := fun _ => [] }
      let world : Live.World Backend := { backend := {}, now := ⟨1700000000, 0⟩ }
      let start : State Backend :=
        { world := world.openSession 1 "a@b" 8 true, limiter := { limits := ⟨60, 1, 0⟩ } }
      let impulses := [.arrives 7 { request := .login ⟨"a@b", "pw"⟩ }, .goesOn 7, .goesOn 7,
        .goesOn 7, .feeds 1 [.ok ⟨"c@d", "hi"⟩], .turns 1, .goesOn 7, .turns 1, .takes 1, .goesOn 7]
      let full := Service.run (deps "disk full") { state := start } impulses
      let missing := Service.run (deps "no such table") { state := start } impulses
      let told : Status := ⟨.internal, "An internal error occurred"⟩
      (deps "disk full").Alike Eq (deps "no such table") ∧ start.Alike Eq start
        ∧ full.1 = [.item 1 (some (.failure told)), .outcome 7 (.returned (.error told))]
        ∧ missing.1 = full.1 ∧ missing.2.endingOf 1 = full.2.endingOf 1 := by
  intro key deps world start impulses full missing told
  have parts : (deps "disk full").Alike Eq (deps "no such table") :=
    { broker := rfl
      passwordCost := rfl
      streamBuffer := rfl
      salt := rfl
      services := ⟨fun _ => .fail rfl, fun _ _ _ _ => .fail rfl⟩
      createUser := fun _ _ _ => .fail rfl
      findByEmail := fun _ => .fail rfl
      recentChats := fun _ _ => .fail rfl
      history := fun _ _ _ => .fail rfl }
  have alike : start.Alike Eq start := .swapped rfl
  obtain ⟨same, sameEndings⟩ := texts_untold parts alike impulses
  exact ⟨parts, alike, by decide +kernel, same.symm, (sameEndings 1).symm⟩

end ChatServer.Rpc
