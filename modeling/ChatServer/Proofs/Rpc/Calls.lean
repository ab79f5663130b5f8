import ChatServer.Proofs.Store.Accounts
import ChatServer.Proofs.Token.Keys
import ChatServer.Rpc.Deployment

/-! Calls taken apart. A call of several steps ends where its first step does or goes on from there;
registering and logging in are taken apart once into what they decide and what they leave behind, so
that nothing later has to look into them.
-/

namespace ChatServer.Rpc

variable {σ α β : Type}

/-- A deployment has the broker of its configuration and keeps everything in memory. -/
theorem Deps.ofConfig_eq_ok {config : Config} {salt : Nat → List UInt8} {deps : Deps Backend}
    (deployed : Deps.ofConfig config salt = .ok deps)
    : ∃ broker,
        Token.Broker.ofConfig config = .ok broker ∧ deps = .inMemory config broker salt := by
  obtain ⟨broker, made, same⟩ := eq_ok_of_bind deployed
  exact ⟨broker, made, (Except.ok.inj same).symm⟩

-----------------------------------------------------------------------------------------
-- Steps of a call
-----------------------------------------------------------------------------------------

/-- The call has an answer. -/
def IsAnswered (outcome : Completion (Except Status α)) : Prop :=
  ∃ value, outcome = .returned (.ok value)

namespace Call

theorem bind_of_answered {call : Call σ α} {state later : State σ} {value : α}
    (answered : call state = (.returned (.ok value), later)) (next : α → Call σ β)
    : (call >>= next) state = next value later := by
  change bind call next state = _
  rw [bind, answered]

theorem bind_of_refused {call : Call σ α} {state later : State σ} {status : Status}
    (refused : call state = (.returned (.error status), later)) (next : α → Call σ β)
    : (call >>= next) state = (.returned (.error status), later) := by
  change bind call next state = _
  rw [bind, refused]

theorem bind_of_brokenOff {call : Call σ α} {state later : State σ}
    (broken : call state = (.brokenOff, later)) (next : α → Call σ β)
    : (call >>= next) state = (.brokenOff, later) := by
  change bind call next state = _
  rw [bind, broken]

/-- A call of two steps ends with the first one where that has no answer, and goes on from its
answer where it has one.
-/
theorem bind_cases (call : Call σ α) (next : α → Call σ β) (state : State σ)
    : (¬ IsAnswered (call state).1
        ∧ ¬ IsAnswered ((call >>= next) state).1 ∧ ((call >>= next) state).2 = (call state).2)
      ∨ ∃ value later,
        call state = (.returned (.ok value), later)
        ∧ (call >>= next) state = next value later := by
  rcases came : call state with ⟨(status | value) | _, later⟩
  · rw [bind_of_refused came next]
    exact .inl ⟨nofun, nofun, rfl⟩
  · exact .inr ⟨value, later, rfl, bind_of_answered came next⟩
  · rw [bind_of_brokenOff came next]
    exact .inl ⟨nofun, nofun, rfl⟩

/-- A call of two steps that answers has an answer of each. -/
theorem bind_eq_answer {call : Call σ α} {next : α → Call σ β} {state later : State σ}
    {result : β} (answered : (call >>= next) state = (.returned (.ok result), later))
    : ∃ value middle,
        call state = (.returned (.ok value), middle)
        ∧ next value middle = (.returned (.ok result), later) := by
  rcases bind_cases call next state with ⟨_, ended, _⟩ | ⟨value, middle, first, rest⟩
  · exact absurd ⟨result, congrArg Prod.fst answered⟩ ended
  · exact ⟨value, middle, first, rest.symm.trans answered⟩

/-- A call of a known caller goes on with the caller. -/
theorem callerOf_bind (caller : Token.Caller) (next : Token.Caller → Call σ β)
    : (callerOf (some caller) >>= next) = next caller :=
  rfl

theorem orFail_eq_answer {result : Except Failure α} {state later : State σ} {value : α}
    (answered : orFail result state = (.returned (.ok value), later))
    : result = .ok value ∧ later = state := by
  cases result with
  | error failure => cases answered
  | ok other =>
      cases answered
      exact ⟨rfl, rfl⟩

/-- A call that looks at the state goes on with it. -/
theorem look_bind (next : State σ → Call σ β) (state : State σ)
    : (look >>= next) state = next state state :=
  rfl

@[simp] theorem snd_orFail (result : Except Failure α) (state : State σ)
    : (orFail result state).2 = state := by
  cases result <;> rfl

end Call

-----------------------------------------------------------------------------------------
-- Steps that only count
-----------------------------------------------------------------------------------------

/-- Between two states nothing has changed but the limiter, the salts and what is counted. -/
def Counted (before after : State σ) : Prop :=
  ∃ metrics, after.world = before.world.updateMetrics fun _ => metrics

theorem Counted.refl (state : State σ) : Counted state state :=
  ⟨state.world.exchange.metrics, rfl⟩

theorem Counted.trans {before between after : State σ} (first : Counted before between)
    (second : Counted between after)
    : Counted before after := by
  obtain ⟨_, first⟩ := first
  obtain ⟨metrics, second⟩ := second
  exact ⟨metrics, by rw [second, first]; rfl⟩

theorem Counted.backend {before after : State σ} (counted : Counted before after)
    : after.world.backend = before.world.backend := by
  obtain ⟨_, same⟩ := counted
  rw [same]
  rfl

theorem Counted.now {before after : State σ} (counted : Counted before after)
    : after.world.now = before.world.now := by
  obtain ⟨_, same⟩ := counted
  rw [same]
  rfl

theorem counted_admission (email : String) (peer : Option Net.Address) (state : State σ)
    : Counted state (admission email peer state).2 := by
  unfold admission
  simp only
  split <;> exact ⟨_, rfl⟩

theorem counted_hashPassword (deps : Deps σ) (password : String) (state : State σ)
    : Counted state (hashPassword deps password state).2 :=
  ⟨state.world.exchange.metrics, rfl⟩

theorem counted_issueFor (deps : Deps σ) (user : User) (state : State σ)
    : Counted state (issueFor deps user state).2 := by
  unfold issueFor
  simp only
  split
  next => exact .refl state
  next => split <;> exact ⟨_, rfl⟩

theorem counted_throughGuard (deps : Deps σ) (path : String) (authorization : List (List UInt8))
    (state : State σ)
    : Counted state (throughGuard deps path authorization state).2 := by
  unfold throughGuard
  simp only
  split <;> exact ⟨_, rfl⟩

-----------------------------------------------------------------------------------------
-- Registering
-----------------------------------------------------------------------------------------

theorem validate_eq_ok {credentials : Credentials} {identity : String}
    (valid : validate credentials = .ok identity)
    : identity = Identity.normalize credentials.email
      ∧ Identity.looksLikeEmail identity = true ∧ credentials.password ≠ "" := by
  unfold validate at valid
  simp only at valid
  split at valid
  next => cases valid
  next email =>
    split at valid
    next => cases valid
    next password =>
      obtain rfl := Except.ok.inj valid
      exact ⟨rfl, by simpa using email, password⟩

/-- Whatever looks like an email address is not empty. -/
theorem ne_empty_of_looksLikeEmail {text : String} (valid : Identity.looksLikeEmail text = true)
    : text ≠ "" := by
  rintro rfl
  exact absurd valid (by decide)

/-- The state with another state behind the capabilities. -/
def State.withBackend (state : State σ) (backend : σ) : State σ :=
  { state with world := { state.world with backend } }

/-- A use of a capability changes nothing but the state behind the capabilities. -/
theorem Call.snd_use (use : Use σ α) (statusOf : CollaboratorError → Status) (state : State σ)
    : (Call.use use statusOf state).2 = state.withBackend (use state.world.backend).2 := by
  rcases came : use state.world.backend with ⟨(fault | value) | _, backend⟩ <;>
    rw [Call.use, came] <;> rfl

/-- Creating an account in memory, as a step of a call. -/
theorem use_createUser_of_none {email : String} {state : State Backend}
    (absent : state.world.backend.store.users.get? (Identity.normalize email) = none)
    (hash : String) (now : Instant) (statusOf : CollaboratorError → Status)
    : Call.use (Accounts.memory.createUser email hash now) statusOf state
      = (.returned (.ok (state.world.backend.store.newUser email hash now)),
          state.withBackend { state.world.backend with
            store := state.world.backend.store.withUser email hash now }) := by
  simp only [Call.use, Accounts.memory, Store.createUser_of_none absent]
  rfl

theorem use_createUser_of_some {email : String} {state : State Backend} {user : User}
    (taken : state.world.backend.store.users.get? (Identity.normalize email) = some user)
    (hash : String) (now : Instant) (statusOf : CollaboratorError → Status)
    : Call.use (Accounts.memory.createUser email hash now) statusOf state
      = (.returned (.error (statusOf (.alreadyExists "user"))), state) := by
  simp only [Call.use, Accounts.memory, Store.createUser_of_some taken]

theorem use_findByEmail (email : String) (state : State Backend)
    (statusOf : CollaboratorError → Status)
    : Call.use (Accounts.memory.findByEmail email) statusOf state
      = (.returned (.ok (state.world.backend.store.findByEmail email)), state) :=
  rfl

/-- A registration gets as far as its account: the limiter lets it in, the credentials could be
those of a user, a password can be hashed at the cost, and the identity is free.
-/
structure CanRegister (deps : Deps Backend) (credentials : Credentials)
    (peer : Option Net.Address) (state : State Backend) : Prop where
  admitted : IsAnswered (admission credentials.email peer state).1
  valid : validate credentials = .ok (Identity.normalize credentials.email)
  cost : Password.isNewCost deps.passwordCost = true
  free : state.world.backend.store.users.get? (Identity.normalize credentials.email) = none

/-- What a registration comes to: it ends without an answer and leaves the data alone, or it creates
the account, and all that is left is to issue a token.
-/
inductive Registration (deps : Deps Backend) (credentials : Credentials)
    (peer : Option Net.Address) (state : State Backend)
    : Completion (Except Status Grant) × State Backend → Prop where
  | ends {outcome : Completion (Except Status Grant) × State Backend}
    (cannot : ¬ CanRegister deps credentials peer state) (unanswered : ¬ IsAnswered outcome.1)
    (same : outcome.2.world.backend = state.world.backend)
    : Registration deps credentials peer state outcome
  | creates {hash : String} {counted : State Backend}
    (can : CanRegister deps credentials peer state) (only : Counted state counted)
    : Registration deps credentials peer state
        (issueFor deps
          (state.world.backend.store.newUser credentials.email hash state.world.now)
          (counted.withBackend { state.world.backend with
            store := state.world.backend.store.withUser credentials.email hash state.world.now }))

/-- A normalized spelling makes the same account. -/
theorem withUser_normalize (store : Store) (email hash : String) (now : Instant)
    : store.newUser (Identity.normalize email) hash now = store.newUser email hash now
      ∧ store.withUser (Identity.normalize email) hash now = store.withUser email hash now := by
  simp only [Store.withUser, Store.newUser, Identity.normalize_normalize, and_self]

/-- Every registration comes to one of the two, step by step. -/
theorem registration_of_register {deps : Deps Backend} (memory : deps.accounts = .memory)
    (credentials : Credentials) (peer : Option Net.Address) (state : State Backend)
    : Registration deps credentials peer state (register deps credentials peer state) := by
  have first := counted_admission credentials.email peer state
  unfold register
  rcases Call.bind_cases (admission credentials.email peer) _ state with
    ⟨refused, ended, left⟩ | ⟨_, admitted, admits, rest⟩
  · exact .ends (fun can => refused can.admitted) ended
      ((congrArg (·.world.backend) left).trans first.backend)
  rw [rest]
  rw [admits] at first
  rcases Call.bind_cases (Call.orFail (validate credentials)) _ admitted with
    ⟨refused, ended, left⟩ | ⟨identity, checked, checks, rest⟩
  · rw [Call.snd_orFail] at left
    refine .ends (fun can => refused ?_) ended
      ((congrArg (·.world.backend) left).trans first.backend)
    rw [can.valid]
    exact ⟨_, rfl⟩
  rw [rest]
  obtain ⟨valid, rfl⟩ := Call.orFail_eq_answer checks
  obtain ⟨rfl, _⟩ := validate_eq_ok valid
  have both := first.trans (counted_hashPassword deps credentials.password checked)
  rcases Call.bind_cases (hashPassword deps credentials.password) _ checked with
    ⟨refused, ended, left⟩ | ⟨hash, hashed, hashes, rest⟩
  · refine .ends (fun can => refused ?_) ended
      ((congrArg (·.world.backend) left).trans both.backend)
    rw [hashPassword, Password.hash, if_pos can.cost]
    exact ⟨_, rfl⟩
  have cost : Password.isNewCost deps.passwordCost = true := by
    rw [hashPassword, Password.hash] at hashes
    split at hashes
    next cost => exact cost
    next => cases hashes
  rw [rest, Call.look_bind, memory]
  rw [hashes] at both
  have same := both.backend
  have settled := Identity.normalize_normalize credentials.email
  cases there : hashed.world.backend.store.users.get?
      (Identity.normalize (Identity.normalize credentials.email)) with
  | some user =>
      rw [Call.bind_of_refused (use_createUser_of_some there _ _ _)]
      rw [same, settled] at there
      exact .ends (fun can => absurd (can.free.symm.trans there) nofun) nofun same
  | none =>
      rw [Call.bind_of_answered (use_createUser_of_none there _ _ _), both.now, same,
        (withUser_normalize _ _ _ _).1, (withUser_normalize _ _ _ _).2]
      rw [same, settled] at there
      exact .creates ⟨⟨_, congrArg Prod.fst admits⟩, valid, cost, there⟩ both

-----------------------------------------------------------------------------------------
-- Grants
-----------------------------------------------------------------------------------------

/-- A grant of a user holds a token that was issued for the user's own account. -/
theorem issueFor_eq_answer {deps : Deps σ} {user : User} {state later : State σ} {grant : Grant}
    (answered : issueFor deps user state = (.returned (.ok grant), later))
    : ∃ issued,
        deps.broker.issue state.world.now user.id.simple user.email = .returned (.ok issued)
        ∧ grant = ⟨issued.token, user.id.simple, .ofInstant issued.expiresAt⟩ := by
  unfold issueFor Token.Broker.issueCounted at answered
  rcases came : deps.broker.issue state.world.now user.id.simple user.email with
    (error | issued) | _ <;> simp only [came] at answered <;> cases answered
  exact ⟨issued, rfl, rfl⟩

/-- Credentials have been answered with a grant: a token was issued, at the time of the call, for an
account under their identity.
-/
def IsGranted (deps : Deps Backend) (credentials : Credentials) (state : State Backend)
    (grant : Grant) : Prop :=
  ∃ (user : User) (issued : Token.IssuedToken),
    user.email = Identity.normalize credentials.email
    ∧ deps.broker.issue state.world.now user.id.simple user.email = .returned (.ok issued)
    ∧ grant = ⟨issued.token, user.id.simple, .ofInstant issued.expiresAt⟩

theorem isGranted_of_issueFor {deps : Deps Backend} {credentials : Credentials} {user : User}
    {state middle later : State Backend} {grant : Grant}
    (answered : issueFor deps user middle = (.returned (.ok grant), later))
    (email : user.email = Identity.normalize credentials.email)
    (now : middle.world.now = state.world.now)
    : IsGranted deps credentials state grant := by
  obtain ⟨issued, returned, same⟩ := issueFor_eq_answer answered
  exact ⟨user, issued, email, now ▸ returned, same⟩

/-- Who registers gets a grant for the account that was created. -/
theorem isGranted_of_register {deps : Deps Backend} (memory : deps.accounts = .memory)
    {credentials : Credentials} {peer : Option Net.Address} {state later : State Backend}
    {grant : Grant}
    (answered : register deps credentials peer state = (.returned (.ok grant), later))
    : IsGranted deps credentials state grant := by
  have came := registration_of_register memory credentials peer state
  generalize register deps credentials peer state = outcome at came answered
  cases came with
  | ends _ unanswered _ => exact (unanswered ⟨grant, congrArg Prod.fst answered⟩).elim
  | creates _ only => exact isGranted_of_issueFor answered rfl only.now

/-- Who logs in gets a grant for the account that was found. -/
theorem isGranted_of_login {deps : Deps Backend} (memory : deps.accounts = .memory)
    {credentials : Credentials} {peer : Option Net.Address} {state later : State Backend}
    {grant : Grant} (filed : state.world.backend.store.Filed)
    (answered : login deps credentials peer state = (.returned (.ok grant), later))
    : IsGranted deps credentials state grant := by
  have only := counted_admission credentials.email peer state
  unfold login at answered
  obtain ⟨_, _, admits, answered⟩ := Call.bind_eq_answer answered
  rw [admits] at only
  obtain ⟨identity, admitted, checks, answered⟩ := Call.bind_eq_answer answered
  obtain ⟨valid, rfl⟩ := Call.orFail_eq_answer checks
  obtain ⟨rfl, _⟩ := validate_eq_ok valid
  rw [memory, Call.bind_of_answered (use_findByEmail _ _ _)] at answered
  cases found : admitted.world.backend.store.findByEmail
      (Identity.normalize credentials.email) with
  | none =>
      rw [found] at answered
      cases answered
  | some user =>
      rw [found] at answered
      obtain ⟨isRight, _, compares, answered⟩ := Call.bind_eq_answer answered
      obtain ⟨_, rfl⟩ := Call.orFail_eq_answer compares
      rw [only.backend] at found
      have email := filed.email_of_findByEmail found
      rw [Identity.normalize_normalize] at email
      cases isRight with
      | false => cases answered
      | true =>
          rw [if_pos rfl] at answered
          exact isGranted_of_issueFor answered email only.now

end ChatServer.Rpc
