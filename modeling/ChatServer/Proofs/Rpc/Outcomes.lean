import ChatServer.Proofs.Password.Rendering
import ChatServer.Proofs.Rpc.Registration

/-! What registering and logging in answer, case by case. Both share their entrance: the limiter
decides first, then the credentials are looked at, and only then the accounts.
-/

namespace ChatServer.Rpc

variable {σ β : Type}

-----------------------------------------------------------------------------------------
-- The entrance
-----------------------------------------------------------------------------------------

/-- The limiter lets a call in that names an account. -/
def IsAdmitted (email : String) (peer : Option Net.Address) (state : State σ) : Prop :=
  (state.limiter.allow state.ticks (Admission.Key.ofCall (some email) peer).render).1 = true

instance (email : String) (peer : Option Net.Address) (state : State σ)
    : Decidable (IsAdmitted email peer state) :=
  inferInstanceAs (Decidable (_ = true))

theorem fst_admission (email : String) (peer : Option Net.Address) (state : State σ)
    : (admission email peer state).1
      = if IsAdmitted email peer state then .returned (.ok ())
        else .returned (.error Failure.rateLimited.status) := by
  simp only [admission, Admission.Limiter.allowCounted, IsAdmitted]
  split
  next allowed => exact (if_pos allowed).symm
  next refused => exact (if_neg refused).symm

@[simp] theorem salts_admission (email : String) (peer : Option Net.Address) (state : State σ)
    : (admission email peer state).2.salts = state.salts := by
  simp only [admission]
  split <;> rfl

/-- Whatever credentials are refused for is wrong with the request itself. -/
theorem invalidArgument_of_validate {credentials : Credentials} {failure : Failure}
    (invalid : validate credentials = .error failure)
    : ∃ reason, failure = .invalidArgument reason := by
  simp only [validate] at invalid
  split at invalid
  next => exact ⟨_, (Except.error.inj invalid).symm⟩
  next =>
    split at invalid
    next => exact ⟨_, (Except.error.inj invalid).symm⟩
    next => cases invalid

/-- A call that passes the limiter and has its credentials looked at before it goes on. -/
def entering (credentials : Credentials) (peer : Option Net.Address) (next : String → Call σ β)
    : Call σ β :=
  admission credentials.email peer >>= fun _ => Call.orFail (validate credentials) >>= next

section

variable {credentials : Credentials} {peer : Option Net.Address} {state : State σ}

theorem entering_of_limited (limited : ¬ IsAdmitted credentials.email peer state)
    (next : String → Call σ β)
    : entering credentials peer next state
      = (.returned (.error Failure.rateLimited.status),
          (admission credentials.email peer state).2) :=
  Call.bind_of_refused (Prod.ext ((fst_admission _ _ _).trans (if_neg limited)) rfl) _

theorem entering_of_admitted (admitted : IsAdmitted credentials.email peer state)
    (next : String → Call σ β)
    : entering credentials peer next state
      = (Call.orFail (validate credentials) >>= next)
          (admission credentials.email peer state).2 :=
  Call.bind_of_answered (Prod.ext ((fst_admission _ _ _).trans (if_pos admitted)) rfl) _

theorem entering_of_invalid (admitted : IsAdmitted credentials.email peer state)
    {failure : Failure} (invalid : validate credentials = .error failure)
    (next : String → Call σ β)
    : entering credentials peer next state
      = (.returned (.error failure.status), (admission credentials.email peer state).2) := by
  rw [entering_of_admitted admitted, invalid]
  rfl

theorem entering_of_valid (admitted : IsAdmitted credentials.email peer state)
    {identity : String} (valid : validate credentials = .ok identity) (next : String → Call σ β)
    : entering credentials peer next state
      = next identity (admission credentials.email peer state).2 := by
  rw [entering_of_admitted admitted, valid]
  rfl

end

-----------------------------------------------------------------------------------------
-- Behind the entrance
-----------------------------------------------------------------------------------------

variable {deps : Deps Backend} {credentials : Credentials} {peer : Option Net.Address}
  {state : State Backend} {identity : String}

/-- The accounts in a state. -/
def State.users (state : State Backend) : Table String User :=
  state.world.backend.store.users

/-- A registration that has come in goes on to the account, with a hash of the password. -/
theorem register_of_valid (cost : Password.isNewCost deps.passwordCost = true)
    (admitted : IsAdmitted credentials.email peer state)
    (valid : validate credentials = .ok identity)
    : ∃ hash middle,
        Password.hash deps.passwordCost (deps.salt state.salts) credentials.password = .ok hash
        ∧ Counted state middle
        ∧ register deps credentials peer state
          = (Call.use (deps.accounts.createUser identity hash state.world.now) accountStatus
              >>= issueFor deps) middle := by
  let entered := (admission credentials.email peer state).2
  have first := counted_admission credentials.email peer state
  have both := first.trans (counted_hashPassword deps credentials.password entered)
  have hashes : hashPassword deps credentials.password entered
      = (.returned (.ok (Password.HashParts.ofPassword deps.passwordCost (deps.salt state.salts)
          credentials.password).render), { entered with salts := entered.salts + 1 }) := by
    rw [hashPassword, Password.hash, if_pos cost, salts_admission]
    rfl
  refine ⟨_, _, if_pos cost, both, ?_⟩
  refine (entering_of_valid admitted valid _).trans ?_
  refine (Call.bind_of_answered hashes _).trans ?_
  rw [Call.look_bind, hashes]
  rw [hashes] at both
  rw [both.now]

/-- A token is issued for a user with an identity if that can be done at the time, and the answer
names the user.
-/
theorem issueFor_of_canIssue {user : User} (named : Identity.normalize user.email ≠ "")
    (issues : deps.broker.CanIssue state.world.now)
    : ∃ grant, (issueFor deps user state).1 = .returned (.ok grant)
        ∧ grant.userId = user.id.simple := by
  obtain ⟨grant, answered⟩ := (issueFor_isAnswered_iff named).mpr issues
  have whole : issueFor deps user state
      = (.returned (.ok grant), (issueFor deps user state).2) :=
    Prod.ext answered rfl
  obtain ⟨_, _, same⟩ := issueFor_eq_answer whole
  exact ⟨grant, answered, congrArg Grant.userId same⟩

section

variable (memory : deps.accounts = .memory)
  (cost : Password.isNewCost deps.passwordCost = true)
  (admitted : IsAdmitted credentials.email peer state)
  (valid : validate credentials = .ok identity)

include memory cost admitted valid

/-- Who registers under an identity that is taken is told so, and no account is changed. -/
theorem register_of_taken {user : User} (taken : state.users.get? identity = some user)
    : (register deps credentials peer state).1
        = .returned (.error (Failure.alreadyExists "user").status)
      ∧ (register deps credentials peer state).2.users = state.users := by
  obtain ⟨hash, middle, _, only, goesOn⟩ := register_of_valid cost admitted valid
  obtain ⟨rfl, _⟩ := validate_eq_ok valid
  rw [State.users, ← only.backend] at taken
  rw [← Identity.normalize_normalize] at taken
  rw [goesOn, memory, Call.bind_of_refused (use_createUser_of_some taken _ _ _)]
  exact ⟨rfl, congrArg (·.store.users) only.backend⟩

/-- Who registers under a free identity, when tokens can be issued, is answered for the account that
is created with a hash of the password; no other account is changed.
-/
theorem register_of_free (free : state.users.get? identity = none)
    (issues : deps.broker.CanIssue state.world.now)
    : ∃ hash grant user,
        Password.hash deps.passwordCost (deps.salt state.salts) credentials.password = .ok hash
        ∧ (register deps credentials peer state).1 = .returned (.ok grant)
        ∧ (register deps credentials peer state).2.users = state.users.set identity user
        ∧ user.id.simple = grant.userId ∧ user.email = identity ∧ user.passwordHash = hash := by
  obtain ⟨hash, middle, hashes, only, goesOn⟩ := register_of_valid cost admitted valid
  obtain ⟨rfl, looks, _⟩ := validate_eq_ok valid
  have settled := Identity.normalize_normalize credentials.email
  rw [State.users, ← only.backend, ← settled] at free
  rw [memory, Call.bind_of_answered (use_createUser_of_none free _ _ _)] at goesOn
  have named : Identity.normalize (middle.world.backend.store.newUser
      (Identity.normalize credentials.email) hash state.world.now).email ≠ "" := by
    rw [Store.newUser, settled, settled]
    exact ne_empty_of_looksLikeEmail looks
  let created := middle.withBackend { middle.world.backend with
    store := middle.world.backend.store.withUser (Identity.normalize credentials.email) hash
      state.world.now }
  have clock : created.world.now = state.world.now := only.now
  obtain ⟨grant, answered, own⟩ := issueFor_of_canIssue named (clock ▸ issues)
  rw [← goesOn] at answered
  refine ⟨hash, grant, _, hashes, answered, ?_, own.symm, settled, rfl⟩
  rw [goesOn, State.users, (counted_issueFor deps _ _).backend, State.users, ← only.backend]
  exact congrArg (fun name => Table.set _ name _) settled

end

/-- What is left of a login once the account has been looked up. -/
def loggingIn (deps : Deps Backend) (credentials : Credentials) : Option User → Call Backend Grant
  | none => Call.fail (.notFound "user")
  | some user => do
    if ← Call.orFail (Password.verify credentials.password user.passwordHash) then
      issueFor deps user
    else
      Call.fail .invalidCredentials

theorem loggingIn_of_compared {user : User} {right : Bool}
    (compares : Password.verify credentials.password user.passwordHash = .ok right)
    : loggingIn deps credentials (some user)
      = if right = true then issueFor deps user else Call.fail .invalidCredentials := by
  rw [loggingIn, compares]
  rfl

/-- A login that has come in goes on with the account under the identity. -/
theorem login_of_valid (memory : deps.accounts = .memory)
    (admitted : IsAdmitted credentials.email peer state)
    (valid : validate credentials = .ok identity)
    : ∃ middle, Counted state middle
        ∧ login deps credentials peer state
          = loggingIn deps credentials (state.users.get? identity) middle := by
  have only := counted_admission credentials.email peer state
  refine ⟨_, only, (entering_of_valid admitted valid _).trans ?_⟩
  obtain ⟨rfl, _⟩ := validate_eq_ok valid
  have found : (admission credentials.email peer state).2.world.backend.store.findByEmail
      (Identity.normalize credentials.email)
      = state.users.get? (Identity.normalize credentials.email) := by
    rw [only.backend, Store.findByEmail, Identity.normalize_normalize]
    rfl
  rw [memory, Call.bind_of_answered (use_findByEmail _ _ _), found]
  cases state.users.get? (Identity.normalize credentials.email) <;> rfl

section

variable (memory : deps.accounts = .memory)
  (admitted : IsAdmitted credentials.email peer state)
  (valid : validate credentials = .ok identity)

include memory admitted valid

/-- Who logs in under an identity without an account is told so. -/
theorem login_of_absent (absent : state.users.get? identity = none)
    : (login deps credentials peer state).1
        = .returned (.error (Failure.notFound "user").status)
      ∧ (login deps credentials peer state).2.users = state.users := by
  obtain ⟨middle, only, goesOn⟩ := login_of_valid memory admitted valid
  rw [goesOn, absent]
  exact ⟨rfl, congrArg (·.store.users) only.backend⟩

/-- Who logs in under an identity with an account is answered for it if the password matches, when
tokens can be issued, and is told that the credentials are wrong if it does not.
-/
theorem login_of_found {user : User} (found : state.users.get? identity = some user)
    (email : user.email = identity) (issues : deps.broker.CanIssue state.world.now) {right : Bool}
    (compares : Password.verify credentials.password user.passwordHash = .ok right)
    : (if right = true then
        ∃ grant, (login deps credentials peer state).1 = .returned (.ok grant)
          ∧ grant.userId = user.id.simple
      else
        (login deps credentials peer state).1
          = .returned (.error Failure.invalidCredentials.status))
      ∧ (login deps credentials peer state).2.users = state.users := by
  obtain ⟨middle, only, goesOn⟩ := login_of_valid memory admitted valid
  obtain ⟨rfl, looks, _⟩ := validate_eq_ok valid
  rw [goesOn, found, loggingIn_of_compared compares]
  have same := congrArg (·.store.users) only.backend
  cases right with
  | false =>
      rw [if_neg Bool.false_ne_true, if_neg Bool.false_ne_true]
      exact ⟨rfl, same⟩
  | true =>
      have named : Identity.normalize user.email ≠ "" := by
        rw [email, Identity.normalize_normalize]
        exact ne_empty_of_looksLikeEmail looks
      have clock : deps.broker.CanIssue middle.world.now := only.now.symm ▸ issues
      have issued := issueFor_of_canIssue named clock
      have kept := congrArg (·.store.users) (counted_issueFor deps user middle).backend
      rw [if_pos rfl, if_pos rfl]
      exact ⟨issued, kept.trans same⟩

end

end ChatServer.Rpc
