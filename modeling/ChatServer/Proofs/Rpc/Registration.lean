import ChatServer.Proofs.Rpc.Calls
import ChatServer.Proofs.Token.Issuing
import ChatServer.Proofs.Token.Lifetimes
import ChatServer.Proofs.Token.Migration

/-! What a failed registration leaves behind. The account is created before its token is issued, so
a registration that fails has changed no account unless nothing but the token was missing: then the
account stays, and the same request finds it taken. Only a lifetime of tokens that leads out of the
calendar has this effect, and a configuration may have one.
-/

namespace ChatServer

namespace Rpc

theorem issueFor_isAnswered_iff {deps : Deps Backend} {user : User} {state : State Backend}
    (named : Identity.normalize user.email ≠ "")
    : IsAnswered (issueFor deps user state).1 ↔ deps.broker.CanIssue state.world.now := by
  rw [← Token.Broker.issue_isOk_iff named user.id.simple]
  constructor
  · rintro ⟨grant, answered⟩
    have whole : issueFor deps user state
        = (.returned (.ok grant), (issueFor deps user state).2) :=
      Prod.ext answered rfl
    obtain ⟨issued, returned, _⟩ := issueFor_eq_answer whole
    exact ⟨issued, returned⟩
  · rintro ⟨issued, returned⟩
    refine ⟨⟨issued.token, user.id.simple, .ofInstant issued.expiresAt⟩, ?_⟩
    unfold issueFor Token.Broker.issueCounted
    rw [returned]
    rfl

-----------------------------------------------------------------------------------------
-- Registrations
-----------------------------------------------------------------------------------------

/-- A registration has an answer if it gets as far as its account and a token can be issued. -/
theorem register_isAnswered_iff {deps : Deps Backend} (memory : deps.accounts = .memory)
    (credentials : Credentials) (peer : Option Net.Address) (state : State Backend)
    : IsAnswered (register deps credentials peer state).1
      ↔ CanRegister deps credentials peer state ∧ deps.broker.CanIssue state.world.now := by
  have came := registration_of_register memory credentials peer state
  generalize register deps credentials peer state = outcome at came
  cases came with
  | ends cannot unanswered _ => simp [cannot, unanswered]
  | @creates hash counted can only =>
      let user := state.world.backend.store.newUser credentials.email hash state.world.now
      have named : Identity.normalize user.email ≠ "" := by
        rw [show user.email = Identity.normalize credentials.email from rfl,
          Identity.normalize_normalize]
        exact ne_empty_of_looksLikeEmail (validate_eq_ok can.valid).2.1
      rw [issueFor_isAnswered_iff named]
      simp only [can, true_and, State.withBackend, only.now]

/-- A registration that gets as far as its account creates it, and any other leaves the data alone,
whether it has an answer or not.
-/
theorem backend_after_register {deps : Deps Backend} (memory : deps.accounts = .memory)
    (credentials : Credentials) (peer : Option Net.Address) (state : State Backend)
    : (¬ CanRegister deps credentials peer state
        → (register deps credentials peer state).2.world.backend = state.world.backend)
      ∧ (CanRegister deps credentials peer state → ∃ hash,
          (register deps credentials peer state).2.world.backend.store
            = state.world.backend.store.withUser credentials.email hash state.world.now) := by
  have came := registration_of_register memory credentials peer state
  generalize register deps credentials peer state = outcome at came
  cases came with
  | ends cannot _ same => exact ⟨fun _ => same, fun can => absurd can cannot⟩
  | @creates hash counted can only =>
      refine ⟨fun cannot => absurd can cannot, fun _ => ⟨hash, ?_⟩⟩
      rw [(counted_issueFor deps _ _).backend]
      rfl

/-- A registration that has failed, with a status or by breaking off, has changed no account, unless
it got as far as its account and no token could be issued. In that case exactly the new account has
been added, and the same request cannot get that far again.
-/
theorem accounts_after_failed_register {config : Config} {salt : Nat → List UInt8}
    {deps : Deps Backend} (deployed : Deps.ofConfig config salt = .ok deps)
    (credentials : Credentials) (peer : Option Net.Address) (state : State Backend)
    (failed : ∀ grant, (register deps credentials peer state).1 ≠ .returned (.ok grant))
    : let before := state.world.backend.store
      let later := (register deps credentials peer state).2
      later.world.backend.store.users = before.users
      ∨ CanRegister deps credentials peer state
        ∧ ¬ deps.broker.CanIssue state.world.now
        ∧ (∃ hash, later.world.backend.store.users
            = before.users.set (Identity.normalize credentials.email)
                (before.newUser credentials.email hash state.world.now))
        ∧ ¬ CanRegister deps credentials peer later := by
  intro before later
  have memory : deps.accounts = .memory := by
    obtain ⟨broker, _, rfl⟩ := Deps.ofConfig_eq_ok deployed
    rfl
  have answers := register_isAnswered_iff memory credentials peer state
  obtain ⟨leaves, creates⟩ := backend_after_register memory credentials peer state
  by_cases can : CanRegister deps credentials peer state
  · obtain ⟨hash, left⟩ := creates can
    have stays : later.world.backend.store.users
        = before.users.set (Identity.normalize credentials.email)
            (before.newUser credentials.email hash state.world.now) :=
      congrArg Store.users left
    refine .inr ⟨can, ?_, ⟨hash, stays⟩, fun again => ?_⟩
    · intro issues
      obtain ⟨grant, answered⟩ := answers.mpr ⟨can, issues⟩
      exact failed grant answered
    · have free := again.free
      rw [stays, Table.get?_set, if_pos rfl] at free
      cases free
  · exact .inl (congrArg (·.store.users) (leaves can))

/-- The status of a call that was refused. -/
def statusOf? {α : Type} : Completion (Except Status α) → Option Status
  | .returned (.error status) => some status
  | _ => none

theorem not_answered_of_statusOf? {α : Type} {outcome : Completion (Except Status α)}
    {status : Status} (refused : statusOf? outcome = some status) (value : α)
    : outcome ≠ .returned (.ok value) := by
  rintro rfl
  cases refused

/-- A registration under an identity that is taken fails and changes no account. -/
theorem accounts_after_failed_register_of_taken
    : let key : SigningKey := ⟨"k", ⟨"first-secret-first-secret-first-se"⟩⟩
      let config := Config.plain [key] "k" none
      let taken : User := ⟨default, "a@b", "hash", ⟨1, 0⟩⟩
      let state : State Backend :=
        { State.ofConfig config default ⟨1700000000, 0⟩ with
          world := { backend := { store := { users := ⟨[("a@b", taken)]⟩ } }, now := ⟨2, 0⟩ } }
      ∃ deps, Deps.ofConfig config (fun _ => []) = .ok deps
        ∧ statusOf? (register deps ⟨" A@b", "pw"⟩ none state).1
          = some ⟨.alreadyExists, "User already exists"⟩
        ∧ (register deps ⟨" A@b", "pw"⟩ none state).2.world.backend.store.users
          = ⟨[("a@b", taken)]⟩ := by
  intro key config taken state
  let broker : Token.Broker := ⟨⟨[key], key⟩, none, config.tokenLifetime, config.clockSkew⟩
  let deps := Deps.inMemory config broker fun _ => []
  have deployed : Deps.ofConfig config (fun _ => []) = .ok deps := rfl
  have refused : statusOf? (register deps ⟨" A@b", "pw"⟩ none state).1
      = some ⟨.alreadyExists, "User already exists"⟩ := by
    decide +kernel
  refine ⟨deps, deployed, refused, ?_⟩
  rcases accounts_after_failed_register deployed ⟨" A@b", "pw"⟩ none state
    (not_answered_of_statusOf? refused) with same | ⟨_, cannotIssue, _⟩
  · exact same
  · exact absurd ⟨by decide, by decide⟩ cannotIssue

/-- Settings are accepted whose lifetime of tokens cannot be expressed. The first registration then
fails and leaves its account behind, and the same registration finds it taken.
-/
theorem account_left_by_failed_register
    : ∃ config deps,
        Config.ofSettings [("JWT_SECRET", "single-secret-single-secret-single"),
            ("JWT_TOKEN_TTL_SECONDS", "18446744073709551615")] = .ok config
        ∧ Deps.ofConfig config (fun _ => []) = .ok deps
        ∧ let start := State.ofConfig config default ⟨1700000000, 0⟩
          let first := register deps ⟨"a@b", "pw"⟩ none start
          let second := register deps ⟨"a@b", "pw"⟩ none first.2
          statusOf? first.1 = some ⟨.invalidArgument,
              "token ttl out of range: Source duration value is out of range for the target type"⟩
            ∧ start.world.backend.store.users.entries = []
            ∧ first.2.world.backend.store.users.keys = ["a@b"]
            ∧ statusOf? second.1 = some ⟨.alreadyExists, "User already exists"⟩ := by
  let key : SigningKey := ⟨"default", ⟨"single-secret-single-secret-single"⟩⟩
  let config := { Config.plain [key] "default" (some key.secret) with
    tokenLifetime := 18446744073709551615 }
  let broker : Token.Broker :=
    ⟨⟨[key], key⟩, some key.secret, config.tokenLifetime, config.clockSkew⟩
  let deps := Deps.inMemory config broker fun _ => []
  have accepted : Config.ofSettings [("JWT_SECRET", "single-secret-single-secret-single"),
      ("JWT_TOKEN_TTL_SECONDS", "18446744073709551615")] = .ok config :=
    eq_ok_of_toOption (by decide +kernel)
  have deployed : Deps.ofConfig config (fun _ => []) = .ok deps := rfl
  refine ⟨config, deps, accepted, deployed, ?_, rfl, ?_, ?_⟩
  · decide +kernel
  · decide +kernel
  · decide +kernel

end Rpc

end ChatServer
