import ChatServer.Proofs.Rpc.Outcomes

/-! The life of accounts. Whoever comes in first to register under an identity, in whatever spelling
of it, gets the account, and nobody after that does; whoever logs in is answered for the account of
that registration if the password fits its hash. What the answers to earlier calls were decides
every answer, apart from the limiter and the check of the credentials, and a call that these refuse
leaves no trace in the accounts.
-/

namespace ChatServer.Rpc

-----------------------------------------------------------------------------------------
-- Visits
-----------------------------------------------------------------------------------------

inductive Purpose where
  | register | login
  deriving DecidableEq

/-- A call to register or to log in. -/
structure Visit where
  purpose : Purpose
  credentials : Credentials
  peer : Option Net.Address := none

namespace Visit

def call (deps : Deps Backend) (visit : Visit) : Call Backend Grant :=
  match visit.purpose with
  | .register => register deps visit.credentials visit.peer
  | .login => login deps visit.credentials visit.peer

/-- The normalized email address under which the visit is made. -/
def identity (visit : Visit) : String :=
  Identity.normalize visit.credentials.email

/-- Both kinds of visit share the entrance. -/
theorem call_eq_entering (deps : Deps Backend) (visit : Visit)
    : ∃ next, visit.call deps = entering visit.credentials visit.peer next := by
  obtain ⟨_ | _, _, _⟩ := visit
  · exact ⟨_, rfl⟩
  · exact ⟨_, rfl⟩

end Visit

/-- A visit with the state in which it came, what it ended with and the state that it left. -/
structure Visited where
  visit : Visit
  before : State Backend
  outcome : Completion (Except Status Grant)
  after : State Backend

/-- A visit that is paid to the service in a state. -/
def Visit.pay (deps : Deps Backend) (visit : Visit) (state : State Backend) : Visited :=
  ⟨visit, state, (visit.call deps state).1, (visit.call deps state).2⟩

/-- The visits to a service, one after the other. Between two of them anything may happen that
leaves the accounts alone: time passes, the limiter forgets, and sessions go on.
-/
inductive Serves (deps : Deps Backend) (start : State Backend)
    : List Visited → State Backend → Prop where
  | starts : Serves deps start [] start
  | between {history : List Visited} {state later : State Backend}
    (run : Serves deps start history state) (same : later.users = state.users)
    : Serves deps start history later
  | serves {history : List Visited} {state : State Backend} (run : Serves deps start history state)
    (visit : Visit)
    : Serves deps start (history ++ [visit.pay deps state]) (visit.pay deps state).after

namespace Visited

/-- The limiter let the visit in. -/
def IsAdmitted (visited : Visited) : Prop :=
  Rpc.IsAdmitted visited.visit.credentials.email visited.visit.peer visited.before

instance (visited : Visited) : Decidable visited.IsAdmitted :=
  inferInstanceAs (Decidable (Rpc.IsAdmitted _ _ _))

/-- A visit for a purpose came in under an identity: neither the limiter nor the check of the
credentials refused it.
-/
structure CameIn (purpose : Purpose) (identity : String) (visited : Visited) : Prop where
  purpose : visited.visit.purpose = purpose
  admitted : visited.IsAdmitted
  valid : validate visited.visit.credentials = .ok identity

def KeepsAccounts (visited : Visited) : Prop :=
  visited.after.users = visited.before.users

/-- A registration under an identity was answered with a grant, and its password hashed. -/
structure Registered (deps : Deps Backend) (identity : String) (grant : Grant) (hash : String)
    (visited : Visited) : Prop where
  came : visited.CameIn .register identity
  answered : visited.outcome = .returned (.ok grant)
  hashed
    : Password.hash deps.passwordCost (deps.salt visited.before.salts)
        visited.visit.credentials.password = .ok hash

theorem CameIn.identity_eq {visited : Visited} {purpose : Purpose} {identity : String}
    (came : visited.CameIn purpose identity)
    : visited.visit.identity = identity :=
  (validate_eq_ok came.valid).1.symm

end Visited

/-- What a visit comes to after the visits of the past. -/
structure Ensues (deps : Deps Backend) (past : List Visited) (visited : Visited) : Prop where
  /-- Refused by the limiter, it is told so and changes no account. -/
  limited
    : ¬ visited.IsAdmitted →
        visited.outcome = .returned (.error Failure.rateLimited.status) ∧ visited.KeepsAccounts
  /-- With credentials of nobody it is refused as invalid and changes no account. -/
  invalid
    : ∀ failure, visited.IsAdmitted → validate visited.visit.credentials = .error failure →
        (∃ reason, failure = .invalidArgument reason)
          ∧ visited.outcome = .returned (.error failure.status) ∧ visited.KeepsAccounts
  /-- The first registration that comes in under an identity is answered with a grant. -/
  first
    : ∀ identity, visited.CameIn .register identity →
        (∀ earlier ∈ past, ¬ earlier.CameIn .register identity) → IsAnswered visited.outcome
  /-- Any later one is told that the identity is taken, and changes no account. -/
  taken
    : ∀ identity, visited.CameIn .register identity →
        ∀ earlier ∈ past, earlier.CameIn .register identity →
          visited.outcome = .returned (.error (Failure.alreadyExists "user").status)
            ∧ visited.KeepsAccounts
  /-- A login that comes in finds nobody if no registration under the identity was answered. -/
  unknown
    : ∀ identity, visited.CameIn .login identity →
        (visited.outcome = .returned (.error (Failure.notFound "user").status)
          ↔ ∀ earlier ∈ past, earlier.visit.purpose = .register →
            earlier.visit.identity = identity → ¬ IsAnswered earlier.outcome)
  /-- Otherwise it is answered for the user of that registration if the password fits the hash that
  was made of it, and refused if it does not.
  -/
  known
    : ∀ identity, visited.CameIn .login identity → ∀ earlier ∈ past, ∀ grant,
        earlier.visit.purpose = .register → earlier.visit.identity = identity →
        earlier.outcome = .returned (.ok grant) →
          ∃ hash right, earlier.Registered deps identity grant hash
            ∧ Password.verify visited.visit.credentials.password hash = .ok right
            ∧ if right = true then
                ∃ own, visited.outcome = .returned (.ok own) ∧ own.userId = grant.userId
              else
                visited.outcome = .returned (.error Failure.invalidCredentials.status)

-----------------------------------------------------------------------------------------
-- One visit
-----------------------------------------------------------------------------------------

section

variable {deps : Deps Backend} {visit : Visit} {state : State Backend} {identity : String}

/-- A visit that is refused at the entrance changes no account. -/
theorem Visit.pay_of_refused {status : Status}
    (refused : ∀ next : String → Call Backend Grant,
      entering visit.credentials visit.peer next state
        = (.returned (.error status), (admission visit.credentials.email visit.peer state).2))
    : (visit.pay deps state).outcome = .returned (.error status)
      ∧ (visit.pay deps state).KeepsAccounts := by
  obtain ⟨next, same⟩ := visit.call_eq_entering deps
  have kept := (counted_admission visit.credentials.email visit.peer state).backend
  have ended := refused next
  rw [← same] at ended
  have left : (visit.call deps state).2.users
      = (admission visit.credentials.email visit.peer state).2.users :=
    congrArg (·.2.users) ended
  exact ⟨congrArg Prod.fst ended, left.trans (congrArg (·.store.users) kept)⟩

theorem Visit.pay_of_limited (limited : ¬ (visit.pay deps state).IsAdmitted)
    : (visit.pay deps state).outcome = .returned (.error Failure.rateLimited.status)
      ∧ (visit.pay deps state).KeepsAccounts :=
  pay_of_refused fun next => entering_of_limited limited next

theorem Visit.pay_of_invalid (admitted : (visit.pay deps state).IsAdmitted) {failure : Failure}
    (invalid : validate visit.credentials = .error failure)
    : (visit.pay deps state).outcome = .returned (.error failure.status)
      ∧ (visit.pay deps state).KeepsAccounts :=
  pay_of_refused fun next => entering_of_invalid admitted invalid next

theorem Visit.call_of_register (purpose : visit.purpose = .register)
    : visit.call deps = register deps visit.credentials visit.peer := by
  rw [call, purpose]

theorem Visit.call_of_login (purpose : visit.purpose = .login)
    : visit.call deps = login deps visit.credentials visit.peer := by
  rw [call, purpose]

variable (memory : deps.accounts = .memory)

include memory

theorem Visit.pay_of_taken (cost : Password.isNewCost deps.passwordCost = true)
    (came : (visit.pay deps state).CameIn .register identity) {user : User}
    (taken : state.users.get? identity = some user)
    : (visit.pay deps state).outcome = .returned (.error (Failure.alreadyExists "user").status)
      ∧ (visit.pay deps state).KeepsAccounts := by
  have admitted : IsAdmitted visit.credentials.email visit.peer state := came.admitted
  have ends := register_of_taken memory cost admitted came.valid taken
  rwa [← call_of_register (show visit.purpose = .register from came.purpose)] at ends

/-- A registration under a free identity founds its account. -/
theorem Visit.pay_of_free (cost : Password.isNewCost deps.passwordCost = true)
    (came : (visit.pay deps state).CameIn .register identity)
    (free : state.users.get? identity = none) (issues : deps.broker.CanIssue state.world.now)
    : ∃ grant user,
        (visit.pay deps state).Registered deps identity grant user.passwordHash
        ∧ (visit.pay deps state).after.users = state.users.set identity user
        ∧ user.id.simple = grant.userId ∧ user.email = identity := by
  have admitted : IsAdmitted visit.credentials.email visit.peer state := came.admitted
  obtain ⟨hash, grant, user, hashed, answered, users, id, email, rfl⟩ :=
    register_of_free memory cost admitted came.valid free issues
  rw [← call_of_register (show visit.purpose = .register from came.purpose)] at answered users
  exact ⟨grant, user, ⟨came, answered, hashed⟩, users, id, email⟩

theorem Visit.pay_of_absent (came : (visit.pay deps state).CameIn .login identity)
    (absent : state.users.get? identity = none)
    : (visit.pay deps state).outcome = .returned (.error (Failure.notFound "user").status)
      ∧ (visit.pay deps state).KeepsAccounts := by
  have admitted : IsAdmitted visit.credentials.email visit.peer state := came.admitted
  have ends := login_of_absent memory admitted came.valid absent
  rwa [← call_of_login (show visit.purpose = .login from came.purpose)] at ends

/-- A login under an identity with an account compares the password with the hash of the account. -/
theorem Visit.pay_of_found (came : (visit.pay deps state).CameIn .login identity) {user : User}
    (found : state.users.get? identity = some user) (email : user.email = identity)
    (issues : deps.broker.CanIssue state.world.now) {right : Bool}
    (compares : Password.verify visit.credentials.password user.passwordHash = .ok right)
    : (if right = true then
        ∃ grant, (visit.pay deps state).outcome = .returned (.ok grant)
          ∧ grant.userId = user.id.simple
      else
        (visit.pay deps state).outcome = .returned (.error Failure.invalidCredentials.status))
      ∧ (visit.pay deps state).KeepsAccounts := by
  have admitted : IsAdmitted visit.credentials.email visit.peer state := came.admitted
  have ends := login_of_found memory admitted came.valid found email issues compares
  rwa [← call_of_login (show visit.purpose = .login from came.purpose)] at ends

end

-----------------------------------------------------------------------------------------
-- Accounts and their registrations
-----------------------------------------------------------------------------------------

/-- The accounts are those of the registrations that were answered, each under its identity with the
id of its grant and the hash of its password; and whoever came in to register has an account.
-/
structure Founded (deps : Deps Backend) (history : List Visited) (users : Table String User)
    : Prop where
  email : ∀ {identity user}, users.get? identity = some user → user.email = identity
  founder
    : ∀ {identity user}, users.get? identity = some user →
        ∃ visited ∈ history, ∃ grant, visited.Registered deps identity grant user.passwordHash
  kept
    : ∀ visited ∈ history, ∀ grant, visited.visit.purpose = .register →
        visited.outcome = .returned (.ok grant) →
          ∃ user, users.get? visited.visit.identity = some user
            ∧ user.id.simple = grant.userId
            ∧ visited.Registered deps visited.visit.identity grant user.passwordHash
  settled
    : ∀ visited ∈ history, ∀ identity, visited.CameIn .register identity →
        ∃ user, users.get? identity = some user

namespace Founded

theorem start (deps : Deps Backend) : Founded deps [] {} where
  email found := by cases found
  founder found := by cases found
  kept _ among := by cases among
  settled _ among := by cases among

variable {deps : Deps Backend} {past : List Visited} {users : Table String User} {visited : Visited}

/-- The accounts stay those of the registrations when a visit is no registration with an answer, and
whoever came in to register has an account already.
-/
theorem keeps (h : Founded deps past users)
    (unanswered : visited.visit.purpose = .register → ¬ IsAnswered visited.outcome)
    (settled : ∀ identity, visited.CameIn .register identity →
      ∃ user, users.get? identity = some user)
    : Founded deps (past ++ [visited]) users where
  email := h.email
  founder found := by
    obtain ⟨earlier, among, rest⟩ := h.founder found
    exact ⟨earlier, List.mem_append_left _ among, rest⟩
  kept other among grant purpose answered := by
    rcases List.mem_append.mp among with old | new
    · exact h.kept other old grant purpose answered
    · obtain rfl := List.mem_singleton.mp new
      exact absurd ⟨grant, answered⟩ (unanswered purpose)
  settled other among identity came := by
    rcases List.mem_append.mp among with old | new
    · exact h.settled other old identity came
    · exact settled identity (List.mem_singleton.mp new ▸ came)

/-- A registration founds an account under an identity that had none, and no other is touched. -/
theorem founds (h : Founded deps past users) {identity : String} {grant : Grant} {user : User}
    (free : users.get? identity = none)
    (registered : visited.Registered deps identity grant user.passwordHash)
    (id : user.id.simple = grant.userId) (email : user.email = identity)
    : Founded deps (past ++ [visited]) (users.set identity user) := by
  have old {other : String} {known : User} (found : users.get? other = some known)
      : (users.set identity user).get? other = some known := by
    have differ : other ≠ identity := fun same => by
      rw [same, free] at found
      cases found
    rw [Table.get?_set, if_neg differ, found]
  have new : (users.set identity user).get? identity = some user := by
    rw [Table.get?_set, if_pos rfl]
  have own := registered.came.identity_eq
  refine { email := ?_, founder := ?_, kept := ?_, settled := ?_ }
  · intro other known found
    rw [Table.get?_set] at found
    split at found
    next same =>
      obtain rfl := Option.some.inj found
      exact email.trans same.symm
    next => exact h.email found
  · intro other known found
    rw [Table.get?_set] at found
    split at found
    next same =>
      obtain rfl := Option.some.inj found
      exact ⟨visited, List.mem_append_right _ (List.mem_singleton_self _), grant, same ▸ registered⟩
    next =>
      obtain ⟨earlier, among, rest⟩ := h.founder found
      exact ⟨earlier, List.mem_append_left _ among, rest⟩
  · intro other among granted purpose answered
    rcases List.mem_append.mp among with early | late
    · obtain ⟨known, found, rest⟩ := h.kept other early granted purpose answered
      exact ⟨known, old found, rest⟩
    · obtain rfl := List.mem_singleton.mp late
      have same : grant = granted :=
        Except.ok.inj (Completion.returned.inj (registered.answered.symm.trans answered))
      rw [own, ← same]
      exact ⟨user, new, id, registered⟩
  · intro other among name came
    rcases List.mem_append.mp among with early | late
    · obtain ⟨known, found⟩ := h.settled other early name came
      exact ⟨known, old found⟩
    · obtain rfl := List.mem_singleton.mp late
      obtain rfl : identity = name := own.symm.trans came.identity_eq
      exact ⟨user, new⟩

/-- Any password can be compared with the hash of an account. -/
theorem compares (h : Founded deps past users)
    (cost : Password.isNewCost deps.passwordCost = true)
    (salts : ∀ n, (deps.salt n).length = Password.saltSize) {identity : String} {user : User}
    (found : users.get? identity = some user) (password : String)
    : ∃ right, Password.verify password user.passwordHash = .ok right := by
  obtain ⟨founder, _, _, registered⟩ := h.founder found
  obtain ⟨hash, hashed, compares⟩ := Password.verify_hash cost
    (salts founder.before.salts) founder.visit.credentials.password password
  obtain rfl := Except.ok.inj (registered.hashed.symm.trans hashed)
  exact ⟨_, compares⟩

-----------------------------------------------------------------------------------------
-- Runs
-----------------------------------------------------------------------------------------

section

variable {state : State Backend} (h : Founded deps past state.users)
  (memory : deps.accounts = .memory) (cost : Password.isNewCost deps.passwordCost = true)
  (salts : ∀ n, (deps.salt n).length = Password.saltSize)
  (issues : deps.broker.CanIssue state.world.now)

include h memory cost salts issues

/-- A visit leaves the accounts founded, by cases on how far it gets. -/
theorem pay (visit : Visit)
    : Founded deps (past ++ [visit.pay deps state]) (visit.pay deps state).after.users := by
  by_cases admitted : (visit.pay deps state).IsAdmitted
  case neg =>
    obtain ⟨ended, kept⟩ := Visit.pay_of_limited admitted
    rw [kept]
    exact h.keeps (by simp [ended, IsAnswered]) fun _ came => absurd came.admitted admitted
  cases valid : validate visit.credentials with
  | error failure =>
      obtain ⟨ended, kept⟩ := Visit.pay_of_invalid admitted valid
      rw [kept]
      exact h.keeps (by simp [ended, IsAnswered]) fun _ came =>
        absurd (valid.symm.trans came.valid) nofun
  | ok identity =>
      cases purpose : visit.purpose with
      | register =>
          have came : (visit.pay deps state).CameIn .register identity :=
            ⟨purpose, admitted, valid⟩
          cases there : state.users.get? identity with
          | some user =>
              obtain ⟨ended, kept⟩ := Visit.pay_of_taken memory cost came there
              rw [kept]
              refine h.keeps (by simp [ended, IsAnswered]) fun other again => ?_
              obtain rfl := Except.ok.inj (valid.symm.trans again.valid)
              exact ⟨user, there⟩
          | none =>
              obtain ⟨grant, user, registered, users, id, email⟩ :=
                Visit.pay_of_free memory cost came there issues
              rw [users]
              exact h.founds there registered id email
      | login =>
          have came : (visit.pay deps state).CameIn .login identity := ⟨purpose, admitted, valid⟩
          have other : (visit.pay deps state).visit.purpose ≠ .register := by
            rw [came.purpose]
            decide
          have kept : (visit.pay deps state).KeepsAccounts := by
            cases there : state.users.get? identity with
            | none => exact (Visit.pay_of_absent memory came there).2
            | some user =>
                obtain ⟨right, compares⟩ := h.compares cost salts there visit.credentials.password
                exact (Visit.pay_of_found memory came there (h.email there) issues compares).2
          rw [kept]
          exact h.keeps (fun same => absurd same other) fun _ again => absurd again.purpose other

/-- What a visit comes to follows from the registrations of the past. -/
theorem ensues (visit : Visit) : Ensues deps past (visit.pay deps state) where
  limited refused := Visit.pay_of_limited refused
  invalid failure admitted invalid :=
    ⟨invalidArgument_of_validate invalid, Visit.pay_of_invalid admitted invalid⟩
  first identity came nobody := by
    cases there : state.users.get? identity with
    | some user =>
        obtain ⟨earlier, among, _, registered⟩ := h.founder there
        exact absurd registered.came (nobody earlier among)
    | none =>
        obtain ⟨grant, _, registered, _⟩ := Visit.pay_of_free memory cost came there issues
        exact ⟨grant, registered.answered⟩
  taken identity came earlier among settled := by
    obtain ⟨user, there⟩ := h.settled earlier among identity settled
    exact Visit.pay_of_taken memory cost came there
  unknown identity came := by
    cases there : state.users.get? identity with
    | none =>
        refine iff_of_true (Visit.pay_of_absent memory came there).1 ?_
        rintro earlier among purpose rfl ⟨grant, answered⟩
        obtain ⟨user, found, _⟩ := h.kept earlier among grant purpose answered
        exact absurd (there.symm.trans found) nofun
    | some user =>
        obtain ⟨right, compares⟩ := h.compares cost salts there visit.credentials.password
        have ended := (Visit.pay_of_found memory came there (h.email there) issues compares).1
        obtain ⟨earlier, among, grant, registered⟩ := h.founder there
        refine iff_of_false (fun absent => ?_) fun none =>
          none earlier among registered.came.purpose registered.came.identity_eq
            ⟨grant, registered.answered⟩
        rw [absent] at ended
        cases right with
        | true => simp at ended
        | false => simp [Failure.status, Failure.code] at ended
  known identity came earlier among grant purpose same answered := by
    obtain ⟨user, found, id, registered⟩ := h.kept earlier among grant purpose answered
    rw [same] at found registered
    obtain ⟨right, compares⟩ := h.compares cost salts found visit.credentials.password
    have ended := (Visit.pay_of_found memory came found (h.email found) issues compares).1
    rw [id] at ended
    exact ⟨user.passwordHash, right, registered, compares, ended⟩

end

end Founded

variable {deps : Deps Backend} {start state : State Backend} {history : List Visited}

/-- Every visit of a run was paid in some state, after the visits before it. -/
theorem Serves.split (run : Serves deps start history state) {past later : List Visited}
    {visited : Visited} (whole : history = past ++ visited :: later)
    : ∃ visit earlier, Serves deps start past earlier ∧ visited = Visit.pay deps visit earlier := by
  induction run generalizing later with
  | starts => simp at whole
  | between _ _ ih => exact ih whole
  | @serves history state run visit ih =>
      rcases List.eq_nil_or_concat later with rfl | ⟨front, last, rfl⟩
      · obtain ⟨rfl, last⟩ := List.append_inj' whole rfl
        exact ⟨visit, state, run, (List.singleton_inj.mp last).symm⟩
      · rw [List.concat_eq_append, ← List.cons_append, ← List.append_assoc] at whole
        exact ih (List.append_inj' whole rfl).1

/-- In a run from no accounts on they are always those of the registrations, by induction on it. -/
theorem Serves.founded (run : Serves deps start history state) (memory : deps.accounts = .memory)
    (cost : Password.isNewCost deps.passwordCost = true)
    (salts : ∀ n, (deps.salt n).length = Password.saltSize) (empty : start.users = {})
    (issues : ∀ visited ∈ history, deps.broker.CanIssue visited.before.world.now)
    : Founded deps history state.users := by
  induction run with
  | starts => exact empty ▸ .start deps
  | between _ same ih => exact same ▸ ih issues
  | serves _ visit ih =>
      obtain ⟨before, now⟩ := List.forall_mem_append.mp issues
      exact (ih before).pay memory cost salts (now _ (List.mem_singleton_self _)) visit

/-- In a run that starts without accounts, at a cost that new hashes may have, and in which tokens
can be issued whenever somebody comes, every visit comes to what the visits before it say.
-/
theorem account_lifecycle (memory : deps.accounts = .memory)
    (cost : Password.isNewCost deps.passwordCost = true)
    (salts : ∀ n, (deps.salt n).length = Password.saltSize) (empty : start.users = {})
    (run : Serves deps start history state)
    (issues : ∀ visited ∈ history, deps.broker.CanIssue visited.before.world.now)
    {past later : List Visited} {visited : Visited} (whole : history = past ++ visited :: later)
    : Ensues deps past visited := by
  obtain ⟨visit, earlier, ran, rfl⟩ := run.split whole
  rw [whole] at issues
  obtain ⟨before, onwards⟩ := List.forall_mem_append.mp issues
  have founded := ran.founded memory cost salts empty before
  exact founded.ensues memory cost salts (onwards _ List.mem_cons_self) visit

/-- Three visits under one identity in different spellings: the first registration gets the account,
the second finds it taken, and a login with the password of the first is answered for its user.
-/
theorem account_lifecycle_of_three_visits
    : let key : SigningKey := ⟨"k", ⟨"first-secret-first-secret-first-se"⟩⟩
      let config := Config.plain [key] "k" none
      let visits : List Visit := [⟨.register, ⟨" A@b", "pw"⟩, none⟩,
        ⟨.register, ⟨"a@B ", "other"⟩, none⟩, ⟨.login, ⟨"A@B", "pw"⟩, none⟩]
      ∃ deps history state first own,
        Deps.ofConfig config (fun _ => List.replicate 16 0) = .ok deps
        ∧ Serves deps (State.ofConfig config default ⟨1700000000, 0⟩) history state
        ∧ history.map (·.visit) = visits
        ∧ history.map (·.outcome) = [.returned (.ok first),
            .returned (.error (Failure.alreadyExists "user").status), .returned (.ok own)]
        ∧ own.userId = first.userId := by
  intro key config visits
  let broker : Token.Broker := ⟨⟨[key], key⟩, none, config.tokenLifetime, config.clockSkew⟩
  let deps := Deps.inMemory config broker fun _ => List.replicate 16 0
  let start := State.ofConfig config default ⟨1700000000, 0⟩
  have deployed : Deps.ofConfig config (fun _ => List.replicate 16 0) = .ok deps := rfl
  let one := Visit.pay deps ⟨.register, ⟨" A@b", "pw"⟩, none⟩ start
  let two := Visit.pay deps ⟨.register, ⟨"a@B ", "other"⟩, none⟩ one.after
  let three := Visit.pay deps ⟨.login, ⟨"A@B", "pw"⟩, none⟩ two.after
  have run : Serves deps start [one, two, three] three.after :=
    .serves (.serves (.serves .starts _) _) _
  have cameOne : one.CameIn .register "a@b" := ⟨rfl, by decide +kernel, by decide +kernel⟩
  have cameTwo : two.CameIn .register "a@b" := ⟨rfl, by decide +kernel, by decide +kernel⟩
  have cameThree : three.CameIn .login "a@b" := ⟨rfl, by decide +kernel, by decide +kernel⟩
  have canIssue {state : State Backend} (now : state.world.now.seconds = 1700000000)
      : deps.broker.CanIssue state.world.now :=
    ⟨by decide, by rw [now]; decide⟩
  have issues : ∀ visited ∈ [one, two, three],
      deps.broker.CanIssue visited.before.world.now := by
    simp only [List.forall_mem_cons]
    exact ⟨canIssue (by decide +kernel), canIssue (by decide +kernel),
      canIssue (by decide +kernel), List.forall_mem_nil _⟩
  have ensues {past later : List Visited} {visited : Visited}
      (whole : [one, two, three] = past ++ visited :: later)
      : Ensues deps past visited :=
    account_lifecycle rfl (by decide) (fun _ => rfl) rfl run issues whole
  have ensuesOne : Ensues deps [] one := ensues rfl
  have ensuesTwo : Ensues deps [one] two := ensues rfl
  have ensuesThree : Ensues deps [one, two] three := ensues rfl
  obtain ⟨first, granted⟩ := ensuesOne.first "a@b" cameOne (List.forall_mem_nil _)
  obtain ⟨refused, _⟩ := ensuesTwo.taken "a@b" cameTwo one List.mem_cons_self cameOne
  obtain ⟨hash, right, registered, compares, answers⟩ :=
    ensuesThree.known "a@b" cameThree one List.mem_cons_self first rfl cameOne.identity_eq granted
  obtain ⟨own, loggedIn, same⟩ : ∃ own, three.outcome = .returned (.ok own)
      ∧ own.userId = first.userId := by
    have cost : Password.isNewCost deps.passwordCost = true := by decide
    have size : (deps.salt one.before.salts).length = Password.saltSize := rfl
    obtain ⟨text, hashed, fits⟩ := Password.verify_hash cost size "pw" "pw"
    obtain rfl := Except.ok.inj (registered.hashed.symm.trans hashed)
    rw [beq_self_eq_true] at fits
    obtain rfl := Except.ok.inj (compares.symm.trans fits)
    rwa [if_pos rfl] at answers
  refine ⟨deps, [one, two, three], three.after, first, own, deployed, run, rfl, ?_, same⟩
  rw [List.map_cons, List.map_cons, List.map_cons, List.map_nil, granted, refused, loggedIn]

end ChatServer.Rpc
