import ChatServer.Proofs.Password.Keys
import ChatServer.Proofs.Rpc.Lifecycle

/-! Which passwords open an account. Somebody who logs in is refused exactly if the digest of the
password that is given is not that of the password with which the account was registered. Two
passwords can be different and have one digest, and surely have if they differ only beyond the
bytes that count.
-/

namespace ChatServer.Rpc

/-- A visit was answered for the user of a grant. -/
def Visited.IsAnsweredFor (visited : Visited) (userId : String) : Prop :=
  ∃ own, visited.outcome = .returned (.ok own) ∧ own.userId = userId

/-- The digest of a password at the cost of a service and with the salt that a visit found. -/
def Visited.digest (deps : Deps Backend) (visited : Visited) (password : String) : List UInt8 :=
  Password.digest deps.passwordCost (deps.salt visited.before.salts) (Text.utf8 password)

/-- A login with a password after a registration with a password, under one identity: the hash that
was made of the one tells whether the other has the same digest, and the login is answered for the
user of the registration or refused accordingly.
-/
structure Compares (deps : Deps Backend) (registration login : Visited) (userId : String)
    : Prop where
  hash
    : ∃ text,
        Password.hash deps.passwordCost (deps.salt registration.before.salts)
            registration.visit.credentials.password = .ok text
          ∧ ∀ password, Password.verify password text
            = .ok (registration.digest deps password
              == registration.digest deps registration.visit.credentials.password)
  refused
    : login.outcome = .returned (.error Failure.invalidCredentials.status)
      ↔ registration.digest deps login.visit.credentials.password
        ≠ registration.digest deps registration.visit.credentials.password
  answered
    : login.IsAnsweredFor userId
      ↔ registration.digest deps login.visit.credentials.password
        = registration.digest deps registration.visit.credentials.password
  sameKey
    : Password.keyWords (Text.utf8 login.visit.credentials.password)
        = Password.keyWords (Text.utf8 registration.visit.credentials.password) →
      login.IsAnsweredFor userId

variable {deps : Deps Backend} {start state : State Backend} {history past later : List Visited}
  {registration login : Visited} {identity : String} {grant : Grant}

/-- A login that ensues compares its password with that of the registration. -/
theorem Ensues.compares (h : Ensues deps past login)
    (cost : Password.isNewCost deps.passwordCost = true)
    (salts : ∀ n, (deps.salt n).length = Password.saltSize)
    (came : login.CameIn .login identity) (among : registration ∈ past)
    (registers : registration.visit.purpose = .register)
    (same : registration.visit.identity = identity)
    (granted : registration.outcome = .returned (.ok grant))
    : Compares deps registration login grant.userId := by
  obtain ⟨text, right, registered, compared, ended⟩ :=
    h.known identity came registration among grant registers same granted
  have verdict (password : String)
      : Password.verify password text
        = .ok (registration.digest deps password
          == registration.digest deps registration.visit.credentials.password) := by
    obtain ⟨own, hashed, compares⟩ := Password.verify_hash cost (salts registration.before.salts)
      registration.visit.credentials.password password
    obtain rfl := Except.ok.inj (registered.hashed.symm.trans hashed)
    exact compares
  obtain rfl := Except.ok.inj (compared.symm.trans (verdict _))
  by_cases alike : registration.digest deps login.visit.credentials.password
      = registration.digest deps registration.visit.credentials.password
  · rw [if_pos (beq_iff_eq.mpr alike)] at ended
    obtain ⟨own, answered, _⟩ := id ended
    have refused : login.outcome ≠ .returned (.error Failure.invalidCredentials.status) := by
      simp [answered]
    exact {
      hash := ⟨text, registered.hashed, verdict⟩
      refused := iff_of_false refused (not_not_intro alike)
      answered := iff_of_true ended alike
      sameKey := fun _ => ended }
  · rw [if_neg (mt beq_iff_eq.mp alike)] at ended
    have answered : ¬ login.IsAnsweredFor grant.userId := fun ⟨_, own, _⟩ => by simp [ended] at own
    exact {
      hash := ⟨text, registered.hashed, verdict⟩
      refused := iff_of_true ended alike
      answered := iff_of_false answered alike
      sameKey := fun key => absurd (Password.digest_of_keyWords_eq key _ _) alike }

/-- In a run that starts without accounts, at a cost that new hashes may have, and in which tokens
can be issued whenever somebody comes, a login that comes in after a registration under its identity
was answered is refused exactly if the digests of the two passwords differ at the cost and with the
salt of the registration. Otherwise it is answered for the user of the registration, and so it is
when the passwords have the same words, as different ones may.
-/
theorem login_refused_iff_digests_differ (memory : deps.accounts = .memory)
    (cost : Password.isNewCost deps.passwordCost = true)
    (salts : ∀ n, (deps.salt n).length = Password.saltSize) (empty : start.users = {})
    (run : Serves deps start history state)
    (issues : ∀ visited ∈ history, deps.broker.CanIssue visited.before.world.now)
    (whole : history = past ++ login :: later) (came : login.CameIn .login identity)
    (among : registration ∈ past) (registers : registration.visit.purpose = .register)
    (same : registration.visit.identity = identity)
    (granted : registration.outcome = .returned (.ok grant))
    : Compares deps registration login grant.userId := by
  obtain ⟨visit, earlier, ran, rfl⟩ := run.split whole
  rw [whole] at issues
  obtain ⟨before, onwards⟩ := List.forall_mem_append.mp issues
  have founded := ran.founded memory cost salts empty before
  have ensues := founded.ensues memory cost salts (onwards _ List.mem_cons_self) visit
  exact ensues.compares cost salts came among registers same granted

/-- A configuration with one key. -/
def oneKeyConfig : Config :=
  Config.plain [⟨"k", ⟨"first-secret-first-secret-first-se"⟩⟩] "k" none

/-- The service of that configuration, with zeros for salts. -/
def Deps.saltingWithZeros : Deps Backend :=
  let key : SigningKey := ⟨"k", ⟨"first-secret-first-secret-first-se"⟩⟩
  .inMemory oneKeyConfig
    ⟨⟨[key], key⟩, none, oneKeyConfig.tokenLifetime, oneKeyConfig.clockSkew⟩
    fun _ => List.replicate 16 0

example : Deps.ofConfig oneKeyConfig (fun _ => List.replicate 16 0) = .ok .saltingWithZeros := rfl

/-- What a registration with a password and then a login with a password come to, right after that
service has started.
-/
def Visit.ofPasswords (chosen given : String) : Visited × Visited :=
  let deps := Deps.saltingWithZeros
  let start : State Backend := .ofConfig oneKeyConfig default ⟨1700000000, 0⟩
  let registration := Visit.pay deps ⟨.register, ⟨"a@b", chosen⟩, none⟩ start
  (registration, Visit.pay deps ⟨.login, ⟨"a@b", given⟩, none⟩ registration.after)

theorem Deps.canIssue_saltingWithZeros {now : Instant} (early : now.seconds = 1700000000)
    : saltingWithZeros.broker.CanIssue now :=
  ⟨by decide, by rw [early]; decide⟩

/-- A login with another short password is refused exactly if it has another digest. -/
theorem login_refused_iff_digests_differ_of_short_passwords
    : let (registration, login) := Visit.ofPasswords "right" "wrong"
      ∃ grant, registration.outcome = .returned (.ok grant)
        ∧ Compares Deps.saltingWithZeros registration login grant.userId := by
  let deps := Deps.saltingWithZeros
  let registration := (Visit.ofPasswords "right" "wrong").1
  let login := (Visit.ofPasswords "right" "wrong").2
  have run : Serves deps registration.before [registration, login] login.after :=
    .serves (.serves .starts ⟨.register, ⟨"a@b", "right"⟩, none⟩) ⟨.login, ⟨"a@b", "wrong"⟩, none⟩
  have cameFirst : registration.CameIn .register "a@b" :=
    ⟨rfl, by decide +kernel, by decide +kernel⟩
  have cameThen : login.CameIn .login "a@b" := ⟨rfl, by decide +kernel, by decide +kernel⟩
  have issuesFirst : deps.broker.CanIssue registration.before.world.now :=
    Deps.canIssue_saltingWithZeros (by decide +kernel)
  have issuesThen : deps.broker.CanIssue login.before.world.now :=
    Deps.canIssue_saltingWithZeros (by decide +kernel)
  obtain ⟨grant, _, registered, _⟩ :=
    Visit.pay_of_free rfl (by decide) cameFirst (by decide +kernel) issuesFirst
  refine ⟨grant, registered.answered, ?_⟩
  exact login_refused_iff_digests_differ rfl (by decide) (fun _ => rfl) rfl run
    (List.forall_mem_cons.mpr ⟨issuesFirst, List.forall_mem_singleton.mpr issuesThen⟩)
    (show [registration, login] = [registration] ++ [login] from rfl) cameThen
    List.mem_cons_self rfl cameFirst.identity_eq registered.answered

/-- A login with a password that differs from that of the account in the 73rd byte is answered. -/
theorem other_password_logs_in
    : let chosen : String := .ofList (List.replicate 72 'a' ++ ['b'])
      let given : String := .ofList (List.replicate 72 'a' ++ ['c'])
      let (registration, login) := Visit.ofPasswords chosen given
      chosen ≠ given
      ∧ (∃ text, Password.hash 10 (List.replicate 16 0) chosen = .ok text
          ∧ Password.verify given text = .ok true)
      ∧ ∃ grant, registration.outcome = .returned (.ok grant) ∧ login.IsAnsweredFor grant.userId
    := by
  intro chosen given
  let deps := Deps.saltingWithZeros
  let registration := (Visit.ofPasswords chosen given).1
  let login := (Visit.ofPasswords chosen given).2
  have cameFirst : registration.CameIn .register "a@b" :=
    ⟨rfl, by decide +kernel, by decide +kernel⟩
  have cameThen : login.CameIn .login "a@b" := ⟨rfl, by decide +kernel, by decide +kernel⟩
  have issuesFirst : deps.broker.CanIssue registration.before.world.now :=
    Deps.canIssue_saltingWithZeros (by decide +kernel)
  have issuesThen : deps.broker.CanIssue login.before.world.now :=
    Deps.canIssue_saltingWithZeros (by decide +kernel)
  have sameKey : Password.keyWords (Text.utf8 given) = Password.keyWords (Text.utf8 chosen) :=
    Password.keyWords_eq_of_take_eq (by decide +kernel)
  refine ⟨by decide +kernel, Password.verify_of_keyWords_eq (by decide) (by decide) sameKey, ?_⟩
  have founded := (Founded.start deps).pay rfl (by decide) (fun _ => rfl) issuesFirst
    ⟨.register, ⟨"a@b", chosen⟩, none⟩
  have ensues : Ensues deps [registration] login :=
    founded.ensues rfl (by decide) (fun _ => rfl) issuesThen _
  obtain ⟨grant, _, registered, _⟩ :=
    Visit.pay_of_free rfl (by decide) cameFirst (by decide +kernel) issuesFirst
  have compares := ensues.compares (by decide) (fun _ => rfl) cameThen List.mem_cons_self rfl
    cameFirst.identity_eq registered.answered
  exact ⟨grant, registered.answered, compares.sameKey sameKey⟩

end ChatServer.Rpc
