import ChatServer.Proofs.Store.Ids
import ChatServer.Proofs.Text.Normalization

/-! Accounts in the store. An account is created once, under its own email address in its normalized
spelling, and nothing moves it afterwards; so whoever is found under an identity has that identity.
-/

namespace ChatServer.Store

/-- The account that is made for an email address. -/
def newUser (store : Store) (email passwordHash : String) (now : Instant) : User :=
  ⟨store.ids.next.1, Identity.normalize email, passwordHash, now⟩

/-- The store with the account for an email address. -/
def withUser (store : Store) (email passwordHash : String) (now : Instant) : Store :=
  { store with
    users := store.users.set (Identity.normalize email) (store.newUser email passwordHash now)
    ids := store.ids.next.2 }

/-- An account that is there already is not created again. -/
theorem createUser_of_some {store : Store} {email : String} {user : User}
    (taken : store.users.get? (Identity.normalize email) = some user) (passwordHash : String)
    (now : Instant)
    : store.createUser email passwordHash now = (.error (.alreadyExists "user"), store) := by
  unfold createUser Table.contains
  simp only [taken, Option.isSome_some, if_true]

/-- An account is created where there is none. -/
theorem createUser_of_none {store : Store} {email : String}
    (absent : store.users.get? (Identity.normalize email) = none) (passwordHash : String)
    (now : Instant)
    : store.createUser email passwordHash now
      = (.ok (store.newUser email passwordHash now), store.withUser email passwordHash now) := by
  unfold createUser Table.contains
  simp only [absent, Option.isSome_none, Bool.false_eq_true, if_false]
  rfl

/-- Every account stands under its own email address, in its normalized spelling. -/
def Filed (store : Store) : Prop :=
  ∀ identity user, store.users.get? identity = some user →
    user.email = identity ∧ Identity.normalize identity = identity

theorem Filed.empty (ids : IdSource) : Filed { ids } :=
  fun _ _ found => by cases found

/-- Whatever happens to the store, accounts stay filed: only a new one is put in. -/
theorem Filed.used {before after : Store} (h : before.Filed) (used : Used before after)
    : after.Filed := by
  cases used with
  | looked => exact h
  | persisted => exact h
  | created email passwordHash now =>
      cases there : before.users.get? (Identity.normalize email) with
      | some user =>
          rw [createUser_of_some there]
          exact h
      | none =>
          rw [createUser_of_none there]
          intro identity user found
          change (before.users.set _ _).get? identity = some user at found
          rw [Table.get?_set] at found
          split at found
          next same =>
            obtain rfl := Option.some.inj found
            exact ⟨same.symm, same ▸ Identity.normalize_normalize email⟩
          next => exact h identity user found

/-- An account stays as it was made, whatever else happens to the store. -/
theorem Used.keeps_user {before after : Store} (used : Used before after) {identity : String}
    {user : User} (found : before.users.get? identity = some user)
    : after.users.get? identity = some user := by
  cases used with
  | looked => exact found
  | persisted => exact found
  | created email passwordHash now =>
      cases there : before.users.get? (Identity.normalize email) with
      | some other =>
          rw [createUser_of_some there]
          exact found
      | none =>
          rw [createUser_of_none there]
          have differ : identity ≠ Identity.normalize email := fun same => by
            cases (same ▸ found).symm.trans there
          exact ((Table.get?_set _ _ _ _).trans (if_neg differ)).trans found

/-- Who is found for an email address has it as identity. -/
theorem Filed.email_of_findByEmail {store : Store} (h : store.Filed) {email : String} {user : User}
    (found : store.findByEmail email = some user)
    : user.email = Identity.normalize email :=
  (h _ user found).1

end ChatServer.Store
