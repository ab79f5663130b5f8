import ChatServer.Live.Session
import ChatServer.Proofs.Text.CaseVariants
import ChatServer.Rpc.Service

/-! When two spellings are one user. Whatever is done under a name is done under its normalized
form, so two spellings are one user as soon as that form is the same. Spellings that differ in case
have the same form but for capital sigmas at the ends of words.
-/

namespace ChatServer

open Identity

-----------------------------------------------------------------------------------------
-- One user
-----------------------------------------------------------------------------------------

/-- Whatever is done under one spelling is the same as if it were done under the other one. -/
structure AreOneUser (s t : String) : Prop where
  registers
    : ∀ {σ : Type} (deps : Rpc.Deps σ) (password : String) (peer : Option Net.Address),
        Rpc.register deps ⟨s, password⟩ peer = Rpc.register deps ⟨t, password⟩ peer
  logsIn
    : ∀ {σ : Type} (deps : Rpc.Deps σ) (password : String) (peer : Option Net.Address),
        Rpc.login deps ⟨s, password⟩ peer = Rpc.login deps ⟨t, password⟩ peer
  limited
    : ∀ peer : Option Net.Address,
        Admission.Key.ofCall (some s) peer = Admission.Key.ofCall (some t) peer
  /-- The accounts do not tell them apart. -/
  accounts
    : ∀ store : Store,
        store.userExists s = store.userExists t ∧ store.findByEmail s = store.findByEmail t
          ∧ ∀ hash now, store.createUser s hash now = store.createUser t hash now
  /-- A session that is to send to the one ends or goes on to store as one that is to send to the
  other does.
  -/
  checks
    : ∀ {σ : Type} (services : Live.Services σ) (world : Live.World σ) (number : Nat)
        (session : Live.Session) (content : String),
        world.check services number session ⟨s, content⟩
            = world.check services number session ⟨t, content⟩
          ∨ ∃ asked : Live.World σ,
              world.check services number session ⟨s, content⟩
                  = asked.enter number session (.storing ⟨s, content⟩)
                ∧ world.check services number session ⟨t, content⟩
                  = asked.enter number session (.storing ⟨t, content⟩)
  /-- The message is stored for the same recipient, and delivered to the same one. -/
  stores
    : ∀ {σ : Type} (services : Live.Services σ) (world : Live.World σ) (number : Nat)
        (session : Live.Session) (content : String),
        world.store services number session ⟨s, content⟩
          = world.store services number session ⟨t, content⟩

section

variable {s t : String}

/-- The limiter's key tells the identity. -/
theorem normalize_eq_of_ofCall_eq
    (same : Admission.Key.ofCall (some s) none = Admission.Key.ofCall (some t) none)
    : normalize s = normalize t := by
  simp only [Admission.Key.ofCall, Option.map_some, Option.filter_some, decide_not] at same
  by_cases first : normalize s = "" <;> by_cases second : normalize t = ""
  · rw [first, second]
  · simp [first, second] at same
  · simp [first, second] at same
  · simpa [first, second] using same

variable (same : normalize s = normalize t)

include same

theorem ofCall_eq_of_normalize_eq (peer : Option Net.Address)
    : Admission.Key.ofCall (some s) peer = Admission.Key.ofCall (some t) peer := by
  simp only [Admission.Key.ofCall, Option.map_some, same]

theorem admission_eq_of_normalize_eq {σ : Type} (peer : Option Net.Address)
    : (Rpc.admission s peer : Rpc.Call σ Unit) = Rpc.admission t peer := by
  funext state
  simp only [Rpc.admission, ofCall_eq_of_normalize_eq same]

theorem validate_eq_of_normalize_eq (password : String)
    : Rpc.validate ⟨s, password⟩ = Rpc.validate ⟨t, password⟩ := by
  simp only [Rpc.validate, same]

/-- Spellings of one identity are one user. -/
theorem AreOneUser.of_normalize_eq : AreOneUser s t where
  registers deps password peer := by
    rw [Rpc.register, Rpc.register, admission_eq_of_normalize_eq same,
      validate_eq_of_normalize_eq same]
  logsIn deps password peer := by
    rw [Rpc.login, Rpc.login, admission_eq_of_normalize_eq same, validate_eq_of_normalize_eq same]
  limited := ofCall_eq_of_normalize_eq same
  accounts store := by
    simp only [Store.userExists, Store.findByEmail, Store.createUser, same, implies_true, and_self]
  checks services world number session content := by
    simp only [Live.World.check, same]
    split
    case h_4 => exact .inr ⟨_, rfl, rfl⟩
    all_goals exact .inl rfl
  stores services world number session content := by simp only [Live.World.store, same]

end

theorem areOneUser_iff_normalize_eq {s t : String} : AreOneUser s t ↔ normalize s = normalize t :=
  ⟨fun one => normalize_eq_of_ofCall_eq (one.limited none), .of_normalize_eq⟩

-----------------------------------------------------------------------------------------
-- Case variants
-----------------------------------------------------------------------------------------

/-- Texts without a capital sigma that differ in case only are one user. -/
theorem Identity.IsCaseVariant.areOneUser {s t : String} (variants : IsCaseVariant s t)
    (first : Text.capitalSigma ∉ s.toList) (second : Text.capitalSigma ∉ t.toList)
    : AreOneUser s t :=
  .of_normalize_eq (variants.normalize_eq_iff.mpr (variants.haveSameFinals first second))

/-- Two texts whose characters, lower-cased one by one, are the same are one user exactly if at
every place where a letter ends a word it comes from a capital sigma in both of them or in none. In
any case their identities are the same but for final sigmas that may stand for common ones.
-/
theorem areOneUser_iff_haveSameFinals {s t : String} (variants : IsCaseVariant s t)
    : (AreOneUser s t ↔ HaveSameFinals s t)
      ∧ (normalize s).toList.map Text.unfinal = (normalize t).toList.map Text.unfinal :=
  ⟨areOneUser_iff_normalize_eq.trans variants.normalize_eq_iff, variants.map_unfinal⟩

/-- Two spellings that end a word with a capital sigma, with capitals elsewhere in one of them. -/
theorem areOneUser_iff_haveSameFinals_of_capital_finals
    : let s := " ΣΑΣ@x"
      let t := " σαΣ@X"
      IsCaseVariant s t ∧ HaveSameFinals s t ∧ AreOneUser s t := by
  intro s t
  have variants : IsCaseVariant s t := by
    rw [IsCaseVariant]
    decide +kernel
  have finals : HaveSameFinals s t := variants.normalize_eq_iff.mp (by decide +kernel)
  exact ⟨variants, finals, (areOneUser_iff_haveSameFinals variants).1.mpr finals⟩

/-- A name that ends with a sigma is that of another user in capitals: the account is not found
under it, and the limiter counts it apart.
-/
theorem final_sigma_is_second_user
    : let s := "ασ@x"
      let t := "ΑΣ@X"
      let store := (({} : Store).createUser s "h" ⟨1700000000, 0⟩).2
      IsCaseVariant s t ∧ normalize s = "ασ@x" ∧ normalize t = "ας@x"
      ∧ store.userExists s = true ∧ store.userExists t = false
      ∧ Admission.Key.ofCall (some s) none ≠ Admission.Key.ofCall (some t) none
      ∧ ¬ AreOneUser s t := by
  intro s t store
  have own : normalize s = "ασ@x" := by decide +kernel
  have other : normalize t = "ας@x" := by decide +kernel
  have apart : normalize s ≠ normalize t := by
    rw [own, other]
    decide
  refine ⟨?_, own, other, by decide +kernel, by decide +kernel,
    mt normalize_eq_of_ofCall_eq apart, mt areOneUser_iff_normalize_eq.mp apart⟩
  rw [IsCaseVariant]
  decide +kernel

end ChatServer
