import ChatServer.Proofs.Admission.Independence
import ChatServer.Proofs.Net.Addresses
import ChatServer.Proofs.Rpc.Lifecycle

/-! Who shares a bucket with whom. The limiter knows a visit by one text, and this text tells which
kind of key it was made of. So a visit shares its bucket with those under the same identity, and if
it is under none, with those that come from the same address or, like it, from none that is known.
-/

namespace ChatServer

-----------------------------------------------------------------------------------------
-- Keys
-----------------------------------------------------------------------------------------

namespace Admission.Key

/-- The key of a call that names an account, if what it names is somebody, and of its address
otherwise.
-/
theorem ofCall_eq (email : String) (peer : Option Net.Address)
    : ofCall (some email) peer
      = if Identity.normalize email = "" then (peer.map address).getD unknown
        else account (Identity.normalize email) := by
  unfold ofCall
  by_cases none : Identity.normalize email = ""
  · rw [Option.map_some, Option.filter_some_neg (by simpa using none), if_pos none]
    cases peer <;> rfl
  · rw [Option.map_some, Option.filter_some_pos (by simpa using none), if_neg none]

/-- Two calls are under one key if and only if both name the same account, or neither names any
and both have the same address or none.
-/
theorem ofCall_eq_iff {email other : String} {peer otherPeer : Option Net.Address}
    : ofCall (some email) peer = ofCall (some other) otherPeer
      ↔ (Identity.normalize email = Identity.normalize other ∧ Identity.normalize email ≠ "")
        ∨ (Identity.normalize email = "" ∧ Identity.normalize other = "" ∧ peer = otherPeer) := by
  rw [ofCall_eq, ofCall_eq]
  by_cases none : Identity.normalize email = "" <;> by_cases noneToo : Identity.normalize other = ""
  · cases peer <;> cases otherPeer <;> simp [none, noneToo]
  · cases peer <;> simp [none, noneToo]
  · cases otherPeer <;> simp [none, noneToo]
  · simp [none, noneToo]

/-- If the key is about an address, it is one that there is. -/
def IsProper (key : Key) : Prop :=
  ∀ peer, key = address peer → peer.IsProper

theorem isProper_ofCall (email : String) {peer : Option Net.Address}
    (proper : ∀ address ∈ peer, address.IsProper)
    : (ofCall (some email) peer).IsProper := by
  intro own same
  rw [ofCall_eq] at same
  split at same
  next =>
    cases peer with
    | none => cases same
    | some peer =>
        obtain rfl : peer = own := address.inj same
        exact proper peer rfl
  next => cases same

/-- The texts of keys of different kinds begin differently. -/
theorem kind_eq_of_render {key other : Key} (same : key.render = other.render)
    : key.kind = other.kind := by
  have first := congrArg (·.toList.head?) same
  cases key <;> cases other <;> first | rfl | simp [render] at first

/-- Different keys have different texts. -/
theorem render_injective {key other : Key} (proper : key.IsProper) (properToo : other.IsProper)
    (same : key.render = other.render)
    : key = other := by
  have kinds := kind_eq_of_render same
  cases key with
  | account identity =>
      cases other with
      | account => exact congrArg account ((String.append_right_inj _).mp same)
      | address | unknown => simp [kind] at kinds
  | address peer =>
      cases other with
      | address =>
          have texts := (String.append_right_inj _).mp same
          have peers :=
            Net.Address.render_injective (proper _ rfl) (properToo _ rfl) texts
          exact congrArg address peers
      | account | unknown => simp [kind] at kinds
  | unknown =>
      cases other with
      | unknown => rfl
      | account | address => simp [kind] at kinds

end Admission.Key

namespace Rpc

open Admission

variable {σ α : Type}

-----------------------------------------------------------------------------------------
-- Buckets of calls
-----------------------------------------------------------------------------------------

/-- A call asks the limiter about a key before it does anything else, and does nothing else if it
is refused.
-/
def IsLimitedUnder (key : String) (call : Call σ α) : Prop :=
  ∃ next : Call σ α, ∀ state, call state
    = if (state.allow key).1 then next (state.allow key).2
      else (.returned (.error Failure.rateLimited.status), (state.allow key).2)

/-- What begins with the admission of a request is limited under the key of the request. -/
theorem isLimitedUnder_admission (email : String) (peer : Option Net.Address)
    (next : Unit → Call σ α)
    : IsLimitedUnder (Key.ofCall (some email) peer).render (admission email peer >>= next) := by
  refine ⟨next (), fun state => ?_⟩
  have decided := admission_eq email peer state
  dsimp only at decided
  split
  next allowed =>
    rw [if_pos allowed] at decided
    exact Call.bind_of_answered decided next
  next refused =>
    rw [if_neg refused] at decided
    exact Call.bind_of_refused decided next

/-- A call is limited under one key only: where everybody is refused, what it leaves behind is the
entry of its key.
-/
theorem IsLimitedUnder.unique {call : Call σ α} {key other : String} (start : State σ)
    (one : IsLimitedUnder key call) (another : IsLimitedUnder other call)
    : key = other := by
  let closed : State σ := { start with limiter := { limits := ⟨0, 0, 0⟩ }, ticks := 0 }
  have refused (key : String) : ¬ (closed.allow key).1 = true := by
    have answer : (closed.allow key).1
        = ((closed.limiter.bucketOf 0 key).answer ⟨0, 0, 0⟩ 0).1 := rfl
    have full : closed.limiter.bucketOf 0 key = .full ⟨0, 0, 0⟩ 0 := rfl
    rw [answer, full]
    decide +kernel
  obtain ⟨_, here⟩ := one
  obtain ⟨_, there⟩ := another
  have same := (here closed).symm.trans (there closed)
  rw [if_neg (refused key), if_neg (refused other)] at same
  have entries := congrArg (·.2.limiter.entries.keys) same
  exact (List.cons.inj entries).1

namespace Visit

/-- The key that a visit is limited under. -/
def key (visit : Visit) : Key :=
  .ofCall (some visit.credentials.email) visit.peer

/-- A visit is limited under the text of its key, and under nothing else. -/
theorem isLimitedUnder_call_iff (deps : Deps Backend) (visit : Visit) (text : String)
    : IsLimitedUnder text (visit.call deps) ↔ text = visit.key.render := by
  have own : IsLimitedUnder visit.key.render (visit.call deps) := by
    obtain ⟨next, whole⟩ := visit.call_eq_entering deps
    rw [whole]
    exact isLimitedUnder_admission _ _ _
  let start : State Backend :=
    { world := { backend := {}, now := ⟨0, 0⟩ }, limiter := { limits := ⟨0, 0, 0⟩ } }
  exact ⟨fun limited => limited.unique start own, fun same => same ▸ own⟩

/-- The visit comes from an address that there is, or from none that is known. -/
def HasProperPeer (visit : Visit) : Prop :=
  ∀ peer ∈ visit.peer, peer.IsProper

instance (visit : Visit) : Decidable visit.HasProperPeer :=
  inferInstanceAs (Decidable (∀ peer ∈ visit.peer, peer.IsProper))

theorem HasProperPeer.key {visit : Visit} (proper : visit.HasProperPeer) : visit.key.IsProper :=
  Key.isProper_ofCall visit.credentials.email proper

/-- Two visits are under one key if and only if both are under one identity, or neither is under any
and both come from one address or from none that is known.
-/
theorem key_eq_iff {visit other : Visit}
    : visit.key = other.key
      ↔ (visit.identity = other.identity ∧ visit.identity ≠ "")
        ∨ (visit.identity = "" ∧ other.identity = "" ∧ visit.peer = other.peer) :=
  Key.ofCall_eq_iff

end Visit

-----------------------------------------------------------------------------------------
-- Shared buckets
-----------------------------------------------------------------------------------------

/-- Whatever two visits name and wherever they come from, the limiter is asked about each under one
text. The two texts are the same if and only if both visits are under one identity, or neither is
under any and both come from one address or from none that is known. No visit under an identity has
the text of an address or of no address, an address of version 4 has another text than the address
of version 6 that it is inside of, and no two addresses of version 6 have one text.
-/
theorem buckets_shared (deps : Deps Backend) {visit other : Visit} (proper : visit.HasProperPeer)
    (properToo : other.HasProperPeer)
    : (∀ text, IsLimitedUnder text (visit.call deps) ↔ text = visit.key.render)
      ∧ (∀ text, IsLimitedUnder text (other.call deps) ↔ text = other.key.render)
      ∧ (visit.key.render = other.key.render
        ↔ (visit.identity = other.identity ∧ visit.identity ≠ "")
          ∨ (visit.identity = "" ∧ other.identity = "" ∧ visit.peer = other.peer))
      ∧ (visit.identity ≠ "" → visit.key.render ≠ Key.unknown.render
        ∧ ∀ address, visit.key.render ≠ (Key.address address).render)
      ∧ (∀ a b c d, (Key.address (.v4 a b c d)).render ≠ (Key.address (.mapped a b c d)).render)
      ∧ ∀ groups others, (Net.Address.v6 groups).IsProper → (Net.Address.v6 others).IsProper →
          (Net.Address.v6 groups).render = (Net.Address.v6 others).render → groups = others := by
  refine ⟨visit.isLimitedUnder_call_iff deps, other.isLimitedUnder_call_iff deps, ?_, ?_, ?_, ?_⟩
  · constructor
    · exact fun same => Visit.key_eq_iff.mp (Key.render_injective proper.key properToo.key same)
    · exact fun owner => congrArg Key.render (Visit.key_eq_iff.mpr owner)
  · intro named
    have account : visit.key = .account visit.identity :=
      (Key.ofCall_eq _ _).trans (if_neg named)
    have kinds {other : Key} (differ : "identity" ≠ other.kind)
        : visit.key.render ≠ other.render := by
      rw [account]
      exact mt Key.kind_eq_of_render differ
    exact ⟨kinds (by decide), fun _ => kinds (by simp [Key.kind])⟩
  · intro a b c d same
    have texts := String.ofList_injective ((String.append_right_inj _).mp same)
    exact Net.Address.dotted_ne_toChars a b c d (List.cons_ne_nil _ _) texts
  · intro groups others proper properToo same
    exact Net.Address.v6.inj (Net.Address.render_injective proper properToo same)

/-- An identity in two spellings, from addresses of both versions, and a blank one from the second
of these addresses.
-/
theorem buckets_shared_of_two_spellings
    : let key : SigningKey := ⟨"k", ⟨"first-secret-first-secret-first-se"⟩⟩
      let config := Config.plain [key] "k" none
      let address : Net.Address := .v6 [0x2001, 0xdb8, 0, 0, 1, 0, 0, 1]
      let visit : Visit := ⟨.register, ⟨" Alice@X", "pw"⟩, some (.v4 192 0 2 7)⟩
      let other : Visit := ⟨.login, ⟨"alice@x ", "pw"⟩, some address⟩
      let blank : Visit := ⟨.login, ⟨" ", "pw"⟩, some address⟩
      ∃ deps, Deps.ofConfig config (fun _ => List.replicate 16 0) = .ok deps
        ∧ visit.HasProperPeer ∧ other.HasProperPeer ∧ blank.HasProperPeer
        ∧ IsLimitedUnder "email:alice@x" (visit.call deps)
        ∧ IsLimitedUnder "email:alice@x" (other.call deps)
        ∧ IsLimitedUnder "addr:2001:db8::1:0:0:1" (blank.call deps)
        ∧ visit.key.render = other.key.render ∧ other.key.render ≠ blank.key.render := by
  intro key config address visit other blank
  let broker : Token.Broker := ⟨⟨[key], key⟩, none, config.tokenLifetime, config.clockSkew⟩
  let deps := Deps.inMemory config broker fun _ => List.replicate 16 0
  have proper : visit.HasProperPeer ∧ other.HasProperPeer ∧ blank.HasProperPeer := by
    decide +kernel
  obtain ⟨here, there, shared, _⟩ := buckets_shared deps proper.1 proper.2.1
  obtain ⟨_, elsewhere, apart, _⟩ := buckets_shared deps proper.2.1 proper.2.2
  have spellings : visit.identity = other.identity ∧ visit.identity ≠ "" := by decide +kernel
  have blankIdentity : other.identity ≠ blank.identity ∧ other.identity ≠ "" := by decide +kernel
  refine ⟨deps, rfl, proper.1, proper.2.1, proper.2.2, (here _).mpr (by decide +kernel),
    (there _).mpr (by decide +kernel), (elsewhere _).mpr (by decide +kernel),
    shared.mpr (.inl spellings), ?_⟩
  intro same
  rcases apart.mp same with ⟨identities, _⟩ | ⟨none, _⟩
  · exact blankIdentity.1 identities
  · exact blankIdentity.2 none

end Rpc

end ChatServer
