import ChatServer.Proofs.Rpc.Operation
import ChatServer.Proofs.Store.Chats
import ChatServer.Proofs.Store.Transcripts
import ChatServer.Proofs.Token.Migration

/-! The lists that are answered to a caller. One is the beginning of the one list of all chats of
the caller, and how long it may be is for the caller to say, up to a greatest length. The other is
the end of the one transcript of the caller's conversation with somebody.
-/

namespace ChatServer.Rpc

open ChatServer.Store

variable {deps : Deps Backend} {config : Config} {salt : Nat → List UInt8}

/-- There is one list of all chats of an identity. The store gives as many of its first ones as it
is asked for, in whatever order its table of latest messages is passed, and a caller is answered
with as many as requested, at most 500, or with 50 for a request of none.
-/
theorem chats_listed (deployed : Deps.ofConfig config salt = .ok deps) (state : State Backend)
    (identity : String)
    : let store := state.world.backend.store
      ∃ chats,
        store.IsListing identity chats
        ∧ (∀ others, store.IsListing identity others → others = chats)
        ∧ (∀ limit, store.recentChats identity limit = chats.take limit)
        ∧ (∀ entries,
            entries.Perm (latestByPartner (Identity.normalize identity) store.messages).entries →
            sortedChats entries = chats)
        ∧ ∀ caller : Token.Caller, caller.identity = identity → ∀ requested : UInt32,
            listChats deps (some caller) requested.toNat state
              = (.returned (.ok (chats.take
                  (if requested = 0 then 50 else min requested.toNat 500))), state) := by
  intro store
  obtain ⟨chats, listing, cut⟩ := isListing_recentChats store identity
  refine ⟨chats, listing, fun _ other => other.unique listing, cut, ?_, ?_⟩
  · exact fun entries perm => (isListing_sortedChats store identity perm).unique listing
  · intro caller same requested
    have none_iff : requested.toNat = 0 ↔ requested = 0 :=
      ⟨fun zero => UInt32.toNat_inj.mp zero, fun zero => by rw [zero]; rfl⟩
    rw [listChats_eq (Deps.shareStore_of_ofConfig deployed), same, cut, listLimit]
    simp only [none_iff]

/-- Three chats, two of them at one time, one of which is with oneself: the newer one comes first,
then the others by partner, and a request of one is answered with the first.
-/
theorem chats_listed_of_three
    : let key : SigningKey := ⟨"k", ⟨"first-secret-first-secret-first-se"⟩⟩
      let config := Config.plain [key] "k" none
      let store : Store := {
        messages := [
          ⟨default, "a@x", "b@x", "late", ⟨5, 0⟩⟩,
          ⟨default, "c@x", "a@x", "new", ⟨7, 0⟩⟩,
          ⟨default, "b@x", "a@x", "as late", ⟨5, 0⟩⟩,
          ⟨default, "a@x", "b@x", "early", ⟨3, 0⟩⟩,
          ⟨default, "a@x", "a@x", "note", ⟨5, 0⟩⟩] }
      let state := (State.ofConfig config default ⟨9, 0⟩).withBackend { store }
      let caller : Token.Caller := ⟨"u1", "a@x"⟩
      let chats : List ChatSummary :=
        [⟨"c@x", "new", ⟨7, 0⟩⟩, ⟨"a@x", "note", ⟨5, 0⟩⟩, ⟨"b@x", "as late", ⟨5, 0⟩⟩]
      ∃ deps,
        Deps.ofConfig config (fun _ => []) = .ok deps
        ∧ store.IsListing "a@x" chats
        ∧ store.recentChats "a@x" 2 = chats.take 2
        ∧ listChats deps (some caller) 0 state = (.returned (.ok chats), state)
        ∧ listChats deps (some caller) 1 state = (.returned (.ok (chats.take 1)), state) := by
  intro key config store state caller chats
  let broker : Token.Broker := ⟨⟨[key], key⟩, none, config.tokenLifetime, config.clockSkew⟩
  have deployed : Deps.ofConfig config (fun _ => [])
      = .ok (Deps.inMemory config broker fun _ => []) := rfl
  let entries : List (String × StoredMessage) := [
    ("c@x", ⟨default, "c@x", "a@x", "new", ⟨7, 0⟩⟩),
    ("a@x", ⟨default, "a@x", "a@x", "note", ⟨5, 0⟩⟩),
    ("b@x", ⟨default, "b@x", "a@x", "as late", ⟨5, 0⟩⟩)]
  obtain ⟨all, listing, _, cut, sorted, answer⟩ := chats_listed deployed state "a@x"
  have named : all = chats := by
    rw [← sorted entries (by decide +kernel)]
    exact List.mergeSort_of_pairwise (by decide +kernel)
  subst named
  exact ⟨_, deployed, listing, cut 2, answer caller rfl 0, answer caller rfl 1⟩

/-- There is one transcript of the conversation of two identities, in whatever spelling they are
given. The store gives the end of it, as many messages as it is asked for if there are as many; the
same to both, and with more asked for the same with earlier ones before it. A caller who names a
partner is answered with the last hundred.
-/
theorem history_transcribed (deployed : Deps.ofConfig config salt = .ok deps)
    (state : State Backend) (identity other : String)
    : let store := state.world.backend.store
      ∃ transcript,
        store.IsTranscript identity other transcript
        ∧ (∀ another, store.IsTranscript identity other another → another = transcript)
        ∧ (∀ limit, ∃ shown,
            store.history identity other limit = shown.map (·.1)
            ∧ shown <:+ transcript
            ∧ shown.length = min limit transcript.length)
        ∧ (∀ limit, store.history identity other limit = store.history other identity limit)
        ∧ (∀ limit more, limit ≤ more →
            store.history identity other limit <:+ store.history identity other more)
        ∧ ∀ caller : Token.Caller, caller.identity = identity →
            getHistory deps (some caller) other state
              = (if Identity.normalize other = "" then
                  .returned (.error ⟨.invalidArgument, "with_email is required"⟩)
                else
                  .returned (.ok (store.history identity other 100)), state) := by
  intro store
  have transcript := isTranscript_transcribed store identity other
  refine ⟨_, transcript, fun _ also => also.unique transcript, fun limit => ?_,
    history_comm store identity other, fun _ _ le => history_suffix store identity other le, ?_⟩
  · refine ⟨_, transcript.history_eq limit, List.drop_suffix _ _, ?_⟩
    rw [List.length_drop]
    omega
  · rintro caller rfl
    rw [getHistory_eq (Deps.shareStore_of_ofConfig deployed),
      history_spelled rfl (Identity.normalize_normalize other)]
    rfl

/-- Two messages at one time, one before them that was stored behind, and one between others: in
whatever spelling, the transcript has the first three in the order of time, and the history its end.
-/
theorem history_transcribed_of_equal_times
    : let key : SigningKey := ⟨"k", ⟨"first-secret-first-secret-first-se"⟩⟩
      let config := Config.plain [key] "k" none
      let late : StoredMessage := ⟨default, "a@x", "b@x", "late", ⟨5, 0⟩⟩
      let aside : StoredMessage := ⟨default, "c@x", "a@x", "aside", ⟨7, 0⟩⟩
      let asLate : StoredMessage := ⟨default, "b@x", "a@x", "as late", ⟨5, 0⟩⟩
      let early : StoredMessage := ⟨default, "a@x", "b@x", "early", ⟨3, 0⟩⟩
      let store : Store := { messages := [late, aside, asLate, early] }
      let state := (State.ofConfig config default ⟨9, 0⟩).withBackend { store }
      let caller : Token.Caller := ⟨"u1", "A@x"⟩
      ∃ deps,
        Deps.ofConfig config (fun _ => []) = .ok deps
        ∧ store.IsTranscript "A@x" " b@X" [(early, 3), (late, 0), (asLate, 2)]
        ∧ store.history "A@x" " b@X" 2 = [late, asLate]
        ∧ store.history "A@x" " b@X" 2 <:+ store.history "A@x" " b@X" 3
        ∧ getHistory deps (some caller) " b@X" state
          = (.returned (.ok [early, late, asLate]), state) := by
  intro key config late aside asLate early store state caller
  let broker : Token.Broker := ⟨⟨[key], key⟩, none, config.tokenLifetime, config.clockSkew⟩
  have deployed : Deps.ofConfig config (fun _ => [])
      = .ok (Deps.inMemory config broker fun _ => []) := rfl
  have written : store.IsTranscript "A@x" " b@X" [(early, 3), (late, 0), (asLate, 2)] :=
    isTranscript_of_perm (by decide +kernel) (by decide +kernel)
  have named : Identity.normalize " b@X" ≠ "" := by decide +kernel
  have all : state.world.backend.store.history "A@x" " b@X" 100 = [early, late, asLate] :=
    written.history_eq 100
  obtain ⟨_, _, _, _, _, longer, answer⟩ := history_transcribed deployed state "A@x" " b@X"
  have answered := answer caller rfl
  rw [if_neg named, all] at answered
  exact ⟨_, deployed, written, written.history_eq 2, longer 2 3 (by decide), answered⟩

end ChatServer.Rpc
