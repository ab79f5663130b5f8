import ChatServer.Proofs.Rpc.Operation
import ChatServer.Proofs.Rpc.Registration

/-! What a grant is good for. At the time of the call its token lets whoever holds it come past the
guard as the account that it was issued for, unless it is larger than a token may be that is
verified. Issuing knows no such bound: a token is larger than the email address in it, and email
addresses may be of any size.
-/

namespace ChatServer

namespace Token.Broker

-----------------------------------------------------------------------------------------
-- The broker that issues
-----------------------------------------------------------------------------------------

/-- The broker of accepted settings knows the secret of the key that it signs with, under an id that
is not empty, and its skew of clocks is not too large.
-/
theorem knows_active {settings : Settings} {config : Config} {broker : Broker}
    (accepted : Config.ofSettings settings = .ok config) (made : ofConfig config = .ok broker)
    : broker.keys.active.id ≠ ""
      ∧ broker.secretFor? (some broker.keys.active.id) = some broker.keys.active.secret
      ∧ broker.clockSkew ≤ Config.maxClockSkew := by
  obtain ⟨same, again, keys, active, _, distinct, _, skew⟩ := ofConfig_of_accepted accepted
  obtain rfl := Except.ok.inj (again.symm.trans made)
  obtain ⟨choice, chosen, listed, _⟩ := Config.ofSettings_eq_ok accepted
  refine ⟨?_, ?_, skew ▸ Config.clockSkew_le accepted⟩
  · exact Config.chooseKeys_named chosen _ (listed ▸ active)
  · rw [secretFor?, KeySet.find?_of_mem distinct (keys ▸ active)]
    rfl

/-- A broker verifies what it has issued at the same time, if the token is not too large. -/
theorem verify_at_issue {broker : Broker} {now : Instant} {subject identity : String}
    {issued : IssuedToken}
    (returned : broker.issue now subject identity = .returned (.ok issued))
    (named : broker.keys.active.id ≠ "")
    (known : broker.secretFor? (some broker.keys.active.id) = some broker.keys.active.secret)
    (close : broker.clockSkew ≤ Config.maxClockSkew) (started : 0 ≤ now.seconds)
    (small : (Text.utf8 issued.token).length ≤ maxSize)
    : broker.verify now.seconds issued.token
      = .ok ⟨subject, Identity.normalize identity, now.seconds, now.seconds + broker.lifetime,
          some broker.keys.active.id⟩ := by
  obtain ⟨nonempty, _, within, written⟩ := issue_eq_ok returned
  have calendar : Instant.lastSecond + Config.maxClockSkew ≤ Int64.maxValue.toInt := by decide
  have skew : (broker.clockSkew : Int) ≤ Config.maxClockSkew := Int.ofNat_le.mpr close
  have inTime : now.seconds ≤ latestIssue now.seconds broker.clockSkew := by
    rw [latestIssue_eq started (by omega)]
    omega
  rw [written] at small ⊢
  rw [verify_encode now.seconds named small known ⟨started, by dsimp only; omega⟩
    ⟨by dsimp only; omega, by dsimp only; omega⟩, Identity.normalize_normalize]
  exact if_pos ⟨by dsimp only; omega, inTime, nonempty⟩

end Token.Broker

namespace Rpc

-----------------------------------------------------------------------------------------
-- The guard
-----------------------------------------------------------------------------------------

variable {deps : Deps Backend} {path : String}

/-- Nobody comes past the guard with a token that was issued but is too large. -/
theorem throughGuard_of_large (closed : isPublic path = false) {now : Instant}
    {subject identity : String} {issued : Token.IssuedToken}
    (returned : deps.broker.issue now subject identity = .returned (.ok issued))
    (large : Token.maxSize < (Text.utf8 issued.token).length) (state : State Backend)
    (rest : List (List UInt8))
    : (throughGuard deps path (Text.utf8 (bearer ++ issued.token) :: rest) state).1
      = .returned (.error unauthenticated) := by
  obtain ⟨_, _, _, written⟩ := Token.Broker.issue_eq_ok returned
  have given : (Text.utf8 (bearer ++ issued.token) :: rest).head?.bind bearerToken?
      = some issued.token := by
    rw [List.head?_cons, Option.bind_some, written, bearerToken?_encode]
  rw [throughGuard_of_token closed given, Token.Broker.verify_of_large large]

/-- Whoever has registered or logged in, not before the epoch, and sends the token of the answer at
the same time as the first authorization header of a call that is not public, comes past the guard
as the account of the answer, under the normalized email address. A token that is too large is
refused.
-/
theorem throughGuard_of_granted {settings : Settings} {config : Config}
    (accepted : Config.ofSettings settings = .ok config) {salt : Nat → List UInt8}
    (deployed : Deps.ofConfig config salt = .ok deps) {ids : IdSource} {start : Instant}
    {operation : Operation} {receipts : List Receipt}
    (run : Operates deps (State.ofConfig config ids start) operation receipts)
    (started : 0 ≤ operation.state.world.now.seconds) {credentials : Credentials}
    {peer : Option Net.Address} {grant : Grant} {later : State Backend}
    (granted : register deps credentials peer operation.state = (.returned (.ok grant), later)
      ∨ login deps credentials peer operation.state = (.returned (.ok grant), later))
    {state : State Backend}
    (clock : state.world.now.seconds = operation.state.world.now.seconds)
    (closed : isPublic path = false) (rest : List (List UInt8))
    : (throughGuard deps path (Text.utf8 (bearer ++ grant.token) :: rest) state).1
      = if (Text.utf8 grant.token).length ≤ Token.maxSize then
          .returned (.ok (some ⟨grant.userId, Identity.normalize credentials.email⟩))
        else
          .returned (.error unauthenticated) := by
  have shared := Deps.shareStore_of_ofConfig deployed
  have filed := (run.orderly shared).filed
  obtain ⟨user, issued, email, returned, rfl⟩ :
      IsGranted deps credentials operation.state grant := by
    rcases granted with registered | loggedIn
    · exact isGranted_of_register shared.accounts registered
    · exact isGranted_of_login shared.accounts filed loggedIn
  by_cases small : (Text.utf8 issued.token).length ≤ Token.maxSize
  · obtain ⟨broker, made, rfl⟩ := Deps.ofConfig_eq_ok deployed
    obtain ⟨named, known, close⟩ := Token.Broker.knows_active accepted made
    have verified :=
      Token.Broker.verify_at_issue returned named known close started small
    obtain ⟨_, _, _, written⟩ := Token.Broker.issue_eq_ok returned
    rw [← clock, email, Identity.normalize_normalize, written] at verified
    rw [if_pos small, written, throughGuard_of_verified closed verified]
    rfl
  · rw [if_neg small]
    exact throughGuard_of_large closed returned (Nat.lt_of_not_le small) state rest

-----------------------------------------------------------------------------------------
-- First registrations
-----------------------------------------------------------------------------------------

/-- A full bucket lets a call in, if there is room for one in it. -/
theorem fst_answer_full {limits : Admission.Limits}
    (room : Admission.Quantity.le (Admission.Quantity.ofNat 1) (limits.capacity : Float) = true)
    (now : Nat)
    : ((Admission.Bucket.full limits now : Admission.Bucket Float).answer limits now).1 = true := by
  have upToDate : now ≤ (Admission.Bucket.full limits now : Admission.Bucket Float).updated :=
    Nat.le_refl now
  rw [Admission.Bucket.answer, Admission.Bucket.refill, if_pos upToDate, Admission.Bucket.take]
  exact congrArg Prod.fst (if_pos room)

/-- A limiter that keeps track of nobody lets a call in, if there is room for one in a bucket. -/
theorem admission_of_untracked {state : State Backend} (untracked : state.limiter.entries = {})
    (room : Admission.Quantity.le (Admission.Quantity.ofNat 1)
      (state.limiter.limits.capacity : Float) = true)
    (email : String) (peer : Option Net.Address)
    : IsAnswered (admission email peer state).1 := by
  have allowed (key : String) : (state.limiter.allow state.ticks key).1 = true := by
    rw [Admission.Limiter.allow, Admission.Limiter.bucketOf, untracked]
    exact fst_answer_full room state.ticks
  refine ⟨(), ?_⟩
  simp only [admission, Admission.Limiter.allowCounted, allowed, if_true]

/-- A registration at the start has an answer if its credentials could be those of a user, and the
configuration leaves room for a first call, hashes passwords and issues tokens.
-/
theorem register_at_start {config : Config} {salt : Nat → List UInt8} {deps : Deps Backend}
    (deployed : Deps.ofConfig config salt = .ok deps) (ids : IdSource) {now : Instant}
    {credentials : Credentials}
    (valid : validate credentials = .ok (Identity.normalize credentials.email))
    (room : Admission.Quantity.le (Admission.Quantity.ofNat 1)
      ((limitsOf config).capacity : Float) = true)
    (cost : Password.isNewCost deps.passwordCost = true) (issues : deps.broker.CanIssue now)
    : ∃ grant later,
        register deps credentials none (State.ofConfig config ids now)
          = (.returned (.ok grant), later) := by
  let start := State.ofConfig config ids now
  have untracked : start.limiter.entries = {} := rfl
  have can : CanRegister deps credentials none start := {
    admitted := admission_of_untracked untracked room credentials.email none
    valid, cost
    free := rfl
  }
  have memory := (Deps.shareStore_of_ofConfig deployed).accounts
  obtain ⟨grant, answered⟩ :=
    (register_isAnswered_iff memory credentials none start).mpr ⟨can, issues⟩
  exact ⟨grant, _, Prod.ext answered rfl⟩

/-- The answer of a call that was answered. -/
def answerOf? {α : Type} : Completion (Except Status α) → Option α
  | .returned (.ok answer) => some answer
  | _ => none

/-- A registration whose token is small enough. -/
theorem throughGuard_of_granted_of_registered
    : let settings : Settings := [("JWT_SECRET", "single-secret-single-secret-single")]
      ∃ config deps grant later,
        Config.ofSettings settings = .ok config
        ∧ Deps.ofConfig config (fun _ => []) = .ok deps
        ∧ register deps ⟨" A@b", "pw"⟩ none (State.ofConfig config default ⟨1700000000, 0⟩)
          = (.returned (.ok grant), later)
        ∧ (throughGuard deps Method.listChats.path [Text.utf8 (bearer ++ grant.token)] later).1
          = .returned (.ok (some ⟨grant.userId, "a@b"⟩)) := by
  intro settings
  let key : SigningKey := ⟨"default", ⟨"single-secret-single-secret-single"⟩⟩
  let config := Config.plain [key] "default" (some key.secret)
  let broker : Token.Broker :=
    ⟨⟨[key], key⟩, some key.secret, config.tokenLifetime, config.clockSkew⟩
  let deps := Deps.inMemory config broker fun _ => []
  let start := State.ofConfig config default ⟨1700000000, 0⟩
  have accepted : Config.ofSettings settings = .ok config := eq_ok_of_toOption (by decide +kernel)
  have deployed : Deps.ofConfig config (fun _ => []) = .ok deps := rfl
  have normal : Identity.normalize " A@b" = "a@b" := by decide +kernel
  have settled : Identity.normalize "a@b" = "a@b" := by decide +kernel
  have valid : validate ⟨" A@b", "pw"⟩ = .ok (Identity.normalize " A@b") := by decide +kernel
  have issues : broker.CanIssue ⟨1700000000, 0⟩ := ⟨by decide, by decide⟩
  obtain ⟨grant, later, registered⟩ :=
    register_at_start deployed default valid (by decide +kernel) (by decide) issues
  have userId : (answerOf? (register deps ⟨" A@b", "pw"⟩ none start).1).map (·.userId)
      = some "00000000000000000000000000000000" := by
    decide +kernel
  have clock : (register deps ⟨" A@b", "pw"⟩ none start).2.world.now.seconds = 1700000000 := by
    decide +kernel
  rw [registered] at userId clock
  have small : (Text.utf8 grant.token).length ≤ Token.maxSize := by
    obtain ⟨user, issued, email, returned, rfl⟩ := isGranted_of_register rfl registered
    obtain ⟨_, _, _, written⟩ := Token.Broker.issue_eq_ok returned
    have id : user.id.simple = "00000000000000000000000000000000" := Option.some.inj userId
    rw [id, email, normal, settled] at written
    rw [written, Token.Broker.utf8_encode]
    decide +kernel
  have closed : isPublic Method.listChats.path = false := by decide +kernel
  have passed := throughGuard_of_granted accepted deployed .starts (by decide) (.inl registered)
    clock closed []
  rw [if_pos small, normal] at passed
  exact ⟨config, deps, grant, later, accepted, deployed, registered, passed⟩

-----------------------------------------------------------------------------------------
-- Long email addresses
-----------------------------------------------------------------------------------------

/-- An email address with so many letters before the at sign. -/
def longEmail (letters : Nat) : String :=
  .ofList (List.replicate letters 'a' ++ ['@', 'b'])

/-- It is its own normalized spelling: it has neither blanks around it nor capitals. -/
theorem normalize_longEmail (letters : Nat)
    : Identity.normalize (longEmail letters) = longEmail letters := by
  have settled : Text.IsSettled 'a' ∧ Text.IsSettled '@' ∧ Text.IsSettled 'b' := by
    refine ⟨?_, ?_, ?_⟩ <;>
      exact Text.isSettled_of_still (by decide +kernel) (by decide) (by decide)
  have plain : ∀ c ∈ ['a', '@', 'b'], Text.isBlank c = false ∧ Text.IsSettled c := by
    simp only [List.forall_mem_cons]
    exact ⟨⟨by decide, settled.1⟩, ⟨by decide, settled.2.1⟩, ⟨by decide, settled.2.2⟩, nofun⟩
  have all : ∀ c ∈ List.replicate letters 'a' ++ ['@', 'b'],
      Text.isBlank c = false ∧ Text.IsSettled c := by
    intro c member
    rcases List.mem_append.mp member with early | late
    · exact List.eq_of_mem_replicate early ▸ plain 'a' List.mem_cons_self
    · exact plain c (List.mem_cons_of_mem 'a' late)
  have solid : Text.HasSolidEnds (List.replicate letters 'a' ++ ['@', 'b']) :=
    ⟨fun c first => (all c (List.mem_of_mem_head? first)).1,
      fun c last => (all c (List.mem_of_mem_getLast? last)).1⟩
  rw [Identity.normalize, Identity.normalizeChars, longEmail, String.toList_ofList,
    Text.trim_of_solidEnds solid, Text.lowercase_of_settled fun c member => (all c member).2]

/-- It passes as an email address if there is a letter in it. -/
theorem looksLikeEmail_longEmail {letters : Nat} (some : 0 < letters)
    : Identity.looksLikeEmail (longEmail letters) = true := by
  have noAt : '@' ∉ List.replicate letters 'a' := fun member =>
    absurd (List.eq_of_mem_replicate member) (by decide)
  obtain ⟨fewer, rfl⟩ := Nat.exists_eq_succ_of_ne_zero (Nat.pos_iff_ne_zero.mp some)
  rw [Identity.looksLikeEmail, longEmail, String.toList_ofList, Text.cut?_append noAt]
  rfl

/-- It has a byte for every letter, and two more. -/
theorem length_utf8_longEmail (letters : Nat)
    : (Text.utf8 (longEmail letters)).length = letters + 2 := by
  have bytes : longEmail letters
      = Token.Broker.asciiText (List.replicate letters 0x61 ++ [0x40, 0x62]) := by
    rw [longEmail, Token.Broker.asciiText, List.map_append, List.map_replicate]
    rfl
  have ascii : ∀ b ∈ List.replicate letters (0x61 : UInt8) ++ [0x40, 0x62], b < 0x80 := by
    have ends : ∀ b ∈ [(0x61 : UInt8), 0x40, 0x62], b < 0x80 := by
      simp only [List.forall_mem_cons]
      exact ⟨by decide, by decide, by decide, List.forall_mem_nil _⟩
    intro b member
    rcases List.mem_append.mp member with early | late
    · exact List.eq_of_mem_replicate early ▸ ends 0x61 List.mem_cons_self
    · exact ends b (List.mem_cons_of_mem 0x61 late)
  rw [bytes, Text.utf8_asciiText ascii, List.length_append, List.length_replicate]
  rfl

/-- Settings are accepted, and an email address of 8194 characters registers under them. The token
of the answer is refused at once.
-/
theorem grant_refused_for_long_email
    : let settings : Settings := [("JWT_SECRET", "single-secret-single-secret-single")]
      ∃ config deps grant later,
        Config.ofSettings settings = .ok config
        ∧ Deps.ofConfig config (fun _ => []) = .ok deps
        ∧ register deps ⟨longEmail 8192, "pw"⟩ none
            (State.ofConfig config default ⟨1700000000, 0⟩)
          = (.returned (.ok grant), later)
        ∧ isPublic Method.listChats.path = false
        ∧ (throughGuard deps Method.listChats.path [Text.utf8 (bearer ++ grant.token)] later).1
          = .returned (.error unauthenticated) := by
  intro settings
  let key : SigningKey := ⟨"default", ⟨"single-secret-single-secret-single"⟩⟩
  let config := Config.plain [key] "default" (some key.secret)
  let broker : Token.Broker :=
    ⟨⟨[key], key⟩, some key.secret, config.tokenLifetime, config.clockSkew⟩
  let deps := Deps.inMemory config broker fun _ => []
  have accepted : Config.ofSettings settings = .ok config := eq_ok_of_toOption (by decide +kernel)
  have deployed : Deps.ofConfig config (fun _ => []) = .ok deps := rfl
  have valid : validate ⟨longEmail 8192, "pw"⟩
      = .ok (Identity.normalize (longEmail 8192)) := by
    have looks : Identity.looksLikeEmail (longEmail 8192) = true :=
      looksLikeEmail_longEmail (by decide)
    simp [validate, normalize_longEmail, looks]
  have issues : broker.CanIssue ⟨1700000000, 0⟩ := ⟨by decide, by decide⟩
  obtain ⟨grant, later, registered⟩ :=
    register_at_start deployed default valid (by decide +kernel) (by decide) issues
  have closed : isPublic Method.listChats.path = false := by decide +kernel
  refine ⟨config, deps, grant, later, accepted, deployed, registered, closed, ?_⟩
  obtain ⟨user, issued, identity, returned, rfl⟩ := isGranted_of_register rfl registered
  obtain ⟨_, _, _, written⟩ := Token.Broker.issue_eq_ok returned
  have large : Token.maxSize < (Text.utf8 issued.token).length := by
    rw [identity, normalize_longEmail, normalize_longEmail] at written
    rw [written]
    refine Nat.lt_trans ?_ (Token.Broker.length_email_lt_encode _ _)
    rw [length_utf8_longEmail]
    decide
  exact throughGuard_of_large closed returned large later []

end Rpc

end ChatServer
