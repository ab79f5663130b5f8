import ChatServer.Proofs.Token.Issuing
import ChatServer.Rpc.Service

/-! Who comes past the guard. A token that was issued stands in a header as it was written, so all
that the guard decides about its holder is what the broker says of the token; and whoever the guard
lets through on a path that is not public is the caller of a verified token.
-/

namespace ChatServer.Rpc

-----------------------------------------------------------------------------------------
-- Tokens in headers
-----------------------------------------------------------------------------------------

/-- The bytes that issued tokens are made of. -/
def IsTokenByte (b : UInt8) : Prop :=
  b = Token.dot ∨ b ∈ Base64.urlSafe.symbols

/-- The bytes of tokens are visible characters of ASCII. -/
theorem visible_of_isTokenByte {b : UInt8} (inside : IsTokenByte b)
    : b < 0x80 ∧ (b == 0x09 || 0x20 ≤ b && b < 0x7F) = true
      ∧ Text.isBlank (Char.ofNat b.toNat) = false := by
  have all : ∀ b ∈ Token.dot :: Base64.urlSafe.symbols,
      b < 0x80 ∧ (b == 0x09 || 0x20 ≤ b && b < 0x7F) = true
        ∧ Text.isBlank (Char.ofNat b.toNat) = false := by
    decide +kernel
  exact all b (List.mem_cons.mpr inside)

/-- An issued token is the text of its bytes, and there is at least a dot among them. -/
theorem encode_eq_asciiText (key : SigningKey) (claims : Token.TokenClaims)
    : ∃ bytes, Token.Broker.encode key claims = Token.Broker.asciiText bytes
        ∧ bytes ≠ [] ∧ ∀ b ∈ bytes, IsTokenByte b := by
  have symbols (bytes : List UInt8) : ∀ b ∈ Base64.urlSafe.encode bytes, IsTokenByte b :=
    fun b member =>
      .inr (Base64.Alphabet.urlSafe_isProper.mem_symbols_of_mem_encode bytes b member)
  refine ⟨_, rfl, by simp, ?_⟩
  simp only [List.forall_mem_append, List.forall_mem_cons]
  exact ⟨⟨symbols _, .inl rfl, symbols _⟩, .inl rfl, symbols _⟩

theorem isPrefixOf?_append (front rest : List Char)
    : front.isPrefixOf? (front ++ rest) = some rest := by
  induction front with
  | nil => rfl
  | cons c front ih =>
      rw [List.cons_append, List.isPrefixOf?, if_pos (beq_self_eq_true c), ih]

theorem asciiText_append (first second : List UInt8)
    : Token.Broker.asciiText (first ++ second)
      = Token.Broker.asciiText first ++ Token.Broker.asciiText second := by
  simp only [Token.Broker.asciiText, List.map_append, String.ofList_append]

/-- A text of such bytes is found in the header that it was written into. -/
theorem bearerToken?_asciiText {bytes : List UInt8} (nonempty : bytes ≠ [])
    (inside : ∀ b ∈ bytes, IsTokenByte b)
    : bearerToken? (Text.utf8 (bearer ++ Token.Broker.asciiText bytes))
      = some (Token.Broker.asciiText bytes) := by
  let chars := bytes.map fun b => Char.ofNat b.toNat
  have scheme : Token.Broker.asciiText (Text.utf8 bearer) = bearer := by decide +kernel
  have plain : ∀ b ∈ Text.utf8 bearer,
      b < 0x80 ∧ (b == 0x09 || 0x20 ≤ b && b < 0x7F) = true := by
    decide +kernel
  have all : ∀ b ∈ Text.utf8 bearer ++ bytes,
      b < 0x80 ∧ (b == 0x09 || 0x20 ≤ b && b < 0x7F) = true := by
    intro b member
    rcases List.mem_append.mp member with early | late
    · exact plain b early
    · exact (visible_of_isTokenByte (inside b late)).imp_right And.left
  have text : headerText? (Text.utf8 (bearer ++ Token.Broker.asciiText bytes))
      = some (bearer.toList ++ chars) := by
    have whole : Text.utf8 (bearer ++ Token.Broker.asciiText bytes)
        = Text.utf8 bearer ++ bytes := by
      rw [← Text.utf8_asciiText fun b member => (all b member).1, asciiText_append, scheme]
    rw [whole, headerText?, if_pos (List.all_eq_true.mpr fun b member => (all b member).2),
      List.map_append]
    exact congrArg some (congrArg (· ++ _) (by decide +kernel))
  have solid : Text.HasSolidEnds chars := by
    have visible : ∀ c ∈ chars, Text.isBlank c = false := by
      intro c member
      obtain ⟨b, among, rfl⟩ := List.mem_map.mp member
      exact (visible_of_isTokenByte (inside b among)).2.2
    exact ⟨fun c first => visible c (List.mem_of_mem_head? first),
      fun c last => visible c (List.mem_of_mem_getLast? last)⟩
  have present : chars.isEmpty = false := by simpa [chars] using nonempty
  simp only [bearerToken?, text, Option.bind_eq_bind, Option.bind_some, isPrefixOf?_append,
    Text.trim_of_solidEnds solid, present, Bool.false_eq_true, if_false]
  rfl

/-- An issued token is found in the header that it was written into. -/
theorem bearerToken?_encode (key : SigningKey) (claims : Token.TokenClaims)
    : bearerToken? (Text.utf8 (bearer ++ Token.Broker.encode key claims))
      = some (Token.Broker.encode key claims) := by
  obtain ⟨bytes, written, nonempty, inside⟩ := encode_eq_asciiText key claims
  rw [written]
  exact bearerToken?_asciiText nonempty inside

-----------------------------------------------------------------------------------------
-- The guard
-----------------------------------------------------------------------------------------

variable {σ : Type} {deps : Deps σ} {path : String} {authorization : List (List UInt8)}

/-- Where a token stands in the first header, what the broker says of it decides, and is counted. -/
theorem throughGuard_of_token (closed : isPublic path = false) {token : String}
    (given : authorization.head?.bind bearerToken? = some token) (state : State σ)
    : let verified := deps.broker.verify state.world.now.seconds token
      throughGuard deps path authorization state
        = (match verified with
            | .ok claims => .returned (.ok (some claims.caller))
            | .error _ => .returned (.error unauthenticated),
          { state with
            world := state.world.updateMetrics
              (·.increment (.tokenVerifications (Token.Broker.outcomeOf verified))) }) := by
  intro verified
  unfold throughGuard judge Token.Broker.verifyCounted
  simp only [closed, Bool.false_eq_true, if_false, given]
  cases came : deps.broker.verify state.world.now.seconds token <;>
    simp only [verified, came] <;> rfl

/-- The holder of a token that the broker verifies comes past the guard and is known behind it. -/
theorem throughGuard_of_verified (closed : isPublic path = false) {key : SigningKey}
    {written : Token.TokenClaims} {claims : Token.Claims} {state : State σ}
    (verified : deps.broker.verify state.world.now.seconds (Token.Broker.encode key written)
      = .ok claims)
    (rest : List (List UInt8))
    : throughGuard deps path (Text.utf8 (bearer ++ Token.Broker.encode key written) :: rest) state
      = (.returned (.ok (some claims.caller)),
          { state with
            world := state.world.updateMetrics (·.increment (.tokenVerifications .success)) }) := by
  have given : (Text.utf8 (bearer ++ Token.Broker.encode key written) :: rest).head?.bind
      bearerToken? = some (Token.Broker.encode key written) := by
    rw [List.head?_cons, Option.bind_some, bearerToken?_encode]
  have outcome := @throughGuard_of_token σ deps path _ closed _ given state
  simp only [verified] at outcome
  exact outcome

/-- Whoever is known behind the guard is the caller of a verified token, under a normalized
identity.
-/
theorem caller_of_throughGuard {state later : State σ} {caller : Token.Caller}
    (passed : throughGuard deps path authorization state = (.returned (.ok (some caller)), later))
    : ∃ token claims,
        deps.broker.verify state.world.now.seconds token = .ok claims
        ∧ caller = claims.caller
        ∧ Identity.normalize caller.identity = caller.identity := by
  have outcome := congrArg Prod.fst passed
  cases closed : isPublic path with
  | true =>
      unfold throughGuard judge at outcome
      simp only [closed, if_true] at outcome
      cases outcome
  | false =>
      cases given : authorization.head?.bind bearerToken? with
      | none =>
          unfold throughGuard judge at outcome
          simp only [closed, Bool.false_eq_true, if_false, given] at outcome
          cases outcome
      | some token =>
          rw [throughGuard_of_token closed given state] at outcome
          cases verified : deps.broker.verify state.world.now.seconds token with
          | error fault => rw [verified] at outcome; cases outcome
          | ok claims =>
              rw [verified] at outcome
              cases outcome
              obtain ⟨_, _, made, _, _, _, _, _, rfl⟩ := Token.Broker.verify_eq_ok verified
              exact ⟨token, _, verified, rfl, Identity.normalize_normalize made.email⟩

end ChatServer.Rpc
