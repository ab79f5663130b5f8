import ChatServer.Proofs.Text.Ascii
import ChatServer.Proofs.Text.Base64
import ChatServer.Proofs.Text.Json
import ChatServer.Proofs.Text.Normalization
import ChatServer.Proofs.Text.Pieces
import ChatServer.Proofs.Token.Verification

/-! A token that was issued is verified by every broker that knows its key, from the time of issue,
less the difference that clocks may have, to the time at which it expires, both ends included. The
claims come back as they were: their way through JSON, Base64 and the dots between the parts of a
token loses nothing.
-/

namespace ChatServer

namespace Token

-----------------------------------------------------------------------------------------
-- Parts of a written token
-----------------------------------------------------------------------------------------

/-- No byte is written with a dot, and each is written in ASCII. -/
theorem symbols_of_urlSafe (bytes : List UInt8)
    : dot ∉ Base64.urlSafe.encode bytes ∧ ∀ b ∈ Base64.urlSafe.encode bytes, b < 0x80 := by
  have symbols := Base64.Alphabet.urlSafe_isProper.mem_symbols_of_mem_encode bytes
  have noDot : ∀ b ∈ Base64.urlSafe.symbols, b ≠ dot ∧ b < 0x80 := by decide +kernel
  exact ⟨fun member => (noDot dot (symbols dot member)).1 rfl,
    fun b member => (noDot b (symbols b member)).2⟩

theorem decodePart_encode (bytes : List UInt8)
    : decodePart (Base64.urlSafe.encode bytes) = Json.parse bytes := by
  rw [decodePart, Base64.Alphabet.urlSafe_isProper.decode_encode]

/-- The three parts of a token with given claims. -/
def Parts.ofClaims (key : SigningKey) (claims : TokenClaims) : Parts :=
  let header := Base64.urlSafe.encode (Header.write ⟨.hs256, some key.id⟩)
  let payload := Base64.urlSafe.encode claims.write
  ⟨header, payload, Algorithm.hs256.sign key.secret.reveal (header ++ dot :: payload)⟩

/-- The bytes of a token are those of its parts, with dots between them. -/
theorem Broker.utf8_encode (key : SigningKey) (claims : TokenClaims)
    : let parts := Parts.ofClaims key claims
      Text.utf8 (encode key claims)
        = parts.header ++ dot :: (parts.payload ++ dot :: parts.signature) := by
  intro parts
  have ascii : ∀ b ∈ parts.header ++ dot :: (parts.payload ++ dot :: parts.signature),
      b < 0x80 := by
    have header := (symbols_of_urlSafe (Header.write ⟨.hs256, some key.id⟩)).2
    have payload := (symbols_of_urlSafe claims.write).2
    have signature := (symbols_of_urlSafe
      (Algorithm.hs256.digest (Text.utf8 key.secret.reveal) parts.signed)).2
    simp only [List.forall_mem_append, List.forall_mem_cons]
    exact ⟨header, by decide, payload, by decide, signature⟩
  rw [← Text.utf8_asciiText ascii]
  simp [encode, parts, Parts.ofClaims]

/-- A token is larger than the email address in it. -/
theorem Broker.length_email_lt_encode (key : SigningKey) (claims : TokenClaims)
    : (Text.utf8 claims.email).length < (Text.utf8 (encode key claims)).length := by
  have inPayload : (Text.utf8 claims.email).length ≤ claims.write.length := by
    have quoted := Json.length_le_escape (Text.utf8 claims.email)
    simp only [TokenClaims.write, Json.object, List.map_cons, List.map_nil,
      List.intersperse_cons_cons, List.intersperse_singleton, List.flatten_cons, List.flatten_nil,
      List.length_cons, List.length_append, Json.string]
    omega
  have payload := Base64.Alphabet.length_encode Base64.urlSafe claims.write
  rw [utf8_encode]
  simp only [Parts.ofClaims, List.length_append, List.length_cons, payload]
  omega

/-- A token is cut into the parts it was written from. -/
theorem Parts.ofBytes?_encode (key : SigningKey) (claims : TokenClaims)
    : Parts.ofBytes? (Text.utf8 (Broker.encode key claims)) = some (ofClaims key claims) := by
  have header := (symbols_of_urlSafe (Header.write ⟨.hs256, some key.id⟩)).1
  have payload := (symbols_of_urlSafe claims.write).1
  have signature := (symbols_of_urlSafe
    (Algorithm.hs256.digest (Text.utf8 key.secret.reveal) (ofClaims key claims).signed)).1
  have cut : Text.fields dot (Text.utf8 (Broker.encode key claims))
      = [(ofClaims key claims).header, (ofClaims key claims).payload,
          (ofClaims key claims).signature] := by
    rw [Broker.utf8_encode]
    exact (Text.fields_append header _).trans (congrArg _ ((Text.fields_append payload _).trans
      (congrArg _ (Text.fields_of_not_mem signature))))
  rw [ofBytes?, cut]

-----------------------------------------------------------------------------------------
-- Headers
-----------------------------------------------------------------------------------------

namespace Header

/-- The members of the header of a token that names a key. -/
def membersOf (id : String) : List Json.Member :=
  [.ofText "typ" "JWT", .ofText "alg" Algorithm.hs256.name, .ofText "kid" id]

/-- The value in the header of a token that names a key. -/
def treeOf (id : String) : Json.Tree :=
  .object (Json.Member.readAll (membersOf id))

theorem parse_write (id : String)
    : Json.parse (write ⟨.hs256, some id⟩) = some (treeOf id) :=
  Json.parse_object (membersOf id)

theorem members?_treeOf (id : String)
    : (treeOf id).members? = some [("typ", .ofText "JWT"),
        ("alg", .ofText Algorithm.hs256.name), ("kid", .ofText id)] :=
  Json.members?_readAll (membersOf id)

/-- The only members with their keys. -/
theorem valuesOf_treeOf (id : String)
    : let members := [("typ", Json.Tree.ofText "JWT"), ("alg", .ofText Algorithm.hs256.name),
        ("kid", .ofText id)]
      Json.valuesOf "alg" members = [.ofText Algorithm.hs256.name]
        ∧ Json.valuesOf "kid" members = [.ofText id] :=
  ⟨rfl, rfl⟩

/-- The lenient reading finds the key that a header names. -/
theorem ofTree_treeOf {id : String} (named : id ≠ "")
    : ofTree (treeOf id) = .ok ⟨.hs256, some id⟩ := by
  have known : Algorithm.ofName? Algorithm.hs256.name = some .hs256 :=
    Algorithm.ofName?_eq_some_iff.mpr rfl
  have counts : (some id).filter (· ≠ "") = some id :=
    Option.filter_eq_some_iff.mpr ⟨rfl, decide_eq_true named⟩
  obtain ⟨alg, kid⟩ := valuesOf_treeOf id
  simp only [ofTree, members?_treeOf, Option.getD_some, Json.last?, alg, kid,
    List.getLast?_singleton, Option.bind_some, Json.Tree.string?_ofText, known, counts]

/-- Texts under three different keys have their types. -/
theorem areTyped_treeOf (id : String)
    : areTyped [("typ", Json.Tree.ofText "JWT"), ("alg", .ofText Algorithm.hs256.name),
        ("kid", .ofText id)] = true := by
  have text (s : String) : isNullOr isText (.ofText s) = true := by
    simp [isNullOr, isText, Json.Tree.ofText, Json.Tree.string?, Json.text?_escape]
  simp [areTyped, textMembers, hasAtMostOne, Json.isUnique, Json.valuesOf, text]

/-- The strict reading finds what was written. -/
theorem strict?_treeOf (id : String) : strict? (treeOf id) = some ⟨.hs256, some id⟩ := by
  have known : Algorithm.ofName? Algorithm.hs256.name = some .hs256 :=
    Algorithm.ofName?_eq_some_iff.mpr rfl
  obtain ⟨alg, kid⟩ := valuesOf_treeOf id
  have chosen : choice? isNull (.ofText Algorithm.hs256.name) = some Algorithm.hs256.name :=
    choice?_of_string? (Json.Tree.string?_ofText _)
  simp only [strict?, members?_treeOf, Option.bind_eq_bind, Option.bind_some,
    Json.only?_eq_some_iff.mpr alg, Json.only?_eq_some_iff.mpr kid, chosen, known,
    areTyped_treeOf, if_true, Json.Tree.string?_ofText]

/-- Nothing in a header that was written is refused. -/
theorem isReadable_treeOf (id : String)
    : (treeOf id).isReadable Json.Tree.maxDepth = true := by
  have text (depth : Nat) (s : String) : (Json.Tree.ofText s).passage depth = .read := by
    simp [Json.Tree.ofText, Json.Tree.passage, Json.bodyPassage, Json.unescape_escape]
  simp [treeOf, membersOf, Json.Member.readAll, Json.Member.ofText, Json.Tree.isReadable,
    Json.Tree.passage, Json.Tree.membersPassage, Json.Tree.maxDepth, Json.text?_escape, text,
    Json.Passage.then]

end Header

/-- The lenient reading of a token finds the key that it was signed with. -/
theorem Header.inspect_encode {key : SigningKey} {claims : TokenClaims} (named : key.id ≠ "")
    (small : (Text.utf8 (Broker.encode key claims)).length ≤ maxSize)
    : Header.inspect (Broker.encode key claims) = .ok ⟨.hs256, some key.id⟩ := by
  have read : decodePart (Parts.ofClaims key claims).header = some (treeOf key.id) :=
    (decodePart_encode _).trans (parse_write key.id)
  simp only [inspect, if_neg (Nat.not_lt.mpr small), Parts.ofBytes?_encode, read,
    Option.filter_some, isReadable_treeOf, if_true, ofTree_treeOf named]

-----------------------------------------------------------------------------------------
-- Payloads
-----------------------------------------------------------------------------------------

namespace TokenClaims

/-- The members of a payload. -/
def membersOf (claims : TokenClaims) : List Json.Member :=
  [.ofText "sub" claims.subject, .ofText "email" claims.email, .ofInt "iat" claims.issuedAt,
    .ofInt "exp" claims.expiresAt]

theorem parse_write (claims : TokenClaims)
    : Json.parse claims.write = some (.object (Json.Member.readAll claims.membersOf)) :=
  Json.parse_object claims.membersOf

/-- A payload has each of the four members once and no other. -/
theorem valuesOf_membersOf (claims : TokenClaims)
    : let members := claims.membersOf.map fun member => (member.key, member.tree)
      (Json.valuesOf "sub" members = [.ofText claims.subject]
          ∧ Json.valuesOf "email" members = [.ofText claims.email]
          ∧ Json.valuesOf "iat" members = [.ofInt claims.issuedAt]
          ∧ Json.valuesOf "exp" members = [.ofInt claims.expiresAt])
        ∧ allowsOthers members = true :=
  ⟨⟨rfl, rfl, rfl, rfl⟩, rfl⟩

/-- A payload is read as the claims it was written from until they expire. -/
theorem ofPayload?_readAll {claims : TokenClaims} (now : Int)
    (issued : 0 ≤ claims.issuedAt ∧ claims.issuedAt ≤ Int64.maxValue.toInt)
    (expires : 0 ≤ claims.expiresAt ∧ claims.expiresAt ≤ Int64.maxValue.toInt)
    : ofPayload? now (.object (Json.Member.readAll claims.membersOf))
      = if now ≤ claims.expiresAt then some claims else none := by
  have low : Int64.minValue.toInt ≤ 0 := by decide
  have iatRead := Json.Tree.int64?_ofInt (Int.le_trans low issued.1) issued.2
  have expRead := Json.Tree.int64?_ofInt (Int.le_trans low expires.1) expires.2
  obtain ⟨⟨sub, email, iat, exp⟩, others⟩ := valuesOf_membersOf claims
  have made
      : ofMembers? (claims.membersOf.map fun member => (member.key, member.tree))
        = some claims := by
    simp only [ofMembers?, Json.only?_eq_some_iff.mpr sub, Json.only?_eq_some_iff.mpr email,
      Json.only?_eq_some_iff.mpr iat, Json.only?_eq_some_iff.mpr exp, Option.bind_eq_bind,
      Option.bind_some, ofValues?, Json.Tree.string?_ofText, iatRead, expRead]
    rfl
  simp only [ofPayload?, Json.members?_readAll, made, others, Option.bind_eq_bind,
    Option.bind_some, expires.1, decide_true, Bool.true_and, decide_eq_true_eq]

end TokenClaims

namespace Broker

/-- Under the secret that a token was signed with, its claims are found until they expire. -/
theorem claimsOf?_encode {key : SigningKey} {claims : TokenClaims} (now : Int)
    (issued : 0 ≤ claims.issuedAt ∧ claims.issuedAt ≤ Int64.maxValue.toInt)
    (expires : 0 ≤ claims.expiresAt ∧ claims.expiresAt ≤ Int64.maxValue.toInt)
    : claimsOf? key.secret now (encode key claims)
      = if now ≤ claims.expiresAt then some claims else none := by
  have header : decodePart (Parts.ofClaims key claims).header = some (Header.treeOf key.id) :=
    (decodePart_encode _).trans (Header.parse_write key.id)
  have payload : decodePart (Parts.ofClaims key claims).payload
      = some (.object (Json.Member.readAll claims.membersOf)) :=
    (decodePart_encode _).trans claims.parse_write
  have signed : (Algorithm.hs256.sign key.secret.reveal (Parts.ofClaims key claims).signed
      == (Parts.ofClaims key claims).signature) = true :=
    beq_self_eq_true _
  simp only [claimsOf?, Parts.ofBytes?_encode, header, payload, Option.bind_eq_bind,
    Option.bind_some, Header.strict?_treeOf, signed, if_true,
    TokenClaims.ofPayload?_readAll now issued expires]

/-- A broker that knows the secret of the key that a token names verifies it if its claims hold at
the time.
-/
theorem verify_encode {broker : Broker} {key : SigningKey} {claims : TokenClaims} (now : Int)
    (named : key.id ≠ "") (small : (Text.utf8 (encode key claims)).length ≤ maxSize)
    (known : broker.secretFor? (some key.id) = some key.secret)
    (issued : 0 ≤ claims.issuedAt ∧ claims.issuedAt ≤ Int64.maxValue.toInt)
    (expires : 0 ≤ claims.expiresAt ∧ claims.expiresAt ≤ Int64.maxValue.toInt)
    : broker.verify now (encode key claims)
      = if now ≤ claims.expiresAt ∧ claims.issuedAt ≤ latestIssue now broker.clockSkew
            ∧ Identity.normalize claims.email ≠ "" then
          .ok ⟨claims.subject, Identity.normalize claims.email, claims.issuedAt,
            claims.expiresAt, some key.id⟩
        else
          .error .refused := by
  unfold verify
  simp only [Header.inspect_encode named small, Except.toOption, Option.bind_eq_bind,
    Option.bind_some, known, claimsOf?_encode now issued expires, isIssuedInTime,
    Bool.and_eq_true, decide_eq_true_eq]
  by_cases alive : now ≤ claims.expiresAt
  · simp only [alive, if_true, Option.bind_some, true_and]
    by_cases valid : claims.issuedAt ≤ latestIssue now broker.clockSkew
        ∧ Identity.normalize claims.email ≠ ""
    · simp only [if_pos valid]
    · simp only [if_neg valid]
  · simp only [alive, if_false, Option.bind_none, false_and]

/-- No broker verifies a token that is too large. -/
theorem verify_of_large {token : String} (large : maxSize < (Text.utf8 token).length)
    (broker : Broker) (now : Int)
    : broker.verify now token = .error .refused := by
  have inspected : Header.inspect token = .error .tooLarge := by
    simp only [Header.inspect, if_pos large]
  simp only [verify, inspected, Except.toOption, Option.bind_eq_bind, Option.bind_none]

-----------------------------------------------------------------------------------------
-- Verifying what was issued
-----------------------------------------------------------------------------------------

/-- What an issued token says: its time of issue and the time at which it expires lie within the
calendar.
-/
theorem issue_eq_ok {broker : Broker} {now : Instant} {subject identity : String}
    {issued : IssuedToken}
    (returned : broker.issue now subject identity = .returned (.ok issued))
    : Identity.normalize identity ≠ ""
      ∧ issued.expiresAt.seconds = now.seconds + broker.lifetime
      ∧ now.seconds + broker.lifetime ≤ Instant.lastSecond
      ∧ issued.token
        = encode broker.keys.active ⟨subject, Identity.normalize identity, now.seconds,
            now.seconds + broker.lifetime⟩ := by
  unfold issue at returned
  simp only at returned
  split at returned
  next => cases returned
  next named =>
    split at returned
    next => cases returned
    next =>
      cases later : now.addSeconds? broker.lifetime with
      | none => rw [later] at returned; cases returned
      | some expiresAt =>
          rw [later] at returned
          cases returned
          unfold Instant.addSeconds? at later
          simp only at later
          split at later
          next => cases later
          next within =>
            have seconds : expiresAt.seconds = now.seconds + broker.lifetime := by
              split at later <;> cases later <;> rfl
            exact ⟨named, seconds, Int.not_lt.mp within, by rw [seconds]⟩

/-- A token is issued for every identity that is not blank, outside of leap seconds, if it expires
within the calendar.
-/
theorem issue_of_named {broker : Broker} {now : Instant} {subject identity : String}
    (named : Identity.normalize identity ≠ "") (short : broker.lifetime ≤ maxLifetime)
    (within : now.seconds + broker.lifetime ≤ Instant.lastSecond)
    (plain : now.nanos < Instant.nanosPerSecond)
    : broker.issue now subject identity
      = .returned (.ok ⟨encode broker.keys.active ⟨subject, Identity.normalize identity,
          now.seconds, now.seconds + broker.lifetime⟩,
          ⟨now.seconds + broker.lifetime, now.nanos⟩⟩) := by
  have later : now.addSeconds? broker.lifetime
      = some ⟨now.seconds + broker.lifetime, now.nanos⟩ := by
    simp only [Instant.addSeconds?, gt_iff_lt, if_neg (Int.not_lt.mpr within),
      if_pos (Or.inr plain)]
  unfold issue
  simp only [if_neg named, gt_iff_lt, if_neg (Nat.not_lt.mpr short), later]

/-- Where the sum is a number of 64 bits, the latest time of issue is later by the skew. -/
theorem latestIssue_eq {now : Int} {clockSkew : Nat} (low : 0 ≤ now)
    (high : now + clockSkew ≤ Int64.maxValue.toInt)
    : latestIssue now clockSkew = now + clockSkew := by
  have limit : Int64.maxValue.toInt = 2 ^ 63 - 1 := by decide
  unfold latestIssue Int.bmod
  simp only [UInt64.size]
  omega

/-- Issuing and verifying agree on every token. A broker that knows the secret of the key that a
token names verifies it from the time of issue, less its skew, to the time at which the token
expires, and refuses it outside of that window. What it then reports is what the token was issued
with.
-/
theorem verify_issued {issuer verifier : Broker} {now : Instant} {subject identity : String}
    {issued : IssuedToken} {t : Int}
    (returned : issuer.issue now subject identity = .returned (.ok issued))
    (named : issuer.keys.active.id ≠ "")
    (small : (Text.utf8 issued.token).length ≤ maxSize)
    (started : 0 ≤ now.seconds)
    (shared : verifier.secretFor? (some issuer.keys.active.id) = some issuer.keys.active.secret)
    (close : verifier.clockSkew ≤ Config.maxClockSkew) (clock : 0 ≤ t)
    : issued.expiresAt.seconds = now.seconds + issuer.lifetime
      ∧ verifier.verify t issued.token
        = if now.seconds - verifier.clockSkew ≤ t ∧ t ≤ now.seconds + issuer.lifetime then
            .ok ⟨subject, Identity.normalize identity, now.seconds,
              now.seconds + issuer.lifetime, some issuer.keys.active.id⟩
          else
            .error .refused := by
  obtain ⟨nonempty, seconds, within, written⟩ := issue_eq_ok returned
  have calendar : Instant.lastSecond + Config.maxClockSkew ≤ Int64.maxValue.toInt := by decide
  have skew : (verifier.clockSkew : Int) ≤ Config.maxClockSkew := Int.ofNat_le.mpr close
  rw [written] at small
  have verified := verify_encode t named small shared ⟨started, by dsimp only; omega⟩
    ⟨by dsimp only; omega, by dsimp only; omega⟩
  rw [Identity.normalize_normalize] at verified
  refine ⟨seconds, ?_⟩
  rw [written, verified]
  -- The skew only counts while the token lives, and then the sum is within 64 bits.
  have window
      : (t ≤ now.seconds + issuer.lifetime
          ∧ now.seconds ≤ latestIssue t verifier.clockSkew
          ∧ Identity.normalize identity ≠ "")
        ↔ now.seconds - verifier.clockSkew ≤ t ∧ t ≤ now.seconds + issuer.lifetime := by
    constructor
    · rintro ⟨alive, early, _⟩
      rw [latestIssue_eq clock (by omega)] at early
      exact ⟨by omega, alive⟩
    · rintro ⟨early, alive⟩
      rw [latestIssue_eq clock (by omega)]
      exact ⟨alive, by omega, nonempty⟩
  exact if_congr window rfl rfl

/-- A token that one broker issues, and another verifies that has its key next to a newer one. -/
theorem verify_issued_of_rotated_key
    : let key : SigningKey := ⟨"k\n", ⟨"s"⟩⟩
      let newer : SigningKey := ⟨"k2", ⟨"s2"⟩⟩
      let issuer : Broker := ⟨⟨[key], key⟩, none, 60, 0⟩
      let verifier : Broker := ⟨⟨[newer, key], newer⟩, none, 3600, 300⟩
      let issued : IssuedToken := ⟨encode key ⟨"u", "a@b", 1000, 1060⟩, ⟨1060, 5⟩⟩
      issuer.issue ⟨1000, 5⟩ "u" " A@b" = .returned (.ok issued)
        ∧ issued.expiresAt.seconds = 1060
        ∧ verifier.verify 700 issued.token = .ok ⟨"u", "a@b", 1000, 1060, some "k\n"⟩ := by
  intro key newer issuer verifier issued
  have normalized : Identity.normalize " A@b" = "a@b" := by decide +kernel
  have returned : issuer.issue ⟨1000, 5⟩ "u" " A@b" = .returned (.ok issued) := by
    rw [issue_of_named (by rw [normalized]; decide) (by decide) (by decide) (by decide),
      normalized]
    rfl
  have small : (Text.utf8 issued.token).length ≤ maxSize := by
    rw [utf8_encode]
    decide +kernel
  have shared : verifier.secretFor? (some issuer.keys.active.id)
      = some issuer.keys.active.secret := by
    decide +kernel
  obtain ⟨seconds, verified⟩ := verify_issued (t := 700) returned (by decide) small (by decide)
    shared (by decide) (by decide)
  rw [normalized] at verified
  exact ⟨returned, seconds, verified⟩

end Broker

end Token

end ChatServer
