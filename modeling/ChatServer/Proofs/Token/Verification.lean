import ChatServer.Proofs.Results
import ChatServer.Token.Broker

/-! Verification is sound. The two readings of a header, one that finds the key and one that finds
the algorithm, agree wherever both succeed, so a token that is accepted has been checked with the
key that it names and in the way that it says.
-/

namespace ChatServer

-----------------------------------------------------------------------------------------
-- Members of an object
-----------------------------------------------------------------------------------------

theorem Json.only?_eq_some_iff {key : String} {members : List (String × Json.Tree)}
    {value : Json.Tree}
    : Json.only? key members = some value ↔ Json.valuesOf key members = [value] := by
  unfold Json.only?
  split
  next only found => simp [found]
  next others =>
    constructor
    · intro absurd
      cases absurd
    · intro one
      exact absurd one (others value)

/-- The last member with a key is the only one if there is at most one. -/
theorem Json.last?_eq_only? {key : String} {members : List (String × Json.Tree)}
    (unique : Json.isUnique key members = true)
    : Json.last? key members = Json.only? key members := by
  unfold Json.isUnique at unique
  unfold Json.last? Json.only?
  match found : Json.valuesOf key members with
  | [] => rfl
  | [value] => rfl
  | first :: second :: rest => simp [found] at unique

namespace Token

-----------------------------------------------------------------------------------------
-- The two readings of a header
-----------------------------------------------------------------------------------------

theorem Algorithm.name_mem (algorithm : Algorithm)
    : algorithm.name ∈ ["HS256", "HS384", "HS512"] := by
  cases algorithm <;> decide

namespace Header

/-- The name of a choice that is a text is that text. -/
theorem choice?_of_string? {isNothing : Json.Tree → Bool} {tree : Json.Tree} {text : String}
    (written : tree.string? = some text)
    : choice? isNothing tree = some text := by
  cases tree with
  | string body => exact written
  | null | bool _ | number _ | array _ | object _ => cases written

/-- What the lenient reading takes from an object. -/
theorem ofTree_eq_ok {tree : Json.Tree} {members : List (String × Json.Tree)} {header : Header}
    (object : tree.members? = some members) (read : ofTree tree = .ok header)
    : (∃ value, Json.last? "alg" members = some value
        ∧ value.string? = some header.algorithm.name)
      ∧ header.keyId
        = ((Json.last? "kid" members).bind Json.Tree.string?).filter (· ≠ "") := by
  simp only [ofTree, object, Option.getD_some] at read
  split at read
  next => cases read
  next algorithm found =>
    cases read
    obtain ⟨name, named, known⟩ := Option.bind_eq_some_iff.mp found
    obtain ⟨value, last, written⟩ := Option.bind_eq_some_iff.mp named
    exact ⟨⟨value, last, by rw [written, Algorithm.ofName?_eq_some_iff.mp known]⟩, rfl⟩

/-- What the strict reading asks of a header. -/
theorem strict?_eq_some {tree : Json.Tree} {header : Header}
    (read : strict? tree = some header)
    : ∃ members value,
        tree.members? = some members
        ∧ Json.only? "alg" members = some value
        ∧ choice? isNull value = some header.algorithm.name
        ∧ areTyped members = true
        ∧ header.keyId = (Json.only? "kid" members).bind Json.Tree.string? := by
  obtain ⟨members, object, read⟩ := Option.bind_eq_some_iff.mp read
  obtain ⟨name, named, read⟩ := Option.bind_eq_some_iff.mp read
  obtain ⟨algorithm, known, read⟩ := Option.bind_eq_some_iff.mp read
  obtain ⟨value, only, chosen⟩ := Option.bind_eq_some_iff.mp named
  split at read
  next typed =>
    obtain rfl := Option.some.inj read
    rw [← Algorithm.ofName?_eq_some_iff.mp known] at chosen
    exact ⟨members, value, object, only, chosen, typed, rfl⟩
  next => cases read

/-- Where the types are right, the id of the key comes at most once. -/
theorem isUnique_of_areTyped {members : List (String × Json.Tree)}
    (typed : areTyped members = true)
    : Json.isUnique "kid" members = true := by
  simp only [areTyped, Bool.and_eq_true, List.all_eq_true] at typed
  have checked := typed.1.1 "kid" (by simp [textMembers])
  simp only [hasAtMostOne, Bool.and_eq_true] at checked
  exact checked.1

/-- The lenient and the strict reading agree on the algorithm and, but for an empty one, on the id
of the key. The strict reading lets each come once only, so it sees what the lenient one sees
last; and an algorithm that is a text is the choice of that name.
-/
theorem readings_agree {tree : Json.Tree} {lenient strict : Header}
    (first : ofTree tree = .ok lenient) (second : strict? tree = some strict)
    : lenient.algorithm = strict.algorithm
      ∧ lenient.keyId = strict.keyId.filter (· ≠ "")
      ∧ ∃ members value,
          tree.members? = some members
          ∧ Json.valuesOf "alg" members = [value]
          ∧ value.string? = some strict.algorithm.name
          ∧ Json.isUnique "kid" members = true
          ∧ strict.keyId = (Json.only? "kid" members).bind Json.Tree.string? := by
  obtain ⟨members, value, object, only, chosen, typed, named⟩ := strict?_eq_some second
  obtain ⟨⟨seen, last, written⟩, id⟩ := ofTree_eq_ok object first
  have once := Json.only?_eq_some_iff.mp only
  have unique := isUnique_of_areTyped typed
  have same : seen = value := by
    rw [Json.last?, once] at last
    exact (Option.some.inj last).symm
  subst same
  have name : lenient.algorithm.name = strict.algorithm.name := by
    rw [choice?_of_string? written] at chosen
    exact Option.some.inj chosen
  have algorithm : lenient.algorithm = strict.algorithm := by
    have back := Algorithm.ofName?_eq_some_iff.mpr name
    rw [Algorithm.ofName?_eq_some_iff.mpr rfl] at back
    exact (Option.some.inj back).symm
  refine ⟨algorithm, ?_, members, seen, object, once, ?_, unique, named⟩
  · rw [id, named, Json.last?_eq_only? unique]
  · rw [written, name]

end Header

/-- A token of three parts is cut at its only two dots. -/
theorem Parts.ofBytes?_eq_some {bytes : List UInt8} {parts : Parts}
    (cut : Parts.ofBytes? bytes = some parts)
    : Text.fields dot bytes = [parts.header, parts.payload, parts.signature] := by
  unfold Parts.ofBytes? at cut
  split at cut
  next header payload signature found =>
    cases cut
    exact found
  next => cases cut

/-- The lenient reading is of the first of three parts of a token that is not too large. -/
theorem Header.inspect_eq_ok {token : String} {header : Header}
    (inspected : Header.inspect token = .ok header)
    : (Text.utf8 token).length ≤ maxSize
      ∧ ∃ parts tree,
          Parts.ofBytes? (Text.utf8 token) = some parts
          ∧ decodePart parts.header = some tree
          ∧ Header.ofTree tree = .ok header := by
  unfold Header.inspect at inspected
  simp only at inspected
  split at inspected
  next => cases inspected
  next small =>
    split at inspected
    next => cases inspected
    next parts cut =>
      split at inspected
      next => cases inspected
      next tree readable =>
        obtain ⟨decoded, _⟩ := Option.filter_eq_some_iff.mp readable
        exact ⟨Nat.le_of_not_lt small, parts, tree, cut, decoded, inspected⟩

-----------------------------------------------------------------------------------------
-- Payloads and times
-----------------------------------------------------------------------------------------

namespace TokenClaims

/-- Claims are made by members that come once each, and have not expired. -/
theorem ofPayload?_eq_some {now : Int} {tree : Json.Tree} {claims : TokenClaims}
    (made : ofPayload? now tree = some claims)
    : ∃ members subject email issuedAt expiresAt,
        tree.members? = some members
        ∧ Json.valuesOf "sub" members = [subject] ∧ subject.string? = some claims.subject
        ∧ Json.valuesOf "email" members = [email] ∧ email.string? = some claims.email
        ∧ Json.valuesOf "iat" members = [issuedAt] ∧ issuedAt.int64? = some claims.issuedAt
        ∧ Json.valuesOf "exp" members = [expiresAt] ∧ expiresAt.int64? = some claims.expiresAt
        ∧ now ≤ claims.expiresAt := by
  obtain ⟨members, object, made⟩ := Option.bind_eq_some_iff.mp made
  obtain ⟨found, read, made⟩ := Option.bind_eq_some_iff.mp made
  split at made
  next valid =>
    obtain rfl := Option.some.inj made
    simp only [Bool.and_eq_true, decide_eq_true_eq] at valid
    obtain ⟨subject, sub, read⟩ := Option.bind_eq_some_iff.mp read
    obtain ⟨email, mail, read⟩ := Option.bind_eq_some_iff.mp read
    obtain ⟨issuedAt, iat, read⟩ := Option.bind_eq_some_iff.mp read
    obtain ⟨expiresAt, exp, read⟩ := Option.bind_eq_some_iff.mp read
    obtain ⟨_, subjectIs, read⟩ := Option.bind_eq_some_iff.mp read
    obtain ⟨_, emailIs, read⟩ := Option.bind_eq_some_iff.mp read
    obtain ⟨_, issuedIs, read⟩ := Option.bind_eq_some_iff.mp read
    obtain ⟨_, expiresIs, read⟩ := Option.bind_eq_some_iff.mp read
    obtain rfl := Option.some.inj read
    exact ⟨members, subject, email, issuedAt, expiresAt, object,
      Json.only?_eq_some_iff.mp sub, subjectIs, Json.only?_eq_some_iff.mp mail, emailIs,
      Json.only?_eq_some_iff.mp iat, issuedIs, Json.only?_eq_some_iff.mp exp, expiresIs, valid.2⟩
  next => cases made

end TokenClaims

/-- The latest time of issue is never later than the skew allows: the addition can only lead back
to a time before.
-/
theorem latestIssue_le (now : Int64) (clockSkew : Nat)
    : latestIssue now.toInt clockSkew ≤ now.toInt + clockSkew := by
  have low : -2 ^ 63 ≤ now.toInt := Int64.le_toInt now
  unfold latestIssue Int.bmod
  simp only [UInt64.size]
  omega

namespace Broker

-----------------------------------------------------------------------------------------
-- Soundness
-----------------------------------------------------------------------------------------

/-- The claims are those of a payload signed, under the secret, by the algorithm of the strict
reading.
-/
theorem claimsOf?_eq_some {secret : Secret} {now : Int} {token : String} {claims : TokenClaims}
    (found : claimsOf? secret now token = some claims)
    : ∃ parts tree header payload,
        Parts.ofBytes? (Text.utf8 token) = some parts
        ∧ decodePart parts.header = some tree
        ∧ Header.strict? tree = some header
        ∧ parts.signature = header.algorithm.sign secret.reveal parts.signed
        ∧ decodePart parts.payload = some payload
        ∧ TokenClaims.ofPayload? now payload = some claims := by
  obtain ⟨parts, cut, found⟩ := Option.bind_eq_some_iff.mp found
  obtain ⟨header, read, found⟩ := Option.bind_eq_some_iff.mp found
  obtain ⟨tree, decoded, strict⟩ := Option.bind_eq_some_iff.mp read
  split at found
  next signed =>
    obtain ⟨payload, held, made⟩ := Option.bind_eq_some_iff.mp found
    exact ⟨parts, tree, header, payload, cut, decoded, strict, (eq_of_beq signed).symm, held, made⟩
  next => cases found

/-- The steps of a successful verification. -/
theorem verify_eq_ok {broker : Broker} {now : Int} {token : String} {claims : Claims}
    (verified : broker.verify now token = .ok claims)
    : ∃ header secret made,
        Header.inspect token = .ok header
        ∧ broker.secretFor? header.keyId = some secret
        ∧ claimsOf? secret now token = some made
        ∧ made.issuedAt ≤ latestIssue now broker.clockSkew
        ∧ Identity.normalize made.email ≠ ""
        ∧ claims = ⟨made.subject, Identity.normalize made.email, made.issuedAt, made.expiresAt,
            header.keyId⟩ := by
  unfold verify at verified
  simp only at verified
  split at verified
  next claims' found =>
    cases verified
    obtain ⟨header, inspected, found⟩ := Option.bind_eq_some_iff.mp found
    obtain ⟨secret, chosen, found⟩ := Option.bind_eq_some_iff.mp found
    obtain ⟨made, read, found⟩ := Option.bind_eq_some_iff.mp found
    split at found
    next valid =>
      obtain rfl := Option.some.inj found
      simp only [isIssuedInTime, Bool.and_eq_true, decide_eq_true_eq] at valid
      exact ⟨header, secret, made, eq_ok_of_toOption inspected, chosen, read, valid.1, valid.2,
        rfl⟩
    next => cases found
  next => cases verified

/-- What stands in a token that is verified, and the secret that it is verified with. -/
structure Contents where
  parts : Parts
  /-- The value in the first part, and its members. -/
  header : Json.Tree
  headerMembers : List (String × Json.Tree)
  algorithm : Algorithm
  /-- The id of the key as the strict reading has it, where an empty one counts. -/
  strictId : Option String
  secret : Secret
  /-- The value in the second part, and its members. -/
  payload : Json.Tree
  payloadMembers : List (String × Json.Tree)
  email : String

/-- The contents of a token bear out the claims at a time. -/
structure Sound (broker : Broker) (now : Int) (token : String) (claims : Claims)
    (contents : Contents) : Prop where
  size : (Text.utf8 token).length ≤ 8192
  parts
    : Text.fields dot (Text.utf8 token)
      = [contents.parts.header, contents.parts.payload, contents.parts.signature]
  header
    : decodePart contents.parts.header = some contents.header
      ∧ contents.header.members? = some contents.headerMembers
  /-- The algorithm comes once, as the text of its name. -/
  algorithm
    : ∃ value,
        Json.valuesOf "alg" contents.headerMembers = [value]
        ∧ value.string? = some contents.algorithm.name
        ∧ contents.algorithm.name ∈ ["HS256", "HS384", "HS512"]
  keyId
    : Json.isUnique "kid" contents.headerMembers = true
      ∧ contents.strictId = (Json.only? "kid" contents.headerMembers).bind Json.Tree.string?
      ∧ claims.keyId = contents.strictId.filter (· ≠ "")
  lenient : Header.inspect token = .ok ⟨contents.algorithm, claims.keyId⟩
  strict : Header.strict? contents.header = some ⟨contents.algorithm, contents.strictId⟩
  namedSecret
    : ∀ id, claims.keyId = some id →
        id ≠ "" ∧ ∃ key,
          KeySet.find? broker.keys.keys id = some key ∧ contents.secret = key.secret
  legacySecret : claims.keyId = none → broker.legacySecret = some contents.secret
  signature
    : contents.parts.signature
      = Base64.urlSafe.encode
          (contents.algorithm.digest (Text.utf8 contents.secret.reveal)
            (contents.parts.header ++ dot :: contents.parts.payload))
  payload
    : decodePart contents.parts.payload = some contents.payload
      ∧ contents.payload.members? = some contents.payloadMembers
  subject
    : ∃ value, Json.valuesOf "sub" contents.payloadMembers = [value]
        ∧ value.string? = some claims.subject
  issuedAt
    : ∃ value, Json.valuesOf "iat" contents.payloadMembers = [value]
        ∧ value.int64? = some claims.issuedAt
  expiresAt
    : ∃ value, Json.valuesOf "exp" contents.payloadMembers = [value]
        ∧ value.int64? = some claims.expiresAt
  email
    : ∃ value, Json.valuesOf "email" contents.payloadMembers = [value]
        ∧ value.string? = some contents.email
  identity : claims.identity = Identity.normalize contents.email ∧ claims.identity ≠ ""
  notExpired : now ≤ claims.expiresAt
  notEarly : claims.issuedAt ≤ now + broker.clockSkew

/-- The secret is that of the key that is named, which has no empty id, or the legacy secret if
none is.
-/
theorem secretFor?_eq_some {broker : Broker} {keyId : Option String} {secret : Secret}
    (chosen : broker.secretFor? keyId = some secret)
    : (∀ id, keyId = some id →
          ∃ key, KeySet.find? broker.keys.keys id = some key ∧ secret = key.secret)
      ∧ (keyId = none → broker.legacySecret = some secret) := by
  cases keyId with
  | none =>
      refine ⟨?_, fun _ => chosen⟩
      rintro id ⟨⟩
  | some id =>
      refine ⟨?_, ?_⟩
      · rintro id ⟨⟩
        obtain ⟨key, found, same⟩ := Option.map_eq_some_iff.mp chosen
        exact ⟨key, found, same.symm⟩
      · rintro ⟨⟩

/-- Verification is sound: a token that is accepted bears out its claims. It is signed with the
secret of the key that its header names, or with the legacy secret if it names none, by the
algorithm that it names, and its times fit the clock.
-/
theorem verify_sound {broker : Broker} {now : Int64} {token : String} {claims : Claims}
    (verified : broker.verify now.toInt token = .ok claims)
    : ∃ contents, Sound broker now.toInt token claims contents := by
  obtain ⟨lenient, secret, made, inspected, chosen, read, early, named, rfl⟩ :=
    verify_eq_ok verified
  obtain ⟨small, parts, tree, cut, decoded, lenientRead⟩ := Header.inspect_eq_ok inspected
  obtain ⟨_, _, strict, payload, again, alsoDecoded, strictRead, signed, held, claimed⟩ :=
    claimsOf?_eq_some read
  -- Both readings are of the same value in the same part.
  obtain rfl := Option.some.inj (cut.symm.trans again)
  obtain rfl := Option.some.inj (decoded.symm.trans alsoDecoded)
  obtain ⟨algorithm, id, members, value, object, once, written, unique, strictId⟩ :=
    Header.readings_agree lenientRead strictRead
  obtain ⟨payloadMembers, subject, email, issuedAt, expiresAt, payloadObject, sub, subjectIs, mail,
    emailIs, iat, issuedIs, exp, expiresIs, alive⟩ := TokenClaims.ofPayload?_eq_some claimed
  obtain ⟨ofKey, legacy⟩ := secretFor?_eq_some chosen
  refine ⟨⟨parts, tree, members, strict.algorithm, strict.keyId, secret, payload, payloadMembers,
    made.email⟩, ?_⟩
  exact {
    size := small
    parts := Parts.ofBytes?_eq_some cut
    header := ⟨decoded, object⟩
    algorithm := ⟨value, once, written, strict.algorithm.name_mem⟩
    keyId := ⟨unique, strictId, id⟩
    lenient := by rw [inspected, ← algorithm]
    strict := strictRead
    namedSecret := fun key same =>
      ⟨by simpa using (Option.filter_eq_some_iff.mp (id.symm.trans same)).2, ofKey key same⟩
    legacySecret := legacy
    signature := signed
    payload := ⟨held, payloadObject⟩
    subject := ⟨subject, sub, subjectIs⟩
    issuedAt := ⟨issuedAt, iat, issuedIs⟩
    expiresAt := ⟨expiresAt, exp, expiresIs⟩
    email := ⟨email, mail, emailIs⟩
    identity := ⟨rfl, named⟩
    notExpired := alive
    notEarly := Int.le_trans early (latestIssue_le now broker.clockSkew)
  }

/-- A token that names the one key of a broker and is signed with it. -/
theorem verify_sound_of_named_key
    : let key : SigningKey := ⟨"k", ⟨"s"⟩⟩
      let broker : Broker := ⟨⟨[key], key⟩, none, 60, 0⟩
      let token := "eyJhbGciOiJIUzI1NiIsImtpZCI6ImsifQ"
        ++ ".eyJzdWIiOiJ1IiwiZW1haWwiOiIgQUBiIiwiaWF0IjoxLCJleHAiOjJ9"
        ++ ".p-0WyENMk8SDfObyf2q21DF1VgCItxEL4lWn_aLrpiI"
      let claims : Claims := ⟨"u", "a@b", 1, 2, some "k"⟩
      broker.verify (2 : Int64).toInt token = .ok claims
        ∧ ∃ contents, Sound broker (2 : Int64).toInt token claims contents := by
  intro key broker token claims
  have accepted : (broker.verify (2 : Int64).toInt token).toOption = some claims := by
    decide +kernel
  have verified := eq_ok_of_toOption accepted
  exact ⟨verified, verify_sound verified⟩

end Broker

end Token

end ChatServer
