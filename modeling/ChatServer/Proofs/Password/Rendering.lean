import ChatServer.Password.Hash
import ChatServer.Proofs.Token.Issuing

/-! Hashes of passwords read back. A hash that was made of a password is taken apart into the parts
that it was put together from, so a password can always be compared with it, and the comparison says
whether the digests are the same.
-/

namespace ChatServer

theorem Base64.passwordHash_isProper : passwordHash.IsProper where
  size := by decide +kernel
  distinct := by decide +kernel
  unpadded := by decide +kernel

namespace Password

/-- How many bytes a salt has. -/
def saltSize : Nat := 16

/-- The text of a new cost is a piece of its own between dollar signs, and reads as the cost. -/
theorem naturalBelow?_costText {cost : Nat} (new : isNewCost cost = true)
    : '$' ∉ (costText cost).toList ∧ (costText cost).toList ≠ []
      ∧ Text.naturalBelow? UInt32.size (costText cost).toList = some cost := by
  have range : cost = 10 ∨ cost = 11 ∨ cost = 12 ∨ cost = 13 ∨ cost = 14 := by
    simp only [isNewCost, Bool.and_eq_true, decide_eq_true_eq] at new
    simp only [minNewCost, maxNewCost] at new
    omega
  rcases range with rfl | rfl | rfl | rfl | rfl <;> decide +kernel

/-- No symbol of a hash is a dollar sign, and all are ASCII. -/
theorem symbols_of_passwordHash {symbols : List UInt8}
    (proper : ∀ b ∈ symbols, b ∈ Base64.passwordHash.symbols)
    : '$' ∉ (Token.Broker.asciiText symbols).toList ∧ ∀ b ∈ symbols, b < 0x80 := by
  have each : ∀ b ∈ Base64.passwordHash.symbols, Char.ofNat b.toNat ≠ '$' ∧ b < 0x80 := by
    decide +kernel
  refine ⟨fun member => ?_, fun b member => (each b (proper b member)).2⟩
  rw [Token.Broker.asciiText, String.toList_ofList] at member
  obtain ⟨b, among, same⟩ := List.mem_map.mp member
  exact (each b (proper b among)).1 same

/-- Parts of which a hash can be put together. -/
structure HashParts.IsWritable (parts : HashParts) : Prop where
  cost : isNewCost parts.cost = true
  symbols : ∀ b ∈ parts.salt ++ parts.digest, b ∈ Base64.passwordHash.symbols
  salt : parts.salt.length = saltSymbols
  digest : parts.digest.length = digestSymbols

theorem HashParts.IsWritable.fields_render {parts : HashParts} (h : parts.IsWritable)
    : (Text.fields '$' parts.render.toList).filter (!·.isEmpty)
      = [['2', 'b'], (costText parts.cost).toList,
          (Token.Broker.asciiText (parts.salt ++ parts.digest)).toList] := by
  obtain ⟨costWhole, costSome, _⟩ := naturalBelow?_costText h.cost
  obtain ⟨symbolsWhole, _⟩ := symbols_of_passwordHash h.symbols
  have symbolsSome : (Token.Broker.asciiText (parts.salt ++ parts.digest)).toList ≠ [] := by
    intro none
    have size := congrArg List.length none
    rw [Token.Broker.asciiText, String.toList_ofList, List.length_map, List.length_append, h.salt,
      h.digest] at size
    exact absurd size (by decide)
  have whole : parts.render.toList
      = [] ++ '$' :: (['2', 'b'] ++ '$' :: ((costText parts.cost).toList ++ '$'
        :: (Token.Broker.asciiText (parts.salt ++ parts.digest)).toList)) := by
    simp [render, Token.Broker.asciiText]
  rw [whole, Text.fields_append (by simp), Text.fields_append (by decide),
    Text.fields_append costWhole, Text.fields_of_not_mem symbolsWhole]
  simp [costSome, symbolsSome]

/-- A hash is taken apart into the parts of which it was put together. -/
theorem HashParts.IsWritable.ofText_render {parts : HashParts} (h : parts.IsWritable)
    : ofText parts.render = .ok parts := by
  obtain ⟨_, _, cost⟩ := naturalBelow?_costText h.cost
  obtain ⟨_, ascii⟩ := symbols_of_passwordHash h.symbols
  have known : versions.contains (.ofList ['2', 'b']) = true := by decide
  have size : (parts.salt ++ parts.digest).length = saltSymbols + digestSymbols := by
    rw [List.length_append, h.salt, h.digest]
  have boundary : isBoundary (parts.salt ++ parts.digest) saltSymbols = true := by
    rw [isBoundary]
    split
    next b found => simp [ascii b (List.mem_of_getElem? found)]
    next => rfl
  simp only [ofText, h.fields_render, known, cost, String.ofList_toList,
    Text.utf8_asciiText ascii, size, boundary, Bool.not_true, Bool.false_eq_true, if_false,
    decide_true, Bool.and_true, if_true]
  rw [← h.salt, List.take_left, List.drop_left]

/-- The parts of the hash of a password. -/
theorem HashParts.isWritable_ofPassword {cost : Nat} (new : isNewCost cost = true)
    {salt : List UInt8} (size : salt.length = saltSize) (password : String)
    : (ofPassword cost salt password).IsWritable where
  cost := new
  symbols b member := by
    rcases List.mem_append.mp member with inSalt | inDigest
    · exact Base64.passwordHash_isProper.mem_symbols_of_mem_encode _ b inSalt
    · exact Base64.passwordHash_isProper.mem_symbols_of_mem_encode _ b inDigest
  salt := (Base64.Alphabet.length_encode _ _).trans (by rw [size]; rfl)
  digest := (Base64.Alphabet.length_encode _ _).trans (by rw [length_digest]; rfl)

/-- What has been encoded for a hash is found again. -/
theorem decodeSymbols_encode (bytes : List UInt8)
    : decodeSymbols (Base64.passwordHash.encode bytes) = .ok bytes := by
  rw [decodeSymbols, Base64.passwordHash_isProper.decode_encode]
  rfl

/-- Whether a password matches the hash that was made of another one is told, and it is whether the
two have the same digest.
-/
theorem verify_hash {cost : Nat} (new : isNewCost cost = true) {salt : List UInt8}
    (size : salt.length = saltSize) (password other : String)
    : ∃ text, hash cost salt password = .ok text
      ∧ verify other text
        = .ok (digest cost salt (Text.utf8 other) == digest cost salt (Text.utf8 password)) := by
  refine ⟨(HashParts.ofPassword cost salt password).render, if_pos new, ?_⟩
  have apart := (HashParts.isWritable_ofPassword new size password).ofText_render
  have right : isCost cost = true := isCost_of_isNewCost new
  rw [verify, matchesHash, apart]
  simp only [HashParts.ofPassword, decodeSymbols_encode, right, bind, Except.bind, pure,
    Except.pure, Except.mapError, if_true]

/-- A password can be hashed at every cost from 10 to 14 and with every salt. The text of the hash
has three parts, of which the second is the cost; it is taken apart into the cost, the salt and the
digest that it was made of; and the password matches it.
-/
theorem own_hash_matches {cost : Nat} (least : 10 ≤ cost) (greatest : cost ≤ 14)
    {salt : List UInt8} (size : salt.length = saltSize) (password : String)
    : ∃ text symbols parts, hash cost salt password = .ok text
      ∧ text = "$2b$" ++ toString cost ++ "$" ++ symbols
      ∧ (Text.fields '$' text.toList).filter (!·.isEmpty)
        = [['2', 'b'], (toString cost).toList, symbols.toList]
      ∧ symbols.length = saltSymbols + digestSymbols
      ∧ HashParts.ofText text = .ok parts
      ∧ parts.cost = cost
      ∧ decodeSymbols parts.salt = .ok salt
      ∧ decodeSymbols parts.digest = .ok (digest cost salt (Text.utf8 password))
      ∧ verify password text = .ok true := by
  have new : isNewCost cost = true := by
    simp only [isNewCost, Bool.and_eq_true, decide_eq_true_eq]
    exact ⟨least, greatest⟩
  let parts := HashParts.ofPassword cost salt password
  have writable : parts.IsWritable := HashParts.isWritable_ofPassword new size password
  have shownCost : costText cost = toString cost := if_neg (by omega)
  obtain ⟨text, hashed, matched⟩ := verify_hash new size password password
  obtain rfl : parts.render = text := Except.ok.inj ((if_pos new).symm.trans hashed)
  refine ⟨parts.render, Token.Broker.asciiText (parts.salt ++ parts.digest), parts, hashed,
    ?_, ?_, ?_, writable.ofText_render, rfl, decodeSymbols_encode _, decodeSymbols_encode _, ?_⟩
  · rw [← shownCost]
    rfl
  · rw [← shownCost]
    exact writable.fields_render
  · rw [Token.Broker.asciiText, String.length_ofList, List.length_map, List.length_append,
      writable.salt, writable.digest]
  · rw [matched, beq_self_eq_true]

/-- A password that holds a zero byte, at the least cost and with a salt of zeros. -/
theorem own_hash_matches_of_zeros
    : ∃ text parts, hash 10 (List.replicate saltSize 0) "p\x00w" = .ok text
      ∧ HashParts.ofText text = .ok parts
      ∧ parts.cost = 10
      ∧ decodeSymbols parts.salt = .ok (List.replicate saltSize 0)
      ∧ verify "p\x00w" text = .ok true := by
  obtain ⟨text, _, parts, hashed, _, _, _, apart, cost, salt, _, matched⟩ :=
    own_hash_matches (by decide : 10 ≤ 10) (by decide) (List.length_replicate (n := saltSize))
      "p\x00w"
  exact ⟨text, parts, hashed, apart, cost, salt, matched⟩

end Password

end ChatServer
