import Mathlib.Data.List.Nodup
import ChatServer.Base64

/-! What bytes are written as in Base64 is read as those bytes again, over every alphabet in which
64 different symbols stand for the numbers. The symbols of the alphabet for addresses are letters,
digits and two marks, so a dot between two runs of them parts them.
-/

namespace ChatServer.Base64.Alphabet

-----------------------------------------------------------------------------------------
-- Symbols and their numbers
-----------------------------------------------------------------------------------------

/-- Sixty-four symbols that differ from each other and from the padding. -/
structure IsProper (alphabet : Alphabet) : Prop where
  size : alphabet.symbols.length = 64
  distinct : alphabet.symbols.Nodup
  unpadded : padding ∉ alphabet.symbols

theorem urlSafe_isProper : urlSafe.IsProper where
  size := by decide +kernel
  distinct := by decide +kernel
  unpadded := by decide +kernel

variable {alphabet : Alphabet}

theorem IsProper.symbol_eq (proper : alphabet.IsProper) {n : Nat} (small : n < 64)
    : ∃ bound : n < alphabet.symbols.length, alphabet.symbol n = alphabet.symbols[n] := by
  have bound : n < alphabet.symbols.length := by rw [proper.size]; exact small
  exact ⟨bound, by rw [symbol, List.getElem?_eq_getElem bound, Option.getD_some]⟩

theorem IsProper.symbol_mem (proper : alphabet.IsProper) {n : Nat} (small : n < 64)
    : alphabet.symbol n ∈ alphabet.symbols := by
  obtain ⟨bound, same⟩ := proper.symbol_eq small
  exact same ▸ List.getElem_mem bound

theorem IsProper.symbol_ne_padding (proper : alphabet.IsProper) {n : Nat} (small : n < 64)
    : alphabet.symbol n ≠ padding :=
  fun same => proper.unpadded (same ▸ proper.symbol_mem small)

/-- A symbol stands for the number that it is written for. -/
theorem IsProper.valueAt_symbol (proper : alphabet.IsProper) (offset : Nat) {n : Nat}
    (small : n < 64)
    : alphabet.valueAt offset (alphabet.symbol n) = .ok n := by
  obtain ⟨bound, same⟩ := proper.symbol_eq small
  have found : alphabet.value? (alphabet.symbol n) = some n := by
    rw [same, value?, List.idxOf?_eq_some_iff]
    refine ⟨bound, by simp, fun j earlier => ?_⟩
    rw [proper.distinct.getElem_inj_iff]
    exact Nat.ne_of_lt earlier
  rw [valueAt, found]

-----------------------------------------------------------------------------------------
-- Reading what was written
-----------------------------------------------------------------------------------------

/-- The numbers of symbols without padding. -/
theorem IsProper.lastValues_symbols (proper : alphabet.IsProper) (start : Nat) {ns : List Nat}
    (small : ∀ n ∈ ns, n < 64)
    : alphabet.lastValues start (ns.map alphabet.symbol) = .ok (ns, 0) := by
  have go : ∀ index values,
      lastValues.go alphabet start index values 0 (ns.map alphabet.symbol)
        = .ok (values ++ ns, 0) := by
    induction ns with
    | nil => intro index values; simp [lastValues.go]
    | cons n ns ih =>
        intro index values
        obtain ⟨first, rest⟩ := List.forall_mem_cons.mp small
        rw [List.map_cons, lastValues.go, if_neg (proper.symbol_ne_padding first),
          if_neg (Nat.lt_irrefl 0), proper.valueAt_symbol _ first]
        simp only [ih rest, List.append_assoc, List.singleton_append]
  exact go 0 []

/-- Two symbols make a byte if no bits are left over. -/
theorem IsProper.decodeLast_two (proper : alphabet.IsProper) (start : Nat) {a b : Nat}
    (small : ∀ n ∈ [a, b], n < 64) (full : b % 16 = 0)
    : alphabet.decodeLast start [alphabet.symbol a, alphabet.symbol b]
      = .ok [.ofNat (a * 4 + b / 16)] := by
  have values := proper.lastValues_symbols start small
  rw [List.map_cons, List.map_cons, List.map_nil] at values
  simp [decodeLast, values, full, bind, Except.bind, pure, Except.pure]

/-- Three symbols make two bytes if no bits are left over. -/
theorem IsProper.decodeLast_three (proper : alphabet.IsProper) (start : Nat) {a b c : Nat}
    (small : ∀ n ∈ [a, b, c], n < 64) (full : c % 4 = 0)
    : alphabet.decodeLast start [alphabet.symbol a, alphabet.symbol b, alphabet.symbol c]
      = .ok [.ofNat (a * 4 + b / 16), .ofNat (b % 16 * 16 + c / 4)] := by
  have values := proper.lastValues_symbols start small
  rw [List.map_cons, List.map_cons, List.map_cons, List.map_nil] at values
  simp [decodeLast, values, full, bind, Except.bind, pure, Except.pure]

/-- Four symbols make three bytes. -/
theorem IsProper.decodeLast_four (proper : alphabet.IsProper) (start : Nat) {a b c d : Nat}
    (small : ∀ n ∈ [a, b, c, d], n < 64)
    : alphabet.decodeLast start
        [alphabet.symbol a, alphabet.symbol b, alphabet.symbol c, alphabet.symbol d]
      = .ok [.ofNat (a * 4 + b / 16), .ofNat (b % 16 * 16 + c / 4), .ofNat (c % 4 * 64 + d)] := by
  have values := proper.lastValues_symbols start small
  rw [List.map_cons, List.map_cons, List.map_cons, List.map_cons, List.map_nil] at values
  simp [decodeLast, values, bind, Except.bind, pure, Except.pure]

theorem ofNat_of_eq_toNat {b : UInt8} {n : Nat} (same : n = b.toNat)
    : UInt8.ofNat n = b := by
  rw [same, UInt8.ofNat_toNat]

/-- Reading is the inverse of writing, wherever the symbols start. -/
theorem IsProper.decodeFrom_encode (proper : alphabet.IsProper) (start : Nat) (bytes : List UInt8)
    : alphabet.decodeFrom start (alphabet.encode bytes) = .ok bytes := by
  induction bytes using encode.induct generalizing start with
  | case1 => rfl
  | case2 a =>
      have boundA := a.toNat_lt
      simp only [encode, decodeFrom]
      generalize whole : a.toNat * 16 = n
      rw [proper.decodeLast_two start (by simp; omega) (by omega),
        ofNat_of_eq_toNat (b := a) (by omega)]
  | case3 a b =>
      have boundA := a.toNat_lt
      have boundB := b.toNat_lt
      simp only [encode, decodeFrom]
      generalize whole : (a.toNat * 256 + b.toNat) * 4 = n
      rw [proper.decodeLast_three start (by simp; omega) (by omega),
        ofNat_of_eq_toNat (b := a) (by omega), ofNat_of_eq_toNat (b := b) (by omega)]
  | case4 a b c rest ih =>
      have boundA := a.toNat_lt
      have boundB := b.toNat_lt
      have boundC := c.toNat_lt
      simp only [encode]
      generalize whole : (a.toNat * 256 + b.toNat) * 256 + c.toNat = n
      have bytesOf
          : UInt8.ofNat (n / 262144 * 4 + n / 4096 % 64 / 16) = a
            ∧ UInt8.ofNat (n / 4096 % 64 % 16 * 16 + n / 64 % 64 / 4) = b
            ∧ UInt8.ofNat (n / 64 % 64 % 4 * 64 + n % 64) = c :=
        ⟨ofNat_of_eq_toNat (by omega), ofNat_of_eq_toNat (by omega), ofNat_of_eq_toNat (by omega)⟩
      obtain ⟨isA, isB, isC⟩ := bytesOf
      cases written : alphabet.encode rest with
      | nil =>
          -- No symbols follow, so no bytes do, and the group is the last one.
          have none := ih start
          rw [written] at none
          obtain rfl : [] = rest := Except.ok.inj none
          rw [decodeFrom, proper.decodeLast_four start (by simp; omega), isA, isB, isC]
          rintro a b c d next rest ⟨⟩
      | cons next more =>
          rw [decodeFrom, proper.valueAt_symbol _ (by omega), proper.valueAt_symbol _ (by omega),
            proper.valueAt_symbol _ (by omega), proper.valueAt_symbol _ (by omega), ← written]
          simp only [ih, bind, Except.bind, pure, Except.pure, isA, isB, isC]

/-- What bytes are written as is read as those bytes. -/
theorem IsProper.decode_encode (proper : alphabet.IsProper) (bytes : List UInt8)
    : alphabet.decode (alphabet.encode bytes) = .ok bytes :=
  proper.decodeFrom_encode 0 bytes

/-- Three bytes take four symbols, and what is left over as many as its bits fill. -/
theorem length_encode (alphabet : Alphabet) (bytes : List UInt8)
    : (alphabet.encode bytes).length = (4 * bytes.length + 2) / 3 := by
  induction bytes using encode.induct with
  | case1 => rfl
  | case2 | case3 => simp only [encode, List.length_cons, List.length_nil, Nat.reduceAdd,
      Nat.reduceMul, Nat.reduceDiv]
  | case4 a b c rest ih =>
      simp only [encode, List.length_cons, ih]
      omega

/-- Bytes are written in symbols of the alphabet. -/
theorem IsProper.mem_symbols_of_mem_encode (proper : alphabet.IsProper) (bytes : List UInt8)
    : ∀ symbol ∈ alphabet.encode bytes, symbol ∈ alphabet.symbols := by
  induction bytes using encode.induct with
  | case1 => simp [encode]
  | case2 a =>
      have boundA := a.toNat_lt
      simp only [encode, List.forall_mem_cons]
      exact ⟨proper.symbol_mem (by omega), proper.symbol_mem (by omega), by simp⟩
  | case3 a b =>
      have boundA := a.toNat_lt
      have boundB := b.toNat_lt
      simp only [encode, List.forall_mem_cons]
      exact ⟨proper.symbol_mem (by omega), proper.symbol_mem (by omega),
        proper.symbol_mem (by omega), by simp⟩
  | case4 a b c rest ih =>
      have boundA := a.toNat_lt
      have boundB := b.toNat_lt
      have boundC := c.toNat_lt
      simp only [encode, List.forall_mem_cons]
      exact ⟨proper.symbol_mem (by omega), proper.symbol_mem (by omega),
        proper.symbol_mem (by omega), proper.symbol_mem (by omega), ih⟩

end ChatServer.Base64.Alphabet
