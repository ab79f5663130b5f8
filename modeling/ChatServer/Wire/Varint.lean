/-!
Numbers on the wire. A number is written in groups of seven bits, the least significant first;
every byte but the last has its highest bit set. Reading takes at most ten bytes and refuses
what does not fit into 64 bits, but it does accept needless groups of zeros.
-/

namespace ChatServer.Wire

/-- A number as it is written. -/
def varint (n : Nat) : List UInt8 :=
  if n < 128 then [UInt8.ofNat n] else UInt8.ofNat (128 + n % 128) :: varint (n / 128)

/-- Reads the groups of a number when `room` more of them are allowed, of which the last may
hold one bit only. -/
def readVarintWithin : Nat → List UInt8 → Option (Nat × List UInt8)
  | 0, _ => none
  | _ + 1, [] => none
  | room + 1, b :: rest =>
    if room = 0 ∧ 2 ≤ b.toNat then none
    else if b.toNat < 128 then some (b.toNat, rest)
    else (readVarintWithin room rest).map fun (n, rest) => (b.toNat - 128 + 128 * n, rest)

/-- Reads a number, and gives what follows it. -/
def readVarint (bytes : List UInt8) : Option (Nat × List UInt8) :=
  readVarintWithin 10 bytes

/-- What is written within the room is read back. -/
theorem readVarintWithin_varint {room n : Nat} (h : n < 1 <<< (7 * room + 1)) (rest : List UInt8)
    : readVarintWithin (room + 1) (varint n ++ rest) = some (n, rest) := by
  induction room generalizing n with
  | zero =>
    have small : n < 128 := by omega
    have value : (UInt8.ofNat n).toNat = n := by
      rw [UInt8.toNat_ofNat']; omega
    rw [varint, if_pos small, List.singleton_append, readVarintWithin, value]
    have bit : ¬(0 = 0 ∧ 2 ≤ n) := by omega
    rw [if_neg bit, if_pos small]
  | succ room ih =>
    rw [varint]
    split
    next small =>
      have value : (UInt8.ofNat n).toNat = n := by
        rw [UInt8.toNat_ofNat']; omega
      rw [List.singleton_append, readVarintWithin, value]
      simp [small]
    next large =>
      have value : (UInt8.ofNat (128 + n % 128)).toNat = 128 + n % 128 := by
        rw [UInt8.toNat_ofNat']; omega
      have fits : n / 128 < 1 <<< (7 * room + 1) := by
        have : 1 <<< (7 * (room + 1) + 1) = 128 * 1 <<< (7 * room + 1) := by
          rw [Nat.one_shiftLeft, Nat.one_shiftLeft,
            show 7 * (room + 1) + 1 = 7 + (7 * room + 1) by omega, Nat.pow_add]
        omega
      have more : ¬(room + 1 = 0 ∧ 2 ≤ 128 + n % 128) := by omega
      have high : ¬128 + n % 128 < 128 := by omega
      have sum : 128 + n % 128 - 128 + 128 * (n / 128) = n := by omega
      rw [List.cons_append, readVarintWithin, value, if_neg more, if_neg high, ih fits,
        Option.map_some]
      exact congrArg (fun m => some (m, rest)) sum

/-- A number of 64 bits is read back as it was written. -/
theorem readVarint_varint {n : Nat} (h : n < UInt64.size) (rest : List UInt8)
    : readVarint (varint n ++ rest) = some (n, rest) :=
  readVarintWithin_varint h rest

end ChatServer.Wire
