/-!
Numbers in a fixed number of bytes, the most significant first. What is written is read back as
far as the bytes hold it.
-/

namespace ChatServer.BigEndian

/-- The lowest bytes of a number, so many as there are to be. -/
def write : Nat → Nat → List UInt8
  | 0, _ => []
  | size + 1, n => write size (n / 256) ++ [UInt8.ofNat n]

/-- The number that bytes are. -/
def read (bytes : List UInt8) : Nat :=
  bytes.foldl (fun n b => 256 * n + b.toNat) 0

theorem length_write (size n : Nat) : (write size n).length = size := by
  induction size generalizing n with
  | zero => rfl
  | succ size ih => simp [write, ih]

theorem read_append_singleton (bytes : List UInt8) (b : UInt8)
    : read (bytes ++ [b]) = 256 * read bytes + b.toNat := by
  simp [read, List.foldl_append]

/-- A number that fits is read back as it was written. -/
theorem read_write {size n : Nat} (h : n < 1 <<< (8 * size)) : read (write size n) = n := by
  induction size generalizing n with
  | zero =>
    simp only [Nat.mul_zero, Nat.shiftLeft_zero] at h
    have zero : n = 0 := by omega
    subst zero; rfl
  | succ size ih =>
    have fits : n / 256 < 1 <<< (8 * size) := by
      rw [Nat.one_shiftLeft] at *
      rw [show 8 * (size + 1) = 8 * size + 8 by omega, Nat.pow_add] at h
      omega
    rw [write, read_append_singleton, ih fits, UInt8.toNat_ofNat']
    omega

end ChatServer.BigEndian
