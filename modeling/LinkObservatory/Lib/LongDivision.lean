import Mathlib

namespace LongDivision
set_option autoImplicit true

/-- Restoring division after every bit at position `k` and above has been scanned. -/
structure Scanned (n d k q r : Nat) : Prop where
  split : n / 2 ^ k = q * d + r
  bound : r < d

/-- The bit of `n` that the scan exposes next at position `k`. -/
def bitAt (n k : Nat) : Nat := n / 2 ^ k % 2

theorem div_pow_eq_bitAt (n k : Nat) : n / 2 ^ k = 2 * (n / 2 ^ (k + 1)) + bitAt n k := by
  have hd : n / 2 ^ (k + 1) = n / 2 ^ k / 2 := by
    rw [Nat.div_div_eq_div_mul, pow_succ]
  rw [hd, bitAt]
  omega

theorem Scanned.start (hd : 0 < d) (hn : n < 2 ^ k) : Scanned n d k 0 0 := by
  refine ⟨?_, hd⟩
  rw [Nat.div_eq_of_lt hn, Nat.zero_mul]

theorem Scanned.shift (h : Scanned n d (k + 1) q r) :
    n / 2 ^ k = 2 * q * d + (2 * r + bitAt n k) := by
  rw [div_pow_eq_bitAt, h.split]
  ring

theorem Scanned.subtract (h : Scanned n d (k + 1) q r) (hle : d ≤ 2 * r + bitAt n k) :
    Scanned n d k (2 * q + 1) (2 * r + bitAt n k - d) := by
  have hb : bitAt n k < 2 := Nat.mod_lt _ (by decide)
  have hr := h.bound
  refine ⟨?_, by omega⟩
  rw [h.shift, Nat.add_mul, Nat.one_mul]
  omega

theorem Scanned.keep (h : Scanned n d (k + 1) q r) (hlt : 2 * r + bitAt n k < d) :
    Scanned n d k (2 * q) (2 * r + bitAt n k) :=
  ⟨h.shift, hlt⟩

/-- The partial quotient is the quotient of the scanned prefix. -/
theorem Scanned.quotient (h : Scanned n d k q r) : q = n / d / 2 ^ k := by
  have hd : 0 < d := Nat.lt_of_le_of_lt (Nat.zero_le _) h.bound
  rw [Nat.div_div_eq_div_mul, Nat.mul_comm, ← Nat.div_div_eq_div_mul, h.split]
  rw [Nat.add_comm, Nat.add_mul_div_right _ _ hd, Nat.div_eq_of_lt h.bound, Nat.zero_add]

/-- The partial remainder is the remainder of the scanned prefix. -/
theorem Scanned.remainder (h : Scanned n d k q r) : n / 2 ^ k % d = r := by
  rw [h.split, Nat.add_comm, Nat.add_mul_mod_self_right, Nat.mod_eq_of_lt h.bound]

theorem Scanned.finish (h : Scanned n d 0 q r) : q = n / d := by
  simpa using h.quotient

end LongDivision
