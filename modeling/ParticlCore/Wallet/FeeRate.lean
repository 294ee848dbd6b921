import Mathlib.Algebra.Order.Ring.Int
import Mathlib.Data.Int.Defs

/-!
# Wallet — `CFeeRate`

The fee-rate value type every pricing step of `wallet/feebumper.cpp` computes with
(`policy/feerate.h`, not under `src/`; its semantics here are the ones the fee bumper's
comments rely on and Bitcoin Core documents for it):

* `CFeeRate.ofFee f n` is `CFeeRate(nFeePaid, num_bytes)`: `f * 1000 / n` in `int64`
  arithmetic, truncated toward zero, and zero for an empty size;
* `CFeeRate.getFee r n` is `GetFee(num_bytes)`: the ceiling of `perK * n / 1000`, moved to
  `±1` when it rounds to zero at a non-empty size;
* `+` is `operator+=` and `max` is `std::max`, both on `nSatoshisPerK`.

`GetFee` divides in `double`; the model divides exactly, which agrees with the double
computation while `|perK * n|` stays below `2^53`. A size reaches these functions as
`uint32_t`: `toUInt32Size` is that conversion for the signed sizes the wallet computes.

Callers never unfold `getFee` or `ofFee`: the bound lemmas below pin both roundings, and
`omega` finishes the arithmetic with the products as atoms.
-/

namespace ParticlCore.Wallet

/-- `CFeeRate`: satoshis per 1000 virtual bytes. -/
structure CFeeRate where
  nSatoshisPerK : Int
  deriving DecidableEq, Repr

namespace CFeeRate

/-- `CFeeRate(nFeePaid, num_bytes)`. -/
def ofFee (nFeePaid : Int) (numBytes : Nat) : CFeeRate :=
  ⟨if 0 < numBytes then (nFeePaid * 1000).tdiv numBytes else 0⟩

/-- `CFeeRate::GetFee(num_bytes)`. -/
def getFee (r : CFeeRate) (numBytes : Nat) : Int :=
  let nFee := -(-(r.nSatoshisPerK * numBytes) / 1000)
  if nFee = 0 ∧ numBytes ≠ 0 then
    if 0 < r.nSatoshisPerK then 1 else if r.nSatoshisPerK < 0 then -1 else nFee
  else nFee

/-- `CFeeRate::GetFeePerK()`. -/
def getFeePerK (r : CFeeRate) : Int := r.nSatoshisPerK

/-- `operator+=`. -/
instance : Add CFeeRate := ⟨fun a b => ⟨a.nSatoshisPerK + b.nSatoshisPerK⟩⟩

instance : LT CFeeRate := ⟨fun a b => a.nSatoshisPerK < b.nSatoshisPerK⟩

instance (a b : CFeeRate) : Decidable (a < b) :=
  inferInstanceAs (Decidable (a.nSatoshisPerK < b.nSatoshisPerK))

/-- `std::max`: the second argument when the first is smaller, else the first. -/
instance : Max CFeeRate := ⟨fun a b => if a < b then b else a⟩

@[simp] theorem getFeePerK_eq (r : CFeeRate) : r.getFeePerK = r.nSatoshisPerK := rfl

@[simp] theorem add_nSatoshisPerK (a b : CFeeRate) :
    (a + b).nSatoshisPerK = a.nSatoshisPerK + b.nSatoshisPerK := rfl

theorem lt_iff (a b : CFeeRate) : a < b ↔ a.nSatoshisPerK < b.nSatoshisPerK := Iff.rfl

@[simp] theorem max_nSatoshisPerK (a b : CFeeRate) :
    (max a b).nSatoshisPerK = max a.nSatoshisPerK b.nSatoshisPerK := by
  show (if a < b then b else a).nSatoshisPerK = _
  split <;> rename_i h <;> rw [lt_iff] at h <;> omega

/-! ## Rounding of `GetFee` -/

@[simp] theorem getFee_zero_size (r : CFeeRate) : r.getFee 0 = 0 := by
  simp [getFee]

/-- The rounding `GetFee` starts from: `-(-x / 1000)` is the ceiling of `x / 1000`. -/
theorem ceil_div_thousand_bounds (x : Int) :
    x ≤ 1000 * -(-x / 1000) ∧ 1000 * -(-x / 1000) < x + 1000 := by
  omega

/-- At a non-empty size `GetFee` is the ceiling, pushed to at most `-1` for a negative rate:
the `+1` correction never fires, since a positive rate's ceiling is already positive. -/
theorem getFee_of_pos {r : CFeeRate} {n : Nat} (hn : 0 < n) :
    r.getFee n = if r.nSatoshisPerK < 0 then min (-(-(r.nSatoshisPerK * n) / 1000)) (-1)
      else -(-(r.nSatoshisPerK * n) / 1000) := by
  have hn' : (0 : Int) < n := by omega
  have hpos := mul_pos_iff_of_pos_right (a := r.nSatoshisPerK) hn'
  have hnonneg := Int.mul_nonneg_iff_of_pos_right (a := r.nSatoshisPerK) hn'
  have hc := ceil_div_thousand_bounds (r.nSatoshisPerK * n)
  simp only [getFee]
  generalize -(-(r.nSatoshisPerK * n) / 1000) = c at *
  generalize r.nSatoshisPerK * n = x at *
  split_ifs <;> omega

/-- At a non-negative rate `GetFee` is the plain ceiling. -/
theorem getFee_of_nonneg {r : CFeeRate} (h : 0 ≤ r.nSatoshisPerK) (n : Nat) :
    r.getFee n = -(-(r.nSatoshisPerK * n) / 1000) := by
  rcases Nat.eq_zero_or_pos n with rfl | hn
  · simp [getFee]
  rw [getFee_of_pos hn, if_neg (by omega)]

theorem le_getFee_mul {r : CFeeRate} (h : 0 ≤ r.nSatoshisPerK) (n : Nat) :
    r.nSatoshisPerK * n ≤ 1000 * r.getFee n := by
  rw [getFee_of_nonneg h]
  exact (ceil_div_thousand_bounds _).1

theorem getFee_mul_lt {r : CFeeRate} (h : 0 ≤ r.nSatoshisPerK) (n : Nat) :
    1000 * r.getFee n < r.nSatoshisPerK * n + 1000 := by
  rw [getFee_of_nonneg h]
  exact (ceil_div_thousand_bounds _).2

theorem getFee_nonneg {r : CFeeRate} (h : 0 ≤ r.nSatoshisPerK) (n : Nat) :
    0 ≤ r.getFee n := by
  have := le_getFee_mul h n
  have : 0 ≤ r.nSatoshisPerK * n := Int.mul_nonneg h (by omega)
  omega

/-- `GetFee` is monotone in the rate at every size, the `±1` correction included. -/
theorem getFee_mono {a b : CFeeRate} (h : a.nSatoshisPerK ≤ b.nSatoshisPerK) (n : Nat) :
    a.getFee n ≤ b.getFee n := by
  rcases Nat.eq_zero_or_pos n with rfl | hn
  · simp
  have hn' : (0 : Int) < n := by omega
  have hab : a.nSatoshisPerK * n ≤ b.nSatoshisPerK * n :=
    Int.mul_le_mul_of_nonneg_right h hn'.le
  have hb := Int.mul_nonneg_iff_of_pos_right (a := b.nSatoshisPerK) hn'
  have ca := ceil_div_thousand_bounds (a.nSatoshisPerK * n)
  have cb := ceil_div_thousand_bounds (b.nSatoshisPerK * n)
  rw [getFee_of_pos hn, getFee_of_pos hn]
  generalize -(-(a.nSatoshisPerK * n) / 1000) = fa at *
  generalize -(-(b.nSatoshisPerK * n) / 1000) = fb at *
  split_ifs <;> omega

theorem getFee_congr {a b : CFeeRate} (h : a.nSatoshisPerK = b.nSatoshisPerK) (n : Nat) :
    a.getFee n = b.getFee n := by
  cases a; cases b; simp_all

/-! ## Truncation of `CFeeRate(nFeePaid, num_bytes)` -/

@[simp] theorem ofFee_zero_size (f : Int) : (ofFee f 0).nSatoshisPerK = 0 := rfl

theorem ofFee_of_nonneg {f : Int} (hf : 0 ≤ f) {n : Nat} (hn : 0 < n) :
    (ofFee f n).nSatoshisPerK = f * 1000 / n := by
  simp only [ofFee, if_pos hn]
  exact Int.tdiv_eq_ediv (by omega) (by omega)

theorem ofFee_nonneg {f : Int} (hf : 0 ≤ f) (n : Nat) : 0 ≤ (ofFee f n).nSatoshisPerK := by
  rcases Nat.eq_zero_or_pos n with rfl | hn
  · simp
  rw [ofFee_of_nonneg hf hn]
  exact Int.ediv_nonneg (by omega) (by omega)

/-- The truncated rate never overstates the fee it was computed from. -/
theorem ofFee_mul_le {f : Int} (hf : 0 ≤ f) {n : Nat} (hn : 0 < n) :
    (ofFee f n).nSatoshisPerK * n ≤ f * 1000 := by
  rw [ofFee_of_nonneg hf hn]
  exact Int.ediv_mul_le _ (by omega)

/-- One satoshi per kvB more than the truncated rate overstates the fee: the slack
`EstimateFeeRate` and the total bump add for the rounding. -/
theorem lt_ofFee_add_one_mul {f : Int} (hf : 0 ≤ f) {n : Nat} (hn : 0 < n) :
    f * 1000 < ((ofFee f n).nSatoshisPerK + 1) * n := by
  rw [ofFee_of_nonneg hf hn]
  exact Int.lt_ediv_add_one_mul_self _ (by omega)

theorem le_ofFee_iff {f : Int} (hf : 0 ≤ f) {n : Nat} (hn : 0 < n) (a : Int) :
    a ≤ (ofFee f n).nSatoshisPerK ↔ a * n ≤ f * 1000 := by
  rw [ofFee_of_nonneg hf hn]
  exact Int.le_ediv_iff_mul_le (by omega)

/-- Truncating the rounded-up fee of a non-negative rate back to a rate lands between the
rate and a rate with that same fee. -/
theorem le_ofFee_getFee {m : CFeeRate} (hm : 0 ≤ m.nSatoshisPerK) {n : Nat} (hn : 0 < n) :
    m.nSatoshisPerK ≤ (ofFee (m.getFee n) n).nSatoshisPerK ∧
      (ofFee (m.getFee n) n).getFee n ≤ m.getFee n := by
  have hg := getFee_nonneg hm n
  have hup := le_getFee_mul hm n
  have hq := ofFee_mul_le hg hn
  have hdown := getFee_mul_lt (ofFee_nonneg hg n) n
  exact ⟨(le_ofFee_iff hg hn _).mpr (by omega), by omega⟩

end CFeeRate

/-- The `uint32_t num_bytes` a signed 64-bit size becomes at a fee-arithmetic call:
reduction modulo `2^32` (so `-1` becomes `4294967295`). -/
def toUInt32Size (x : Int) : Nat := (x % 2 ^ 32).toNat

end ParticlCore.Wallet
