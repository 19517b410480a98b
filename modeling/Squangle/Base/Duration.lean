import Mathlib.Algebra.Order.Ring.Int
import Mathlib.Data.List.Basic

/-!
# `Squangle.Base.Duration` — the time counts of the connect path

The connect path measures every timeout and every elapsed time as a `Duration`, which is
`std::chrono::microseconds`: a signed 64-bit count of microseconds. A sum that leaves the range
wraps, as the compiled code does, so addition goes through the explicit two's complement
reduction `wrap64` and every value carries its range as fields. `Millis`
(`std::chrono::milliseconds`) appears only through `duration_cast`, which truncates toward zero.

## Contents
- `wrap64` and its range lemmas; `Duration` with `ofInt`, `+`, `<` and `std::min`.
- `Duration.toMillis` (`duration_cast<Millis>`) and `toUInt32` (the implicit conversion of a
  `Millis` count to a `uint32_t` argument).
-/

namespace Squangle

/-- Two's complement reduction of an integer into the signed 64-bit range. -/
def wrap64 (x : Int) : Int :=
  (x + 9223372036854775808) % 18446744073709551616 - 9223372036854775808

theorem wrap64_lower (x : Int) : -2 ^ 63 ≤ wrap64 x := by unfold wrap64; omega

theorem wrap64_upper (x : Int) : wrap64 x < 2 ^ 63 := by unfold wrap64; omega

/-- A value already in range is its own reduction. -/
theorem wrap64_of_mem {x : Int} (h1 : -2 ^ 63 ≤ x) (h2 : x < 2 ^ 63) : wrap64 x = x := by
  unfold wrap64; omega

/-- `std::chrono::microseconds`: a signed 64-bit count of microseconds. -/
structure Duration where
  count : Int
  lower : -2 ^ 63 ≤ count
  upper : count < 2 ^ 63
  deriving DecidableEq

namespace Duration

/-- The duration whose count is `x` reduced into range. -/
def ofInt (x : Int) : Duration := ⟨wrap64 x, wrap64_lower x, wrap64_upper x⟩

instance : OfNat Duration n := ⟨ofInt n⟩

instance : Inhabited Duration := ⟨ofInt 0⟩

/-- `operator+` on durations: the 64-bit sum, wrapping out of range. -/
instance : Add Duration := ⟨fun a b => ofInt (a.count + b.count)⟩

instance : LT Duration := ⟨fun a b => a.count < b.count⟩

instance (a b : Duration) : Decidable (a < b) := inferInstanceAs (Decidable (a.count < b.count))

/-- `std::min(a, b)`: `b` when `b < a`, otherwise `a`. -/
def min (a b : Duration) : Duration := if b < a then b else a

/-- `std::chrono::milliseconds(1)`, as the microsecond count it adds. -/
def oneMs : Duration := ofInt 1000

/-- The count of `std::chrono::duration_cast<Millis>(d)`: microseconds over 1000, truncated
toward zero. -/
def toMillis (d : Duration) : Int := d.count.tdiv 1000

@[simp] theorem ofInt_count (x : Int) : (ofInt x).count = wrap64 x := rfl

@[simp] theorem add_count (a b : Duration) : (a + b).count = wrap64 (a.count + b.count) := rfl

@[simp] theorem lt_iff (a b : Duration) : a < b ↔ a.count < b.count := Iff.rfl

theorem ext' {a b : Duration} (h : a.count = b.count) : a = b := by
  cases a; cases b; simp only at h; subst h; rfl

/-- `std::min` returns one of its arguments. -/
theorem min_eq_or (a b : Duration) : min a b = a ∨ min a b = b := by
  unfold min; split <;> simp

/-- `std::min(a, b)` never exceeds `b`. -/
theorem min_count_le_right (a b : Duration) : (min a b).count ≤ b.count := by
  unfold min; split <;> simp_all only [lt_iff, not_lt, le_refl]

theorem min_count_le_left (a b : Duration) : (min a b).count ≤ a.count := by
  unfold min; split
  · simp only [lt_iff] at *; omega
  · exact le_refl _

/-- `std::min` on durations is the minimum of the counts. -/
theorem min_count (a b : Duration) : (min a b).count = Min.min a.count b.count := by
  unfold min; split <;> simp only [lt_iff] at * <;> omega

/-- Two non-negative durations add exactly while the sum stays below `2^63`; past it the sum
wraps to the exact sum minus `2^64`, a negative count. -/
theorem add_count_of_nonneg {a b : Duration} (ha : 0 ≤ a.count) (hb : 0 ≤ b.count) :
    (a + b).count =
      if a.count + b.count < 2 ^ 63 then a.count + b.count else a.count + b.count - 2 ^ 64 := by
  have := a.upper
  have := b.upper
  rw [add_count]
  unfold wrap64
  split <;> omega

@[simp] theorem oneMs_count : oneMs.count = 1000 := rfl

/-- On a non-negative count, `duration_cast<Millis>` is the floor of the count over 1000. -/
theorem toMillis_of_nonneg {d : Duration} (h : 0 ≤ d.count) : d.toMillis = d.count / 1000 :=
  Int.tdiv_eq_ediv h (by decide)

end Duration

/-- The implicit conversion of an integer count to a `uint32_t` parameter: the count modulo
`2^32`. -/
def toUInt32 (x : Int) : UInt32 := UInt32.ofNat (x % 4294967296).toNat

/-- A non-negative count reaches the `uint32_t` parameter modulo `2^32`. -/
theorem toUInt32_toNat {x : Int} (h : 0 ≤ x) : (toUInt32 x).toNat = x.toNat % 2 ^ 32 := by
  show (x % 4294967296).toNat % 4294967296 = _
  omega

end Squangle
