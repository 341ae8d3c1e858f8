import InterfaceSchema.Number

/-!
# What is hashed of a number

A hasher is fed the width of a number and then its value. What a float feeds is left open but for
one thing: equal floats have to feed the same.

* `Number.fed`: what a number feeds to a hasher;
* `FloatHash.Respects`: what is asked of the floats;
* `FloatHash.packed`: a way to feed floats that keeps to it (`respects_packed`).
-/

namespace InterfaceSchema

/-! ## 1. Floats -/

/-- What the floats of the two widths feed to a hasher. -/
structure FloatHash (Fed : Type) where
  binary32 : UInt32 → Fed
  binary64 : UInt64 → Fed

/-- Equal floats feed the same. -/
structure FloatHash.Respects {Fed : Type} (floats : FloatHash Fed) : Prop where
  binary32 : ∀ a b : UInt32, BinaryFormat.binary32.same a.toNat b.toNat = true →
    floats.binary32 a = floats.binary32 b
  binary64 : ∀ a b : UInt64, BinaryFormat.binary64.same a.toNat b.toNat = true →
    floats.binary64 a = floats.binary64 b

/-! ## 2. Numbers -/

/-- The value of a number, as it is fed. -/
inductive FedValue (Fed : Type) where
  | integer (value : Int)
  | float (fed : Fed)
  deriving DecidableEq

/-- What a number feeds to a hasher: its width, then its value. -/
def Number.fed {Fed : Type} (floats : FloatHash Fed) : Number → BaseType × FedValue Fed
  | int8 value => (.int8, .integer value.toInt)
  | int16 value => (.int16, .integer value.toInt)
  | int32 value => (.int32, .integer value.toInt)
  | int64 value => (.int64, .integer value.toInt)
  | float32 word => (.float32, .float (floats.binary32 word))
  | float64 word => (.float64, .float (floats.binary64 word))

/-! ## 3. Packed floats -/

namespace BinaryFormat

/-- The parts of a float in 64 bits, whatever its format: the last 52 bits of the significand, the
    last 11 of the exponent, and a bit for a positive sign. A leading bit before the 52 is lost. -/
def packed (f : BinaryFormat) (word : Nat) : Nat :=
  let field := f.magnitude word / Nat.pow 2 f.fractionBits
  let fraction := f.magnitude word % Nat.pow 2 f.fractionBits
  let significand := if field = 0 then 2 * fraction else Nat.pow 2 f.fractionBits + fraction
  let exponent : Int := field - (Nat.pow 2 (f.exponentBits - 1) - 1 + f.fractionBits)
  if f.isNaN word then binary64.infinity + Nat.pow 2 51
  else
    (if f.isNegative word && !f.isZero word then 0 else binary64.signBit) +
      (exponent % 2048).toNat * Nat.pow 2 52 + significand % Nat.pow 2 52

theorem packed_eq_of_same (f : BinaryFormat) {a b : Nat} (h : f.same a b = true) :
    f.packed a = f.packed b := by
  unfold same at h
  split at h
  · obtain ⟨ha, hb⟩ := Bool.and_eq_true_iff.1 h
    unfold packed
    rw [if_pos ha, if_pos hb]
  · rename_i hnan
    rw [Bool.or_eq_true, not_or, Bool.not_eq_true, Bool.not_eq_true] at hnan
    rcases Bool.or_eq_true_iff.1 h with heq | hzero
    · rw [eq_of_beq heq]
    · -- the two zeros differ in their sign only, which is not packed
      obtain ⟨ha, hb⟩ := Bool.and_eq_true_iff.1 hzero
      have hmag : f.magnitude a = f.magnitude b := (eq_of_beq ha).trans (eq_of_beq hb).symm
      unfold packed
      simp only [hnan, ha, hb, hmag, Bool.not_true, Bool.and_false]

end BinaryFormat

namespace FloatHash

/-- Feeds the packed parts of each float. -/
def packed : FloatHash Nat where
  binary32 word := BinaryFormat.binary32.packed word.toNat
  binary64 word := BinaryFormat.binary64.packed word.toNat

theorem respects_packed : packed.Respects where
  binary32 _ _ h := BinaryFormat.packed_eq_of_same _ h
  binary64 _ _ h := BinaryFormat.packed_eq_of_same _ h

end FloatHash

end InterfaceSchema
