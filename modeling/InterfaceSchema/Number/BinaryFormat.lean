/-!
# Binary floating-point formats

A binary number is a word of sign, exponent and fraction. This file reads such a word as a value
and finds the word nearest to a fraction of two naturals:

* `decode` reads a word as `significand · 2 ^ exponent`, an infinity, or no number at all;
* `nearest` rounds a fraction to the word of the closest value, of two equally close ones to the
  one whose last bit is zero, and past the largest value to infinity;
* `same` is equality of values: the two zeros are one value, and so are all words that hold no
  number. It holds exactly when the words have one `canonical` word (`same_iff`).
-/

namespace InterfaceSchema

/-! ## 1. Formats and the values of their words -/

/-- The widths, in bits, of the exponent and of the fraction. -/
structure BinaryFormat where
  exponentBits : Nat
  fractionBits : Nat

/-- What a word stands for. -/
inductive BinaryValue where
  | nan
  | infinite (negative : Bool)
  /-- The number `significand · 2 ^ exponent`, with a sign also for zero. -/
  | finite (negative : Bool) (significand : Nat) (exponent : Int)
  deriving DecidableEq

namespace BinaryFormat

/-- The 32-bit format. -/
def binary32 : BinaryFormat := ⟨8, 23⟩

/-- The 64-bit format. -/
def binary64 : BinaryFormat := ⟨11, 52⟩

/-- The exponent of the last place of the smallest numbers. -/
def leastExponent (f : BinaryFormat) : Int :=
  2 - Nat.pow 2 (f.exponentBits - 1) - f.fractionBits

/-- The exponent field of infinities and of words that hold no number. -/
def topField (f : BinaryFormat) : Nat :=
  Nat.pow 2 f.exponentBits - 1

/-- The word with only the sign set. -/
def signBit (f : BinaryFormat) : Nat :=
  Nat.pow 2 (f.exponentBits + f.fractionBits)

/-- The word of positive infinity; larger words hold no number. -/
def infinity (f : BinaryFormat) : Nat :=
  f.topField * Nat.pow 2 f.fractionBits

/-- Is the sign set? -/
def isNegative (f : BinaryFormat) (word : Nat) : Bool :=
  word / f.signBit % 2 == 1

/-- The word without its sign. -/
def magnitude (f : BinaryFormat) (word : Nat) : Nat :=
  word % f.signBit

/-- Does the word hold no number? -/
def isNaN (f : BinaryFormat) (word : Nat) : Bool :=
  f.infinity < f.magnitude word

/-- Does the word hold a zero, of either sign? -/
def isZero (f : BinaryFormat) (word : Nat) : Bool :=
  f.magnitude word == 0

/-- The value of a word. A zero exponent field marks the numbers below the least normal one, which
    have no hidden leading bit. -/
def decode (f : BinaryFormat) (word : Nat) : BinaryValue :=
  let field := f.magnitude word / Nat.pow 2 f.fractionBits
  let fraction := f.magnitude word % Nat.pow 2 f.fractionBits
  if f.isNaN word then .nan
  else if field = f.topField then .infinite (f.isNegative word)
  else if field = 0 then .finite (f.isNegative word) fraction f.leastExponent
  else
    .finite (f.isNegative word) (Nat.pow 2 f.fractionBits + fraction) (f.leastExponent + field - 1)

/-! ## 2. Equality of values -/

/-- The word that stands for all words of one value: the sign of a zero and the contents of a word
    that holds no number are left out. -/
def canonical (f : BinaryFormat) (word : Nat) : Nat :=
  if f.isNaN word then f.infinity + 1 else if f.isZero word then 0 else word

/-- Equality as values, with one value for all words that hold no number. -/
def same (f : BinaryFormat) (a b : Nat) : Bool :=
  if f.isNaN a || f.isNaN b then f.isNaN a && f.isNaN b
  else a == b || f.isZero a && f.isZero b

theorem isNaN_zero (f : BinaryFormat) : f.isNaN 0 = false := by
  simp [isNaN, magnitude]

theorem same_refl (f : BinaryFormat) (a : Nat) : f.same a a = true := by
  cases h : f.isNaN a <;> simp [same, h]

theorem same_comm (f : BinaryFormat) (a b : Nat) : f.same a b = f.same b a := by
  simp [same, Bool.or_comm, Bool.and_comm, Bool.beq_comm]

theorem same_trans (f : BinaryFormat) {a b c : Nat} (hab : f.same a b = true)
    (hbc : f.same b c = true) : f.same a c = true := by
  revert hab hbc
  cases ha : f.isNaN a <;> cases hb : f.isNaN b <;> cases hc : f.isNaN c <;>
    simp [same, ha, hb, hc]
  grind

/-- Under a sign there is room for a word that holds no number. -/
theorem infinity_succ_lt_signBit (f : BinaryFormat) (h : 0 < f.fractionBits) :
    f.infinity + 1 < f.signBit := by
  have hf : 2 ≤ Nat.pow 2 f.fractionBits := Nat.le_self_pow (Nat.pos_iff_ne_zero.1 h) 2
  have he : 0 < Nat.pow 2 f.exponentBits := Nat.two_pow_pos _
  have hs : f.signBit = Nat.pow 2 f.exponentBits * Nat.pow 2 f.fractionBits := Nat.pow_add 2 _ _
  have hi : f.signBit = f.infinity + Nat.pow 2 f.fractionBits := by
    unfold infinity topField
    rw [hs, Nat.sub_mul, Nat.one_mul, Nat.sub_add_cancel]
    exact Nat.le_mul_of_pos_left _ he
  omega

theorem isNaN_infinity_succ (f : BinaryFormat) (h : 0 < f.fractionBits) :
    f.isNaN (f.infinity + 1) = true := by
  have hlt := f.infinity_succ_lt_signBit h
  simp [isNaN, magnitude, Nat.mod_eq_of_lt hlt]

/-- Words are equal as values exactly when they have one canonical word. -/
theorem same_iff (f : BinaryFormat) (h : 0 < f.fractionBits) {a b : Nat} :
    f.same a b = true ↔ f.canonical a = f.canonical b := by
  have hn := f.isNaN_infinity_succ h
  have hz := f.isNaN_zero
  have zero_of {x : Nat} (hx : x = 0) : f.isZero x = true := by simp [hx, isZero, magnitude]
  cases ha : f.isNaN a <;> cases hb : f.isNaN b <;>
    cases hza : f.isZero a <;> cases hzb : f.isZero b <;>
    simp [same, canonical, ha, hb, hza, hzb] <;> grind

/-! ## 3. Rounding a fraction to a word -/

/-- The whole number nearest to `num / den`; a half goes to the even neighbour. -/
def divideToEven (num den : Nat) : Nat :=
  let below := num / den
  let twice := 2 * (num % den)
  if twice < den then below
  else if den < twice then below + 1
  else below + below % 2

/-- The greatest `e` with `2 ^ e ≤ num / den`, for positive `num` and `den`. -/
def binaryOrder (num den : Nat) : Int :=
  let guess : Int := num.log2 - den.log2
  if den * Nat.pow 2 guess.toNat ≤ num * Nat.pow 2 (-guess).toNat then guess else guess - 1

/-- The unsigned word nearest to `num / den`, for positive `den`. -/
def nearest (f : BinaryFormat) (num den : Nat) : Nat :=
  if num = 0 then 0
  else
    let exponent := max (binaryOrder num den - f.fractionBits) f.leastExponent
    let rounded :=
      divideToEven (num * Nat.pow 2 (-exponent).toNat) (den * Nat.pow 2 exponent.toNat)
    min ((exponent - f.leastExponent).toNat * Nat.pow 2 f.fractionBits + rounded) f.infinity

/-- The word nearest to `± num / den`. -/
def nearestSigned (f : BinaryFormat) (negative : Bool) (num den : Nat) : Nat :=
  (if negative then f.signBit else 0) + f.nearest num den

/-- The word nearest to a whole number. -/
def ofInt (f : BinaryFormat) (n : Int) : Nat :=
  f.nearestSigned (n < 0) n.natAbs 1

/-- The word nearest to `± digits · 10 ^ exponent`. -/
def ofDecimal (f : BinaryFormat) (negative : Bool) (digits : Nat) (exponent : Int) : Nat :=
  f.nearestSigned negative (digits * Nat.pow 10 exponent.toNat) (Nat.pow 10 (-exponent).toNat)

/-- The word of the value that another format's word has, or of the value nearest to it. -/
def convert (target source : BinaryFormat) (word : Nat) : Nat :=
  match source.decode word with
  | .nan => target.infinity + 1
  | .infinite negative => (if negative then target.signBit else 0) + target.infinity
  | .finite negative significand exponent =>
    target.nearestSigned negative (significand * Nat.pow 2 exponent.toNat)
      (Nat.pow 2 (-exponent).toNat)

end BinaryFormat

end InterfaceSchema
