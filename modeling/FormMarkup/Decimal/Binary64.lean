namespace FormMarkup.Decimal

/-- A floating point number of 64 bits: its sign and its other 63 bits, which grow with the absolute
value. -/
structure Binary64 where
  negative : Bool
  magnitude : Nat
  deriving DecidableEq, Repr

namespace Binary64

def infinity : Nat := 0x7FF * Nat.pow 2 52

def isFinite (x : Binary64) : Bool :=
  x.magnitude < infinity

def isZero (x : Binary64) : Bool :=
  x.magnitude = 0

def isInfinite (x : Binary64) : Bool :=
  x.magnitude = infinity

def zero (negative : Bool) : Binary64 :=
  ⟨negative, 0⟩

def withSign (negative : Bool) (x : Binary64) : Binary64 :=
  { x with negative }

/-- The absolute value of a finite number is `significand * 2 ^ exponent`. -/
def significand (x : Binary64) : Nat :=
  if x.magnitude / Nat.pow 2 52 = 0 then x.magnitude else x.magnitude % Nat.pow 2 52 + Nat.pow 2 52

def exponent (x : Binary64) : Int :=
  if x.magnitude / Nat.pow 2 52 = 0 then -1074 else Int.ofNat (x.magnitude / Nat.pow 2 52) - 1075

def roundHalfEven (numerator denominator : Nat) : Nat :=
  let q := numerator / denominator
  let r := numerator % denominator
  if denominator < 2 * r then q + 1
  else if 2 * r = denominator then q + q % 2
  else q

/-- The largest `e` with `2 ^ e * denominator ≤ numerator`. -/
def floorLog (numerator denominator : Nat) : Int :=
  let e := Int.ofNat (Nat.log2 numerator) - Int.ofNat (Nat.log2 denominator)
  if denominator * Nat.pow 2 e.toNat ≤ numerator * Nat.pow 2 (-e).toNat then e else e - 1

def ofRatio (negative : Bool) (numerator denominator : Nat) : Binary64 :=
  if numerator = 0 then zero negative
  else
    let q := max (floorLog numerator denominator - 52) (-1074)
    let m := roundHalfEven (numerator * Nat.pow 2 (-q).toNat) (denominator * Nat.pow 2 q.toNat)
    ⟨negative, min (m + (q + 1074).toNat * Nat.pow 2 52) infinity⟩

def ofNat (n : Nat) : Binary64 :=
  ofRatio false n 1

def mul (x y : Binary64) : Binary64 :=
  let e := x.exponent + y.exponent
  ofRatio (x.negative != y.negative)
    (x.significand * y.significand * Nat.pow 2 e.toNat) (Nat.pow 2 (-e).toNat)

def div (x y : Binary64) : Binary64 :=
  let e := x.exponent - y.exponent
  ofRatio (x.negative != y.negative)
    (x.significand * Nat.pow 2 e.toNat) (y.significand * Nat.pow 2 (-e).toNat)

def powerOfTen (k : Nat) : Binary64 :=
  ofNat (Nat.pow 10 k)

def ofDecimal (negative : Bool) (coefficient : Nat) (e : Int) : Binary64 :=
  let places := Int.ofNat (Nat.toDigits 10 coefficient).length + e
  if coefficient = 0 || places < -400 then zero negative
  else if 400 < places then ⟨negative, infinity⟩
  else ofRatio negative (coefficient * Nat.pow 10 e.toNat) (Nat.pow 10 (-e).toNat)

end Binary64

end FormMarkup.Decimal
