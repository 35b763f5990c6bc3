import FormMarkup.Decimal.Binary64

namespace FormMarkup.Decimal

structure Scaled where
  coefficient : Nat
  exponent : Int
  deriving DecidableEq, Repr

/-- The decimals that read back as a number: between `low` and `high`, in units of
`2 ^ unit`, around `middle`. The ends belong to them when `closed`. -/
structure Neighbourhood where
  low : Nat
  middle : Nat
  high : Nat
  unit : Int
  closed : Bool
  deriving DecidableEq, Repr

inductive Tie where
  | even
  | up
  deriving DecidableEq, Repr

namespace Neighbourhood

def of (x : Binary64) : Neighbourhood :=
  let m := x.significand
  { low := if m = Nat.pow 2 52 ∧ 1 < x.magnitude / Nat.pow 2 52 then 4 * m - 1 else 4 * m - 2
    middle := 4 * m
    high := 4 * m + 2
    unit := x.exponent - 2
    closed := m % 2 = 0 }

def gridScale (n : Neighbourhood) (k : Int) : Nat :=
  Nat.pow 10 k.toNat * Nat.pow 2 (-n.unit).toNat

def unitScale (n : Neighbourhood) (k : Int) : Nat :=
  Nat.pow 2 n.unit.toNat * Nat.pow 10 (-k).toNat

def holds (n : Neighbourhood) (k : Int) (d : Nat) : Bool :=
  let x := d * n.gridScale k
  let lo := n.low * n.unitScale k
  let hi := n.high * n.unitScale k
  if n.closed then lo ≤ x && x ≤ hi else lo < x && x < hi

def nearer (n : Neighbourhood) (tie : Tie) (k : Int) (d : Nat) : Nat :=
  let mid := n.middle * n.unitScale k
  let below := mid - d * n.gridScale k
  let above := (d + 1) * n.gridScale k - mid
  if below < above then d
  else if above < below then d + 1
  else match tie with
    | .even => d + d % 2
    | .up => d + 1

def onGrid (n : Neighbourhood) (tie : Tie) (k : Int) : Option Nat :=
  let d := n.middle * n.unitScale k / n.gridScale k
  match n.holds k d, n.holds k (d + 1) with
  | true, true => some (n.nearer tie k d)
  | true, false => some d
  | false, true => some (d + 1)
  | false, false => none

def search (n : Neighbourhood) (tie : Tie) (k : Int) : Nat → Option Scaled
  | 0 => none
  | steps + 1 =>
      match n.onGrid tie k with
      | some d => some ⟨d, k⟩
      | none => n.search tie (k - 1) steps

end Neighbourhood

/-- The fewest digits that read back as the absolute value of a finite number, and of those the
nearest. -/
def shortest (tie : Tie) (x : Binary64) : Scaled :=
  if x.isZero then ⟨0, 0⟩
  else
    let n := Neighbourhood.of x
    let top := (Int.ofNat (Nat.log2 x.significand) + x.exponent) * 30103 / 100000 + 2
    (n.search tie top 24).getD ⟨0, 0⟩

end FormMarkup.Decimal
