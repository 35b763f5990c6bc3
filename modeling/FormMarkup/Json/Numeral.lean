import FormMarkup.Decimal.Binary64
import FormMarkup.Decimal.Digits
import FormMarkup.Json.Value

namespace FormMarkup.Json

open FormMarkup.Decimal

structure Numeral where
  negative : Bool
  whole : List Nat
  fraction : Option (List Nat)
  exponent : Option (Bool × List Nat)
  deriving DecidableEq, Repr

namespace Numeral

def scanFraction : List Char → Option (Option (List Nat) × List Char)
  | '.' :: cs =>
      match takeDigits cs with
      | ([], _) => none
      | (ds, rest) => some (some ds, rest)
  | cs => some (none, cs)

def exponentSign : List Char → Bool × List Char
  | '-' :: cs => (true, cs)
  | '+' :: cs => (false, cs)
  | cs => (false, cs)

def scanExponent (cs : List Char) : Option (Option (Bool × List Nat) × List Char) :=
  match cs with
  | c :: rest =>
      if c = 'e' ∨ c = 'E' then
        match takeDigits (exponentSign rest).2 with
        | ([], _) => none
        | (ds, rest') => some (some ((exponentSign rest).1, ds), rest')
      else some (none, cs)
  | [] => some (none, [])

def scanUnsigned (negative : Bool) (cs : List Char) : Option (Numeral × List Char) :=
  match takeDigits cs with
  | ([], _) => none
  | (0 :: _ :: _, _) => none
  | (whole, rest) =>
      match scanFraction rest with
      | none => none
      | some (fraction, rest) =>
          match scanExponent rest with
          | none => none
          | some (exponent, rest) => some (⟨negative, whole, fraction, exponent⟩, rest)

def scan : List Char → Option (Numeral × List Char)
  | '-' :: cs => scanUnsigned true cs
  | cs => scanUnsigned false cs

def absorb (limit : Nat) (n : Nat) : List Nat → Nat × List Nat
  | [] => (n, [])
  | d :: ds => if 10 * n + d < limit then absorb limit (10 * n + d) ds else (n, d :: ds)

/-- One rounded step for every 308 places; `none` when the number is too large. -/
def scale (x : Binary64) (e : Int) : Option Binary64 :=
  if e.natAbs ≤ 308 then
    if 0 ≤ e then
      let y := x.mul (Binary64.powerOfTen e.toNat)
      if y.isFinite then some y else none
    else some (x.div (Binary64.powerOfTen (-e).toNat))
  else if x.isZero then some x
  else if 0 ≤ e then none
  else scale (x.div (Binary64.powerOfTen 308)) (e + 308)
termination_by e.natAbs
decreasing_by omega

/-- The digits of the coefficient that fit 64 bits, and the exponent that goes with them: a digit
dropped before the point counts as a place, one dropped after it does not. -/
def coefficient (n : Numeral) : Nat × Int :=
  let (c, dropped) := absorb (Nat.pow 2 64) 0 n.whole
  match n.fraction with
  | none => (c, Int.ofNat dropped.length)
  | some ds =>
      let (c', left) := absorb (Nat.pow 2 64) c ds
      (c', Int.ofNat dropped.length - Int.ofNat (ds.length - left.length))

def float (n : Numeral) : Option Binary64 :=
  let (c, e) := n.coefficient
  match n.exponent with
  | none => (scale (Binary64.ofNat c) e).map (Binary64.withSign n.negative)
  | some (down, ds) =>
      match absorb (Nat.pow 2 31) 0 ds with
      | (k, []) =>
          (scale (Binary64.ofNat c) (if down then e - Int.ofNat k else e + Int.ofNat k)).map
            (Binary64.withSign n.negative)
      | _ => if c = 0 ∨ down then some (Binary64.zero n.negative) else none

def value (n : Numeral) : Option Json :=
  match n.fraction, n.exponent, absorb (Nat.pow 2 64) 0 n.whole with
  | none, none, (c, []) =>
      if n.negative then
        if 0 < c ∧ c ≤ Nat.pow 2 63 then some (.integer (-Int.ofNat c))
        else some (.float ((Binary64.ofNat c).withSign true))
      else some (.integer (Int.ofNat c))
  | _, _, _ => n.float.map .float

end Numeral

end FormMarkup.Json
