import FormMarkup.Decimal.Binary64
import FormMarkup.Decimal.Digits
import FormMarkup.Json.Token
import FormMarkup.Toml.Value

namespace FormMarkup.Toml

open FormMarkup.Decimal

def moreDigits (digit : Char → Option Nat) : List Char → List Nat × List Char
  | [] => ([], [])
  | '_' :: c :: cs =>
      match digit c with
      | some d => (d :: (moreDigits digit cs).1, (moreDigits digit cs).2)
      | none => ([], '_' :: c :: cs)
  | c :: cs =>
      match digit c with
      | some d => (d :: (moreDigits digit cs).1, (moreDigits digit cs).2)
      | none => ([], c :: cs)

def groupedDigits (digit : Char → Option Nat) (cs : List Char) : Option (List Nat × List Char) :=
  match cs with
  | '_' :: _ => none
  | _ =>
      match moreDigits digit cs with
      | ([], _) => none
      | result => some result

def sign : List Char → Bool × List Char
  | '-' :: cs => (true, cs)
  | '+' :: cs => (false, cs)
  | cs => (false, cs)

def wholeDigits (cs : List Char) : Option (List Nat × List Char) :=
  match cs with
  | '0' :: rest => some ([0], rest)
  | _ => groupedDigits digit? cs

def digitIn (base : Nat) (c : Char) : Option Nat :=
  (Json.hexDigit? c).filter (· < base)

def ofDigitsIn (base : Nat) (ds : List Nat) : Nat :=
  ds.foldl (fun n d => base * n + d) 0

def word? (n : Int) (rest : List Char) : Option (Toml × List Char) :=
  if isWord n then some (.integer n, rest) else none

def basedInteger (base : Nat) (cs : List Char) : Option (Toml × List Char) :=
  match groupedDigits (digitIn base) cs with
  | some (ds, rest) => word? (Int.ofNat (ofDigitsIn base ds)) rest
  | none => none

def decimalInteger (cs : List Char) : Option (Toml × List Char) :=
  match wholeDigits (sign cs).2 with
  | some (ds, rest) =>
      let n := Int.ofNat (ofDigits ds)
      word? (if (sign cs).1 then -n else n) rest
  | none => none

def scanInteger : List Char → Option (Toml × List Char)
  | '0' :: 'x' :: cs => basedInteger 16 cs
  | '0' :: 'o' :: cs => basedInteger 8 cs
  | '0' :: 'b' :: cs => basedInteger 2 cs
  | cs => decimalInteger cs

def fractionDigits : List Char → Option (Option (List Nat) × List Char)
  | '.' :: cs => (groupedDigits digit? cs).map fun r => (some r.1, r.2)
  | cs => some (none, cs)

def exponentDigits : List Char → Option (Option Int × List Char)
  | c :: cs =>
      if c = 'e' ∨ c = 'E' then
        (groupedDigits digit? (sign cs).2).map fun r =>
          (some (if (sign cs).1 then -Int.ofNat (ofDigits r.1) else Int.ofNat (ofDigits r.1)), r.2)
      else some (none, c :: cs)
  | [] => some (none, [])

def namedFloat (negative : Bool) : List Char → Option (Toml × List Char)
  | 'i' :: 'n' :: 'f' :: cs => some (.float ⟨negative, Binary64.infinity⟩, cs)
  | 'n' :: 'a' :: 'n' :: cs => some (.float ⟨negative, Binary64.infinity + Nat.pow 2 51⟩, cs)
  | _ => none

/-- Only below zero may the number be too large. -/
def scanFloat (cs : List Char) : Option (Option (Toml × List Char)) :=
  let negative := (sign cs).1
  match namedFloat negative (sign cs).2 with
  | some result => some (some result)
  | none =>
      match wholeDigits (sign cs).2 with
      | none => some none
      | some (whole, rest) =>
          match fractionDigits rest with
          | none => none
          | some (fraction, rest) =>
              match exponentDigits rest with
              | none => none
              | some (exponent, rest) =>
                  if fraction.isNone && exponent.isNone then some none
                  else
                    let ds := whole ++ fraction.getD []
                    let e := exponent.getD 0 - Int.ofNat (fraction.getD []).length
                    let x := Binary64.ofDecimal negative (ofDigits ds) e
                    if x.isInfinite && !negative then none else some (some (.float x, rest))

end FormMarkup.Toml
