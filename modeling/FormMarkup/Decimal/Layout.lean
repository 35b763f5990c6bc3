import FormMarkup.Decimal.Digits
import FormMarkup.Decimal.Shortest

namespace FormMarkup.Decimal

structure Layout where
  tie : Tie
  positional : Int → Bool
  pointZero : Bool
  notANumber : String
  infinite : String

namespace Layout

def document : Layout where
  tie := .even
  positional := fun e => -5 ≤ e && e < 16
  pointZero := true
  notANumber := "null"
  infinite := "null"

def plain : Layout where
  tie := .up
  positional := fun _ => true
  pointZero := false
  notANumber := "NaN"
  infinite := "inf"

def positionalChars (pointZero : Bool) (ds : List Char) (exponent : Int) : List Char :=
  let point := Int.ofNat ds.length + exponent
  if 0 ≤ exponent then
    ds ++ List.replicate exponent.toNat '0' ++ if pointZero then ['.', '0'] else []
  else if 0 < point then
    ds.take point.toNat ++ '.' :: ds.drop point.toNat
  else
    '0' :: '.' :: List.replicate (-point).toNat '0' ++ ds

def exponentChars (ds : List Char) (leading : Int) : List Char :=
  let mantissa := match ds with
    | [] => []
    | [d] => [d]
    | d :: rest => d :: '.' :: rest
  mantissa ++ 'e' :: (if 0 ≤ leading then '+' :: integerChars leading else integerChars leading)

def chars (layout : Layout) (x : Binary64) : List Char :=
  let sign := if x.negative then ['-'] else []
  if Binary64.infinity < x.magnitude then layout.notANumber.toList
  else if x.isInfinite then sign ++ layout.infinite.toList
  else
    let s := shortest layout.tie x
    let ds := naturalChars s.coefficient
    let leading := Int.ofNat ds.length + s.exponent - 1
    sign ++ if layout.positional leading then positionalChars layout.pointZero ds s.exponent
      else exponentChars ds leading

def text (layout : Layout) (x : Binary64) : String :=
  String.ofList (layout.chars x)

end Layout

end FormMarkup.Decimal
