import FormMarkup.Json.Numeral

namespace FormMarkup.Json

open FormMarkup.Decimal

inductive StringPart where
  | char (c : Char)
  | unit (n : Nat)
  deriving DecidableEq, Repr

inductive Token where
  | openList
  | closeList
  | openObject
  | closeObject
  | comma
  | colon
  | null
  | bool (b : Bool)
  | number (n : Numeral)
  | string (parts : List StringPart)
  | fault
  deriving DecidableEq, Repr

def isSpace (c : Char) : Bool :=
  c = ' ' || c = '\t' || c = '\n' || c = '\r'

def hexDigit? (c : Char) : Option Nat :=
  let n := c.toNat
  if '0'.toNat ≤ n ∧ n ≤ '9'.toNat then some (n - '0'.toNat)
  else if 'a'.toNat ≤ n ∧ n ≤ 'f'.toNat then some (n - 'a'.toNat + 10)
  else if 'A'.toNat ≤ n ∧ n ≤ 'F'.toNat then some (n - 'A'.toNat + 10)
  else none

def hexNumber? (cs : List Char) : Option Nat :=
  if cs.isEmpty then none
  else cs.foldl (fun n c => match n, hexDigit? c with
    | some n, some d => some (16 * n + d)
    | _, _ => none) (some 0)

def simpleEscape? (c : Char) : Option Char :=
  if c = '"' ∨ c = '\\' ∨ c = '/' then some c
  else if c = 'b' then some '\x08'
  else if c = 'f' then some '\x0c'
  else if c = 'n' then some '\n'
  else if c = 'r' then some '\r'
  else if c = 't' then some '\t'
  else none

namespace StringPart

def join : List StringPart → Option (List Char)
  | [] => some []
  | .char c :: parts => (join parts).map (c :: ·)
  | .unit n :: parts =>
      if 0xD800 ≤ n ∧ n ≤ 0xDBFF then
        match parts with
        | .unit m :: rest =>
            if 0xDC00 ≤ m ∧ m ≤ 0xDFFF then
              (join rest).map (Char.ofNat (0x10000 + (n - 0xD800) * 0x400 + (m - 0xDC00)) :: ·)
            else none
        | _ => none
      else if 0xDC00 ≤ n ∧ n ≤ 0xDFFF then none
      else (join parts).map (Char.ofNat n :: ·)

def text? (parts : List StringPart) : Option String :=
  (join parts).map String.ofList

end StringPart

def scanString : List Char → Option (List StringPart × List Char)
  | [] => none
  | '"' :: cs => some ([], cs)
  | '\\' :: 'u' :: a :: b :: c :: d :: cs =>
      match hexNumber? [a, b, c, d], scanString cs with
      | some n, some (parts, rest) => some (.unit n :: parts, rest)
      | _, _ => none
  | '\\' :: e :: cs =>
      match simpleEscape? e, scanString cs with
      | some c, some (parts, rest) => some (.char c :: parts, rest)
      | _, _ => none
  | c :: cs =>
      if c.toNat < 0x20 then none
      else match scanString cs with
        | some (parts, rest) => some (.char c :: parts, rest)
        | none => none

namespace Token

def scan : List Char → Option (Token × List Char)
  | '[' :: cs => some (.openList, cs)
  | ']' :: cs => some (.closeList, cs)
  | '\x7b' :: cs => some (.openObject, cs)
  | '\x7d' :: cs => some (.closeObject, cs)
  | ',' :: cs => some (.comma, cs)
  | ':' :: cs => some (.colon, cs)
  | '"' :: cs => (scanString cs).map fun r => (.string r.1, r.2)
  | 'n' :: 'u' :: 'l' :: 'l' :: cs => some (.null, cs)
  | 't' :: 'r' :: 'u' :: 'e' :: cs => some (.bool true, cs)
  | 'f' :: 'a' :: 'l' :: 's' :: 'e' :: cs => some (.bool false, cs)
  | cs => (Numeral.scan cs).map fun r => (.number r.1, r.2)

def scanAll : Nat → List Char → List Token
  | 0, _ => []
  | steps + 1, cs =>
      match cs.dropWhile isSpace with
      | [] => []
      | c :: rest =>
          match scan (c :: rest) with
          | none => [.fault]
          | some (token, rest) => token :: scanAll steps rest

def ofText (text : String) : List Token :=
  scanAll (text.toList.length + 1) text.toList

end Token

end FormMarkup.Json
