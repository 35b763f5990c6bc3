import FormMarkup.Toml.Build
import FormMarkup.Toml.Moment
import FormMarkup.Toml.Number
import FormMarkup.Toml.Text

namespace FormMarkup.Toml

def splitKey (parts : List String) : List String × String :=
  (parts.dropLast, parts.getLast?.getD "")

def signedOrDigit (c : Char) : Bool :=
  c = '+' || c = '-' || (Decimal.digit? c).isSome

def scalar (cs : List Char) : Option (Toml × List Char) :=
  match cs with
  | '"' :: _ => (scanString cs).map fun r => (.string (String.ofList r.1), r.2)
  | '\x27' :: _ => (scanString cs).map fun r => (.string (String.ofList r.1), r.2)
  | 't' :: 'r' :: 'u' :: 'e' :: rest => some (.bool true, rest)
  | 'f' :: 'a' :: 'l' :: 's' :: 'e' :: rest => some (.bool false, rest)
  | 'i' :: _ => namedFloat false cs
  | 'n' :: _ => namedFloat false cs
  | c :: _ =>
      if signedOrDigit c then
        match scanMoment cs with
        | .read m rest => some (.moment (String.ofList m.chars), rest)
        | .wrong => none
        | .absent =>
            match scanFloat cs with
            | none => none
            | some (some result) => some result
            | some none => scanInteger cs
      else none
  | [] => none

def listItems (value : List Char → Option (Toml × List Char)) :
    Nat → List Char → Option (List Toml × List Char)
  | 0, _ => none
  | items + 1, cs =>
      match skipLines cs.length cs with
      | none => none
      | some (']' :: rest) => some ([], rest)
      | some cs =>
          match value cs with
          | none => none
          | some (v, rest) =>
              match skipLines rest.length rest with
              | some (',' :: rest) =>
                  (listItems value items rest).map fun r => (v :: r.1, r.2)
              | some (']' :: rest) => some ([v], rest)
              | _ => none

def pair (value : List Char → Option (Toml × List Char)) (cs : List Char) :
    Option (Pair × List Char) :=
  match key? cs with
  | some (parts, '=' :: rest) => (value (skipGap rest)).map fun r => ((splitKey parts, r.1), r.2)
  | _ => none

def inlinePairs (value : List Char → Option (Toml × List Char)) :
    Nat → List Char → Option (List Pair × List Char)
  | 0, _ => none
  | pairs + 1, cs =>
      match pair value cs with
      | none => none
      | some (p, rest) =>
          match skipGap rest with
          | ',' :: rest => (inlinePairs value pairs rest).map fun r => (p :: r.1, r.2)
          | '\x7d' :: rest => some ([p], rest)
          | _ => none

def valueWithin : Nat → List Char → Option (Toml × List Char)
  | 0, cs => scalar cs
  | depth + 1, cs =>
      match cs with
      | '[' :: rest =>
          (listItems (valueWithin depth) (rest.length + 1) rest).map fun r => (.list r.1, r.2)
      | '\x7b' :: rest =>
          match skipGap rest with
          | '\x7d' :: rest => some (.table [], rest)
          | _ =>
              match inlinePairs (valueWithin depth) (rest.length + 1) rest with
              | none => none
              | some (pairs, rest) => (inlineTable pairs).map fun v => (v, rest)
      | cs => scalar cs

def maxDepth : Nat := 79

def value (cs : List Char) : Option (Toml × List Char) :=
  valueWithin maxDepth cs

def header? : List Char → Option (Header × List Char)
  | '[' :: '[' :: cs =>
      match key? cs with
      | some (parts, ']' :: ']' :: rest) =>
          some (.element (splitKey parts).1 (splitKey parts).2, rest)
      | _ => none
  | '[' :: cs =>
      match key? cs with
      | some (parts, ']' :: rest) => some (.table (splitKey parts).1 (splitKey parts).2, rest)
      | _ => none
  | _ => none

inductive Statement where
  | header (h : Header)
  | pair (p : Pair)

def statement? (cs : List Char) : Option (Statement × List Char) :=
  match cs with
  | '[' :: _ => (header? cs).map fun r => (.header r.1, r.2)
  | _ => (pair value cs).map fun r => (.pair r.1, r.2)

def statements : Nat → List Char → Option (List Statement)
  | 0, _ => none
  | lines + 1, cs =>
      match skipGap cs with
      | [] => some []
      | '#' :: rest => (endLine? ('#' :: rest)).bind (statements lines)
      | '\n' :: rest => statements lines rest
      | '\r' :: rest => (newline? ('\r' :: rest)).bind (statements lines)
      | cs =>
          match statement? cs with
          | none => none
          | some (s, rest) =>
              match (endLine? rest).bind (statements lines) with
              | none => none
              | some ss => some (s :: ss)

def sections : List Statement → List Pair × List Section
  | [] => ([], [])
  | .pair p :: rest => (p :: (sections rest).1, (sections rest).2)
  | .header h :: rest => ([], ⟨h, (sections rest).1⟩ :: (sections rest).2)

def skipMark : List Char → List Char
  | '\uFEFF' :: cs => cs
  | cs => cs

def parse? (text : String) : Option Toml :=
  let cs := skipMark text.toList
  match statements (cs.length + 1) cs with
  | none => none
  | some ss => assemble (sections ss).1 (sections ss).2

end FormMarkup.Toml
