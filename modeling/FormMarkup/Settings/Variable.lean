import FormMarkup.Settings.Value
import FormMarkup.Text.Blank
import FormMarkup.Text.Letters
import FormMarkup.Toml.Text

namespace FormMarkup.Settings

open FormMarkup.Decimal

def isSpace (c : Char) : Bool :=
  c = ' ' || c = '\t' || c = '\n' || c = '\x0c' || c = '\r'

def skipSpaces (cs : List Char) : List Char :=
  cs.dropWhile isSpace

def isSeparator (c : Char) : Bool :=
  c = ',' || c = '\x7b' || c = '\x7d' || c = '[' || c = ']'

def float? (cs : List Char) : Option Binary64 :=
  let (negative, cs) := match cs with
    | '-' :: cs => (true, cs)
    | '+' :: cs => (false, cs)
    | cs => (false, cs)
  match takeDigits cs with
  | (whole, '.' :: rest) =>
      let (fraction, rest) := takeDigits rest
      if whole.isEmpty && fraction.isEmpty then none
      else
        let x (e : Int) := Binary64.ofDecimal negative (ofDigits (whole ++ fraction))
          (e - Int.ofNat fraction.length)
        match rest with
        | [] => some (x 0)
        | c :: rest => if c = 'e' ∨ c = 'E' then (signed? rest).map x else none
  | _ => none

def unsignedWord? (cs : List Char) : Option Nat :=
  match cs with
  | '+' :: rest => (unsigned? rest).filter (· < Nat.pow 2 64)
  | _ => (unsigned? cs).filter (· < Nat.pow 2 64)

def bareValue (cs : List Char) : Value :=
  match if cs.contains '.' then float? cs else none with
  | some x => .float x
  | none =>
      match unsignedWord? cs with
      | some n => .unsigned n
      | none =>
          match (signed? cs).filter isWord with
          | some n => .signed n
          | none => .text (String.ofList cs)

def scanEscaped : List Char → Option (List Char × List Char)
  | [] => none
  | '"' :: cs => some ([], cs)
  | '\\' :: 'u' :: a :: b :: c :: d :: cs =>
      Toml.prepend (Toml.codePoint? [a, b, c, d]) (scanEscaped cs)
  | '\\' :: 'U' :: a :: b :: c :: d :: e :: f :: g :: h :: cs =>
      Toml.prepend (Toml.codePoint? [a, b, c, d, e, f, g, h]) (scanEscaped cs)
  | '\\' :: c :: cs => Toml.prepend (Toml.shortEscape? c) (scanEscaped cs)
  | c :: cs => if Toml.isPlain c then Toml.prepend (some c) (scanEscaped cs) else none

def isUnescaped (c : Char) : Bool :=
  Toml.isPlain c && c != '"' && c != '\\'

def takeBytes : Nat → List Char → List Char
  | _, [] => []
  | n, c :: cs => if c.utf8Size ≤ n then c :: takeBytes (n - c.utf8Size) cs else []

/-- Of the characters before the first escape as many bytes stay as there are characters, so all of
them only when they are ASCII. -/
def scanQuoted (cs : List Char) : Option (List Char × List Char) :=
  let front := cs.takeWhile isUnescaped
  match cs.dropWhile isUnescaped with
  | '"' :: rest => some (front, rest)
  | rest => (scanEscaped rest).map fun r => (takeBytes front.length front ++ r.1, r.2)

def scanName : List Char → Option (List Char × List Char)
  | '"' :: cs => scanQuoted cs
  | cs =>
      match cs.takeWhile Toml.isKeyChar with
      | [] => none
      | name => some (name, cs.dropWhile Toml.isKeyChar)

def scanItems {α : Type} (item : List Char → Option (α × List Char)) (close : Char) :
    Nat → List Char → Option (List α × List Char)
  | 0, _ => none
  | items + 1, cs =>
      if cs.head? = some close then some ([], cs.tail)
      else
        match item cs with
        | none => none
        | some (a, ',' :: rest) => (scanItems item close items rest).map fun r => (a :: r.1, r.2)
        | some (a, c :: rest) => if c = close then some ([a], rest) else none
        | some (_, []) => none

def scanEntry (value : List Char → Option (Value × List Char)) (cs : List Char) :
    Option ((String × Value) × List Char) :=
  match scanName (skipSpaces cs) with
  | none => none
  | some (name, rest) =>
      match skipSpaces rest with
      | '=' :: rest => (value (skipSpaces rest)).map fun r => ((String.ofList name, r.1), r.2)
      | _ => none

def scanValue : Nat → List Char → Option (Value × List Char)
  | 0, _ => none
  | depth + 1, cs =>
      let scanned : Option (Value × List Char) :=
        match skipSpaces cs with
        | 't' :: 'r' :: 'u' :: 'e' :: rest => some (.bool true, rest)
        | 'f' :: 'a' :: 'l' :: 's' :: 'e' :: rest => some (.bool false, rest)
        | '\x7b' :: rest =>
            (scanItems (scanEntry (scanValue depth)) '\x7d' (rest.length + 1) rest).map fun r =>
              (.table (Pairs.distinct r.1), r.2)
        | '[' :: rest =>
            (scanItems (scanValue depth) ']' (rest.length + 1) rest).map fun r => (.list r.1, r.2)
        | '"' :: rest => (scanQuoted rest).map fun r => (.text (String.ofList r.1), r.2)
        | '\x27' :: c :: '\x27' :: rest => some (.text (String.ofList [c]), rest)
        | '\x27' :: _ => none
        | cs =>
            some (bareValue (Text.trimChars (cs.takeWhile fun c => !isSeparator c)),
              cs.dropWhile fun c => !isSeparator c)
      scanned.map fun r => (r.1, skipSpaces r.2)

def readVariable (text : String) : Value :=
  match scanValue (text.toList.length + 1) text.toList with
  | some (v, []) => v
  | _ => .text text

def namePrefix : List Char := "acton_forms_".toList

def splitName (part : List Char) : List Char → List (List Char)
  | [] => [part]
  | '_' :: '_' :: cs => part :: splitName [] cs
  | '.' :: cs => part :: splitName [] cs
  | c :: cs => splitName (part ++ [c]) cs

def variablePath? (name : String) : Option (List String) :=
  let cs := Text.trimChars name.toList
  if (cs.take namePrefix.length).map Text.lowerLetter = namePrefix then
    let parts := splitName [] (Text.trimChars (cs.drop namePrefix.length))
    if parts.any List.isEmpty then none
    else some (parts.map fun part => String.ofList (part.map Text.lowerLetter))
  else none

def nest : List String → Value → Value
  | [], v => v
  | name :: path, v => .table [(name, nest path v)]

def ofVariables : Pairs String → Value → Value
  | [], layer => layer
  | (name, text) :: rest, layer =>
      match variablePath? name with
      | none => ofVariables rest layer
      | some path => ofVariables rest (layer.merge (nest path (readVariable text)))

end FormMarkup.Settings
