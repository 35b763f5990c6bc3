import FormMarkup.Json.Token

namespace FormMarkup.Toml

def isGap (c : Char) : Bool :=
  c = ' ' || c = '\t'

def skipGap (cs : List Char) : List Char :=
  cs.dropWhile isGap

def isPlain (c : Char) : Bool :=
  c = '\t' || (0x20 ≤ c.toNat && c.toNat ≤ 0x7E) || 0x80 ≤ c.toNat

def newline? : List Char → Option (List Char)
  | '\n' :: cs => some cs
  | '\r' :: '\n' :: cs => some cs
  | _ => none

def skipNewline (cs : List Char) : List Char :=
  (newline? cs).getD cs

def skipComment : List Char → List Char
  | '#' :: cs => cs.dropWhile isPlain
  | cs => cs

def endLine? (cs : List Char) : Option (List Char) :=
  match skipComment (skipGap cs) with
  | [] => some []
  | rest => newline? rest

def skipLines : Nat → List Char → Option (List Char)
  | 0, cs => some cs
  | steps + 1, cs =>
      match skipGap cs with
      | '#' :: rest => (newline? (rest.dropWhile isPlain)).bind (skipLines steps)
      | '\n' :: rest => skipLines steps rest
      | '\r' :: rest => (newline? ('\r' :: rest)).bind (skipLines steps)
      | rest => some rest

def shortEscape? (c : Char) : Option Char :=
  if c = '/' then none else Json.simpleEscape? c

def codePoint? (digits : List Char) : Option Char :=
  match Json.hexNumber? digits with
  | some n => if n.isValidChar then some (Char.ofNat n) else none
  | none => none

def prepend (c : Option Char) (scanned : Option (List Char × List Char)) :
    Option (List Char × List Char) :=
  match c, scanned with
  | some c, some (text, rest) => some (c :: text, rest)
  | _, _ => none

def scanBasic : List Char → Option (List Char × List Char)
  | [] => none
  | '"' :: cs => some ([], cs)
  | '\\' :: 'u' :: a :: b :: c :: d :: cs => prepend (codePoint? [a, b, c, d]) (scanBasic cs)
  | '\\' :: 'U' :: a :: b :: c :: d :: e :: f :: g :: h :: cs =>
      prepend (codePoint? [a, b, c, d, e, f, g, h]) (scanBasic cs)
  | '\\' :: c :: cs => prepend (shortEscape? c) (scanBasic cs)
  | c :: cs => if isPlain c then prepend (some c) (scanBasic cs) else none

def scanLiteral : List Char → Option (List Char × List Char)
  | [] => none
  | '\x27' :: cs => some ([], cs)
  | c :: cs => if isPlain c then prepend (some c) (scanLiteral cs) else none

/-- Up to two quotes before the closing ones belong to the string. -/
def closeLong (quote : Char) : List Char → List Char × List Char
  | a :: b :: cs =>
      if a = quote then if b = quote then ([a, b], cs) else ([a], b :: cs) else ([], a :: b :: cs)
  | [a] => if a = quote then ([a], []) else ([], [a])
  | [] => ([], [])

inductive LongState where
  | text
  | lineEnd
  | blanks
  deriving DecidableEq, Repr

def scanLongBasic : LongState → List Char → Option (List Char × List Char)
  | .lineEnd, ' ' :: cs => scanLongBasic .lineEnd cs
  | .lineEnd, '\t' :: cs => scanLongBasic .lineEnd cs
  | .lineEnd, '\n' :: cs => scanLongBasic .blanks cs
  | .lineEnd, '\r' :: '\n' :: cs => scanLongBasic .blanks cs
  | .lineEnd, _ => none
  | .blanks, ' ' :: cs => scanLongBasic .blanks cs
  | .blanks, '\t' :: cs => scanLongBasic .blanks cs
  | .blanks, '\n' :: cs => scanLongBasic .blanks cs
  | .blanks, '\r' :: '\n' :: cs => scanLongBasic .blanks cs
  | _, [] => none
  | _, '"' :: '"' :: '"' :: cs => some (closeLong '"' cs)
  | _, '\\' :: 'u' :: a :: b :: c :: d :: cs =>
      prepend (codePoint? [a, b, c, d]) (scanLongBasic .text cs)
  | _, '\\' :: 'U' :: a :: b :: c :: d :: e :: f :: g :: h :: cs =>
      prepend (codePoint? [a, b, c, d, e, f, g, h]) (scanLongBasic .text cs)
  | _, '\\' :: '\n' :: cs => scanLongBasic .blanks cs
  | _, '\\' :: '\r' :: '\n' :: cs => scanLongBasic .blanks cs
  | _, '\\' :: ' ' :: cs => scanLongBasic .lineEnd cs
  | _, '\\' :: '\t' :: cs => scanLongBasic .lineEnd cs
  | _, '\\' :: c :: cs => prepend (shortEscape? c) (scanLongBasic .text cs)
  | _, '\n' :: cs => prepend (some '\n') (scanLongBasic .text cs)
  | _, '\r' :: '\n' :: cs => prepend (some '\n') (scanLongBasic .text cs)
  | _, c :: cs => if isPlain c then prepend (some c) (scanLongBasic .text cs) else none

def scanLongLiteral : List Char → Option (List Char × List Char)
  | [] => none
  | '\x27' :: '\x27' :: '\x27' :: cs => some (closeLong '\x27' cs)
  | '\n' :: cs => prepend (some '\n') (scanLongLiteral cs)
  | '\r' :: '\n' :: cs => prepend (some '\n') (scanLongLiteral cs)
  | c :: cs => if isPlain c then prepend (some c) (scanLongLiteral cs) else none

def scanString : List Char → Option (List Char × List Char)
  | '"' :: '"' :: '"' :: cs => scanLongBasic .text (skipNewline cs)
  | '"' :: cs => scanBasic cs
  | '\x27' :: '\x27' :: '\x27' :: cs => scanLongLiteral (skipNewline cs)
  | '\x27' :: cs => scanLiteral cs
  | _ => none

def isKeyChar (c : Char) : Bool :=
  let n := c.toNat
  ('a'.toNat ≤ n && n ≤ 'z'.toNat) || ('A'.toNat ≤ n && n ≤ 'Z'.toNat) ||
    ('0'.toNat ≤ n && n ≤ '9'.toNat) || c = '-' || c = '_'

def scanKeyPart : List Char → Option (List Char × List Char)
  | '"' :: cs => scanBasic cs
  | '\x27' :: cs => scanLiteral cs
  | cs =>
      match cs.takeWhile isKeyChar with
      | [] => none
      | part => some (part, cs.dropWhile isKeyChar)

def scanKey : Nat → List Char → Option (List String × List Char)
  | 0, _ => none
  | parts + 1, cs =>
      match scanKeyPart (skipGap cs) with
      | none => none
      | some (part, rest) =>
          match skipGap rest with
          | '.' :: rest =>
              match scanKey parts rest with
              | none => none
              | some (more, rest) => some (String.ofList part :: more, rest)
          | rest => some ([String.ofList part], rest)

def maxParts : Nat := 80

def key? (cs : List Char) : Option (List String × List Char) :=
  scanKey (maxParts - 1) cs

end FormMarkup.Toml
