namespace FormMarkup.Decimal

def digit? (c : Char) : Option Nat :=
  if '0'.toNat ≤ c.toNat ∧ c.toNat ≤ '9'.toNat then some (c.toNat - '0'.toNat) else none

def ofDigits (ds : List Nat) : Nat :=
  ds.foldl (fun n d => 10 * n + d) 0

def takeDigits : List Char → List Nat × List Char
  | [] => ([], [])
  | c :: cs =>
      match digit? c with
      | none => ([], c :: cs)
      | some d => (d :: (takeDigits cs).1, (takeDigits cs).2)

def digits? : List Char → Option (List Nat)
  | [] => some []
  | c :: cs =>
      match digit? c, digits? cs with
      | some d, some ds => some (d :: ds)
      | _, _ => none

def unsigned? (cs : List Char) : Option Nat :=
  if cs.isEmpty then none else (digits? cs).map ofDigits

def signed? : List Char → Option Int
  | '+' :: cs => (unsigned? cs).map Int.ofNat
  | '-' :: cs => (unsigned? cs).map fun n => -Int.ofNat n
  | cs => (unsigned? cs).map Int.ofNat

def naturalChars (n : Nat) : List Char :=
  Nat.toDigits 10 n

def integerChars : Int → List Char
  | .ofNat n => naturalChars n
  | .negSucc n => '-' :: naturalChars (n + 1)

def integerText (n : Int) : String :=
  String.ofList (integerChars n)

def isWord (n : Int) : Bool :=
  -9223372036854775808 ≤ n && n < 9223372036854775808

theorem isWord_iff {n : Int} :
    isWord n = true ↔ -9223372036854775808 ≤ n ∧ n < 9223372036854775808 := by
  simp [isWord]

end FormMarkup.Decimal
