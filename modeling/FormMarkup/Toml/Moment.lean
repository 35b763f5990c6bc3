import FormMarkup.Decimal.Digits

namespace FormMarkup.Toml

open FormMarkup.Decimal

structure Date where
  year : Nat
  month : Nat
  day : Nat
  deriving DecidableEq, Repr

structure Time where
  hour : Nat
  minute : Nat
  second : Nat
  nanosecond : Nat
  deriving DecidableEq, Repr

inductive Offset where
  | zulu
  | minutes (n : Int)
  deriving DecidableEq, Repr

structure Moment where
  date : Option Date
  time : Option Time
  offset : Option Offset
  deriving DecidableEq, Repr

inductive Part (α : Type) where
  | absent
  | wrong
  | read (value : α) (rest : List Char)

def fixedDigits : Nat → List Char → Option (Nat × List Char)
  | width, cs =>
      match digits? (cs.take width) with
      | some ds => if ds.length = width then some (ofDigits ds, cs.drop width) else none
      | none => none

def fixedWithin (width low high : Nat) (cs : List Char) : Option (Nat × List Char) :=
  match fixedDigits width cs with
  | some (n, rest) => if low ≤ n ∧ n ≤ high then some (n, rest) else none
  | none => none

def isLeapYear (year : Nat) : Bool :=
  year % 4 = 0 && (year % 100 != 0 || year % 400 = 0)

def daysInMonth (year month : Nat) : Nat :=
  if month = 2 then (if isLeapYear year then 29 else 28)
  else if month = 4 ∨ month = 6 ∨ month = 9 ∨ month = 11 then 30
  else 31

/-- A date is certain after the hyphen that follows its year. -/
def scanDate (cs : List Char) : Part Date :=
  match fixedDigits 4 cs with
  | some (year, '-' :: rest) =>
      match fixedWithin 2 1 12 rest with
      | some (month, '-' :: rest) =>
          match fixedWithin 2 1 (daysInMonth year month) rest with
          | some (day, rest) => .read ⟨year, month, day⟩ rest
          | none => .wrong
      | _ => .wrong
  | _ => .absent

def nanoseconds (ds : List Nat) : Nat :=
  let kept := ds.take 9
  ofDigits kept * Nat.pow 10 (9 - kept.length)

def scanFraction (cs : List Char) : Nat × List Char :=
  match cs with
  | '.' :: rest =>
      match takeDigits rest with
      | ([], _) => (0, cs)
      | (ds, rest) => (nanoseconds ds, rest)
  | _ => (0, cs)

/-- A time is certain after the colon that follows its hour. -/
def scanTime (cs : List Char) : Part Time :=
  match fixedWithin 2 0 23 cs with
  | some (hour, ':' :: rest) =>
      match fixedWithin 2 0 59 rest with
      | some (minute, ':' :: rest) =>
          match fixedWithin 2 0 60 rest with
          | some (second, rest) =>
              .read ⟨hour, minute, second, (scanFraction rest).1⟩ (scanFraction rest).2
          | none => .wrong
      | _ => .wrong
  | _ => .absent

def offsetMinutes (cs : List Char) : Option (Int × List Char) :=
  match fixedWithin 2 0 23 cs with
  | some (hour, ':' :: rest) =>
      match fixedWithin 2 0 59 rest with
      | some (minute, rest) => some (Int.ofNat (60 * hour + minute), rest)
      | none => none
  | _ => none

def scanOffset : List Char → Part Offset
  | 'Z' :: cs => .read .zulu cs
  | 'z' :: cs => .read .zulu cs
  | '+' :: cs =>
      match offsetMinutes cs with
      | some (n, rest) => .read (.minutes n) rest
      | none => .wrong
  | '-' :: cs =>
      match offsetMinutes cs with
      | some (n, rest) => .read (.minutes (-n)) rest
      | none => .wrong
  | _ => .absent

def isDivider (c : Char) : Bool :=
  c = 'T' || c = 't' || c = ' '

def afterDate (d : Date) (cs : List Char) : Part Moment :=
  match cs with
  | c :: rest =>
      if isDivider c then
        match scanTime rest with
        | .absent => .read ⟨some d, none, none⟩ cs
        | .wrong => .wrong
        | .read t rest =>
            match scanOffset rest with
            | .absent => .read ⟨some d, some t, none⟩ rest
            | .wrong => .wrong
            | .read o rest => .read ⟨some d, some t, some o⟩ rest
      else .read ⟨some d, none, none⟩ cs
  | [] => .read ⟨some d, none, none⟩ []

def scanMoment (cs : List Char) : Part Moment :=
  match scanDate cs with
  | .read d rest => afterDate d rest
  | .wrong => .wrong
  | .absent =>
      match scanTime cs with
      | .read t rest => .read ⟨none, some t, none⟩ rest
      | .wrong => .wrong
      | .absent => .absent

def padded (width n : Nat) : List Char :=
  let ds := naturalChars n
  List.replicate (width - ds.length) '0' ++ ds

def Date.chars (d : Date) : List Char :=
  padded 4 d.year ++ '-' :: padded 2 d.month ++ '-' :: padded 2 d.day

def Time.chars (t : Time) : List Char :=
  padded 2 t.hour ++ ':' :: padded 2 t.minute ++ ':' :: padded 2 t.second ++
    if t.nanosecond = 0 then []
    else '.' :: ((padded 9 t.nanosecond).reverse.dropWhile (· == '0')).reverse

def Offset.chars : Offset → List Char
  | .zulu => ['Z']
  | .minutes n =>
      (if 0 ≤ n then '+' else '-') ::
        padded 2 (n.natAbs / 60) ++ ':' :: padded 2 (n.natAbs % 60)

def Moment.chars (m : Moment) : List Char :=
  let dateChars := m.date.elim [] Date.chars
  let timeChars := m.time.elim [] Time.chars
  let offsetChars := m.offset.elim [] Offset.chars
  dateChars ++ (if m.date.isSome && m.time.isSome then ['T'] else []) ++ timeChars ++ offsetChars

end FormMarkup.Toml
