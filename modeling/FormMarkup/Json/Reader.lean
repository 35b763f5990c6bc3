import FormMarkup.Json.Token

namespace FormMarkup.Json

/-- A container that is still open, its finished parts latest first. An object may wait for the
value of a member. -/
inductive Frame where
  | list (done : List Json)
  | object (done : List (String × Json)) (key : Option String)
  deriving Repr

inductive Expected where
  | value
  | firstItem
  | firstKey
  | key
  | colon
  | separator
  deriving DecidableEq, Repr

/-- A value, a value with something after it, or the containers that were open, innermost first,
where the text is at fault. -/
inductive Reading where
  | whole (value : Json)
  | trailing (value : Json)
  | broken (opened : List Frame)
  deriving Repr

namespace Reader

structure State where
  opened : List Frame
  expected : Expected
  deriving Repr

def State.start : State := ⟨[], .value⟩

def maxDepth : Nat := 127

def passesOver (skips : String → Bool) (opened : List Frame) : Bool :=
  match opened.getLast? with
  | some (.object _ (some key)) => skips key
  | _ => false

inductive Progress where
  | running (s : State)
  | finished (value : Json)
  deriving Repr

def put (opened : List Frame) (value : Json) : Progress :=
  match opened with
  | [] => .finished value
  | .list done :: opened => .running ⟨.list (value :: done) :: opened, .separator⟩
  | .object done key :: opened =>
      .running ⟨.object ((key.getD "", value) :: done) none :: opened, .separator⟩

def putOr (lenient : Bool) (opened : List Frame) : Option Json → Option Progress
  | some value => some (put opened value)
  | none => if lenient then some (put opened .null) else none

def startValue (lenient : Bool) (opened : List Frame) : Token → Option Progress
  | .openList =>
      if lenient || opened.length < maxDepth then some (.running ⟨.list [] :: opened, .firstItem⟩)
      else none
  | .openObject =>
      if lenient || opened.length < maxDepth then
        some (.running ⟨.object [] none :: opened, .firstKey⟩)
      else none
  | .null => some (put opened .null)
  | .bool b => some (put opened (.bool b))
  | .number n => putOr lenient opened n.value
  | .string parts => putOr lenient opened ((StringPart.text? parts).map .string)
  | _ => none

def startMember (lenient : Bool) (opened : List Frame) : Token → Option Progress
  | .string parts =>
      match opened with
      | .object done _ :: opened =>
          match StringPart.text? parts with
          | some name => some (.running ⟨.object done (some name) :: opened, .colon⟩)
          | none =>
              if lenient then some (.running ⟨.object done (some "") :: opened, .colon⟩) else none
      | _ => none
  | _ => none

def close (opened : List Frame) : Token → Option Progress
  | .closeList =>
      match opened with
      | .list done :: opened => some (put opened (.list done.reverse))
      | _ => none
  | .closeObject =>
      match opened with
      | .object done _ :: opened => some (put opened (.object done.reverse))
      | _ => none
  | _ => none

def continue? : List Frame → Option Progress
  | .list done :: opened => some (.running ⟨.list done :: opened, .value⟩)
  | .object done key :: opened => some (.running ⟨.object done key :: opened, .key⟩)
  | [] => none

def step (skips : String → Bool) (s : State) (token : Token) : Option Progress :=
  let lenient := passesOver skips s.opened
  match s.expected with
  | .value => startValue lenient s.opened token
  | .firstItem =>
      match token with
      | .closeList => close s.opened token
      | _ => startValue lenient s.opened token
  | .firstKey =>
      match token with
      | .closeObject => close s.opened token
      | _ => startMember lenient s.opened token
  | .key => startMember lenient s.opened token
  | .colon =>
      match token with
      | .colon => some (.running { s with expected := .value })
      | _ => none
  | .separator =>
      match token with
      | .comma => continue? s.opened
      | _ => close s.opened token

def run (skips : String → Bool) : State → List Token → Reading
  | s, [] => .broken s.opened
  | s, token :: tokens =>
      match step skips s token with
      | none => .broken s.opened
      | some (.running s) => run skips s tokens
      | some (.finished value) => if tokens.isEmpty then .whole value else .trailing value

end Reader

/-- Inside the members that `skips` names, numbers may be too large, strings may hold half a
surrogate pair and containers may lie deeper than elsewhere. -/
def Reading.ofText (text : String) (skips : String → Bool := fun _ => false) : Reading :=
  Reader.run skips Reader.State.start (Token.ofText text)

def parse? (text : String) : Option Json :=
  match Reading.ofText text with
  | .whole value => some value
  | _ => none

end FormMarkup.Json
