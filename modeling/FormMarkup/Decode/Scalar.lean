import FormMarkup.Decode.Error
import FormMarkup.Text.Blank
import FormMarkup.Text.Letters

namespace FormMarkup

abbrev TextMap := Pairs String

namespace Json

def readText : Json → Except DecodeError String
  | .string s => .ok s
  | v => .error (.wrongKind v .text)

def readOptionalText : Json → Except DecodeError (Option String)
  | .null => .ok none
  | .string s => .ok (some s)
  | v => .error (.wrongKind v .text)

def scalarText : Json → Except DecodeError (Option String)
  | .null => .ok none
  | .string s => .ok (some s)
  | .bool true => .ok (some "true")
  | .bool false => .ok (some "false")
  | .integer n => .ok (some (Decimal.integerText n))
  | .float x => .ok (some (Decimal.Layout.document.text x))
  | v => .error (.notScalar v)

def readScalar (v : Json) : Except DecodeError String :=
  v.scalarText.map fun text => text.getD ""

def unsetWords : List String := ["", "0", "false", "off", "no"]

def readFlag : Json → Except DecodeError Bool
  | .null => .ok false
  | .bool b => .ok b
  | .integer n => .ok (n != 0)
  | .float x => .ok !x.isZero
  | .string s => .ok !unsetWords.contains (Text.lowerLetters (Text.trim s))
  | v => .error (.notBoolean v)

def readInteger : Json → Except DecodeError Int
  | .null => .ok 0
  | .integer n => if Decimal.isWord n then .ok n else .error (.notInteger (.integer n))
  | .string s =>
      if Text.isBlankText s then .ok 0
      else match Decimal.signed? (Text.trimChars s.toList) with
        | some n => if Decimal.isWord n then .ok n else .error (.notInteger (.string s))
        | none => .error (.notInteger (.string s))
  | v => .error (.notInteger v)

def readCount (v : Json) : Except DecodeError Nat :=
  match v.readInteger with
  | .error e => .error e
  | .ok n => if 0 ≤ n ∧ n < 4294967296 then .ok n.toNat else .error (.notCount n)

def scalarTexts : List (String × Json) → Except DecodeError (List (String × Option String))
  | [] => .ok []
  | (name, v) :: rest =>
      match v.scalarText, scalarTexts rest with
      | .error e, _ => .error e
      | .ok _, .error e => .error e
      | .ok text, .ok texts => .ok ((name, text) :: texts)

def readTable (v : Json) : Except DecodeError (List (String × Option String)) :=
  match v with
  | .object members => scalarTexts (Pairs.distinct members)
  | v => .error (.wrongKind v .map)

def readAttributes (v : Json) : Except DecodeError TextMap :=
  v.readTable.map fun table => table.filterMap fun entry => entry.2.map fun text => (entry.1, text)

def readLabels (v : Json) : Except DecodeError TextMap :=
  v.readTable.map fun table => table.map fun entry => (entry.1, entry.2.getD "")

def readEach {α : Type} (read : Json → Except DecodeError α) :
    List Json → Except DecodeError (List α)
  | [] => .ok []
  | v :: vs =>
      match read v with
      | .error e => .error e
      | .ok a =>
          match readEach read vs with
          | .error e => .error e
          | .ok as => .ok (a :: as)

def readList {α : Type} (read : Json → Except DecodeError α) :
    Json → Except DecodeError (List α)
  | .list items => readEach read items
  | v => .error (.wrongKind v .sequence)

end Json

end FormMarkup
