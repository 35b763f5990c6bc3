import FormMarkup.Decimal.Layout
import FormMarkup.Pairs
import FormMarkup.Text.Quoted
import FormMarkup.Toml.Document

namespace FormMarkup.Settings

inductive Value where
  | bool (b : Bool)
  | signed (n : Int)
  | unsigned (n : Nat)
  | float (x : Decimal.Binary64)
  | text (s : String)
  | list (items : List Value)
  | table (entries : List (String × Value))
  deriving Repr, Inhabited

namespace Value

/-- A table with an entry of this name stands for the value of the entry. -/
def standInName : String := "___figment_value_value"

/-- No table inside a file may have an entry of this name. -/
def reservedName : String := "___figment_value_id"

def ofEntries (entries : Pairs Value) : Value :=
  (Pairs.find? standInName entries).getD (.table entries)

mutual

def ofToml : Toml → Option Value
  | .bool b => some (.bool b)
  | .integer n => some (.signed n)
  | .float x => some (.float x)
  | .string s => some (.text s)
  | .moment s => some (.table [(Toml.momentName, .text s)])
  | .list items => (itemsOfToml items).map .list
  | .table entries => (entriesOfToml entries).map ofEntries

def itemsOfToml : List Toml → Option (List Value)
  | [] => some []
  | item :: items =>
      match ofToml item, itemsOfToml items with
      | some v, some vs => some (v :: vs)
      | _, _ => none

def entriesOfToml : List (String × Toml) → Option (Pairs Value)
  | [] => some []
  | (name, item) :: entries =>
      if name = reservedName then none
      else match ofToml item, entriesOfToml entries with
        | some v, some vs => some ((name, v) :: vs)
        | _, _ => none

end

/-- The entries of a whole file; their names mean nothing but themselves. -/
def fileEntries : List (String × Toml) → Option (Pairs Value)
  | [] => some []
  | (name, item) :: entries =>
      match ofToml item, fileEntries entries with
      | some v, some vs => some ((name, v) :: vs)
      | _, _ => none

def ofFile? (text : String) : Option Value :=
  match Toml.parse? text with
  | some (.table entries) => (fileEntries entries).map .table
  | _ => none

def newEntries (low high : Pairs Value) : Pairs Value :=
  high.filter fun e => !low.any fun l => l.1 = e.1

mutual

def merge : Value → Value → Value
  | .table low, .table high => .table (mergeEntries low high ++ newEntries low high)
  | _, high => high

def mergeEntries : List (String × Value) → Pairs Value → Pairs Value
  | [], _ => []
  | (name, v) :: low, high =>
      (match Pairs.find? name high with
      | some w => (name, merge v w)
      | none => (name, v)) :: mergeEntries low high

end

def kindMessage : Value → String
  | .bool true => "bool true"
  | .bool false => "bool false"
  | .signed n => "signed int `" ++ Decimal.integerText n ++ "`"
  | .unsigned n => "unsigned int `" ++ Decimal.integerText (Int.ofNat n) ++ "`"
  | .float x => "float `" ++ Decimal.Layout.plain.text x ++ "`"
  | .text s => "string " ++ Text.quoted s
  | .list _ => "sequence"
  | .table _ => "map"

end Value

end FormMarkup.Settings
