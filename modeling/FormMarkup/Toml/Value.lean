import FormMarkup.Json.Value

namespace FormMarkup

inductive Toml where
  | bool (b : Bool)
  | integer (n : Int)
  | float (x : Decimal.Binary64)
  | string (s : String)
  | moment (text : String)
  | list (items : List Toml)
  | table (entries : List (String × Toml))
  deriving Repr, Inhabited

namespace Toml

def momentName : String := "$__toml_private_datetime"

mutual

def toJson : Toml → Json
  | .bool b => .bool b
  | .integer n => .integer n
  | .float x => if x.isFinite then .float x else .null
  | .string s => .string s
  | .moment text => .object [(momentName, .string text)]
  | .list items => .list (itemsToJson items)
  | .table entries => .object (entriesToJson entries)

def itemsToJson : List Toml → List Json
  | [] => []
  | item :: items => toJson item :: itemsToJson items

def entriesToJson : Pairs Toml → List (String × Json)
  | [] => []
  | (key, value) :: entries => (key, toJson value) :: entriesToJson entries

end

end Toml

end FormMarkup
