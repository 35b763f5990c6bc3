import FormMarkup.Decimal.Binary64
import FormMarkup.Pairs

namespace FormMarkup

/-- An object keeps its members as written, repeated names included. -/
inductive Json where
  | null
  | bool (b : Bool)
  | integer (n : Int)
  | float (x : Decimal.Binary64)
  | string (s : String)
  | list (items : List Json)
  | object (members : List (String × Json))
  deriving Repr, Inhabited

namespace Json

mutual

def normalise : Json → Json
  | .list items => .list (normaliseItems items)
  | .object members => .object (Pairs.sorted (normaliseMembers members))
  | value => value

def normaliseItems : List Json → List Json
  | [] => []
  | item :: items => normalise item :: normaliseItems items

def normaliseMembers : List (String × Json) → List (String × Json)
  | [] => []
  | (key, value) :: members => (key, normalise value) :: normaliseMembers members

end

theorem normaliseItems_eq_map (items : List Json) : normaliseItems items = items.map normalise := by
  induction items with
  | nil => rfl
  | cons item items ih => simp [normaliseItems, ih]

theorem normaliseMembers_eq_map (members : List (String × Json)) :
    normaliseMembers members = members.map fun m => (m.1, normalise m.2) := by
  induction members with
  | nil => rfl
  | cons m members ih => simp [normaliseMembers, ih]

end Json

end FormMarkup
