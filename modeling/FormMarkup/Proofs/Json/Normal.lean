import FormMarkup.Proofs.Decode.WrittenKeys
import FormMarkup.Proofs.Pairs.Lookup

namespace FormMarkup.Json

theorem normaliseMembers_sorted (ms : List (String × Json)) :
    normaliseMembers (Pairs.sorted ms) = Pairs.sorted (normaliseMembers ms) := by
  rw [normaliseMembers_eq_map, normaliseMembers_eq_map]
  exact Pairs.mapValues_sorted normalise ms

mutual

theorem normalise_normalise : ∀ v : Json, v.normalise.normalise = v.normalise
  | .null => rfl
  | .bool _ => rfl
  | .integer _ => rfl
  | .float _ => rfl
  | .string _ => rfl
  | .list items => by
      rw [normalise, normalise, normaliseItems_normaliseItems items]
  | .object ms => by
      rw [normalise, normalise, normaliseMembers_sorted, normaliseMembers_normaliseMembers ms,
        Pairs.sorted_sorted]

theorem normaliseItems_normaliseItems :
    ∀ items : List Json, normaliseItems (normaliseItems items) = normaliseItems items
  | [] => rfl
  | item :: items => by
      rw [normaliseItems, normaliseItems, normalise_normalise item,
        normaliseItems_normaliseItems items]

theorem normaliseMembers_normaliseMembers :
    ∀ ms : List (String × Json), normaliseMembers (normaliseMembers ms) = normaliseMembers ms
  | [] => rfl
  | (key, v) :: ms => by
      rw [normaliseMembers, normaliseMembers, normalise_normalise v,
        normaliseMembers_normaliseMembers ms]

end

mutual

theorem distinctKeys_normalise : ∀ v : Json, v.normalise.distinctKeys = true
  | .null => rfl
  | .bool _ => rfl
  | .integer _ => rfl
  | .float _ => rfl
  | .string _ => rfl
  | .list items => distinctItems_normaliseItems items
  | .object ms =>
      distinctKeys_object (Pairs.nodup_sorted _) fun m hm =>
        distinctKeys_of_distinctMembers (distinctMembers_normaliseMembers ms) m
          (Pairs.sorted_subset _ hm)

theorem distinctItems_normaliseItems :
    ∀ items : List Json, distinctItems (normaliseItems items) = true
  | [] => rfl
  | item :: items => by
      rw [normaliseItems, distinctItems, distinctKeys_normalise item,
        distinctItems_normaliseItems items, Bool.true_and]

theorem distinctMembers_normaliseMembers :
    ∀ ms : List (String × Json), distinctMembers (normaliseMembers ms) = true
  | [] => rfl
  | (key, v) :: ms => by
      rw [normaliseMembers, distinctMembers, distinctKeys_normalise v,
        distinctMembers_normaliseMembers ms, Bool.true_and]

end

theorem normaliseMembers_filter (p : String → Bool) (ms : List (String × Json)) :
    normaliseMembers (ms.filter fun m => p m.1) = (normaliseMembers ms).filter fun m => p m.1 := by
  rw [normaliseMembers_eq_map, normaliseMembers_eq_map, List.filter_map]
  rfl

theorem filter_tree (p : String → Bool) (ms : List (String × Json)) :
    (Pairs.sorted (normaliseMembers ms)).filter (fun m => p m.1) =
      Pairs.sorted (normaliseMembers (ms.filter fun m => p m.1)) := by
  rw [Pairs.filter_sorted, normaliseMembers_filter]

theorem find?_normalised (name : String) (ms : List (String × Json)) :
    Pairs.find? name (Pairs.sorted (normaliseMembers ms)) =
      (Pairs.last? name ms).map normalise := by
  rw [Pairs.find?_sorted, normaliseMembers_eq_map, Pairs.last?_mapValues]

end FormMarkup.Json
