import FormMarkup.Proofs.Decode.WrittenKeys
import Mathlib.Data.List.Forall2

namespace FormMarkup

namespace Record

def spread (record : Record) : Json → List (String × Json)
  | .object members => members
  | .list items => Slot.place record.slots items
  | _ => []

theorem place_normaliseItems (slots : List Slot) (items : List Json) :
    Slot.place slots (Json.normaliseItems items) =
      Json.normaliseMembers (Slot.place slots items) := by
  rw [Slot.place, Slot.place, Json.normaliseItems_eq_map, Json.normaliseMembers_eq_map,
    List.zip_map_right]
  rfl

theorem spread_normalise_perm (record : Record) {v : Json} (hd : v.distinctKeys = true) :
    (record.spread v.normalise).Perm (Json.normaliseMembers (record.spread v)) := by
  cases v with
  | object members =>
      exact Json.sorted_normaliseMembers_perm (Json.distinctKeys_of_mem_object hd).1
  | list items =>
      rw [Json.normalise, spread, place_normaliseItems]
      exact .refl _
  | _ => exact .refl _

theorem distinctKeys_spread {record : Record} {v : Json} (hd : v.distinctKeys = true) :
    ∀ m ∈ record.spread v, m.2.distinctKeys = true := by
  cases v with
  | object members => exact (Json.distinctKeys_of_mem_object hd).2
  | list items =>
      intro m hm
      exact Json.distinctKeys_of_mem_list hd m.2 (List.of_mem_zip hm).2
  | _ => exact fun _ hm => (List.not_mem_nil hm).elim

theorem membersFault?_of_membersError? {record : Record} {ms : List (String × Json)}
    (h : record.membersError? ms = none) : Slot.membersFault? record.slots [] ms = none := by
  cases hf : Slot.membersFault? record.slots [] ms with
  | none => rfl
  | some e => simp [membersError?, hf] at h

theorem membersFault?_of_itemsError? {record : Record} {items : List Json}
    (h : record.itemsError? items = none) :
    Slot.membersFault? record.slots [] (Slot.place record.slots items) = none := by
  cases hf : Slot.membersFault? record.slots [] (Slot.place record.slots items) with
  | none => rfl
  | some e => simp [itemsError?, hf] at h

theorem members_ok {α : Type} {record : Record} {of : List (String × Json) → α} {v : Json} {a : α}
    (h : (record.members v).map of = .ok a) :
    Slot.membersFault? record.slots [] (record.spread v) = none ∧ a = of (record.spread v) := by
  obtain ⟨ms, hms, rfl⟩ := map_ok h
  cases v with
  | object all =>
      rw [Record.members] at hms
      split at hms
      · cases hms
      · next hnone =>
          cases hms
          exact ⟨membersFault?_of_membersError? hnone, rfl⟩
  | list items =>
      rw [Record.members] at hms
      split at hms
      · cases hms
      · next hnone =>
          cases hms
          exact ⟨membersFault?_of_itemsError? hnone, rfl⟩
  | _ => cases hms

theorem openMembers_ok {α : Type} {record : Record} {of : List (String × Json) → α} {v : Json}
    {a : α} (h : (record.openMembers v).map of = .ok a) :
    ∃ ms, v = .object ms ∧ Slot.membersFault? record.slots [] ms = none ∧ a = of ms := by
  cases v with
  | object ms =>
      have hm : (record.members (.object ms)).map of = .ok a := h
      obtain ⟨hf, ha⟩ := members_ok hm
      exact ⟨ms, rfl, hf, ha⟩
  | _ => cases h

end Record

namespace Key

variable {α : Type}

def writtenKeys (key : Key α) (keysOf : Json → List String) (ms : List (String × Json)) :
    List String :=
  match key.find? ms with
  | none => []
  | some v => keysOf v

theorem reordered_get {key : Key α} {record : Record} (hk : record.Knows key)
    {keysOf : Json → List String} (found : α → List String) (hfallback : found key.fallback = [])
    (hread : ∀ v a, v.distinctKeys = true → key.read v.normalise = .ok a →
      Reordered (found a) (keysOf v))
    {ms ms' : List (String × Json)} (hd : ∀ m ∈ ms, m.2.distinctKeys = true)
    (hp : ms'.Perm (Json.normaliseMembers ms))
    (hf : Slot.membersFault? record.slots [] ms' = none) :
    Reordered (found (key.get ms')) (key.writtenKeys keysOf ms) := by
  rw [writtenKeys]
  rcases get_of_perm_normalise hk hp hf with ⟨hnone, hget⟩ | ⟨v, hv, hget⟩
  · rw [hnone, hget, hfallback]
    exact .nil
  · obtain ⟨name, hm, _⟩ := mem_of_find? hv
    rw [hv]
    exact hread v _ (hd _ hm) hget

end Key

namespace Json

theorem readEach_ok {α : Type} {read : Json → Except DecodeError α} {items : List Json}
    {as : List α} (h : readEach read items = .ok as) :
    List.Forall₂ (fun item a => read item = .ok a) items as := by
  induction items generalizing as with
  | nil =>
      cases h
      exact .nil
  | cons item items ih =>
      rw [readEach] at h
      cases hitem : read item with
      | error e => simp [hitem] at h
      | ok a =>
          cases hitems : readEach read items with
          | error e => simp [hitem, hitems] at h
          | ok rest =>
              simp only [hitem, hitems, Except.ok.injEq] at h
              subst h
              exact .cons hitem (ih hitems)

def items : Json → List Json
  | .list items => items
  | _ => []

def isContainer : Json → Bool
  | .list _ => true
  | .object _ => true
  | _ => false

theorem readList_normalise {α : Type} {read : Json → Except DecodeError α} {v : Json} {as : List α}
    (h : v.normalise.readList read = .ok as) :
    List.Forall₂ (fun item a => read item.normalise = .ok a) v.items as := by
  cases v with
  | list items =>
      rw [normalise, readList, normaliseItems_eq_map] at h
      exact List.forall₂_map_left_iff.mp (readEach_ok h)
  | _ => cases h

theorem distinctKeys_items {v : Json} (hd : v.distinctKeys = true) :
    ∀ item ∈ v.items, item.distinctKeys = true := by
  cases v with
  | list items => exact distinctKeys_of_mem_list hd
  | _ => exact fun _ hm => (List.not_mem_nil hm).elim

end Json

namespace Key

def writtenItems {α : Type} (key : Key α) (ms : List (String × Json)) : List Json :=
  match key.find? ms with
  | none => []
  | some v => v.items

theorem forall₂_get {α : Type} {read : Json → Except DecodeError α} {key : Key (List α)}
    {record : Record} (hk : record.Knows key) (hfallback : key.fallback = [])
    (hread : key.read = Json.readList read) {ms ms' : List (String × Json)}
    (hd : ∀ m ∈ ms, m.2.distinctKeys = true) (hp : ms'.Perm (Json.normaliseMembers ms))
    (hf : Slot.membersFault? record.slots [] ms' = none) :
    List.Forall₂ (fun item a => item.distinctKeys = true ∧ read item.normalise = .ok a)
      (key.writtenItems ms) (key.get ms') := by
  rw [writtenItems]
  rcases get_of_perm_normalise hk hp hf with ⟨hnone, hget⟩ | ⟨v, hv, hget⟩
  · rw [hnone, hget, hfallback]
    exact .nil
  · obtain ⟨name, hm, _⟩ := mem_of_find? hv
    rw [hread] at hget
    rw [hv, List.forall₂_and_left]
    exact ⟨Json.distinctKeys_items (hd _ hm), Json.readList_normalise hget⟩

end Key

end FormMarkup
