import FormMarkup.Proofs.Field.MapKeys
import FormMarkup.Proofs.Form.Entries
import FormMarkup.Proofs.Render.Options

namespace FormMarkup

open FormMarkup.Markup

namespace Json

theorem find?_normaliseMembers (name : String) (ms : List (String × Json)) :
    Pairs.find? name (normaliseMembers ms) = (Pairs.find? name ms).map normalise := by
  induction ms with
  | nil => rfl
  | cons m ms ih =>
      obtain ⟨n, v⟩ := m
      rw [normaliseMembers, Pairs.find?, Pairs.find?, ih]
      split <;> rfl

theorem find?_normalise {ms : List (String × Json)} (h : (Pairs.keys ms).Nodup) (name : String) :
    Pairs.find? name (Pairs.sorted (normaliseMembers ms)) =
      (Pairs.find? name ms).map normalise := by
  have hp := sorted_normaliseMembers_perm h
  have hnodup := (Pairs.increasing_sorted (normaliseMembers ms)).nodup
  rw [Pairs.find?_perm hnodup hp, find?_normaliseMembers]

def entries : Json → List Json
  | .list vs => vs
  | .object ms =>
      match Pairs.find? "fields" ms with
      | some v => v.items
      | none => []
  | _ => []

theorem distinctKeys_entries {doc : Json} (hd : doc.distinctKeys = true) :
    ∀ entry ∈ doc.entries, entry.distinctKeys = true := by
  cases doc with
  | list vs => exact distinctKeys_of_mem_list hd
  | object ms =>
      rw [entries]
      cases hv : Pairs.find? "fields" ms with
      | none => exact fun _ hm => (List.not_mem_nil hm).elim
      | some v =>
          exact distinctKeys_items ((distinctKeys_of_mem_object hd).2 _ (Pairs.mem_of_find? hv))
  | _ => exact fun _ hm => (List.not_mem_nil hm).elim

end Json

namespace Definition

theorem entriesOf_normalise {ms : List (String × Json)} (h : (Pairs.keys ms).Nodup)
    {vs : List Json} (he : entriesOf (Pairs.sorted (Json.normaliseMembers ms)) = .ok vs) :
    vs = (Json.object ms).entries.map Json.normalise := by
  rw [entriesOf, Json.find?_normalise h] at he
  rw [Json.entries]
  cases hv : Pairs.find? "fields" ms with
  | none =>
      rw [hv] at he
      cases he
      rfl
  | some v =>
      rw [hv] at he
      cases v with
      | null =>
          cases he
          rfl
      | list items =>
          cases he
          exact Json.normaliseItems_eq_map items
      | _ => cases he

theorem fields_ofJson {doc : Json} (hk : doc.distinctKeys = true) {d : Definition}
    {ws : List Warning} (h : ofJson doc = .ok (d, ws)) :
    d.fields = doc.entries.map fun entry => Field.ofEntry entry.normalise := by
  rcases ofSorted_fields h with ⟨vs, hvs, hfields⟩ | ⟨members, vs, hmembers, he, hfields⟩
  · cases doc with
    | list items =>
        rw [Json.normalise, Json.normaliseItems_eq_map] at hvs
        rw [hfields, ← Json.list.inj hvs, List.map_map]
        rfl
    | _ => cases hvs
  · cases doc with
    | object ms =>
        rw [Json.normalise] at hmembers
        rw [← Json.object.inj hmembers] at he
        have hentries := entriesOf_normalise (Json.distinctKeys_of_mem_object hk).1 he
        rw [hfields, hentries, List.map_map]
        rfl
    | _ => cases hmembers

end Definition

theorem Field.reordered_ofEntry {entry : Json} (hk : entry.distinctKeys = true) :
    List.Forall₂ Reordered (Field.ofEntry entry.normalise).mapKeys
      ((Field.ofEntry entry.normalise).writtenKeys entry) := by
  cases h : Field.decode entry.normalise with
  | ok f =>
      rw [ofEntry_ok h]
      exact reordered_mapKeys hk h
  | error e =>
      rw [ofEntry_error h]
      exact .nil

namespace Definition

theorem ofJsonText_reorders (text : String) (doc : Json) (d : Definition) (ws : List Warning)
    (hp : Json.parse? text = some doc) (hk : doc.distinctKeys = true)
    (hd : ofJsonText text = .ok (d, ws)) :
    List.Forall₂ (fun f entry => List.Forall₂ Reordered f.mapKeys (f.writtenKeys entry))
        d.fields doc.entries ∧
      ∀ r, optionValues (d.render r).items = (orderFields d.fields).flatMap Field.optionValues := by
  refine ⟨?_, fun r => r.optionValues_form d.fields d.tag⟩
  rw [ofJsonText, hp] at hd
  rw [fields_ofJson hk hd, List.forall₂_map_left_iff, List.forall₂_same]
  exact fun entry hentry => Field.reordered_ofEntry (Json.distinctKeys_entries hk entry hentry)

def descendingOptions : String :=
  "[\x7b\"type\":\"select\",\"options\":\x7b\"b\":\"1\",\"a\":\"2\"\x7d\x7d]"

theorem descendingOptions_keys :
    ∃ doc d ws, Json.parse? descendingOptions = some doc ∧ doc.distinctKeys = true ∧
      ofJsonText descendingOptions = .ok (d, ws) ∧
      d.fields.map Field.mapKeys = [[["a", "b"], []]] ∧
      List.zipWith Field.writtenKeys d.fields doc.entries = [[["b", "a"], []]] := by
  have hrun : ((Json.parse? descendingOptions).bind fun doc =>
      (ofJsonText descendingOptions).toOption.map fun result =>
        (doc.distinctKeys, result.1.fields.map Field.mapKeys,
          List.zipWith Field.writtenKeys result.1.fields doc.entries)) =
      some (true, [[["a", "b"], []]], [[["b", "a"], []]]) := by
    decide +kernel
  obtain ⟨doc, hp, hrest⟩ := Option.bind_eq_some_iff.mp hrun
  obtain ⟨⟨d, ws⟩, hd, hkeys⟩ := Option.map_eq_some_iff.mp hrest
  simp only [Prod.mk.injEq] at hkeys
  exact ⟨doc, d, ws, hp, hkeys.1, toOption_ok hd, hkeys.2⟩

theorem ofJsonText_reorders_descending :
    ∃ doc d ws, Json.parse? descendingOptions = some doc ∧ doc.distinctKeys = true ∧
      ofJsonText descendingOptions = .ok (d, ws) ∧
      List.Forall₂ (fun f entry => List.Forall₂ Reordered f.mapKeys (f.writtenKeys entry))
        d.fields doc.entries ∧
      ∀ r, optionValues (d.render r).items =
        (orderFields d.fields).flatMap Field.optionValues := by
  obtain ⟨doc, d, ws, hp, hk, hd, _⟩ := descendingOptions_keys
  exact ⟨doc, d, ws, hp, hk, hd, ofJsonText_reorders _ doc d ws hp hk hd⟩

theorem ofJsonText_loses_order :
    ¬∀ (text : String) (doc : Json) (d : Definition) (ws : List Warning),
      Json.parse? text = some doc → doc.distinctKeys = true → ofJsonText text = .ok (d, ws) →
      List.Forall₂ (fun f entry => f.mapKeys = f.writtenKeys entry) d.fields doc.entries := by
  intro hkept
  obtain ⟨doc, d, ws, hp, hk, hd, hfound, hwritten⟩ := descendingOptions_keys
  have hsame : ∀ {fs : List Field} {es : List Json},
      List.Forall₂ (fun f entry => f.mapKeys = f.writtenKeys entry) fs es →
        fs.map Field.mapKeys = List.zipWith Field.writtenKeys fs es := by
    intro fs es h
    induction h with
    | nil => rfl
    | cons h _ ih => rw [List.map_cons, List.zipWith_cons_cons, h, ih]
  have hall := hsame (hkept _ doc d ws hp hk hd)
  rw [hfound, hwritten] at hall
  exact absurd hall (by decide)

end Definition

end FormMarkup
