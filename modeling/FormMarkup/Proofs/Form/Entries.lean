import FormMarkup.Form.Definition

namespace FormMarkup

def Field.ofEntry (entry : Json) : Field :=
  match Field.decode entry with
  | .ok f => f
  | .error _ => .unknown

theorem Field.ofEntry_ok {entry : Json} {f : Field} (h : Field.decode entry = .ok f) :
    Field.ofEntry entry = f := by
  rw [ofEntry, h]

theorem Field.ofEntry_error {entry : Json} {e : DecodeError} (h : Field.decode entry = .error e) :
    Field.ofEntry entry = .unknown := by
  rw [ofEntry, h]

namespace Definition

theorem fields_decodeEntries (k : Nat) (vs : List Json) :
    (decodeEntries k vs).1 = vs.map Field.ofEntry := by
  induction vs generalizing k with
  | nil => rfl
  | cons v vs ih =>
      rw [decodeEntries, List.map_cons, ← ih (k + 1)]
      cases hv : Field.decode v with
      | ok f => rw [Field.ofEntry_ok hv]
      | error e => rw [Field.ofEntry_error hv]

theorem ofSorted_fields {v : Json} {d : Definition} {ws : List Warning}
    (h : ofSorted v = .ok (d, ws)) :
    (∃ vs, v = .list vs ∧ d.fields = vs.map Field.ofEntry) ∨
      ∃ members vs, v = .object members ∧ entriesOf members = .ok vs ∧
        d.fields = vs.map Field.ofEntry := by
  cases v with
  | list vs =>
      left
      cases h
      exact ⟨vs, rfl, fields_decodeEntries 0 vs⟩
  | object members =>
      right
      rw [ofSorted] at h
      cases ht : tagOf members with
      | error e => simp [ht] at h
      | ok tag =>
          cases he : entriesOf members with
          | error e => simp [ht, he] at h
          | ok vs =>
              simp only [ht, he, Except.ok.injEq, Prod.mk.injEq] at h
              obtain ⟨rfl, _⟩ := h
              exact ⟨members, vs, rfl, he, fields_decodeEntries 0 vs⟩
  | _ => cases h

end Definition

end FormMarkup
