import FormMarkup.Proofs.Form.WrittenOrder
import FormMarkup.Proofs.Json.Normal

namespace FormMarkup

namespace Json

def isList : Json → Bool
  | .list _ => true
  | _ => false

def given? (name : String) : Json → Option Json
  | .object ms => (Pairs.find? name ms).filter fun v => !v.isNull
  | _ => none

theorem given?_null {name : String} {ms : List (String × Json)}
    (h : Pairs.find? name ms = some .null) : given? name (.object ms) = none := by
  rw [given?, h]
  rfl

theorem given?_some {name : String} {ms : List (String × Json)} {v : Json}
    (h : Pairs.find? name ms = some v) (hv : v.isNull = false) :
    given? name (.object ms) = some v := by
  rw [given?, h]
  simp [Option.filter, hv]

theorem given?_none {name : String} {ms : List (String × Json)}
    (h : Pairs.find? name ms = none) : given? name (.object ms) = none := by
  rw [given?, h]
  rfl

theorem normalise_of_given? {doc v : Json} {name : String}
    (h : doc.normalise.given? name = some v) : v.normalise = v := by
  cases doc with
  | object ms =>
      rw [normalise, given?, find?_normalised] at h
      obtain ⟨hfound, _⟩ := Option.filter_eq_some_iff.mp h
      obtain ⟨w, _, rfl⟩ := Option.map_eq_some_iff.mp hfound
      exact normalise_normalise w
  | _ => cases h

end Json

namespace Definition

def undecodable : Nat → List Json → List Nat
  | _, [] => []
  | k, v :: vs =>
      match Field.decode v with
      | .ok _ => undecodable (k + 1) vs
      | .error _ => k :: undecodable (k + 1) vs

theorem warnings_decodeEntries (k : Nat) (vs : List Json) :
    (decodeEntries k vs).2 = (undecodable k vs).map Warning.malformedField := by
  induction vs generalizing k with
  | nil => rfl
  | cons v vs ih =>
      rw [decodeEntries, undecodable]
      cases Field.decode v with
      | ok f => exact ih (k + 1)
      | error e => exact congrArg (Warning.malformedField k :: ·) (ih (k + 1))

theorem le_of_mem_undecodable {k i : Nat} {vs : List Json} (h : i ∈ undecodable k vs) : k ≤ i := by
  induction vs generalizing k with
  | nil => cases h
  | cons v vs ih =>
      rw [undecodable] at h
      cases hv : Field.decode v with
      | ok f =>
          rw [hv] at h
          exact Nat.le_of_succ_le (ih h)
      | error e =>
          rw [hv] at h
          rcases List.mem_cons.mp h with rfl | h
          · exact Nat.le_refl _
          · exact Nat.le_of_succ_le (ih h)

theorem ascending_undecodable (k : Nat) (vs : List Json) :
    (undecodable k vs).Pairwise fun i j => i < j := by
  induction vs generalizing k with
  | nil => exact .nil
  | cons v vs ih =>
      rw [undecodable]
      cases Field.decode v with
      | ok f => exact ih (k + 1)
      | error e => exact .cons (fun i hi => le_of_mem_undecodable hi) (ih (k + 1))

theorem mem_undecodable {k i : Nat} {vs : List Json} :
    k + i ∈ undecodable k vs ↔ ∃ v e, vs[i]? = some v ∧ Field.decode v = .error e := by
  induction vs generalizing k i with
  | nil => simp [undecodable]
  | cons v vs ih =>
      have hnext : ∀ j, k + (j + 1) ∈ undecodable (k + 1) vs ↔
          ∃ v e, vs[j]? = some v ∧ Field.decode v = .error e := by
        intro j
        rw [← ih (k := k + 1), Nat.add_assoc, Nat.add_comm 1 j]
      have hpast : k ∉ undecodable (k + 1) vs :=
        fun h => Nat.not_succ_le_self k (le_of_mem_undecodable h)
      rw [undecodable]
      cases hv : Field.decode v with
      | ok f =>
          cases i with
          | zero => simp [hpast, hv]
          | succ j => simp [hnext]
      | error e =>
          cases i with
          | zero => simp [hv]
          | succ j => simp [hnext]

theorem tagOf_eq (ms : List (String × Json)) :
    tagOf ms = match (Json.object ms).given? "form" with
      | none => .ok {}
      | some form => (FormTag.decode form).mapError .badTag := by
  rw [tagOf]
  cases hf : Pairs.find? "form" ms with
  | none => rw [Json.given?_none hf]
  | some form =>
      cases form with
      | null => rw [Json.given?_null hf]
      | _ => rw [Json.given?_some hf rfl]

theorem entriesOf_eq (ms : List (String × Json)) :
    entriesOf ms = match (Json.object ms).given? "fields" with
      | none => .ok []
      | some fields => if fields.isList then .ok fields.items else .error .fieldsNotList := by
  rw [entriesOf]
  cases hf : Pairs.find? "fields" ms with
  | none => rw [Json.given?_none hf]
  | some fields =>
      cases fields with
      | null => rw [Json.given?_null hf]
      | _ => rw [Json.given?_some hf rfl]; rfl

theorem entries_eq (ms : List (String × Json)) :
    (Json.object ms).entries = match (Json.object ms).given? "fields" with
      | none => []
      | some fields => fields.items := by
  rw [Json.entries]
  cases hf : Pairs.find? "fields" ms with
  | none => rw [Json.given?_none hf]
  | some fields =>
      cases fields with
      | null => rw [Json.given?_null hf]; rfl
      | _ => rw [Json.given?_some hf rfl]

theorem tagOf_error_iff {ms : List (String × Json)} :
    (∃ e, tagOf ms = .error e) ↔
      ∃ form e, (Json.object ms).given? "form" = some form ∧ FormTag.decode form = .error e := by
  rw [tagOf_eq]
  cases (Json.object ms).given? "form" with
  | none => simp
  | some form => cases hd : FormTag.decode form <;> simp [Except.mapError, hd]

theorem entriesOf_error_iff {ms : List (String × Json)} :
    (∃ e, entriesOf ms = .error e) ↔
      ∃ fields, (Json.object ms).given? "fields" = some fields ∧ fields.isList = false := by
  rw [entriesOf_eq]
  cases (Json.object ms).given? "fields" with
  | none => simp
  | some fields => cases hl : fields.isList <;> simp [hl]

theorem entriesOf_ok {ms : List (String × Json)} {vs : List Json} (h : entriesOf ms = .ok vs) :
    vs = (Json.object ms).entries := by
  rw [entriesOf_eq] at h
  rw [entries_eq]
  cases hg : (Json.object ms).given? "fields" with
  | none =>
      rw [hg] at h
      exact (Except.ok.inj h).symm
  | some fields =>
      rw [hg] at h
      cases hl : fields.isList with
      | false => simp [hl] at h
      | true => simpa [hl] using h.symm

theorem ofSorted_error_iff (v : Json) :
    (∃ e, ofSorted v = .error e) ↔
      v.isContainer = false ∨
      (∃ form e, v.given? "form" = some form ∧ FormTag.decode form = .error e) ∨
      ∃ fields, v.given? "fields" = some fields ∧ fields.isList = false := by
  cases v with
  | object ms =>
      rw [← tagOf_error_iff, ← entriesOf_error_iff, ofSorted]
      cases tagOf ms with
      | error e => simp [Json.isContainer]
      | ok tag => cases entriesOf ms <;> simp [Json.isContainer]
  | list vs => simp [ofSorted, Json.isContainer, Json.given?]
  | _ => simp [ofSorted, Json.isContainer]

theorem ofSorted_badTag {v form : Json} {e : DecodeError} (hg : v.given? "form" = some form)
    (hd : FormTag.decode form = .error e) : ofSorted v = .error (.badTag e) := by
  cases v with
  | object ms =>
      have htag : tagOf ms = .error (.badTag e) := by
        rw [tagOf_eq, hg]
        simp only [hd]
        rfl
      rw [ofSorted, htag]
  | _ => cases hg

theorem ofSorted_ok {v : Json} {d : Definition} {ws : List Warning}
    (h : ofSorted v = .ok (d, ws)) :
    d.fields = v.entries.map Field.ofEntry ∧
      ws = (undecodable 0 v.entries).map Warning.malformedField := by
  cases v with
  | object ms =>
      rw [ofSorted] at h
      cases ht : tagOf ms with
      | error e => simp [ht] at h
      | ok tag =>
          cases he : entriesOf ms with
          | error e => simp [ht, he] at h
          | ok vs =>
              simp only [ht, he, Except.ok.injEq, Prod.mk.injEq] at h
              obtain ⟨rfl, rfl⟩ := h
              rw [← entriesOf_ok he]
              exact ⟨fields_decodeEntries 0 vs, warnings_decodeEntries 0 vs⟩
  | list vs =>
      cases h
      exact ⟨fields_decodeEntries 0 vs, warnings_decodeEntries 0 vs⟩
  | _ => cases h

theorem ofSorted_bare {v : Json} {vs : List Json} (hf : v.given? "form" = none)
    (hg : v.given? "fields" = some (.list vs)) : ofSorted v = ofSorted (.list vs) := by
  cases v with
  | object ms =>
      have htag : tagOf ms = .ok {} := by rw [tagOf_eq, hf]
      have hentries : entriesOf ms = .ok vs := by
        rw [entriesOf_eq, hg]
        rfl
      rw [ofSorted, ofSorted, htag]
      simp only [hentries]
  | _ => cases hg

theorem ofJson_isolates_entries (doc : Json) :
    ((∃ e, ofJson doc = .error e) ↔
      doc.normalise.isContainer = false ∨
      (∃ form e, doc.normalise.given? "form" = some form ∧ FormTag.decode form = .error e) ∨
      ∃ fields, doc.normalise.given? "fields" = some fields ∧ fields.isList = false) ∧
    (∀ form e, doc.normalise.given? "form" = some form → FormTag.decode form = .error e →
      ofJson doc = .error (.badTag e)) ∧
    (∀ d ws, ofJson doc = .ok (d, ws) →
      d.fields.length = doc.normalise.entries.length ∧
      (∀ (i : Nat) entry, doc.normalise.entries[i]? = some entry →
        (∀ f, Field.decode entry = .ok f → d.fields[i]? = some f) ∧
        ∀ e, Field.decode entry = .error e → d.fields[i]? = some Field.unknown) ∧
      (∃ positions : List Nat, positions.Pairwise (fun i j => i < j) ∧
        (∀ i : Nat, i ∈ positions ↔ ∃ entry e, doc.normalise.entries[i]? = some entry ∧
          Field.decode entry = .error e) ∧
        ws = positions.map Warning.malformedField) ∧
      ∀ w ∈ ws, w.message = "Malformed field descriptor, skipping") ∧
    ∀ vs, doc.normalise.given? "form" = none → doc.normalise.given? "fields" = some (.list vs) →
      ofJson doc = ofJson (.list vs) := by
  refine ⟨ofSorted_error_iff doc.normalise, fun form e => ofSorted_badTag, ?_, ?_⟩
  · intro d ws h
    obtain ⟨hfields, hwarnings⟩ := ofSorted_ok h
    refine ⟨?_, ?_, ⟨_, ascending_undecodable 0 _, fun i => ?_, hwarnings⟩, ?_⟩
    · rw [hfields, List.length_map]
    · intro i entry hentry
      rw [hfields, List.getElem?_map, hentry, Option.map_some]
      exact ⟨fun f hf => congrArg some (Field.ofEntry_ok hf),
        fun e he => congrArg some (Field.ofEntry_error he)⟩
    · rw [← mem_undecodable, Nat.zero_add]
    · intro w hw
      rw [hwarnings] at hw
      obtain ⟨i, _, rfl⟩ := List.mem_map.mp hw
      rfl
  · intro vs hform hfields
    rw [ofJson, ofJson, Json.normalise_of_given? hfields]
    exact ofSorted_bare hform hfields

end Definition

end FormMarkup
