import FormMarkup.Field.Reading
import FormMarkup.Proofs.Field.Alike
import FormMarkup.Proofs.Field.MapKeys

namespace FormMarkup.Field

def writesOnceAs (typeName : String) (ms : List (String × Json)) : Bool :=
  match typeName with
  | "text" => TextInput.record.writesOnce ms
  | "email" => TextInput.record.writesOnce ms
  | "password" => TextInput.record.writesOnce ms
  | "number" => TextInput.record.writesOnce ms
  | "textarea" => TextArea.record.writesOnce ms
  | "file" => FileInput.record.writesOnce ms
  | "select" => Select.record.writesOnce ms
  | "checkbox" => CheckboxGroup.writesOnce ms
  | "radio" => RadioGroup.writesOnce ms
  | "switch" => Switch.record.writesOnce ms
  | "hidden" => HiddenInputs.writesOnce ms
  | "nonce" => Nonce.record.writesOnce ms
  | "submit" => SubmitButton.record.writesOnce ms
  | _ => true

def writesOnce : Json → Bool
  | .object ms =>
      decide ((ms.filter isType).length ≤ 1) &&
        match typeOfMembers ms with
        | .ok typeName => writesOnceAs typeName (ms.filter fun m => !isType m)
        | .error _ => true
  | _ => true

theorem decodeUnknown_agrees (v : Json) :
    Agree Alike (decodeUnknown v) (decodeUnknown v.normalise) := by
  cases v with
  | list items =>
      cases items with
      | nil => exact .ok trivial
      | cons item items => exact .error _ _
  | _ => exact .ok trivial

theorem decodeAs_agrees {typeName : String} {ms : List (String × Json)}
    (hw : writesOnceAs typeName ms = true) :
    Agree Alike (decodeAs typeName (.object ms))
      (decodeAs typeName (Json.object ms).normalise) := by
  unfold decodeAs
  split
  · exact (TextInput.decode_agrees (v := .object ms) hw).map fun _ _ h => ⟨rfl, h⟩
  · exact (TextInput.decode_agrees (v := .object ms) hw).map fun _ _ h => ⟨rfl, h⟩
  · exact (TextInput.decode_agrees (v := .object ms) hw).map fun _ _ h => ⟨rfl, h⟩
  · exact (TextInput.decode_agrees (v := .object ms) hw).map fun _ _ h => ⟨rfl, h⟩
  · exact (TextArea.decode_agrees (v := .object ms) hw).map fun _ _ h => h
  · exact (FileInput.decode_agrees (v := .object ms) hw).map fun _ _ h => h
  · exact (Select.decode_agrees (v := .object ms) hw).map fun _ _ h => h
  · exact (CheckboxGroup.decode_agrees hw).map fun _ _ h => h
  · exact (RadioGroup.decode_agrees hw).map fun _ _ h => h
  · exact (Switch.decode_agrees (v := .object ms) hw).map fun _ _ h => h
  · exact (HiddenInputs.decode_agrees hw).map fun _ _ h => h
  · exact (Nonce.decode_agrees (v := .object ms) hw).map fun _ _ h => h
  · exact (SubmitButton.decode_agrees (v := .object ms) hw).map fun _ _ h => h
  · exact decodeUnknown_agrees (.object ms)

theorem decodeAs_list_agrees (typeName : String) (vs : List Json) :
    Agree Alike (decodeAs typeName (.list vs)) (decodeAs typeName (Json.list vs).normalise) := by
  have hnonce : Agree Eq (Nonce.decode (.list vs)) (Nonce.decode (Json.list vs).normalise) :=
    Nonce.decode_agrees rfl
  unfold decodeAs
  split
  case h_12 => exact hnonce.map fun _ _ h => h
  case h_14 => exact decodeUnknown_agrees (.list vs)
  all_goals exact .error _ _

theorem readTypeName_steady (v : Json) : Agree Eq (readTypeName v) (readTypeName v.normalise) := by
  cases v with
  | string s => exact .ok rfl
  | _ => exact .error _ _

theorem types_tree (ms : List (String × Json)) :
    (Pairs.sorted (Json.normaliseMembers ms)).filter isType =
      Pairs.sorted (Json.normaliseMembers (ms.filter isType)) :=
  Json.filter_tree (fun name => name = "type") ms

theorem ownMembers_tree (ms : List (String × Json)) :
    (Pairs.sorted (Json.normaliseMembers ms)).filter (fun m => !isType m) =
      Pairs.sorted (Json.normaliseMembers (ms.filter fun m => !isType m)) :=
  Json.filter_tree (fun name => !decide (name = "type")) ms

theorem typeOfMembers_agrees {ms : List (String × Json)} (hw : (ms.filter isType).length ≤ 1) :
    Agree Eq (typeOfMembers ms) (typeOfMembers (Pairs.sorted (Json.normaliseMembers ms))) := by
  rw [typeOfMembers, typeOfMembers, types_tree]
  generalize ms.filter isType = types at hw
  match types with
  | [] => exact .error _ _
  | [m] => exact readTypeName_steady m.2
  | _ :: _ :: _ => simp at hw

theorem decode_agrees {v : Json} (hw : writesOnce v = true) :
    Agree Alike (decode v) (decode v.normalise) := by
  cases v with
  | object ms =>
      obtain ⟨htypes, hown⟩ := Bool.and_eq_true_iff.mp hw
      refine (typeOfMembers_agrees (of_decide_eq_true htypes)).bind fun typeName other ht heq => ?_
      subst heq
      rw [ht] at hown
      rw [ownMembers_tree]
      exact decodeAs_agrees hown
  | list vs =>
      cases vs with
      | nil => exact .error _ _
      | cons v vs =>
          refine (readTypeName_steady v).bind fun typeName other _ heq => ?_
          subst heq
          exact decodeAs_list_agrees typeName vs
  | _ => exact .error _ _

theorem ofText_whole {text : String} {doc : Json} (h : Json.parse? text = some doc) :
    ofText text = (decode doc).mapError .decode := by
  rw [Json.parse?] at h
  rw [ofText]
  cases hr : Json.Reading.ofText text with
  | whole v =>
      rw [hr] at h
      rw [Option.some.inj h]
      rfl
  | _ =>
      rw [hr] at h
      cases h

theorem ofText_agrees_with_tree (text : String) (doc : Json) (hp : Json.parse? text = some doc)
    (hw : writesOnce doc = true) : Agree Alike (ofText text) (decode doc.normalise) := by
  rw [ofText_whole hp]
  exact (decode_agrees hw).mapError_left _

def scatteredSelect : String :=
  "\x7b\"x\":1,\"options\":\x7b\"b\":\"1\",\"a\":\"2\",\"b\":\"3\"\x7d,\"x\":2," ++
    "\"extra_attr\":\x7b\"z\":null,\"y\":true\x7d,\"type\":\"select\"\x7d"

theorem scatteredSelect_agrees :
    ∃ doc, Json.parse? scatteredSelect = some doc ∧ writesOnce doc = true ∧
      Agree Alike (ofText scatteredSelect) (decode doc.normalise) ∧
      (ofText scatteredSelect).toOption.map mapKeys = some [["b", "a"], ["y"]] ∧
      (decode doc.normalise).toOption.map mapKeys = some [["a", "b"], ["y"]] := by
  have hrun : ((Json.parse? scatteredSelect).map fun doc =>
      (writesOnce doc, (ofText scatteredSelect).toOption.map mapKeys,
        (decode doc.normalise).toOption.map mapKeys)) =
      some (true, some [["b", "a"], ["y"]], some [["a", "b"], ["y"]]) := by
    decide +kernel
  obtain ⟨doc, hp, hdoc⟩ := Option.map_eq_some_iff.mp hrun
  obtain ⟨hw, hrest⟩ := Prod.mk.inj hdoc
  obtain ⟨hwritten, htree⟩ := Prod.mk.inj hrest
  exact ⟨doc, hp, hw, ofText_agrees_with_tree _ doc hp hw, hwritten, htree⟩

end FormMarkup.Field
