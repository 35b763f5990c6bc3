import FormMarkup.Field.Decode
import FormMarkup.Proofs.Decode.Members

namespace FormMarkup

open FormMarkup.Record (knows_of_one knows_of_two)

theorem TextInput.knows_attributes : record.Knows Member.givenAttributes :=
  knows_of_two rfl rfl rfl

theorem TextArea.knows_attributes : record.Knows Member.extraAttributes :=
  knows_of_two rfl rfl rfl

theorem FileInput.knows_attributes : record.Knows Member.extraAttributes :=
  knows_of_two rfl rfl rfl

theorem Select.knows_attributes : record.Knows Member.extraAttributes :=
  knows_of_two rfl rfl rfl

theorem Select.knows_options : record.Knows Member.options :=
  knows_of_one rfl rfl

theorem Switch.knows_attributes : record.Knows Member.extraAttributes :=
  knows_of_two rfl rfl rfl

theorem Checkbox.knows_attributes : record.Knows Member.extraAttributes :=
  knows_of_two rfl rfl rfl

theorem Choice.knows_attributes : record.Knows Member.extraAttributes :=
  knows_of_two rfl rfl rfl

theorem CheckboxGroup.knows_choices : record.Knows Member.checkboxes :=
  knows_of_one rfl rfl

theorem RadioGroup.knows_choices : record.Knows Member.choices :=
  knows_of_one rfl rfl

def attributeKeys (ms : List (String × Json)) : List String :=
  Member.extraAttributes.writtenKeys Json.valuedKeys ms

def optionKeys (ms : List (String × Json)) : List String :=
  Member.options.writtenKeys Json.keys ms

def choiceItems (ms : List (String × Json)) : List Json :=
  Member.choices.writtenItems ms

namespace Field

def mapKeys : Field → List (List String)
  | .input _ f => [Pairs.keys (f.extraAttributes.getD [])]
  | .textArea f => [Pairs.keys f.extraAttributes]
  | .file f => [Pairs.keys f.extraAttributes]
  | .select f => [Pairs.keys f.options, Pairs.keys f.extraAttributes]
  | .checkbox g => g.choices.map fun c => Pairs.keys c.extraAttributes
  | .radio g => g.choices.map fun c => Pairs.keys c.extraAttributes
  | .switch f => [Pairs.keys f.extraAttributes]
  | _ => []

def ownMembers : Json → List (String × Json)
  | .object ms => ms.filter fun m => !isType m
  | _ => []

def writtenKeys (f : Field) (entry : Json) : List (List String) :=
  match f with
  | .select _ => [optionKeys (ownMembers entry), attributeKeys (ownMembers entry)]
  | .checkbox _ =>
      (choiceItems (ownMembers entry)).map fun c => attributeKeys (Checkbox.record.spread c)
  | .radio _ =>
      (choiceItems (ownMembers entry)).map fun c => attributeKeys (Choice.record.spread c)
  | .input .. | .textArea _ | .file _ | .switch _ => [attributeKeys (ownMembers entry)]
  | _ => []

def DecodesFrom : Field → Json → Prop
  | .input _ f, v => TextInput.decode v = .ok f
  | .textArea f, v => TextArea.decode v = .ok f
  | .file f, v => FileInput.decode v = .ok f
  | .select f, v => Select.decode v = .ok f
  | .checkbox g, v => CheckboxGroup.decode v = .ok g
  | .radio g, v => RadioGroup.decode v = .ok g
  | .switch f, v => Switch.decode v = .ok f
  | .hidden f, v => HiddenInputs.decode v = .ok f
  | .nonce n, v => Nonce.decode v = .ok n
  | .submit b, v => SubmitButton.decode v = .ok b
  | .unknown, _ => True

theorem decodeAs_ok {typeName : String} {v : Json} {f : Field}
    (h : decodeAs typeName v = .ok f) : f.DecodesFrom v := by
  unfold decodeAs at h
  split at h
  case h_14 =>
    unfold decodeUnknown at h
    split at h
    · cases h
    · cases h
      trivial
  all_goals
    obtain ⟨a, ha, rfl⟩ := map_ok h
    exact ha

theorem distinctKeys_ownMembers {entry : Json} (hd : entry.distinctKeys = true) :
    ∀ m ∈ ownMembers entry, m.2.distinctKeys = true := by
  cases entry with
  | object ms =>
      intro m hm
      exact (Json.distinctKeys_of_mem_object hd).2 m (List.mem_filter.mp hm).1
  | _ => exact fun _ hm => (List.not_mem_nil hm).elim

theorem ownMembers_normalise_perm {entry : Json} (hd : entry.distinctKeys = true) :
    (ownMembers entry.normalise).Perm (Json.normaliseMembers (ownMembers entry)) := by
  cases entry with
  | object ms =>
      have hsorted := Json.sorted_normaliseMembers_perm (Json.distinctKeys_of_mem_object hd).1
      have hfilter : (Json.normaliseMembers ms).filter (fun m => !isType m) =
          Json.normaliseMembers (ms.filter fun m => !isType m) := by
        rw [Json.normaliseMembers_eq_map, Json.normaliseMembers_eq_map, List.filter_map]
        rfl
      rw [Json.normalise, ownMembers, ownMembers, ← hfilter]
      exact hsorted.filter _
  | _ => exact .refl _

theorem types_of_nodup {ms : List (String × Json)} (hn : (Pairs.keys ms).Nodup) :
    ms.filter isType = [] ∨ ∃ v, ms.filter isType = [("type", v)] := by
  have hsub : (Pairs.keys (ms.filter isType)).Nodup :=
    hn.sublist (List.filter_sublist.map Prod.fst)
  have hall : ∀ m ∈ ms.filter isType, m.1 = "type" := fun m hm =>
    of_decide_eq_true (List.mem_filter.mp hm).2
  generalize ms.filter isType = types at hsub hall
  match types with
  | [] => exact .inl rfl
  | [(name, v)] =>
      obtain rfl : name = "type" := hall (name, v) (List.mem_cons_self ..)
      exact .inr ⟨v, rfl⟩
  | m :: n :: rest =>
      have hm := hall m (List.mem_cons_self ..)
      have hk := hall n (List.mem_cons_of_mem _ (List.mem_cons_self ..))
      exact absurd (List.mem_cons_self ..) (hm.trans hk.symm ▸ (List.nodup_cons.mp hsub).1)

theorem decode_ok {v : Json} {f : Field} (h : decode v = .ok f) :
    ∃ rest, f.DecodesFrom rest ∧ ∀ ms, rest = .object ms → ms = ownMembers v := by
  cases v with
  | object all =>
      obtain ⟨typeName, _, hdecode⟩ := bind_ok h
      exact ⟨_, decodeAs_ok hdecode, fun ms hms => (Json.object.inj hms).symm⟩
  | list vs =>
      cases vs with
      | nil => cases h
      | cons v vs =>
          obtain ⟨typeName, _, hdecode⟩ := bind_ok h
          refine ⟨_, decodeAs_ok hdecode, fun ms hms => ?_⟩
          cases hms
  | _ => cases h

end Field

theorem Key.find?_congr {α β : Type} (key : Key α) (other : Key β)
    (h : ∀ name, key.slot.answers name = other.slot.answers name) (ms : List (String × Json)) :
    key.find? ms = other.find? ms := by
  induction ms with
  | nil => rfl
  | cons m ms ih =>
      obtain ⟨name, v⟩ := m
      rw [find?, find?, h name, ih]

theorem givenAttributes_writtenKeys (ms : List (String × Json)) :
    Member.givenAttributes.writtenKeys Json.valuedKeys ms = attributeKeys ms := by
  have hfind := Key.find?_congr Member.givenAttributes Member.extraAttributes (fun _ => rfl) ms
  rw [attributeKeys, Key.writtenKeys, Key.writtenKeys, hfind]

theorem checkboxes_writtenItems (ms : List (String × Json)) :
    Member.checkboxes.writtenItems ms = choiceItems ms := by
  have hfind := Key.find?_congr Member.checkboxes Member.choices (fun _ => rfl) ms
  rw [choiceItems, Key.writtenItems, Key.writtenItems, hfind]

section Entry

variable {record : Record} {ms ms' : List (String × Json)}

theorem reordered_attributes (hk : record.Knows Member.extraAttributes)
    (hd : ∀ m ∈ ms, m.2.distinctKeys = true) (hp : ms'.Perm (Json.normaliseMembers ms))
    (hf : Slot.membersFault? record.slots [] ms' = none) :
    Reordered (Pairs.keys (Member.extraAttributes.get ms')) (attributeKeys ms) :=
  Key.reordered_get hk Pairs.keys rfl (fun _ _ => Json.readAttributes_normalise) hd hp hf

theorem reordered_given (hk : record.Knows Member.givenAttributes)
    (hd : ∀ m ∈ ms, m.2.distinctKeys = true) (hp : ms'.Perm (Json.normaliseMembers ms))
    (hf : Slot.membersFault? record.slots [] ms' = none) :
    Reordered (Pairs.keys ((Member.givenAttributes.get ms').getD [])) (attributeKeys ms) := by
  rw [← givenAttributes_writtenKeys]
  refine Key.reordered_get hk (fun given => Pairs.keys (given.getD [])) rfl (fun v given hv hread => ?_) hd hp hf
  obtain ⟨map, hmap, rfl⟩ := map_ok hread
  exact Json.readAttributes_normalise hv hmap

theorem reordered_options (hk : record.Knows Member.options)
    (hd : ∀ m ∈ ms, m.2.distinctKeys = true) (hp : ms'.Perm (Json.normaliseMembers ms))
    (hf : Slot.membersFault? record.slots [] ms' = none) :
    Reordered (Pairs.keys (Member.options.get ms')) (optionKeys ms) :=
  Key.reordered_get hk Pairs.keys rfl (fun _ _ => Json.readLabels_normalise) hd hp hf

end Entry

theorem Checkbox.reordered_attributes {v : Json} {c : Checkbox} (hd : v.distinctKeys = true)
    (h : Checkbox.decode v.normalise = .ok c) :
    Reordered (Pairs.keys c.extraAttributes) (attributeKeys (record.spread v)) := by
  obtain ⟨hf, rfl⟩ := Record.members_ok h
  exact FormMarkup.reordered_attributes knows_attributes (Record.distinctKeys_spread hd)
    (record.spread_normalise_perm hd) hf

theorem Choice.reordered_attributes {v : Json} {c : Choice} (hd : v.distinctKeys = true)
    (h : Choice.decode v.normalise = .ok c) :
    Reordered (Pairs.keys c.extraAttributes) (attributeKeys (record.spread v)) := by
  obtain ⟨hf, rfl⟩ := Record.members_ok h
  exact FormMarkup.reordered_attributes knows_attributes (Record.distinctKeys_spread hd)
    (record.spread_normalise_perm hd) hf

theorem Field.reordered_mapKeys {entry : Json} {f : Field} (hd : entry.distinctKeys = true)
    (h : Field.decode entry.normalise = .ok f) :
    List.Forall₂ Reordered f.mapKeys (f.writtenKeys entry) := by
  obtain ⟨rest, hrest, hmembers⟩ := decode_ok h
  have hown := distinctKeys_ownMembers hd
  have hp : ∀ ms, rest = .object ms → ms.Perm (Json.normaliseMembers (ownMembers entry)) :=
    fun ms hms => hmembers ms hms ▸ ownMembers_normalise_perm hd
  cases f with
  | input type f =>
      obtain ⟨ms, hms, hf, rfl⟩ := Record.openMembers_ok hrest
      exact .cons (reordered_given TextInput.knows_attributes hown (hp ms hms) hf) .nil
  | textArea f =>
      obtain ⟨ms, hms, hf, rfl⟩ := Record.openMembers_ok hrest
      exact .cons (reordered_attributes TextArea.knows_attributes hown (hp ms hms) hf) .nil
  | file f =>
      obtain ⟨ms, hms, hf, rfl⟩ := Record.openMembers_ok hrest
      exact .cons (reordered_attributes FileInput.knows_attributes hown (hp ms hms) hf) .nil
  | select f =>
      obtain ⟨ms, hms, hf, rfl⟩ := Record.openMembers_ok hrest
      exact .cons (reordered_options Select.knows_options hown (hp ms hms) hf)
        (.cons (reordered_attributes Select.knows_attributes hown (hp ms hms) hf) .nil)
  | switch f =>
      obtain ⟨ms, hms, hf, rfl⟩ := Record.openMembers_ok hrest
      exact .cons (reordered_attributes Switch.knows_attributes hown (hp ms hms) hf) .nil
  | checkbox g =>
      obtain ⟨ms, hms, hf, rfl⟩ := Record.openMembers_ok hrest
      have hchoices := Key.forall₂_get CheckboxGroup.knows_choices rfl rfl hown (hp ms hms) hf
      rw [checkboxes_writtenItems] at hchoices
      rw [mapKeys, writtenKeys, List.forall₂_map_left_iff, List.forall₂_map_right_iff]
      exact .flip (hchoices.imp fun item c hc => Checkbox.reordered_attributes hc.1 hc.2)
  | radio g =>
      obtain ⟨ms, hms, hf, rfl⟩ := Record.openMembers_ok hrest
      have hchoices := Key.forall₂_get RadioGroup.knows_choices rfl rfl hown (hp ms hms) hf
      rw [mapKeys, writtenKeys, List.forall₂_map_left_iff, List.forall₂_map_right_iff]
      exact .flip (hchoices.imp fun item c hc => Choice.reordered_attributes hc.1 hc.2)
  | _ => exact .nil

end FormMarkup
