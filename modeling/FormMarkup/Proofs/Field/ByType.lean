import FormMarkup.Field.Decode
import FormMarkup.Proofs.Decode.KnownMembers
import FormMarkup.Proofs.Field.Writing

namespace FormMarkup

namespace Field

def withPassthrough (p : Passthrough) : Field → Field
  | .input type f => .input type { f with passthrough := p }
  | .textArea f => .textArea { f with passthrough := p }
  | .file f => .file { f with passthrough := p }
  | .select f => .select { f with passthrough := p }
  | .checkbox g => .checkbox { g with passthrough := p }
  | .radio g => .radio { g with passthrough := p }
  | .switch f => .switch { f with passthrough := p }
  | .hidden f => .hidden { f with passthrough := p }
  | .nonce n => .nonce n
  | .submit b => .submit { b with passthrough := p }
  | .unknown => .unknown

def record? (typeName : String) : Option Record :=
  match typeName with
  | "text" => some TextInput.record
  | "email" => some TextInput.record
  | "password" => some TextInput.record
  | "number" => some TextInput.record
  | "textarea" => some TextArea.record
  | "file" => some FileInput.record
  | "select" => some Select.record
  | "checkbox" => some CheckboxGroup.record
  | "radio" => some RadioGroup.record
  | "switch" => some Switch.record
  | "hidden" => some HiddenInputs.record
  | "nonce" => some Nonce.record
  | "submit" => some SubmitButton.record
  | _ => none

def ofMembersAs (typeName : String) (ms : List (String × Json)) : Field :=
  match typeName with
  | "text" => .input .text (TextInput.ofMembers ms)
  | "email" => .input .email (TextInput.ofMembers ms)
  | "password" => .input .password (TextInput.ofMembers ms)
  | "number" => .input .number (TextInput.ofMembers ms)
  | "textarea" => .textArea (TextArea.ofMembers ms)
  | "file" => .file (FileInput.ofMembers ms)
  | "select" => .select (Select.ofMembers ms)
  | "checkbox" => .checkbox (CheckboxGroup.ofMembers ms)
  | "radio" => .radio (RadioGroup.ofMembers ms)
  | "switch" => .switch (Switch.ofMembers ms)
  | "hidden" => .hidden (HiddenInputs.ofMembers ms)
  | "nonce" => .nonce (Nonce.ofMembers ms)
  | "submit" => .submit (SubmitButton.ofMembers ms)
  | _ => .unknown

end Field

namespace Field

def controlNames : List String :=
  ["label", "name", "id", "required", "class", "before", "after", "hint", "order",
    "requiredTitle", "abbr"]

def inputNames : List String :=
  controlNames ++ ["placeholder", "value", "defaultValue", "default_value", "autocomplete",
    "visibility", "extraAttributes", "extra_attr"]

def memberNames? (typeName : String) : Option (List String) :=
  match typeName with
  | "text" => some inputNames
  | "email" => some inputNames
  | "password" => some inputNames
  | "number" => some inputNames
  | "textarea" => some (controlNames ++
      ["placeholder", "value", "autocomplete", "rows", "extraAttributes", "extra_attr"])
  | "file" => some (controlNames ++ ["accept", "multiple", "extraAttributes", "extra_attr"])
  | "select" => some (controlNames ++
      ["placeholder", "options", "defaultOption", "default_option", "selectOption",
        "select_option", "multiple", "extraAttributes", "extra_attr"])
  | "checkbox" => some ["class", "before", "after", "order", "choices"]
  | "radio" => some ["class", "before", "after", "order", "title", "name", "required",
      "requiredTitle", "abbr", "choices"]
  | "switch" => some (controlNames ++ ["checked", "extraAttributes", "extra_attr"])
  | "hidden" => some ["inputs", "name", "value", "order"]
  | "nonce" => some ["name", "value", "order"]
  | "submit" => some ["value", "class", "id", "before", "after", "order"]
  | _ => none

theorem memberNames?_record {typeName : String} {names : List String}
    (h : memberNames? typeName = some names) :
    ∃ record, record? typeName = some record ∧ record.slots.flatMap Slot.spellings = names := by
  unfold memberNames? at h
  split at h <;> cases h <;> exact ⟨_, rfl, rfl⟩

end Field

section Congruence

variable {ms ms' : List (String × Json)}

theorem Control.ofMembers_congr {record : Record} (h : record.SameGets ms ms')
    (hslots : slots ⊆ record.slots) :
    ofMembers record ms' =
      { ofMembers record ms with passthrough := record.passthrough ms' } := by
  rw [ofMembers, ofMembers, h Member.label (hslots (by simp [slots])),
    h Member.name (hslots (by simp [slots])), h Member.id (hslots (by simp [slots])),
    h Member.required (hslots (by simp [slots])), h Member.classes (hslots (by simp [slots])),
    h Member.before (hslots (by simp [slots])), h Member.after (hslots (by simp [slots])),
    h Member.hint (hslots (by simp [slots])), h Member.order (hslots (by simp [slots])),
    h Member.requiredTitle (hslots (by simp [slots]))]

theorem Group.ofMembers_congr {record : Record} (h : record.SameGets ms ms')
    (hslots : slots ⊆ record.slots) :
    ofMembers record ms' =
      { ofMembers record ms with passthrough := record.passthrough ms' } := by
  rw [ofMembers, ofMembers, h Member.classes (hslots (by simp [slots])),
    h Member.before (hslots (by simp [slots])), h Member.after (hslots (by simp [slots])),
    h Member.order (hslots (by simp [slots]))]

theorem TextInput.ofMembers_congr (h : record.SameGets ms ms') :
    ofMembers ms' = { ofMembers ms with passthrough := record.passthrough ms' } := by
  rw [ofMembers, ofMembers, Control.ofMembers_congr h (List.subset_append_left ..),
    h Member.placeholder (by simp [record]), h Member.value (by simp [record]),
    h Member.defaultValue (by simp [record]), h Member.autocomplete (by simp [record]),
    h Member.visibility (by simp [record]), h Member.givenAttributes (by simp [record])]

theorem TextArea.ofMembers_congr (h : record.SameGets ms ms') :
    ofMembers ms' = { ofMembers ms with passthrough := record.passthrough ms' } := by
  rw [ofMembers, ofMembers, Control.ofMembers_congr h (List.subset_append_left ..),
    h Member.placeholder (by simp [record]), h Member.value (by simp [record]),
    h Member.autocomplete (by simp [record]), h Member.rows (by simp [record]),
    h Member.extraAttributes (by simp [record])]

theorem FileInput.ofMembers_congr (h : record.SameGets ms ms') :
    ofMembers ms' = { ofMembers ms with passthrough := record.passthrough ms' } := by
  rw [ofMembers, ofMembers, Control.ofMembers_congr h (List.subset_append_left ..),
    h Member.accept (by simp [record]), h Member.multiple (by simp [record]),
    h Member.extraAttributes (by simp [record])]

theorem Select.ofMembers_congr (h : record.SameGets ms ms') :
    ofMembers ms' = { ofMembers ms with passthrough := record.passthrough ms' } := by
  rw [ofMembers, ofMembers, Control.ofMembers_congr h (List.subset_append_left ..),
    h Member.placeholder (by simp [record]), h Member.options (by simp [record]),
    h Member.defaultOption (by simp [record]), h Member.selectOption (by simp [record]),
    h Member.multiple (by simp [record]), h Member.extraAttributes (by simp [record])]

theorem Switch.ofMembers_congr (h : record.SameGets ms ms') :
    ofMembers ms' = { ofMembers ms with passthrough := record.passthrough ms' } := by
  rw [ofMembers, ofMembers, Control.ofMembers_congr h (List.subset_append_left ..),
    h Member.checked (by simp [record]), h Member.extraAttributes (by simp [record])]

theorem Choice.ofMembers_congr {record : Record} (h : record.SameGets ms ms')
    (hslots : Choice.record.slots ⊆ record.slots) : ofMembers ms' = ofMembers ms := by
  rw [ofMembers, ofMembers, h Member.label (hslots (by simp [Choice.record])),
    h Member.value (hslots (by simp [Choice.record])),
    h Member.checked (hslots (by simp [Choice.record])),
    h Member.id (hslots (by simp [Choice.record])),
    h Member.classes (hslots (by simp [Choice.record])),
    h Member.before (hslots (by simp [Choice.record])),
    h Member.after (hslots (by simp [Choice.record])),
    h Member.order (hslots (by simp [Choice.record])),
    h Member.extraAttributes (hslots (by simp [Choice.record]))]

theorem Checkbox.ofMembers_congr (h : record.SameGets ms ms') : ofMembers ms' = ofMembers ms := by
  rw [ofMembers, ofMembers, Choice.ofMembers_congr h (by simp [record, Choice.record]),
    h Member.name (by simp [record]), h Member.required (by simp [record]),
    h Member.requiredTitle (by simp [record])]

theorem CheckboxGroup.ofMembers_congr (h : record.SameGets ms ms') :
    ofMembers ms' = { ofMembers ms with passthrough := record.passthrough ms' } := by
  rw [ofMembers, ofMembers, Group.ofMembers_congr h (List.subset_append_left ..),
    h Member.checkboxes (by simp [record])]

theorem RadioGroup.ofMembers_congr (h : record.SameGets ms ms') :
    ofMembers ms' = { ofMembers ms with passthrough := record.passthrough ms' } := by
  rw [ofMembers, ofMembers, Group.ofMembers_congr h (List.subset_append_left ..),
    h Member.title (by simp [record]), h Member.name (by simp [record]),
    h Member.requiredUnlessUnset (by simp [record]), h Member.requiredTitle (by simp [record]),
    h Member.choices (by simp [record])]

theorem HiddenPair.ofMembers_congr (h : record.SameGets ms ms') : ofMembers ms' = ofMembers ms := by
  rw [ofMembers, ofMembers, h Member.pairName (by simp [record]),
    h Member.pairValue (by simp [record])]

theorem HiddenInputs.ofMembers_congr (h : record.SameGets ms ms') :
    ofMembers ms' = { ofMembers ms with passthrough := record.passthrough ms' } := by
  rw [ofMembers, ofMembers, h Member.pairs (by simp [record]), h Member.ownName (by simp [record]),
    h Member.ownValue (by simp [record]), h Member.order (by simp [record])]

theorem Nonce.ofMembers_congr (h : record.SameGets ms ms') : ofMembers ms' = ofMembers ms := by
  rw [ofMembers, ofMembers, h Member.name (by simp [record]), h Member.value (by simp [record]),
    h Member.order (by simp [record])]

theorem SubmitButton.ofMembers_congr (h : record.SameGets ms ms') :
    ofMembers ms' = { ofMembers ms with passthrough := record.passthrough ms' } := by
  rw [ofMembers, ofMembers, h Member.caption (by simp [record]),
    h Member.classes (by simp [record]), h Member.plainId (by simp [record]),
    h Member.before (by simp [record]), h Member.after (by simp [record]),
    h Member.order (by simp [record])]

end Congruence

namespace Field

variable {typeName : String} {record : Record}

theorem ofMembersAs_congr (hr : record? typeName = some record) {ms ms' : List (String × Json)}
    (h : record.SameGets ms ms') :
    ofMembersAs typeName ms' =
      (ofMembersAs typeName ms).withPassthrough (record.passthrough ms') := by
  unfold record? at hr
  split at hr
  all_goals cases hr
  · exact congrArg (Field.input .text) (TextInput.ofMembers_congr h)
  · exact congrArg (Field.input .email) (TextInput.ofMembers_congr h)
  · exact congrArg (Field.input .password) (TextInput.ofMembers_congr h)
  · exact congrArg (Field.input .number) (TextInput.ofMembers_congr h)
  · exact congrArg Field.textArea (TextArea.ofMembers_congr h)
  · exact congrArg Field.file (FileInput.ofMembers_congr h)
  · exact congrArg Field.select (Select.ofMembers_congr h)
  · exact congrArg Field.checkbox (CheckboxGroup.ofMembers_congr h)
  · exact congrArg Field.radio (RadioGroup.ofMembers_congr h)
  · exact congrArg Field.switch (Switch.ofMembers_congr h)
  · exact congrArg Field.hidden (HiddenInputs.ofMembers_congr h)
  · exact congrArg Field.nonce (Nonce.ofMembers_congr h)
  · exact congrArg Field.submit (SubmitButton.ofMembers_congr h)

theorem decodeAs_object (hr : record? typeName = some record) (ms : List (String × Json)) :
    decodeAs typeName (.object ms) =
      (record.openMembers (.object ms)).map (ofMembersAs typeName) := by
  have hmap : ∀ {α : Type} (record : Record) (of : List (String × Json) → α) (wrap : α → Field),
      ((record.openMembers (.object ms)).map of).map wrap =
        (record.openMembers (.object ms)).map fun ms => wrap (of ms) := by
    intro α record of wrap
    cases record.openMembers (.object ms) <;> rfl
  unfold record? at hr
  split at hr <;> cases hr <;> exact hmap _ _ _

theorem withPassthrough_ofMembersAs (hr : record? typeName = some record)
    (ms : List (String × Json)) (change : Passthrough → Passthrough) :
    (ofMembersAs typeName ms).withPassthrough (change (record.passthrough ms)) =
      (ofMembersAs typeName ms).withPassthrough (change (ofMembersAs typeName ms).passthrough) := by
  unfold record? at hr
  split at hr <;> cases hr <;> rfl

theorem record?_sound (hr : record? typeName = some record) :
    record.DistinctNames ∧ record.NeedsKnown := by
  unfold record? at hr
  split at hr <;> cases hr <;> decide

end Field

end FormMarkup
