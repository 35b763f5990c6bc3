import FormMarkup.Field.Member

namespace FormMarkup

def Control.ofMembers (record : Record) (members : List (String × Json)) : Control where
  label := Member.label.get members
  name := Member.name.get members
  id := Member.id.get members
  required := Member.required.get members
  classes := Member.classes.get members
  before := Member.before.get members
  after := Member.after.get members
  hint := Member.hint.get members
  order := Member.order.get members
  requiredTitle := Member.requiredTitle.get members
  passthrough := record.passthrough members

def Control.slots : List Slot :=
  [Member.label.slot, Member.name.slot, Member.id.slot, Member.required.slot, Member.classes.slot,
   Member.before.slot, Member.after.slot, Member.hint.slot, Member.order.slot,
   Member.requiredTitle.slot]

namespace TextInput

def record : Record where
  title := "InputField"
  slots := Control.slots ++
    [Member.placeholder.slot, Member.value.slot, Member.defaultValue.slot,
     Member.autocomplete.slot, Member.visibility.slot, Member.givenAttributes.slot]

def ofMembers (members : List (String × Json)) : TextInput where
  toControl := Control.ofMembers record members
  placeholder := Member.placeholder.get members
  value := Member.value.get members
  defaultValue := Member.defaultValue.get members
  autocomplete := Member.autocomplete.get members
  visibility := Member.visibility.get members
  extraAttributes := Member.givenAttributes.get members

def decode (v : Json) : Except DecodeError TextInput :=
  (record.openMembers v).map ofMembers

end TextInput

namespace TextArea

def record : Record where
  title := "TextareaField"
  slots := Control.slots ++
    [Member.placeholder.slot, Member.value.slot, Member.autocomplete.slot, Member.rows.slot,
     Member.extraAttributes.slot]

def ofMembers (members : List (String × Json)) : TextArea where
  toControl := Control.ofMembers record members
  placeholder := Member.placeholder.get members
  value := Member.value.get members
  autocomplete := Member.autocomplete.get members
  rows := Member.rows.get members
  extraAttributes := Member.extraAttributes.get members

def decode (v : Json) : Except DecodeError TextArea :=
  (record.openMembers v).map ofMembers

end TextArea

namespace FileInput

def record : Record where
  title := "FileField"
  slots := Control.slots ++
    [Member.accept.slot, Member.multiple.slot, Member.extraAttributes.slot]

def ofMembers (members : List (String × Json)) : FileInput where
  toControl := Control.ofMembers record members
  accept := Member.accept.get members
  multiple := Member.multiple.get members
  extraAttributes := Member.extraAttributes.get members

def decode (v : Json) : Except DecodeError FileInput :=
  (record.openMembers v).map ofMembers

end FileInput

namespace Select

def record : Record where
  title := "SelectField"
  slots := Control.slots ++
    [Member.placeholder.slot, Member.options.slot, Member.defaultOption.slot,
     Member.selectOption.slot, Member.multiple.slot, Member.extraAttributes.slot]

def ofMembers (members : List (String × Json)) : Select where
  toControl := Control.ofMembers record members
  placeholder := Member.placeholder.get members
  options := Member.options.get members
  defaultOption := Member.defaultOption.get members
  selectOption := Member.selectOption.get members
  multiple := Member.multiple.get members
  extraAttributes := Member.extraAttributes.get members

def decode (v : Json) : Except DecodeError Select :=
  (record.openMembers v).map ofMembers

end Select

namespace Switch

def record : Record where
  title := "SwitchField"
  slots := Control.slots ++ [Member.checked.slot, Member.extraAttributes.slot]

def ofMembers (members : List (String × Json)) : Switch where
  toControl := Control.ofMembers record members
  checked := Member.checked.get members
  extraAttributes := Member.extraAttributes.get members

def decode (v : Json) : Except DecodeError Switch :=
  (record.openMembers v).map ofMembers

end Switch

namespace Choice

def ofMembers (members : List (String × Json)) : Choice where
  label := Member.label.get members
  value := Member.value.get members
  checked := Member.checked.get members
  id := Member.id.get members
  classes := Member.classes.get members
  before := Member.before.get members
  after := Member.after.get members
  order := Member.order.get members
  extraAttributes := Member.extraAttributes.get members

def record : Record where
  title := "RadioChoice"
  slots :=
    [Member.label.slot, Member.value.slot, Member.checked.slot, Member.id.slot,
     Member.classes.slot, Member.before.slot, Member.after.slot, Member.order.slot,
     Member.extraAttributes.slot]

def decode (v : Json) : Except DecodeError Choice :=
  (record.members v).map ofMembers

end Choice

namespace Checkbox

def record : Record where
  title := "CheckboxChoice"
  slots :=
    [Member.label.slot, Member.name.slot, Member.value.slot, Member.checked.slot,
     Member.id.slot, Member.required.slot, Member.classes.slot, Member.before.slot,
     Member.after.slot, Member.order.slot, Member.requiredTitle.slot,
     Member.extraAttributes.slot]

def ofMembers (members : List (String × Json)) : Checkbox where
  toChoice := Choice.ofMembers members
  name := Member.name.get members
  required := Member.required.get members
  requiredTitle := Member.requiredTitle.get members

def decode (v : Json) : Except DecodeError Checkbox :=
  (record.members v).map ofMembers

end Checkbox

def Group.ofMembers (record : Record) (members : List (String × Json)) : Group where
  classes := Member.classes.get members
  before := Member.before.get members
  after := Member.after.get members
  order := Member.order.get members
  passthrough := record.passthrough members

def Group.slots : List Slot :=
  [Member.classes.slot, Member.before.slot, Member.after.slot, Member.order.slot]

namespace Member

def checkboxes : Key (List Checkbox) :=
  { name := "choices", fallback := [], read := Json.readList Checkbox.decode }

def choices : Key (List Choice) :=
  { name := "choices", fallback := [], read := Json.readList Choice.decode }

end Member

namespace CheckboxGroup

def record : Record where
  title := "CheckboxGroup"
  slots := Group.slots ++ [Member.checkboxes.slot]

def ofMembers (members : List (String × Json)) : CheckboxGroup where
  toGroup := Group.ofMembers record members
  choices := Member.checkboxes.get members

def decode (v : Json) : Except DecodeError CheckboxGroup :=
  (record.openMembers v).map ofMembers

end CheckboxGroup

namespace RadioGroup

def record : Record where
  title := "RadioGroup"
  slots := Group.slots ++
    [Member.title.slot, Member.name.slot, Member.requiredUnlessUnset.slot,
     Member.requiredTitle.slot, Member.choices.slot]

def ofMembers (members : List (String × Json)) : RadioGroup where
  toGroup := Group.ofMembers record members
  title := Member.title.get members
  name := Member.name.get members
  required := Member.requiredUnlessUnset.get members
  requiredTitle := Member.requiredTitle.get members
  choices := Member.choices.get members

def decode (v : Json) : Except DecodeError RadioGroup :=
  (record.openMembers v).map ofMembers

end RadioGroup

namespace HiddenPair

def record : Record where
  title := "HiddenInput"
  slots := [Member.pairName.slot, Member.pairValue.slot]
  needed := ["name", "value"]

def ofMembers (members : List (String × Json)) : HiddenPair :=
  ⟨Member.pairName.get members, Member.pairValue.get members⟩

def decode (v : Json) : Except DecodeError HiddenPair :=
  (record.members v).map ofMembers

end HiddenPair

def Member.pairs : Key (List HiddenPair) :=
  { name := "inputs", fallback := [], read := Json.readList HiddenPair.decode }

namespace HiddenInputs

def record : Record where
  title := "HiddenFieldsRepr"
  slots :=
    [Member.pairs.slot, Member.ownName.slot, Member.ownValue.slot, Member.order.slot]

def firstPair (name value : Option String) : List HiddenPair :=
  match name with
  | none => []
  | some n => if n = "" then [] else [⟨n, value.getD ""⟩]

def ofMembers (members : List (String × Json)) : HiddenInputs where
  pairs :=
    firstPair (Member.ownName.get members) (Member.ownValue.get members) ++
      Member.pairs.get members
  order := Member.order.get members
  passthrough := record.passthrough members

def decode (v : Json) : Except DecodeError HiddenInputs :=
  (record.openMembers v).map ofMembers

end HiddenInputs

namespace Nonce

def record : Record where
  title := "NonceField"
  slots := [Member.name.slot, Member.value.slot, Member.order.slot]
  needed := ["name", "value"]

def ofMembers (members : List (String × Json)) : Nonce where
  name := Member.name.get members
  action := Member.value.get members
  order := Member.order.get members

def decode (v : Json) : Except DecodeError Nonce :=
  (record.members v).map ofMembers

end Nonce

namespace SubmitButton

def record : Record where
  title := "SubmitButton"
  slots :=
    [Member.caption.slot, Member.classes.slot, Member.plainId.slot, Member.before.slot,
     Member.after.slot, Member.order.slot]

def ofMembers (members : List (String × Json)) : SubmitButton where
  value := Member.caption.get members
  classes := Member.classes.get members
  id := Member.plainId.get members
  before := Member.before.get members
  after := Member.after.get members
  order := Member.order.get members
  passthrough := record.passthrough members

def decode (v : Json) : Except DecodeError SubmitButton :=
  (record.openMembers v).map ofMembers

end SubmitButton

namespace Field

def decodeUnknown : Json → Except DecodeError Field
  | .list (v :: vs) => .error (.tooLong (v :: vs).length 0)
  | _ => .ok .unknown

def decodeAs (typeName : String) (v : Json) : Except DecodeError Field :=
  match typeName with
  | "text" => (TextInput.decode v).map (.input .text)
  | "email" => (TextInput.decode v).map (.input .email)
  | "password" => (TextInput.decode v).map (.input .password)
  | "number" => (TextInput.decode v).map (.input .number)
  | "textarea" => (TextArea.decode v).map .textArea
  | "file" => (FileInput.decode v).map .file
  | "select" => (Select.decode v).map .select
  | "checkbox" => (CheckboxGroup.decode v).map .checkbox
  | "radio" => (RadioGroup.decode v).map .radio
  | "switch" => (Switch.decode v).map .switch
  | "hidden" => (HiddenInputs.decode v).map .hidden
  | "nonce" => (Nonce.decode v).map .nonce
  | "submit" => (SubmitButton.decode v).map .submit
  | _ => decodeUnknown v

def isType (m : String × Json) : Bool :=
  m.1 = "type"

def readTypeName : Json → Except DecodeError String
  | .string s => .ok s
  | v => .error (.wrongKind v .typeName)

def typeOfMembers (members : List (String × Json)) : Except DecodeError String :=
  match members.filter isType with
  | [] => .error (.missingMember "type")
  | [m] => readTypeName m.2
  | m :: _ => (readTypeName m.2).bind fun _ => .error (.duplicateMember "type")

def decode : Json → Except DecodeError Field
  | .object members =>
      (typeOfMembers members).bind fun typeName =>
        decodeAs typeName (.object (members.filter fun m => !isType m))
  | .list [] => .error (.missingMember "type")
  | .list (v :: vs) => (readTypeName v).bind fun typeName => decodeAs typeName (.list vs)
  | v => .error (.wrongKind v .descriptor)

end Field

end FormMarkup
