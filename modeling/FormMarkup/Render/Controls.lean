import FormMarkup.Render.Parts

namespace FormMarkup

open FormMarkup.Markup

def TextInput.constraints : InputType → Constraints
  | .number => .numeric
  | _ => .textual

def TextInput.attributes (s : Settings) (type : InputType) (f : TextInput) : List Attribute :=
  [.escaped "type" type.name, .escaped "class" ("form-control " ++ s.hook "input")] ++
    unlessEmpty "id" f.elementId ++ unlessEmpty "name" f.name ++
    unlessEmpty "value" f.effectiveValue ++ unlessEmpty "autocomplete" f.autocomplete ++
    unlessEmpty "placeholder" f.placeholder ++ f.describedBy ++
    Markup.extraAttributes (constraints type) (f.extraAttributes.getD []) ++
    f.visibility.attribute ++ bareIf f.required "required"

def TextInput.items (s : Settings) (type : InputType) (f : TextInput) : List Item :=
  f.labelled s (inputLine "    " (f.attributes s type))

def TextArea.attributes (s : Settings) (f : TextArea) : List Attribute :=
  [.escaped "class" ("form-control " ++ s.hook "textarea")] ++
    unlessEmpty "id" f.elementId ++ unlessEmpty "name" f.name ++
    unlessEmpty "placeholder" f.placeholder ++ unlessEmpty "autocomplete" f.autocomplete ++
    [.escaped "rows" (Decimal.integerText (Int.ofNat f.rows))] ++ f.describedBy ++
    bareIf f.required "required" ++ Markup.extraAttributes .textual f.extraAttributes

def TextArea.items (s : Settings) (f : TextArea) : List Item :=
  f.labelled s (line "    " .textarea (f.attributes s) f.value)

def FileInput.attributes (s : Settings) (f : FileInput) : List Attribute :=
  [.escaped "type" "file", .escaped "class" ("custom-file-input " ++ s.hook "input")] ++
    unlessEmpty "id" f.elementId ++ unlessEmpty "name" f.name ++ f.describedBy ++
    Markup.extraAttributes .textual f.extraAttributes ++ unlessEmpty "accept" f.accept ++
    bareIf f.multiple "multiple" ++ bareIf f.required "required"

def FileInput.caption (s : Settings) (f : FileInput) : List Item :=
  if f.label = "" then [] else line "    " .paragraph [.plain "class" (s.hook "label")] f.label

def FileInput.items (s : Settings) (f : FileInput) : List Item :=
  f.wrap s
    (f.caption s ++ f.marker ++
      block "    " .div [.escaped "class" "custom-file"]
        (f.before.line "      " ++ inputLine "      " (f.attributes s) ++
          line "      " .label
            (.escaped "class" "custom-file-label" :: unlessEmpty "for" f.elementId) f.label))

def Select.attributes (s : Settings) (f : Select) : List Attribute :=
  [.escaped "class" ("form-control " ++ s.hook "input")] ++
    unlessEmpty "id" f.elementId ++ unlessEmpty "name" f.name ++ f.describedBy ++
    bareIf f.multiple "multiple" ++ Markup.extraAttributes .textual f.extraAttributes ++
    bareIf f.required "required"

def Select.placeholderLine (f : Select) : List Item :=
  if f.showsPlaceholder then
    line "      " .option [.escaped "value" "", .bare "disabled", .bare "selected"] f.placeholder
  else []

def Select.selects (f : Select) (value : String) : Bool :=
  f.defaultOption != "" && f.defaultOption == value

def Select.optionLine (f : Select) (option : String × String) : List Item :=
  line "      " .option
    (.escaped "value" option.1 :: bareIf (f.selects option.1) "selected") option.2

def Select.items (s : Settings) (f : Select) : List Item :=
  f.labelled s
    (block "    " .select (f.attributes s) (f.placeholderLine ++ f.options.flatMap f.optionLine))

def Switch.inputClasses (s : Settings) (f : Switch) : String :=
  classList
    (["custom-control-input", s.hook "input", s.hook "switch"] ++
      (Text.words f.classes).map s.hook)

def Switch.attributes (s : Settings) (f : Switch) : List Attribute :=
  [.escaped "type" "checkbox", .escaped "class" (Switch.inputClasses s f)] ++
    unlessEmpty "id" f.elementId ++ unlessEmpty "name" f.name ++ f.describedBy ++
    bareIf f.required "required" ++ Markup.extraAttributes .textual f.extraAttributes ++
    bareIf f.checked "checked"

def Switch.items (s : Settings) (f : Switch) : List Item :=
  block "  " .div
    [.escaped "class"
      (classList ["custom-control custom-switch", s.hook "input-wrapper", f.toControl.classes])]
    (f.before.line "    " ++ f.marker ++ inputLine "    " (f.attributes s) ++
      line "    " .label
        (.escaped "class" "custom-control-label" :: unlessEmpty "for" f.elementId) f.label ++
      f.hintLine ++ f.after.line "    ")

def SubmitButton.items (s : Settings) (b : SubmitButton) : List Item :=
  block "  " .div [.escaped "class" "form-group"]
    (b.before.line "    " ++
      line "    " .button
        ([.escaped "class" (classList ["btn btn-primary", s.hook "btn", b.classes])] ++
          unlessEmpty "id" b.id ++ [.escaped "type" "submit"])
        (b.value.getD s.submitLabel) ++
      b.after.line "    ")

def HiddenPair.items (p : HiddenPair) : List Item :=
  inputLine "  "
    [.escaped "type" "hidden", .escaped "name" p.name, .escaped "value" p.value]

def HiddenPair.listItems (pairs : List HiddenPair) : List Item :=
  pairs.flatMap HiddenPair.items

end FormMarkup
