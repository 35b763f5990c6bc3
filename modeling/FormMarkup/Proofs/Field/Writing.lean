import FormMarkup.Proofs.Decode.Entry

namespace FormMarkup

namespace Written

open Entry

def label := text "label"
def name := text "name"
def id := optionalText "id"
def required := flag "required"
def classes := text "class"
def before := markup "before"
def after := markup "after"
def hint := text "hint"
def order := integer "order"
def placeholder := text "placeholder"
def value := text "value"
def autocomplete := text "autocomplete"
def multiple := flag "multiple"
def checked := flag "checked"
def visibility := markup "visibility"
def accept := text "accept"
def options := map "options"
def title := text "title"
def caption := optionalText "value"
def plainId := text "id"

def rows (unset value : Nat) : Entry :=
  integer "rows" unset value

def requiredTitle (unset value : Option String) : Entry :=
  (optionalText "requiredTitle" unset value).orAs "abbr"

def defaultValue (unset value : String) : Entry :=
  (text "defaultValue" unset value).orAs "default_value"

def defaultOption (unset value : String) : Entry :=
  (text "defaultOption" unset value).orAs "default_option"

def selectOption (unset value : String) : Entry :=
  (text "selectOption" unset value).orAs "select_option"

def extraAttributes (unset value : TextMap) : Entry :=
  (map "extraAttributes" unset value).orAs "extra_attr"

def givenAttributes (value : Option TextMap) : Entry :=
  (optionalMap "extraAttributes" value).orAs "extra_attr"

end Written

def Control.entries (unset c : Control) : List Entry :=
  [Written.label unset.label c.label, Written.name unset.name c.name, Written.id unset.id c.id,
   Written.required unset.required c.required, Written.classes unset.classes c.classes,
   Written.before unset.before c.before, Written.after unset.after c.after,
   Written.hint unset.hint c.hint, Written.order unset.order c.order,
   Written.requiredTitle unset.requiredTitle c.requiredTitle]

def TextInput.entries (f : TextInput) : List Entry :=
  let unset : TextInput := {}
  Control.entries unset.toControl f.toControl ++
    [Written.placeholder unset.placeholder f.placeholder, Written.value unset.value f.value,
     Written.defaultValue unset.defaultValue f.defaultValue,
     Written.autocomplete unset.autocomplete f.autocomplete,
     Written.visibility unset.visibility f.visibility, Written.givenAttributes f.extraAttributes]

def TextArea.entries (f : TextArea) : List Entry :=
  let unset : TextArea := {}
  Control.entries unset.toControl f.toControl ++
    [Written.placeholder unset.placeholder f.placeholder, Written.value unset.value f.value,
     Written.autocomplete unset.autocomplete f.autocomplete, Written.rows unset.rows f.rows,
     Written.extraAttributes unset.extraAttributes f.extraAttributes]

def FileInput.entries (f : FileInput) : List Entry :=
  let unset : FileInput := {}
  Control.entries unset.toControl f.toControl ++
    [Written.accept unset.accept f.accept, Written.multiple unset.multiple f.multiple,
     Written.extraAttributes unset.extraAttributes f.extraAttributes]

def Select.entries (f : Select) : List Entry :=
  let unset : Select := {}
  Control.entries unset.toControl f.toControl ++
    [Written.placeholder unset.placeholder f.placeholder, Written.options unset.options f.options,
     Written.defaultOption unset.defaultOption f.defaultOption,
     Written.selectOption unset.selectOption f.selectOption,
     Written.multiple unset.multiple f.multiple,
     Written.extraAttributes unset.extraAttributes f.extraAttributes]

def Switch.entries (f : Switch) : List Entry :=
  let unset : Switch := {}
  Control.entries unset.toControl f.toControl ++
    [Written.checked unset.checked f.checked,
     Written.extraAttributes unset.extraAttributes f.extraAttributes]

def Choice.entries (unset c : Choice) : List Entry :=
  [Written.label unset.label c.label, Written.value unset.value c.value,
   Written.checked unset.checked c.checked, Written.id unset.id c.id,
   Written.classes unset.classes c.classes, Written.before unset.before c.before,
   Written.after unset.after c.after, Written.order unset.order c.order,
   Written.extraAttributes unset.extraAttributes c.extraAttributes]

def Choice.written (keep : String → Bool) (c : Choice) : Json :=
  .object (Entry.members keep (entries {} c))

def Checkbox.entries (c : Checkbox) : List Entry :=
  let unset : Checkbox := {}
  Choice.entries unset.toChoice c.toChoice ++
    [Written.name unset.name c.name, Written.required unset.required c.required,
     Written.requiredTitle unset.requiredTitle c.requiredTitle]

def Checkbox.written (keep : String → Bool) (c : Checkbox) : Json :=
  .object (Entry.members keep c.entries)

def Group.entries (unset g : Group) : List Entry :=
  [Written.classes unset.classes g.classes, Written.before unset.before g.before,
   Written.after unset.after g.after, Written.order unset.order g.order]

def CheckboxGroup.entries (keepItem : Nat → String → Bool) (g : CheckboxGroup) : List Entry :=
  let unset : CheckboxGroup := {}
  Group.entries unset.toGroup g.toGroup ++
    [Entry.list "choices" (g.choices.mapIdx fun i c => c.written (keepItem i))]

def RadioGroup.entries (keepItem : Nat → String → Bool) (g : RadioGroup) : List Entry :=
  let unset : RadioGroup := {}
  Group.entries unset.toGroup g.toGroup ++
    [Written.title unset.title g.title, Written.name unset.name g.name,
     Written.required unset.required g.required,
     Written.requiredTitle unset.requiredTitle g.requiredTitle,
     Entry.list "choices" (g.choices.mapIdx fun i c => c.written (keepItem i))]

def HiddenPair.entries (p : HiddenPair) : List Entry :=
  [Entry.given "name" p.name, Entry.given "value" p.value]

def HiddenPair.written (keep : String → Bool) (p : HiddenPair) : Json :=
  .object (Entry.members keep p.entries)

def HiddenInputs.entries (keepItem : Nat → String → Bool) (f : HiddenInputs) : List Entry :=
  let unset : HiddenInputs := {}
  [Entry.list "inputs" (f.pairs.mapIdx fun i p => p.written (keepItem i)),
   Written.order unset.order f.order]

def Nonce.entries (n : Nonce) : List Entry :=
  [Entry.given "name" n.name, Entry.given "value" n.action, Written.order 0 n.order]

def SubmitButton.entries (b : SubmitButton) : List Entry :=
  let unset : SubmitButton := {}
  [Written.caption unset.value b.value, Written.classes unset.classes b.classes,
   Written.plainId unset.id b.id, Written.before unset.before b.before,
   Written.after unset.after b.after, Written.order unset.order b.order]

namespace Field

def entries (keepItem : Nat → String → Bool) : Field → List Entry
  | .input _ f => f.entries
  | .textArea f => f.entries
  | .file f => f.entries
  | .select f => f.entries
  | .checkbox g => g.entries keepItem
  | .radio g => g.entries keepItem
  | .switch f => f.entries
  | .hidden f => f.entries keepItem
  | .nonce n => n.entries
  | .submit b => b.entries
  | .unknown => []

def passthrough : Field → Passthrough
  | .input _ f => f.passthrough
  | .textArea f => f.passthrough
  | .file f => f.passthrough
  | .select f => f.passthrough
  | .checkbox g => g.passthrough
  | .radio g => g.passthrough
  | .switch f => f.passthrough
  | .hidden f => f.passthrough
  | .submit b => b.passthrough
  | .nonce _ | .unknown => []

/-- Of the members that hold what the type assumes, those that `keep` and, for the items at each
position, `keepItem` do not name are left out. -/
def written (keep : String → Bool) (keepItem : Nat → String → Bool) (f : Field) : Json :=
  .object (("type", .string f.typeName) ::
    (Entry.members keep (f.entries keepItem) ++ f.passthrough))

def reserved (f : Field) : List String :=
  "type" :: (f.entries fun _ _ => true).flatMap Entry.spellings ++
    match f with
    | .hidden _ => ["name", "value"]
    | _ => []

end Field

structure Passthrough.Foreign (reserved : List String) (extra : Passthrough) : Prop where
  increasing : Increasing (Pairs.keys extra)
  normal : ∀ m ∈ extra, m.2.normalise = m.2
  foreign : ∀ name ∈ Pairs.keys extra, name ∉ reserved

namespace Field

def orders : Field → List Int
  | .checkbox g => g.order :: g.choices.map fun c => c.order
  | .radio g => g.order :: g.choices.map fun c => c.order
  | f => [f.order]

def maps : Field → List TextMap
  | .input _ f => f.extraAttributes.toList
  | .textArea f => [f.extraAttributes]
  | .file f => [f.extraAttributes]
  | .select f => [f.options, f.extraAttributes]
  | .checkbox g => g.choices.map fun c => c.extraAttributes
  | .radio g => g.choices.map fun c => c.extraAttributes
  | .switch f => [f.extraAttributes]
  | .hidden _ | .nonce _ | .submit _ | .unknown => []

structure Writable (f : Field) : Prop where
  known : f ≠ .unknown
  orders : ∀ n ∈ f.orders, Decimal.isWord n = true
  rows : ∀ a, f = .textArea a → a.rows < 4294967296
  maps : ∀ map ∈ f.maps, Increasing (Pairs.keys map)
  passthrough : f.passthrough.Foreign f.reserved

end Field

end FormMarkup
