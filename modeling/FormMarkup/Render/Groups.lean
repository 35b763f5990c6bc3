import FormMarkup.Render.Parts

namespace FormMarkup

open FormMarkup.Markup

def stripBrackets : List Char → List Char
  | '[' :: ']' :: cs => stripBrackets cs
  | c :: cs => c :: stripBrackets cs
  | [] => []

def idName (name : String) : String :=
  String.ofList (stripBrackets name.toList)

def withIds {α : Type} (own : α → Option String) (computed : Nat → α → String) :
    Nat → List α → List (String × α)
  | _, [] => []
  | k, x :: xs =>
      match own x with
      | some id => (id, x) :: withIds own computed k xs
      | none => (computed k x, x) :: withIds own computed (k + 1) xs

def Choice.ownId (c : Choice) : Option String :=
  c.id.filter (· != "")

def choiceClasses (s : Settings) (c : Choice) : String :=
  classList ["form-check", s.hook "input-wrapper", c.classes]

def Choice.wrap (s : Settings) (c : Choice) (id : String) (marker : List Item)
    (attributes : List Attribute) : List Item :=
  block "    " .div [.escaped "class" (choiceClasses s c)]
    (c.before.line "      " ++ marker ++ inputLine "      " attributes ++
      labelLine s "      " id c.label ++ c.after.line "      ")

def Checkbox.computedId (s : Settings) (k : Nat) (c : Checkbox) : String :=
  if c.name = "" then ""
  else s.ns ++ "_" ++ idName c.name ++ "_" ++ Decimal.integerText (Int.ofNat k)

def Checkbox.attributes (s : Settings) (id : String) (c : Checkbox) : List Attribute :=
  [.escaped "type" "checkbox", .escaped "class" ("form-control " ++ s.hook "checkbox")] ++
    unlessEmpty "id" id ++ unlessEmpty "name" c.name ++ unlessEmpty "value" c.value ++
    bareIf c.required "required" ++ Markup.extraAttributes .textual c.extraAttributes ++
    bareIf c.checked "checked"

def Checkbox.items (s : Settings) (id : String) (c : Checkbox) : List Item :=
  c.wrap s id (markerLine "      " c.required c.requiredTitle) (c.attributes s id)

def Group.items (s : Settings) (g : Group) (part : String) (content : List Item) : List Item :=
  g.before.line "  " ++
    block "  " .div [.escaped "class" (classList [s.hook part, g.classes])] content ++
    g.after.line "  "

def CheckboxGroup.choicesWithIds (s : Settings) (g : CheckboxGroup) : List (String × Checkbox) :=
  withIds (fun c => c.ownId) (Checkbox.computedId s) 0 g.choices

def CheckboxGroup.items (s : Settings) (g : CheckboxGroup) : List Item :=
  g.toGroup.items s "checkbox-group"
    ((g.choicesWithIds s).flatMap fun c => c.2.items s c.1)

def RadioGroup.computedId (s : Settings) (g : RadioGroup) (k : Nat) : String :=
  if idName g.name = "" then ""
  else s.ns ++ "_" ++ idName g.name ++ Decimal.integerText (Int.ofNat k)

def RadioGroup.attributes (s : Settings) (g : RadioGroup) (id : String) (c : Choice) :
    List Attribute :=
  [.escaped "type" "radio", .escaped "class" ("form-control " ++ s.hook "radio")] ++
    unlessEmpty "id" id ++ unlessEmpty "name" g.name ++ unlessEmpty "value" c.value ++
    bareIf g.required "required" ++ Markup.extraAttributes .textual c.extraAttributes ++
    bareIf c.checked "checked"

def RadioGroup.titleLine (s : Settings) (g : RadioGroup) : List Item :=
  if g.required || g.title != "" then
    [.layout "    ", .start .label [.plain "class" (s.hook "group-title")]] ++
      (if g.required then requiredMarker g.requiredTitle ++ [.layout " "] else []) ++
      [.text g.title, .finish .label, .layout "\n"]
  else []

def RadioGroup.choicesWithIds (s : Settings) (g : RadioGroup) : List (String × Choice) :=
  withIds Choice.ownId (fun k _ => g.computedId s k) 0 g.choices

def RadioGroup.items (s : Settings) (g : RadioGroup) : List Item :=
  g.toGroup.items s "radio-group"
    (g.titleLine s ++
      (g.choicesWithIds s).flatMap fun c => c.2.wrap s c.1 [] (g.attributes s c.1 c.2))

end FormMarkup
