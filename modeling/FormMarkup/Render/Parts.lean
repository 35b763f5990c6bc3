import FormMarkup.Field.Basic
import FormMarkup.Markup.Extra
import FormMarkup.Settings.Basic

namespace FormMarkup

open FormMarkup.Markup

def classList (parts : List String) : String :=
  Text.joinWords (parts.flatMap Text.words)

def RawMarkup.line (indent : String) (m : RawMarkup) : List Item :=
  if m.isBlank then [] else [.layout indent, .raw (Text.trim m.text), .layout "\n"]

def RawMarkup.attribute (m : RawMarkup) : List Attribute :=
  if m.isBlank then [] else [.raw (Text.trim m.text)]

def requiredMarker (title : Option String) : List Item :=
  [.start .abbr [.escaped "class" "required", .escaped "title" (title.getD "")], .text "*",
    .finish .abbr]

def markerLine (indent : String) (required : Bool) (title : Option String) : List Item :=
  if required then [.layout indent] ++ requiredMarker title ++ [.layout "\n"] else []

def labelLine (s : Settings) (indent id label : String) : List Item :=
  if label = "" then []
  else line indent .label (unlessEmpty "for" id ++ [.escaped "class" (s.hook "label")]) label

def inputLine (indent : String) (attributes : List Attribute) : List Item :=
  [.layout indent, .start .input attributes, .layout "\n"]

namespace Control

def elementId (c : Control) : String :=
  c.id.getD ""

def hintId (c : Control) : String :=
  c.elementId ++ "_help"

def describedBy (c : Control) : List Attribute :=
  if c.hint = "" || c.elementId = "" then [] else [.escaped "aria-describedby" c.hintId]

def hintLine (c : Control) : List Item :=
  if c.hint = "" then []
  else
    line "    " .small
      ((if c.elementId = "" then [] else [.escaped "id" c.hintId]) ++
        [.escaped "class" "form-text text-muted"]) c.hint

def marker (c : Control) : List Item :=
  markerLine "    " c.required c.requiredTitle

def wrap (s : Settings) (c : Control) (content : List Item) : List Item :=
  block "  " .div [.escaped "class" (classList ["form-group", s.hook "input-wrapper", c.classes])]
    (content ++ c.hintLine ++ c.after.line "    ")

def labelled (s : Settings) (c : Control) (control : List Item) : List Item :=
  c.wrap s
    (c.before.line "    " ++ labelLine s "    " c.elementId c.label ++ c.marker ++ control)

end Control

end FormMarkup
