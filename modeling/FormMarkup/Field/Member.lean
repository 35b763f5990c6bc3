import FormMarkup.Decode.Record
import FormMarkup.Field.Basic

namespace FormMarkup.Member

def text (name : String) : Key String :=
  { name, fallback := "", read := Json.readText }

def optionalText (name : String) : Key (Option String) :=
  { name, fallback := none, read := Json.readOptionalText }

def markup (name : String) : Key RawMarkup :=
  { name, fallback := {}, read := fun v => v.readText.map RawMarkup.mk }

def flag (name : String) : Key Bool :=
  { name, fallback := false, read := Json.readFlag }

def label : Key String := text "label"
def name : Key String := text "name"
def id : Key (Option String) := optionalText "id"
def required : Key Bool := flag "required"
def classes : Key String := text "class"
def before : Key RawMarkup := markup "before"
def after : Key RawMarkup := markup "after"
def hint : Key String := text "hint"
def order : Key Int := { name := "order", fallback := 0, read := Json.readInteger }
def requiredTitle : Key (Option String) :=
  { optionalText "requiredTitle" with otherName := some "abbr" }
def placeholder : Key String := text "placeholder"
def value : Key String := text "value"
def autocomplete : Key String := { text "autocomplete" with fallback := "on" }
def multiple : Key Bool := flag "multiple"
def checked : Key Bool := flag "checked"

def extraAttributes : Key TextMap :=
  { name := "extraAttributes", otherName := some "extra_attr", fallback := [],
    read := Json.readAttributes }

def defaultValue : Key String :=
  { text "defaultValue" with otherName := some "default_value" }

def visibility : Key RawMarkup := markup "visibility"

def givenAttributes : Key (Option TextMap) :=
  { name := "extraAttributes", otherName := some "extra_attr", fallback := none,
    read := fun v => v.readAttributes.map some }

def rows : Key Nat := { name := "rows", fallback := 3, read := Json.readCount }

def accept : Key String := text "accept"

def options : Key TextMap := { name := "options", fallback := [], read := Json.readLabels }

def defaultOption : Key String :=
  { text "defaultOption" with otherName := some "default_option" }

def selectOption : Key String :=
  { text "selectOption" with otherName := some "select_option" }

def title : Key String := text "title"

def requiredUnlessUnset : Key Bool := { required with fallback := true }

def scalar (name : String) : Key String :=
  { name, fallback := "", read := Json.readScalar }

def optionalScalar (name : String) : Key (Option String) :=
  { name, fallback := none, read := Json.scalarText }

def pairName : Key String := scalar "name"
def pairValue : Key String := scalar "value"
def ownName : Key (Option String) := optionalScalar "name"
def ownValue : Key (Option String) := optionalScalar "value"

def caption : Key (Option String) := optionalText "value"
def plainId : Key String := text "id"

end FormMarkup.Member
