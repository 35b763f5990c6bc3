import FormMarkup.Decode.Scalar
import FormMarkup.Markup.Item
import FormMarkup.Warning

namespace FormMarkup.Markup

inductive Constraints where
  | numeric
  | textual
  deriving DecidableEq, Repr

namespace Constraints

def suppressed : Constraints → List String
  | .numeric => ["maxlength", "minlength"]
  | .textual => ["max", "min"]

def allows (c : Constraints) (name : String) : Bool :=
  !c.suppressed.any fun dropped => Text.sameLetters dropped name

end Constraints

def isNameChar (c : Char) : Bool :=
  !(Text.isBlank c || Text.isControl c || c = '"' || c = '\x27' || c = '=' || c = '<' || c = '>' ||
    c = '/')

def isAttributeName (name : String) : Bool :=
  name != "" && name.toList.all isNameChar

def extraAttributes (c : Constraints) (attributes : TextMap) : List Attribute :=
  (attributes.filter fun a => isAttributeName a.1 && c.allows a.1).map fun a => .extra a.1 a.2

def nameWarnings (attributes : TextMap) : List Warning :=
  (attributes.filter fun a => !isAttributeName a.1).map fun a => .invalidAttributeName a.1

end FormMarkup.Markup
