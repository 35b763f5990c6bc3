import FormMarkup.Decode.Scalar

namespace FormMarkup

structure RawMarkup where
  text : String := ""
  deriving DecidableEq, Repr, Inhabited

def RawMarkup.isBlank (m : RawMarkup) : Bool :=
  Text.isBlankText m.text

abbrev Passthrough := List (String × Json)

inductive InputType where
  | text
  | email
  | password
  | number
  deriving DecidableEq, Repr, Inhabited

def InputType.name : InputType → String
  | .text => "text"
  | .email => "email"
  | .password => "password"
  | .number => "number"

structure Control where
  label : String := ""
  name : String := ""
  id : Option String := none
  required : Bool := false
  classes : String := ""
  before : RawMarkup := {}
  after : RawMarkup := {}
  hint : String := ""
  order : Int := 0
  requiredTitle : Option String := none
  passthrough : Passthrough := []
  deriving Repr, Inhabited

structure TextInput extends Control where
  placeholder : String := ""
  value : String := ""
  defaultValue : String := ""
  autocomplete : String := "on"
  visibility : RawMarkup := {}
  /-- Takes the place of the usual attributes when it is given. -/
  extraAttributes : Option TextMap := none
  deriving Repr, Inhabited

def TextInput.effectiveValue (f : TextInput) : String :=
  if f.defaultValue = "" then f.value else f.defaultValue

structure TextArea extends Control where
  placeholder : String := ""
  value : String := ""
  autocomplete : String := "on"
  rows : Nat := 3
  extraAttributes : TextMap := []
  deriving Repr, Inhabited

structure FileInput extends Control where
  accept : String := ""
  multiple : Bool := false
  extraAttributes : TextMap := []
  deriving Repr, Inhabited

structure Select extends Control where
  placeholder : String := ""
  options : TextMap := []
  defaultOption : String := ""
  selectOption : String := ""
  multiple : Bool := false
  extraAttributes : TextMap := []
  deriving Repr, Inhabited

def Select.showsPlaceholder (f : Select) : Bool :=
  f.defaultOption = "" && f.selectOption = ""

structure Switch extends Control where
  checked : Bool := false
  extraAttributes : TextMap := []
  deriving Repr, Inhabited

structure Choice where
  label : String := ""
  value : String := ""
  checked : Bool := false
  id : Option String := none
  classes : String := ""
  before : RawMarkup := {}
  after : RawMarkup := {}
  order : Int := 0
  extraAttributes : TextMap := []
  deriving DecidableEq, Repr, Inhabited

structure Checkbox extends Choice where
  name : String := ""
  required : Bool := false
  requiredTitle : Option String := none
  deriving DecidableEq, Repr, Inhabited

structure Group where
  classes : String := ""
  before : RawMarkup := {}
  after : RawMarkup := {}
  order : Int := 0
  passthrough : Passthrough := []
  deriving Repr, Inhabited

structure CheckboxGroup extends Group where
  choices : List Checkbox := []
  deriving Repr, Inhabited

structure RadioGroup extends Group where
  title : String := ""
  name : String := ""
  required : Bool := true
  requiredTitle : Option String := none
  choices : List Choice := []
  deriving Repr, Inhabited

structure HiddenPair where
  name : String
  value : String
  deriving DecidableEq, Repr, Inhabited

structure HiddenInputs where
  pairs : List HiddenPair := []
  order : Int := 0
  passthrough : Passthrough := []
  deriving Repr, Inhabited

structure Nonce where
  name : String
  action : String
  order : Int := 0
  deriving DecidableEq, Repr, Inhabited

structure SubmitButton where
  value : Option String := none
  classes : String := ""
  id : String := ""
  before : RawMarkup := {}
  after : RawMarkup := {}
  order : Int := 0
  passthrough : Passthrough := []
  deriving Repr, Inhabited

inductive Field where
  | input (type : InputType) (f : TextInput)
  | textArea (f : TextArea)
  | file (f : FileInput)
  | select (f : Select)
  | checkbox (f : CheckboxGroup)
  | radio (f : RadioGroup)
  | switch (f : Switch)
  | hidden (f : HiddenInputs)
  | nonce (f : Nonce)
  | submit (f : SubmitButton)
  | unknown
  deriving Repr, Inhabited

namespace Field

def typeName : Field → String
  | .input type _ => type.name
  | .textArea _ => "textarea"
  | .file _ => "file"
  | .select _ => "select"
  | .checkbox _ => "checkbox"
  | .radio _ => "radio"
  | .switch _ => "switch"
  | .hidden _ => "hidden"
  | .nonce _ => "nonce"
  | .submit _ => "submit"
  | .unknown => "unknown"

def order : Field → Int
  | .input _ f => f.order
  | .textArea f => f.order
  | .file f => f.order
  | .select f => f.order
  | .checkbox f => f.order
  | .radio f => f.order
  | .switch f => f.order
  | .hidden f => f.order
  | .nonce f => f.order
  | .submit f => f.order
  | .unknown => 0

end Field

end FormMarkup
