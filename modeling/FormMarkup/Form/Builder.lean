import FormMarkup.Render.Renderer

namespace FormMarkup

structure Builder where
  tag : FormTag := {}
  fields : List Field := []
  deriving Repr, Inhabited

namespace Builder

def setId (b : Builder) (id : String) : Builder :=
  { b with tag := { b.tag with id } }

def setClasses (b : Builder) (classes : String) : Builder :=
  { b with tag := { b.tag with classes } }

def setFormClasses (b : Builder) (formClasses : String) : Builder :=
  { b with tag := { b.tag with formClasses } }

def setAction (b : Builder) (action : String) : Builder :=
  { b with tag := { b.tag with action := some action } }

def setMethod (b : Builder) (method : String) : Builder :=
  { b with tag := { b.tag with method := some method } }

def addAttribute (b : Builder) (name value : String) : Builder :=
  let written := Text.trimChars b.tag.attributes.text.toList
  let item := (Markup.Attribute.escaped name value).write.toList
  { b with tag := { b.tag with
      attributes := ⟨String.ofList (Text.trimStartChars (written ++ item))⟩ } }

def addField (b : Builder) (f : Field) : Builder :=
  { b with fields := b.fields ++ [f] }

def appendHidden (pair : HiddenPair) : List Field → List Field
  | [] => [.hidden { pairs := [pair] }]
  | [.hidden f] => [.hidden { f with pairs := f.pairs ++ [pair] }]
  | f :: fs => f :: appendHidden pair fs

def addHidden (b : Builder) (name value : String) : Builder :=
  { b with fields := appendHidden ⟨name, value⟩ b.fields }

def addNonce (b : Builder) (name action : String) : Builder :=
  b.addField (.nonce { name, action })

def addSubmit (b : Builder) (label : String) : Builder :=
  b.addField (.submit { value := some label })

def build (b : Builder) (r : Renderer) : Rendered :=
  r.form b.fields b.tag

def buildDefault (b : Builder) : Rendered :=
  b.build {}

end Builder

structure InputBuilder where
  form : Builder
  type : InputType
  field : TextInput
  deriving Repr, Inhabited

def Builder.startInput (form : Builder) (type : InputType) (name : String) : InputBuilder :=
  { form, type, field := { name } }

namespace InputBuilder

def setLabel (b : InputBuilder) (label : String) : InputBuilder :=
  { b with field := { b.field with label } }

def setPlaceholder (b : InputBuilder) (placeholder : String) : InputBuilder :=
  { b with field := { b.field with placeholder } }

def setValue (b : InputBuilder) (value : String) : InputBuilder :=
  { b with field := { b.field with value } }

def setRequired (b : InputBuilder) : InputBuilder :=
  { b with field := { b.field with required := true } }

def setHint (b : InputBuilder) (hint : String) : InputBuilder :=
  { b with field := { b.field with hint } }

def setOrder (b : InputBuilder) (order : Int) : InputBuilder :=
  { b with field := { b.field with order } }

def setId (b : InputBuilder) (id : String) : InputBuilder :=
  { b with field := { b.field with id := some id } }

def setClasses (b : InputBuilder) (classes : String) : InputBuilder :=
  { b with field := { b.field with classes } }

def addAttribute (b : InputBuilder) (name value : String) : InputBuilder :=
  { b with field := { b.field with
      extraAttributes := some (Pairs.put name value (b.field.extraAttributes.getD [])) } }

def done (b : InputBuilder) : Builder :=
  b.form.addField (.input b.type b.field)

end InputBuilder

end FormMarkup
