import FormMarkup.Render.Renderer
import FormMarkup.Toml.Document

namespace FormMarkup

structure Definition where
  tag : FormTag := {}
  fields : List Field := []
  deriving Repr, Inhabited

inductive DefinitionError where
  | badJson
  | badToml
  | badTag (error : DecodeError)
  | fieldsNotList
  | neitherListNorObject
  deriving Repr

namespace DefinitionError

def message : DefinitionError → String
  | .badJson => "Invalid JSON form definition: "
  | .badToml => "Invalid TOML form definition: "
  | .badTag e => "Invalid form definition: `form` is malformed: " ++ e.message
  | .fieldsNotList => "Invalid form definition: `fields` must be a list"
  | .neitherListNorObject =>
      "Invalid form definition: expected a list of fields or an object with a `fields` list"

end DefinitionError

namespace Definition

def decodeEntries : Nat → List Json → List Field × List Warning
  | _, [] => ([], [])
  | i, v :: vs =>
      let rest := decodeEntries (i + 1) vs
      match Field.decode v with
      | .ok f => (f :: rest.1, rest.2)
      | .error _ => (.unknown :: rest.1, .malformedField i :: rest.2)

def tagOf (members : List (String × Json)) : Except DefinitionError FormTag :=
  match Pairs.find? "form" members with
  | none => .ok {}
  | some .null => .ok {}
  | some v => (FormTag.decode v).mapError .badTag

def entriesOf (members : List (String × Json)) : Except DefinitionError (List Json) :=
  match Pairs.find? "fields" members with
  | none => .ok []
  | some .null => .ok []
  | some (.list vs) => .ok vs
  | some _ => .error .fieldsNotList

def ofSorted (v : Json) : Except DefinitionError (Definition × List Warning) :=
  match v with
  | .list vs =>
      let (fields, warnings) := decodeEntries 0 vs
      .ok ({ fields }, warnings)
  | .object members =>
      match tagOf members with
      | .error e => .error e
      | .ok tag =>
          match entriesOf members with
          | .error e => .error e
          | .ok vs =>
              let (fields, warnings) := decodeEntries 0 vs
              .ok ({ tag, fields }, warnings)
  | _ => .error .neitherListNorObject

def ofJson (v : Json) : Except DefinitionError (Definition × List Warning) :=
  ofSorted v.normalise

def ofJsonText (text : String) : Except DefinitionError (Definition × List Warning) :=
  match Json.parse? text with
  | none => .error .badJson
  | some v => ofJson v

def ofTomlText (text : String) : Except DefinitionError (Definition × List Warning) :=
  match Toml.parse? text with
  | none => .error .badToml
  | some v => ofJson v.toJson

def render (d : Definition) (r : Renderer) : Rendered :=
  r.form d.fields d.tag

end Definition

end FormMarkup
