import FormMarkup.Settings.Basic
import FormMarkup.Settings.Variable

namespace FormMarkup.Settings

inductive Kind where
  | text
  | settings
  deriving DecidableEq, Repr

def Kind.message : Kind → String
  | .text => "a string"
  | .settings => "struct FormConfig"

inductive LoadError where
  | badFile
  | wrongKind (path : List String) (found : Value) (wanted : Kind)
  deriving Repr

namespace LoadError

def message? : LoadError → Option String
  | .badFile => none
  | .wrongKind _ found wanted =>
      some ("invalid type: found " ++ found.kindMessage ++ ", expected " ++ wanted.message)

def key? : LoadError → Option String
  | .badFile => none
  | .wrongKind path _ _ => some (String.ofList (List.intercalate ['.'] (path.map String.toList)))

end LoadError

def names : List String := ["namespace", "required_title", "submit_label", "text_max_length"]

def sectionName : String := "forms"

def layer (s : Settings) : Value :=
  .table [(sectionName, .table
    [("namespace", .text s.ns), ("required_title", .text s.requiredTitle),
     ("submit_label", .text s.submitLabel), ("text_max_length", .text s.textMaxLength)])]

def readText (path : List String) : Option Value → String → Except LoadError String
  | none, fallback => .ok fallback
  | some (.text s), _ => .ok s
  | some v, _ => .error (.wrongKind path v .text)

def ofValues (path : Nat → String → List String) (value : Nat → String → Option Value) :
    Except LoadError Settings :=
  let usual : Settings := {}
  let read (i : Nat) (name fallback : String) := readText (path i name) (value i name) fallback
  do
    let ns ← read 0 "namespace" usual.ns
    let requiredTitle ← read 1 "required_title" usual.requiredTitle
    let submitLabel ← read 2 "submit_label" usual.submitLabel
    let textMaxLength ← read 3 "text_max_length" usual.textMaxLength
    return { ns, requiredTitle, submitLabel, textMaxLength }

def ofSection : Value → Except LoadError Settings
  | .table entries =>
      ofValues (fun _ name => [sectionName, name]) fun _ name => Pairs.find? name entries
  | .list items =>
      ofValues (fun i _ => [sectionName, Decimal.integerText (Int.ofNat i)]) fun i _ => items[i]?
  | v => .error (.wrongKind [sectionName] v .settings)

def ofLayer : Value → Except LoadError Settings
  | .table entries =>
      match Pairs.find? sectionName entries with
      | none => .ok {}
      | some v => ofSection v
  | _ => .ok {}

def fileLayers : List (Option String) → Option (List Value)
  | [] => some []
  | none :: files => fileLayers files
  | some text :: files =>
      match Value.ofFile? text, fileLayers files with
      | some v, some layers => some (v :: layers)
      | _, _ => none

def load (files : List (Option String)) (environment : Pairs String) : Except LoadError Settings :=
  match fileLayers files with
  | none => .error .badFile
  | some layers =>
      ofLayer ((layers.foldl Value.merge (layer {})).merge
        (ofVariables (Pairs.distinct environment) (.table [])))

end FormMarkup.Settings
