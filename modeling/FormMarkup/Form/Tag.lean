import FormMarkup.Field.Reading
import FormMarkup.Render.Parts

namespace FormMarkup

open FormMarkup.Markup
open FormMarkup.Json (Frame Reading)

structure FormTag where
  classes : String := ""
  formClasses : String := ""
  id : String := ""
  action : Option String := none
  method : Option String := none
  attributes : RawMarkup := {}
  deriving DecidableEq, Repr, Inhabited

namespace Member

def formClasses : Key String := { text "formClass" with otherName := some "form_class" }
def action : Key (Option String) := optionalText "action"
def method : Key (Option String) := optionalText "method"
def formAttributes : Key RawMarkup := markup "attr"

end Member

namespace FormTag

def record : Record where
  title := "FormTag"
  slots :=
    [Member.classes.slot, Member.formClasses.slot, Member.plainId.slot, Member.action.slot,
     Member.method.slot, Member.formAttributes.slot]
  excess := .tooLongDocument

def ofMembers (members : List (String × Json)) : FormTag where
  classes := Member.classes.get members
  formClasses := Member.formClasses.get members
  id := Member.plainId.get members
  action := Member.action.get members
  method := Member.method.get members
  attributes := Member.formAttributes.get members

def decode (v : Json) : Except DecodeError FormTag :=
  (record.members v).map ofMembers

def partError? : List Frame → Option DecodeError
  | [] => none
  | .object done key :: inner =>
      match Slot.membersFault? record.slots [] done.reverse with
      | some e => some e
      | none =>
          match key.bind (Slot.find? record.slots) with
          | none => none
          | some slot =>
              openMemberError? (done.any fun m => slot.answers m.1) slot.name .text inner
  | .list done :: inner =>
      match Slot.membersFault? record.slots [] (Slot.place record.slots done.reverse) with
      | some e => some e
      | none =>
          match inner with
          | [] => none
          | frame :: _ =>
              if done.length < record.slots.length then some (.wrongKind frame.outline .text)
              else none

/-- In a text, a list that is too long is a fault of the text. -/
def ofText (text : String) : Except ReadError FormTag :=
  match Field.ofReading decode partError?
      (Reading.ofText text fun name => (Slot.find? record.slots name).isNone) with
  | .error (.decode (.tooLongDocument _)) => .error .badSyntax
  | result => result

def containerClass (classes : String) : String :=
  match Text.words classes with
  | [] => ""
  | first :: rest => Text.joinWords ((first ++ "-container") :: rest)

def containerAttributes (s : Settings) (tag : FormTag) : List Attribute :=
  [.escaped "class" (classList [s.ns ++ "_form_container", containerClass tag.classes])]

def optionalAttribute (name : String) : Option String → List Attribute
  | none => []
  | some value => [.escaped name value]

def formAttributes (s : Settings) (tag : FormTag) : List Attribute :=
  optionalAttribute "action" tag.action ++ optionalAttribute "method" tag.method ++
    [.escaped "class" (classList [s.ns ++ "_form", tag.classes, tag.formClasses])] ++
    unlessEmpty "id" tag.id ++ tag.attributes.attribute

def opening (s : Settings) (tag : FormTag) : List Item :=
  [.start .div (tag.containerAttributes s), .layout "\n",
    .start .form (tag.formAttributes s), .layout "\n"]

def closing : List Item :=
  [.finish .form, .layout "\n", .finish .div, .layout "\n"]

end FormTag

end FormMarkup
