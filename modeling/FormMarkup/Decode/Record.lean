import FormMarkup.Decode.Scalar
import FormMarkup.Json.Reader

namespace FormMarkup

structure Key (α : Type) where
  name : String
  otherName : Option String := none
  fallback : α
  read : Json → Except DecodeError α

structure Slot where
  name : String
  otherName : Option String
  fault? : Json → Option DecodeError

structure Record where
  title : String
  slots : List Slot
  needed : List String := []
  excess : Nat → DecodeError := fun length => .tooLong length slots.length

namespace Slot

def answers (slot : Slot) (name : String) : Bool :=
  slot.name = name || slot.otherName = some name

def find? (slots : List Slot) (name : String) : Option Slot :=
  slots.find? (·.answers name)

def membersFault? (slots : List Slot) (seen : List String) :
    List (String × Json) → Option DecodeError
  | [] => none
  | (name, v) :: rest =>
      match find? slots name with
      | none => membersFault? slots seen rest
      | some slot =>
          if slot.name ∈ seen then some (.duplicateMember slot.name)
          else match slot.fault? v with
            | some e => some e
            | none => membersFault? slots (slot.name :: seen) rest

def unknownMembers (slots : List Slot) (members : List (String × Json)) : List (String × Json) :=
  members.filter fun m => (find? slots m.1).isNone

def place (slots : List Slot) (items : List Json) : List (String × Json) :=
  (slots.map (·.name)).zip items

end Slot

namespace Key

variable {α : Type}

def slot (key : Key α) : Slot where
  name := key.name
  otherName := key.otherName
  fault? := fun v => match key.read v with
    | .ok _ => none
    | .error e => some e

def find? (key : Key α) : List (String × Json) → Option Json
  | [] => none
  | (name, v) :: rest => if key.slot.answers name then some v else find? key rest

def get (key : Key α) (members : List (String × Json)) : α :=
  match key.find? members with
  | none => key.fallback
  | some v =>
      match key.read v with
      | .ok a => a
      | .error _ => key.fallback

end Key

namespace Record

def missing? (record : Record) (members : List (String × Json)) : Option String :=
  record.needed.find? fun name => !members.any fun m => m.1 = name

def membersError? (record : Record) (members : List (String × Json)) : Option DecodeError :=
  match Slot.membersFault? record.slots [] members with
  | some e => some e
  | none => (record.missing? members).map .missingMember

def itemsError? (record : Record) (items : List Json) : Option DecodeError :=
  match Slot.membersFault? record.slots [] (Slot.place record.slots items) with
  | some e => some e
  | none =>
      if items.length < record.needed.length then
        some (.tooShort items.length record.title record.slots.length)
      else if record.slots.length < items.length then some (record.excess items.length)
      else none

def members (record : Record) : Json → Except DecodeError (List (String × Json))
  | .object members =>
      match record.membersError? members with
      | some e => .error e
      | none => .ok members
  | .list items =>
      match record.itemsError? items with
      | some e => .error e
      | none => .ok (Slot.place record.slots items)
  | v => .error (.wrongKind v (.record record.title))

def openMembers (record : Record) : Json → Except DecodeError (List (String × Json))
  | .object members =>
      match record.membersError? members with
      | some e => .error e
      | none => .ok members
  | v => .error (.wrongKind v (.record record.title))

def passthrough (record : Record) (members : List (String × Json)) : List (String × Json) :=
  Pairs.sorted (Json.normaliseMembers (Slot.unknownMembers record.slots members))

end Record

namespace Json.Frame

def outline : Frame → Json
  | .list _ => .list []
  | .object _ _ => .object []

end Json.Frame

end FormMarkup
