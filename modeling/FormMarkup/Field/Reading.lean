import FormMarkup.Field.Decode

namespace FormMarkup

open FormMarkup.Json (Frame Reading)

/-- An error that is certain before the fault of the text comes first, here the one of a member
that waits for its value. -/
def openMemberError? (taken : Bool) (name : String) (wanted : Wanted) :
    List Frame → Option DecodeError
  | [] => if taken then some (.duplicateMember name) else none
  | inner :: _ =>
      if taken then some (.duplicateMember name) else some (.wrongKind inner.outline wanted)

namespace Field

def typeError? (members : List (String × Json)) : Option DecodeError :=
  match typeOfMembers members with
  | .error (.missingMember _) => none
  | .error e => some e
  | .ok _ => none

def partError? : List Frame → Option DecodeError
  | [] => none
  | .object done key :: inner =>
      match typeError? done.reverse with
      | some e => some e
      | none =>
          if key = some "type" then
            openMemberError? (done.any isType) "type" .typeName inner
          else none
  | .list done :: inner =>
      match done.reverse with
      | v :: _ =>
          match readTypeName v with
          | .error e => some e
          | .ok _ => none
      | [] =>
          match inner with
          | [] => none
          | frame :: _ => some (.wrongKind frame.outline .typeName)

def ofReading {α : Type} (decode : Json → Except DecodeError α)
    (part : List Frame → Option DecodeError) : Reading → Except ReadError α
  | .whole v => (decode v).mapError .decode
  | .trailing v =>
      match decode v with
      | .error e => .error (.decode e)
      | .ok _ => .error .badSyntax
  | .broken opened =>
      match part opened.reverse with
      | some e => .error (.decode e)
      | none => .error .badSyntax

def ofText (text : String) : Except ReadError Field :=
  ofReading decode partError? (Reading.ofText text)

def decodeList (v : Json) : Except DecodeError (List Field) :=
  v.readList decode

def listPartError? : List Frame → Option DecodeError
  | [] => none
  | .object _ _ :: _ => some (.wrongKind (.object []) .sequence)
  | .list done :: inner =>
      match Json.readEach decode done.reverse with
      | .error e => some e
      | .ok _ => partError? inner

def listOfText (text : String) : Except ReadError (List Field) :=
  ofReading decodeList listPartError? (Reading.ofText text)

end Field

end FormMarkup
