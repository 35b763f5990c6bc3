import FormMarkup.Proofs.Markup.Nesting
import FormMarkup.Proofs.Pairs

namespace FormMarkup.Markup

structure InputView where
  type : Option String := none
  name : Option String := none
  value : Option String := none
  autocomplete : Option String := none
  placeholder : Option String := none
  accept : Option String := none
  multiple : Bool := false
  checked : Bool := false
  deriving DecidableEq, Repr

-- The first of several attributes of one name counts, and a bare one has the empty value.
def decodedAt (name : String) (as : Pairs (Option String)) : Option String :=
  (as.find? name).map fun value => decoded (value.getD "")

def InputView.ofPairs (as : Pairs (Option String)) : InputView where
  type := decodedAt "type" as
  name := decodedAt "name" as
  value := decodedAt "value" as
  autocomplete := decodedAt "autocomplete" as
  placeholder := decodedAt "placeholder" as
  accept := decodedAt "accept" as
  multiple := (decodedAt "multiple" as).isSome
  checked := (decodedAt "checked" as).isSome

def Event.input? : Event → Option InputView
  | .start name as => if name = "input" then some (InputView.ofPairs as) else none
  | _ => none

def inputViews (events : List Event) : List InputView :=
  events.filterMap Event.input?

example : (scan "<p><input type=\"file\" accept=\"a&amp;b\" multiple name=\"\">").map inputViews =
    some [{ type := some "file", accept := some "a&b", multiple := true, name := some "" }] := by
  decide

namespace Attribute

def valueOf (name : String) (as : List Attribute) : Option String :=
  decodedAt name (as.map found)

def view (as : List Attribute) : InputView :=
  InputView.ofPairs (as.map found)

end Attribute

def Item.start? (e : Element) : Item → Option (List Attribute)
  | .start e' as => if e' = e then some as else none
  | _ => none

def starts (e : Element) (items : List Item) : List (List Attribute) :=
  items.filterMap (Item.start? e)

theorem textEvents_inputs (content : List Char) :
    (textEvents content).filterMap Event.input? = [] := by
  cases content <;> rfl

theorem input?_start (e : Element) (as : List Attribute) :
    (Event.start e.name (as.map Attribute.found)).input? =
      ((Item.start e as).start? .input).map Attribute.view := by
  cases e <;> rfl

theorem inputViews_eventsOf (pending : List Char) (items : List Item) :
    inputViews (eventsOf pending items) = (starts .input items).map Attribute.view := by
  unfold inputViews starts
  induction items generalizing pending with
  | nil => exact textEvents_inputs pending
  | cons i items ih =>
      cases i with
      | start e as =>
          rw [eventsOf, List.filterMap_append, textEvents_inputs, List.nil_append,
            List.filterMap_cons, List.filterMap_cons, input?_start, ih]
          cases (Item.start e as).start? .input <;> rfl
      | finish e =>
          rw [eventsOf, List.filterMap_append, textEvents_inputs]
          exact ih []
      | text content => exact ih _
      | layout blanks => exact ih _
      | raw markup => exact ih _

def given (value : String) : Option String :=
  if value = "" then none else some value

namespace Attribute

theorem view_eq (as : List Attribute) :
    view as =
      { type := valueOf "type" as
        name := valueOf "name" as
        value := valueOf "value" as
        autocomplete := valueOf "autocomplete" as
        placeholder := valueOf "placeholder" as
        accept := valueOf "accept" as
        multiple := (valueOf "multiple" as).isSome
        checked := (valueOf "checked" as).isSome } := rfl

@[simp]
theorem valueOf_nil (name : String) : valueOf name [] = none := rfl

@[simp]
theorem valueOf_append (name : String) (as bs : List Attribute) :
    valueOf name (as ++ bs) = (valueOf name as).or (valueOf name bs) := by
  rw [valueOf, decodedAt, List.map_append, Pairs.find?_append, Option.map_or]
  rfl

@[simp]
theorem valueOf_escaped (name n value : String) (as : List Attribute) :
    valueOf name (.escaped n value :: as) =
      if n = name then some value else valueOf name as := by
  by_cases h : n = name
  · simp [valueOf, decodedAt, found, Pairs.find?, h, decoded_escapeValue]
  · simp [valueOf, decodedAt, found, Pairs.find?, h]

@[simp]
theorem valueOf_bare (name n : String) (as : List Attribute) :
    valueOf name (.bare n :: as) = if n = name then some "" else valueOf name as := by
  by_cases h : n = name
  · simp [valueOf, decodedAt, found, Pairs.find?, h, decoded, decodeEntities]
  · simp [valueOf, decodedAt, found, Pairs.find?, h]

@[simp]
theorem valueOf_unlessEmpty (name n value : String) :
    valueOf name (unlessEmpty n value) = if n = name then given value else none := by
  by_cases h : value = "" <;> simp [unlessEmpty, given, h]

@[simp]
theorem valueOf_bareIf (name n : String) (set : Bool) :
    valueOf name (bareIf set n) = if n = name then (if set then some "" else none) else none := by
  cases set <;> simp [bareIf]

end Attribute

end FormMarkup.Markup
