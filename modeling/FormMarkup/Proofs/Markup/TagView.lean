import FormMarkup.Proofs.Markup.InputView
import FormMarkup.Proofs.Pairs.Lookup
import FormMarkup.Proofs.Text.Words

namespace FormMarkup.Markup

structure TagView where
  name : String
  classes : List String := []
  id : Option String := none
  target : Option String := none
  description : Option String := none
  deriving DecidableEq, Repr

def TagView.ofPairs (name : String) (as : Pairs (Option String)) : TagView where
  name := name
  classes := Text.words ((decodedAt "class" as).getD "")
  id := decodedAt "id" as
  target := decodedAt "for" as
  description := decodedAt "aria-describedby" as

def Event.tagView? : Event → Option TagView
  | .start name as => some (TagView.ofPairs name as)
  | _ => none

def tagViews (events : List Event) : List TagView :=
  events.filterMap Event.tagView?

example : (scan "<p class=\" a&amp;b  c\"><label for='d'>").map tagViews =
    some [{ name := "p", classes := ["a&b", "c"] }, { name := "label", target := some "d" }] := by
  decide

def Attribute.tagView (e : Element) (as : List Attribute) : TagView :=
  TagView.ofPairs e.name (as.map found)

def Item.tagView? : Item → Option TagView
  | .start e as => some (Attribute.tagView e as)
  | _ => none

def viewsOf (items : List Item) : List TagView :=
  items.filterMap Item.tagView?

theorem tagViews_append (events events' : List Event) :
    tagViews (events ++ events') = tagViews events ++ tagViews events' :=
  List.filterMap_append

theorem tagViews_textEvents (content : List Char) : tagViews (textEvents content) = [] := by
  cases content <;> rfl

theorem tagViews_eventsOf (pending : List Char) (items : List Item) :
    tagViews (eventsOf pending items) = viewsOf items := by
  induction items generalizing pending with
  | nil => exact tagViews_textEvents pending
  | cons i items ih =>
      cases i with
      | start e as =>
          rw [eventsOf, tagViews_append, tagViews_textEvents, List.nil_append]
          exact congrArg _ (ih [])
      | finish e =>
          rw [eventsOf, tagViews_append, tagViews_textEvents, List.nil_append]
          exact ih []
      | text content => exact ih _
      | layout blanks => exact ih _
      | raw markup => exact ih _

namespace Attribute

theorem tagView_eq (e : Element) (as : List Attribute) :
    tagView e as =
      { name := e.name
        classes := Text.words ((valueOf "class" as).getD "")
        id := valueOf "id" as
        target := valueOf "for" as
        description := valueOf "aria-describedby" as } := rfl

@[simp]
theorem valueOf_plain (name n value : String) (as : List Attribute) :
    valueOf name (.plain n value :: as) =
      if n = name then some (decoded value) else valueOf name as := by
  by_cases h : n = name <;> simp [valueOf, decodedAt, found, Pairs.find?, h]

theorem valueOf_extraAttributes_eq (name : String) (c : Constraints) (map : TextMap) :
    valueOf name (extraAttributes c map) =
      if isAttributeName name && c.allows name then (Pairs.find? name map).map decoded
      else none := by
  have hfound : (extraAttributes c map).map found =
      (map.filter fun a => isAttributeName a.1 && c.allows a.1).map fun a => (a.1, some a.2) :=
    List.map_map
  rw [valueOf, decodedAt, hfound, Pairs.find?_mapValues some,
    Pairs.find?_filter fun n => isAttributeName n && c.allows n]
  split
  · rw [Option.map_map]
    rfl
  · rfl

theorem valueOf_extraAttributes {name : String} {map : TextMap} (h : ∀ a ∈ map, a.1 ≠ name)
    (c : Constraints) : valueOf name (extraAttributes c map) = none := by
  have hkeys : name ∉ Pairs.keys map := by
    intro hmem
    obtain ⟨a, ha, hname⟩ := List.mem_map.mp hmem
    exact h a ha hname
  rw [valueOf_extraAttributes_eq, Pairs.find?_eq_none hkeys]
  exact ite_self _

end Attribute

section Views

@[simp]
theorem viewsOf_nil : viewsOf [] = [] := rfl

@[simp]
theorem viewsOf_append (xs ys : List Item) : viewsOf (xs ++ ys) = viewsOf xs ++ viewsOf ys :=
  List.filterMap_append

@[simp]
theorem viewsOf_start (e : Element) (as : List Attribute) (items : List Item) :
    viewsOf (.start e as :: items) = Attribute.tagView e as :: viewsOf items := rfl

@[simp]
theorem viewsOf_finish (e : Element) (items : List Item) :
    viewsOf (.finish e :: items) = viewsOf items := rfl

@[simp]
theorem viewsOf_text (content : String) (items : List Item) :
    viewsOf (.text content :: items) = viewsOf items := rfl

@[simp]
theorem viewsOf_layout (blanks : String) (items : List Item) :
    viewsOf (.layout blanks :: items) = viewsOf items := rfl

theorem viewsOf_flatMap {α : Type} (f : α → List Item) (xs : List α) :
    viewsOf (xs.flatMap f) = xs.flatMap fun x => viewsOf (f x) :=
  List.filterMap_flatMap

@[simp]
theorem viewsOf_line (indent : String) (e : Element) (as : List Attribute) (content : String) :
    viewsOf (line indent e as content) = [Attribute.tagView e as] := rfl

@[simp]
theorem viewsOf_block (indent : String) (e : Element) (as : List Attribute)
    (content : List Item) :
    viewsOf (block indent e as content) = Attribute.tagView e as :: viewsOf content := by
  simp [block]

end Views

end FormMarkup.Markup
