import FormMarkup.Proofs.Markup.InputView

namespace FormMarkup.Markup

structure ContentView where
  attributes : Pairs (Option String) := []
  content : String
  deriving DecidableEq, Repr

def contentBefore (element : String) : List Event → List Char
  | [] => []
  | .text content :: events => content.toList ++ contentBefore element events
  | .start _ _ :: events => contentBefore element events
  | .finish name :: events => if name = element then [] else contentBefore element events

def contents (element : String) : List Event → List ContentView
  | [] => []
  | .start name as :: events =>
      if name = element then
        { attributes := as
          content := decoded (String.ofList (contentBefore element events)) } ::
          contents element events
      else contents element events
  | .text _ :: events => contents element events
  | .finish _ :: events => contents element events

example : (scan "<p>a &lt; <b>b</b></p>c<p></p>").map (contents "p") =
    some [{ content := "a < b" }, { content := "" }] := by
  decide

def contentIn (e : Element) : List Item → List Char
  | [] => []
  | .text content :: items => escapeTextChars content.toList ++ contentIn e items
  | .layout blanks :: items => blanks.toList ++ contentIn e items
  | .raw markup :: items => markup.toList ++ contentIn e items
  | .start _ _ :: items => contentIn e items
  | .finish e' :: items => if e' = e then [] else contentIn e items

def contentsOf (e : Element) : List Item → List ContentView
  | [] => []
  | .start e' as :: items =>
      if e' = e then
        { attributes := as.map Attribute.found
          content := decoded (String.ofList (contentIn e items)) } :: contentsOf e items
      else contentsOf e items
  | .finish _ :: items => contentsOf e items
  | .text _ :: items => contentsOf e items
  | .layout _ :: items => contentsOf e items
  | .raw _ :: items => contentsOf e items

theorem Element.name_inj {e e' : Element} : e.name = e'.name ↔ e = e' := by
  cases e <;> cases e' <;> decide

theorem contentBefore_textEvents (element : String) (content : List Char) (events : List Event) :
    contentBefore element (textEvents content ++ events) =
      content ++ contentBefore element events := by
  cases content <;> simp [textEvents, contentBefore]

theorem contentBefore_eventsOf (e : Element) (pending : List Char) (items : List Item) :
    contentBefore e.name (eventsOf pending items) = pending ++ contentIn e items := by
  induction items generalizing pending with
  | nil =>
      simpa [eventsOf, contentIn, contentBefore] using
        contentBefore_textEvents e.name pending []
  | cons i items ih =>
      cases i with
      | start e' as =>
          rw [eventsOf, contentBefore_textEvents, contentBefore, ih]
          rfl
      | finish e' =>
          rw [eventsOf, contentBefore_textEvents, contentBefore, contentIn, ih]
          simp only [Element.name_inj, List.nil_append]
      | text content =>
          rw [eventsOf, ih, contentIn, List.append_assoc]
      | layout blanks =>
          rw [eventsOf, ih, contentIn, List.append_assoc]
      | raw markup =>
          rw [eventsOf, ih, contentIn, List.append_assoc]

theorem contents_textEvents (element : String) (content : List Char) (events : List Event) :
    contents element (textEvents content ++ events) = contents element events := by
  cases content <;> rfl

theorem contents_eventsOf (e : Element) (pending : List Char) (items : List Item) :
    contents e.name (eventsOf pending items) = contentsOf e items := by
  induction items generalizing pending with
  | nil =>
      simpa [eventsOf, contents, contentsOf] using contents_textEvents e.name pending []
  | cons i items ih =>
      cases i with
      | start e' as =>
          rw [eventsOf, contents_textEvents, contents, contentsOf, contentBefore_eventsOf, ih]
          simp only [Element.name_inj, List.nil_append]
      | finish e' =>
          rw [eventsOf, contents_textEvents]
          exact ih []
      | text content => exact ih _
      | layout blanks => exact ih _
      | raw markup => exact ih _

def Contains (e : Element) (items : List Item) (views : List ContentView) : Prop :=
  ∀ rest, contentsOf e (items ++ rest) = views ++ contentsOf e rest

namespace Contains

variable {e : Element}

theorem eq {items : List Item} {views : List ContentView} (h : Contains e items views) :
    contentsOf e items = views := by
  simpa [contentsOf] using h []

theorem none {items : List Item} (h : starts e items = []) : Contains e items [] := by
  intro rest
  induction items with
  | nil => rfl
  | cons i items ih =>
      cases i with
      | start e' as =>
          by_cases he : e' = e
          · simp [starts, Item.start?, he] at h
          · rw [List.cons_append, contentsOf, if_neg he]
            exact ih (by simpa [starts, Item.start?, he] using h)
      | finish e' => exact ih h
      | text content => exact ih h
      | layout blanks => exact ih h
      | raw markup => exact ih h

theorem append {xs ys : List Item} {vs ws : List ContentView} (hx : Contains e xs vs)
    (hy : Contains e ys ws) : Contains e (xs ++ ys) (vs ++ ws) := by
  intro rest
  rw [List.append_assoc, hx, hy, List.append_assoc]

theorem flatMap {α : Type} {f : α → List Item} {g : α → ContentView} {xs : List α}
    (h : ∀ x ∈ xs, Contains e (f x) [g x]) : Contains e (xs.flatMap f) (xs.map g) := by
  induction xs with
  | nil => exact none rfl
  | cons x xs ih =>
      rw [List.flatMap_cons, List.map_cons]
      exact (h x (List.mem_cons_self ..)).append (ih fun y hy => h y (List.mem_cons_of_mem _ hy))

theorem line (indent : String) (as : List Attribute) (content : String) :
    Contains e (Markup.line indent e as content)
      [{ attributes := as.map Attribute.found, content := content }] := by
  intro rest
  have hcontent : decoded (String.ofList (escapeTextChars content.toList)) = content :=
    decoded_escapeText content
  simp [Markup.line, contentsOf, contentIn, hcontent]

theorem block (indent : String) {e' : Element} (he : e' ≠ e) (as : List Attribute)
    {content : List Item} {views : List ContentView} (h : Contains e content views) :
    Contains e (Markup.block indent e' as content) views := by
  intro rest
  simp [Markup.block, contentsOf, he, h _]

end Contains

end FormMarkup.Markup
