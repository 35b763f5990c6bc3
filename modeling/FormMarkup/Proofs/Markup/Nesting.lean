import FormMarkup.Proofs.Markup.Tame

namespace FormMarkup.Markup

def formTags : List String :=
  ["div", "form", "label", "abbr", "input", "select", "option", "textarea", "small", "p", "button"]

def isVoidTag (name : String) : Bool :=
  name = "input"

def wellNested : List String → List Event → Bool
  | opened, [] => opened.isEmpty
  | opened, .text _ :: events => wellNested opened events
  | opened, .start name _ :: events =>
      if isVoidTag name then wellNested opened events else wellNested (name :: opened) events
  | [], .finish _ :: _ => false
  | name :: opened, .finish name' :: events => name = name' && wellNested opened events

def Event.tag? : Event → Option String
  | .text _ => none
  | .start name _ => some name
  | .finish name => some name

def Event.text? : Event → Option String
  | .text content => some content
  | _ => none

example : wellNested [] [.start "p" [], .start "input" [], .finish "p"] = true := by decide

example : wellNested [] [.start "p" [], .start "b" [], .finish "p", .finish "b"] = false := by
  decide

def Element.isVoid : Element → Bool
  | .input => true
  | _ => false

def nest : List Element → List Item → Option (List Element)
  | opened, [] => some opened
  | opened, .start e _ :: items =>
      if e.isVoid then nest opened items else nest (e :: opened) items
  | [], .finish _ :: _ => none
  | e :: opened, .finish e' :: items => if e = e' then nest opened items else none
  | opened, .text _ :: items => nest opened items
  | opened, .layout _ :: items => nest opened items
  | opened, .raw _ :: items => nest opened items

theorem nest_append (opened : List Element) (xs ys : List Item) :
    nest opened (xs ++ ys) = (nest opened xs).bind fun now => nest now ys := by
  induction xs generalizing opened with
  | nil => rfl
  | cons x xs ih =>
      cases x with
      | start e as => simp only [List.cons_append, nest]; split <;> exact ih _
      | finish e =>
          cases opened with
          | nil => rfl
          | cons e' opened =>
              simp only [List.cons_append, nest]
              split
              · exact ih _
              · rfl
      | text content => exact ih opened
      | layout blanks => exact ih opened
      | raw markup => exact ih opened

theorem isVoidTag_element (e : Element) : isVoidTag e.name = e.isVoid := by
  cases e <;> rfl

theorem element_mem_formTags (e : Element) : e.name ∈ formTags := by
  cases e <;> decide

theorem wellNested_textEvents (opened : List String) (content : List Char)
    (events : List Event) :
    wellNested opened (textEvents content ++ events) = wellNested opened events := by
  cases content <;> rfl

-- The pending text never touches the open elements, so it is free in the induction.
theorem wellNested_eventsOf {items : List Item} {opened : List Element}
    (h : nest opened items = some []) (pending : List Char) :
    wellNested (opened.map Element.name) (eventsOf pending items) = true := by
  induction items generalizing opened pending with
  | nil =>
      obtain rfl : opened = [] := by simpa [nest] using h
      rw [eventsOf, ← List.append_nil (textEvents pending), wellNested_textEvents]
      rfl
  | cons i items ih =>
      cases i with
      | start e as =>
          rw [eventsOf, wellNested_textEvents, wellNested, isVoidTag_element]
          rw [nest] at h
          cases he : e.isVoid with
          | true => exact ih (by simpa [he] using h) []
          | false => exact ih (by simpa [he] using h) []
      | finish e =>
          rw [eventsOf, wellNested_textEvents]
          cases opened with
          | nil => cases h
          | cons e' opened =>
              by_cases he : e' = e
              · rw [nest, if_pos he] at h
                simpa [wellNested, he] using ih h []
              · rw [nest, if_neg he] at h
                cases h
      | text content => exact ih h _
      | layout blanks => exact ih h _
      | raw markup => exact ih h _

theorem textEvents_tags (content : List Char) : (textEvents content).filterMap Event.tag? = [] := by
  cases content <;> rfl

theorem tags_eventsOf {items : List Item} {pending : List Char} {name : String}
    (h : name ∈ (eventsOf pending items).filterMap Event.tag?) : name ∈ formTags := by
  induction items generalizing pending with
  | nil =>
      rw [eventsOf, textEvents_tags] at h
      cases h
  | cons i items ih =>
      cases i with
      | start e as =>
          rw [eventsOf, List.filterMap_append, textEvents_tags] at h
          rcases List.mem_cons.mp h with rfl | h
          · exact element_mem_formTags e
          · exact ih h
      | finish e =>
          rw [eventsOf, List.filterMap_append, textEvents_tags] at h
          rcases List.mem_cons.mp h with rfl | h
          · exact element_mem_formTags e
          · exact ih h
      | text content => exact ih h
      | layout blanks => exact ih h
      | raw markup => exact ih h

theorem angleless_textEvents {content : List Char} (h : Angleless content) {s : String}
    (hs : s ∈ (textEvents content).filterMap Event.text?) : Angleless s.toList := by
  cases content with
  | nil => cases hs
  | cons c cs =>
      obtain rfl : s = String.ofList (c :: cs) := by
        simpa [textEvents, Event.text?] using hs
      rwa [String.toList_ofList]

theorem angleless_eventsOf {items : List Item} (ht : ∀ i ∈ items, i.Tame)
    {pending : List Char} (hp : Angleless pending) {s : String}
    (h : s ∈ (eventsOf pending items).filterMap Event.text?) : Angleless s.toList := by
  induction items generalizing pending with
  | nil => exact angleless_textEvents hp h
  | cons i items ih =>
      have hi := ht i (List.mem_cons_self ..)
      have hrest := fun j hj => ht j (List.mem_cons_of_mem _ hj)
      have hnone : Angleless [] := fun c hc => (List.not_mem_nil hc).elim
      cases i with
      | start e as =>
          rw [eventsOf, List.filterMap_append, List.mem_append] at h
          rcases h with h | h
          · exact angleless_textEvents hp h
          · exact ih hrest hnone h
      | finish e =>
          rw [eventsOf, List.filterMap_append, List.mem_append] at h
          rcases h with h | h
          · exact angleless_textEvents hp h
          · exact ih hrest hnone h
      | text content => exact ih hrest (hp.append fun c hc => mem_escapeTextChars hc) h
      | layout blanks => exact ih hrest (hp.append (angleless_layoutBlanks blanks hi)) h
      | raw markup => exact hi.elim

theorem blank_one : " " ∈ layoutBlanks := by simp [layoutBlanks]

theorem blank_two : "  " ∈ layoutBlanks := by simp [layoutBlanks]

theorem blank_four : "    " ∈ layoutBlanks := by simp [layoutBlanks]

theorem blank_six : "      " ∈ layoutBlanks := by simp [layoutBlanks]

structure Sound (items : List Item) : Prop where
  tame : ∀ i ∈ items, i.Tame
  balanced : ∀ opened, nest opened items = some opened

namespace Sound

theorem nil : Sound [] :=
  ⟨fun _ hi => (List.not_mem_nil hi).elim, fun _ => rfl⟩

theorem append {xs ys : List Item} (hx : Sound xs) (hy : Sound ys) : Sound (xs ++ ys) := by
  refine ⟨fun i hi => ?_, fun opened => ?_⟩
  · rcases List.mem_append.mp hi with hi | hi
    · exact hx.tame i hi
    · exact hy.tame i hi
  · rw [nest_append, hx.balanced, Option.bind_some, hy.balanced]

theorem layout {blanks : String} (h : blanks ∈ layoutBlanks) : Sound [.layout blanks] := by
  refine ⟨fun i hi => ?_, fun _ => rfl⟩
  rw [List.mem_singleton.mp hi]
  exact h

theorem newline : Sound [.layout "\n"] :=
  layout (List.mem_cons_self ..)

theorem text (content : String) : Sound [.text content] := by
  refine ⟨fun i hi => ?_, fun _ => rfl⟩
  rw [List.mem_singleton.mp hi]
  trivial

theorem input {as : List Attribute} (h : AllTame as) : Sound [.start .input as] := by
  refine ⟨fun i hi => ?_, fun _ => rfl⟩
  rw [List.mem_singleton.mp hi]
  exact h

theorem element (e : Element) (he : e.isVoid = false) {as : List Attribute} (h : AllTame as)
    {content : List Item} (hc : Sound content) :
    Sound (.start e as :: content ++ [.finish e]) := by
  refine ⟨fun i hi => ?_, fun opened => ?_⟩
  · rcases List.mem_append.mp hi with hi | hi
    · rcases List.mem_cons.mp hi with rfl | hi
      · exact h
      · exact hc.tame i hi
    · rw [List.mem_singleton.mp hi]
      trivial
  · have hopen := hc.balanced (e :: opened)
    rw [List.cons_append, nest, he, if_neg Bool.false_ne_true, nest_append, hopen]
    simp [nest]

theorem flatMap {α : Type} {f : α → List Item} {xs : List α} (h : ∀ x ∈ xs, Sound (f x)) :
    Sound (xs.flatMap f) := by
  induction xs with
  | nil => exact nil
  | cons x xs ih =>
      rw [List.flatMap_cons]
      exact (h x (List.mem_cons_self ..)).append
        (ih fun y hy => h y (List.mem_cons_of_mem _ hy))

theorem line {indent : String} (hi : indent ∈ layoutBlanks) (e : Element) (he : e.isVoid = false)
    {as : List Attribute} (h : AllTame as) (content : String) :
    Sound (Markup.line indent e as content) :=
  ((layout hi).append (element e he h (text content))).append newline

theorem block {indent : String} (hi : indent ∈ layoutBlanks) (e : Element) (he : e.isVoid = false)
    {as : List Attribute} (h : AllTame as) {content : List Item} (hc : Sound content) :
    Sound (Markup.block indent e as content) := by
  have hbody := (newline.append hc).append (layout hi)
  have hall := ((layout hi).append (element e he h hbody)).append newline
  simpa [Markup.block] using hall

end Sound

end FormMarkup.Markup
