import FormMarkup.Proofs.Markup.InputView
import FormMarkup.Proofs.Render.Assembly

namespace FormMarkup

open FormMarkup.Markup

namespace Markup

def Element.isControl : Element → Bool
  | .input | .select | .option | .textarea | .button => true
  | _ => false

def Element.isFrame : Element → Bool
  | .div | .form | .label | .abbr | .paragraph => true
  | _ => false

theorem Element.isFrame_of_isControl {e : Element} (h : e.isControl = true) :
    e.isFrame = false := by
  cases e <;> first | rfl | cases h

section Starts

variable (e : Element)

@[simp]
theorem starts_nil : starts e [] = [] := rfl

@[simp]
theorem starts_append (xs ys : List Item) : starts e (xs ++ ys) = starts e xs ++ starts e ys :=
  List.filterMap_append

@[simp]
theorem starts_start (e' : Element) (as : List Attribute) (items : List Item) :
    starts e (.start e' as :: items) = (if e' = e then [as] else []) ++ starts e items := by
  by_cases h : e' = e <;> simp [starts, Item.start?, h]

@[simp]
theorem starts_finish (e' : Element) (items : List Item) :
    starts e (.finish e' :: items) = starts e items := rfl

@[simp]
theorem starts_text (content : String) (items : List Item) :
    starts e (.text content :: items) = starts e items := rfl

@[simp]
theorem starts_layout (blanks : String) (items : List Item) :
    starts e (.layout blanks :: items) = starts e items := rfl

theorem starts_flatMap {α : Type} (f : α → List Item) (xs : List α) :
    starts e (xs.flatMap f) = xs.flatMap fun x => starts e (f x) :=
  List.filterMap_flatMap

@[simp]
theorem starts_line (indent : String) (e' : Element) (as : List Attribute) (content : String) :
    starts e (line indent e' as content) = if e' = e then [as] else [] := by
  simp [line]

@[simp]
theorem starts_block (indent : String) (e' : Element) (as : List Attribute) (content : List Item) :
    starts e (block indent e' as content) = (if e' = e then [as] else []) ++ starts e content := by
  simp [block]

@[simp]
theorem starts_inputLine (indent : String) (as : List Attribute) :
    starts e (inputLine indent as) = if .input = e then [as] else [] := by
  simp [inputLine]

end Starts

end Markup

@[simp]
theorem RawMarkup.starts_line (e : Element) (m : RawMarkup) (indent : String) :
    starts e (m.line indent) = [] := by
  unfold RawMarkup.line
  split <;> rfl

section Frame

variable {e : Element} (he : e.isFrame = false)
include he

theorem frame_ne : .div ≠ e ∧ .form ≠ e ∧ .label ≠ e ∧ .abbr ≠ e ∧ .paragraph ≠ e := by
  cases e <;> simp [Element.isFrame] at he ⊢

theorem starts_markerLine (indent : String) (required : Bool) (title : Option String) :
    starts e (markerLine indent required title) = [] := by
  cases required <;> simp [markerLine, requiredMarker, frame_ne he]

theorem starts_labelLine (s : Settings) (indent id label : String) :
    starts e (labelLine s indent id label) = [] := by
  unfold labelLine
  split <;> simp [frame_ne he]

theorem Choice.starts_wrap (s : Settings) (c : Choice) (id : String) {marker : List Item}
    (hm : starts e marker = []) (as : List Attribute) :
    starts e (c.wrap s id marker as) = starts e (inputLine "      " as) := by
  simp [wrap, frame_ne he, hm, starts_labelLine he]

theorem Group.starts_items (s : Settings) (g : Group) (part : String) (content : List Item) :
    starts e (g.items s part content) = starts e content := by
  simp [items, frame_ne he]

theorem FileInput.starts_caption (s : Settings) (f : FileInput) :
    starts e (f.caption s) = [] := by
  unfold caption
  split <;> simp [frame_ne he]

theorem CheckboxGroup.starts_items (s : Settings) (g : CheckboxGroup) :
    starts e (g.items s) =
      (g.choicesWithIds s).flatMap fun p =>
        starts e (inputLine "      " (p.2.attributes s p.1)) := by
  have hchoice : ∀ p : String × Checkbox,
      starts e (p.2.items s p.1) = starts e (inputLine "      " (p.2.attributes s p.1)) :=
    fun p => p.2.starts_wrap he s p.1 (starts_markerLine he _ _ _) _
  rw [items, Group.starts_items he, starts_flatMap]
  simp only [hchoice]

theorem RadioGroup.starts_titleLine (s : Settings) (g : RadioGroup) :
    starts e (g.titleLine s) = [] := by
  unfold titleLine
  split
  · split <;> simp [requiredMarker, frame_ne he]
  · rfl

theorem RadioGroup.starts_items (s : Settings) (g : RadioGroup) :
    starts e (g.items s) =
      (g.choicesWithIds s).flatMap fun p =>
        starts e (inputLine "      " (g.attributes s p.1 p.2)) := by
  have hchoice : ∀ p : String × Choice,
      starts e (p.2.wrap s p.1 [] (g.attributes s p.1 p.2)) =
        starts e (inputLine "      " (g.attributes s p.1 p.2)) :=
    fun p => p.2.starts_wrap he s p.1 rfl _
  rw [items, Group.starts_items he, starts_append, g.starts_titleLine he, starts_flatMap]
  simp only [hchoice, List.nil_append]

end Frame

section Controls

variable {e : Element} (he : e.isControl = true)
include he

theorem small_ne : .small ≠ e := by
  rintro rfl
  cases he

theorem Control.starts_hintLine (c : Control) : starts e c.hintLine = [] := by
  unfold hintLine
  split <;> simp [small_ne he]

theorem Control.starts_wrap (s : Settings) (c : Control) (content : List Item) :
    starts e (c.wrap s content) = starts e content := by
  simp [wrap, frame_ne (Element.isFrame_of_isControl he), c.starts_hintLine he]

theorem Control.starts_labelled (s : Settings) (c : Control) (control : List Item) :
    starts e (c.labelled s control) = starts e control := by
  have hf := Element.isFrame_of_isControl he
  simp [labelled, c.starts_wrap he, starts_labelLine hf, marker, starts_markerLine hf]

theorem TextInput.starts_items (s : Settings) (type : InputType) (f : TextInput) :
    starts e (f.items s type) = starts e (inputLine "    " (f.attributes s type)) := by
  rw [items, f.starts_labelled he]

theorem TextArea.starts_items (s : Settings) (f : TextArea) :
    starts e (f.items s) = starts e (line "    " .textarea (f.attributes s) f.value) := by
  rw [items, f.starts_labelled he]

theorem FileInput.starts_items (s : Settings) (f : FileInput) :
    starts e (f.items s) = starts e (inputLine "      " (f.attributes s)) := by
  have hf := Element.isFrame_of_isControl he
  rw [items, f.starts_wrap he]
  simp [f.starts_caption hf, Control.marker, starts_markerLine hf, frame_ne hf]

theorem Select.starts_items (s : Settings) (f : Select) :
    starts e (f.items s) =
      starts e (block "    " .select (f.attributes s)
        (f.placeholderLine ++ f.options.flatMap f.optionLine)) := by
  rw [items, f.starts_labelled he]

theorem Switch.starts_items (s : Settings) (f : Switch) :
    starts e (f.items s) = starts e (inputLine "    " (f.attributes s)) := by
  have hf := Element.isFrame_of_isControl he
  simp [items, Control.marker, starts_markerLine hf, frame_ne hf, f.starts_hintLine he]

theorem SubmitButton.starts_items (s : Settings) (b : SubmitButton) (hb : e ≠ .button) :
    starts e (b.items s) = [] := by
  simp [items, frame_ne (Element.isFrame_of_isControl he), hb.symm]

end Controls

end FormMarkup
