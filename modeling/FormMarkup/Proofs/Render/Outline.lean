import FormMarkup.Proofs.Markup.Tame
import FormMarkup.Proofs.Render.Assembly

namespace FormMarkup

namespace Markup

def Event.outline : Event → Event
  | .start name as => .start name (as.map fun a => (a.1, a.2.map fun _ => ""))
  | e => e

def Attribute.outline : Attribute → Attribute
  | .escaped name _ => .plain name ""
  | .plain name _ => .plain name ""
  | .extra name _ => .plain name ""
  | a => a

def Item.outline : Item → Item
  | .start e as => .start e (as.map Attribute.outline)
  | i => i

def outlineOf (items : List Item) : List Item :=
  items.map Item.outline

theorem found_outline (a : Attribute) :
    a.outline.found = (a.found.1, a.found.2.map fun _ => "") := by
  cases a <;> rfl

theorem outline_textEvents (content : List Char) :
    (textEvents content).map Event.outline = textEvents content := by
  cases content <;> rfl

theorem outline_eventsOf (pending : List Char) (items : List Item) :
    (eventsOf pending items).map Event.outline = eventsOf pending (outlineOf items) := by
  unfold outlineOf
  induction items generalizing pending with
  | nil => exact outline_textEvents pending
  | cons i items ih =>
      cases i with
      | start e as =>
          rw [eventsOf, List.map_append, outline_textEvents, List.map_cons, ih]
          simp [Event.outline, Item.outline, eventsOf, found_outline]
      | finish e =>
          rw [eventsOf, List.map_append, outline_textEvents, List.map_cons, ih]
          rfl
      | text content => exact ih _
      | layout blanks => exact ih _
      | raw markup => exact ih _

section Parts

@[simp]
theorem outlineOf_nil : outlineOf [] = [] := rfl

@[simp]
theorem outlineOf_append (xs ys : List Item) :
    outlineOf (xs ++ ys) = outlineOf xs ++ outlineOf ys :=
  List.map_append

@[simp]
theorem outlineOf_cons (i : Item) (items : List Item) :
    outlineOf (i :: items) = i.outline :: outlineOf items := rfl

theorem outlineOf_flatMap {α : Type} (f : α → List Item) (xs : List α) :
    outlineOf (xs.flatMap f) = xs.flatMap fun x => outlineOf (f x) :=
  List.map_flatMap

@[simp]
theorem outlineOf_line (indent : String) (e : Element) (as : List Attribute) (content : String) :
    outlineOf (line indent e as content) =
      line indent e (as.map Attribute.outline) content := rfl

@[simp]
theorem outlineOf_block (indent : String) (e : Element) (as : List Attribute)
    (content : List Item) :
    outlineOf (block indent e as content) =
      block indent e (as.map Attribute.outline) (outlineOf content) := by
  simp [block, Item.outline]

@[simp]
theorem outline_unlessEmpty (name value : String) :
    (unlessEmpty name value).map Attribute.outline =
      if value = "" then [] else [.plain name ""] := by
  unfold unlessEmpty
  split <;> rfl

end Parts

end Markup

open Markup

def Settings.inNamespace (s : Settings) (ns : String) : Settings :=
  { s with ns := ns }

theorem Settings.namespaced_eq_empty_iff (s : Settings) (name : String) :
    s.namespaced name = "" ↔ name = "" := by
  unfold namespaced
  split <;> simp_all

theorem Control.elementId_withDefaults_eq_empty_iff (s : Settings) (c : Control) :
    (c.withDefaults s).elementId = "" ↔ c.id.getD c.name = "" := by
  cases hid : c.id <;> simp [elementId, Control.withDefaults, hid, s.namespaced_eq_empty_iff]

@[simp]
theorem outlineOf_inputLine (indent : String) (as : List Attribute) :
    outlineOf (inputLine indent as) = inputLine indent (as.map Attribute.outline) := rfl

theorem outlineOf_labelLine (s : Settings) (indent id label : String) :
    outlineOf (labelLine s indent id label) =
      if label = "" then []
      else line indent .label ((if id = "" then [] else [.plain "for" ""]) ++ [.plain "class" ""])
        label := by
  unfold labelLine
  split <;> simp [Attribute.outline]

theorem Control.outline_describedBy (c : Control) :
    c.describedBy.map Attribute.outline =
      if c.hint = "" || c.elementId = "" then [] else [.plain "aria-describedby" ""] := by
  unfold describedBy
  split <;> rfl

theorem Control.outlineOf_hintLine (c : Control) :
    outlineOf c.hintLine =
      if c.hint = "" then []
      else
        line "    " .small ((if c.elementId = "" then [] else [.plain "id" ""]) ++
          [.plain "class" ""]) c.hint := by
  unfold hintLine
  split
  · rfl
  · split <;> simp [Attribute.outline]

theorem FileInput.outlineOf_caption (s : Settings) (f : FileInput) :
    outlineOf (f.caption s) =
      if f.label = "" then [] else line "    " .paragraph [.plain "class" ""] f.label := by
  unfold FileInput.caption
  split <;> rfl

section Renaming

variable (s : Settings) (ns : String)

theorem Control.outline_id (c : Control) :
    (unlessEmpty "id" (c.withDefaults (s.inNamespace ns)).elementId).map Attribute.outline =
      (unlessEmpty "id" (c.withDefaults s).elementId).map Attribute.outline := by
  simp [Control.elementId_withDefaults_eq_empty_iff]

theorem Control.outline_description (c : Control) :
    (c.withDefaults (s.inNamespace ns)).describedBy.map Attribute.outline =
      (c.withDefaults s).describedBy.map Attribute.outline := by
  simp only [Control.outline_describedBy, Control.elementId_withDefaults_eq_empty_iff,
    Bool.or_eq_true, decide_eq_true_eq]
  rfl

theorem Control.outlineOf_wrap (c : Control) {xs ys : List Item}
    (h : outlineOf xs = outlineOf ys) :
    outlineOf ((c.withDefaults (s.inNamespace ns)).wrap (s.inNamespace ns) xs) =
      outlineOf ((c.withDefaults s).wrap s ys) := by
  simp only [wrap, outlineOf_block, outlineOf_append, outlineOf_hintLine,
    Control.elementId_withDefaults_eq_empty_iff, h, List.map_cons, List.map_nil, Attribute.outline]
  rfl

theorem Control.outlineOf_labelled (c : Control) {xs ys : List Item}
    (h : outlineOf xs = outlineOf ys) :
    outlineOf ((c.withDefaults (s.inNamespace ns)).labelled (s.inNamespace ns) xs) =
      outlineOf ((c.withDefaults s).labelled s ys) := by
  refine c.outlineOf_wrap s ns ?_
  simp only [outlineOf_append, outlineOf_labelLine,
    Control.elementId_withDefaults_eq_empty_iff, h]
  rfl

theorem TextInput.outlineOf_items (type : InputType) (f : TextInput) :
    outlineOf ((f.withDefaults (s.inNamespace ns)).items (s.inNamespace ns) type) =
      outlineOf ((f.withDefaults s).items s type) := by
  refine f.outlineOf_labelled s ns ?_
  simp only [outlineOf_inputLine, TextInput.attributes, TextInput.withDefaults, List.map_append,
    f.outline_id, f.outline_description]
  rfl

theorem TextArea.outlineOf_items (f : TextArea) :
    outlineOf ({ f with toControl := f.withDefaults (s.inNamespace ns) }.items
        (s.inNamespace ns)) =
      outlineOf ({ f with toControl := f.withDefaults s }.items s) := by
  refine f.outlineOf_labelled s ns ?_
  simp only [outlineOf_line, TextArea.attributes, List.map_append, f.outline_id,
    f.outline_description]
  rfl

theorem FileInput.outlineOf_items (f : FileInput) :
    outlineOf ({ f with toControl := f.withDefaults (s.inNamespace ns) }.items
        (s.inNamespace ns)) =
      outlineOf ({ f with toControl := f.withDefaults s }.items s) := by
  refine f.outlineOf_wrap s ns ?_
  simp only [outlineOf_append, FileInput.outlineOf_caption, outlineOf_block, outlineOf_inputLine,
    outlineOf_line, FileInput.attributes, List.map_append, List.map_cons, f.outline_id,
    f.outline_description, outline_unlessEmpty, Control.elementId_withDefaults_eq_empty_iff]
  rfl

theorem Select.outlineOf_items (f : Select) :
    outlineOf ({ f with toControl := f.withDefaults (s.inNamespace ns) }.items
        (s.inNamespace ns)) =
      outlineOf ({ f with toControl := f.withDefaults s }.items s) := by
  refine f.outlineOf_labelled s ns ?_
  simp only [outlineOf_block, Select.attributes, List.map_append, f.outline_id,
    f.outline_description]
  rfl

theorem Switch.outlineOf_items (f : Switch) :
    outlineOf ({ f with toControl := f.withDefaults (s.inNamespace ns) }.items
        (s.inNamespace ns)) =
      outlineOf ({ f with toControl := f.withDefaults s }.items s) := by
  simp only [Switch.items, outlineOf_block, outlineOf_append, outlineOf_inputLine, outlineOf_line,
    Control.outlineOf_hintLine, Switch.attributes, List.map_append, List.map_cons, List.map_nil,
    Attribute.outline, f.outline_description, outline_unlessEmpty,
    Control.elementId_withDefaults_eq_empty_iff]
  rfl

theorem Choice.outlineOf_wrap (c : Choice) {id id' : String} (hid : id = "" ↔ id' = "")
    (marker : List Item) {as bs : List Attribute}
    (h : as.map Attribute.outline = bs.map Attribute.outline) :
    outlineOf (c.wrap (s.inNamespace ns) id marker as) = outlineOf (c.wrap s id' marker bs) := by
  simp [Choice.wrap, outlineOf_labelLine, hid, h, Attribute.outline]

theorem flatMap_withIds_congr {α β : Type} {own : α → Option String}
    {computed computed' : Nat → α → String} {f g : String × α → List β}
    (hown : ∀ p, f p = g p) (hcomputed : ∀ k x, f (computed k x, x) = g (computed' k x, x))
    (k : Nat) (xs : List α) :
    (withIds own computed k xs).flatMap f = (withIds own computed' k xs).flatMap g := by
  induction xs generalizing k with
  | nil => rfl
  | cons x xs ih =>
      unfold withIds
      split
      · rw [List.flatMap_cons, List.flatMap_cons, hown, ih]
      · rw [List.flatMap_cons, List.flatMap_cons, hcomputed, ih]

theorem Group.outlineOf_items (g : Group) (part : String) {xs ys : List Item}
    (h : outlineOf xs = outlineOf ys) :
    outlineOf (g.items (s.inNamespace ns) part xs) = outlineOf (g.items s part ys) := by
  simp [Group.items, h, Attribute.outline]

theorem Checkbox.outlineOf_items (c : Checkbox) {id id' : String} (hid : id = "" ↔ id' = "") :
    outlineOf (c.items (s.inNamespace ns) id) = outlineOf (c.items s id') := by
  refine c.outlineOf_wrap s ns hid _ ?_
  simp [Checkbox.attributes, hid, Attribute.outline]

theorem Checkbox.computedId_eq_empty_iff (s : Settings) (k : Nat) (c : Checkbox) :
    c.computedId s k = "" ↔ c.name = "" := by
  unfold computedId
  split <;> simp_all

theorem CheckboxGroup.outlineOf_items (g : CheckboxGroup) :
    outlineOf ({ g with choices := g.choices.map (Checkbox.withDefaults (s.inNamespace ns)) }.items
        (s.inNamespace ns)) =
      outlineOf ({ g with choices := g.choices.map (Checkbox.withDefaults s) }.items s) := by
  refine g.toGroup.outlineOf_items s ns _ ?_
  rw [outlineOf_flatMap, outlineOf_flatMap]
  refine flatMap_withIds_congr (fun p => p.2.outlineOf_items s ns Iff.rfl) (fun k c => ?_) 0 _
  refine c.outlineOf_items s ns ?_
  rw [c.computedId_eq_empty_iff, c.computedId_eq_empty_iff]

theorem RadioGroup.computedId_eq_empty_iff (s : Settings) (k : Nat) (g : RadioGroup) :
    g.computedId s k = "" ↔ idName g.name = "" := by
  unfold computedId
  split <;> simp_all

theorem RadioGroup.outlineOf_choice (g : RadioGroup) (c : Choice) {id id' : String}
    (hid : id = "" ↔ id' = "") :
    outlineOf (c.wrap (s.inNamespace ns) id [] (g.attributes (s.inNamespace ns) id c)) =
      outlineOf (c.wrap s id' [] (g.attributes s id' c)) := by
  refine c.outlineOf_wrap s ns hid _ ?_
  simp [RadioGroup.attributes, hid, Attribute.outline]

theorem RadioGroup.outlineOf_titleLine (g : RadioGroup) :
    outlineOf (g.titleLine (s.inNamespace ns)) = outlineOf (g.titleLine s) := by
  unfold titleLine
  split <;> rfl

theorem RadioGroup.outlineOf_items (g : RadioGroup) :
    outlineOf ((g.withDefaults (s.inNamespace ns)).items (s.inNamespace ns)) =
      outlineOf ((g.withDefaults s).items s) := by
  have hsame : g.withDefaults (s.inNamespace ns) = g.withDefaults s := rfl
  rw [hsame]
  refine Group.outlineOf_items s ns _ _ ?_
  rw [outlineOf_append, outlineOf_append, outlineOf_titleLine, outlineOf_flatMap,
    outlineOf_flatMap]
  refine congrArg _ (flatMap_withIds_congr
    (fun p => outlineOf_choice s ns _ p.2 Iff.rfl) (fun k c => ?_) 0 _)
  refine outlineOf_choice s ns _ c ?_
  rw [computedId_eq_empty_iff, computedId_eq_empty_iff]

theorem SubmitButton.outlineOf_items (b : SubmitButton) :
    outlineOf ((b.withDefaults (s.inNamespace ns)).items (s.inNamespace ns)) =
      outlineOf ((b.withDefaults s).items s) := by
  simp only [SubmitButton.items, outlineOf_block, outlineOf_append, outlineOf_line,
    List.map_append, List.map_cons, List.map_nil, Attribute.outline]
  rfl

end Renaming

namespace Renderer

def inNamespace (r : Renderer) (ns : String) : Renderer :=
  { r with settings := r.settings.inNamespace ns }

theorem outlineOf_field (r : Renderer) (ns : String) (f : Field) :
    outlineOf ((r.inNamespace ns).field f).items = outlineOf (r.field f).items := by
  cases f with
  | input type f => exact f.outlineOf_items r.settings ns type
  | textArea f => exact f.outlineOf_items r.settings ns
  | file f => exact f.outlineOf_items r.settings ns
  | select f => exact f.outlineOf_items r.settings ns
  | checkbox g => exact g.outlineOf_items r.settings ns
  | radio g => exact g.outlineOf_items r.settings ns
  | switch f => exact f.outlineOf_items r.settings ns
  | hidden f => rfl
  | nonce n => rfl
  | submit b => exact b.outlineOf_items r.settings ns
  | unknown => rfl

theorem outlineOf_form (r : Renderer) (ns : String) (fs : List Field) (tag : FormTag) :
    outlineOf ((r.inNamespace ns).form fs tag).items = outlineOf (r.form fs tag).items := by
  cases fs with
  | nil => rfl
  | cons f fs =>
      have hne := List.cons_ne_nil f fs
      have hopening : outlineOf (tag.opening (r.inNamespace ns).settings) =
          outlineOf (tag.opening r.settings) := by
        simp [FormTag.opening, FormTag.containerAttributes, FormTag.formAttributes, Item.outline,
          Attribute.outline]
      rw [items_form _ hne, items_form _ hne, items_fields, items_fields]
      simp only [outlineOf_append, outlineOf_flatMap, outlineOf_field, hopening]

end Renderer

end FormMarkup
