import FormMarkup.Proofs.Render.Reordering
import FormMarkup.Proofs.Text.Tokens

namespace FormMarkup

namespace Text

def SameTokens (s t : String) : Prop :=
  tokens s = tokens t

def spaced (s : String) : String :=
  joinWords (words s)

theorem words_spaced (s : String) : words (spaced s) = words s := by
  rw [spaced, words_joinWords, flatMap_words]

theorem SameTokens.words_eq {s t : String} (h : SameTokens s t) : words s = words t := by
  rw [words_eq_tokens, words_eq_tokens, h]

theorem SameTokens.spaced_eq {s t : String} (h : SameTokens s t) : spaced s = spaced t := by
  rw [spaced, spaced, h.words_eq]

end Text

open FormMarkup.Text (SameTokens spaced words_spaced)

inductive Choice.Respaced (c : Choice) : Choice → Prop where
  | mk {classes : String} (h : SameTokens c.classes classes) : Respaced c { c with classes }

inductive Checkbox.Respaced (c : Checkbox) : Checkbox → Prop where
  | mk {classes : String} (h : SameTokens c.classes classes) : Respaced c { c with classes }

inductive FormTag.Respaced (tag : FormTag) : FormTag → Prop where
  | mk {classes formClasses : String} (h : SameTokens tag.classes classes)
      (hf : SameTokens tag.formClasses formClasses) : Respaced tag { tag with classes, formClasses }

inductive Field.Respaced : Field → Field → Prop where
  | input {type : InputType} {f : TextInput} {classes : String}
      (h : SameTokens f.classes classes) :
      Respaced (.input type f) (.input type { f with classes })
  | textArea {f : TextArea} {classes : String} (h : SameTokens f.classes classes) :
      Respaced (.textArea f) (.textArea { f with classes })
  | file {f : FileInput} {classes : String} (h : SameTokens f.classes classes) :
      Respaced (.file f) (.file { f with classes })
  | select {f : Select} {classes : String} (h : SameTokens f.classes classes) :
      Respaced (.select f) (.select { f with classes })
  | checkbox {g : CheckboxGroup} {classes : String} {choices : List Checkbox}
      (h : SameTokens g.classes classes) (hc : List.Forall₂ Checkbox.Respaced g.choices choices) :
      Respaced (.checkbox g) (.checkbox { g with classes, choices })
  | radio {g : RadioGroup} {classes : String} {choices : List Choice}
      (h : SameTokens g.classes classes) (hc : List.Forall₂ Choice.Respaced g.choices choices) :
      Respaced (.radio g) (.radio { g with classes, choices })
  | switch {f : Switch} {classes : String} (h : SameTokens f.classes classes) :
      Respaced (.switch f) (.switch { f with classes })
  | submit {b : SubmitButton} {classes : String} (h : SameTokens b.classes classes) :
      Respaced (.submit b) (.submit { b with classes })
  | same (f : Field) : Respaced f f

def Choice.spaced (c : Choice) : Choice :=
  { c with classes := Text.spaced c.classes }

def Checkbox.spaced (c : Checkbox) : Checkbox :=
  { c with classes := Text.spaced c.classes }

def Field.spaced : Field → Field
  | .input type f => .input type { f with classes := Text.spaced f.classes }
  | .textArea f => .textArea { f with classes := Text.spaced f.classes }
  | .file f => .file { f with classes := Text.spaced f.classes }
  | .select f => .select { f with classes := Text.spaced f.classes }
  | .checkbox g =>
      .checkbox { g with
        classes := Text.spaced g.classes
        choices := g.choices.map Checkbox.spaced }
  | .radio g =>
      .radio { g with
        classes := Text.spaced g.classes
        choices := g.choices.map Choice.spaced }
  | .switch f => .switch { f with classes := Text.spaced f.classes }
  | .submit b => .submit { b with classes := Text.spaced b.classes }
  | f => f

section SameSpacing

theorem Choice.Respaced.spaced_eq {c d : Choice} (h : c.Respaced d) : c.spaced = d.spaced := by
  cases h with
  | mk h => simp [spaced, h.spaced_eq]

theorem Checkbox.Respaced.spaced_eq {c d : Checkbox} (h : c.Respaced d) :
    c.spaced = d.spaced := by
  cases h with
  | mk h => simp [spaced, h.spaced_eq]

theorem map_eq_of_forall₂ {α β : Type} {r : α → α → Prop} {g : α → β} {xs ys : List α}
    (h : List.Forall₂ r xs ys) (hg : ∀ x y, r x y → g x = g y) : xs.map g = ys.map g := by
  rw [← List.forall₂_eq_eq_eq, List.forall₂_map_left_iff, List.forall₂_map_right_iff]
  exact h.imp hg

theorem Field.Respaced.spaced_eq {f g : Field} (h : f.Respaced g) : f.spaced = g.spaced := by
  cases h with
  | checkbox h hc =>
      simp [Field.spaced, h.spaced_eq, map_eq_of_forall₂ hc fun _ _ => Checkbox.Respaced.spaced_eq]
  | radio h hc =>
      simp [Field.spaced, h.spaced_eq, map_eq_of_forall₂ hc fun _ _ => Choice.Respaced.spaced_eq]
  | same => rfl
  | _ h => simp [Field.spaced, h.spaced_eq]

end SameSpacing

section Order

theorem Field.order_spaced (f : Field) : f.spaced.order = f.order := by
  cases f <;> rfl

theorem Field.orderChoices_spaced (f : Field) : f.spaced.orderChoices = f.orderChoices.spaced := by
  cases f with
  | checkbox g =>
      have hchoices := map_ascending Checkbox.spaced (fun c => c.order) g.choices
      simp only [Field.spaced, orderChoices, ← hchoices]
      rfl
  | radio g =>
      have hchoices := map_ascending Choice.spaced Choice.order g.choices
      simp only [Field.spaced, orderChoices, ← hchoices]
      rfl
  | _ => rfl

theorem Field.withDefaults_spaced (s : Settings) (f : Field) :
    f.spaced.withDefaults s = (f.withDefaults s).spaced := by
  cases f with
  | checkbox g => simp [Field.spaced, withDefaults, Function.comp_def, Checkbox.spaced,
      Checkbox.withDefaults]
  | _ => rfl

end Order

section Rendering

variable (s : Settings)

theorem FormTag.Respaced.opening_eq {tag tag' : FormTag} (h : tag.Respaced tag') :
    tag.opening s = tag'.opening s := by
  cases h with
  | mk h hf =>
      simp only [opening, containerAttributes, formAttributes, containerClass, classList,
        List.flatMap_cons, h.words_eq, hf.words_eq]

theorem classList_spaced (front : List String) (classes : String) :
    classList (front ++ [Text.spaced classes]) = classList (front ++ [classes]) := by
  simp [classList, words_spaced]

theorem Control.wrap_spaced (c : Control) (content : List Markup.Item) :
    Control.wrap s { c with classes := Text.spaced c.classes } content = c.wrap s content := by
  have hclasses := classList_spaced ["form-group", s.hook "input-wrapper"] c.classes
  simp only [List.cons_append, List.nil_append] at hclasses
  simp only [wrap, hclasses]
  rfl

theorem Choice.wrap_spaced (c : Choice) (id : String) (marker : List Markup.Item)
    (attributes : List Markup.Attribute) :
    c.spaced.wrap s id marker attributes = c.wrap s id marker attributes := by
  have hclasses := classList_spaced ["form-check", s.hook "input-wrapper"] c.classes
  simp only [List.cons_append, List.nil_append] at hclasses
  simp only [wrap, choiceClasses, spaced, hclasses]

theorem Group.items_spaced (g : Group) (part : String) (content : List Markup.Item) :
    Group.items s { g with classes := Text.spaced g.classes } part content =
      g.items s part content := by
  have hclasses := classList_spaced [s.hook part] g.classes
  simp only [List.cons_append, List.nil_append] at hclasses
  simp only [items, hclasses]

theorem SubmitButton.items_spaced (b : SubmitButton) :
    SubmitButton.items s { b with classes := Text.spaced b.classes } = b.items s := by
  have hclasses := classList_spaced ["btn btn-primary", s.hook "btn"] b.classes
  simp only [List.cons_append, List.nil_append] at hclasses
  simp only [items, hclasses]

theorem Switch.items_spaced (f : Switch) :
    Switch.items s { f with classes := Text.spaced f.classes } = f.items s := by
  have hclasses := classList_spaced ["custom-control custom-switch", s.hook "input-wrapper"]
    f.classes
  simp only [List.cons_append, List.nil_append] at hclasses
  simp only [items, attributes, inputClasses, words_spaced, hclasses]
  rfl

theorem withIds_map {α : Type} (own : α → Option String) (computed : Nat → α → String) (g : α → α)
    (hown : ∀ x, own (g x) = own x) (hcomputed : ∀ k x, computed k (g x) = computed k x)
    (k : Nat) (xs : List α) :
    withIds own computed k (xs.map g) = (withIds own computed k xs).map fun p => (p.1, g p.2) := by
  induction xs generalizing k with
  | nil => rfl
  | cons x xs ih =>
      rw [List.map_cons, withIds, withIds, hown]
      cases own x with
      | some id => simp only [ih, List.map_cons]
      | none => simp only [ih, hcomputed, List.map_cons]

theorem Checkbox.ownId_spaced (c : Checkbox) : c.spaced.ownId = c.ownId := rfl

theorem Checkbox.computedId_spaced (k : Nat) (c : Checkbox) :
    computedId s k c.spaced = computedId s k c := rfl

theorem Choice.ownId_spaced (c : Choice) : c.spaced.ownId = c.ownId := rfl

theorem Checkbox.items_spaced (c : Checkbox) (id : String) : c.spaced.items s id = c.items s id :=
  Choice.wrap_spaced s c.toChoice id _ (c.attributes s id)

theorem CheckboxGroup.items_spaced (g : CheckboxGroup) :
    CheckboxGroup.items s { g with
      classes := Text.spaced g.classes
      choices := g.choices.map Checkbox.spaced } = g.items s := by
  have hids : withIds (fun c => c.ownId) (Checkbox.computedId s) 0 (g.choices.map Checkbox.spaced) =
      (g.choicesWithIds s).map fun p => (p.1, p.2.spaced) :=
    withIds_map (fun c => c.ownId) (Checkbox.computedId s) Checkbox.spaced Checkbox.ownId_spaced
      (Checkbox.computedId_spaced s) 0 g.choices
  have hcontent : (withIds (fun c => c.ownId) (Checkbox.computedId s) 0
      (g.choices.map Checkbox.spaced)).flatMap (fun c => c.2.items s c.1) =
        (g.choicesWithIds s).flatMap fun c => c.2.items s c.1 := by
    rw [hids, List.flatMap_map]
    exact List.flatMap_congr fun p _ => p.2.items_spaced s p.1
  have hgroup := Group.items_spaced s g.toGroup "checkbox-group"
  simp only [items, choicesWithIds, hgroup, hcontent]

theorem RadioGroup.items_spaced (g : RadioGroup) :
    RadioGroup.items s { g with
      classes := Text.spaced g.classes
      choices := g.choices.map Choice.spaced } = g.items s := by
  have hids : withIds Choice.ownId (fun k _ => g.computedId s k) 0 (g.choices.map Choice.spaced) =
      (g.choicesWithIds s).map fun p => (p.1, p.2.spaced) :=
    withIds_map Choice.ownId (fun k _ => g.computedId s k) Choice.spaced Choice.ownId_spaced
      (fun _ _ => rfl) 0 g.choices
  have hcontent : (withIds Choice.ownId (fun k _ => g.computedId s k) 0
      (g.choices.map Choice.spaced)).flatMap (fun c => c.2.wrap s c.1 [] (g.attributes s c.1 c.2)) =
        (g.choicesWithIds s).flatMap fun c => c.2.wrap s c.1 [] (g.attributes s c.1 c.2) := by
    rw [hids, List.flatMap_map]
    exact List.flatMap_congr fun p _ => Choice.wrap_spaced s p.2 p.1 [] (g.attributes s p.1 p.2)
  have hgroup := Group.items_spaced s g.toGroup "radio-group"
  have hcontents := congrArg (g.titleLine s ++ ·) hcontent
  exact (congrArg (Group.items s _ _) hcontents).trans (hgroup _)

end Rendering

namespace Renderer

variable (r : Renderer)

theorem complete_spaced (f : Field) : r.complete f.spaced = r.complete f := by
  have hitems {items items' : List Markup.Item} {warnings : List Warning} (h : items = items') :
      (⟨items, warnings⟩ : Rendered) = ⟨items', warnings⟩ := by
    rw [h]
  cases f with
  | input type f => exact hitems (Control.wrap_spaced r.settings f.toControl _)
  | textArea f => exact hitems (Control.wrap_spaced r.settings f.toControl _)
  | file f => exact hitems (Control.wrap_spaced r.settings f.toControl _)
  | select f => exact hitems (Control.wrap_spaced r.settings f.toControl _)
  | checkbox g =>
      simp only [Field.spaced, complete, CheckboxGroup.items_spaced, List.flatMap_map]
      rfl
  | radio g =>
      simp only [Field.spaced, complete, RadioGroup.items_spaced, List.flatMap_map]
      rfl
  | switch f => exact hitems (f.items_spaced r.settings)
  | submit b => exact hitems (b.items_spaced r.settings)
  | _ => rfl

theorem field_spaced (f : Field) : r.field f.spaced = r.field f := by
  rw [field, Field.withDefaults_spaced, complete_spaced, field]

theorem form_spaced (fs : List Field) (tag : FormTag) :
    r.form (fs.map Field.spaced) tag = r.form fs tag :=
  r.form_map r.field_spaced Field.order_spaced Field.orderChoices_spaced fs tag

theorem form_respaced {fs gs : List Field} (hfields : List.Forall₂ Field.Respaced fs gs)
    {tag tag' : FormTag} (htag : tag.Respaced tag') : r.form gs tag' = r.form fs tag := by
  have hspaced : fs.map Field.spaced = gs.map Field.spaced :=
    map_eq_of_forall₂ hfields fun _ _ => Field.Respaced.spaced_eq
  have hform : r.form fs tag = r.form gs tag := by
    rw [← form_spaced, hspaced, form_spaced]
  rw [hform]
  cases gs with
  | nil => rfl
  | cons g gs => simp only [form, htag.opening_eq]

end Renderer

end FormMarkup
