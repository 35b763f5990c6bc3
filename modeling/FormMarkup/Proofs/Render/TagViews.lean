import FormMarkup.Proofs.Markup.TagView
import FormMarkup.Proofs.Render.Inputs

namespace FormMarkup

open FormMarkup.Markup

structure Field.Bare (f : Field) : Prop where
  blank : ∀ m ∈ f.fragments, m.isBlank = true
  noAttributes : f.authorAttributes = []

instance (f : Field) : Decidable f.Bare :=
  decidable_of_iff ((∀ m ∈ f.fragments, m.isBlank = true) ∧ f.authorAttributes = [])
    ⟨fun h => ⟨h.1, h.2⟩, fun h => ⟨h.blank, h.noAttributes⟩⟩

structure Settings.Hooks (s : Settings) (hook caption : String → List String) : Prop where
  escaped : ∀ part, Text.Unbroken part → Text.words (s.hook part) = hook part
  plain : ∀ part, Text.Unbroken part → '&' ∉ part.toList →
    Text.words (decoded (s.hook part)) = caption part

theorem Settings.hooks_words (s : Settings) :
    s.Hooks (fun part => Text.words (s.hook part)) fun part =>
      Text.words (decoded (s.hook part)) :=
  ⟨fun _ _ => rfl, fun _ _ _ => rfl⟩

namespace Control

def description (c : Control) : Option String :=
  if c.hint = "" || c.elementId = "" then none else some c.hintId

def tagView (c : Control) (name : String) (classes : List String) : TagView :=
  { name := name, classes := classes, id := given c.elementId, description := c.description }

def hintViews (c : Control) : List TagView :=
  if c.hint = "" then []
  else [{ name := "small", classes := ["form-text", "text-muted"], id := c.description }]

end Control

def markerViews (required : Bool) : List TagView :=
  if required then [{ name := "abbr", classes := ["required"] }] else []

-- The classes that stand for a part are given by hook and caption, so that only they depend on the
-- namespace.
section Specification

variable (s : Settings) (hook caption : String → List String)

def labelViews (id label : String) : List TagView :=
  if label = "" then [] else [{ name := "label", classes := hook "label", target := given id }]

def Control.wrapViews (c : Control) (content : List TagView) : List TagView :=
  { name := "div", classes := "form-group" :: hook "input-wrapper" ++ Text.words c.classes } ::
    (content ++ c.hintViews)

def Control.labelledViews (c : Control) (control : List TagView) : List TagView :=
  c.wrapViews hook (labelViews hook c.elementId c.label ++ markerViews c.required ++ control)

def FileInput.tagViews (f : FileInput) : List TagView :=
  f.wrapViews hook
    ((if f.label = "" then [] else [{ name := "p", classes := caption "label" }]) ++
      markerViews f.required ++
      [{ name := "div", classes := ["custom-file"] },
       f.tagView "input" ("custom-file-input" :: hook "input"),
       { name := "label", classes := ["custom-file-label"], target := given f.elementId }])

def Select.optionViews (f : Select) : List TagView :=
  (if f.showsPlaceholder then [{ name := "option" }] else []) ++
    f.options.map fun _ => { name := "option" }

def Select.tagViews (f : Select) : List TagView :=
  f.labelledViews hook (f.tagView "select" ("form-control" :: hook "input") :: f.optionViews)

def Switch.tagViews (f : Switch) : List TagView :=
  [{ name := "div"
     classes := ["custom-control", "custom-switch"] ++ hook "input-wrapper" ++
       Text.words f.classes }] ++
    markerViews f.required ++
    [f.tagView "input"
      (["custom-control-input"] ++ hook "input" ++ hook "switch" ++
        (Text.words f.classes).flatMap hook),
     { name := "label", classes := ["custom-control-label"], target := given f.elementId }] ++
    f.hintViews

def Choice.tagViews (c : Choice) (id part : String) (marker : List TagView) : List TagView :=
  { name := "div", classes := "form-check" :: hook "input-wrapper" ++ Text.words c.classes } ::
    (marker ++
      { name := "input", classes := "form-control" :: hook part, id := given id } ::
        labelViews hook id c.label)

def Group.tagViews (g : Group) (part : String) (content : List TagView) : List TagView :=
  { name := "div", classes := hook part ++ Text.words g.classes } :: content

def CheckboxGroup.tagViews (g : CheckboxGroup) : List TagView :=
  g.toGroup.tagViews hook "checkbox-group"
    ((g.choicesWithIds s).flatMap fun p =>
      p.2.toChoice.tagViews hook p.1 "checkbox" (markerViews p.2.required))

def RadioGroup.titleViews (g : RadioGroup) : List TagView :=
  if g.required || g.title != "" then
    { name := "label", classes := caption "group-title" } :: markerViews g.required
  else []

def RadioGroup.tagViews (g : RadioGroup) : List TagView :=
  g.toGroup.tagViews hook "radio-group"
    (g.titleViews caption ++
      (g.choicesWithIds s).flatMap fun p => p.2.tagViews hook p.1 "radio" [])

def SubmitButton.tagViews (b : SubmitButton) : List TagView :=
  [{ name := "div", classes := ["form-group"] },
   { name := "button"
     classes := ["btn", "btn-primary"] ++ hook "btn" ++ Text.words b.classes
     id := given b.id }]

def Field.tagViews : Field → List TagView
  | .input _ f => f.labelledViews hook [f.tagView "input" ("form-control" :: hook "input")]
  | .textArea f =>
      f.labelledViews hook [f.tagView "textarea" ("form-control" :: hook "textarea")]
  | .file f => f.tagViews hook caption
  | .select f => f.tagViews hook
  | .checkbox g => g.tagViews s hook
  | .radio g => g.tagViews s hook caption
  | .switch f => f.tagViews hook
  | .hidden f => f.pairs.map fun _ => { name := "input" }
  | .nonce _ => []
  | .submit b => b.tagViews hook
  | .unknown => []

end Specification

@[simp]
theorem words_literals :
    Text.words "form-group" = ["form-group"] ∧ Text.words "form-check" = ["form-check"] ∧
    Text.words "form-control" = ["form-control"] ∧
    Text.words "required" = ["required"] ∧
    Text.words "custom-file" = ["custom-file"] ∧
    Text.words "custom-file-label" = ["custom-file-label"] ∧
    Text.words "custom-control-label" = ["custom-control-label"] ∧
    Text.words "custom-control-input" = ["custom-control-input"] ∧
    Text.words "custom-control custom-switch" = ["custom-control", "custom-switch"] ∧
    Text.words "btn btn-primary" = ["btn", "btn-primary"] ∧
    Text.words "form-text text-muted" = ["form-text", "text-muted"] ∧
    Text.words "" = [] := by
  decide

theorem words_formControl (t : String) :
    Text.words ("form-control " ++ t) = "form-control" :: Text.words t :=
  Text.words_append_space "form-control" t

theorem words_fileInput (t : String) :
    Text.words ("custom-file-input " ++ t) = "custom-file-input" :: Text.words t :=
  Text.words_append_space "custom-file-input" t

@[simp]
theorem RawMarkup.viewsOf_line {m : RawMarkup} (h : m.isBlank = true) (indent : String) :
    viewsOf (m.line indent) = [] := by
  rw [RawMarkup.line_eq_nil h]
  rfl

@[simp]
theorem viewsOf_inputLine (indent : String) (as : List Attribute) :
    viewsOf (inputLine indent as) = [Attribute.tagView .input as] := rfl

@[simp]
theorem viewsOf_markerLine (indent : String) (required : Bool) (title : Option String) :
    viewsOf (markerLine indent required title) = markerViews required := by
  cases required with
  | false => rfl
  | true => simp [markerLine, requiredMarker, markerViews, Attribute.tagView_eq, Element.name]

@[simp]
theorem Control.valueOf_description (c : Control) :
    Attribute.valueOf "aria-describedby" c.describedBy = c.description := by
  unfold describedBy description
  split <;> simp_all

@[simp]
theorem Control.viewsOf_hintLine (c : Control) : viewsOf c.hintLine = c.hintViews := by
  unfold hintLine hintViews description
  by_cases hh : c.hint = "" <;> by_cases hi : c.elementId = "" <;>
    simp [hh, hi, Attribute.tagView_eq, Element.name]

section Parts

variable {s : Settings} {hook caption : String → List String} (h : s.Hooks hook caption)
include h

theorem viewsOf_labelLine (indent id label : String) :
    viewsOf (labelLine s indent id label) = labelViews hook id label := by
  have hlabel := h.escaped "label" (by decide)
  unfold labelLine labelViews
  split <;> simp [Attribute.tagView_eq, Element.name, hlabel]

theorem Control.viewsOf_wrap {c : Control} (ha : c.after.isBlank = true) (content : List Item) :
    viewsOf (c.wrap s content) = c.wrapViews hook (viewsOf content) := by
  have hwrapper := h.escaped "input-wrapper" (by decide)
  simp [wrap, wrapViews, ha, Attribute.tagView_eq, Element.name, words_classList, hwrapper]

theorem Control.viewsOf_labelled {c : Control} (hb : c.before.isBlank = true)
    (ha : c.after.isBlank = true) (control : List Item) :
    viewsOf (c.labelled s control) = c.labelledViews hook (viewsOf control) := by
  rw [labelled, c.viewsOf_wrap h ha]
  simp [labelledViews, hb, viewsOf_labelLine h, marker]

end Parts

def OnlyLength (map : TextMap) : Prop :=
  ∀ a ∈ map, a.1 = "maxlength"

theorem OnlyLength.valueOf {map : TextMap} (h : OnlyLength map) (c : Constraints) {name : String}
    (hname : "maxlength" ≠ name) : Attribute.valueOf name (extraAttributes c map) = none :=
  Attribute.valueOf_extraAttributes (fun a ha => h a ha ▸ hname) c

section Controls

variable {s : Settings} {hook caption : String → List String} (h : s.Hooks hook caption)
include h

theorem TextInput.tagView_attributes (type : InputType) {f : TextInput}
    (hv : f.visibility.isBlank = true) (hx : OnlyLength (f.extraAttributes.getD [])) :
    Attribute.tagView .input (f.attributes s type) =
      f.tagView "input" ("form-control" :: hook "input") := by
  have hinput := h.escaped "input" (by decide)
  simp [Attribute.tagView_eq, TextInput.attributes, Control.tagView, Element.name, hx.valueOf,
    RawMarkup.attribute_eq_nil hv, Control.valueOf_describedBy, words_formControl, hinput]

theorem TextArea.tagView_attributes {f : TextArea} (hx : OnlyLength f.extraAttributes) :
    Attribute.tagView .textarea (f.attributes s) =
      f.tagView "textarea" ("form-control" :: hook "textarea") := by
  have htextarea := h.escaped "textarea" (by decide)
  simp [Attribute.tagView_eq, TextArea.attributes, Control.tagView, Element.name, hx.valueOf,
    Control.valueOf_describedBy, words_formControl, htextarea]

theorem FileInput.tagView_attributes {f : FileInput} (hx : OnlyLength f.extraAttributes) :
    Attribute.tagView .input (f.attributes s) =
      f.tagView "input" ("custom-file-input" :: hook "input") := by
  have hinput := h.escaped "input" (by decide)
  simp [Attribute.tagView_eq, FileInput.attributes, Control.tagView, Element.name, hx.valueOf,
    Control.valueOf_describedBy, words_fileInput, hinput]

theorem Select.tagView_attributes {f : Select} (hx : OnlyLength f.extraAttributes) :
    Attribute.tagView .select (f.attributes s) =
      f.tagView "select" ("form-control" :: hook "input") := by
  have hinput := h.escaped "input" (by decide)
  simp [Attribute.tagView_eq, Select.attributes, Control.tagView, Element.name, hx.valueOf,
    Control.valueOf_describedBy, words_formControl, hinput]

theorem Switch.words_inputClasses (f : Switch) :
    Text.words (Switch.inputClasses s f) =
      ["custom-control-input"] ++ hook "input" ++ hook "switch" ++
        (Text.words f.classes).flatMap hook := by
  have hinput := h.escaped "input" (by decide)
  have hswitch := h.escaped "switch" (by decide)
  have hclasses : (Text.words f.classes).flatMap (fun w => Text.words (s.hook w)) =
      (Text.words f.classes).flatMap hook :=
    List.flatMap_congr fun w hw => h.escaped w (Text.unbroken_words hw)
  simp [inputClasses, words_classList, hinput, hswitch, List.flatMap_map, hclasses]

theorem Switch.tagView_attributes {f : Switch} (hx : OnlyLength f.extraAttributes) :
    Attribute.tagView .input (f.attributes s) =
      f.tagView "input" (["custom-control-input"] ++ hook "input" ++ hook "switch" ++
        (Text.words f.classes).flatMap hook) := by
  simp [Attribute.tagView_eq, Switch.attributes, Control.tagView, Element.name, hx.valueOf,
    Control.valueOf_describedBy, f.words_inputClasses h]

theorem TextInput.viewsOf_items (type : InputType) {f : TextInput}
    (hb : ∀ m ∈ (Field.input type f).fragments, m.isBlank = true)
    (hx : OnlyLength (f.extraAttributes.getD [])) :
    viewsOf (f.items s type) = (Field.input type f).tagViews s hook caption := by
  have hv := hb f.visibility (by simp [Field.fragments])
  have hbefore := hb f.before (by simp [Field.fragments, Control.fragments])
  have hafter := hb f.after (by simp [Field.fragments, Control.fragments])
  rw [items, f.viewsOf_labelled h hbefore hafter, viewsOf_inputLine,
    f.tagView_attributes h type hv hx]
  rfl

theorem TextArea.viewsOf_items {f : TextArea}
    (hb : ∀ m ∈ (Field.textArea f).fragments, m.isBlank = true)
    (hx : OnlyLength f.extraAttributes) :
    viewsOf (f.items s) = (Field.textArea f).tagViews s hook caption := by
  have hbefore := hb f.before (by simp [Field.fragments, Control.fragments])
  have hafter := hb f.after (by simp [Field.fragments, Control.fragments])
  rw [items, f.viewsOf_labelled h hbefore hafter, viewsOf_line, f.tagView_attributes h hx]
  rfl

theorem FileInput.viewsOf_caption (f : FileInput) :
    viewsOf (f.caption s) =
      if f.label = "" then [] else [{ name := "p", classes := caption "label" }] := by
  have hlabel := h.plain "label" (by decide) (by decide)
  unfold FileInput.caption
  split <;> simp [Attribute.tagView_eq, Element.name, hlabel]

theorem FileInput.viewsOf_items {f : FileInput}
    (hb : ∀ m ∈ (Field.file f).fragments, m.isBlank = true)
    (hx : OnlyLength f.extraAttributes) :
    viewsOf (f.items s) = f.tagViews hook caption := by
  have hbefore := hb f.before (by simp [Field.fragments, Control.fragments])
  have hafter := hb f.after (by simp [Field.fragments, Control.fragments])
  rw [items, f.viewsOf_wrap h hafter]
  simp [FileInput.tagViews, f.viewsOf_caption h, Control.marker, hbefore,
    f.tagView_attributes h hx, Attribute.tagView_eq, Element.name]

theorem Select.viewsOf_items {f : Select}
    (hb : ∀ m ∈ (Field.select f).fragments, m.isBlank = true)
    (hx : OnlyLength f.extraAttributes) :
    viewsOf (f.items s) = f.tagViews hook := by
  have hbefore := hb f.before (by simp [Field.fragments, Control.fragments])
  have hafter := hb f.after (by simp [Field.fragments, Control.fragments])
  have hplaceholder : viewsOf f.placeholderLine =
      if f.showsPlaceholder then [{ name := "option" }] else [] := by
    unfold placeholderLine
    split <;> simp [Attribute.tagView_eq, Element.name]
  have hoption : ∀ option : String × String,
      viewsOf (f.optionLine option) = [{ name := "option" }] := by
    intro option
    simp [optionLine, Attribute.tagView_eq, Element.name]
  rw [items, f.viewsOf_labelled h hbefore hafter, viewsOf_block, f.tagView_attributes h hx,
    viewsOf_append, hplaceholder, viewsOf_flatMap, flatMap_eq_map fun option _ => hoption option]
  rfl

theorem Switch.viewsOf_items {f : Switch}
    (hb : ∀ m ∈ (Field.switch f).fragments, m.isBlank = true)
    (hx : OnlyLength f.extraAttributes) :
    viewsOf (f.items s) = f.tagViews hook := by
  have hbefore := hb f.before (by simp [Field.fragments, Control.fragments])
  have hafter := hb f.after (by simp [Field.fragments, Control.fragments])
  have hwrapper := h.escaped "input-wrapper" (by decide)
  rw [items, viewsOf_block]
  simp [Switch.tagViews, Control.marker, hbefore, hafter, f.tagView_attributes h hx,
    Attribute.tagView_eq, Element.name, words_classList, hwrapper]

theorem Choice.viewsOf_wrap {c : Choice} (hb : ∀ m ∈ c.fragments, m.isBlank = true)
    (id part : String) (marker : List Item) {as : List Attribute}
    (has : Attribute.tagView .input as =
      { name := "input", classes := "form-control" :: hook part, id := given id }) :
    viewsOf (c.wrap s id marker as) = c.tagViews hook id part (viewsOf marker) := by
  have hbefore := hb c.before (by simp [Choice.fragments])
  have hafter := hb c.after (by simp [Choice.fragments])
  have hwrapper := h.escaped "input-wrapper" (by decide)
  rw [wrap, viewsOf_block]
  simp [Choice.tagViews, choiceClasses, hbefore, hafter, has, viewsOf_labelLine h,
    Attribute.tagView_eq, Element.name, words_classList, hwrapper]

theorem Group.viewsOf_items {g : Group} (hb : ∀ m ∈ g.fragments, m.isBlank = true)
    {part : String} (hp : Text.Unbroken part) (content : List Item) :
    viewsOf (g.items s part content) = g.tagViews hook part (viewsOf content) := by
  have hbefore := hb g.before (by simp [Group.fragments])
  have hafter := hb g.after (by simp [Group.fragments])
  simp [items, Group.tagViews, hbefore, hafter, Attribute.tagView_eq, Element.name,
    words_classList, h.escaped part hp]

theorem Checkbox.tagView_attributes (id : String) {c : Checkbox}
    (hx : OnlyLength c.extraAttributes) :
    Attribute.tagView .input (c.attributes s id) =
      { name := "input", classes := "form-control" :: hook "checkbox", id := given id } := by
  have hcheckbox := h.escaped "checkbox" (by decide)
  simp [Attribute.tagView_eq, Checkbox.attributes, Element.name, hx.valueOf, words_formControl,
    hcheckbox]

theorem CheckboxGroup.viewsOf_items {g : CheckboxGroup}
    (hb : ∀ m ∈ (Field.checkbox g).fragments, m.isBlank = true)
    (hx : OnlyLength (Field.checkbox g).authorAttributes) :
    viewsOf (g.items s) = g.tagViews s hook := by
  rw [items, g.toGroup.viewsOf_items h (fun m hm => hb m (List.mem_append_left _ hm)) (by decide),
    viewsOf_flatMap, CheckboxGroup.tagViews]
  refine congrArg _ (List.flatMap_congr fun p hp => ?_)
  have hc := mem_withIds hp
  have hblank : ∀ m ∈ p.2.fragments, m.isBlank = true := fun m hm =>
    hb m (List.mem_append_right _ (List.mem_flatMap.mpr ⟨p.2, hc, hm⟩))
  have hlength : OnlyLength p.2.extraAttributes := fun a ha =>
    hx a (List.mem_flatMap.mpr ⟨p.2, hc, ha⟩)
  rw [Checkbox.items, p.2.viewsOf_wrap h hblank p.1 "checkbox" _
    (p.2.tagView_attributes h p.1 hlength), viewsOf_markerLine]

theorem RadioGroup.tagView_attributes (g : RadioGroup) (id : String) {c : Choice}
    (hx : OnlyLength c.extraAttributes) :
    Attribute.tagView .input (g.attributes s id c) =
      { name := "input", classes := "form-control" :: hook "radio", id := given id } := by
  have hradio := h.escaped "radio" (by decide)
  simp [Attribute.tagView_eq, RadioGroup.attributes, Element.name, hx.valueOf, words_formControl,
    hradio]

theorem RadioGroup.viewsOf_titleLine (g : RadioGroup) :
    viewsOf (g.titleLine s) = g.titleViews caption := by
  have htitle := h.plain "group-title" (by decide) (by decide)
  unfold titleLine titleViews
  split
  · cases g.required <;>
      simp [Attribute.tagView_eq, Element.name, htitle, requiredMarker, markerViews]
  · rfl

theorem RadioGroup.viewsOf_items {g : RadioGroup}
    (hb : ∀ m ∈ (Field.radio g).fragments, m.isBlank = true)
    (hx : OnlyLength (Field.radio g).authorAttributes) :
    viewsOf (g.items s) = g.tagViews s hook caption := by
  rw [items, g.toGroup.viewsOf_items h (fun m hm => hb m (List.mem_append_left _ hm)) (by decide),
    viewsOf_append, g.viewsOf_titleLine h, viewsOf_flatMap, RadioGroup.tagViews]
  refine congrArg (fun views => g.toGroup.tagViews hook "radio-group" (_ ++ views))
    (List.flatMap_congr fun p hp => ?_)
  have hc := mem_withIds hp
  have hblank : ∀ m ∈ p.2.fragments, m.isBlank = true := fun m hm =>
    hb m (List.mem_append_right _ (List.mem_flatMap.mpr ⟨p.2, hc, hm⟩))
  have hlength : OnlyLength p.2.extraAttributes := fun a ha =>
    hx a (List.mem_flatMap.mpr ⟨p.2, hc, ha⟩)
  exact p.2.viewsOf_wrap h hblank p.1 "radio" _ (g.tagView_attributes h p.1 hlength)

theorem SubmitButton.viewsOf_items {b : SubmitButton}
    (hb : ∀ m ∈ (Field.submit b).fragments, m.isBlank = true) :
    viewsOf (b.items s) = b.tagViews hook := by
  have hbefore := hb b.before (by simp [Field.fragments])
  have hafter := hb b.after (by simp [Field.fragments])
  have hbtn := h.escaped "btn" (by decide)
  simp [items, SubmitButton.tagViews, hbefore, hafter, Attribute.tagView_eq, Element.name,
    words_classList, hbtn]

end Controls

theorem Field.Bare.onlyLength {f : Field} (h : f.Bare) (s : Settings) :
    OnlyLength (f.withDefaults s).authorAttributes := by
  intro a ha
  rcases Field.authorAttributes_withDefaults ha with ha | rfl
  · rw [h.noAttributes] at ha
    exact (List.not_mem_nil ha).elim
  · rfl

theorem Field.Bare.quiet {f : Field} (h : f.Bare) : f.Quiet := by
  refine ⟨h.blank, ?_⟩
  rw [h.noAttributes]
  exact fun _ ha => (List.not_mem_nil ha).elim

theorem Field.Bare.orderFields {fs : List Field} (h : ∀ f ∈ fs, f.Bare) :
    ∀ f ∈ orderFields fs, f.Bare := by
  intro f hf
  obtain ⟨g, hg, rfl⟩ := Field.mem_orderFields.mp hf
  refine ⟨fun m hm => (h g hg).blank m (Field.fragments_orderChoices.mp hm), ?_⟩
  refine List.eq_nil_iff_forall_not_mem.mpr fun a ha => ?_
  have hnone := Field.authorAttributes_orderChoices.mp ha
  rw [(h g hg).noAttributes] at hnone
  exact List.not_mem_nil hnone

def FormTag.tagViews (tag : FormTag) (container form : List String) : List TagView :=
  [{ name := "div", classes := container ++ Text.words (containerClass tag.classes) },
   { name := "form"
     classes := form ++ Text.words tag.classes ++ Text.words tag.formClasses
     id := given tag.id }]

theorem FormTag.viewsOf_opening (s : Settings) {tag : FormTag}
    (ht : tag.attributes.isBlank = true) :
    viewsOf (tag.opening s) =
      tag.tagViews (Text.words (s.ns ++ "_form_container")) (Text.words (s.ns ++ "_form")) := by
  have hoptional : ∀ {name n : String} (value : Option String), n ≠ name →
      Attribute.valueOf name (optionalAttribute n value) = none := by
    intro name n value hname
    cases value <;> simp [optionalAttribute, hname]
  simp [opening, FormTag.tagViews, containerAttributes, formAttributes, Attribute.tagView_eq,
    Element.name, words_classList, hoptional, RawMarkup.attribute_eq_nil ht]

namespace Renderer

variable {r : Renderer} {hook caption : String → List String}

theorem viewsOf_complete (h : r.settings.Hooks hook caption) {f : Field}
    (hr : f.isToken = true → r.emitter = none) (hb : ∀ m ∈ f.fragments, m.isBlank = true)
    (hx : OnlyLength f.authorAttributes) :
    viewsOf (r.complete f).items = f.tagViews r.settings hook caption := by
  cases f with
  | input type f => exact f.viewsOf_items h type hb hx
  | textArea f => exact f.viewsOf_items h hb hx
  | file f => exact f.viewsOf_items h hb hx
  | select f => exact f.viewsOf_items h hb hx
  | checkbox g => exact g.viewsOf_items h hb hx
  | radio g => exact g.viewsOf_items h hb hx
  | switch f => exact f.viewsOf_items h hb hx
  | hidden f =>
      have hpair : ∀ p : HiddenPair, viewsOf p.items = [{ name := "input" }] := by
        intro p
        simp [HiddenPair.items, Attribute.tagView_eq, Element.name]
      rw [complete, HiddenPair.listItems, viewsOf_flatMap, flatMap_eq_map fun p _ => hpair p]
      rfl
  | nonce n =>
      rw [complete, nonce, hr rfl]
      rfl
  | submit b => exact b.viewsOf_items h hb
  | unknown => rfl

def fieldViews (r : Renderer) (hook caption : String → List String) (fs : List Field) :
    List TagView :=
  (orderFields fs).flatMap fun f => (f.withDefaults r.settings).tagViews r.settings hook caption

theorem viewsOf_fields (h : r.settings.Hooks hook caption) (hr : r.emitter = none)
    {fs : List Field} (hf : ∀ f ∈ fs, f.Bare) :
    viewsOf (r.fields fs).items = r.fieldViews hook caption fs := by
  rw [items_fields, viewsOf_flatMap, fieldViews]
  refine List.flatMap_congr fun f hmem => ?_
  have hbare := Field.Bare.orderFields hf f hmem
  refine viewsOf_complete h (fun _ => hr) ?_ (hbare.onlyLength r.settings)
  rw [Field.fragments_withDefaults]
  exact hbare.blank

theorem viewsOf_form (h : r.settings.Hooks hook caption) (hr : r.emitter = none)
    {fs : List Field} (hf : ∀ f ∈ fs, f.Bare) (hne : fs ≠ []) {tag : FormTag}
    (ht : tag.attributes.isBlank = true) :
    viewsOf (r.form fs tag).items =
      tag.tagViews (Text.words (r.settings.ns ++ "_form_container"))
        (Text.words (r.settings.ns ++ "_form")) ++ r.fieldViews hook caption fs := by
  rw [items_form r hne, viewsOf_append, viewsOf_append, FormTag.viewsOf_opening r.settings ht,
    viewsOf_fields h hr hf]
  simp [FormTag.closing]

end Renderer

end FormMarkup
