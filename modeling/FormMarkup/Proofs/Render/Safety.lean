import FormMarkup.Proofs.Render.Assembly
import FormMarkup.Proofs.Render.Sound

namespace FormMarkup

open FormMarkup.Markup

theorem FormTag.allTame_formAttributes (s : Settings) {tag : FormTag}
    (h : tag.attributes.isBlank = true) : AllTame (tag.formAttributes s) := by
  have hoptional : ∀ name value, IsTagName name → AllTame (optionalAttribute name value) := by
    intro name value hname
    cases value <;> simp [optionalAttribute, hname]
  simp [FormTag.formAttributes, hoptional, RawMarkup.attribute_eq_nil h]

theorem FormTag.sound_envelope (s : Settings) {tag : FormTag}
    (h : tag.attributes.isBlank = true) {content : List Item} (hc : Sound content) :
    Sound (tag.opening s ++ content ++ FormTag.closing) := by
  have hform := Sound.element .form rfl (FormTag.allTame_formAttributes s h)
    (Sound.newline.append hc)
  have hbody := (Sound.newline.append hform).append Sound.newline
  have hcontainer : AllTame (tag.containerAttributes s) := by
    simp [FormTag.containerAttributes]
  have hdiv := (Sound.element .div rfl hcontainer hbody).append Sound.newline
  simpa [FormTag.opening, FormTag.closing] using hdiv

namespace Field

theorem isCaptioned_withDefaults (s : Settings) (f : Field) :
    (f.withDefaults s).isCaptioned = f.isCaptioned := by
  cases f <;> rfl

theorem isCaptioned_orderChoices (f : Field) : f.orderChoices.isCaptioned = f.isCaptioned := by
  cases f <;> rfl

end Field

namespace Renderer

section Captions

variable {r : Renderer}

theorem sound_complete_captioned {f : Field} (hr : f.isToken = true → r.emitter = none)
    (hq : f.isCaptioned = true → '"' ∉ r.settings.ns.toList) (h : f.Quiet) :
    Sound (r.complete f).items := by
  cases f with
  | input type f => exact TextInput.sound_items r.settings type h
  | textArea f => exact TextArea.sound_items r.settings h
  | file f => exact FileInput.sound_items hq h
  | select f => exact Select.sound_items r.settings h
  | checkbox g => exact CheckboxGroup.sound_items r.settings h
  | radio g => exact RadioGroup.sound_items hq h
  | switch f => exact Switch.sound_items r.settings h
  | hidden f => exact HiddenPair.sound_listItems f.pairs
  | nonce n =>
      rw [complete, nonce, hr rfl]
      exact Sound.nil
  | submit b => exact SubmitButton.sound_items r.settings h
  | unknown => exact Sound.nil

theorem sound_field_captioned (hr : r.emitter = none)
    (hm : '\x27' ∉ r.settings.textMaxLength.toList) {f : Field}
    (hq : f.isCaptioned = true → '"' ∉ r.settings.ns.toList) (h : f.Quiet) :
    Sound (r.field f).items := by
  refine sound_complete_captioned (fun _ => hr) ?_ (h.withDefaults hm)
  rw [Field.isCaptioned_withDefaults]
  exact hq

theorem sound_form_captioned (hr : r.emitter = none)
    (hm : '\x27' ∉ r.settings.textMaxLength.toList) {fs : List Field}
    (hq : ∀ f ∈ fs, f.isCaptioned = true → '"' ∉ r.settings.ns.toList)
    (h : ∀ f ∈ fs, f.Quiet) {tag : FormTag} (ht : tag.attributes.isBlank = true) :
    Sound (r.form fs tag).items := by
  cases fs with
  | nil => exact Sound.nil
  | cons f fs =>
      rw [items_form r (List.cons_ne_nil f fs)]
      refine FormTag.sound_envelope r.settings ht ?_
      rw [items_fields]
      refine Sound.flatMap fun f hf => ?_
      obtain ⟨g, hg, rfl⟩ := Field.mem_orderFields.mp hf
      refine sound_field_captioned hr hm ?_ (h g hg).orderChoices
      rw [Field.isCaptioned_orderChoices]
      exact hq g hg

end Captions

theorem sound_complete {r : Renderer} {f : Field} (hr : f.isToken = true → r.emitter = none)
    (hs : r.settings.PlainNamespace) (h : f.Quiet) : Sound (r.complete f).items :=
  sound_complete_captioned hr (fun _ => hs.unquoted) h

theorem sound_form {r : Renderer} (hr : r.emitter = none)
    (hs : r.settings.PlainNamespace) (hm : '\x27' ∉ r.settings.textMaxLength.toList)
    {fs : List Field} (h : ∀ f ∈ fs, f.Quiet) {tag : FormTag}
    (ht : tag.attributes.isBlank = true) : Sound (r.form fs tag).items :=
  sound_form_captioned hr hm (fun _ _ _ => hs.unquoted) h ht

theorem form_markup_intact (r : Renderer) (fs : List Field) (tag : FormTag)
    (hr : r.emitter = none) (hs : r.settings.PlainNamespace)
    (hm : '\x27' ∉ r.settings.textMaxLength.toList) (ht : tag.attributes.isBlank = true)
    (hf : ∀ f ∈ fs, f.Quiet) :
    ∃ events, scan (r.form fs tag).html = some events ∧
      (∀ name ∈ events.filterMap Event.tag?, name ∈ formTags) ∧
      wellNested [] events = true ∧
      ∀ content ∈ events.filterMap Event.text?, '<' ∉ content.toList ∧ '>' ∉ content.toList := by
  have hsound := sound_form hr hs hm hf ht
  refine ⟨eventsOf [] (r.form fs tag).items, scan_write hsound.tame, ?_, ?_, ?_⟩
  · intro name hname
    exact tags_eventsOf hname
  · exact wellNested_eventsOf (hsound.balanced []) []
  · intro content hcontent
    have hnil : Angleless [] := fun _ hc => (List.not_mem_nil hc).elim
    have htext := angleless_eventsOf hsound.tame hnil hcontent
    exact ⟨fun hc => (htext _ hc).1 rfl, fun hc => (htext _ hc).2 rfl⟩

def hostileFields : List Field :=
  [.input .text
    { label := "<b>", name := "\"><script>", value := "'&", extraAttributes := some [("a>", "b")] },
   .select { hint := "</form>", options := [("\" x=\"", "</option>")] },
   .checkbox { choices := [{ label := "<i>", name := "a[]", value := "\"" }] },
   .unknown]

theorem form_markup_intact_hostile :
    (({} : Renderer).emitter = none ∧ ({} : Renderer).settings.PlainNamespace ∧
      '\x27' ∉ ({} : Renderer).settings.textMaxLength.toList ∧
      ({ id := "\">" } : FormTag).attributes.isBlank = true ∧ ∀ f ∈ hostileFields, f.Quiet) ∧
    ∃ events, scan (({} : Renderer).form hostileFields { id := "\">" }).html = some events ∧
      (∀ name ∈ events.filterMap Event.tag?, name ∈ formTags) ∧
      wellNested [] events = true ∧
      ∀ content ∈ events.filterMap Event.text?,
        '<' ∉ content.toList ∧ '>' ∉ content.toList := by
  have hs : ({} : Renderer).settings.PlainNamespace := by decide
  have hm : '\x27' ∉ ({} : Renderer).settings.textMaxLength.toList := by decide
  have hf : ∀ f ∈ hostileFields, f.Quiet := by
    intro f hf
    simp only [hostileFields, List.mem_cons, List.not_mem_nil, or_false] at hf
    rcases hf with rfl | rfl | rfl | rfl <;>
      exact ⟨by decide, by unfold Unquoted; decide⟩
  exact ⟨⟨rfl, hs, hm, rfl, hf⟩,
    form_markup_intact {} hostileFields { id := "\">" } rfl hs hm rfl hf⟩

end Renderer

end FormMarkup
