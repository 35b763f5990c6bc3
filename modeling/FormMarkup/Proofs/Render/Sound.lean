import FormMarkup.Form.Tag
import FormMarkup.Proofs.Field.Quiet
import FormMarkup.Proofs.Markup.Extra
import FormMarkup.Proofs.Markup.Nesting
import FormMarkup.Render.Controls
import FormMarkup.Render.Groups

namespace FormMarkup

open FormMarkup.Markup

def Settings.PlainNamespace (s : Settings) : Prop :=
  ∀ c ∈ s.ns.toList, c ∉ ['&', '<', '>', '\x27', '"']

instance (s : Settings) : Decidable s.PlainNamespace :=
  decidable_of_iff (s.ns.toList.all (fun c => c ∉ ['&', '<', '>', '\x27', '"']) = true)
    (by simp [Settings.PlainNamespace])

theorem Settings.PlainNamespace.unquoted {s : Settings} (hs : s.PlainNamespace) :
    '"' ∉ s.ns.toList :=
  fun hm => hs _ hm (by simp)

def Field.isCaptioned : Field → Bool
  | .file f => f.label != ""
  | .radio g => g.required || g.title != ""
  | _ => false

theorem tame_hook {s : Settings} (hq : '"' ∉ s.ns.toList) {part : String}
    (hp : '"' ∉ part.toList) : (Attribute.plain "class" (s.hook part)).Tame := by
  refine ⟨by simp, fun hm => ?_⟩
  simp only [Settings.hook, String.toList_append, List.mem_append] at hm
  rcases hm with (hm | hm) | hm
  · exact hq hm
  · simp at hm
  · exact hp hm

namespace Markup

@[simp]
theorem tame_escaped {name value : String} : (Attribute.escaped name value).Tame ↔ IsTagName name :=
  Iff.rfl

@[simp]
theorem tame_bare {name : String} : (Attribute.bare name).Tame ↔ IsTagName name :=
  Iff.rfl

@[simp]
theorem allTame_unlessEmpty {name value : String} (h : IsTagName name) :
    AllTame (unlessEmpty name value) := by
  unfold unlessEmpty
  split <;> simp [h]

@[simp]
theorem allTame_bareIf {set : Bool} {name : String} (h : IsTagName name) :
    AllTame (bareIf set name) := by
  unfold bareIf
  split <;> simp [h]

theorem allTame_extraAttributes (c : Constraints) {map : TextMap} (h : Unquoted map) :
    AllTame (extraAttributes c map) := by
  intro a ha
  obtain ⟨entry, hentry, rfl⟩ := List.mem_map.mp ha
  obtain ⟨hmem, hname⟩ := List.mem_filter.mp hentry
  rw [Bool.and_eq_true] at hname
  exact ⟨(isAttributeName_iff.mp hname.1).isTagName, h entry hmem⟩

end Markup

theorem RawMarkup.line_eq_nil {m : RawMarkup} (h : m.isBlank = true) (indent : String) :
    m.line indent = [] := by
  rw [RawMarkup.line, if_pos h]

theorem RawMarkup.attribute_eq_nil {m : RawMarkup} (h : m.isBlank = true) :
    m.attribute = [] := by
  rw [RawMarkup.attribute, if_pos h]

theorem sound_requiredMarker (title : Option String) : Sound (requiredMarker title) :=
  Sound.element .abbr rfl (by simp) (Sound.text "*")

theorem sound_markerLine {indent : String} (hi : indent ∈ layoutBlanks) (required : Bool)
    (title : Option String) : Sound (markerLine indent required title) := by
  unfold markerLine
  split
  · exact ((Sound.layout hi).append (sound_requiredMarker title)).append Sound.newline
  · exact Sound.nil

theorem sound_labelLine (s : Settings) {indent : String} (hi : indent ∈ layoutBlanks)
    (id label : String) : Sound (labelLine s indent id label) := by
  unfold labelLine
  split
  · exact Sound.nil
  · exact Sound.line hi .label rfl (by simp) label

theorem sound_inputLine {indent : String} (hi : indent ∈ layoutBlanks) {as : List Attribute}
    (h : AllTame as) : Sound (inputLine indent as) :=
  ((Sound.layout hi).append (Sound.input h)).append Sound.newline

theorem RawMarkup.sound_line {m : RawMarkup} (h : m.isBlank = true) (indent : String) :
    Sound (m.line indent) := by
  rw [RawMarkup.line_eq_nil h]
  exact Sound.nil

namespace Control

theorem allTame_describedBy (c : Control) : AllTame c.describedBy := by
  unfold describedBy
  split <;> simp

theorem sound_hintLine (c : Control) : Sound c.hintLine := by
  unfold hintLine
  split
  · exact Sound.nil
  · refine Sound.line blank_four .small rfl ?_ c.hint
    split <;> simp

theorem sound_marker (c : Control) : Sound c.marker :=
  sound_markerLine blank_four c.required c.requiredTitle

theorem sound_wrap (s : Settings) {c : Control} (ha : c.after.isBlank = true)
    {content : List Item} (hc : Sound content) : Sound (c.wrap s content) :=
  Sound.block blank_two .div rfl (by simp)
    ((hc.append c.sound_hintLine).append (RawMarkup.sound_line ha "    "))

theorem sound_labelled (s : Settings) {c : Control} (hb : c.before.isBlank = true)
    (ha : c.after.isBlank = true) {control : List Item} (hc : Sound control) :
    Sound (c.labelled s control) := by
  have hhead := (RawMarkup.sound_line hb "    ").append
    (sound_labelLine s blank_four c.elementId c.label)
  exact c.sound_wrap s ha ((hhead.append c.sound_marker).append hc)

end Control

theorem TextInput.allTame_attributes (s : Settings) (type : InputType) {f : TextInput}
    (hv : f.visibility.isBlank = true) (hx : Unquoted (f.extraAttributes.getD [])) :
    AllTame (f.attributes s type) := by
  have hextra := allTame_extraAttributes (constraints type) hx
  simp [TextInput.attributes, f.allTame_describedBy, RawMarkup.attribute_eq_nil hv, hextra]

theorem TextInput.sound_items (s : Settings) (type : InputType) {f : TextInput}
    (h : (Field.input type f).Quiet) : Sound (f.items s type) := by
  have hv := h.blank f.visibility (by simp [Field.fragments])
  have hb := h.blank f.before (by simp [Field.fragments, Control.fragments])
  have ha := h.blank f.after (by simp [Field.fragments, Control.fragments])
  have hattributes := TextInput.allTame_attributes s type hv h.unquoted
  exact f.sound_labelled s hb ha (sound_inputLine blank_four hattributes)

theorem TextArea.allTame_attributes (s : Settings) {f : TextArea}
    (hx : Unquoted f.extraAttributes) : AllTame (f.attributes s) := by
  simp [TextArea.attributes, f.allTame_describedBy, allTame_extraAttributes _ hx]

theorem TextArea.sound_items (s : Settings) {f : TextArea} (h : (Field.textArea f).Quiet) :
    Sound (f.items s) := by
  have hb := h.blank f.before (by simp [Field.fragments, Control.fragments])
  have ha := h.blank f.after (by simp [Field.fragments, Control.fragments])
  have hattributes := TextArea.allTame_attributes s h.unquoted
  exact f.sound_labelled s hb ha (Sound.line blank_four .textarea rfl hattributes f.value)

theorem FileInput.allTame_attributes (s : Settings) {f : FileInput}
    (hx : Unquoted f.extraAttributes) : AllTame (f.attributes s) := by
  simp [FileInput.attributes, f.allTame_describedBy, allTame_extraAttributes _ hx]

theorem FileInput.sound_caption {s : Settings} {f : FileInput}
    (hq : (Field.file f).isCaptioned = true → '"' ∉ s.ns.toList) : Sound (f.caption s) := by
  unfold FileInput.caption
  split
  · exact Sound.nil
  · next hlabel =>
      have hns : '"' ∉ s.ns.toList := hq (by simp [Field.isCaptioned, hlabel])
      exact Sound.line blank_four .paragraph rfl (by simp [tame_hook hns]) f.label

theorem FileInput.sound_items {s : Settings} {f : FileInput}
    (hq : (Field.file f).isCaptioned = true → '"' ∉ s.ns.toList)
    (h : (Field.file f).Quiet) : Sound (f.items s) := by
  have hb := h.blank f.before (by simp [Field.fragments, Control.fragments])
  have ha := h.blank f.after (by simp [Field.fragments, Control.fragments])
  have hinput := sound_inputLine blank_six (FileInput.allTame_attributes s h.unquoted)
  have hlabel : Sound (line "      " .label
      (.escaped "class" "custom-file-label" :: unlessEmpty "for" f.elementId) f.label) :=
    Sound.line blank_six .label rfl (by simp) f.label
  have hbox : Sound (block "    " .div [.escaped "class" "custom-file"]
      (f.before.line "      " ++ inputLine "      " (f.attributes s) ++
        line "      " .label
          (.escaped "class" "custom-file-label" :: unlessEmpty "for" f.elementId) f.label)) :=
    Sound.block blank_four .div rfl (by simp)
      (((RawMarkup.sound_line hb "      ").append hinput).append hlabel)
  exact f.sound_wrap s ha (((FileInput.sound_caption hq).append f.sound_marker).append hbox)

theorem Select.allTame_attributes (s : Settings) {f : Select}
    (hx : Unquoted f.extraAttributes) : AllTame (f.attributes s) := by
  simp [Select.attributes, f.allTame_describedBy, allTame_extraAttributes _ hx]

theorem Select.sound_placeholderLine (f : Select) : Sound f.placeholderLine := by
  unfold Select.placeholderLine
  split
  · exact Sound.line blank_six .option rfl (by simp) f.placeholder
  · exact Sound.nil

theorem Select.sound_optionLine (f : Select) (option : String × String) :
    Sound (f.optionLine option) :=
  Sound.line blank_six .option rfl (by simp) option.2

theorem Select.sound_items (s : Settings) {f : Select} (h : (Field.select f).Quiet) :
    Sound (f.items s) := by
  have hb := h.blank f.before (by simp [Field.fragments, Control.fragments])
  have ha := h.blank f.after (by simp [Field.fragments, Control.fragments])
  have hoptions : Sound (f.options.flatMap f.optionLine) :=
    Sound.flatMap fun option _ => f.sound_optionLine option
  have hattributes := Select.allTame_attributes s h.unquoted
  exact f.sound_labelled s hb ha
    (Sound.block blank_four .select rfl hattributes (f.sound_placeholderLine.append hoptions))

theorem Switch.allTame_attributes (s : Settings) {f : Switch}
    (hx : Unquoted f.extraAttributes) : AllTame (f.attributes s) := by
  simp [Switch.attributes, f.allTame_describedBy, allTame_extraAttributes _ hx]

theorem Switch.sound_items (s : Settings) {f : Switch} (h : (Field.switch f).Quiet) :
    Sound (f.items s) := by
  have hb := h.blank f.before (by simp [Field.fragments, Control.fragments])
  have ha := h.blank f.after (by simp [Field.fragments, Control.fragments])
  have hinput := sound_inputLine blank_four (Switch.allTame_attributes s h.unquoted)
  have hlabel : Sound (line "    " .label
      (.escaped "class" "custom-control-label" :: unlessEmpty "for" f.elementId) f.label) :=
    Sound.line blank_four .label rfl (by simp) f.label
  have hcontrol := ((RawMarkup.sound_line hb "    ").append f.sound_marker).append hinput
  exact Sound.block blank_two .div rfl (by simp)
    (((hcontrol.append hlabel).append f.sound_hintLine).append (RawMarkup.sound_line ha "    "))

theorem SubmitButton.sound_items (s : Settings) {b : SubmitButton}
    (h : (Field.submit b).Quiet) : Sound (b.items s) := by
  have hb := h.blank b.before (by simp [Field.fragments])
  have ha := h.blank b.after (by simp [Field.fragments])
  have hbutton : Sound (line "    " .button
      ([.escaped "class" (classList ["btn btn-primary", s.hook "btn", b.classes])] ++
        unlessEmpty "id" b.id ++ [.escaped "type" "submit"]) (b.value.getD s.submitLabel)) :=
    Sound.line blank_four .button rfl (by simp) _
  exact Sound.block blank_two .div rfl (by simp)
    (((RawMarkup.sound_line hb "    ").append hbutton).append (RawMarkup.sound_line ha "    "))

theorem HiddenPair.sound_listItems (pairs : List HiddenPair) :
    Sound (HiddenPair.listItems pairs) :=
  Sound.flatMap fun _ _ => sound_inputLine blank_two (by simp)

theorem Choice.sound_wrap (s : Settings) {c : Choice}
    (h : ∀ m ∈ c.fragments, m.isBlank = true) (id : String) {marker : List Item}
    (hm : Sound marker) {as : List Attribute} (has : AllTame as) :
    Sound (c.wrap s id marker as) := by
  have hb := h c.before (by simp [Choice.fragments])
  have ha := h c.after (by simp [Choice.fragments])
  have hinput := ((RawMarkup.sound_line hb "      ").append hm).append
    (sound_inputLine blank_six has)
  exact Sound.block blank_four .div rfl (by simp)
    ((hinput.append (sound_labelLine s blank_six id c.label)).append
      (RawMarkup.sound_line ha "      "))

theorem Group.sound_items (s : Settings) {g : Group}
    (h : ∀ m ∈ g.fragments, m.isBlank = true) (part : String) {content : List Item}
    (hc : Sound content) : Sound (g.items s part content) := by
  have hb := h g.before (by simp [Group.fragments])
  have ha := h g.after (by simp [Group.fragments])
  exact ((RawMarkup.sound_line hb "  ").append
    (Sound.block blank_two .div rfl (by simp) hc)).append (RawMarkup.sound_line ha "  ")

theorem mem_withIds {α : Type} {own : α → Option String} {computed : Nat → α → String}
    {k : Nat} {xs : List α} {p : String × α} (h : p ∈ withIds own computed k xs) : p.2 ∈ xs := by
  induction xs generalizing k with
  | nil => cases h
  | cons x xs ih =>
      unfold withIds at h
      split at h
      · rcases List.mem_cons.mp h with rfl | h
        · exact List.mem_cons_self ..
        · exact List.mem_cons_of_mem _ (ih h)
      · rcases List.mem_cons.mp h with rfl | h
        · exact List.mem_cons_self ..
        · exact List.mem_cons_of_mem _ (ih h)

theorem Checkbox.allTame_attributes (s : Settings) (id : String) {c : Checkbox}
    (hx : Unquoted c.extraAttributes) : AllTame (c.attributes s id) := by
  simp [Checkbox.attributes, allTame_extraAttributes _ hx]

theorem CheckboxGroup.sound_items (s : Settings) {g : CheckboxGroup}
    (h : (Field.checkbox g).Quiet) : Sound (g.items s) := by
  refine g.toGroup.sound_items s (fun m hm => h.blank m (List.mem_append_left _ hm)) _
    (Sound.flatMap fun p hp => ?_)
  have hc := mem_withIds hp
  have hblank : ∀ m ∈ p.2.fragments, m.isBlank = true := fun m hm =>
    h.blank m (List.mem_append_right _ (List.mem_flatMap.mpr ⟨p.2, hc, hm⟩))
  have hx : Unquoted p.2.extraAttributes := fun a ha =>
    h.unquoted a (List.mem_flatMap.mpr ⟨p.2, hc, ha⟩)
  exact p.2.sound_wrap s hblank p.1
    (sound_markerLine blank_six p.2.required p.2.requiredTitle)
    (Checkbox.allTame_attributes s p.1 hx)

theorem RadioGroup.allTame_attributes (s : Settings) (g : RadioGroup) (id : String) {c : Choice}
    (hx : Unquoted c.extraAttributes) : AllTame (g.attributes s id c) := by
  simp [RadioGroup.attributes, allTame_extraAttributes _ hx]

theorem RadioGroup.sound_titleLine {s : Settings} {g : RadioGroup}
    (hq : (Field.radio g).isCaptioned = true → '"' ∉ s.ns.toList) : Sound (g.titleLine s) := by
  unfold RadioGroup.titleLine
  split
  · next htitle =>
      have hmarker : Sound
          (if g.required then requiredMarker g.requiredTitle ++ [.layout " "] else []) := by
        split
        · exact (sound_requiredMarker g.requiredTitle).append (Sound.layout blank_one)
        · exact Sound.nil
      have hclass : AllTame [.plain "class" (s.hook "group-title")] := by
        simp [tame_hook (hq htitle)]
      have hlabel := Sound.element .label rfl hclass (hmarker.append (Sound.text g.title))
      have hline := ((Sound.layout blank_four).append hlabel).append Sound.newline
      simpa using hline
  · exact Sound.nil

theorem RadioGroup.sound_items {s : Settings} {g : RadioGroup}
    (hq : (Field.radio g).isCaptioned = true → '"' ∉ s.ns.toList)
    (h : (Field.radio g).Quiet) : Sound (g.items s) := by
  refine g.toGroup.sound_items s (fun m hm => h.blank m (List.mem_append_left _ hm)) _
    ((RadioGroup.sound_titleLine hq).append (Sound.flatMap fun p hp => ?_))
  have hc := mem_withIds hp
  have hblank : ∀ m ∈ p.2.fragments, m.isBlank = true := fun m hm =>
    h.blank m (List.mem_append_right _ (List.mem_flatMap.mpr ⟨p.2, hc, hm⟩))
  have hx : Unquoted p.2.extraAttributes := fun a ha =>
    h.unquoted a (List.mem_flatMap.mpr ⟨p.2, hc, ha⟩)
  exact p.2.sound_wrap s hblank p.1 Sound.nil (RadioGroup.allTame_attributes s g p.1 hx)

end FormMarkup
