import FormMarkup.Proofs.Render.Namespace
import FormMarkup.Proofs.Render.Respacing
import FormMarkup.Proofs.Render.Starts

namespace FormMarkup

open FormMarkup.Markup
open FormMarkup.Text (Tidy tokens words_eq_tokens)

structure Markup.ClassValue (w : String) (classes : List String) : Prop where
  closed : '"' ∉ w.toList
  decoded : Markup.decoded w = " ".intercalate classes
  tidy : Tidy (Markup.decoded w)

theorem tidy_classList (parts : List String) : Tidy (classList parts) := by
  rw [classList, Text.joinWords_eq_intercalate]
  refine Text.tidy_intercalate fun w hw => ?_
  obtain ⟨part, _, hw⟩ := List.mem_flatMap.mp hw
  exact ⟨Text.unbroken_words hw, Text.ne_empty_of_mem_words hw⟩

theorem Markup.classValue_classList {parts classes : List String}
    (h : Text.words (classList parts) = classes) :
    ClassValue (escapeValue (classList parts)) classes where
  closed := by
    rw [escapeValue, String.toList_ofList]
    exact fun hm => (mem_escapeValueChars hm).1 rfl
  decoded := by
    rw [decoded_escapeValue, classList, Text.joinWords_eq_intercalate, ← words_classList, h]
  tidy := by
    rw [decoded_escapeValue]
    exact tidy_classList parts

section ClassLists

theorem FormTag.words_containerClass (classes : String) :
    Text.words (containerClass classes) =
      (Text.words classes).modifyHead (· ++ "-container") := by
  have hself : ∀ w ∈ Text.words classes, Text.words w = [w] := fun _ => Text.words_of_mem_words
  have hclean : ∀ w ∈ Text.words classes, Text.Unbroken w := fun _ => Text.unbroken_words
  unfold containerClass
  cases hwords : Text.words classes with
  | nil => rfl
  | cons first rest =>
      rw [hwords] at hself hclean
      obtain ⟨hfirst, -⟩ := List.forall_mem_cons.mp hclean
      obtain ⟨-, hrest⟩ := List.forall_mem_cons.mp hself
      have hnamed : Text.words (first ++ "-container") = [first ++ "-container"] :=
        Text.words_unbroken (hfirst.append (by decide)) (by simp)
      simp only [Text.words_joinWords, List.flatMap_cons, hnamed,
        Text.flatMap_words_of_single hrest, List.modifyHead_cons, List.singleton_append]

variable {s : Settings} (hs : Text.Unbroken s.ns)
include hs

theorem FormTag.containerClass_classValue (tag : FormTag) :
    ClassValue (escapeValue (classList [s.ns ++ "_form_container", containerClass tag.classes]))
      ((s.ns ++ "_form_container") :: (tokens tag.classes).modifyHead (· ++ "-container")) := by
  refine classValue_classList ?_
  have hns := Settings.words_namespace hs "_form_container" (by decide) (by decide)
  simp [words_classList, hns, words_containerClass, ← words_eq_tokens]

theorem FormTag.formClass_classValue (tag : FormTag) :
    ClassValue (escapeValue (classList [s.ns ++ "_form", tag.classes, tag.formClasses]))
      ((s.ns ++ "_form") :: (tokens tag.classes ++ tokens tag.formClasses)) := by
  refine classValue_classList ?_
  have hns := Settings.words_namespace hs "_form" (by decide) (by decide)
  simp [words_classList, hns, ← words_eq_tokens]

theorem Switch.inputClasses_classValue (f : Switch) :
    ClassValue (escapeValue (f.inputClasses s))
      (["custom-control-input", s.ns ++ "-input", s.ns ++ "-switch"] ++
        (tokens f.classes).map fun token => s.ns ++ "-" ++ token) := by
  have hinput : s.ns ++ "-input" = s.hook "input" := by simp [Settings.hook, String.append_assoc]
  have hswitch : s.ns ++ "-switch" = s.hook "switch" := by
    simp [Settings.hook, String.append_assoc]
  have hwords := f.words_inputClasses (Settings.hooks_unbroken hs)
  rw [hinput, hswitch, ← words_eq_tokens]
  exact classValue_classList (hwords.trans (by simp [List.map_eq_flatMap, Settings.hook]))

end ClassLists

theorem FormTag.write_opening (s : Settings) (tag : FormTag) :
    ∃ rest,
      write (tag.opening s) =
        "<div class=\"" ++
          escapeValue (classList [s.ns ++ "_form_container", containerClass tag.classes]) ++
          "\">\n<form" ++
          writeAttributes
            (optionalAttribute "action" tag.action ++ optionalAttribute "method" tag.method) ++
          " class=\"" ++ escapeValue (classList [s.ns ++ "_form", tag.classes, tag.formClasses]) ++
          "\"" ++ rest := by
  refine ⟨writeAttributes (unlessEmpty "id" tag.id ++ tag.attributes.attribute) ++ ">\n",
    String.toList_inj.mp ?_⟩
  simp [opening, containerAttributes, formAttributes, write, Item.write, Element.name,
    writeAttributes, writeAttributes_append, Attribute.write]

theorem Switch.writeAttributes_eq (s : Settings) (f : Switch) :
    ∃ rest,
      writeAttributes (f.attributes s) =
        " type=\"checkbox\" class=\"" ++ escapeValue (f.inputClasses s) ++ "\"" ++ rest := by
  obtain ⟨others, hothers⟩ : ∃ others, f.attributes s =
      [.escaped "type" "checkbox", .escaped "class" (f.inputClasses s)] ++ others :=
    ⟨_, by simp only [attributes, List.append_assoc]; rfl⟩
  have htype : escapeValue "checkbox" = "checkbox" := by decide
  refine ⟨writeAttributes others, String.toList_inj.mp ?_⟩
  rw [hothers, writeAttributes_append]
  simp [writeAttributes, Attribute.write, htype]

theorem Switch.input_field (r : Renderer) (f : Switch) :
    ∃ as rest,
      starts .input (r.field (.switch f)).items = [as] ∧
        writeAttributes as =
          " type=\"checkbox\" class=\"" ++ escapeValue (f.inputClasses r.settings) ++ "\"" ++
            rest := by
  let g : Switch := { f with toControl := f.toControl.withDefaults r.settings }
  have hinput : starts .input (g.items r.settings) = [g.attributes r.settings] := by
    rw [g.starts_items rfl, starts_inputLine, if_pos rfl]
  obtain ⟨rest, hrest⟩ := g.writeAttributes_eq r.settings
  exact ⟨g.attributes r.settings, rest, hinput, hrest⟩

namespace Renderer

theorem items_form_of_mem (r : Renderer) {fs : List Field} {f : Field} (h : f ∈ fs)
    (tag : FormTag) :
    ∃ front back, (r.form fs tag).items = front ++ (r.field f.orderChoices).items ++ back := by
  have hordered : f.orderChoices ∈ orderFields fs := Field.mem_orderFields.mpr ⟨f, h, rfl⟩
  obtain ⟨before, after, hsplit⟩ := List.append_of_mem hordered
  have hne : fs ≠ [] := List.ne_nil_of_mem h
  refine ⟨tag.opening r.settings ++ before.flatMap fun g => (r.field g).items,
    (after.flatMap fun g => (r.field g).items) ++ FormTag.closing, ?_⟩
  rw [items_form r hne, items_fields, hsplit, List.flatMap_append, List.flatMap_cons]
  simp only [List.append_assoc]

theorem classes_matter_by_tokens (r : Renderer) (hs : Text.Unbroken r.settings.ns)
    (fs : List Field) (tag : FormTag) :
    (∀ gs tag', List.Forall₂ Field.Respaced fs gs → tag.Respaced tag' →
      r.form gs tag' = r.form fs tag) ∧
    (fs ≠ [] →
      ∃ container form rest,
        (r.form fs tag).html =
          "<div class=\"" ++ container ++ "\">\n<form" ++
            writeAttributes
              (FormTag.optionalAttribute "action" tag.action ++
                FormTag.optionalAttribute "method" tag.method) ++
            " class=\"" ++ form ++ "\"" ++ rest ∧
        ClassValue container
          ((r.settings.ns ++ "_form_container") ::
            (tokens tag.classes).modifyHead (· ++ "-container")) ∧
        ClassValue form
          ((r.settings.ns ++ "_form") :: (tokens tag.classes ++ tokens tag.formClasses))) ∧
    ∀ f, .switch f ∈ fs →
      ∃ front back as switch rest,
        (r.form fs tag).items = front ++ (r.field (.switch f)).items ++ back ∧
        starts .input (r.field (.switch f)).items = [as] ∧
        writeAttributes as = " type=\"checkbox\" class=\"" ++ switch ++ "\"" ++ rest ∧
        ClassValue switch
          (["custom-control-input", r.settings.ns ++ "-input", r.settings.ns ++ "-switch"] ++
            (tokens f.classes).map fun token => r.settings.ns ++ "-" ++ token) := by
  refine ⟨fun gs tag' hfields htag => r.form_respaced hfields htag, fun hne => ?_,
    fun f hf => ?_⟩
  · obtain ⟨rest, hopening⟩ := tag.write_opening r.settings
    refine ⟨_, _, rest ++ write ((r.fields fs).items ++ FormTag.closing), ?_,
      tag.containerClass_classValue hs, tag.formClass_classValue hs⟩
    rw [Rendered.html, items_form r hne, List.append_assoc, write_append, hopening,
      String.append_assoc]
  · obtain ⟨front, back, hitems⟩ := r.items_form_of_mem hf tag
    obtain ⟨as, rest, hinput, hwrite⟩ := f.input_field r
    exact ⟨front, back, as, _, rest, hitems, hinput, hwrite, f.inputClasses_classValue hs⟩

def spreadSwitch : Switch :=
  { name := "s", classes := "\tbig\u2003\u00A0red\n" }

def spreadTag : FormTag :=
  { classes := " login\u3000 wide\r\n", formClasses := "  " }

theorem classes_matter_by_tokens_spread :
    Text.Unbroken ({} : Renderer).settings.ns ∧
    ({} : Renderer).form [.switch { spreadSwitch with classes := "big red" }]
        { spreadTag with classes := "login wide", formClasses := "" } =
      ({} : Renderer).form [.switch spreadSwitch] spreadTag ∧
    (∃ container form rest,
      (({} : Renderer).form [.switch spreadSwitch] spreadTag).html =
        "<div class=\"" ++ container ++ "\">\n<form class=\"" ++ form ++ "\"" ++ rest ∧
      ClassValue container ["app_form_container", "login-container", "wide"] ∧
      ClassValue form ["app_form", "login", "wide"]) ∧
    ∃ as switch rest,
      starts .input (({} : Renderer).field (.switch spreadSwitch)).items = [as] ∧
      writeAttributes as = " type=\"checkbox\" class=\"" ++ switch ++ "\"" ++ rest ∧
      ClassValue switch
        ["custom-control-input", "app-input", "app-switch", "app-big", "app-red"] := by
  have hs : Text.Unbroken ({} : Renderer).settings.ns := by decide
  obtain ⟨hrespaced, hopening, hswitch⟩ :=
    classes_matter_by_tokens {} hs [.switch spreadSwitch] spreadTag
  obtain ⟨container, form, rest, hhtml, hcontainer, hform⟩ := hopening (List.cons_ne_nil _ _)
  obtain ⟨-, -, as, switch, after, -, hstarts, hwrite, hclasses⟩ :=
    hswitch spreadSwitch (List.mem_singleton.mpr rfl)
  have htokens : tokens spreadTag.classes = ["login", "wide"] := by decide +kernel
  have hnone : tokens spreadTag.formClasses = [] := by decide +kernel
  have hswitched : tokens spreadSwitch.classes = ["big", "red"] := by decide +kernel
  rw [htokens] at hcontainer
  rw [htokens, hnone] at hform
  rw [hswitched] at hclasses
  refine ⟨hs, hrespaced _ _ (.cons (.switch ?_) .nil) (.mk ?_ ?_),
    ⟨container, form, rest, ?_, hcontainer, hform⟩, as, switch, after, hstarts, hwrite, hclasses⟩
  · exact hswitched
  · exact htokens
  · exact hnone
  · rw [hhtml]
    refine String.toList_inj.mp ?_
    simp [spreadTag, FormTag.optionalAttribute, writeAttributes]

end Renderer

end FormMarkup
