import FormMarkup.Proofs.Markup.RawText
import FormMarkup.Proofs.Render.Inputs

namespace FormMarkup

open FormMarkup.Markup

namespace TextArea

def itemsBefore (s : Settings) (f : TextArea) : List Item :=
  [.layout "  ",
    .start .div [.escaped "class" (classList ["form-group", s.hook "input-wrapper", f.classes])],
    .layout "\n"] ++ f.before.line "    " ++ labelLine s "    " f.elementId f.label ++ f.marker ++
    [.layout "    "]

def itemsAfter (f : TextArea) : List Item :=
  [.layout "\n"] ++ f.hintLine ++ f.after.line "    " ++
    [.layout "  ", .finish .div, .layout "\n"]

theorem items_eq (s : Settings) (f : TextArea) :
    f.items s = f.itemsBefore s ++
      .start .textarea (f.attributes s) :: .text f.value :: .finish .textarea :: f.itemsAfter := by
  simp [items, itemsBefore, itemsAfter, Control.labelled, Control.wrap, block, line]

theorem starts_itemsBefore (s : Settings) (f : TextArea) :
    starts .textarea (f.itemsBefore s) = [] := by
  have hframe : Element.textarea.isFrame = false := rfl
  simp [itemsBefore, Control.marker, starts_markerLine hframe, starts_labelLine hframe]

theorem initialContent?_items (s : Settings) {f : TextArea} (h : (Field.textArea f).Quiet) :
    initialContent? .textarea (write (f.items s)) =
      some (String.ofList (dropLineFeed f.value.toList)) := by
  have htame := (sound_items s h).tame
  rw [items_eq] at htame ⊢
  obtain ⟨hbefore, hcontrol⟩ := List.forall_mem_append.mp htame
  have hattributes := (List.forall_mem_cons.mp hcontrol).1
  exact initialContent?_write hbefore (f.starts_itemsBefore s) hattributes f.value _

end TextArea

namespace Renderer

theorem textArea_initialContent (r : Renderer) (f : TextArea) (h : (Field.textArea f).Quiet) :
    initialContent? .textarea (r.field (.textArea f)).html =
        some (String.ofList (dropLineFeed f.value.toList)) ∧
      (initialContent? .textarea (r.field (.textArea f)).html = some f.value ↔
        f.value.toList.head? ≠ some '\n') := by
  have hfilled : (Field.withDefaults r.settings (.textArea f)).Quiet := ⟨h.blank, h.unquoted⟩
  have hcontent : initialContent? .textarea (r.field (.textArea f)).html =
      some (String.ofList (dropLineFeed f.value.toList)) :=
    TextArea.initialContent?_items r.settings hfilled
  refine ⟨hcontent, ?_⟩
  rw [hcontent, Option.some.injEq, ← dropLineFeed_eq_iff, ← String.toList_inj,
    String.toList_ofList]

def closingTextArea : TextArea :=
  { name := "bio", label := "<textarea>", hint := "\n", required := true
    value := "\n\n</textarea><b>&lt;\n" }

theorem textArea_initialContent_closing :
    (Field.textArea closingTextArea).Quiet ∧
      initialContent? .textarea (({} : Renderer).field (.textArea closingTextArea)).html =
        some "\n</textarea><b>&lt;\n" ∧
      initialContent? .textarea (({} : Renderer).field (.textArea closingTextArea)).html ≠
        some closingTextArea.value := by
  have h : (Field.textArea closingTextArea).Quiet :=
    ⟨by decide, fun _ ha => (List.not_mem_nil ha).elim⟩
  obtain ⟨hcontent, hiff⟩ := textArea_initialContent {} closingTextArea h
  exact ⟨h, hcontent.trans (by decide), fun hvalue => hiff.mp hvalue rfl⟩

theorem textArea_loses_lineFeed :
    ({} : Renderer).settings.PlainNamespace ∧
      (Field.textArea { name := "t", value := "\na" }).Plain ∧
      initialContent? .textarea
        (({} : Renderer).field (.textArea { name := "t", value := "\na" })).html = some "a" := by
  have hplain : (Field.textArea { name := "t", value := "\na" }).Plain := ⟨by decide, rfl⟩
  have hfilled := (hplain.withDefaults {}).quiet
  exact ⟨by decide, hplain, (TextArea.initialContent?_items {} hfilled).trans (by decide)⟩

end Renderer

end FormMarkup
