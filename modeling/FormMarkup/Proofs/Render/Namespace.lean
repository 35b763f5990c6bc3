import FormMarkup.Proofs.Render.Outline
import FormMarkup.Proofs.Render.Safety
import FormMarkup.Proofs.Render.TagViews

namespace FormMarkup

open FormMarkup.Markup

namespace Markup

theorem unbroken_decoded {s : String} (h : Text.Unbroken s) : Text.Unbroken (decoded s) := by
  intro c hc
  rw [decoded, String.toList_ofList] at hc
  rcases mem_decodeEntities hc with hc | hc
  · exact h c hc
  · simp only [List.mem_cons, List.not_mem_nil, or_false] at hc
    rcases hc with rfl | rfl | rfl | rfl | rfl <;> rfl

end Markup

namespace Settings

theorem decoded_hook (s : Settings) {part : String} (hp : '&' ∉ part.toList) :
    decoded (s.hook part) = decoded s.ns ++ "-" ++ part := by
  have hchars : (s.hook part).toList = s.ns.toList ++ '-' :: part.toList := by
    simp [hook]
  have hrest : decodeEntities ('-' :: part.toList) = '-' :: part.toList :=
    decodeEntities_unescaped (by simpa using hp)
  rw [← String.toList_inj, decoded, hchars, decodeEntities_append (by decide), hrest]
  simp [decoded]

theorem hooks_unbroken {s : Settings} (hs : Text.Unbroken s.ns) :
    s.Hooks (fun part => [s.hook part]) (fun part => [decoded s.ns ++ "-" ++ part]) where
  escaped := fun _ hp => s.words_hook hs hp
  plain := by
    intro part hp hescape
    have hdash : Text.Unbroken "-" := by decide
    rw [s.decoded_hook hescape]
    refine Text.words_unbroken (((unbroken_decoded hs).append hdash).append hp) fun h => ?_
    simp at h

end Settings

namespace Renderer

theorem namespace_confined (r : Renderer) (fs : List Field) (tag : FormTag)
    (hr : r.emitter = none) (hs : Text.Unbroken r.settings.ns)
    (hm : '\x27' ∉ r.settings.textMaxLength.toList) (ht : tag.attributes.isBlank = true)
    (hf : ∀ f ∈ fs, f.Bare)
    (hq : ∀ f ∈ fs, f.isCaptioned = true → '"' ∉ r.settings.ns.toList) :
    ∃ events, scan (r.form fs tag).html = some events ∧
      (fs ≠ [] → tagViews events =
        tag.tagViews [r.settings.ns ++ "_form_container"] [r.settings.ns ++ "_form"] ++
          r.fieldViews (fun part => [r.settings.hook part])
            (fun part => [decoded r.settings.ns ++ "-" ++ part]) fs) ∧
      (scan ((r.inNamespace "app").form fs tag).html).map (List.map Event.outline) =
        some (events.map Event.outline) := by
  have hquiet : ∀ f ∈ fs, f.Quiet := fun f hmem => (hf f hmem).quiet
  have hsound := sound_form_captioned hr hm hq hquiet ht
  have hname : '"' ∉ "app".toList := by decide
  have happ : Sound ((r.inNamespace "app").form fs tag).items :=
    sound_form_captioned (r := r.inNamespace "app") hr hm (fun _ _ _ => hname) hquiet ht
  refine ⟨eventsOf [] (r.form fs tag).items, scan_write hsound.tame, fun hne => ?_, ?_⟩
  · have hcontainer := Settings.words_namespace hs "_form_container" (by decide) (by decide)
    have hform := Settings.words_namespace hs "_form" (by decide) (by decide)
    rw [tagViews_eventsOf, viewsOf_form (Settings.hooks_unbroken hs) hr hf hne ht, hcontainer,
      hform]
  · rw [Rendered.html, scan_write happ.tame, Option.map_some, outline_eventsOf, outline_eventsOf,
      outlineOf_form]

def markedRenderer : Renderer :=
  { settings := { ns := "\"><&amp;" } }

def hookedInput : Field :=
  .input .text { label := "L", name := "n", hint := "h" }

def hookedFields : List Field :=
  [.switch { classes := "wide" }, hookedInput]

theorem namespace_confined_marked :
    (markedRenderer.emitter = none ∧ Text.Unbroken markedRenderer.settings.ns ∧
      '\x27' ∉ markedRenderer.settings.textMaxLength.toList ∧
      ({} : FormTag).attributes.isBlank = true ∧ (∀ f ∈ hookedFields, f.Bare) ∧
      ∀ f ∈ hookedFields, f.isCaptioned = true → '"' ∉ markedRenderer.settings.ns.toList) ∧
    ∃ events, scan (markedRenderer.form hookedFields {}).html = some events ∧
      { name := "label", classes := ["\"><&amp;-label"], target := some "\"><&amp;_n" } ∈
        tagViews events ∧
      (scan ((markedRenderer.inNamespace "app").form hookedFields {}).html).map
          (List.map Event.outline) =
        some (events.map Event.outline) := by
  have hs : Text.Unbroken markedRenderer.settings.ns := by decide
  have hm : '\x27' ∉ markedRenderer.settings.textMaxLength.toList := by decide
  have hf : ∀ f ∈ hookedFields, f.Bare := by decide
  have hq : ∀ f ∈ hookedFields, f.isCaptioned = true →
      '"' ∉ markedRenderer.settings.ns.toList := by
    decide
  obtain ⟨events, hscan, hviews, houtline⟩ :=
    namespace_confined markedRenderer hookedFields {} rfl hs hm rfl hf hq
  refine ⟨⟨rfl, hs, hm, rfl, hf, hq⟩, events, hscan, ?_, houtline⟩
  have hordered : hookedInput ∈ orderFields hookedFields :=
    Field.mem_orderFields.mpr ⟨hookedInput, by simp [hookedFields], rfl⟩
  rw [hviews (by decide)]
  exact List.mem_append_right _ (List.mem_flatMap.mpr ⟨hookedInput, hordered, by decide⟩)

-- The attribute ends at the quote of the namespace, and an entity in it is read as a character.
theorem caption_unconfined :
    (∀ ns ∈ ["a\"b", "a&amp;b"], Text.Unbroken ns) ∧ (Field.file { label := "L" }).Bare ∧
    scan ((({} : Renderer).inNamespace "a\"b").form [.file { label := "L" }] {}).html = none ∧
    ∃ events,
      scan ((({} : Renderer).inNamespace "a&amp;b").form [.file { label := "L" }] {}).html =
        some events ∧
      { name := "p", classes := ["a&b-label"] } ∈ tagViews events := by
  have hbare : (Field.file { label := "L" }).Bare := by decide
  have hns : '"' ∉ (({} : Renderer).inNamespace "a&amp;b").settings.ns.toList := by decide
  have hsound : Sound
      ((({} : Renderer).inNamespace "a&amp;b").form [.file { label := "L" }] {}).items :=
    sound_form_captioned rfl (by decide) (fun _ _ _ => hns)
      (fun f hf => by rw [List.mem_singleton.mp hf]; exact hbare.quiet) rfl
  refine ⟨by decide, hbare, ?_, _, scan_write hsound.tame, ?_⟩
  · rw [Rendered.html, scan, toList_write]
    decide +kernel
  · rw [tagViews_eventsOf]
    decide +kernel

end Renderer

end FormMarkup
