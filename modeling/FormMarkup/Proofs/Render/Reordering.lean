import FormMarkup.Proofs.Field.StableOrder
import FormMarkup.Render.Renderer

namespace FormMarkup.Renderer

theorem form_congr (r : Renderer) (tag : FormTag) {fs gs : List Field}
    (h : orderFields fs = orderFields gs) : r.form fs tag = r.form gs tag := by
  have hfields : r.fields fs = r.fields gs := by rw [fields, fields, h]
  have hlength : fs.length = gs.length := by
    rw [← length_orderFields, h, length_orderFields]
  cases fs with
  | nil =>
      rw [List.eq_nil_of_length_eq_zero hlength.symm]
  | cons f fs =>
      cases gs with
      | nil => cases hlength
      | cons g gs => simp [form, hfields]

theorem form_map (r : Renderer) {g : Field → Field} (hfield : ∀ f, r.field (g f) = r.field f)
    (horder : ∀ f, (g f).order = f.order)
    (hchoices : ∀ f, (g f).orderChoices = g f.orderChoices) (fs : List Field) (tag : FormTag) :
    r.form (fs.map g) tag = r.form fs tag := by
  have hfields : r.fields (fs.map g) = r.fields fs := by
    rw [fields, orderFields_map horder hchoices, List.map_map, fields,
      show r.field ∘ g = r.field from funext hfield]
  cases fs with
  | nil => rfl
  | cons f fs => exact congrArg (fun body => _ ++ body ++ _) hfields

theorem order_decides_form :
    (∀ fs : List Field,
      (∃ gs, List.Forall₂ Field.ChoicesSorted fs gs ∧
        StablySorted Field.order gs (orderFields fs)) ∧
      (∀ k, List.Forall₂ Field.ChoicesSorted
        (atKey Field.order k fs) (atKey Field.order k (orderFields fs))) ∧
      orderFields (orderFields fs) = orderFields fs) ∧
    ∀ (r : Renderer) (tag : FormTag) (fs gs : List Field),
      (∀ k, List.Forall₂ Field.SameByOrder
        (atKey Field.order k fs) (atKey Field.order k gs)) →
      (r.form fs tag).html = (r.form gs tag).html ∧
        (r.form fs tag).warnings = (r.form gs tag).warnings := by
  constructor
  · intro fs
    refine ⟨⟨_, Field.forall₂_choicesSorted fs, stablySorted_ascending _ _⟩, fun k => ?_,
      orderFields_orderFields fs⟩
    rw [atKey_orderFields]
    exact Field.forall₂_choicesSorted _
  · intro r tag fs gs h
    rw [form_congr r tag (orderFields_congr h)]
    exact ⟨rfl, rfl⟩

end FormMarkup.Renderer
