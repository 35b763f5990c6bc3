import FormMarkup.Proofs.Render.Starts

namespace FormMarkup

open FormMarkup.Markup

def optionValues (items : List Item) : List String :=
  (starts .option items).filterMap (Attribute.valueOf "value")

def Field.optionValues : Field → List String
  | .select f => (if f.showsPlaceholder then [""] else []) ++ Pairs.keys f.options
  | _ => []

theorem optionValues_append (xs ys : List Item) :
    optionValues (xs ++ ys) = optionValues xs ++ optionValues ys := by
  rw [optionValues, starts_append, List.filterMap_append]
  rfl

theorem optionValues_flatMap {α : Type} (f : α → List Item) (xs : List α) :
    optionValues (xs.flatMap f) = xs.flatMap fun x => optionValues (f x) := by
  rw [optionValues, starts_flatMap, List.filterMap_flatMap]
  rfl

theorem Field.optionValues_withDefaults (s : Settings) (f : Field) :
    (f.withDefaults s).optionValues = f.optionValues := by
  cases f <;> rfl

theorem Select.optionValues_placeholderLine (f : Select) :
    FormMarkup.optionValues f.placeholderLine = if f.showsPlaceholder then [""] else [] := by
  unfold placeholderLine
  split <;> simp [FormMarkup.optionValues]

theorem Select.optionValues_optionLine (f : Select) (option : String × String) :
    FormMarkup.optionValues (f.optionLine option) = [option.1] := by
  simp [FormMarkup.optionValues, optionLine]

theorem Select.optionValues_items (s : Settings) (f : Select) :
    FormMarkup.optionValues (f.items s) = (Field.select f).optionValues := by
  have he : Element.option.isControl = true := rfl
  have hlist : FormMarkup.optionValues (f.placeholderLine ++ f.options.flatMap f.optionLine) =
      (Field.select f).optionValues := by
    rw [optionValues_append, optionValues_flatMap, optionValues_placeholderLine]
    simp only [optionValues_optionLine]
    rw [← List.map_eq_flatMap]
    rfl
  rw [FormMarkup.optionValues, f.starts_items he, starts_block]
  exact hlist

namespace Renderer

theorem optionValues_complete (r : Renderer) (f : Field) :
    optionValues (r.complete f).items = f.optionValues := by
  have he : Element.option.isControl = true := rfl
  have hnone : ∀ items, starts .option items = [] → optionValues items = [] := by
    intro items h
    rw [optionValues, h]
    rfl
  cases f with
  | select f => exact f.optionValues_items r.settings
  | input type f => exact hnone _ (f.starts_items he r.settings type)
  | textArea f => exact hnone _ ((f.starts_items he r.settings).trans (by simp))
  | file f => exact hnone _ (f.starts_items he r.settings)
  | checkbox g =>
      refine hnone _ ((g.starts_items rfl r.settings).trans ?_)
      exact List.flatMap_eq_nil_iff.mpr fun _ _ => rfl
  | radio g =>
      refine hnone _ ((g.starts_items rfl r.settings).trans ?_)
      exact List.flatMap_eq_nil_iff.mpr fun _ _ => rfl
  | switch f => exact hnone _ (f.starts_items he r.settings)
  | hidden f =>
      refine hnone _ ((starts_flatMap _ _ _).trans ?_)
      exact List.flatMap_eq_nil_iff.mpr fun _ _ => rfl
  | nonce n =>
      refine hnone _ ?_
      rw [complete, nonce]
      split <;> rfl
  | submit b => exact hnone _ (b.starts_items he r.settings (by decide))
  | unknown => rfl

theorem optionValues_form (r : Renderer) (fs : List Field) (tag : FormTag) :
    optionValues (r.form fs tag).items = (orderFields fs).flatMap Field.optionValues := by
  have hfields : optionValues (r.fields fs).items =
      (orderFields fs).flatMap Field.optionValues := by
    rw [items_fields, optionValues_flatMap]
    simp only [field, optionValues_complete, Field.optionValues_withDefaults]
  cases fs with
  | nil =>
      rw [orderFields, List.map_nil, List.perm_nil.mp (ascending_perm _ [])]
      rfl
  | cons f fs =>
      rw [items_form r (List.cons_ne_nil f fs), optionValues_append, optionValues_append, hfields]
      have hopening : optionValues (tag.opening r.settings) = [] := by
        simp [optionValues, FormTag.opening]
      have hclosing : optionValues FormTag.closing = [] := by
        simp [optionValues, FormTag.closing]
      rw [hopening, hclosing, List.nil_append, List.append_nil]

end Renderer

end FormMarkup
