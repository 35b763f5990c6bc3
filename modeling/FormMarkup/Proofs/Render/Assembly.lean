import FormMarkup.Render.Renderer

namespace FormMarkup

namespace Rendered

theorem items_join (rs : List Rendered) : (join rs).items = rs.flatMap items := by
  induction rs with
  | nil => rfl
  | cons r rs ih => rw [join, items_append, ih, List.flatMap_cons]

theorem warnings_join (rs : List Rendered) : (join rs).warnings = rs.flatMap warnings := by
  induction rs with
  | nil => rfl
  | cons r rs ih => rw [join, warnings_append, ih, List.flatMap_cons]

end Rendered

namespace Renderer

theorem items_fields (r : Renderer) (fs : List Field) :
    (r.fields fs).items = (orderFields fs).flatMap fun f => (r.field f).items := by
  rw [fields, Rendered.items_join, List.flatMap_map]

theorem warnings_fields (r : Renderer) (fs : List Field) :
    (r.fields fs).warnings = (orderFields fs).flatMap fun f => (r.field f).warnings := by
  rw [fields, Rendered.warnings_join, List.flatMap_map]

theorem items_form (r : Renderer) {fs : List Field} (h : fs ≠ []) (tag : FormTag) :
    (r.form fs tag).items = tag.opening r.settings ++ (r.fields fs).items ++ FormTag.closing := by
  cases fs with
  | nil => exact absurd rfl h
  | cons f fs => rfl

theorem warnings_form (r : Renderer) (fs : List Field) (tag : FormTag) :
    (r.form fs tag).warnings = (r.fields fs).warnings := by
  cases fs with
  | nil =>
      rw [warnings_fields, orderFields, List.map_nil, List.perm_nil.mp (ascending_perm _ [])]
      rfl
  | cons f fs => simp [form, Rendered.warnings_append]

end Renderer

end FormMarkup
