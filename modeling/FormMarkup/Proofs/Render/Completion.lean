import FormMarkup.Proofs.Field.Ordering
import FormMarkup.Render.Renderer
import Mathlib.Data.List.Forall2

namespace FormMarkup

inductive Fills {α : Type} (value : α) : Option α → Option α → Prop
  | kept (a : α) : Fills value (some a) (some a)
  | filled : Fills value none (some value)

theorem fills_getD {α : Type} (value : α) (unset : Option α) :
    Fills value unset (some (unset.getD value)) := by
  cases unset with
  | none => exact .filled
  | some a => exact .kept a

structure Control.Completes (s : Settings) (c d : Control) : Prop where
  id : Fills (s.namespaced c.name) c.id d.id
  requiredTitle : Fills s.requiredTitle c.requiredTitle d.requiredTitle
  rest : { d with id := c.id, requiredTitle := c.requiredTitle } = c

structure TextInput.Completes (s : Settings) (f g : TextInput) : Prop where
  control : f.toControl.Completes s g.toControl
  extraAttributes : Fills [("maxlength", s.textMaxLength)] f.extraAttributes g.extraAttributes
  rest : { g with toControl := f.toControl, extraAttributes := f.extraAttributes } = f

structure Checkbox.Completes (s : Settings) (c d : Checkbox) : Prop where
  requiredTitle : Fills s.requiredTitle c.requiredTitle d.requiredTitle
  rest : { d with requiredTitle := c.requiredTitle } = c

structure RadioGroup.Completes (s : Settings) (g h : RadioGroup) : Prop where
  requiredTitle : Fills s.requiredTitle g.requiredTitle h.requiredTitle
  rest : { h with requiredTitle := g.requiredTitle } = g

structure SubmitButton.Completes (s : Settings) (b c : SubmitButton) : Prop where
  value : Fills s.submitLabel b.value c.value
  rest : { c with value := b.value } = b

theorem Control.completes_withDefaults (s : Settings) (c : Control) :
    c.Completes s (c.withDefaults s) where
  id := fills_getD _ c.id
  requiredTitle := fills_getD _ c.requiredTitle
  rest := rfl

theorem TextInput.completes_withDefaults (s : Settings) (f : TextInput) :
    f.Completes s (f.withDefaults s) where
  control := f.toControl.completes_withDefaults s
  extraAttributes := fills_getD _ f.extraAttributes
  rest := rfl

theorem Checkbox.completes_withDefaults (s : Settings) (c : Checkbox) :
    c.Completes s (c.withDefaults s) where
  requiredTitle := fills_getD _ c.requiredTitle
  rest := rfl

theorem RadioGroup.completes_withDefaults (s : Settings) (g : RadioGroup) :
    g.Completes s (g.withDefaults s) where
  requiredTitle := fills_getD _ g.requiredTitle
  rest := rfl

theorem SubmitButton.completes_withDefaults (s : Settings) (b : SubmitButton) :
    b.Completes s (b.withDefaults s) where
  value := fills_getD _ b.value
  rest := rfl

namespace Field

def Completes (s : Settings) : Field → Field → Prop
  | .input type f, .input type' g => type' = type ∧ f.Completes s g
  | .textArea f, .textArea g =>
      f.toControl.Completes s g.toControl ∧ { g with toControl := f.toControl } = f
  | .file f, .file g =>
      f.toControl.Completes s g.toControl ∧ { g with toControl := f.toControl } = f
  | .select f, .select g =>
      f.toControl.Completes s g.toControl ∧ { g with toControl := f.toControl } = f
  | .checkbox f, .checkbox g =>
      g.toGroup = f.toGroup ∧ List.Forall₂ (Checkbox.Completes s) f.choices g.choices
  | .radio f, .radio g => f.Completes s g
  | .switch f, .switch g =>
      f.toControl.Completes s g.toControl ∧ { g with toControl := f.toControl } = f
  | .submit f, .submit g => f.Completes s g
  | f, g => g = f

theorem completes_withDefaults (s : Settings) (f : Field) : f.Completes s (f.withDefaults s) := by
  cases f with
  | input type f => exact ⟨rfl, f.completes_withDefaults s⟩
  | textArea f => exact ⟨f.toControl.completes_withDefaults s, rfl⟩
  | file f => exact ⟨f.toControl.completes_withDefaults s, rfl⟩
  | select f => exact ⟨f.toControl.completes_withDefaults s, rfl⟩
  | checkbox g =>
      refine ⟨rfl, ?_⟩
      rw [List.forall₂_map_right_iff, List.forall₂_same]
      exact fun c _ => c.completes_withDefaults s
  | radio g => exact g.completes_withDefaults s
  | switch f => exact ⟨f.toControl.completes_withDefaults s, rfl⟩
  | submit b => exact b.completes_withDefaults s
  | hidden f => rfl
  | nonce n => rfl
  | unknown => rfl

theorem typeName_withDefaults (s : Settings) (f : Field) :
    (f.withDefaults s).typeName = f.typeName := by
  cases f <;> rfl

theorem withDefaults_withDefaults (s t : Settings) (f : Field) :
    (f.withDefaults s).withDefaults t = f.withDefaults s := by
  cases f with
  | input type f =>
      simp [withDefaults, TextInput.withDefaults, Control.withDefaults_withDefaults]
  | checkbox g =>
      have hchoices : (g.choices.map (Checkbox.withDefaults s)).map (Checkbox.withDefaults t) =
          g.choices.map (Checkbox.withDefaults s) := by
        rw [List.map_map]
        exact List.map_congr_left fun c _ => c.withDefaults_withDefaults s t
      simp only [withDefaults, hchoices]
  | textArea f => simp [withDefaults, Control.withDefaults_withDefaults]
  | file f => simp [withDefaults, Control.withDefaults_withDefaults]
  | select f => simp [withDefaults, Control.withDefaults_withDefaults]
  | switch f => simp [withDefaults, Control.withDefaults_withDefaults]
  | radio g => simp [withDefaults, RadioGroup.withDefaults]
  | submit b => simp [withDefaults, SubmitButton.withDefaults]
  | hidden f => rfl
  | nonce n => rfl
  | unknown => rfl

theorem order_withDefaults (s : Settings) (f : Field) : (f.withDefaults s).order = f.order := by
  cases f <;> rfl

theorem orderChoices_withDefaults (s : Settings) (f : Field) :
    (f.withDefaults s).orderChoices = f.orderChoices.withDefaults s := by
  cases f with
  | checkbox g =>
      have hchoices := map_ascending (Checkbox.withDefaults s) (fun c => c.order) g.choices
      simp only [withDefaults, orderChoices, ← hchoices]
      rfl
  | _ => rfl

end Field

theorem orderFields_map_withDefaults (s : Settings) (fs : List Field) :
    orderFields (fs.map (Field.withDefaults s)) = (orderFields fs).map (Field.withDefaults s) :=
  orderFields_map (Field.order_withDefaults s) (Field.orderChoices_withDefaults s) fs

theorem Renderer.field_withDefaults (r : Renderer) (f : Field) :
    r.field (f.withDefaults r.settings) = r.field f := by
  rw [field, f.withDefaults_withDefaults, field]

theorem defaults_settle :
    (∀ (s t : Settings) (f : Field),
      (f.withDefaults s).typeName = f.typeName ∧ f.Completes s (f.withDefaults s) ∧
        (f.withDefaults s).withDefaults t = f.withDefaults s) ∧
    (∀ (r : Renderer) (f : Field),
      (r.field (f.withDefaults r.settings)).html = (r.field f).html ∧
        (r.field (f.withDefaults r.settings)).warnings = (r.field f).warnings) ∧
    ∀ (s : Settings) (fs : List Field),
      orderFields (fs.map (Field.withDefaults s)) =
        (orderFields fs).map (Field.withDefaults s) := by
  refine ⟨fun s t f => ⟨f.typeName_withDefaults s, f.completes_withDefaults s,
    f.withDefaults_withDefaults s t⟩, fun r f => ?_, orderFields_map_withDefaults⟩
  rw [r.field_withDefaults f]
  exact ⟨rfl, rfl⟩

end FormMarkup
