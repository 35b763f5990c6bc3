import FormMarkup.Field.Defaults
import FormMarkup.Field.Order

namespace FormMarkup

theorem mem_ascending {α : Type} {key : α → Int} {xs : List α} {x : α} :
    x ∈ ascending key xs ↔ x ∈ xs :=
  (ascending_perm key xs).mem_iff

def Control.fragments (c : Control) : List RawMarkup :=
  [c.before, c.after]

def Choice.fragments (c : Choice) : List RawMarkup :=
  [c.before, c.after]

def Group.fragments (g : Group) : List RawMarkup :=
  [g.before, g.after]

namespace Field

def fragments : Field → List RawMarkup
  | .input _ f => f.visibility :: f.toControl.fragments
  | .textArea f => f.toControl.fragments
  | .file f => f.toControl.fragments
  | .select f => f.toControl.fragments
  | .checkbox g => g.toGroup.fragments ++ g.choices.flatMap fun c => c.toChoice.fragments
  | .radio g => g.toGroup.fragments ++ g.choices.flatMap Choice.fragments
  | .switch f => f.toControl.fragments
  | .hidden _ => []
  | .nonce _ => []
  | .submit b => [b.before, b.after]
  | .unknown => []

def authorAttributes : Field → TextMap
  | .input _ f => f.extraAttributes.getD []
  | .textArea f => f.extraAttributes
  | .file f => f.extraAttributes
  | .select f => f.extraAttributes
  | .checkbox g => g.choices.flatMap fun c => c.extraAttributes
  | .radio g => g.choices.flatMap Choice.extraAttributes
  | .switch f => f.extraAttributes
  | .hidden _ => []
  | .nonce _ => []
  | .submit _ => []
  | .unknown => []

def isToken : Field → Bool
  | .nonce _ => true
  | _ => false

end Field

def Unquoted (map : TextMap) : Prop :=
  ∀ a ∈ map, '\x27' ∉ a.2.toList

structure Field.Quiet (f : Field) : Prop where
  blank : ∀ m ∈ f.fragments, m.isBlank = true
  unquoted : Unquoted f.authorAttributes

namespace Field

theorem fragments_orderChoices {f : Field} {m : RawMarkup} :
    m ∈ f.orderChoices.fragments ↔ m ∈ f.fragments := by
  cases f with
  | checkbox g => simp [orderChoices, fragments, mem_ascending, Group.fragments]
  | radio g => simp [orderChoices, fragments, mem_ascending, Group.fragments]
  | _ => rfl

theorem authorAttributes_orderChoices {f : Field} {a : String × String} :
    a ∈ f.orderChoices.authorAttributes ↔ a ∈ f.authorAttributes := by
  cases f with
  | checkbox g => simp [orderChoices, authorAttributes, mem_ascending]
  | radio g => simp [orderChoices, authorAttributes, mem_ascending]
  | _ => rfl

theorem fragments_withDefaults (s : Settings) (f : Field) :
    (f.withDefaults s).fragments = f.fragments := by
  cases f with
  | checkbox g =>
      simp only [withDefaults, fragments, List.flatMap_map]
      rfl
  | _ => rfl

theorem authorAttributes_withDefaults {s : Settings} {f : Field} {a : String × String}
    (h : a ∈ (f.withDefaults s).authorAttributes) :
    a ∈ f.authorAttributes ∨ a = ("maxlength", s.textMaxLength) := by
  cases f with
  | input type f =>
      cases hx : f.extraAttributes with
      | none =>
          right
          simpa [withDefaults, TextInput.withDefaults, authorAttributes, hx] using h
      | some map =>
          left
          simpa [withDefaults, TextInput.withDefaults, authorAttributes, hx] using h
  | checkbox g =>
      left
      rw [withDefaults, authorAttributes, List.flatMap_map] at h
      exact h
  | _ => exact Or.inl h

theorem Quiet.orderChoices {f : Field} (h : f.Quiet) : f.orderChoices.Quiet :=
  ⟨fun m hm => h.blank m (fragments_orderChoices.mp hm),
    fun a ha => h.unquoted a (authorAttributes_orderChoices.mp ha)⟩

theorem Quiet.withDefaults {s : Settings} (hs : '\x27' ∉ s.textMaxLength.toList) {f : Field}
    (h : f.Quiet) : (f.withDefaults s).Quiet := by
  refine ⟨fun m hm => ?_, fun a ha => ?_⟩
  · rw [fragments_withDefaults] at hm
    exact h.blank m hm
  · rcases authorAttributes_withDefaults ha with ha | rfl
    · exact h.unquoted a ha
    · exact hs

theorem mem_orderFields {f : Field} {fs : List Field} :
    f ∈ orderFields fs ↔ ∃ g ∈ fs, g.orderChoices = f := by
  rw [orderFields, mem_ascending, List.mem_map]

theorem Quiet.orderFields {fs : List Field} (h : ∀ f ∈ fs, f.Quiet) :
    ∀ f ∈ orderFields fs, f.Quiet := by
  intro f hf
  obtain ⟨g, hg, rfl⟩ := mem_orderFields.mp hf
  exact (h g hg).orderChoices

end Field

end FormMarkup
