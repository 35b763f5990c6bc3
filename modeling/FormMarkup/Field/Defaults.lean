import FormMarkup.Field.Basic
import FormMarkup.Settings.Basic

namespace FormMarkup

def Control.withDefaults (s : Settings) (c : Control) : Control :=
  { c with
    id := some (c.id.getD (s.namespaced c.name))
    requiredTitle := some (c.requiredTitle.getD s.requiredTitle) }

def TextInput.withDefaults (s : Settings) (f : TextInput) : TextInput :=
  { f with
    toControl := f.toControl.withDefaults s
    extraAttributes := some (f.extraAttributes.getD [("maxlength", s.textMaxLength)]) }

def Checkbox.withDefaults (s : Settings) (c : Checkbox) : Checkbox :=
  { c with requiredTitle := some (c.requiredTitle.getD s.requiredTitle) }

def RadioGroup.withDefaults (s : Settings) (g : RadioGroup) : RadioGroup :=
  { g with requiredTitle := some (g.requiredTitle.getD s.requiredTitle) }

def SubmitButton.withDefaults (s : Settings) (b : SubmitButton) : SubmitButton :=
  { b with value := some (b.value.getD s.submitLabel) }

/-- What is set stays, even when it is empty. -/
def Field.withDefaults (s : Settings) : Field → Field
  | .input type f => .input type (f.withDefaults s)
  | .textArea f => .textArea { f with toControl := f.toControl.withDefaults s }
  | .file f => .file { f with toControl := f.toControl.withDefaults s }
  | .select f => .select { f with toControl := f.toControl.withDefaults s }
  | .checkbox g => .checkbox { g with choices := g.choices.map (Checkbox.withDefaults s) }
  | .radio g => .radio (g.withDefaults s)
  | .switch f => .switch { f with toControl := f.toControl.withDefaults s }
  | .submit b => .submit (b.withDefaults s)
  | f => f

theorem Control.withDefaults_withDefaults (s t : Settings) (c : Control) :
    (c.withDefaults s).withDefaults t = c.withDefaults s := by
  simp [Control.withDefaults]

theorem Checkbox.withDefaults_withDefaults (s t : Settings) (c : Checkbox) :
    (c.withDefaults s).withDefaults t = c.withDefaults s := by
  simp [Checkbox.withDefaults]

end FormMarkup
