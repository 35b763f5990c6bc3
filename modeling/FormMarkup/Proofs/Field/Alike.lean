import FormMarkup.Field.Decode
import FormMarkup.Proofs.Decode.Rereading

namespace FormMarkup

def TextInput.Alike (f g : TextInput) : Prop :=
  Option.Rel SameMap f.extraAttributes g.extraAttributes ∧
    g = { f with extraAttributes := g.extraAttributes }

def TextArea.Alike (f g : TextArea) : Prop :=
  SameMap f.extraAttributes g.extraAttributes ∧ g = { f with extraAttributes := g.extraAttributes }

def FileInput.Alike (f g : FileInput) : Prop :=
  SameMap f.extraAttributes g.extraAttributes ∧ g = { f with extraAttributes := g.extraAttributes }

def Select.Alike (f g : Select) : Prop :=
  SameMap f.options g.options ∧ SameMap f.extraAttributes g.extraAttributes ∧
    g = { f with options := g.options, extraAttributes := g.extraAttributes }

def Switch.Alike (f g : Switch) : Prop :=
  SameMap f.extraAttributes g.extraAttributes ∧ g = { f with extraAttributes := g.extraAttributes }

def Choice.Alike (c d : Choice) : Prop :=
  SameMap c.extraAttributes d.extraAttributes ∧ d = { c with extraAttributes := d.extraAttributes }

def Checkbox.Alike (c d : Checkbox) : Prop :=
  SameMap c.extraAttributes d.extraAttributes ∧ d = { c with extraAttributes := d.extraAttributes }

def CheckboxGroup.Alike (f g : CheckboxGroup) : Prop :=
  List.Forall₂ Checkbox.Alike f.choices g.choices ∧ g = { f with choices := g.choices }

def RadioGroup.Alike (f g : RadioGroup) : Prop :=
  List.Forall₂ Choice.Alike f.choices g.choices ∧ g = { f with choices := g.choices }

def Field.Alike : Field → Field → Prop
  | .input s f, .input t g => s = t ∧ f.Alike g
  | .textArea f, .textArea g => f.Alike g
  | .file f, .file g => f.Alike g
  | .select f, .select g => f.Alike g
  | .checkbox f, .checkbox g => f.Alike g
  | .radio f, .radio g => f.Alike g
  | .switch f, .switch g => f.Alike g
  | .hidden f, .hidden g => f = g
  | .nonce f, .nonce g => f = g
  | .submit f, .submit g => f = g
  | .unknown, .unknown => True
  | _, _ => False

namespace Member

theorem markup_steady (name : String) : Json.Steady Eq (markup name).read := fun v =>
  (Json.readText_steady v).map fun _ _ h => by rw [h]

theorem givenAttributes_steady : Json.Steady (Option.Rel SameMap) givenAttributes.read := fun v =>
  (Json.readAttributes_steady v).map fun _ _ h => .some h

end Member

open Json (readText_steady readOptionalText_steady readFlag_steady readInteger_steady
  readCount_steady readAttributes_steady readLabels_steady scalarText_steady readScalar_steady)

open Member (markup_steady givenAttributes_steady)

variable {ms ms' : List (String × Json)}

namespace Control

theorem slots_steady : ∀ slot ∈ slots, slot.SteadyOn ms := by
  simp only [slots, List.forall_mem_cons]
  exact ⟨Key.steady readText_steady, Key.steady readText_steady, Key.steady readOptionalText_steady,
    Key.steady readFlag_steady, Key.steady readText_steady, Key.steady (markup_steady _),
    Key.steady (markup_steady _), Key.steady readText_steady, Key.steady readInteger_steady,
    Key.steady readOptionalText_steady, List.forall_mem_nil _⟩

theorem ofMembers_eq {record : Record} (hr : record.Rereads ms ms')
    (hslots : slots ⊆ record.slots) : ofMembers record ms = ofMembers record ms' := by
  rw [ofMembers, ofMembers, hr.passthrough,
    hr.get_eq Member.label (hslots (by simp [slots])) readText_steady,
    hr.get_eq Member.name (hslots (by simp [slots])) readText_steady,
    hr.get_eq Member.id (hslots (by simp [slots])) readOptionalText_steady,
    hr.get_eq Member.required (hslots (by simp [slots])) readFlag_steady,
    hr.get_eq Member.classes (hslots (by simp [slots])) readText_steady,
    hr.get_eq Member.before (hslots (by simp [slots])) (markup_steady _),
    hr.get_eq Member.after (hslots (by simp [slots])) (markup_steady _),
    hr.get_eq Member.hint (hslots (by simp [slots])) readText_steady,
    hr.get_eq Member.order (hslots (by simp [slots])) readInteger_steady,
    hr.get_eq Member.requiredTitle (hslots (by simp [slots])) readOptionalText_steady]

end Control

namespace Group

theorem slots_steady : ∀ slot ∈ slots, slot.SteadyOn ms := by
  simp only [slots, List.forall_mem_cons]
  exact ⟨Key.steady readText_steady, Key.steady (markup_steady _), Key.steady (markup_steady _),
    Key.steady readInteger_steady, List.forall_mem_nil _⟩

theorem ofMembers_eq {record : Record} (hr : record.Rereads ms ms')
    (hslots : slots ⊆ record.slots) : ofMembers record ms = ofMembers record ms' := by
  rw [ofMembers, ofMembers, hr.passthrough,
    hr.get_eq Member.classes (hslots (by simp [slots])) readText_steady,
    hr.get_eq Member.before (hslots (by simp [slots])) (markup_steady _),
    hr.get_eq Member.after (hslots (by simp [slots])) (markup_steady _),
    hr.get_eq Member.order (hslots (by simp [slots])) readInteger_steady]

end Group

namespace TextInput

theorem steadyOn (ms : List (String × Json)) : record.SteadyOn ms := by
  simp only [Record.SteadyOn, record, List.forall_mem_append, List.forall_mem_cons]
  exact ⟨Control.slots_steady, Key.steady readText_steady, Key.steady readText_steady,
    Key.steady readText_steady, Key.steady readText_steady, Key.steady (markup_steady _),
    Key.steady givenAttributes_steady, List.forall_mem_nil _⟩

theorem ofMembers_alike (hr : record.Rereads ms ms') : (ofMembers ms).Alike (ofMembers ms') := by
  have hattributes := hr.get_related Member.givenAttributes (by simp [record]) .none
    (Key.steadyOn givenAttributes_steady ms)
  refine ⟨hattributes, ?_⟩
  simp only [ofMembers, Control.ofMembers_eq hr (List.subset_append_left ..),
    hr.get_eq Member.placeholder (by simp [record]) readText_steady,
    hr.get_eq Member.value (by simp [record]) readText_steady,
    hr.get_eq Member.defaultValue (by simp [record]) readText_steady,
    hr.get_eq Member.autocomplete (by simp [record]) readText_steady,
    hr.get_eq Member.visibility (by simp [record]) (markup_steady _)]

theorem decode_agrees {v : Json} (hw : v.writesOnce record = true) :
    Agree Alike (decode v) (decode v.normalise) :=
  Record.openMembers_agrees (by decide) hw (steadyOn _) fun _ => ofMembers_alike

end TextInput

namespace TextArea

theorem steadyOn (ms : List (String × Json)) : record.SteadyOn ms := by
  simp only [Record.SteadyOn, record, List.forall_mem_append, List.forall_mem_cons]
  exact ⟨Control.slots_steady, Key.steady readText_steady, Key.steady readText_steady,
    Key.steady readText_steady, Key.steady readCount_steady, Key.steady readAttributes_steady,
    List.forall_mem_nil _⟩

theorem ofMembers_alike (hr : record.Rereads ms ms') : (ofMembers ms).Alike (ofMembers ms') := by
  have hattributes := hr.get_related Member.extraAttributes (by simp [record]) .nil
    (Key.steadyOn readAttributes_steady ms)
  refine ⟨hattributes, ?_⟩
  simp only [ofMembers, Control.ofMembers_eq hr (List.subset_append_left ..),
    hr.get_eq Member.placeholder (by simp [record]) readText_steady,
    hr.get_eq Member.value (by simp [record]) readText_steady,
    hr.get_eq Member.autocomplete (by simp [record]) readText_steady,
    hr.get_eq Member.rows (by simp [record]) readCount_steady]

theorem decode_agrees {v : Json} (hw : v.writesOnce record = true) :
    Agree Alike (decode v) (decode v.normalise) :=
  Record.openMembers_agrees (by decide) hw (steadyOn _) fun _ => ofMembers_alike

end TextArea

namespace FileInput

theorem steadyOn (ms : List (String × Json)) : record.SteadyOn ms := by
  simp only [Record.SteadyOn, record, List.forall_mem_append, List.forall_mem_cons]
  exact ⟨Control.slots_steady, Key.steady readText_steady, Key.steady readFlag_steady,
    Key.steady readAttributes_steady, List.forall_mem_nil _⟩

theorem ofMembers_alike (hr : record.Rereads ms ms') : (ofMembers ms).Alike (ofMembers ms') := by
  have hattributes := hr.get_related Member.extraAttributes (by simp [record]) .nil
    (Key.steadyOn readAttributes_steady ms)
  refine ⟨hattributes, ?_⟩
  simp only [ofMembers, Control.ofMembers_eq hr (List.subset_append_left ..),
    hr.get_eq Member.accept (by simp [record]) readText_steady,
    hr.get_eq Member.multiple (by simp [record]) readFlag_steady]

theorem decode_agrees {v : Json} (hw : v.writesOnce record = true) :
    Agree Alike (decode v) (decode v.normalise) :=
  Record.openMembers_agrees (by decide) hw (steadyOn _) fun _ => ofMembers_alike

end FileInput

namespace Select

theorem steadyOn (ms : List (String × Json)) : record.SteadyOn ms := by
  simp only [Record.SteadyOn, record, List.forall_mem_append, List.forall_mem_cons]
  exact ⟨Control.slots_steady, Key.steady readText_steady, Key.steady readLabels_steady,
    Key.steady readText_steady, Key.steady readText_steady, Key.steady readFlag_steady,
    Key.steady readAttributes_steady, List.forall_mem_nil _⟩

theorem ofMembers_alike (hr : record.Rereads ms ms') : (ofMembers ms).Alike (ofMembers ms') := by
  have hoptions := hr.get_related Member.options (by simp [record]) .nil
    (Key.steadyOn readLabels_steady ms)
  have hattributes := hr.get_related Member.extraAttributes (by simp [record]) .nil
    (Key.steadyOn readAttributes_steady ms)
  refine ⟨hoptions, hattributes, ?_⟩
  simp only [ofMembers, Control.ofMembers_eq hr (List.subset_append_left ..),
    hr.get_eq Member.placeholder (by simp [record]) readText_steady,
    hr.get_eq Member.defaultOption (by simp [record]) readText_steady,
    hr.get_eq Member.selectOption (by simp [record]) readText_steady,
    hr.get_eq Member.multiple (by simp [record]) readFlag_steady]

theorem decode_agrees {v : Json} (hw : v.writesOnce record = true) :
    Agree Alike (decode v) (decode v.normalise) :=
  Record.openMembers_agrees (by decide) hw (steadyOn _) fun _ => ofMembers_alike

end Select

namespace Switch

theorem steadyOn (ms : List (String × Json)) : record.SteadyOn ms := by
  simp only [Record.SteadyOn, record, List.forall_mem_append, List.forall_mem_cons]
  exact ⟨Control.slots_steady, Key.steady readFlag_steady, Key.steady readAttributes_steady,
    List.forall_mem_nil _⟩

theorem ofMembers_alike (hr : record.Rereads ms ms') : (ofMembers ms).Alike (ofMembers ms') := by
  have hattributes := hr.get_related Member.extraAttributes (by simp [record]) .nil
    (Key.steadyOn readAttributes_steady ms)
  refine ⟨hattributes, ?_⟩
  simp only [ofMembers, Control.ofMembers_eq hr (List.subset_append_left ..),
    hr.get_eq Member.checked (by simp [record]) readFlag_steady]

theorem decode_agrees {v : Json} (hw : v.writesOnce record = true) :
    Agree Alike (decode v) (decode v.normalise) :=
  Record.openMembers_agrees (by decide) hw (steadyOn _) fun _ => ofMembers_alike

end Switch

namespace Choice

theorem slots_subset : record.slots ⊆ Checkbox.record.slots := by
  simp [record, Checkbox.record]

theorem steadyOn (ms : List (String × Json)) : record.SteadyOn ms := by
  simp only [Record.SteadyOn, record, List.forall_mem_cons]
  exact ⟨Key.steady readText_steady, Key.steady readText_steady, Key.steady readFlag_steady,
    Key.steady readOptionalText_steady, Key.steady readText_steady, Key.steady (markup_steady _),
    Key.steady (markup_steady _), Key.steady readInteger_steady, Key.steady readAttributes_steady,
    List.forall_mem_nil _⟩

-- The members of a choice are among those of a checkbox, too.
theorem ofMembers_alike {record : Record} (hr : record.Rereads ms ms')
    (hslots : Choice.record.slots ⊆ record.slots) : (ofMembers ms).Alike (ofMembers ms') := by
  have hattributes := hr.get_related Member.extraAttributes (hslots (by simp [Choice.record])) .nil
    (Key.steadyOn readAttributes_steady ms)
  refine ⟨hattributes, ?_⟩
  simp only [ofMembers,
    hr.get_eq Member.label (hslots (by simp [Choice.record])) readText_steady,
    hr.get_eq Member.value (hslots (by simp [Choice.record])) readText_steady,
    hr.get_eq Member.checked (hslots (by simp [Choice.record])) readFlag_steady,
    hr.get_eq Member.id (hslots (by simp [Choice.record])) readOptionalText_steady,
    hr.get_eq Member.classes (hslots (by simp [Choice.record])) readText_steady,
    hr.get_eq Member.before (hslots (by simp [Choice.record])) (markup_steady _),
    hr.get_eq Member.after (hslots (by simp [Choice.record])) (markup_steady _),
    hr.get_eq Member.order (hslots (by simp [Choice.record])) readInteger_steady]

theorem decode_agrees {v : Json} (hw : v.writesOnce record = true) :
    Agree Alike (decode v) (decode v.normalise) :=
  Record.members_agrees (by decide) hw (steadyOn _) fun _ hr => ofMembers_alike hr fun _ h => h

end Choice

namespace Checkbox

theorem steadyOn (ms : List (String × Json)) : record.SteadyOn ms := by
  simp only [Record.SteadyOn, record, List.forall_mem_cons]
  exact ⟨Key.steady readText_steady, Key.steady readText_steady, Key.steady readText_steady,
    Key.steady readFlag_steady, Key.steady readOptionalText_steady, Key.steady readFlag_steady,
    Key.steady readText_steady, Key.steady (markup_steady _), Key.steady (markup_steady _),
    Key.steady readInteger_steady, Key.steady readOptionalText_steady,
    Key.steady readAttributes_steady, List.forall_mem_nil _⟩

theorem ofMembers_alike (hr : record.Rereads ms ms') : (ofMembers ms).Alike (ofMembers ms') := by
  obtain ⟨hattributes, hchoice⟩ := Choice.ofMembers_alike hr Choice.slots_subset
  refine ⟨hattributes, ?_⟩
  rw [ofMembers, hchoice, ofMembers,
    hr.get_eq Member.name (by simp [record]) readText_steady,
    hr.get_eq Member.required (by simp [record]) readFlag_steady,
    hr.get_eq Member.requiredTitle (by simp [record]) readOptionalText_steady]

theorem decode_agrees {v : Json} (hw : v.writesOnce record = true) :
    Agree Alike (decode v) (decode v.normalise) :=
  Record.members_agrees (by decide) hw (steadyOn _) fun _ => ofMembers_alike

end Checkbox

namespace CheckboxGroup

def writesOnce (ms : List (String × Json)) : Bool :=
  record.writesOnce ms && Json.itemsWriteOnce Checkbox.record "choices" ms

theorem steadyOn_choices (hw : Json.itemsWriteOnce Checkbox.record "choices" ms = true) :
    Member.checkboxes.SteadyOn (List.Forall₂ Checkbox.Alike) ms :=
  Key.steadyOn_list rfl rfl (fun _ => Checkbox.decode_agrees) hw

theorem decode_agrees (hw : writesOnce ms = true) :
    Agree Alike (decode (.object ms)) (decode (Json.object ms).normalise) := by
  obtain ⟨hown, hitems⟩ := Bool.and_eq_true_iff.mp hw
  have hchoices := steadyOn_choices hitems
  refine Record.openMembers_agrees (by decide) hown ?_ fun ms' hr => ⟨?_, ?_⟩
  · simp only [Record.SteadyOn, record, List.forall_mem_append, List.forall_mem_cons]
    exact ⟨Group.slots_steady, hchoices.slot, List.forall_mem_nil _⟩
  · exact hr.get_related Member.checkboxes (by simp [record]) .nil hchoices
  · simp only [ofMembers, Group.ofMembers_eq hr (List.subset_append_left ..)]

end CheckboxGroup

namespace RadioGroup

def writesOnce (ms : List (String × Json)) : Bool :=
  record.writesOnce ms && Json.itemsWriteOnce Choice.record "choices" ms

theorem steadyOn_choices (hw : Json.itemsWriteOnce Choice.record "choices" ms = true) :
    Member.choices.SteadyOn (List.Forall₂ Choice.Alike) ms :=
  Key.steadyOn_list rfl rfl (fun _ => Choice.decode_agrees) hw

theorem decode_agrees (hw : writesOnce ms = true) :
    Agree Alike (decode (.object ms)) (decode (Json.object ms).normalise) := by
  obtain ⟨hown, hitems⟩ := Bool.and_eq_true_iff.mp hw
  have hchoices := steadyOn_choices hitems
  refine Record.openMembers_agrees (by decide) hown ?_ fun ms' hr => ⟨?_, ?_⟩
  · simp only [Record.SteadyOn, record, List.forall_mem_append, List.forall_mem_cons]
    exact ⟨Group.slots_steady, Key.steady readText_steady, Key.steady readText_steady,
      Key.steady readFlag_steady, Key.steady readOptionalText_steady, hchoices.slot,
      List.forall_mem_nil _⟩
  · exact hr.get_related Member.choices (by simp [record]) .nil hchoices
  · simp only [ofMembers, Group.ofMembers_eq hr (List.subset_append_left ..),
      hr.get_eq Member.title (by simp [record]) readText_steady,
      hr.get_eq Member.name (by simp [record]) readText_steady,
      hr.get_eq Member.requiredUnlessUnset (by simp [record]) readFlag_steady,
      hr.get_eq Member.requiredTitle (by simp [record]) readOptionalText_steady]

end RadioGroup

theorem HiddenPair.decode_agrees {v : Json} (hw : v.writesOnce record = true) :
    Agree Eq (decode v) (decode v.normalise) := by
  refine Record.members_agrees (by decide) hw ?_ fun ms hr => ?_
  · simp only [Record.SteadyOn, record, List.forall_mem_cons]
    exact ⟨Key.steady readScalar_steady, Key.steady readScalar_steady, List.forall_mem_nil _⟩
  · rw [ofMembers, ofMembers, hr.get_eq Member.pairName (by simp [record]) readScalar_steady,
      hr.get_eq Member.pairValue (by simp [record]) readScalar_steady]

namespace HiddenInputs

def writesOnce (ms : List (String × Json)) : Bool :=
  record.writesOnce ms && Json.itemsWriteOnce HiddenPair.record "inputs" ms

theorem steadyOn_pairs (hw : Json.itemsWriteOnce HiddenPair.record "inputs" ms = true) :
    Member.pairs.SteadyOn (List.Forall₂ Eq) ms :=
  Key.steadyOn_list rfl rfl (fun _ => HiddenPair.decode_agrees) hw

theorem decode_agrees (hw : writesOnce ms = true) :
    Agree Eq (decode (.object ms)) (decode (Json.object ms).normalise) := by
  obtain ⟨hown, hitems⟩ := Bool.and_eq_true_iff.mp hw
  have hpairs := steadyOn_pairs hitems
  refine Record.openMembers_agrees (by decide) hown ?_ fun ms' hr => ?_
  · simp only [Record.SteadyOn, record, List.forall_mem_cons]
    exact ⟨hpairs.slot, Key.steady scalarText_steady, Key.steady scalarText_steady,
      Key.steady readInteger_steady, List.forall_mem_nil _⟩
  · have hlist := hr.get_related Member.pairs (by simp [record]) .nil hpairs
    rw [List.forall₂_eq_eq_eq] at hlist
    rw [ofMembers, ofMembers, hr.passthrough, hlist,
      hr.get_eq Member.ownName (by simp [record]) scalarText_steady,
      hr.get_eq Member.ownValue (by simp [record]) scalarText_steady,
      hr.get_eq Member.order (by simp [record]) readInteger_steady]

end HiddenInputs

theorem Nonce.decode_agrees {v : Json} (hw : v.writesOnce record = true) :
    Agree Eq (decode v) (decode v.normalise) := by
  refine Record.members_agrees (by decide) hw ?_ fun ms hr => ?_
  · simp only [Record.SteadyOn, record, List.forall_mem_cons]
    exact ⟨Key.steady readText_steady, Key.steady readText_steady, Key.steady readInteger_steady,
      List.forall_mem_nil _⟩
  · rw [ofMembers, ofMembers, hr.get_eq Member.name (by simp [record]) readText_steady,
      hr.get_eq Member.value (by simp [record]) readText_steady,
      hr.get_eq Member.order (by simp [record]) readInteger_steady]

theorem SubmitButton.decode_agrees {v : Json} (hw : v.writesOnce record = true) :
    Agree Eq (decode v) (decode v.normalise) := by
  refine Record.openMembers_agrees (by decide) hw ?_ fun ms hr => ?_
  · simp only [Record.SteadyOn, record, List.forall_mem_cons]
    exact ⟨Key.steady readOptionalText_steady, Key.steady readText_steady,
      Key.steady readText_steady, Key.steady (markup_steady _), Key.steady (markup_steady _),
      Key.steady readInteger_steady, List.forall_mem_nil _⟩
  · rw [ofMembers, ofMembers, hr.passthrough,
      hr.get_eq Member.caption (by simp [record]) readOptionalText_steady,
      hr.get_eq Member.classes (by simp [record]) readText_steady,
      hr.get_eq Member.plainId (by simp [record]) readText_steady,
      hr.get_eq Member.before (by simp [record]) (markup_steady _),
      hr.get_eq Member.after (by simp [record]) (markup_steady _),
      hr.get_eq Member.order (by simp [record]) readInteger_steady]

end FormMarkup
