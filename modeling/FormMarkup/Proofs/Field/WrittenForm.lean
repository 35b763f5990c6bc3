import FormMarkup.Proofs.Field.Alike
import FormMarkup.Proofs.Field.Writing

namespace FormMarkup

theorem Record.holds_alone {record : Record} {es : List Entry} (hd : record.DistinctNames)
    (hn : (es.map Entry.name).Nodup) (ht : ∀ e ∈ es, record.Takes e) : record.Holds es [] where
  distinct := hd
  names := hn
  takes := ht
  increasing := .nil
  normal := List.forall_mem_nil _
  foreign := List.forall_mem_nil _

theorem Record.holds {record : Record} {es : List Entry} {extra : Passthrough}
    {reserved : List String} (hd : record.DistinctNames) (hn : (es.map Entry.name).Nodup)
    (ht : ∀ e ∈ es, record.Takes e) (hf : extra.Foreign reserved)
    (hr : record.slots.flatMap Slot.spellings ⊆ reserved) : record.Holds es extra where
  distinct := hd
  names := hn
  takes := ht
  increasing := hf.increasing
  normal := hf.normal
  foreign := by
    intro name hname
    cases hs : Slot.find? record.slots name with
    | none => simp [recognises, hs]
    | some slot =>
        obtain ⟨hslot, ha⟩ := Slot.mem_of_find? hs
        have hin := hr (List.mem_flatMap.mpr ⟨slot, hslot, Slot.answers_iff.mp ha⟩)
        exact (hf.foreign name hname hin).elim

open Entry (text_fits markup_fits optionalText_fits flag_fits integer_fits count_fits map_fits
  optionalMap_fits list_fits given_fits readAttributes_texts readLabels_texts)

theorem attributes_fits {m : TextMap} (h : Increasing (Pairs.keys m)) :
    (Written.extraAttributes [] m).Fits Member.extraAttributes m :=
  (map_fits (readAttributes_texts h)).orAs _

variable {keep : String → Bool} {keepItem : Nat → String → Bool}

section Parts

variable {record : Record} {es : List Entry} {extra : Passthrough}

namespace Control

variable {c : Control}

theorem takes (hslots : slots ⊆ record.slots) (ho : Decimal.isWord c.order = true) :
    ∀ e ∈ entries {} c, record.Takes e := by
  simp only [entries, List.forall_mem_cons]
  exact ⟨record.takes Member.label (hslots (by simp [slots])) text_fits,
    record.takes Member.name (hslots (by simp [slots])) text_fits,
    record.takes Member.id (hslots (by simp [slots])) optionalText_fits,
    record.takes Member.required (hslots (by simp [slots])) flag_fits,
    record.takes Member.classes (hslots (by simp [slots])) text_fits,
    record.takes Member.before (hslots (by simp [slots])) markup_fits,
    record.takes Member.after (hslots (by simp [slots])) markup_fits,
    record.takes Member.hint (hslots (by simp [slots])) text_fits,
    record.takes Member.order (hslots (by simp [slots])) (integer_fits ho),
    record.takes Member.requiredTitle (hslots (by simp [slots])) (optionalText_fits.orAs _),
    List.forall_mem_nil _⟩

theorem ofMembers_tree (h : record.Holds es c.passthrough) (hslots : slots ⊆ record.slots)
    (hes : entries {} c ⊆ es) (ho : Decimal.isWord c.order = true) :
    ofMembers record (Entry.tree keep es c.passthrough) = c := by
  rw [ofMembers, h.passthrough_tree,
    h.get Member.label (Written.label "" c.label) (hslots (by simp [slots]))
      (hes (by simp [entries])) text_fits,
    h.get Member.name (Written.name "" c.name) (hslots (by simp [slots])) (hes (by simp [entries]))
      text_fits,
    h.get Member.id (Written.id none c.id) (hslots (by simp [slots])) (hes (by simp [entries]))
      optionalText_fits,
    h.get Member.required (Written.required false c.required) (hslots (by simp [slots]))
      (hes (by simp [entries])) flag_fits,
    h.get Member.classes (Written.classes "" c.classes) (hslots (by simp [slots]))
      (hes (by simp [entries])) text_fits,
    h.get Member.before (Written.before {} c.before) (hslots (by simp [slots]))
      (hes (by simp [entries])) markup_fits,
    h.get Member.after (Written.after {} c.after) (hslots (by simp [slots]))
      (hes (by simp [entries])) markup_fits,
    h.get Member.hint (Written.hint "" c.hint) (hslots (by simp [slots])) (hes (by simp [entries]))
      text_fits,
    h.get Member.order (Written.order 0 c.order) (hslots (by simp [slots]))
      (hes (by simp [entries])) (integer_fits ho),
    h.get Member.requiredTitle (Written.requiredTitle none c.requiredTitle)
      (hslots (by simp [slots])) (hes (by simp [entries])) (optionalText_fits.orAs _)]

end Control

namespace Group

variable {g : Group}

theorem takes (hslots : slots ⊆ record.slots) (ho : Decimal.isWord g.order = true) :
    ∀ e ∈ entries {} g, record.Takes e := by
  simp only [entries, List.forall_mem_cons]
  exact ⟨record.takes Member.classes (hslots (by simp [slots])) text_fits,
    record.takes Member.before (hslots (by simp [slots])) markup_fits,
    record.takes Member.after (hslots (by simp [slots])) markup_fits,
    record.takes Member.order (hslots (by simp [slots])) (integer_fits ho),
    List.forall_mem_nil _⟩

theorem ofMembers_tree (h : record.Holds es g.passthrough) (hslots : slots ⊆ record.slots)
    (hes : entries {} g ⊆ es) (ho : Decimal.isWord g.order = true) :
    ofMembers record (Entry.tree keep es g.passthrough) = g := by
  rw [ofMembers, h.passthrough_tree,
    h.get Member.classes (Written.classes "" g.classes) (hslots (by simp [slots]))
      (hes (by simp [entries])) text_fits,
    h.get Member.before (Written.before {} g.before) (hslots (by simp [slots]))
      (hes (by simp [entries])) markup_fits,
    h.get Member.after (Written.after {} g.after) (hslots (by simp [slots]))
      (hes (by simp [entries])) markup_fits,
    h.get Member.order (Written.order 0 g.order) (hslots (by simp [slots]))
      (hes (by simp [entries])) (integer_fits ho)]

end Group

namespace Choice

variable {c : Choice}

theorem takes (hslots : Choice.record.slots ⊆ record.slots) (ho : Decimal.isWord c.order = true)
    (hm : Increasing (Pairs.keys c.extraAttributes)) : ∀ e ∈ entries {} c, record.Takes e := by
  simp only [entries, List.forall_mem_cons]
  exact ⟨record.takes Member.label (hslots (by simp [Choice.record])) text_fits,
    record.takes Member.value (hslots (by simp [Choice.record])) text_fits,
    record.takes Member.checked (hslots (by simp [Choice.record])) flag_fits,
    record.takes Member.id (hslots (by simp [Choice.record])) optionalText_fits,
    record.takes Member.classes (hslots (by simp [Choice.record])) text_fits,
    record.takes Member.before (hslots (by simp [Choice.record])) markup_fits,
    record.takes Member.after (hslots (by simp [Choice.record])) markup_fits,
    record.takes Member.order (hslots (by simp [Choice.record])) (integer_fits ho),
    record.takes Member.extraAttributes (hslots (by simp [Choice.record])) (attributes_fits hm),
    List.forall_mem_nil _⟩

theorem ofMembers_tree (h : record.Holds es extra) (hslots : Choice.record.slots ⊆ record.slots)
    (hes : entries {} c ⊆ es) (ho : Decimal.isWord c.order = true)
    (hm : Increasing (Pairs.keys c.extraAttributes)) :
    ofMembers (Entry.tree keep es extra) = c := by
  rw [ofMembers,
    h.get Member.label (Written.label "" c.label) (hslots (by simp [Choice.record]))
      (hes (by simp [entries])) text_fits,
    h.get Member.value (Written.value "" c.value) (hslots (by simp [Choice.record]))
      (hes (by simp [entries])) text_fits,
    h.get Member.checked (Written.checked false c.checked) (hslots (by simp [Choice.record]))
      (hes (by simp [entries])) flag_fits,
    h.get Member.id (Written.id none c.id) (hslots (by simp [Choice.record]))
      (hes (by simp [entries])) optionalText_fits,
    h.get Member.classes (Written.classes "" c.classes) (hslots (by simp [Choice.record]))
      (hes (by simp [entries])) text_fits,
    h.get Member.before (Written.before {} c.before) (hslots (by simp [Choice.record]))
      (hes (by simp [entries])) markup_fits,
    h.get Member.after (Written.after {} c.after) (hslots (by simp [Choice.record]))
      (hes (by simp [entries])) markup_fits,
    h.get Member.order (Written.order 0 c.order) (hslots (by simp [Choice.record]))
      (hes (by simp [entries])) (integer_fits ho),
    h.get Member.extraAttributes (Written.extraAttributes [] c.extraAttributes)
      (hslots (by simp [Choice.record])) (hes (by simp [entries]))
      (attributes_fits hm)]

end Choice

end Parts

namespace TextInput

variable {f : TextInput}

theorem takes (ho : Decimal.isWord f.order = true)
    (hm : ∀ map ∈ f.extraAttributes, Increasing (Pairs.keys map)) :
    ∀ e ∈ f.entries, record.Takes e := by
  refine List.forall_mem_append.mpr ⟨Control.takes (List.subset_append_left ..) ho, ?_⟩
  simp only [List.forall_mem_cons]
  exact ⟨record.takes Member.placeholder (by simp [record]) text_fits,
    record.takes Member.value (by simp [record]) text_fits,
    record.takes Member.defaultValue (by simp [record]) (text_fits.orAs _),
    record.takes Member.autocomplete (by simp [record]) text_fits,
    record.takes Member.visibility (by simp [record]) markup_fits,
    record.takes Member.givenAttributes (by simp [record]) ((optionalMap_fits hm).orAs _),
    List.forall_mem_nil _⟩

theorem decode_written (ho : Decimal.isWord f.order = true)
    (hm : ∀ map ∈ f.extraAttributes, Increasing (Pairs.keys map))
    (hf : f.passthrough.Foreign (Field.input .text f).reserved) :
    decode (Json.object (Entry.members keep f.entries ++ f.passthrough)).normalise = .ok f := by
  have hnames : (f.entries.map Entry.name).Nodup := of_decide_eq_true rfl
  have hreserved : record.slots.flatMap Slot.spellings ⊆ (Field.input .text f).reserved :=
    of_decide_eq_true rfl
  have h := Record.holds (by decide) hnames (takes ho hm) hf hreserved
  rw [decode, h.openMembers_tree keep (List.forall_mem_nil _), Except.map, ofMembers,
    Control.ofMembers_tree h (List.subset_append_left ..) (List.subset_append_left ..) ho,
    h.get Member.placeholder (Written.placeholder "" f.placeholder) (by simp [record])
      (by simp [entries]) text_fits,
    h.get Member.value (Written.value "" f.value) (by simp [record]) (by simp [entries]) text_fits,
    h.get Member.defaultValue (Written.defaultValue "" f.defaultValue) (by simp [record])
      (by simp [entries]) (text_fits.orAs _),
    h.get Member.autocomplete (Written.autocomplete "on" f.autocomplete) (by simp [record])
      (by simp [entries]) text_fits,
    h.get Member.visibility (Written.visibility {} f.visibility) (by simp [record])
      (by simp [entries]) markup_fits,
    h.get Member.givenAttributes (Written.givenAttributes f.extraAttributes) (by simp [record])
      (by simp [entries]) ((optionalMap_fits hm).orAs _)]

end TextInput

namespace TextArea

variable {f : TextArea}

theorem takes (ho : Decimal.isWord f.order = true)
    (hr : f.rows < 4294967296) (hm : Increasing (Pairs.keys f.extraAttributes)) :
    ∀ e ∈ f.entries, record.Takes e := by
  refine List.forall_mem_append.mpr ⟨Control.takes (List.subset_append_left ..) ho, ?_⟩
  simp only [List.forall_mem_cons]
  exact ⟨record.takes Member.placeholder (by simp [record]) text_fits,
    record.takes Member.value (by simp [record]) text_fits,
    record.takes Member.autocomplete (by simp [record]) text_fits,
    record.takes Member.rows (by simp [record]) (count_fits hr),
    record.takes Member.extraAttributes (by simp [record]) (attributes_fits hm),
    List.forall_mem_nil _⟩

theorem decode_written (ho : Decimal.isWord f.order = true)
    (hr : f.rows < 4294967296) (hm : Increasing (Pairs.keys f.extraAttributes))
    (hf : f.passthrough.Foreign (Field.textArea f).reserved) :
    decode (Json.object (Entry.members keep f.entries ++ f.passthrough)).normalise = .ok f := by
  have hnames : (f.entries.map Entry.name).Nodup := of_decide_eq_true rfl
  have hreserved : record.slots.flatMap Slot.spellings ⊆ (Field.textArea f).reserved :=
    of_decide_eq_true rfl
  have h := Record.holds (by decide) hnames (takes ho hr hm) hf hreserved
  rw [decode, h.openMembers_tree keep (List.forall_mem_nil _), Except.map, ofMembers,
    Control.ofMembers_tree h (List.subset_append_left ..) (List.subset_append_left ..) ho,
    h.get Member.placeholder (Written.placeholder "" f.placeholder) (by simp [record])
      (by simp [entries]) text_fits,
    h.get Member.value (Written.value "" f.value) (by simp [record]) (by simp [entries]) text_fits,
    h.get Member.autocomplete (Written.autocomplete "on" f.autocomplete) (by simp [record])
      (by simp [entries]) text_fits,
    h.get Member.rows (Written.rows 3 f.rows) (by simp [record]) (by simp [entries])
      (count_fits hr),
    h.get Member.extraAttributes (Written.extraAttributes [] f.extraAttributes) (by simp [record])
      (by simp [entries]) (attributes_fits hm)]

end TextArea

namespace FileInput

variable {f : FileInput}

theorem takes (ho : Decimal.isWord f.order = true)
    (hm : Increasing (Pairs.keys f.extraAttributes)) :
    ∀ e ∈ f.entries, record.Takes e := by
  refine List.forall_mem_append.mpr ⟨Control.takes (List.subset_append_left ..) ho, ?_⟩
  simp only [List.forall_mem_cons]
  exact ⟨record.takes Member.accept (by simp [record]) text_fits,
    record.takes Member.multiple (by simp [record]) flag_fits,
    record.takes Member.extraAttributes (by simp [record]) (attributes_fits hm),
    List.forall_mem_nil _⟩

theorem decode_written (ho : Decimal.isWord f.order = true)
    (hm : Increasing (Pairs.keys f.extraAttributes))
    (hf : f.passthrough.Foreign (Field.file f).reserved) :
    decode (Json.object (Entry.members keep f.entries ++ f.passthrough)).normalise = .ok f := by
  have hnames : (f.entries.map Entry.name).Nodup := of_decide_eq_true rfl
  have hreserved : record.slots.flatMap Slot.spellings ⊆ (Field.file f).reserved :=
    of_decide_eq_true rfl
  have h := Record.holds (by decide) hnames (takes ho hm) hf hreserved
  rw [decode, h.openMembers_tree keep (List.forall_mem_nil _), Except.map, ofMembers,
    Control.ofMembers_tree h (List.subset_append_left ..) (List.subset_append_left ..) ho,
    h.get Member.accept (Written.accept "" f.accept) (by simp [record]) (by simp [entries])
      text_fits,
    h.get Member.multiple (Written.multiple false f.multiple) (by simp [record]) (by simp [entries])
      flag_fits,
    h.get Member.extraAttributes (Written.extraAttributes [] f.extraAttributes) (by simp [record])
      (by simp [entries]) (attributes_fits hm)]

end FileInput

namespace Select

variable {f : Select}

theorem takes (ho : Decimal.isWord f.order = true)
    (hl : Increasing (Pairs.keys f.options))
    (hm : Increasing (Pairs.keys f.extraAttributes)) :
    ∀ e ∈ f.entries, record.Takes e := by
  refine List.forall_mem_append.mpr ⟨Control.takes (List.subset_append_left ..) ho, ?_⟩
  simp only [List.forall_mem_cons]
  exact ⟨record.takes Member.placeholder (by simp [record]) text_fits,
    record.takes Member.options (by simp [record]) (map_fits (readLabels_texts hl)),
    record.takes Member.defaultOption (by simp [record]) (text_fits.orAs _),
    record.takes Member.selectOption (by simp [record]) (text_fits.orAs _),
    record.takes Member.multiple (by simp [record]) flag_fits,
    record.takes Member.extraAttributes (by simp [record]) (attributes_fits hm),
    List.forall_mem_nil _⟩

theorem decode_written (ho : Decimal.isWord f.order = true)
    (hl : Increasing (Pairs.keys f.options))
    (hm : Increasing (Pairs.keys f.extraAttributes))
    (hf : f.passthrough.Foreign (Field.select f).reserved) :
    decode (Json.object (Entry.members keep f.entries ++ f.passthrough)).normalise = .ok f := by
  have hnames : (f.entries.map Entry.name).Nodup := of_decide_eq_true rfl
  have hreserved : record.slots.flatMap Slot.spellings ⊆ (Field.select f).reserved :=
    of_decide_eq_true rfl
  have h := Record.holds (by decide) hnames (takes ho hl hm) hf hreserved
  rw [decode, h.openMembers_tree keep (List.forall_mem_nil _), Except.map, ofMembers,
    Control.ofMembers_tree h (List.subset_append_left ..) (List.subset_append_left ..) ho,
    h.get Member.placeholder (Written.placeholder "" f.placeholder) (by simp [record])
      (by simp [entries]) text_fits,
    h.get Member.options (Written.options [] f.options) (by simp [record]) (by simp [entries])
      (map_fits (readLabels_texts hl)),
    h.get Member.defaultOption (Written.defaultOption "" f.defaultOption) (by simp [record])
      (by simp [entries]) (text_fits.orAs _),
    h.get Member.selectOption (Written.selectOption "" f.selectOption) (by simp [record])
      (by simp [entries]) (text_fits.orAs _),
    h.get Member.multiple (Written.multiple false f.multiple) (by simp [record]) (by simp [entries])
      flag_fits,
    h.get Member.extraAttributes (Written.extraAttributes [] f.extraAttributes) (by simp [record])
      (by simp [entries]) (attributes_fits hm)]

end Select

namespace Switch

variable {f : Switch}

theorem takes (ho : Decimal.isWord f.order = true)
    (hm : Increasing (Pairs.keys f.extraAttributes)) :
    ∀ e ∈ f.entries, record.Takes e := by
  refine List.forall_mem_append.mpr ⟨Control.takes (List.subset_append_left ..) ho, ?_⟩
  simp only [List.forall_mem_cons]
  exact ⟨record.takes Member.checked (by simp [record]) flag_fits,
    record.takes Member.extraAttributes (by simp [record]) (attributes_fits hm),
    List.forall_mem_nil _⟩

theorem decode_written (ho : Decimal.isWord f.order = true)
    (hm : Increasing (Pairs.keys f.extraAttributes))
    (hf : f.passthrough.Foreign (Field.switch f).reserved) :
    decode (Json.object (Entry.members keep f.entries ++ f.passthrough)).normalise = .ok f := by
  have hnames : (f.entries.map Entry.name).Nodup := of_decide_eq_true rfl
  have hreserved : record.slots.flatMap Slot.spellings ⊆ (Field.switch f).reserved :=
    of_decide_eq_true rfl
  have h := Record.holds (by decide) hnames (takes ho hm) hf hreserved
  rw [decode, h.openMembers_tree keep (List.forall_mem_nil _), Except.map, ofMembers,
    Control.ofMembers_tree h (List.subset_append_left ..) (List.subset_append_left ..) ho,
    h.get Member.checked (Written.checked false f.checked) (by simp [record]) (by simp [entries])
      flag_fits,
    h.get Member.extraAttributes (Written.extraAttributes [] f.extraAttributes) (by simp [record])
      (by simp [entries]) (attributes_fits hm)]

end Switch

theorem Choice.decode_written {c : Choice} (ho : Decimal.isWord c.order = true)
    (hm : Increasing (Pairs.keys c.extraAttributes)) :
    decode (c.written keep).normalise = .ok c := by
  have hnames : ((entries {} c).map Entry.name).Nodup := of_decide_eq_true rfl
  have htakes : ∀ e ∈ entries {} c, record.Takes e := takes (fun _ hs => hs) ho hm
  have h := Record.holds_alone (by decide) hnames htakes
  have hms := h.members_tree keep (List.forall_mem_nil _)
  rw [List.append_nil] at hms
  rw [decode, written, hms, Except.map,
    ofMembers_tree h (fun _ hs => hs) (fun _ he => he) ho hm]

namespace Checkbox

variable {c : Checkbox}

theorem takes (ho : Decimal.isWord c.order = true)
    (hm : Increasing (Pairs.keys c.extraAttributes)) : ∀ e ∈ c.entries, record.Takes e := by
  refine List.forall_mem_append.mpr ⟨Choice.takes Choice.slots_subset ho hm, ?_⟩
  simp only [List.forall_mem_cons]
  exact ⟨record.takes Member.name (by simp [record]) text_fits,
    record.takes Member.required (by simp [record]) flag_fits,
    record.takes Member.requiredTitle (by simp [record]) (optionalText_fits.orAs _),
    List.forall_mem_nil _⟩

theorem decode_written (ho : Decimal.isWord c.order = true)
    (hm : Increasing (Pairs.keys c.extraAttributes)) :
    decode (c.written keep).normalise = .ok c := by
  have hnames : (c.entries.map Entry.name).Nodup := of_decide_eq_true rfl
  have h := Record.holds_alone (by decide) hnames (takes ho hm)
  have hms := h.members_tree keep (List.forall_mem_nil _)
  rw [List.append_nil] at hms
  rw [decode, written, hms, Except.map, ofMembers,
    Choice.ofMembers_tree h Choice.slots_subset (List.subset_append_left ..) ho hm,
    h.get Member.name (Written.name "" c.name) (by simp [record]) (by simp [entries]) text_fits,
    h.get Member.required (Written.required false c.required) (by simp [record]) (by simp [entries])
      flag_fits,
    h.get Member.requiredTitle (Written.requiredTitle none c.requiredTitle) (by simp [record])
      (by simp [entries]) (optionalText_fits.orAs _)]

end Checkbox

theorem forall₂_mapIdx {α β : Type} {r : β → α → Prop} {f : Nat → α → β} {as : List α}
    (h : ∀ i, ∀ a ∈ as, r (f i a) a) : List.Forall₂ r (as.mapIdx f) as := by
  induction as generalizing f with
  | nil => exact .nil
  | cons a as ih =>
      rw [List.mapIdx_cons]
      exact .cons (h 0 a (List.mem_cons_self ..))
        (ih fun i b hb => h (i + 1) b (List.mem_cons_of_mem _ hb))

namespace CheckboxGroup

variable {g : CheckboxGroup}

theorem choices_written (ho : ∀ c ∈ g.choices, Decimal.isWord c.order = true)
    (hm : ∀ c ∈ g.choices, Increasing (Pairs.keys c.extraAttributes)) :
    List.Forall₂ (fun item c => Checkbox.decode item.normalise = .ok c)
      (g.choices.mapIdx fun i c => c.written (keepItem i)) g.choices :=
  forall₂_mapIdx fun _ c hc => Checkbox.decode_written (ho c hc) (hm c hc)

theorem decode_written (ho : Decimal.isWord g.order = true)
    (hos : ∀ c ∈ g.choices, Decimal.isWord c.order = true)
    (hms : ∀ c ∈ g.choices, Increasing (Pairs.keys c.extraAttributes))
    (hf : g.passthrough.Foreign (Field.checkbox g).reserved) :
    decode (Json.object (Entry.members keep (g.entries keepItem) ++ g.passthrough)).normalise =
      .ok g := by
  have hnames : ((g.entries keepItem).map Entry.name).Nodup := of_decide_eq_true rfl
  have hreserved : record.slots.flatMap Slot.spellings ⊆ (Field.checkbox g).reserved :=
    of_decide_eq_true rfl
  have hchoices : (Entry.list "choices" (g.choices.mapIdx fun i c => c.written (keepItem i))).Fits
      Member.checkboxes g.choices := list_fits (choices_written hos hms)
  have htakes : ∀ e ∈ g.entries keepItem, record.Takes e := by
    refine List.forall_mem_append.mpr ⟨Group.takes (List.subset_append_left ..) ho, ?_⟩
    simp only [List.forall_mem_cons]
    exact ⟨record.takes Member.checkboxes (by simp [record]) hchoices, List.forall_mem_nil _⟩
  have h := Record.holds (by decide) hnames htakes hf hreserved
  rw [decode, h.openMembers_tree keep (List.forall_mem_nil _), Except.map, ofMembers,
    Group.ofMembers_tree h (List.subset_append_left ..) (List.subset_append_left ..) ho,
    h.get Member.checkboxes _ (by simp [record]) (by simp [entries]) hchoices]

end CheckboxGroup

namespace RadioGroup

variable {g : RadioGroup}

theorem choices_written (ho : ∀ c ∈ g.choices, Decimal.isWord c.order = true)
    (hm : ∀ c ∈ g.choices, Increasing (Pairs.keys c.extraAttributes)) :
    List.Forall₂ (fun item c => Choice.decode item.normalise = .ok c)
      (g.choices.mapIdx fun i c => c.written (keepItem i)) g.choices :=
  forall₂_mapIdx fun _ c hc => Choice.decode_written (ho c hc) (hm c hc)

theorem decode_written (ho : Decimal.isWord g.order = true)
    (hos : ∀ c ∈ g.choices, Decimal.isWord c.order = true)
    (hms : ∀ c ∈ g.choices, Increasing (Pairs.keys c.extraAttributes))
    (hf : g.passthrough.Foreign (Field.radio g).reserved) :
    decode (Json.object (Entry.members keep (g.entries keepItem) ++ g.passthrough)).normalise =
      .ok g := by
  have hnames : ((g.entries keepItem).map Entry.name).Nodup := of_decide_eq_true rfl
  have hreserved : record.slots.flatMap Slot.spellings ⊆ (Field.radio g).reserved :=
    of_decide_eq_true rfl
  have hchoices : (Entry.list "choices" (g.choices.mapIdx fun i c => c.written (keepItem i))).Fits
      Member.choices g.choices := list_fits (choices_written hos hms)
  have htakes : ∀ e ∈ g.entries keepItem, record.Takes e := by
    refine List.forall_mem_append.mpr ⟨Group.takes (List.subset_append_left ..) ho, ?_⟩
    simp only [List.forall_mem_cons]
    exact ⟨record.takes Member.title (by simp [record]) text_fits,
      record.takes Member.name (by simp [record]) text_fits,
      record.takes Member.requiredUnlessUnset (by simp [record]) flag_fits,
      record.takes Member.requiredTitle (by simp [record]) (optionalText_fits.orAs _),
      record.takes Member.choices (by simp [record]) hchoices, List.forall_mem_nil _⟩
  have h := Record.holds (by decide) hnames htakes hf hreserved
  rw [decode, h.openMembers_tree keep (List.forall_mem_nil _), Except.map, ofMembers,
    Group.ofMembers_tree h (List.subset_append_left ..) (List.subset_append_left ..) ho,
    h.get Member.title (Written.title "" g.title) (by simp [record]) (by simp [entries]) text_fits,
    h.get Member.name (Written.name "" g.name) (by simp [record]) (by simp [entries]) text_fits,
    h.get Member.requiredUnlessUnset (Written.required true g.required) (by simp [record])
      (by simp [entries]) flag_fits,
    h.get Member.requiredTitle (Written.requiredTitle none g.requiredTitle) (by simp [record])
      (by simp [entries]) (optionalText_fits.orAs _),
    h.get Member.choices _ (by simp [record]) (by simp [entries]) hchoices]

end RadioGroup

theorem HiddenPair.decode_written {p : HiddenPair} : decode (p.written keep).normalise = .ok p := by
  have hnames : (p.entries.map Entry.name).Nodup := of_decide_eq_true rfl
  have hname : (Entry.given "name" p.name).Fits Member.pairName p.name := given_fits rfl
  have hvalue : (Entry.given "value" p.value).Fits Member.pairValue p.value := given_fits rfl
  have htakes : ∀ e ∈ p.entries, record.Takes e := by
    simp only [entries, List.forall_mem_cons]
    exact ⟨record.takes Member.pairName (by simp [record]) hname,
      record.takes Member.pairValue (by simp [record]) hvalue, List.forall_mem_nil _⟩
  have hneeded : ∀ name ∈ record.needed, name ∈ Pairs.keys (Entry.members keep p.entries) := by
    simp [record, entries, Entry.members, Entry.given, Pairs.keys]
  have h := Record.holds_alone (by decide) hnames htakes
  have hms := h.members_tree keep hneeded
  rw [List.append_nil] at hms
  rw [decode, written, hms, Except.map, ofMembers,
    h.get Member.pairName _ (by simp [record]) (by simp [entries]) hname,
    h.get Member.pairValue _ (by simp [record]) (by simp [entries]) hvalue]

namespace HiddenInputs

variable {f : HiddenInputs}

theorem decode_written (ho : Decimal.isWord f.order = true)
    (hf : f.passthrough.Foreign (Field.hidden f).reserved) :
    decode (Json.object (Entry.members keep (f.entries keepItem) ++ f.passthrough)).normalise =
      .ok f := by
  have hnames : ((f.entries keepItem).map Entry.name).Nodup := of_decide_eq_true rfl
  have hreserved : record.slots.flatMap Slot.spellings ⊆ (Field.hidden f).reserved :=
    of_decide_eq_true rfl
  have hpairs : (Entry.list "inputs" (f.pairs.mapIdx fun i p => p.written (keepItem i))).Fits
      Member.pairs f.pairs := list_fits (forall₂_mapIdx fun _ _ _ => HiddenPair.decode_written)
  have htakes : ∀ e ∈ f.entries keepItem, record.Takes e := by
    simp only [entries, List.forall_mem_cons]
    exact ⟨record.takes Member.pairs (by simp [record]) hpairs,
      record.takes Member.order (by simp [record]) (integer_fits ho), List.forall_mem_nil _⟩
  have h := Record.holds (by decide) hnames htakes hf hreserved
  -- Nothing is written under the names of a single pair, so that the list is all there is.
  have hname : Member.ownName.get (Entry.tree keep (f.entries keepItem) f.passthrough) = none := by
    refine h.get_absent Member.ownName (by simp [record]) ?_
    simp only [entries, List.forall_mem_cons]
    exact ⟨rfl, rfl, List.forall_mem_nil _⟩
  rw [decode, h.openMembers_tree keep (List.forall_mem_nil _), Except.map, ofMembers,
    h.passthrough_tree, hname, firstPair,
    h.get Member.pairs _ (by simp [record]) (by simp [entries]) hpairs,
    h.get Member.order (Written.order 0 f.order) (by simp [record]) (by simp [entries])
      (integer_fits ho), List.nil_append]

end HiddenInputs

namespace Nonce

variable {n : Nonce}

theorem decode_written (ho : Decimal.isWord n.order = true) :
    decode (Json.object (Entry.members keep n.entries)).normalise = .ok n := by
  have hnames : (n.entries.map Entry.name).Nodup := of_decide_eq_true rfl
  have hname : (Entry.given "name" n.name).Fits Member.name n.name := given_fits rfl
  have haction : (Entry.given "value" n.action).Fits Member.value n.action := given_fits rfl
  have htakes : ∀ e ∈ n.entries, record.Takes e := by
    simp only [entries, List.forall_mem_cons]
    exact ⟨record.takes Member.name (by simp [record]) hname,
      record.takes Member.value (by simp [record]) haction,
      record.takes Member.order (by simp [record]) (integer_fits ho), List.forall_mem_nil _⟩
  have hneeded : ∀ name ∈ record.needed, name ∈ Pairs.keys (Entry.members keep n.entries) := by
    simp [record, entries, Entry.members, Entry.given, Pairs.keys]
  have h := Record.holds_alone (by decide) hnames htakes
  have hms := h.members_tree keep hneeded
  rw [List.append_nil] at hms
  rw [decode, hms, Except.map, ofMembers,
    h.get Member.name _ (by simp [record]) (by simp [entries]) hname,
    h.get Member.value _ (by simp [record]) (by simp [entries]) haction,
    h.get Member.order (Written.order 0 n.order) (by simp [record]) (by simp [entries])
      (integer_fits ho)]

end Nonce

namespace SubmitButton

variable {b : SubmitButton}

theorem decode_written (ho : Decimal.isWord b.order = true)
    (hf : b.passthrough.Foreign (Field.submit b).reserved) :
    decode (Json.object (Entry.members keep b.entries ++ b.passthrough)).normalise = .ok b := by
  have hnames : (b.entries.map Entry.name).Nodup := of_decide_eq_true rfl
  have hreserved : record.slots.flatMap Slot.spellings ⊆ (Field.submit b).reserved :=
    of_decide_eq_true rfl
  have htakes : ∀ e ∈ b.entries, record.Takes e := by
    simp only [entries, List.forall_mem_cons]
    exact ⟨record.takes Member.caption (by simp [record]) optionalText_fits,
      record.takes Member.classes (by simp [record]) text_fits,
      record.takes Member.plainId (by simp [record]) text_fits,
      record.takes Member.before (by simp [record]) markup_fits,
      record.takes Member.after (by simp [record]) markup_fits,
      record.takes Member.order (by simp [record]) (integer_fits ho), List.forall_mem_nil _⟩
  have h := Record.holds (by decide) hnames htakes hf hreserved
  rw [decode, h.openMembers_tree keep (List.forall_mem_nil _), Except.map, ofMembers,
    h.passthrough_tree,
    h.get Member.caption (Written.caption none b.value) (by simp [record]) (by simp [entries])
      optionalText_fits,
    h.get Member.classes (Written.classes "" b.classes) (by simp [record]) (by simp [entries])
      text_fits,
    h.get Member.plainId (Written.plainId "" b.id) (by simp [record]) (by simp [entries]) text_fits,
    h.get Member.before (Written.before {} b.before) (by simp [record]) (by simp [entries])
      markup_fits,
    h.get Member.after (Written.after {} b.after) (by simp [record]) (by simp [entries])
      markup_fits,
    h.get Member.order (Written.order 0 b.order) (by simp [record]) (by simp [entries])
      (integer_fits ho)]

end SubmitButton

end FormMarkup
