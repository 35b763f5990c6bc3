import FormMarkup.Proofs.Field.StableOrder
import FormMarkup.Proofs.Render.Ids
import FormMarkup.Proofs.Render.Safety

namespace FormMarkup

open FormMarkup.Markup

namespace Markup

def referencesOf (views : List TagView) : List String :=
  views.filterMap TagView.target ++ views.filterMap TagView.description

def references (events : List Event) : List String :=
  referencesOf (tagViews events)

theorem mem_referencesOf {vs : List TagView} {t : String} :
    t ∈ referencesOf vs ↔ ∃ v ∈ vs, v.target = some t ∨ v.description = some t := by
  simp only [referencesOf, List.mem_append, List.mem_filterMap]
  grind

def TagView.RefersWithin (own : List String) (v : TagView) : Prop :=
  (∀ t ∈ v.target, t ∈ own) ∧ ∀ t ∈ v.description, t ∈ own

def AllWithin (own : List String) (views : List TagView) : Prop :=
  ∀ v ∈ views, v.RefersWithin own

section Within

variable {own : List String}

@[simp]
theorem refersWithin_classes (name : String) (classes : List String) (id : Option String) :
    ({ name := name, classes := classes, id := id } : TagView).RefersWithin own :=
  ⟨by simp, by simp⟩

@[simp]
theorem allWithin_nil : AllWithin own [] :=
  fun _ h => (List.not_mem_nil h).elim

@[simp]
theorem allWithin_cons {v : TagView} {vs : List TagView} :
    AllWithin own (v :: vs) ↔ v.RefersWithin own ∧ AllWithin own vs :=
  List.forall_mem_cons

@[simp]
theorem allWithin_append {vs ws : List TagView} :
    AllWithin own (vs ++ ws) ↔ AllWithin own vs ∧ AllWithin own ws :=
  List.forall_mem_append

theorem AllWithin.mono {own' : List String} (hsub : own ⊆ own') {vs : List TagView}
    (h : AllWithin own vs) : AllWithin own' vs :=
  fun v hv => ⟨fun t ht => hsub ((h v hv).1 t ht), fun t ht => hsub ((h v hv).2 t ht)⟩

theorem allWithin_flatMap {α : Type} {f : α → List TagView} {xs : List α}
    (h : ∀ x ∈ xs, AllWithin (idsOf (f x)) (f x)) :
    AllWithin (idsOf (xs.flatMap f)) (xs.flatMap f) := by
  intro v hv
  obtain ⟨x, hx, hvx⟩ := List.mem_flatMap.mp hv
  have hsub : idsOf (f x) ⊆ idsOf (xs.flatMap f) := by
    rw [idsOf_flatMap]
    exact fun t ht => List.mem_flatMap.mpr ⟨x, hx, ht⟩
  exact (h x hx).mono hsub v hvx

end Within

end Markup

section References

variable {s : Settings} {hook caption : String → List String} {own : List String}

theorem allWithin_labelViews (hook : String → List String) {id : String}
    (h : ∀ t ∈ given id, t ∈ own) (label : String) :
    AllWithin own (labelViews hook id label) := by
  unfold labelViews
  split
  · exact allWithin_nil
  · exact allWithin_cons.mpr ⟨⟨h, by simp⟩, allWithin_nil⟩

theorem allWithin_markerViews (required : Bool) : AllWithin own (markerViews required) := by
  cases required <;> simp [markerViews]

theorem Control.allWithin_hintViews (c : Control) : AllWithin own c.hintViews := by
  unfold hintViews
  split <;> simp

theorem Control.refersWithin_tagView {c : Control} (h : ∀ t ∈ c.description, t ∈ own)
    (name : String) (classes : List String) : (c.tagView name classes).RefersWithin own :=
  ⟨by simp [Control.tagView], h⟩

theorem Control.given_mem_own (c : Control) :
    ∀ t ∈ given c.elementId, t ∈ (given c.elementId).toList ++ c.description.toList :=
  fun _ ht => List.mem_append_left _ (Option.mem_toList.mpr ht)

theorem Control.description_mem_own (c : Control) :
    ∀ t ∈ c.description, t ∈ (given c.elementId).toList ++ c.description.toList :=
  fun _ ht => List.mem_append_right _ (Option.mem_toList.mpr ht)

theorem Control.allWithin_labelledViews (c : Control) (name : String) (classes : List String)
    {rest : List TagView} (hr : idsOf rest = []) (hw : ∀ own, AllWithin own rest) :
    AllWithin (idsOf (c.labelledViews hook (c.tagView name classes :: rest)))
      (c.labelledViews hook (c.tagView name classes :: rest)) := by
  rw [c.idsOf_labelledViews name classes hr]
  have hlabel := allWithin_labelViews hook c.given_mem_own c.label
  have hcontrol := Control.refersWithin_tagView c.description_mem_own name classes
  simp [labelledViews, wrapViews, hlabel, hcontrol, allWithin_markerViews, c.allWithin_hintViews,
    hw]

theorem FileInput.allWithin_tagViews (f : FileInput) :
    AllWithin (idsOf (f.tagViews hook caption)) (f.tagViews hook caption) := by
  rw [f.idsOf_tagViews]
  have hcontrol := Control.refersWithin_tagView f.description_mem_own "input"
    ("custom-file-input" :: hook "input")
  have hlabel : TagView.RefersWithin ((given f.elementId).toList ++ f.description.toList)
      { name := "label", classes := ["custom-file-label"], target := given f.elementId } :=
    ⟨f.given_mem_own, by simp⟩
  unfold tagViews Control.wrapViews
  split <;> simp [hcontrol, hlabel, allWithin_markerViews, Control.allWithin_hintViews]

theorem Switch.allWithin_tagViews (f : Switch) :
    AllWithin (idsOf (f.tagViews hook)) (f.tagViews hook) := by
  rw [f.idsOf_tagViews]
  have hcontrol := Control.refersWithin_tagView f.description_mem_own "input"
    (["custom-control-input"] ++ hook "input" ++ hook "switch" ++
      (Text.words f.classes).flatMap hook)
  have hlabel : TagView.RefersWithin ((given f.elementId).toList ++ f.description.toList)
      { name := "label", classes := ["custom-control-label"], target := given f.elementId } :=
    ⟨f.given_mem_own, by simp⟩
  rw [tagViews]
  simp only [allWithin_append, allWithin_cons, hcontrol, hlabel, allWithin_markerViews,
    Control.allWithin_hintViews, refersWithin_classes, allWithin_nil, and_self]

theorem Select.allWithin_optionViews (f : Select) : AllWithin own f.optionViews := by
  unfold optionViews
  split <;> simp [AllWithin]

theorem Choice.allWithin_tagViews (c : Choice) (hook : String → List String) (id part : String)
    {marker : List TagView} (hm : ∀ own, AllWithin own marker) (hid : idsOf marker = []) :
    AllWithin (idsOf (c.tagViews hook id part marker)) (c.tagViews hook id part marker) := by
  rw [c.idsOf_tagViews id part hid]
  have hlabel : AllWithin (given id).toList (labelViews hook id c.label) :=
    allWithin_labelViews hook (fun _ ht => Option.mem_toList.mpr ht) c.label
  simp [tagViews, hm, hlabel]

theorem Field.allWithin_tagViews (f : Field) :
    AllWithin (idsOf (f.tagViews s hook caption)) (f.tagViews s hook caption) := by
  cases f with
  | input type f => exact f.allWithin_labelledViews _ _ idsOf_nil fun _ => allWithin_nil
  | textArea f => exact f.allWithin_labelledViews _ _ idsOf_nil fun _ => allWithin_nil
  | file f => exact f.allWithin_tagViews
  | select f =>
      exact f.allWithin_labelledViews _ _ f.idsOf_optionViews fun _ => f.allWithin_optionViews
  | checkbox g =>
      have hchoices := allWithin_flatMap fun p (_ : p ∈ g.choicesWithIds s) =>
        p.2.allWithin_tagViews hook p.1 "checkbox"
          (fun _ => allWithin_markerViews p.2.required) (idsOf_markerViews _)
      simpa [tagViews, CheckboxGroup.tagViews, Group.tagViews] using hchoices
  | radio g =>
      have hchoices := allWithin_flatMap fun p (_ : p ∈ g.choicesWithIds s) =>
        p.2.allWithin_tagViews hook p.1 "radio" (fun _ => allWithin_nil) idsOf_nil
      have htitle : AllWithin
          (idsOf ((g.choicesWithIds s).flatMap fun p => p.2.tagViews hook p.1 "radio" []))
          (g.titleViews caption) := by
        unfold RadioGroup.titleViews
        split <;> simp [allWithin_markerViews]
      simpa [tagViews, RadioGroup.tagViews, Group.tagViews, g.idsOf_titleViews, htitle] using
        hchoices
  | switch f => exact f.allWithin_tagViews
  | hidden f => simp [tagViews, AllWithin]
  | nonce n => exact allWithin_nil
  | submit b =>
      simp [tagViews, SubmitButton.tagViews]
  | unknown => exact allWithin_nil

end References

namespace Renderer

variable {r : Renderer} {hook caption : String → List String}

theorem allWithin_fieldViews (r : Renderer) (fs : List Field) :
    AllWithin (idsOf (r.fieldViews hook caption fs)) (r.fieldViews hook caption fs) :=
  allWithin_flatMap fun _ _ => Field.allWithin_tagViews _

theorem allWithin_form (hr : r.emitter = none) {tag : FormTag}
    (ht : tag.attributes.isBlank = true) {fs : List Field} (hf : ∀ f ∈ fs, f.Bare) :
    AllWithin (idsOf (viewsOf (r.form fs tag).items)) (viewsOf (r.form fs tag).items) := by
  cases fs with
  | nil => exact allWithin_nil
  | cons f fs =>
      rw [viewsOf_form r.settings.hooks_words hr hf (List.cons_ne_nil f fs) ht, idsOf_append]
      refine allWithin_append.mpr
        ⟨?_, (r.allWithin_fieldViews (f :: fs)).mono (List.subset_append_right _ _)⟩
      simp [FormTag.tagViews]

theorem ids_distinct_iff (r : Renderer) (fs : List Field) (tag : FormTag)
    (hr : r.emitter = none) (hm : '\x27' ∉ r.settings.textMaxLength.toList)
    (ht : tag.attributes.isBlank = true) (hid : tag.id = "") (hf : ∀ f ∈ fs, f.Bare)
    (hu : ∀ f ∈ fs, f.HasNoId) (hn : SeparateNames fs)
    (hq : ∀ f ∈ fs, f.isCaptioned = true → '"' ∉ r.settings.ns.toList) :
    ∃ events, scan (r.form fs tag).html = some events ∧
      ids events = (formMarks fs).map (Mark.id r.settings) ∧
      ((ids events).Nodup ↔ ∀ x ∈ formMarks fs, ∀ y ∈ formMarks fs, ¬x.Meets y) ∧
      ((ids events).Nodup → ∀ t ∈ references events, (ids events).count t = 1) := by
  have hquiet : ∀ f ∈ fs, f.Quiet := fun f hmem => (hf f hmem).quiet
  have hsound := sound_form_captioned hr hm hq hquiet ht
  have hviews := tagViews_eventsOf [] (r.form fs tag).items
  have hids : ids (eventsOf [] (r.form fs tag).items) = (formMarks fs).map (Mark.id r.settings) := by
    rw [ids, hviews]
    exact idsOf_form hr ht hid hf hu fun f hmem name hname => (hn.unbracketed f hmem name hname).1
  refine ⟨eventsOf [] (r.form fs tag).items, scan_write hsound.tame, hids, ?_, fun hnodup t h => ?_⟩
  · rw [hids]
    exact Mark.nodup_ids_iff r.settings (nodup_formMarks hn)
  · refine List.count_eq_one_of_mem hnodup ?_
    obtain ⟨v, hv, ht'⟩ := mem_referencesOf.mp h
    rw [ids, hviews]
    rw [hviews] at hv
    have hwithin := allWithin_form hr ht hf v hv
    rcases ht' with ht' | ht'
    · exact hwithin.1 t ht'
    · exact hwithin.2 t ht'

def separateFields : List Field :=
  [.input .text { label := "X", name := "x", hint := "h" }, .select { name := "x_1" },
   .checkbox { choices := [{ name := "c", value := "1" }, { name := "c", value := "2" }] },
   .radio { name := "r1", choices := [{ value := "a" }, { value := "b", id := some "" }] }]

theorem ids_distinct_iff_separate :
    (({} : Renderer).emitter = none ∧ '\x27' ∉ ({} : Renderer).settings.textMaxLength.toList ∧
      ({} : FormTag).attributes.isBlank = true ∧ ({} : FormTag).id = "" ∧
      (∀ f ∈ separateFields, f.Bare) ∧ (∀ f ∈ separateFields, f.HasNoId) ∧
      SeparateNames separateFields ∧
      ∀ f ∈ separateFields, f.isCaptioned = true →
        '"' ∉ ({} : Renderer).settings.ns.toList) ∧
    ∃ events, scan (({} : Renderer).form separateFields {}).html = some events ∧
      ids events =
        ["app_x", "app_x_help", "app_x_1", "app_c_0", "app_c_1", "app_r10", "app_r11"] ∧
      (∀ x ∈ formMarks separateFields, ∀ y ∈ formMarks separateFields, ¬x.Meets y) ∧
      ∀ t ∈ references events, (ids events).count t = 1 := by
  have hm : '\x27' ∉ ({} : Renderer).settings.textMaxLength.toList := by decide
  have hns : '"' ∉ ({} : Renderer).settings.ns.toList := by decide
  have hf : ∀ f ∈ separateFields, f.Bare := by decide
  have hu : ∀ f ∈ separateFields, f.HasNoId := by decide
  have hn : SeparateNames separateFields := by
    constructor <;> simp [separateFields, Field.names]
  have hq : ∀ f ∈ separateFields, f.isCaptioned = true →
      '"' ∉ ({} : Renderer).settings.ns.toList := fun _ _ _ => hns
  obtain ⟨events, hscan, hids, hiff, hcount⟩ :=
    ids_distinct_iff {} separateFields {} rfl hm rfl rfl hf hu hn hq
  have hordered : orderFields separateFields = separateFields := by
    refine orderFields_of_ascends (by unfold Ascends; decide) ?_
    intro f hmem
    simp only [separateFields, List.mem_cons, List.not_mem_nil, or_false] at hmem
    rcases hmem with rfl | rfl | rfl | rfl
    · rfl
    · rfl
    · rw [Field.orderChoices, ascending_of_ascends (by unfold Ascends; decide)]
    · rw [Field.orderChoices, ascending_of_ascends (by unfold Ascends; decide)]
  have hvalue : ids events =
      ["app_x", "app_x_help", "app_x_1", "app_c_0", "app_c_1", "app_r10", "app_r11"] := by
    rw [hids, formMarks, hordered]
    decide
  have hnodup : (ids events).Nodup := by
    rw [hvalue]
    decide
  exact ⟨⟨rfl, hm, rfl, rfl, hf, hu, hn, hq⟩, events, hscan, hvalue, hiff.mp hnodup,
    hcount hnodup⟩

def helpFields : List Field :=
  [.input .text { name := "x", hint := "h" }, .input .text { name := "x_help" }]

-- The hint of one control has the id of another, and a length that is no number adds an element.
theorem ids_repeat :
    (∀ f ∈ helpFields, f.Bare ∧ f.HasNoId) ∧ SeparateNames helpFields ∧
    (∃ events, scan (({} : Renderer).form helpFields {}).html = some events ∧
      ids events = ["app_x", "app_x_help", "app_x_help"]) ∧
    ∃ events,
      scan (({ settings := { textMaxLength := "1'><p id='app_x" } } : Renderer).form
        [.input .text { name := "x" }] {}).html = some events ∧
      ids events = ["app_x", "app_x"] := by
  have hbare : ∀ f ∈ helpFields, f.Bare := by decide
  have hnoId : ∀ f ∈ helpFields, f.HasNoId := by decide
  have hnames : SeparateNames helpFields := by
    constructor <;> simp [helpFields, Field.names]
  have hns : '"' ∉ ({} : Renderer).settings.ns.toList := by decide
  have hm : '\x27' ∉ ({} : Renderer).settings.textMaxLength.toList := by decide
  have hsound : Sound (({} : Renderer).form helpFields {}).items :=
    sound_form_captioned rfl hm (fun _ _ _ => hns) (fun f hmem => (hbare f hmem).quiet) rfl
  have hordered : orderFields helpFields = helpFields := by
    refine orderFields_of_ascends (by unfold Ascends; decide) ?_
    intro f hmem
    simp only [helpFields, List.mem_cons, List.not_mem_nil, or_false] at hmem
    rcases hmem with rfl | rfl <;> rfl
  have hids : ids (eventsOf [] (({} : Renderer).form helpFields {}).items) =
      ["app_x", "app_x_help", "app_x_help"] := by
    rw [ids, tagViews_eventsOf, idsOf_form rfl rfl rfl hbare hnoId
      fun f hmem name hname => (hnames.unbracketed f hmem name hname).1, formMarks, hordered]
    decide
  refine ⟨fun f hmem => ⟨hbare f hmem, hnoId f hmem⟩, hnames, ⟨_, scan_write hsound.tame, hids⟩, ?_⟩
  refine Option.map_eq_some_iff.mp ?_
  rw [Rendered.html, scan, toList_write]
  decide +kernel

end Renderer

end FormMarkup
