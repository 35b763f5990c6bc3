import FormMarkup.Proofs.Markup.Content
import FormMarkup.Proofs.Render.TagViews

namespace FormMarkup

open FormMarkup.Markup

namespace Markup

def controlNames : List String :=
  ["input", "select", "textarea"]

def TagView.isControl (v : TagView) : Bool :=
  v.name ∈ controlNames

def TagView.isLabel (v : TagView) : Bool :=
  v.name = "label"

def TagView.isDivision (v : TagView) : Bool :=
  v.name = "div"

def controlsOf (views : List TagView) : List TagView :=
  views.filter TagView.isControl

def labelsOf (views : List TagView) : List TagView :=
  views.filter TagView.isLabel

-- A choice of a group and what belongs to it stand between two starts of divisions.
def sections (views : List TagView) : List (List TagView) :=
  views.splitOnP TagView.isDivision

def Linked (views : List TagView) : Prop :=
  (∃ control, controlsOf views = [control] ∧ ∀ l ∈ labelsOf views, l.target = control.id) ∨
    (controlsOf views = [] ∧ ∀ l ∈ labelsOf views, l.target = none)

structure Note where
  id : Option String
  content : String
  deriving DecidableEq, Repr

def Note.ofContent (v : ContentView) : Note where
  id := decodedAt "id" v.attributes
  content := v.content

def notes (events : List Event) : List Note :=
  (contents "small" events).map Note.ofContent

example : (scan "<small id='a&amp;b'>h &lt; i</small><p>j</p><small></small>").map notes =
    some [{ id := some "a&b", content := "h < i" }, { id := none, content := "" }] := by
  decide

@[simp]
theorem controlsOf_nil : controlsOf [] = [] := rfl

@[simp]
theorem controlsOf_append (vs ws : List TagView) :
    controlsOf (vs ++ ws) = controlsOf vs ++ controlsOf ws :=
  List.filter_append ..

@[simp]
theorem controlsOf_cons (v : TagView) (vs : List TagView) :
    controlsOf (v :: vs) = if v.isControl then v :: controlsOf vs else controlsOf vs :=
  List.filter_cons

theorem controlsOf_flatMap {α : Type} (f : α → List TagView) (xs : List α) :
    controlsOf (xs.flatMap f) = xs.flatMap fun x => controlsOf (f x) :=
  List.filter_flatMap ..

@[simp]
theorem labelsOf_nil : labelsOf [] = [] := rfl

@[simp]
theorem labelsOf_append (vs ws : List TagView) :
    labelsOf (vs ++ ws) = labelsOf vs ++ labelsOf ws :=
  List.filter_append ..

@[simp]
theorem labelsOf_cons (v : TagView) (vs : List TagView) :
    labelsOf (v :: vs) = if v.isLabel then v :: labelsOf vs else labelsOf vs :=
  List.filter_cons

theorem TagView.name_ne_of_isControl {v : TagView} (h : v.isControl = true) {name : String}
    (hname : name ∉ controlNames) : v.name ≠ name := by
  rintro rfl
  exact hname (of_decide_eq_true h)

theorem isLabel_of_isControl {v : TagView} (h : v.isControl = true) : v.isLabel = false :=
  decide_eq_false (v.name_ne_of_isControl h (by decide))

theorem isDivision_of_isControl {v : TagView} (h : v.isControl = true) : v.isDivision = false :=
  decide_eq_false (v.name_ne_of_isControl h (by decide))

def Divisionless (views : List TagView) : Prop :=
  ∀ v ∈ views, v.isDivision = false

@[simp]
theorem divisionless_nil : Divisionless [] :=
  fun _ h => (List.not_mem_nil h).elim

@[simp]
theorem divisionless_cons {v : TagView} {vs : List TagView} :
    Divisionless (v :: vs) ↔ v.isDivision = false ∧ Divisionless vs :=
  List.forall_mem_cons

@[simp]
theorem divisionless_append {vs ws : List TagView} :
    Divisionless (vs ++ ws) ↔ Divisionless vs ∧ Divisionless ws :=
  List.forall_mem_append

def AllLinked (views : List TagView) : Prop :=
  ∀ part ∈ sections views, Linked part

theorem Linked.nil : Linked [] :=
  Or.inr ⟨rfl, fun _ h => (List.not_mem_nil h).elim⟩

theorem Linked.around {control : TagView} (h : control.isControl = true)
    (before : List TagView) {after : List TagView} (hb : controlsOf before = []) (ha : controlsOf after = [])
    (hl : ∀ l ∈ labelsOf before ++ labelsOf after, l.target = control.id) :
    Linked (before ++ control :: after) := by
  refine Or.inl ⟨control, ?_, ?_⟩
  · simp [hb, ha, h]
  · simpa [isLabel_of_isControl h] using hl

namespace AllLinked

theorem one {views : List TagView} (hd : Divisionless views) (h : Linked views) :
    AllLinked views := by
  intro part hpart
  rw [sections, List.splitOnP_eq_singleton hd] at hpart
  obtain rfl := List.mem_singleton.mp hpart
  exact h

theorem append_division {v : TagView} (hv : v.isDivision = true) {vs ws : List TagView}
    (hvs : AllLinked vs) (hws : AllLinked ws) : AllLinked (vs ++ v :: ws) := by
  intro part hpart
  rw [sections, List.splitOnP_append_cons vs ws hv] at hpart
  rcases List.mem_append.mp hpart with hpart | hpart
  · exact hvs part hpart
  · exact hws part hpart

theorem division {v : TagView} (hv : v.isDivision = true) {views : List TagView}
    (h : AllLinked views) : AllLinked (v :: views) :=
  append_division hv (one divisionless_nil Linked.nil) h

theorem divisions {α : Type} {v : α → TagView} {part : α → List TagView} {xs : List α}
    (hv : ∀ x ∈ xs, (v x).isDivision = true) (hd : ∀ x ∈ xs, Divisionless (part x))
    (hl : ∀ x ∈ xs, Linked (part x)) (first : List TagView) (hfd : Divisionless first)
    (hfl : Linked first) : AllLinked (first ++ xs.flatMap fun x => v x :: part x) := by
  induction xs generalizing first with
  | nil => simpa using one hfd hfl
  | cons x xs ih =>
      have hx := List.mem_cons_self (a := x) (l := xs)
      have hrest := ih (fun y hy => hv y (List.mem_cons_of_mem _ hy))
        (fun y hy => hd y (List.mem_cons_of_mem _ hy))
        (fun y hy => hl y (List.mem_cons_of_mem _ hy)) (part x) (hd x hx) (hl x hx)
      exact append_division (hv x hx) (one hfd hfl) hrest

end AllLinked

end Markup

def hintId? (hint id : String) : Option String :=
  if hint = "" || id = "" then none else some (id ++ "_help")

namespace Field

def isLabelled : Field → Bool
  | .input _ _ | .textArea _ | .file _ | .select _ | .checkbox _ | .radio _ | .switch _ => true
  | .hidden _ | .nonce _ | .submit _ | .unknown => false

def hint : Field → String
  | .input _ f => f.hint
  | .textArea f => f.hint
  | .file f => f.hint
  | .select f => f.hint
  | .switch f => f.hint
  | _ => ""

def controlIds (s : Settings) : Field → List String
  | .input _ f => [f.elementId]
  | .textArea f => [f.elementId]
  | .file f => [f.elementId]
  | .select f => [f.elementId]
  | .switch f => [f.elementId]
  | .checkbox g => (g.choicesWithIds s).map Prod.fst
  | .radio g => (g.choicesWithIds s).map Prod.fst
  | _ => []

theorem hint_withDefaults (s : Settings) (f : Field) : (f.withDefaults s).hint = f.hint := by
  cases f <;> rfl

theorem isLabelled_withDefaults (s : Settings) (f : Field) :
    (f.withDefaults s).isLabelled = f.isLabelled := by
  cases f <;> rfl

theorem isToken_of_isLabelled {f : Field} (h : f.isLabelled = true) : f.isToken = false := by
  cases f with
  | nonce n => cases h
  | _ => rfl

theorem controlIds_of_hint {s : Settings} {f : Field} (h : f.hint ≠ "") :
    ∃ id, f.controlIds s = [id] := by
  cases f with
  | input type f => exact ⟨_, rfl⟩
  | textArea f => exact ⟨_, rfl⟩
  | file f => exact ⟨_, rfl⟩
  | select f => exact ⟨_, rfl⟩
  | switch f => exact ⟨_, rfl⟩
  | _ => exact absurd rfl h

end Field

def ends (v : TagView) : Option String × Option String :=
  (v.id, v.description)

section Parts

variable {s : Settings} {hook caption : String → List String}

@[simp]
theorem controlsOf_labelViews (id label : String) : controlsOf (labelViews hook id label) = [] := by
  unfold labelViews
  split <;> simp [TagView.isControl, controlNames]

@[simp]
theorem controlsOf_markerViews (required : Bool) : controlsOf (markerViews required) = [] := by
  cases required <;> rfl

@[simp]
theorem labelsOf_markerViews (required : Bool) : labelsOf (markerViews required) = [] := by
  cases required <;> rfl

@[simp]
theorem Control.controlsOf_hintViews (c : Control) : controlsOf c.hintViews = [] := by
  unfold hintViews
  split <;> simp [TagView.isControl, controlNames]

@[simp]
theorem Control.labelsOf_hintViews (c : Control) : labelsOf c.hintViews = [] := by
  unfold hintViews
  split <;> simp [TagView.isLabel]

@[simp]
theorem Select.controlsOf_optionViews (f : Select) : controlsOf f.optionViews = [] := by
  unfold optionViews
  split <;> simp [TagView.isControl, controlNames, controlsOf]

@[simp]
theorem Select.labelsOf_optionViews (f : Select) : labelsOf f.optionViews = [] := by
  unfold optionViews
  split <;> simp [TagView.isLabel, labelsOf]

@[simp]
theorem divisionless_labelViews (id label : String) : Divisionless (labelViews hook id label) := by
  unfold labelViews
  split <;> simp [TagView.isDivision]

@[simp]
theorem divisionless_markerViews (required : Bool) : Divisionless (markerViews required) := by
  cases required <;> simp [markerViews, TagView.isDivision]

@[simp]
theorem Control.divisionless_hintViews (c : Control) : Divisionless c.hintViews := by
  unfold hintViews
  split <;> simp [TagView.isDivision]

@[simp]
theorem Select.divisionless_optionViews (f : Select) : Divisionless f.optionViews := by
  unfold optionViews
  split <;> simp [TagView.isDivision, Divisionless]

theorem target_labelViews (id label : String) :
    ∀ l ∈ labelsOf (labelViews hook id label), l.target = given id := by
  unfold labelViews
  split <;> simp [TagView.isLabel]

theorem Control.isControl_tagView (c : Control) {name : String} (h : name ∈ controlNames)
    (classes : List String) : (c.tagView name classes).isControl = true :=
  decide_eq_true h

section Labelled

variable {c : Control} {name : String} {classes : List String} {rest : List TagView}

theorem Control.controlsOf_labelledViews (hname : name ∈ controlNames) (hr : controlsOf rest = []) :
    controlsOf (c.labelledViews hook (c.tagView name classes :: rest)) =
      [c.tagView name classes] := by
  have hcontrol := c.isControl_tagView hname classes
  have hwrapper : ∀ classes, ({ name := "div", classes := classes } : TagView).isControl = false :=
    fun _ => rfl
  simp [labelledViews, wrapViews, hcontrol, hwrapper, hr]

theorem Control.allLinked_labelledViews (hname : name ∈ controlNames) (hc : controlsOf rest = [])
    (hl : labelsOf rest = []) (hd : Divisionless rest) :
    AllLinked (c.labelledViews hook (c.tagView name classes :: rest)) := by
  have hcontrol := c.isControl_tagView hname classes
  have hdivisionless : Divisionless
      (labelViews hook c.elementId c.label ++ markerViews c.required ++
        c.tagView name classes :: (rest ++ c.hintViews)) := by
    simp [isDivision_of_isControl hcontrol, hd]
  have hlinked : Linked
      (labelViews hook c.elementId c.label ++ markerViews c.required ++
        c.tagView name classes :: (rest ++ c.hintViews)) := by
    refine Linked.around hcontrol _ (by simp) (by simp [hc]) ?_
    simpa [hl, tagView] using target_labelViews c.elementId c.label
  rw [labelledViews, wrapViews, List.append_assoc]
  exact AllLinked.division rfl (AllLinked.one hdivisionless hlinked)

end Labelled

theorem FileInput.controlsOf_tagViews (f : FileInput) :
    controlsOf (f.tagViews hook caption) =
      [f.tagView "input" ("custom-file-input" :: hook "input")] := by
  unfold tagViews Control.wrapViews
  split <;> simp [TagView.isControl, controlNames, Control.tagView]

theorem FileInput.allLinked_tagViews (f : FileInput) :
    AllLinked (f.tagViews hook caption) := by
  have hcontrol : (f.tagView "input" ("custom-file-input" :: hook "input")).isControl = true :=
    f.isControl_tagView (by decide) _
  have hhead : AllLinked
      ((if f.label = "" then [] else [{ name := "p", classes := caption "label" }]) ++
        markerViews f.required) := by
    refine AllLinked.one ?_ (Or.inr ⟨?_, ?_⟩) <;>
      split <;> simp [TagView.isDivision, TagView.isControl, controlNames, TagView.isLabel]
  have hbox : AllLinked
      (f.tagView "input" ("custom-file-input" :: hook "input") ::
        ({ name := "label", classes := ["custom-file-label"], target := given f.elementId } ::
          f.hintViews)) := by
    refine AllLinked.one ?_ (Linked.around hcontrol [] rfl ?_ ?_)
    · simp [TagView.isDivision, Control.tagView]
    · simp [TagView.isControl, controlNames]
    · simp [TagView.isLabel, Control.tagView]
  have hall := AllLinked.append_division (v := { name := "div", classes := ["custom-file"] }) rfl
    hhead hbox
  rw [tagViews, Control.wrapViews]
  refine AllLinked.division rfl ?_
  simpa using hall

theorem Switch.controlsOf_tagViews (f : Switch) :
    (controlsOf (f.tagViews hook)).map ends = [(given f.elementId, f.description)] := by
  simp [tagViews, TagView.isControl, controlNames, Control.tagView, ends]

theorem Switch.allLinked_tagViews (f : Switch) : AllLinked (f.tagViews hook) := by
  have hcontrol : (f.tagView "input"
      (["custom-control-input"] ++ hook "input" ++ hook "switch" ++
        (Text.words f.classes).flatMap hook)).isControl = true :=
    f.isControl_tagView (by decide) _
  rw [tagViews, List.append_assoc, List.append_assoc, List.singleton_append]
  refine AllLinked.division rfl (AllLinked.one ?_ (Linked.around hcontrol _ (by simp) ?_ ?_))
  · simp [TagView.isDivision, Control.tagView]
  · simp [TagView.isControl, controlNames]
  · simp [TagView.isLabel, Control.tagView]

section Choices

variable {id part : String} {marker : List TagView}

theorem Choice.linked_tagViews (c : Choice) (hc : controlsOf marker = [])
    (hl : labelsOf marker = []) :
    Linked
      (marker ++ { name := "input", classes := "form-control" :: hook part, id := given id } ::
        labelViews hook id c.label) := by
  refine Linked.around rfl marker hc (by simp) ?_
  simpa [hl] using target_labelViews id c.label

theorem Choice.divisionless_tagViews (c : Choice) (hd : Divisionless marker) :
    Divisionless
      (marker ++ { name := "input", classes := "form-control" :: hook part, id := given id } ::
        labelViews hook id c.label) := by
  simp [hd, TagView.isDivision]

theorem Choice.controlsOf_tagViews (c : Choice) (hc : controlsOf marker = []) :
    controlsOf (c.tagViews hook id part marker) =
      [{ name := "input", classes := "form-control" :: hook part, id := given id }] := by
  simp [tagViews, hc, TagView.isControl, controlNames]

end Choices

theorem CheckboxGroup.allLinked_tagViews (g : CheckboxGroup) : AllLinked (g.tagViews s hook) := by
  rw [tagViews, Group.tagViews]
  refine AllLinked.division rfl ?_
  exact AllLinked.divisions (fun _ _ => rfl)
    (fun p _ => p.2.divisionless_tagViews (divisionless_markerViews _))
    (fun p _ => p.2.linked_tagViews (controlsOf_markerViews _) (labelsOf_markerViews _))
    [] divisionless_nil Linked.nil

theorem RadioGroup.controlsOf_titleViews (g : RadioGroup) :
    controlsOf (g.titleViews caption) = [] := by
  unfold titleViews
  split <;> simp [TagView.isControl, controlNames]

theorem RadioGroup.allLinked_tagViews (g : RadioGroup) :
    AllLinked (g.tagViews s hook caption) := by
  have hdivisionless : Divisionless (g.titleViews caption) := by
    unfold titleViews
    split <;> simp [TagView.isDivision]
  have htargets : ∀ l ∈ labelsOf (g.titleViews caption), l.target = none := by
    unfold titleViews
    split <;> simp [TagView.isLabel]
  rw [tagViews, Group.tagViews]
  refine AllLinked.division rfl ?_
  exact AllLinked.divisions (fun _ _ => rfl)
    (fun p _ => p.2.divisionless_tagViews divisionless_nil)
    (fun p _ => p.2.linked_tagViews controlsOf_nil labelsOf_nil)
    (g.titleViews caption) hdivisionless (Or.inr ⟨g.controlsOf_titleViews, htargets⟩)

theorem Group.controlsOf_tagViews (g : Group) (part : String) (content : List TagView) :
    controlsOf (g.tagViews hook part content) = controlsOf content := rfl

theorem CheckboxGroup.ends_controls (g : CheckboxGroup) :
    (controlsOf (g.tagViews s hook)).map ends =
      ((g.choicesWithIds s).map Prod.fst).map fun id => (given id, none) := by
  rw [tagViews, Group.controlsOf_tagViews, controlsOf_flatMap, List.map_flatMap, List.map_map]
  refine flatMap_eq_map fun p _ => ?_
  rw [p.2.controlsOf_tagViews (controlsOf_markerViews _)]
  rfl

theorem RadioGroup.ends_controls (g : RadioGroup) :
    (controlsOf (g.tagViews s hook caption)).map ends =
      ((g.choicesWithIds s).map Prod.fst).map fun id => (given id, none) := by
  rw [tagViews, Group.controlsOf_tagViews, controlsOf_append, g.controlsOf_titleViews,
    List.nil_append, controlsOf_flatMap, List.map_flatMap, List.map_map]
  refine flatMap_eq_map fun p _ => ?_
  rw [p.2.controlsOf_tagViews controlsOf_nil]
  rfl

theorem Field.ends_controls {f : Field} (h : f.isLabelled = true) :
    (controlsOf (f.tagViews s hook caption)).map ends =
      (f.controlIds s).map fun id => (given id, hintId? f.hint id) := by
  cases f with
  | input type f =>
      rw [tagViews, Control.controlsOf_labelledViews (by decide) rfl]
      rfl
  | textArea f =>
      rw [tagViews, Control.controlsOf_labelledViews (by decide) rfl]
      rfl
  | file f =>
      rw [tagViews, f.controlsOf_tagViews]
      rfl
  | select f =>
      rw [tagViews, Select.tagViews,
        Control.controlsOf_labelledViews (by decide) f.controlsOf_optionViews]
      rfl
  | checkbox g => exact g.ends_controls
  | radio g => exact g.ends_controls
  | switch f => exact f.controlsOf_tagViews
  | _ => cases h

theorem Field.allLinked_tagViews {f : Field} (h : f.isLabelled = true) :
    AllLinked (f.tagViews s hook caption) := by
  cases f with
  | input type f =>
      exact Control.allLinked_labelledViews (by decide) rfl rfl divisionless_nil
  | textArea f =>
      exact Control.allLinked_labelledViews (by decide) rfl rfl divisionless_nil
  | file f => exact f.allLinked_tagViews
  | select f =>
      exact Control.allLinked_labelledViews (by decide) f.controlsOf_optionViews
        f.labelsOf_optionViews f.divisionless_optionViews
  | checkbox g => exact g.allLinked_tagViews
  | radio g => exact g.allLinked_tagViews
  | switch f => exact f.allLinked_tagViews
  | _ => cases h

end Parts

def Control.hintNotes (c : Control) : List Note :=
  if c.hint = "" then [] else [{ id := c.description, content := c.hint }]

def Field.hintNotes (s : Settings) (f : Field) : List Note :=
  if f.hint = "" then []
  else (f.controlIds s).map fun id => { id := hintId? f.hint id, content := f.hint }

def Noted (items : List Item) (ns : List Note) : Prop :=
  ∃ views, Contains .small items views ∧ views.map Note.ofContent = ns

theorem Noted.none {items : List Item} (h : starts .small items = []) : Noted items [] :=
  ⟨[], Contains.none h, rfl⟩

theorem isSome_hintId? {hint id : String} :
    (hintId? hint id).isSome = true ↔ hint ≠ "" ∧ (given id).isSome = true := by
  by_cases hhint : hint = "" <;> by_cases hid : id = "" <;> simp [hintId?, given, hhint, hid]

theorem Field.hintNotes_of_hint {s : Settings} {f : Field} {id : String}
    (hid : id ∈ f.controlIds s) (h : f.hint ≠ "") :
    f.hintNotes s = [{ id := hintId? f.hint id, content := f.hint }] := by
  obtain ⟨only, honly⟩ := Field.controlIds_of_hint (s := s) h
  rw [honly] at hid
  obtain rfl := List.mem_singleton.mp hid
  rw [hintNotes, if_neg h, honly]
  rfl

theorem Field.filter_hintNotes {s : Settings} {f : Field} {id d : String}
    (hid : id ∈ f.controlIds s) (hd : hintId? f.hint id = some d) :
    (f.hintNotes s).filter (fun n => n.id = some d) = [{ id := some d, content := f.hint }] := by
  have hhint : f.hint ≠ "" := (isSome_hintId?.mp (Option.isSome_of_mem hd)).1
  rw [hintNotes_of_hint hid hhint, hd]
  simp

section Notes

variable (s : Settings)

theorem Control.noted_hintLine (c : Control) : Noted c.hintLine c.hintNotes := by
  unfold hintLine hintNotes
  split
  · exact Noted.none rfl
  · next hhint =>
      refine ⟨_, Contains.line _ _ _, ?_⟩
      by_cases hid : c.elementId = "" <;>
        simp [Note.ofContent, decodedAt, Attribute.found, Pairs.find?, hid, description, hhint,
          hintId, decoded_escapeValue]

theorem Control.noted_block (c : Control) (as : List Attribute) {content : List Item}
    (h : starts .small content = []) :
    Noted (block "  " .div as (content ++ c.hintLine ++ c.after.line "    ")) c.hintNotes := by
  obtain ⟨views, hviews, hnotes⟩ := c.noted_hintLine
  have hafter : Contains .small (c.after.line "    ") [] := Contains.none (by simp)
  have hall := ((Contains.none h).append hviews).append hafter
  rw [List.nil_append, List.append_nil] at hall
  exact ⟨views, Contains.block "  " (by decide) as hall, hnotes⟩

theorem Control.starts_small_marker (c : Control) : starts .small c.marker = [] :=
  starts_markerLine rfl _ _ _

theorem Control.noted_labelled (c : Control) {control : List Item}
    (h : starts .small control = []) : Noted (c.labelled s control) c.hintNotes := by
  have hf : Element.small.isFrame = false := rfl
  exact c.noted_block _ (by simp [starts_labelLine hf, c.starts_small_marker, h])

theorem FileInput.noted_items (f : FileInput) : Noted (f.items s) f.toControl.hintNotes := by
  have hcaption : starts .small (f.caption s) = [] := f.starts_caption rfl s
  exact f.noted_block _ (by simp [hcaption, f.starts_small_marker])

theorem Select.noted_items (f : Select) : Noted (f.items s) f.toControl.hintNotes := by
  refine f.noted_labelled s ?_
  have hplaceholder : starts .small f.placeholderLine = [] := by
    unfold placeholderLine
    split <;> simp
  simp [hplaceholder, starts_flatMap, optionLine]

theorem Switch.noted_items (f : Switch) : Noted (f.items s) f.toControl.hintNotes :=
  f.noted_block _ (by simp [f.starts_small_marker])

theorem CheckboxGroup.noted_items (g : CheckboxGroup) : Noted (g.items s) [] := by
  refine Noted.none ((g.starts_items rfl s).trans ?_)
  simp

theorem RadioGroup.noted_items (g : RadioGroup) : Noted (g.items s) [] := by
  refine Noted.none ((g.starts_items rfl s).trans ?_)
  simp

end Notes

namespace Renderer

theorem noted_complete (r : Renderer) {f : Field} (h : f.isLabelled = true) :
    Noted (r.complete f).items (f.hintNotes r.settings) := by
  cases f with
  | input type f => exact f.noted_labelled r.settings (by simp)
  | textArea f => exact f.noted_labelled r.settings (by simp)
  | file f => exact f.noted_items r.settings
  | select f => exact f.noted_items r.settings
  | checkbox g => exact g.noted_items r.settings
  | radio g => exact g.noted_items r.settings
  | switch f => exact f.noted_items r.settings
  | _ => cases h

theorem tagViews_field (r : Renderer) {f : Field} (ht : f.isToken = false) (hf : f.Bare) :
    tagViews (eventsOf [] (r.field f).items) =
      (f.withDefaults r.settings).tagViews r.settings
        (fun part => Text.words (r.settings.hook part))
        (fun part => Text.words (decoded (r.settings.hook part))) := by
  have htoken : (f.withDefaults r.settings).isToken = true → r.emitter = none := by
    rw [Field.isToken_withDefaults, ht]
    intro h
    cases h
  have hblank : ∀ m ∈ (f.withDefaults r.settings).fragments, m.isBlank = true := by
    rw [Field.fragments_withDefaults]
    exact hf.blank
  exact (tagViews_eventsOf [] _).trans
    (viewsOf_complete r.settings.hooks_words htoken hblank (hf.onlyLength r.settings))

theorem notes_field (r : Renderer) {f : Field} (h : f.isLabelled = true) :
    notes (eventsOf [] (r.field f).items) =
      (f.withDefaults r.settings).hintNotes r.settings := by
  have hd : (f.withDefaults r.settings).isLabelled = true := by
    rw [Field.isLabelled_withDefaults, h]
  obtain ⟨views, hcontains, hviews⟩ := r.noted_complete hd
  rw [← hviews, ← hcontains.eq]
  exact congrArg _ (contents_eventsOf .small [] _)

theorem labels_and_hints_wired (r : Renderer) (f : Field) (hl : f.isLabelled = true)
    (hs : r.settings.PlainNamespace) (hm : '\x27' ∉ r.settings.textMaxLength.toList)
    (hf : f.Bare) :
    ∃ events, scan (r.field f).html = some events ∧
      (controlsOf (tagViews events)).map TagView.id =
        ((f.withDefaults r.settings).controlIds r.settings).map given ∧
      (∀ part ∈ sections (tagViews events), Linked part) ∧
      ∀ control ∈ controlsOf (tagViews events),
        (control.description.isSome ↔ f.hint ≠ "" ∧ control.id.isSome) ∧
        (∀ d ∈ control.description, (notes events).filter (fun n => n.id = some d) =
          [{ id := some d, content := f.hint }]) ∧
        (f.hint ≠ "" → notes events = [{ id := control.description, content := f.hint }]) := by
  have hd : (f.withDefaults r.settings).isLabelled = true := by
    rw [Field.isLabelled_withDefaults, hl]
  have htoken : f.isToken = false := Field.isToken_of_isLabelled hl
  have hviews := r.tagViews_field htoken hf
  have hends : (controlsOf (tagViews (eventsOf [] (r.field f).items))).map ends =
      ((f.withDefaults r.settings).controlIds r.settings).map fun id =>
        (given id, hintId? (f.withDefaults r.settings).hint id) := by
    rw [hviews]
    exact Field.ends_controls hd
  refine ⟨_, scan_field htoken hs (hf.quiet.withDefaults hm), ?_, ?_, fun control hc => ?_⟩
  · have hids := congrArg (List.map Prod.fst) hends
    rw [List.map_map, List.map_map] at hids
    exact hids
  · rw [hviews]
    exact Field.allLinked_tagViews hd
  · have hmem := List.mem_map_of_mem (f := ends) hc
    rw [hends] at hmem
    obtain ⟨id, hid, hcontrol⟩ := List.mem_map.mp hmem
    obtain ⟨hown, hdescription⟩ := Prod.mk.inj hcontrol
    rw [← hown, ← hdescription, r.notes_field hl, ← f.hint_withDefaults r.settings]
    exact ⟨isSome_hintId?, fun d hd' => Field.filter_hintNotes hid hd',
      Field.hintNotes_of_hint hid⟩

def hintedFile : Field :=
  .file { label := "CV", name := "cv[]", hint := "<10 MB" }

theorem labels_and_hints_wired_file :
    (hintedFile.isLabelled = true ∧ ({} : Renderer).settings.PlainNamespace ∧
      '\x27' ∉ ({} : Renderer).settings.textMaxLength.toList ∧ hintedFile.Bare) ∧
    ∃ events, scan (({} : Renderer).field hintedFile).html = some events ∧
      (controlsOf (tagViews events)).map TagView.id = [some "app_cv[]"] ∧
      (∀ part ∈ sections (tagViews events), Linked part) ∧
      ∀ control ∈ controlsOf (tagViews events),
        control.description.isSome ∧
        notes events = [{ id := control.description, content := "<10 MB" }] := by
  have hs : ({} : Renderer).settings.PlainNamespace := by decide
  have hm : '\x27' ∉ ({} : Renderer).settings.textMaxLength.toList := by decide
  have hf : hintedFile.Bare := by decide
  obtain ⟨events, hscan, hids, hlinked, hcontrols⟩ :=
    labels_and_hints_wired {} hintedFile rfl hs hm hf
  have hid : (controlsOf (tagViews events)).map TagView.id = [some "app_cv[]"] := hids
  refine ⟨⟨rfl, hs, hm, hf⟩, events, hscan, hid, hlinked, fun control hc => ?_⟩
  obtain ⟨hdescribed, -, hnotes⟩ := hcontrols control hc
  have hown := List.mem_map_of_mem (f := TagView.id) hc
  rw [hid, List.mem_singleton] at hown
  exact ⟨hdescribed.mpr ⟨by decide, by rw [hown]; rfl⟩, hnotes (by decide)⟩

end Renderer

end FormMarkup
