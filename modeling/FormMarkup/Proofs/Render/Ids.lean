import FormMarkup.Proofs.Render.Marks
import FormMarkup.Proofs.Render.TagViews

namespace FormMarkup

open FormMarkup.Markup

namespace Markup

def idsOf (views : List TagView) : List String :=
  views.filterMap TagView.id

def ids (events : List Event) : List String :=
  idsOf (tagViews events)

@[simp]
theorem idsOf_append (vs ws : List TagView) : idsOf (vs ++ ws) = idsOf vs ++ idsOf ws :=
  List.filterMap_append

@[simp]
theorem idsOf_nil : idsOf [] = [] := rfl

@[simp]
theorem idsOf_cons (v : TagView) (vs : List TagView) :
    idsOf (v :: vs) = v.id.toList ++ idsOf vs := by
  cases hv : v.id <;> simp [idsOf, hv]

theorem idsOf_flatMap {α : Type} (f : α → List TagView) (xs : List α) :
    idsOf (xs.flatMap f) = xs.flatMap fun x => idsOf (f x) :=
  List.filterMap_flatMap

theorem idsOf_replicate (k : Nat) {v : TagView} (hv : v.id = none) :
    idsOf (List.replicate k v) = [] :=
  List.filterMap_replicate_of_none hv

end Markup

def Field.names : Field → List String
  | .input _ f => [f.name]
  | .textArea f => [f.name]
  | .file f => [f.name]
  | .select f => [f.name]
  | .checkbox g => g.choices.map fun c => c.name
  | .radio g => [g.name]
  | .switch f => [f.name]
  | _ => []

def Field.HasNoId : Field → Prop
  | .input _ f => f.id = none
  | .textArea f => f.id = none
  | .file f => f.id = none
  | .select f => f.id = none
  | .checkbox g => ∀ c ∈ g.choices, c.ownId = none
  | .radio g => ∀ c ∈ g.choices, c.ownId = none
  | .switch f => f.id = none
  | .submit b => b.id = ""
  | _ => True

instance : (f : Field) → Decidable f.HasNoId
  | .input _ f => inferInstanceAs (Decidable (f.id = none))
  | .textArea f => inferInstanceAs (Decidable (f.id = none))
  | .file f => inferInstanceAs (Decidable (f.id = none))
  | .select f => inferInstanceAs (Decidable (f.id = none))
  | .checkbox g => inferInstanceAs (Decidable (∀ c ∈ g.choices, c.ownId = none))
  | .radio g => inferInstanceAs (Decidable (∀ c ∈ g.choices, c.ownId = none))
  | .switch f => inferInstanceAs (Decidable (f.id = none))
  | .submit b => inferInstanceAs (Decidable (b.id = ""))
  | .hidden _ | .nonce _ | .unknown => inferInstanceAs (Decidable True)

structure SeparateNames (fs : List Field) : Prop where
  unbracketed : ∀ f ∈ fs, ∀ name ∈ f.names, '[' ∉ name.toList ∧ ']' ∉ name.toList
  separate : fs.Pairwise fun f g => ∀ name ∈ f.names, name ∈ g.names → name = ""

def Control.marks (c : Control) : List Mark :=
  if c.name = "" then []
  else .control c.name :: if c.hint = "" then [] else [.hint c.name]

def Checkbox.mark (c : Checkbox) (k : Nat) : Option Mark :=
  if c.name = "" then none else some (.choice c.name k)

def CheckboxGroup.marks (g : CheckboxGroup) : List Mark :=
  g.choices.zipIdx.filterMap fun p => p.1.mark p.2

def RadioGroup.mark (g : RadioGroup) (k : Nat) : Option Mark :=
  if g.name = "" then none else some (.button g.name k)

def RadioGroup.marks (g : RadioGroup) : List Mark :=
  g.choices.zipIdx.filterMap fun p => g.mark p.2

def Field.marks : Field → List Mark
  | .input _ f => f.toControl.marks
  | .textArea f => f.toControl.marks
  | .file f => f.toControl.marks
  | .select f => f.toControl.marks
  | .checkbox g => g.marks
  | .radio g => g.marks
  | .switch f => f.toControl.marks
  | _ => []

def formMarks (fs : List Field) : List Mark :=
  (orderFields fs).flatMap Field.marks

theorem withIds_unset {α : Type} {own : α → Option String} {xs : List α}
    (h : ∀ x ∈ xs, own x = none) (computed : Nat → α → String) (k : Nat) :
    withIds own computed k xs = (xs.zipIdx k).map fun p => (computed p.2 p.1, p.1) := by
  induction xs generalizing k with
  | nil => rfl
  | cons x xs ih =>
      have hx := h x (List.mem_cons_self ..)
      have hxs := ih fun y hy => h y (List.mem_cons_of_mem _ hy)
      simp only [withIds, hx, hxs, List.zipIdx_cons, List.map_cons]

theorem stripBrackets_unbracketed {cs : List Char} (h : '[' ∉ cs) : stripBrackets cs = cs := by
  fun_induction stripBrackets cs with
  | case1 cs ih => simp at h
  | case2 c cs hc ih => rw [ih fun hm => h (List.mem_cons_of_mem _ hm)]
  | case3 => rfl

theorem idName_unbracketed {name : String} (h : '[' ∉ name.toList) : idName name = name := by
  rw [idName, stripBrackets_unbracketed h, String.ofList_toList]

section Controls

variable {s : Settings} {hook caption : String → List String}

theorem idsOf_labelViews (id label : String) : idsOf (labelViews hook id label) = [] := by
  unfold labelViews
  split <;> simp

theorem idsOf_markerViews (required : Bool) : idsOf (markerViews required) = [] := by
  cases required <;> simp [markerViews]

theorem Control.idsOf_hintViews (c : Control) :
    idsOf c.hintViews = c.description.toList := by
  unfold hintViews description
  by_cases hh : c.hint = "" <;> simp [hh]

theorem Control.idsOf_labelledViews (c : Control) (name : String) (classes : List String)
    {rest : List TagView} (hr : idsOf rest = []) :
    idsOf (c.labelledViews hook (c.tagView name classes :: rest)) =
      (given c.elementId).toList ++ c.description.toList := by
  simp [labelledViews, wrapViews, idsOf_labelViews, idsOf_markerViews, c.idsOf_hintViews, tagView,
    hr]

theorem Control.ids_withDefaults {c : Control} (h : c.id = none) :
    (given (c.withDefaults s).elementId).toList ++ (c.withDefaults s).description.toList =
      c.marks.map (Mark.id s) := by
  by_cases hname : c.name = "" <;> by_cases hhint : c.hint = "" <;>
    simp [description, elementId, hintId, withDefaults, h, marks, given, Settings.namespaced,
      hname, hhint, Mark.id, Mark.stem, String.append_assoc]

theorem FileInput.idsOf_tagViews (f : FileInput) :
    idsOf (f.tagViews hook caption) = (given f.elementId).toList ++ f.description.toList := by
  unfold tagViews Control.wrapViews
  split <;> simp [idsOf_markerViews, Control.tagView, Control.idsOf_hintViews]

theorem Select.idsOf_optionViews (f : Select) : idsOf f.optionViews = [] := by
  unfold optionViews
  split <;> simp [idsOf_replicate]

theorem Switch.idsOf_tagViews (f : Switch) :
    idsOf (f.tagViews hook) = (given f.elementId).toList ++ f.description.toList := by
  simp [tagViews, idsOf_markerViews, Control.tagView, Control.idsOf_hintViews]

theorem Choice.idsOf_tagViews (c : Choice) (id part : String) {marker : List TagView}
    (hm : idsOf marker = []) :
    idsOf (c.tagViews hook id part marker) = (given id).toList := by
  simp [tagViews, hm, idsOf_labelViews]

theorem Checkbox.given_computedId (k : Nat) {c : Checkbox} (hb : '[' ∉ c.name.toList) :
    given (c.computedId s k) = (c.mark k).map (Mark.id s) := by
  rw [computedId, idName_unbracketed hb]
  by_cases hname : c.name = "" <;>
    simp [mark, given, hname, Mark.id, Mark.stem, positionText, String.append_assoc]

theorem RadioGroup.given_computedId (k : Nat) {g : RadioGroup} (hb : '[' ∉ g.name.toList) :
    given (g.computedId s k) = (g.mark k).map (Mark.id s) := by
  rw [computedId, idName_unbracketed hb]
  by_cases hname : g.name = "" <;>
    simp [mark, given, hname, Mark.id, Mark.stem, positionText, String.append_assoc]

theorem idsOf_choices {α : Type} {xs : List α} {views : α × Nat → List TagView}
    {mark : α × Nat → Option Mark}
    (h : ∀ p ∈ xs.zipIdx, idsOf (views p) = ((mark p).map (Mark.id s)).toList) :
    idsOf (xs.zipIdx.flatMap views) = (xs.zipIdx.filterMap mark).map (Mark.id s) := by
  rw [idsOf_flatMap, List.flatMap_congr h, ← List.filterMap_eq_flatMap_toList,
    List.map_filterMap]

theorem CheckboxGroup.idsOf_tagViews {g : CheckboxGroup}
    (h : ∀ c ∈ g.choices, c.ownId = none) (hb : ∀ c ∈ g.choices, '[' ∉ c.name.toList) :
    idsOf (g.tagViews s hook) = g.marks.map (Mark.id s) := by
  rw [tagViews, Group.tagViews, idsOf_cons, choicesWithIds, withIds_unset h, List.flatMap_map]
  refine idsOf_choices fun p hp => ?_
  have hname := hb p.1 (List.fst_mem_of_mem_zipIdx hp)
  rw [p.1.idsOf_tagViews _ _ (idsOf_markerViews _), p.1.given_computedId p.2 hname]

theorem RadioGroup.idsOf_titleViews (g : RadioGroup) : idsOf (g.titleViews caption) = [] := by
  unfold titleViews
  split <;> simp [idsOf_markerViews]

theorem RadioGroup.idsOf_tagViews {g : RadioGroup} (h : ∀ c ∈ g.choices, c.ownId = none)
    (hb : '[' ∉ g.name.toList) :
    idsOf (g.tagViews s hook caption) = g.marks.map (Mark.id s) := by
  rw [tagViews, Group.tagViews, idsOf_cons, idsOf_append, g.idsOf_titleViews, choicesWithIds,
    withIds_unset h, List.flatMap_map]
  refine idsOf_choices fun p _ => ?_
  rw [p.1.idsOf_tagViews _ _ rfl, g.given_computedId p.2 hb]

theorem Field.idsOf_tagViews {f : Field} (h : f.HasNoId)
    (hb : ∀ name ∈ f.names, '[' ∉ name.toList) :
    idsOf ((f.withDefaults s).tagViews s hook caption) = f.marks.map (Mark.id s) := by
  cases f with
  | input type f =>
      rw [marks, ← f.ids_withDefaults h]
      exact Control.idsOf_labelledViews _ _ _ idsOf_nil
  | textArea f =>
      rw [marks, ← f.ids_withDefaults h]
      exact Control.idsOf_labelledViews _ _ _ idsOf_nil
  | file f =>
      rw [marks, ← f.ids_withDefaults h]
      exact FileInput.idsOf_tagViews _
  | select f =>
      rw [marks, ← f.ids_withDefaults h]
      exact Control.idsOf_labelledViews _ _ _ f.idsOf_optionViews
  | checkbox g =>
      have hown : ∀ c ∈ g.choices.map (Checkbox.withDefaults s), c.ownId = none := by
        rw [List.forall_mem_map]
        exact h
      have hname : ∀ c ∈ g.choices.map (Checkbox.withDefaults s), '[' ∉ c.name.toList := by
        rw [List.forall_mem_map]
        exact fun c hc => hb c.name (List.mem_map_of_mem hc)
      rw [withDefaults, tagViews, CheckboxGroup.idsOf_tagViews hown hname, marks,
        CheckboxGroup.marks, List.zipIdx_map, List.filterMap_map]
      rfl
  | radio g => exact RadioGroup.idsOf_tagViews h (hb g.name (List.mem_singleton_self _))
  | switch f =>
      rw [marks, ← f.ids_withDefaults h]
      exact Switch.idsOf_tagViews _
  | hidden f => simp [tagViews, withDefaults, marks, idsOf_replicate]
  | nonce n => rfl
  | submit b =>
      have hid : b.id = "" := h
      simp [tagViews, withDefaults, SubmitButton.tagViews, SubmitButton.withDefaults, marks, given,
        hid]
  | unknown => rfl

end Controls

theorem zipIdx_pairwise {α : Type} (xs : List α) :
    xs.zipIdx.Pairwise fun p q => p.2 ≠ q.2 := by
  have hpositions : (xs.zipIdx.map Prod.snd).Nodup := by
    rw [List.zipIdx_map_snd]
    exact List.nodup_range'
  exact List.pairwise_map.mp hpositions

namespace Field

theorem nodup_marks (f : Field) : f.marks.Nodup := by
  have hcontrol : ∀ c : Control, c.marks.Nodup := by
    intro c
    unfold Control.marks
    split
    · exact List.nodup_nil
    · split <;> simp
  cases f with
  | checkbox g =>
      refine List.Pairwise.filterMap _ (fun p q hpq m hm n hn => ?_) (zipIdx_pairwise g.choices)
      simp only [Checkbox.mark, Option.ite_none_left_eq_some, Option.some.injEq] at hm hn
      obtain ⟨_, rfl⟩ := hm
      obtain ⟨_, rfl⟩ := hn
      simp [hpq]
  | radio g =>
      refine List.Pairwise.filterMap _ (fun p q hpq m hm n hn => ?_) (zipIdx_pairwise g.choices)
      simp only [RadioGroup.mark, Option.ite_none_left_eq_some, Option.some.injEq] at hm hn
      obtain ⟨_, rfl⟩ := hm
      obtain ⟨_, rfl⟩ := hn
      simp [hpq]
  | input type f => exact hcontrol f.toControl
  | textArea f => exact hcontrol f.toControl
  | file f => exact hcontrol f.toControl
  | select f => exact hcontrol f.toControl
  | switch f => exact hcontrol f.toControl
  | hidden f => exact List.nodup_nil
  | nonce n => exact List.nodup_nil
  | submit b => exact List.nodup_nil
  | unknown => exact List.nodup_nil

theorem name_mem_names {f : Field} {m : Mark} (h : m ∈ f.marks) :
    m.name ∈ f.names ∧ m.name ≠ "" := by
  have hcontrol : ∀ c : Control, m ∈ c.marks → m.name ∈ [c.name] ∧ m.name ≠ "" := by
    intro c hm
    unfold Control.marks at hm
    split at hm
    · cases hm
    · next hne =>
        rcases List.mem_cons.mp hm with rfl | hm
        · exact ⟨List.mem_singleton_self _, hne⟩
        · split at hm
          · cases hm
          · obtain rfl := List.mem_singleton.mp hm
            exact ⟨List.mem_singleton_self _, hne⟩
  cases f with
  | checkbox g =>
      obtain ⟨p, hp, hm⟩ := List.mem_filterMap.mp h
      simp only [Checkbox.mark, Option.ite_none_left_eq_some, Option.some.injEq] at hm
      obtain ⟨hne, rfl⟩ := hm
      exact ⟨List.mem_map_of_mem (List.fst_mem_of_mem_zipIdx hp), hne⟩
  | radio g =>
      obtain ⟨p, hp, hm⟩ := List.mem_filterMap.mp h
      simp only [RadioGroup.mark, Option.ite_none_left_eq_some, Option.some.injEq] at hm
      obtain ⟨hne, rfl⟩ := hm
      exact ⟨List.mem_singleton_self _, hne⟩
  | input type f => exact hcontrol f.toControl h
  | textArea f => exact hcontrol f.toControl h
  | file f => exact hcontrol f.toControl h
  | select f => exact hcontrol f.toControl h
  | switch f => exact hcontrol f.toControl h
  | hidden f => cases h
  | nonce n => cases h
  | submit b => cases h
  | unknown => cases h

theorem mem_names_orderChoices {f : Field} {name : String} :
    name ∈ f.orderChoices.names ↔ name ∈ f.names := by
  cases f with
  | checkbox g => simp [orderChoices, names, mem_ascending]
  | _ => rfl

theorem HasNoId.orderChoices {f : Field} (h : f.HasNoId) : f.orderChoices.HasNoId := by
  cases f with
  | checkbox g => exact fun c hc => h c (mem_ascending.mp hc)
  | radio g => exact fun c hc => h c (mem_ascending.mp hc)
  | _ => exact h

end Field

theorem nodup_formMarks {fs : List Field} (h : SeparateNames fs) : (formMarks fs).Nodup := by
  have hsymm : ∀ {f g : Field}, (∀ name ∈ f.names, name ∈ g.names → name = "") →
      ∀ name ∈ g.names, name ∈ f.names → name = "" :=
    fun hfg name hg hf => hfg name hf hg
  have hmap : (fs.map Field.orderChoices).Pairwise
      fun f g => ∀ name ∈ f.names, name ∈ g.names → name = "" := by
    rw [List.pairwise_map]
    simpa only [Field.mem_names_orderChoices] using h.separate
  have hordered := ((ascending_perm Field.order _).pairwise_iff hsymm).mpr hmap
  refine List.nodup_flatMap.mpr ⟨fun f _ => f.nodup_marks, hordered.imp ?_⟩
  intro f g hfg m hf hg
  have hname := Field.name_mem_names hf
  exact hname.2 (hfg m.name hname.1 (Field.name_mem_names hg).1)

namespace Renderer

variable {r : Renderer} {hook caption : String → List String}

theorem idsOf_fieldViews {fs : List Field} (hu : ∀ f ∈ fs, f.HasNoId)
    (hb : ∀ f ∈ fs, ∀ name ∈ f.names, '[' ∉ name.toList) :
    idsOf (r.fieldViews hook caption fs) = (formMarks fs).map (Mark.id r.settings) := by
  rw [fieldViews, idsOf_flatMap, formMarks, List.map_flatMap]
  refine List.flatMap_congr fun f hf => ?_
  obtain ⟨g, hg, rfl⟩ := Field.mem_orderFields.mp hf
  refine Field.idsOf_tagViews (hu g hg).orderChoices fun name hname => ?_
  exact hb g hg name (Field.mem_names_orderChoices.mp hname)

theorem idsOf_form (hr : r.emitter = none) {tag : FormTag} (ht : tag.attributes.isBlank = true)
    (hid : tag.id = "") {fs : List Field} (hf : ∀ f ∈ fs, f.Bare) (hu : ∀ f ∈ fs, f.HasNoId)
    (hb : ∀ f ∈ fs, ∀ name ∈ f.names, '[' ∉ name.toList) :
    idsOf (viewsOf (r.form fs tag).items) = (formMarks fs).map (Mark.id r.settings) := by
  cases fs with
  | nil =>
      rw [formMarks, orderFields, List.map_nil, List.perm_nil.mp (ascending_perm _ [])]
      rfl
  | cons f fs =>
      rw [viewsOf_form r.settings.hooks_words hr hf (List.cons_ne_nil f fs) ht, idsOf_append,
        idsOf_fieldViews hu hb]
      simp [FormTag.tagViews, given, hid]

end Renderer

end FormMarkup
