import FormMarkup.Proofs.Render.Inputs
import Mathlib.Data.List.Forall2

namespace FormMarkup

open FormMarkup.Markup

namespace Markup

def Event.attributes? (element : String) : Event → Option (Pairs (Option String))
  | .start name as => if name = element then some as else none
  | _ => none

def tagsOf (element : String) (events : List Event) : List (Pairs (Option String)) :=
  events.filterMap (Event.attributes? element)

-- The first attribute of that name counts, in whatever letters it is written.
def isNumeric (as : Pairs (Option String)) : Bool :=
  match List.find? (fun a => Text.sameLetters "type" a.1) as with
  | some a => a.2.map decoded == some "number"
  | none => false

example : (scan "<input TYPE='number' type='text'><input type='text' type='number'>").map
    (fun events => (tagsOf "input" events).map isNumeric) = some [true, false] := by
  decide

theorem attributes?_start (e e' : Element) (as : List Attribute) :
    (Event.start e'.name (as.map Attribute.found)).attributes? e.name =
      ((Item.start e' as).start? e).map fun as => as.map Attribute.found := by
  cases e <;> cases e' <;> rfl

theorem textEvents_attributes (element : String) (content : List Char) :
    (textEvents content).filterMap (Event.attributes? element) = [] := by
  cases content <;> rfl

theorem tagsOf_eventsOf (e : Element) (pending : List Char) (items : List Item) :
    tagsOf e.name (eventsOf pending items) =
      (starts e items).map fun as => as.map Attribute.found := by
  unfold tagsOf starts
  induction items generalizing pending with
  | nil => exact textEvents_attributes _ pending
  | cons i items ih =>
      cases i with
      | start e' as =>
          rw [eventsOf, List.filterMap_append, textEvents_attributes, List.nil_append,
            List.filterMap_cons, List.filterMap_cons, attributes?_start, ih]
          cases (Item.start e' as).start? e <;> rfl
      | finish e' =>
          rw [eventsOf, List.filterMap_append, textEvents_attributes]
          exact ih []
      | text content => exact ih _
      | layout blanks => exact ih _
      | raw markup => exact ih _

theorem Constraints.textual_of_ne {c : Constraints} (h : c ≠ .numeric) : c = .textual := by
  cases c with
  | textual => rfl
  | numeric => exact absurd rfl h

def AllFit (c : Constraints) (as : List Attribute) : Prop :=
  ∀ a ∈ as, c.allows a.found.1 = true

section Fit

variable {c : Constraints}

@[simp]
theorem allFit_nil : AllFit c [] :=
  fun _ h => (List.not_mem_nil h).elim

@[simp]
theorem allFit_cons {a : Attribute} {as : List Attribute} :
    AllFit c (a :: as) ↔ c.allows a.found.1 = true ∧ AllFit c as :=
  List.forall_mem_cons

@[simp]
theorem allFit_append {as bs : List Attribute} : AllFit c (as ++ bs) ↔ AllFit c as ∧ AllFit c bs :=
  List.forall_mem_append

@[simp]
theorem allFit_unlessEmpty {name value : String} (h : c.allows name = true) :
    AllFit c (unlessEmpty name value) := by
  unfold unlessEmpty
  split <;> simp [Attribute.found, h]

@[simp]
theorem allFit_bareIf {set : Bool} {name : String} (h : c.allows name = true) :
    AllFit c (bareIf set name) := by
  unfold bareIf
  split <;> simp [Attribute.found, h]

@[simp]
theorem allFit_extraAttributes (map : TextMap) : AllFit c (extraAttributes c map) := by
  intro a ha
  obtain ⟨entry, hentry, rfl⟩ := List.mem_map.mp ha
  exact (Bool.and_eq_true_iff.mp (List.mem_filter.mp hentry).2).2

@[simp]
theorem allows_literal :
    c.allows "type" = true ∧ c.allows "class" = true ∧ c.allows "id" = true ∧
    c.allows "name" = true ∧ c.allows "value" = true ∧ c.allows "rows" = true ∧
    c.allows "accept" = true ∧ c.allows "autocomplete" = true ∧ c.allows "placeholder" = true ∧
    c.allows "aria-describedby" = true ∧ c.allows "required" = true ∧
    c.allows "multiple" = true ∧ c.allows "checked" = true := by
  cases c <;> decide

@[simp]
theorem allFit_describedBy (control : Control) : AllFit c control.describedBy := by
  unfold Control.describedBy
  split <;> simp [Attribute.found]

end Fit

end Markup

structure Adorned where
  element : Element
  constraints : Constraints
  attributes : TextMap

def Field.adorned (usual : TextMap) : Field → List Adorned
  | .input type f =>
      [⟨.input, TextInput.constraints type, f.extraAttributes.getD usual⟩]
  | .textArea f => [⟨.textarea, .textual, f.extraAttributes⟩]
  | .file f => [⟨.input, .textual, f.extraAttributes⟩]
  | .select f => [⟨.select, .textual, f.extraAttributes⟩]
  | .checkbox g => g.choices.map fun c => ⟨.input, .textual, c.extraAttributes⟩
  | .radio g => g.choices.map fun c => ⟨.input, .textual, c.extraAttributes⟩
  | .switch f => [⟨.input, .textual, f.extraAttributes⟩]
  | .hidden f => f.pairs.map fun _ => ⟨.input, .textual, []⟩
  | _ => []

theorem Field.adorned_withDefaults (s : Settings) (f : Field) :
    (f.withDefaults s).adorned [] = f.adorned [("maxlength", s.textMaxLength)] := by
  cases f with
  | checkbox g =>
      rw [withDefaults, adorned, List.map_map]
      rfl
  | _ => rfl

structure Carries (as : Pairs (Option String)) (w : Adorned) : Prop where
  numeric : w.element = .input → isNumeric as = decide (w.constraints = .numeric)
  fit : ∀ a ∈ as, Text.lowerLetters a.1 ∉ w.constraints.suppressed
  kept : ∀ a ∈ w.attributes, isAttributeName a.1 = true →
    Text.lowerLetters a.1 ∉ w.constraints.suppressed → (a.1, some a.2) ∈ as

theorem Carries.of_fit {as : List Attribute} {e : Element} {c : Constraints} {map : TextMap}
    (hfit : AllFit c as) (hkept : extraAttributes c map ⊆ as)
    (hnumeric : e = .input → isNumeric (as.map Attribute.found) = decide (c = .numeric)) :
    Carries (as.map Attribute.found) ⟨e, c, map⟩ := by
  refine ⟨hnumeric, fun p hp => ?_, fun p hp hname hallowed => ?_⟩
  · obtain ⟨a, ha, rfl⟩ := List.mem_map.mp hp
    exact Constraints.allows_iff.mp (hfit a ha)
  · have hmem : Attribute.extra p.1 p.2 ∈ extraAttributes c map := by
      refine List.mem_map.mpr ⟨p, List.mem_filter.mpr ⟨hp, ?_⟩, rfl⟩
      rw [hname, Constraints.allows_iff.mpr hallowed]
      rfl
    exact List.mem_map.mpr ⟨_, hkept hmem, rfl⟩

section Read

variable {as : Pairs (Option String)} {w : Adorned} (h : Carries as w)
include h

theorem Carries.numeric_iff (he : w.element = .input) :
    isNumeric as = true ↔ w.constraints = .numeric := by
  rw [h.numeric he, decide_eq_true_iff]

theorem Carries.without_lengths (hw : w.constraints = .numeric) :
    ∀ a ∈ as, Text.lowerLetters a.1 ∉ ["maxlength", "minlength"] := by
  have hfit := h.fit
  rw [hw] at hfit
  exact hfit

theorem Carries.without_bounds (hw : w.constraints = .textual) :
    ∀ a ∈ as, Text.lowerLetters a.1 ∉ ["max", "min"] := by
  have hfit := h.fit
  rw [hw] at hfit
  exact hfit

end Read

theorem isNumeric_of_head {as : List Attribute} {value : String} {c : Constraints}
    (h : as.head? = some (.escaped "type" value)) (hc : value = "number" ↔ c = .numeric) :
    isNumeric (as.map Attribute.found) = decide (c = .numeric) := by
  obtain ⟨rest, rfl⟩ := List.head?_eq_some_iff.mp h
  have htype : Text.sameLetters "type" "type" = true := by decide
  rw [Bool.eq_iff_iff, decide_eq_true_iff, ← hc]
  simp [isNumeric, Attribute.found, htype, decoded_escapeValue]

section Attributes

variable (s : Settings)

theorem TextInput.carries (type : InputType) {f : TextInput} (hv : f.visibility.isBlank = true) :
    Carries ((f.attributes s type).map Attribute.found)
      ⟨.input, constraints type, f.extraAttributes.getD []⟩ := by
  refine Carries.of_fit ?_ ?_ fun _ => ?_
  · simp [TextInput.attributes, Attribute.found, RawMarkup.attribute_eq_nil hv]
  · intro a ha
    simp [TextInput.attributes, ha]
  · refine isNumeric_of_head rfl ?_
    cases type <;> decide

theorem TextArea.carries (f : TextArea) :
    Carries ((f.attributes s).map Attribute.found) ⟨.textarea, .textual, f.extraAttributes⟩ := by
  refine Carries.of_fit ?_ ?_ fun h => by cases h
  · simp [TextArea.attributes, Attribute.found]
  · intro a ha
    simp [TextArea.attributes, ha]

theorem FileInput.carries (f : FileInput) :
    Carries ((f.attributes s).map Attribute.found) ⟨.input, .textual, f.extraAttributes⟩ := by
  refine Carries.of_fit ?_ ?_ fun _ => isNumeric_of_head rfl (by decide)
  · simp [FileInput.attributes, Attribute.found]
  · intro a ha
    simp [FileInput.attributes, ha]

theorem Select.carries (f : Select) :
    Carries ((f.attributes s).map Attribute.found) ⟨.select, .textual, f.extraAttributes⟩ := by
  refine Carries.of_fit ?_ ?_ fun h => by cases h
  · simp [Select.attributes, Attribute.found]
  · intro a ha
    simp [Select.attributes, ha]

theorem Switch.carries (f : Switch) :
    Carries ((f.attributes s).map Attribute.found) ⟨.input, .textual, f.extraAttributes⟩ := by
  refine Carries.of_fit ?_ ?_ fun _ => isNumeric_of_head rfl (by decide)
  · simp [Switch.attributes, Attribute.found]
  · intro a ha
    simp [Switch.attributes, ha]

theorem Checkbox.carries (id : String) (c : Checkbox) :
    Carries ((c.attributes s id).map Attribute.found) ⟨.input, .textual, c.extraAttributes⟩ := by
  refine Carries.of_fit ?_ ?_ fun _ => isNumeric_of_head rfl (by decide)
  · simp [Checkbox.attributes, Attribute.found]
  · intro a ha
    simp [Checkbox.attributes, ha]

theorem RadioGroup.carries (g : RadioGroup) (id : String) (c : Choice) :
    Carries ((g.attributes s id c).map Attribute.found) ⟨.input, .textual, c.extraAttributes⟩ := by
  refine Carries.of_fit ?_ ?_ fun _ => isNumeric_of_head rfl (by decide)
  · simp [RadioGroup.attributes, Attribute.found]
  · intro a ha
    simp [RadioGroup.attributes, ha]

end Attributes

section Fields

variable {e : Element}

def Served (e : Element) (items : List Item) (ws : List Adorned) : Prop :=
  List.Forall₂ Carries ((starts e items).map fun as => as.map Attribute.found)
    (ws.filter fun w => w.element = e)

theorem Served.nil {items : List Item} (h : starts e items = []) : Served e items [] := by
  rw [Served, h]
  exact .nil

theorem Served.append {xs ys : List Item} {ws vs : List Adorned} (hx : Served e xs ws)
    (hy : Served e ys vs) : Served e (xs ++ ys) (ws ++ vs) := by
  rw [Served, starts_append, List.map_append, List.filter_append]
  exact List.rel_append hx hy

theorem Served.congr {xs ys : List Item} {ws : List Adorned} (h : starts e xs = starts e ys)
    (hy : Served e ys ws) : Served e xs ws := by
  rw [Served, h]
  exact hy

theorem Served.flatMap {α : Type} {f : α → List Item} {g : α → List Adorned} {xs : List α}
    (h : ∀ x ∈ xs, Served e (f x) (g x)) : Served e (xs.flatMap f) (xs.flatMap g) := by
  induction xs with
  | nil => exact Served.nil rfl
  | cons x xs ih =>
      rw [List.flatMap_cons, List.flatMap_cons]
      exact (h x (List.mem_cons_self ..)).append (ih fun y hy => h y (List.mem_cons_of_mem _ hy))

theorem Served.one {items : List Item} {as : List Attribute} {w : Adorned}
    (h : starts e items = if w.element = e then [as] else [])
    (hc : Carries (as.map Attribute.found) w) : Served e items [w] := by
  rw [Served, h]
  by_cases he : w.element = e
  · simpa [he] using hc
  · simp [he]

theorem served_inputLine {indent : String} {as : List Attribute} {c : Constraints}
    {map : TextMap} (h : Carries (as.map Attribute.found) ⟨.input, c, map⟩) :
    Served e (inputLine indent as) [⟨.input, c, map⟩] :=
  Served.one (starts_inputLine e indent as) h

variable (he : e.isControl = true)
include he

theorem Select.served_items (s : Settings) (f : Select) (ho : e ≠ .option) :
    Served e (f.items s) [⟨.select, .textual, f.extraAttributes⟩] := by
  refine Served.one ?_ (Select.carries s f)
  rw [f.starts_items he, starts_block, starts_append, starts_flatMap]
  simp [Select.placeholderLine, Select.optionLine, ho.symm, apply_ite (starts e)]

theorem CheckboxGroup.served_items (s : Settings) (g : CheckboxGroup) :
    Served e (g.items s) (g.choices.map fun c => ⟨.input, .textual, c.extraAttributes⟩) := by
  have hchoices : g.choices = (g.choicesWithIds s).map Prod.snd :=
    (map_snd_withIds _ _ 0 g.choices).symm
  refine Served.congr ((g.starts_items (Element.isFrame_of_isControl he) s).trans (starts_flatMap e _ _).symm) ?_
  rw [hchoices, List.map_map, List.map_eq_flatMap]
  exact Served.flatMap fun p _ => served_inputLine (p.2.carries s p.1)

theorem RadioGroup.served_items (s : Settings) (g : RadioGroup) :
    Served e (g.items s) (g.choices.map fun c => ⟨.input, .textual, c.extraAttributes⟩) := by
  have hchoices : g.choices = (g.choicesWithIds s).map Prod.snd :=
    (map_snd_withIds _ _ 0 g.choices).symm
  refine Served.congr ((g.starts_items (Element.isFrame_of_isControl he) s).trans (starts_flatMap e _ _).symm) ?_
  rw [hchoices, List.map_map, List.map_eq_flatMap]
  exact Served.flatMap fun p _ => served_inputLine (g.carries s p.1 p.2)

end Fields

namespace Field

theorem constraints_of_adorned {f : Field} {usual : TextMap} {w : Adorned}
    (h : w ∈ f.adorned usual) (he : w.element ≠ .input) : w.constraints = .textual := by
  cases f with
  | input type f =>
      rw [List.mem_singleton.mp h] at he
      exact absurd rfl he
  | checkbox g =>
      obtain ⟨c, -, rfl⟩ := List.mem_map.mp h
      rfl
  | radio g =>
      obtain ⟨c, -, rfl⟩ := List.mem_map.mp h
      rfl
  | hidden f =>
      obtain ⟨p, -, rfl⟩ := List.mem_map.mp h
      rfl
  | nonce n => cases h
  | submit b => cases h
  | unknown => cases h
  | _ =>
      rw [List.mem_singleton.mp h]

end Field

namespace Renderer

section Form

variable {r : Renderer} {e : Element} (he : e ∈ [Element.input, .select, .textarea])
include he

theorem served_complete {f : Field} (hr : f.isToken = true → r.emitter = none)
    (hb : ∀ m ∈ f.fragments, m.isBlank = true) : Served e (r.complete f).items (f.adorned []) := by
  have hcontrol : e.isControl = true := by
    revert e
    decide
  have hother : e ≠ .option ∧ e ≠ .button := by
    revert e
    decide
  cases f with
  | input type f =>
      have hv := hb f.visibility (List.mem_cons_self ..)
      exact (served_inputLine (f.carries r.settings type hv)).congr
        (f.starts_items hcontrol r.settings type)
  | textArea f =>
      refine Served.one ?_ (f.carries r.settings)
      rw [complete, TextArea.starts_items hcontrol, starts_line]
  | file f =>
      exact (served_inputLine (f.carries r.settings)).congr (f.starts_items hcontrol r.settings)
  | select f => exact f.served_items hcontrol r.settings hother.1
  | checkbox g => exact g.served_items hcontrol r.settings
  | radio g => exact g.served_items hcontrol r.settings
  | switch f =>
      exact (served_inputLine (f.carries r.settings)).congr (f.starts_items hcontrol r.settings)
  | hidden f =>
      rw [Field.adorned, List.map_eq_flatMap]
      refine Served.flatMap fun p _ => served_inputLine (Carries.of_fit ?_ ?_ fun _ => ?_)
      · simp [Attribute.found]
      · exact List.nil_subset _
      · exact isNumeric_of_head rfl (by decide)
  | nonce n =>
      rw [complete, nonce, hr rfl]
      exact Served.nil rfl
  | submit b => exact Served.nil (b.starts_items hcontrol r.settings hother.2)
  | unknown => exact Served.nil rfl

theorem served_field (hr : r.emitter = none) {f : Field} (hf : f.Quiet) :
    Served e (r.field f).items (f.adorned [("maxlength", r.settings.textMaxLength)]) := by
  rw [← Field.adorned_withDefaults]
  refine served_complete he (fun _ => hr) ?_
  rw [Field.fragments_withDefaults]
  exact hf.blank

theorem starts_form (fs : List Field) (tag : FormTag) :
    starts e (r.form fs tag).items = starts e (r.fields fs).items := by
  have hframe : Element.div ≠ e ∧ Element.form ≠ e := by
    revert e
    decide
  cases fs with
  | nil =>
      have hnone : orderFields [] = [] := List.perm_nil.mp (ascending_perm _ [])
      rw [items_fields, hnone]
      rfl
  | cons f fs =>
      rw [items_form r (List.cons_ne_nil f fs)]
      simp [FormTag.opening, FormTag.closing, hframe]

theorem served_form (hr : r.emitter = none) {fs : List Field} (hf : ∀ f ∈ fs, f.Quiet)
    (tag : FormTag) :
    Served e (r.form fs tag).items
      ((orderFields fs).flatMap (Field.adorned [("maxlength", r.settings.textMaxLength)])) := by
  refine Served.congr (starts_form he fs tag) ?_
  rw [items_fields]
  exact Served.flatMap fun f hmem => served_field he hr (Field.Quiet.orderFields hf f hmem)

end Form

theorem carries_of_mem {e : Element} {tags : List (Pairs (Option String))} {ws : List Adorned}
    (h : List.Forall₂ Carries tags (ws.filter fun w => w.element = e))
    {as : Pairs (Option String)} (ha : as ∈ tags) : ∃ w ∈ ws, w.element = e ∧ Carries as w := by
  generalize hfitting : (ws.filter fun w => w.element = e) = fitting at h
  obtain ⟨w, hw, hc⟩ : ∃ w ∈ fitting, Carries as w := by
    clear hfitting
    induction h with
    | nil => cases ha
    | @cons bs w tags ws hc _ ih =>
        rcases List.mem_cons.mp ha with rfl | ha
        · exact ⟨w, List.mem_cons_self .., hc⟩
        · obtain ⟨v, hv, hcv⟩ := ih ha
          exact ⟨v, List.mem_cons_of_mem _ hv, hcv⟩
  rw [← hfitting] at hw
  obtain ⟨hw, helement⟩ := List.mem_filter.mp hw
  exact ⟨w, hw, of_decide_eq_true helement, hc⟩

theorem constraints_kept_apart (r : Renderer) (fs : List Field) (tag : FormTag)
    (hr : r.emitter = none) (hs : r.settings.PlainNamespace)
    (hm : '\x27' ∉ r.settings.textMaxLength.toList) (ht : tag.attributes.isBlank = true)
    (hf : ∀ f ∈ fs, f.Quiet) :
    ∃ events, scan (r.form fs tag).html = some events ∧
      (∀ as ∈ tagsOf "input" events, isNumeric as = true →
        ∀ a ∈ as, Text.lowerLetters a.1 ∉ ["maxlength", "minlength"]) ∧
      (∀ as ∈ tagsOf "input" events, isNumeric as = false →
        ∀ a ∈ as, Text.lowerLetters a.1 ∉ ["max", "min"]) ∧
      (∀ as ∈ tagsOf "select" events ++ tagsOf "textarea" events,
        ∀ a ∈ as, Text.lowerLetters a.1 ∉ ["max", "min"]) ∧
      ∀ e ∈ [Element.input, .select, .textarea], List.Forall₂ Carries (tagsOf e.name events)
        (((orderFields fs).flatMap
          (Field.adorned [("maxlength", r.settings.textMaxLength)])).filter
            fun w => w.element = e) := by
  have hserved : ∀ e ∈ [Element.input, .select, .textarea],
      List.Forall₂ Carries (tagsOf e.name (eventsOf [] (r.form fs tag).items))
        (((orderFields fs).flatMap
          (Field.adorned [("maxlength", r.settings.textMaxLength)])).filter
            fun w => w.element = e) := by
    intro e he
    rw [tagsOf_eventsOf]
    exact served_form he hr hf tag
  have htextual : ∀ e ∈ [Element.input, .select, .textarea], e ≠ .input →
      ∀ as ∈ tagsOf e.name (eventsOf [] (r.form fs tag).items),
        ∀ a ∈ as, Text.lowerLetters a.1 ∉ ["max", "min"] := by
    intro e he hne as has
    obtain ⟨w, hw, rfl, hc⟩ := carries_of_mem (hserved e he) has
    obtain ⟨f, -, hw⟩ := List.mem_flatMap.mp hw
    exact hc.without_bounds (Field.constraints_of_adorned hw hne)
  refine ⟨_, scan_write (sound_form hr hs hm hf ht).tame, ?_, ?_, ?_, hserved⟩
  · intro as has hnumeric
    obtain ⟨w, -, helement, hc⟩ := carries_of_mem (hserved .input (by decide)) has
    exact hc.without_lengths ((hc.numeric_iff helement).mp hnumeric)
  · intro as has hnumeric
    obtain ⟨w, -, helement, hc⟩ := carries_of_mem (hserved .input (by decide)) has
    refine hc.without_bounds (Constraints.textual_of_ne fun h => ?_)
    rw [(hc.numeric_iff helement).mpr h] at hnumeric
    cases hnumeric
  · intro as has
    rcases List.mem_append.mp has with has | has
    · exact htextual .select (by decide) (by decide) as has
    · exact htextual .textarea (by decide) (by decide) as has

def boundedFields : List Field :=
  [.input .number
    { name := "n", extraAttributes := some [("MaxLength", "4"), ("min", "0"), ("data-x", "1")] },
   .input .number { name := "m" },
   .textArea { name := "t", extraAttributes := [("MIN", "1"), ("maxlength", "9")] }]

theorem orderFields_bounded : orderFields boundedFields = boundedFields := by
  simp [boundedFields, orderFields, ascending, List.mergeSort, Field.orderChoices, Field.order]

theorem constraints_kept_apart_bounded :
    (({} : Renderer).emitter = none ∧ ({} : Renderer).settings.PlainNamespace ∧
      '\x27' ∉ ({} : Renderer).settings.textMaxLength.toList ∧
      ({} : FormTag).attributes.isBlank = true ∧ ∀ f ∈ boundedFields, f.Quiet) ∧
    ∃ events, scan (({} : Renderer).form boundedFields {}).html = some events ∧
      (∀ as ∈ tagsOf "input" events, isNumeric as = true →
        ∀ a ∈ as, Text.lowerLetters a.1 ∉ ["maxlength", "minlength"]) ∧
      List.Forall₂ Carries (tagsOf "input" events)
        [⟨.input, .numeric, [("MaxLength", "4"), ("min", "0"), ("data-x", "1")]⟩,
          ⟨.input, .numeric, [("maxlength", "50")]⟩] ∧
      List.Forall₂ Carries (tagsOf "textarea" events)
        [⟨.textarea, .textual, [("MIN", "1"), ("maxlength", "9")]⟩] := by
  have hs : ({} : Renderer).settings.PlainNamespace := by decide
  have hm : '\x27' ∉ ({} : Renderer).settings.textMaxLength.toList := by decide
  have hf : ∀ f ∈ boundedFields, f.Quiet := by
    intro f hf
    simp only [boundedFields, List.mem_cons, List.not_mem_nil, or_false] at hf
    rcases hf with rfl | rfl | rfl <;>
      exact ⟨by decide, by unfold Unquoted; decide⟩
  obtain ⟨events, hscan, hnumeric, -, -, hcarries⟩ :=
    constraints_kept_apart {} boundedFields {} rfl hs hm rfl hf
  rw [orderFields_bounded] at hcarries
  exact ⟨⟨rfl, hs, hm, rfl, hf⟩, events, hscan, hnumeric, hcarries .input (by decide),
    hcarries .textarea (by decide)⟩

end Renderer

end FormMarkup
