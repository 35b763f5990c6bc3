import FormMarkup.Proofs.Render.Safety
import FormMarkup.Proofs.Render.Starts

namespace FormMarkup

open FormMarkup.Markup

def Field.Unadorned : Field → Prop
  | .input _ f => f.extraAttributes = some []
  | f => f.authorAttributes = []

structure Field.Plain (f : Field) : Prop where
  blank : ∀ m ∈ f.fragments, m.isBlank = true
  unadorned : f.Unadorned

namespace Field

theorem Unadorned.authorAttributes_eq_nil {f : Field} (h : f.Unadorned) :
    f.authorAttributes = [] := by
  cases f with
  | input type f =>
      rw [Unadorned] at h
      rw [authorAttributes, h]
      rfl
  | _ => exact h

theorem Unadorned.withDefaults {f : Field} (h : f.Unadorned) (s : Settings) :
    (f.withDefaults s).Unadorned := by
  cases f with
  | input type f =>
      rw [Unadorned] at h
      simp [Field.withDefaults, TextInput.withDefaults, Unadorned, h]
  | checkbox g =>
      have hsame : ((Field.checkbox g).withDefaults s).authorAttributes =
          (Field.checkbox g).authorAttributes := by
        rw [Field.withDefaults, authorAttributes, List.flatMap_map]
        rfl
      exact hsame.trans h
  | _ => exact h

theorem Plain.withDefaults {f : Field} (h : f.Plain) (s : Settings) :
    (f.withDefaults s).Plain := by
  refine ⟨?_, h.unadorned.withDefaults s⟩
  rw [fragments_withDefaults]
  exact h.blank

theorem Plain.quiet {f : Field} (h : f.Plain) : f.Quiet := by
  refine ⟨h.blank, ?_⟩
  rw [h.unadorned.authorAttributes_eq_nil]
  exact fun _ ha => (List.not_mem_nil ha).elim

theorem isToken_withDefaults (s : Settings) (f : Field) :
    (f.withDefaults s).isToken = f.isToken := by
  cases f <;> rfl

def inputViews : Field → List InputView
  | .input type f =>
      [{ type := some type.name
         name := given f.name
         value := given f.effectiveValue
         autocomplete := given f.autocomplete
         placeholder := given f.placeholder }]
  | .file f =>
      [{ type := some "file"
         name := given f.name
         accept := given f.accept
         multiple := f.multiple }]
  | .checkbox g =>
      g.choices.map fun c =>
        { type := some "checkbox"
          name := given c.name
          value := given c.value
          checked := c.checked }
  | .radio g =>
      g.choices.map fun c =>
        { type := some "radio"
          name := given g.name
          value := given c.value
          checked := c.checked }
  | .switch f =>
      [{ type := some "checkbox"
         name := given f.name
         checked := f.checked }]
  | .hidden f =>
      f.pairs.map fun p => { type := some "hidden", name := some p.name, value := some p.value }
  | _ => []

theorem inputViews_withDefaults (s : Settings) (f : Field) :
    (f.withDefaults s).inputViews = f.inputViews := by
  cases f with
  | checkbox g =>
      rw [withDefaults, inputViews, List.map_map]
      rfl
  | _ => rfl

end Field

@[simp]
theorem extraAttributes_nil (c : Constraints) : extraAttributes c [] = [] := rfl

theorem Control.valueOf_describedBy {name : String} (h : "aria-describedby" ≠ name) (c : Control) :
    Attribute.valueOf name c.describedBy = none := by
  unfold describedBy
  split <;> simp [h]

theorem flatMap_eq_map {α β : Type} {f : α → List β} {g : α → β} {xs : List α}
    (h : ∀ x ∈ xs, f x = [g x]) : xs.flatMap f = xs.map g := by
  induction xs with
  | nil => rfl
  | cons x xs ih =>
      rw [List.flatMap_cons, h x (List.mem_cons_self ..),
        ih fun y hy => h y (List.mem_cons_of_mem _ hy)]
      rfl

theorem map_snd_withIds {α : Type} (own : α → Option String) (computed : Nat → α → String)
    (k : Nat) (xs : List α) : (withIds own computed k xs).map Prod.snd = xs := by
  induction xs generalizing k with
  | nil => rfl
  | cons x xs ih =>
      unfold withIds
      split <;> rw [List.map_cons, ih]

theorem TextInput.view_attributes (s : Settings) (type : InputType) {f : TextInput}
    (hv : f.visibility.isBlank = true) (hx : f.extraAttributes = some []) :
    [Attribute.view (f.attributes s type)] = (Field.input type f).inputViews := by
  simp [Attribute.view_eq, TextInput.attributes, Field.inputViews, hx,
    RawMarkup.attribute_eq_nil hv, Control.valueOf_describedBy]

theorem FileInput.view_attributes (s : Settings) {f : FileInput} (hx : f.extraAttributes = []) :
    [Attribute.view (f.attributes s)] = (Field.file f).inputViews := by
  cases hm : f.multiple <;>
    simp [Attribute.view_eq, FileInput.attributes, Field.inputViews, hx, hm,
      Control.valueOf_describedBy]

theorem Switch.view_attributes (s : Settings) {f : Switch} (hx : f.extraAttributes = []) :
    [Attribute.view (f.attributes s)] = (Field.switch f).inputViews := by
  cases hc : f.checked <;>
    simp [Attribute.view_eq, Switch.attributes, Field.inputViews, hx, hc,
      Control.valueOf_describedBy]

theorem Checkbox.view_attributes (s : Settings) (id : String) {c : Checkbox}
    (hx : c.extraAttributes = []) :
    Attribute.view (c.attributes s id) =
      { type := some "checkbox"
        name := given c.name
        value := given c.value
        checked := c.checked } := by
  cases hc : c.checked <;> simp [Attribute.view_eq, Checkbox.attributes, hx, hc]

theorem RadioGroup.view_attributes (s : Settings) (g : RadioGroup) (id : String) {c : Choice}
    (hx : c.extraAttributes = []) :
    Attribute.view (g.attributes s id c) =
      { type := some "radio"
        name := given g.name
        value := given c.value
        checked := c.checked } := by
  cases hc : c.checked <;> simp [Attribute.view_eq, RadioGroup.attributes, hx, hc]

namespace Renderer

theorem view_inputs_complete (r : Renderer) {f : Field} (h : f.Plain) :
    (starts .input (r.complete f).items).map Attribute.view = f.inputViews := by
  have he : Element.input.isControl = true := rfl
  cases f with
  | input type f =>
      have hv := h.blank f.visibility (List.mem_cons_self ..)
      rw [complete, TextInput.starts_items he]
      exact TextInput.view_attributes r.settings type hv h.unadorned
  | textArea f =>
      rw [complete, TextArea.starts_items he]
      rfl
  | file f =>
      rw [complete, FileInput.starts_items he]
      exact FileInput.view_attributes r.settings h.unadorned
  | select f =>
      rw [complete, Select.starts_items he, starts_block, starts_append, starts_flatMap]
      simp [Select.placeholderLine, Select.optionLine, Field.inputViews, apply_ite (starts .input)]
  | checkbox g =>
      have hx : ∀ c ∈ g.choices, c.extraAttributes = [] :=
        List.flatMap_eq_nil_iff.mp h.unadorned
      rw [complete, CheckboxGroup.starts_items rfl, List.map_flatMap, Field.inputViews,
        ← map_snd_withIds (fun c => c.ownId) (Checkbox.computedId r.settings) 0 g.choices,
        List.map_map]
      refine flatMap_eq_map fun p hp => ?_
      exact congrArg (fun v => [v]) (p.2.view_attributes r.settings p.1 (hx p.2 (mem_withIds hp)))
  | radio g =>
      have hx : ∀ c ∈ g.choices, c.extraAttributes = [] :=
        List.flatMap_eq_nil_iff.mp h.unadorned
      rw [complete, RadioGroup.starts_items rfl, List.map_flatMap, Field.inputViews,
        ← map_snd_withIds Choice.ownId (fun k _ => g.computedId r.settings k) 0 g.choices,
        List.map_map]
      refine flatMap_eq_map fun p hp => ?_
      exact congrArg (fun v => [v])
        (RadioGroup.view_attributes r.settings g p.1 (hx p.2 (mem_withIds hp)))
  | switch f =>
      rw [complete, Switch.starts_items he]
      exact Switch.view_attributes r.settings h.unadorned
  | hidden f =>
      rw [complete, HiddenPair.listItems, starts_flatMap, List.map_flatMap]
      refine flatMap_eq_map fun p _ => ?_
      simp [HiddenPair.items, Attribute.view_eq]
  | nonce n =>
      rw [complete, nonce]
      split <;> rfl
  | submit b =>
      rw [complete, b.starts_items he r.settings (by decide)]
      rfl
  | unknown => rfl

theorem scan_field {r : Renderer} {f : Field} (ht : f.isToken = false)
    (hs : r.settings.PlainNamespace) (h : (f.withDefaults r.settings).Quiet) :
    scan (r.field f).html = some (eventsOf [] (r.field f).items) := by
  have htoken : (f.withDefaults r.settings).isToken = true → r.emitter = none := by
    rw [Field.isToken_withDefaults, ht]
    intro hf
    cases hf
  exact scan_write (sound_complete htoken hs h).tame

theorem inputViews_field (r : Renderer) (f : Field) (ht : f.isToken = false)
    (hs : r.settings.PlainNamespace) (h : f.Plain) :
    ∃ events, scan (r.field f).html = some events ∧ inputViews events = f.inputViews := by
  have hd := h.withDefaults r.settings
  refine ⟨eventsOf [] (r.field f).items, scan_field ht hs hd.quiet, ?_⟩
  rw [inputViews_eventsOf, field, r.view_inputs_complete hd, Field.inputViews_withDefaults]

def quotedInput : Field :=
  .input .email
    { label := "<input>", name := "a\"<b>", value := "'&amp;", autocomplete := ""
      placeholder := "</input>", extraAttributes := some [] }

theorem inputViews_field_quoted :
    (quotedInput.isToken = false ∧ ({} : Renderer).settings.PlainNamespace ∧ quotedInput.Plain) ∧
    ∃ events, scan (({} : Renderer).field quotedInput).html = some events ∧
      inputViews events =
        [{ type := some "email"
           name := some "a\"<b>"
           value := some "'&amp;"
           placeholder := some "</input>" }] := by
  have hs : ({} : Renderer).settings.PlainNamespace := by decide
  have hp : quotedInput.Plain := ⟨by decide, rfl⟩
  exact ⟨⟨rfl, hs, hp⟩, inputViews_field {} quotedInput rfl hs hp⟩

end Renderer

end FormMarkup
