import FormMarkup.Proofs.Markup.Content
import FormMarkup.Proofs.Render.Inputs

namespace FormMarkup

open FormMarkup.Markup

namespace Markup

structure OptionView where
  value : Option String
  label : String
  selected : Bool := false
  disabled : Bool := false
  deriving DecidableEq, Repr

def OptionView.ofContent (v : ContentView) : OptionView where
  value := decodedAt "value" v.attributes
  label := v.content
  selected := (decodedAt "selected" v.attributes).isSome
  disabled := (decodedAt "disabled" v.attributes).isSome

def optionViews (events : List Event) : List OptionView :=
  (contents "option" events).map OptionView.ofContent

example : (scan "<option value='a&amp;b' selected>A &lt; B</option>").map optionViews =
    some [{ value := some "a&b", label := "A < B", selected := true }] := by
  decide

end Markup

namespace Select

def placeholderView (f : Select) : OptionView where
  value := some ""
  label := f.placeholder
  selected := true
  disabled := true

def optionView (f : Select) (option : String × String) : OptionView where
  value := some option.1
  label := option.2
  selected := decide (f.defaultOption ≠ "" ∧ f.defaultOption = option.1)

def selectionViews (f : Select) : List OptionView :=
  (if f.defaultOption = "" ∧ f.selectOption = "" then [f.placeholderView] else []) ++
    f.options.map f.optionView

theorem showsPlaceholder_iff (f : Select) :
    f.showsPlaceholder = true ↔ f.defaultOption = "" ∧ f.selectOption = "" := by
  simp [showsPlaceholder]

theorem selects_iff (f : Select) (value : String) :
    f.selects value = true ↔ f.defaultOption ≠ "" ∧ f.defaultOption = value := by
  simp [selects]

def placeholderContent (f : Select) : ContentView where
  attributes := [("value", some ""), ("disabled", none), ("selected", none)]
  content := f.placeholder

def optionContent (f : Select) (option : String × String) : ContentView where
  attributes :=
    ("value", some (escapeValue option.1)) ::
      if f.selects option.1 then [("selected", none)] else []
  content := option.2

def contentViews (f : Select) : List ContentView :=
  (if f.showsPlaceholder then [f.placeholderContent] else []) ++ f.options.map f.optionContent

theorem contains_placeholderLine (f : Select) :
    Contains .option f.placeholderLine
      (if f.showsPlaceholder then [f.placeholderContent] else []) := by
  unfold placeholderLine
  split
  · exact Contains.line _ _ f.placeholder
  · exact Contains.none rfl

theorem contains_optionLine (f : Select) (option : String × String) :
    Contains .option (f.optionLine option) [f.optionContent option] := by
  have hline := Contains.line (e := .option) "      "
    (.escaped "value" option.1 :: bareIf (f.selects option.1) "selected") option.2
  cases hs : f.selects option.1 <;>
    simpa [optionLine, optionContent, hs, Attribute.found, bareIf] using hline

theorem contains_items (s : Settings) (f : Select) :
    Contains .option (f.items s) f.contentViews := by
  have he : Element.option.isControl = true := rfl
  have hf : Element.option.isFrame = false := rfl
  have hbefore : starts .option
      (f.before.line "    " ++ labelLine s "    " f.elementId f.label ++ f.marker) = [] := by
    simp [starts_labelLine hf, Control.marker, starts_markerLine hf]
  have hafter : starts .option (f.hintLine ++ f.after.line "    ") = [] := by
    simp [f.starts_hintLine he]
  have hoptions : Contains .option (f.placeholderLine ++ f.options.flatMap f.optionLine)
      f.contentViews :=
    f.contains_placeholderLine.append
      (Contains.flatMap fun option _ => f.contains_optionLine option)
  have hselect : Contains .option
      (block "    " .select (f.attributes s) (f.placeholderLine ++ f.options.flatMap f.optionLine))
      f.contentViews :=
    Contains.block "    " (by decide) _ hoptions
  have hcontent := ((Contains.none hbefore).append hselect).append (Contains.none hafter)
  rw [items, Control.labelled, Control.wrap]
  exact Contains.block "  " (by decide) _ (by simpa using hcontent)

theorem ofContent_optionContent (f : Select) (option : String × String) :
    OptionView.ofContent (f.optionContent option) = f.optionView option := by
  have hselected : decide (f.defaultOption ≠ "" ∧ f.defaultOption = option.1) =
      f.selects option.1 :=
    Bool.eq_iff_iff.mpr (decide_eq_true_iff.trans (f.selects_iff option.1).symm)
  rw [optionView, hselected]
  cases hs : f.selects option.1 <;>
    simp [OptionView.ofContent, optionContent, hs, decodedAt, Pairs.find?, decoded_escapeValue]

theorem ofContent_contentViews (f : Select) :
    f.contentViews.map OptionView.ofContent = f.selectionViews := by
  have hplaceholder :
      (if f.showsPlaceholder then [f.placeholderContent] else []).map OptionView.ofContent =
        if f.defaultOption = "" ∧ f.selectOption = "" then [f.placeholderView] else [] := by
    simp only [← f.showsPlaceholder_iff]
    split <;> rfl
  rw [contentViews, selectionViews, List.map_append, List.map_map, hplaceholder]
  exact congrArg _ (List.map_congr_left fun option _ => f.ofContent_optionContent option)

-- The keys of a map differ, so that one entry at most has the default key.
theorem countP_selected (f : Select) (h : (Pairs.keys f.options).Nodup) :
    f.selectionViews.countP OptionView.selected =
      if f.defaultOption = "" then (if f.selectOption = "" then 1 else 0)
      else if f.defaultOption ∈ Pairs.keys f.options then 1 else 0 := by
  rw [selectionViews, List.countP_append, List.countP_map]
  by_cases hd : f.defaultOption = ""
  · by_cases hs : f.selectOption = "" <;>
      simp [hd, hs, placeholderView, optionView, Function.comp_def]
  · have hselected : OptionView.selected ∘ f.optionView =
        (fun key => key == f.defaultOption) ∘ Prod.fst := by
      funext option
      have hkey : (option.1 == f.defaultOption) = decide (f.defaultOption = option.1) := by
        rw [Bool.eq_iff_iff, beq_iff_eq, decide_eq_true_iff, eq_comm]
      simp [optionView, hd, hkey]
    rw [hselected, ← List.countP_map, ← List.count_eq_countP]
    simpa [hd, Pairs.keys] using h.count

theorem mem_selectionViews {f : Select} {v : OptionView} (hv : v ∈ f.selectionViews)
    (hs : v.selected = true) :
    (f.defaultOption = "" ∧ f.selectOption = "" ∧ v = f.placeholderView) ∨
      (f.defaultOption ≠ "" ∧ ∃ label, (f.defaultOption, label) ∈ f.options ∧
        v = { value := some f.defaultOption, label := label, selected := true }) := by
  rcases List.mem_append.mp hv with hv | hv
  · split at hv
    · next hnone =>
        exact Or.inl ⟨hnone.1, hnone.2, List.mem_singleton.mp hv⟩
    · cases hv
  · obtain ⟨⟨key, label⟩, hmem, rfl⟩ := List.mem_map.mp hv
    obtain ⟨hne, rfl⟩ := of_decide_eq_true hs
    exact Or.inr ⟨hne, label, hmem, by simp [optionView, hne]⟩

end Select

namespace Renderer

theorem select_options (r : Renderer) (f : Select) (hs : r.settings.PlainNamespace)
    (hp : (Field.select f).Plain) (hk : (Pairs.keys f.options).Nodup) :
    ∃ events, scan (r.field (.select f)).html = some events ∧
      optionViews events =
        (if f.defaultOption = "" ∧ f.selectOption = "" then [f.placeholderView] else []) ++
          f.options.map f.optionView ∧
      (optionViews events).countP OptionView.selected ≤ 1 ∧
      ((optionViews events).countP OptionView.selected = 1 ↔
        (f.defaultOption = "" ∧ f.selectOption = "") ∨
          (f.defaultOption ≠ "" ∧ f.defaultOption ∈ Pairs.keys f.options)) ∧
      ∀ v ∈ optionViews events, v.selected = true →
        (f.defaultOption = "" ∧ f.selectOption = "" ∧ v = f.placeholderView) ∨
          (f.defaultOption ≠ "" ∧ ∃ label, (f.defaultOption, label) ∈ f.options ∧
            v = { value := some f.defaultOption, label := label, selected := true }) := by
  have hd := hp.withDefaults r.settings
  have hviews : optionViews (eventsOf [] (r.field (.select f)).items) = f.selectionViews := by
    rw [optionViews, ← f.ofContent_contentViews]
    refine congrArg _ ((contents_eventsOf .option [] _).trans ?_)
    exact (Select.contains_items r.settings _).eq
  have hcount := f.countP_selected hk
  refine ⟨_, scan_field rfl hs hd.quiet, hviews, ?_, ?_, ?_⟩
  · rw [hviews, hcount]
    split
    · split <;> decide
    · split <;> decide
  · rw [hviews, hcount]
    by_cases hdefault : f.defaultOption = "" <;> simp [hdefault]
  · rw [hviews]
    exact fun v => Select.mem_selectionViews

def keyedSelect : Select :=
  { name := "size", hint := "h", placeholder := "?", defaultOption := "a&b"
    options := [("", "none"), ("a&b", "<option selected>"), ("c", "")] }

theorem select_options_keyed :
    (({} : Renderer).settings.PlainNamespace ∧ (Field.select keyedSelect).Plain ∧
      (Pairs.keys keyedSelect.options).Nodup) ∧
    ∃ events, scan (({} : Renderer).field (.select keyedSelect)).html = some events ∧
      optionViews events =
        [{ value := some "", label := "none" },
          { value := some "a&b", label := "<option selected>", selected := true },
          { value := some "c", label := "" }] ∧
      (optionViews events).countP OptionView.selected = 1 := by
  have hs : ({} : Renderer).settings.PlainNamespace := by decide
  have hp : (Field.select keyedSelect).Plain := ⟨by decide, rfl⟩
  have hk : (Pairs.keys keyedSelect.options).Nodup := by decide
  obtain ⟨events, hscan, hviews, -, hone, -⟩ := select_options {} keyedSelect hs hp hk
  exact ⟨⟨hs, hp, hk⟩, events, hscan, hviews.trans (by decide), hone.mpr (by decide)⟩

end Renderer

end FormMarkup
