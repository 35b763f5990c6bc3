import FormMarkup.Proofs.Field.StableOrder
import FormMarkup.Proofs.Form.Steps
import FormMarkup.Proofs.Render.Assembly

namespace FormMarkup

namespace Field

def spread : Field → List Field
  | .hidden f => f.pairs.map fun p => .hidden { pairs := [p], order := f.order }
  | f => [f]

def hiddenPairs : Field → List HiddenPair
  | .hidden f => f.pairs
  | _ => []

def isHidden : Field → Bool
  | .hidden _ => true
  | _ => false

theorem order_of_mem_spread {f g : Field} (h : g ∈ f.spread) : g.order = f.order := by
  cases f with
  | hidden f =>
      obtain ⟨p, _, rfl⟩ := List.mem_map.mp h
      rfl
  | _ => rw [List.mem_singleton.mp h]

theorem spread_orderChoices (f : Field) :
    f.orderChoices.spread = f.spread.map orderChoices := by
  cases f with
  | hidden f =>
      have hmap : (hidden f).spread.map orderChoices = (hidden f).spread := by
        rw [spread, List.map_map]
        rfl
      exact hmap.symm
  | _ => rfl

end Field

theorem orderFields_spread (fs : List Field) :
    orderFields (fs.flatMap Field.spread) = (orderFields fs).flatMap Field.spread := by
  have hchoices : (fs.flatMap Field.spread).map Field.orderChoices =
      (fs.map Field.orderChoices).flatMap Field.spread := by
    rw [List.map_flatMap, List.flatMap_map]
    exact List.flatMap_congr fun f _ => f.spread_orderChoices.symm
  rw [orderFields, hchoices, orderFields,
    flatMap_ascending fun f g hg => Field.order_of_mem_spread (f := f) hg]

namespace Renderer

theorem items_spread (r : Renderer) (f : Field) :
    (f.spread.flatMap fun g => (r.field g).items) = (r.field f).items := by
  cases f with
  | hidden f =>
      have hpair : ∀ p : HiddenPair,
          (r.field (.hidden { pairs := [p], order := f.order })).items = p.items :=
        fun p => List.append_nil p.items
      rw [Field.spread, List.flatMap_map]
      exact List.flatMap_congr fun p _ => hpair p
  | _ => exact List.append_nil _

theorem items_fields_spread (r : Renderer) (fs : List Field) :
    (r.fields (fs.flatMap Field.spread)).items = (r.fields fs).items := by
  rw [items_fields, items_fields, orderFields_spread, List.flatMap_assoc]
  exact List.flatMap_congr fun f _ => r.items_spread f

theorem items_form_congr (r : Renderer) (tag : FormTag) {fs gs : List Field}
    (hnil : fs = [] ↔ gs = []) (h : fs.flatMap Field.spread = gs.flatMap Field.spread) :
    (r.form fs tag).items = (r.form gs tag).items := by
  by_cases hfs : fs = []
  · rw [hfs, hnil.mp hfs]
  · rw [items_form r hfs, items_form r fun hgs => hfs (hnil.mpr hgs), ← r.items_fields_spread fs, h,
      r.items_fields_spread]

end Renderer

def HiddenLevel (fs : List Field) : Prop :=
  ∀ f, Field.hidden f ∈ fs → f.order = 0

theorem HiddenLevel.append {fs gs : List Field} (hf : HiddenLevel fs) (hg : HiddenLevel gs) :
    HiddenLevel (fs ++ gs) := fun f h => (List.mem_append.mp h).elim (hf f) (hg f)

namespace Builder

theorem appendHidden_cases (pair : HiddenPair) (fs : List Field) :
    appendHidden pair fs = fs ++ [.hidden { pairs := [pair] }] ∨
      ∃ gs f, fs = gs ++ [.hidden f] ∧
        appendHidden pair fs = gs ++ [.hidden { f with pairs := f.pairs ++ [pair] }] := by
  by_cases h : EndsOpen fs
  · obtain ⟨f, hf⟩ := h
    obtain ⟨gs, rfl⟩ := List.getLast?_eq_some_iff.mp hf
    exact Or.inr ⟨gs, f, rfl, appendHidden_concat pair gs f⟩
  · exact Or.inl (appendHidden_of_not_endsOpen pair h)

theorem appendHidden_ne_nil (pair : HiddenPair) (fs : List Field) : appendHidden pair fs ≠ [] := by
  rcases appendHidden_cases pair fs with h | ⟨gs, f, -, h⟩ <;> simp [h]

theorem pairs_appendHidden (pair : HiddenPair) (fs : List Field) :
    (appendHidden pair fs).flatMap Field.hiddenPairs =
      fs.flatMap Field.hiddenPairs ++ [pair] := by
  rcases appendHidden_cases pair fs with h | ⟨gs, f, rfl, h⟩ <;> simp [h, Field.hiddenPairs]

theorem visible_appendHidden (pair : HiddenPair) (fs : List Field) :
    (appendHidden pair fs).filter (fun f => !f.isHidden) = fs.filter fun f => !f.isHidden := by
  rcases appendHidden_cases pair fs with h | ⟨gs, f, rfl, h⟩ <;> simp [h, Field.isHidden]

theorem spread_appendHidden (pair : HiddenPair) {fs : List Field} (hl : HiddenLevel fs) :
    (appendHidden pair fs).flatMap Field.spread =
      fs.flatMap Field.spread ++ [.hidden { pairs := [pair] }] := by
  rcases appendHidden_cases pair fs with h | ⟨gs, f, rfl, h⟩
  · simp [h, Field.spread]
  · have hf : f.order = 0 := hl f (by simp)
    simp [h, Field.spread, hf]

theorem hiddenLevel_appendHidden (pair : HiddenPair) {fs : List Field} (hl : HiddenLevel fs) :
    HiddenLevel (appendHidden pair fs) := by
  intro f hf
  rcases appendHidden_cases pair fs with h | ⟨gs, g, rfl, h⟩
  · rw [h] at hf
    rcases List.mem_append.mp hf with hf | hf
    · exact hl f hf
    · cases List.mem_singleton.mp hf
      rfl
  · rw [h] at hf
    rcases List.mem_append.mp hf with hf | hf
    · exact hl f (List.mem_append_left _ hf)
    · cases List.mem_singleton.mp hf
      exact hl g (by simp)

structure Alike (b b' : Builder) : Prop where
  tag : b.tag = b'.tag
  nil_iff : b.fields = [] ↔ b'.fields = []
  spread : b.fields.flatMap Field.spread = b'.fields.flatMap Field.spread
  level : HiddenLevel b.fields

theorem Alike.html_build {b b' : Builder} (h : Alike b b') (r : Renderer) :
    (b.build r).html = (b'.build r).html := by
  rw [build, build, Rendered.html, Rendered.html, h.tag,
    r.items_form_congr b'.tag h.nil_iff h.spread]

theorem Alike.step {b b' : Builder} (h : Alike b b') {s : Step} (hs : HiddenLevel s.parts) :
    Alike (b.step s) (b'.stepApart s) := by
  have htag : (b.step s).tag = (b'.stepApart s).tag :=
    (tag_step h.tag s).trans (b'.tag_stepApart s).symm
  by_cases hhidden : ∃ name value, s = .call (.hidden name value)
  · obtain ⟨name, value, rfl⟩ := hhidden
    refine ⟨htag, ?_, ?_, hiddenLevel_appendHidden _ h.level⟩
    · simp [Builder.step, call, addHidden, appendHidden_ne_nil, stepApart, addField]
    · rw [fields_stepApart, List.flatMap_append, ← h.spread]
      exact spread_appendHidden _ h.level
  · have hother : b.step s = b.stepApart s :=
      step_eq_stepApart (fun name value hs => hhidden ⟨name, value, hs⟩) b
    have hfields : (b.step s).fields = b.fields ++ s.parts := by rw [hother, fields_stepApart]
    refine ⟨htag, ?_, ?_, ?_⟩
    · simp [hfields, fields_stepApart, h.nil_iff]
    · rw [hfields, fields_stepApart, List.flatMap_append, List.flatMap_append, h.spread]
    · rw [hfields]
      exact h.level.append hs

theorem Alike.foldl {steps : List Step} (hs : ∀ s ∈ steps, HiddenLevel s.parts) {b b' : Builder}
    (h : Alike b b') : Alike (steps.foldl Builder.step b) (steps.foldl stepApart b') := by
  induction steps generalizing b b' with
  | nil => exact h
  | cons s steps ih =>
      exact ih (fun t ht => hs t (List.mem_cons_of_mem _ ht))
        (h.step (hs s (List.mem_cons_self ..)))

end Builder

namespace Step

def pairs : Step → List HiddenPair
  | .call (.hidden name value) => [⟨name, value⟩]
  | .field (.hidden f) => f.pairs
  | _ => []

theorem pairs_parts (s : Step) : s.parts.flatMap Field.hiddenPairs = s.pairs := by
  cases s with
  | field f => cases f <;> simp [parts, pairs, Field.hiddenPairs]
  | call c => cases c <;> rfl

theorem hiddenLevel_parts {s : Step} (h : ∀ f, s = .field (.hidden f) → f.order = 0) :
    HiddenLevel s.parts := by
  intro f hf
  cases s with
  | field g =>
      obtain rfl := List.mem_singleton.mp hf
      exact h f rfl
  | call c => cases c <;> simp_all [parts]

end Step

namespace Builder

theorem pairs_step (b : Builder) (s : Step) :
    (b.step s).fields.flatMap Field.hiddenPairs =
      b.fields.flatMap Field.hiddenPairs ++ s.pairs := by
  by_cases hhidden : ∃ name value, s = .call (.hidden name value)
  · obtain ⟨name, value, rfl⟩ := hhidden
    exact pairs_appendHidden ⟨name, value⟩ b.fields
  · rw [step_eq_stepApart (fun name value hs => hhidden ⟨name, value, hs⟩) b, fields_stepApart,
      List.flatMap_append, s.pairs_parts]

theorem pairs_foldl_step (b : Builder) (steps : List Step) :
    (steps.foldl step b).fields.flatMap Field.hiddenPairs =
      b.fields.flatMap Field.hiddenPairs ++ steps.flatMap Step.pairs := by
  induction steps generalizing b with
  | nil => exact (List.append_nil _).symm
  | cons s steps ih =>
      rw [List.foldl_cons, ih, pairs_step, List.append_assoc, List.flatMap_cons]

theorem hidden_grouping_invisible (steps : List Step)
    (h : ∀ f, .field (.hidden f) ∈ steps → f.order = 0) :
    (∀ r, ((ofSteps steps).build r).html = ((ofStepsApart steps).build r).html) ∧
      (ofSteps steps).fields.flatMap Field.hiddenPairs = steps.flatMap Step.pairs ∧
      ∀ (b : Builder) (name value : String),
        (b.step (.call (.hidden name value))).tag = b.tag ∧
        (b.step (.call (.hidden name value))).fields.filter (fun f => !f.isHidden) =
          b.fields.filter fun f => !f.isHidden := by
  have hlevel : ∀ s ∈ steps, HiddenLevel s.parts := by
    intro s hs
    refine Step.hiddenLevel_parts fun f hf => h f ?_
    rwa [← hf]
  have hempty : Alike {} {} := ⟨rfl, Iff.rfl, rfl, fun _ hf => (List.not_mem_nil hf).elim⟩
  refine ⟨fun r => (Alike.foldl hlevel hempty).html_build r, ?_, fun b name value => ⟨rfl, ?_⟩⟩
  · exact pairs_foldl_step {} steps
  · exact visible_appendHidden ⟨name, value⟩ b.fields

def mixedSteps : List Step :=
  [.call (.hidden "a" "1"), .call (.input .text "q" [.order (-1)]), .call (.hidden "b" "<"),
    .call (.id "f"), .call (.hidden "a" ""), .field (.hidden { pairs := [⟨"c", "3"⟩] }),
    .call (.hidden "d" "4"), .field (.switch { name := "s", order := 2 }), .call (.hidden "e" "5")]

theorem hidden_grouping_invisible_mixed :
    (∀ f, .field (.hidden f) ∈ mixedSteps → f.order = 0) ∧
      (∀ r, ((ofSteps mixedSteps).build r).html = ((ofStepsApart mixedSteps).build r).html) ∧
      (ofSteps mixedSteps).fields.flatMap Field.hiddenPairs =
        [⟨"a", "1"⟩, ⟨"b", "<"⟩, ⟨"a", ""⟩, ⟨"c", "3"⟩, ⟨"d", "4"⟩, ⟨"e", "5"⟩] ∧
      (ofSteps mixedSteps).fields.length = 6 ∧ (ofStepsApart mixedSteps).fields.length = 8 := by
  have h : ∀ f, .field (.hidden f) ∈ mixedSteps → f.order = 0 := by
    intro f hf
    simp only [mixedSteps, List.mem_cons, List.not_mem_nil, or_false] at hf
    simp_all
  obtain ⟨hhtml, hpairs, -⟩ := hidden_grouping_invisible mixedSteps h
  exact ⟨h, hhtml, hpairs, rfl, rfl⟩

end Builder

end FormMarkup
