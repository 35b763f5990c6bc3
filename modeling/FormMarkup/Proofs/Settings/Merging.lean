import FormMarkup.Proofs.Pairs.Lookup
import FormMarkup.Settings.Load

namespace FormMarkup.Settings

def lastGiven {α : Type} : List (Option α) → Option α
  | [] => none
  | x :: xs => (lastGiven xs).or x

theorem lastGiven_append {α : Type} (xs ys : List (Option α)) :
    lastGiven (xs ++ ys) = (lastGiven ys).or (lastGiven xs) := by
  induction xs with
  | nil => exact Option.or_none.symm
  | cons x xs ih => rw [List.cons_append, lastGiven, lastGiven, ih, Option.or_assoc]

namespace Value

def under? (name : String) : Value → Option Value
  | .table entries => Pairs.find? name entries
  | _ => none

def text? : Value → Option String
  | .text s => some s
  | _ => none

def isTable : Value → Bool
  | .table _ => true
  | _ => false

/-- Nothing, when the layer does not define the setting; no text inside, when it defines it as
another value. -/
def reading? (name : String) (layer : Value) : Option (Option String) :=
  ((layer.under? sectionName).bind (under? name)).map text?

structure IsLayer (v : Value) : Prop where
  table : v.isTable = true
  sections : ∀ w, v.under? sectionName = some w → w.isTable = true

theorem text?_merge (low high : Value) : (low.merge high).text? = high.text? := by
  cases low <;> cases high <;> rfl

theorem isTable_merge (low high : Value) : (low.merge high).isTable = high.isTable := by
  cases low <;> cases high <;> rfl

theorem find?_newEntries {name : String} {low high : Pairs Value}
    (h : Pairs.find? name low = none) :
    Pairs.find? name (newEntries low high) = Pairs.find? name high := by
  have hnew : low.any (fun l => l.1 = name) = false := by
    induction low with
    | nil => rfl
    | cons l low ih =>
        rw [Pairs.find?] at h
        split at h
        · cases h
        · next hne => simpa [hne] using ih h
  rw [newEntries, Pairs.find?_filter fun n => !low.any fun l => l.1 = n, hnew]
  rfl

theorem find?_mergeEntries (name : String) (low high : Pairs Value) :
    Pairs.find? name (mergeEntries low high) =
      (Pairs.find? name low).map fun v => ((Pairs.find? name high).map v.merge).getD v := by
  induction low with
  | nil => rfl
  | cons l low ih =>
      obtain ⟨n, v⟩ := l
      rw [mergeEntries]
      by_cases hn : n = name
      · subst hn
        cases Pairs.find? n high <;> simp [Pairs.find?]
      · cases Pairs.find? n high <;> simpa [Pairs.find?, hn] using ih

def unite : Option Value → Option Value → Option Value
  | some v, some w => some (v.merge w)
  | some v, none => some v
  | none, w => w

theorem under?_merge {low high : Value} (hlow : low.isTable = true) (hhigh : high.isTable = true)
    (name : String) :
    (low.merge high).under? name = unite (low.under? name) (high.under? name) := by
  cases low with
  | table low =>
      cases high with
      | table high =>
          rw [merge, under?, under?, under?, Pairs.find?_append, find?_mergeEntries]
          cases hl : Pairs.find? name low with
          | none =>
              rw [Option.map_none, Option.none_or, find?_newEntries hl]
              cases Pairs.find? name high <;> rfl
          | some v => cases Pairs.find? name high <;> rfl
      | _ => cases hhigh
  | _ => cases hlow

theorem IsLayer.merge {low high : Value} (hlow : low.IsLayer) (hhigh : high.IsLayer) :
    (low.merge high).IsLayer := by
  refine ⟨(isTable_merge low high).trans hhigh.table, fun w hw => ?_⟩
  rw [under?_merge hlow.table hhigh.table] at hw
  cases hl : low.under? sectionName with
  | none =>
      cases hh : high.under? sectionName with
      | none => simp [hl, hh, unite] at hw
      | some b =>
          rw [hl, hh, unite, Option.some.injEq] at hw
          exact hw ▸ hhigh.sections b hh
  | some a =>
      cases hh : high.under? sectionName with
      | none =>
          rw [hl, hh, unite, Option.some.injEq] at hw
          exact hw ▸ hlow.sections a hl
      | some b =>
          rw [hl, hh, unite, Option.some.injEq] at hw
          rw [← hw, isTable_merge]
          exact hhigh.sections b hh

theorem map_text?_unite (low high : Option Value) :
    (unite low high).map text? = (high.map text?).or (low.map text?) := by
  cases low with
  | none => cases high <;> rfl
  | some v =>
      cases high with
      | none => rfl
      | some w => exact congrArg some (text?_merge v w)

theorem under?_of_not_table {v : Value} (h : v.isTable = false) (name : String) :
    v.under? name = none := by
  cases v with
  | table entries => cases h
  | _ => rfl

theorem merge_of_not_table {low : Value} (h : low.isTable = false) (high : Value) :
    low.merge high = high := by
  cases low with
  | table entries => cases h
  | _ => cases high <;> rfl

theorem reading?_merge {low high : Value} (hlow : low.isTable = true) (hhigh : high.IsLayer)
    (name : String) :
    (low.merge high).reading? name = (high.reading? name).or (low.reading? name) := by
  rw [reading?, under?_merge hlow hhigh.table, reading?, reading?]
  cases hl : low.under? sectionName with
  | none => cases high.under? sectionName <;> simp [unite]
  | some a =>
      cases hh : high.under? sectionName with
      | none => rfl
      | some b =>
          rw [unite, Option.bind_some, Option.bind_some, Option.bind_some]
          cases ha : a.isTable with
          | true =>
              rw [under?_merge ha (hhigh.sections b hh) name]
              exact map_text?_unite _ _
          | false =>
              rw [merge_of_not_table ha, under?_of_not_table ha, Option.map_none, Option.or_none]

theorem IsLayer.foldl_merge {low : Value} {layers : List Value} (hlow : low.IsLayer)
    (h : ∀ v ∈ layers, v.IsLayer) : (layers.foldl Value.merge low).IsLayer := by
  induction layers generalizing low with
  | nil => exact hlow
  | cons v layers ih =>
      have hv := h v (List.mem_cons_self ..)
      exact ih (hlow.merge hv) fun w hw => h w (List.mem_cons_of_mem _ hw)

theorem reading?_foldl_merge {low : Value} {layers : List Value} (hlow : low.IsLayer)
    (h : ∀ v ∈ layers, v.IsLayer) (name : String) :
    (layers.foldl Value.merge low).reading? name =
      (lastGiven (layers.map (reading? name))).or (low.reading? name) := by
  induction layers generalizing low with
  | nil => rfl
  | cons v layers ih =>
      have hv := h v (List.mem_cons_self ..)
      rw [List.foldl_cons, ih (hlow.merge hv) fun w hw => h w (List.mem_cons_of_mem _ hw),
        reading?_merge hlow.table hv, List.map_cons, lastGiven, Option.or_assoc]

end Value

end FormMarkup.Settings
