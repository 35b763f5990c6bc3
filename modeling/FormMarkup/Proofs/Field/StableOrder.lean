import FormMarkup.Proofs.Field.Ordering
import Mathlib.Data.List.Forall2

namespace FormMarkup

structure StablySorted {α : Type} (key : α → Int) (xs ys : List α) : Prop where
  perm : ys.Perm xs
  ascends : Ascends key ys
  kept : ∀ k, atKey key k ys = atKey key k xs

section Sorting

variable {α : Type} {key : α → Int}

theorem stablySorted_ascending (key : α → Int) (xs : List α) :
    StablySorted key xs (ascending key xs) :=
  ⟨ascending_perm key xs, ascends_ascending key xs, fun k => atKey_ascending k xs⟩

theorem ascending_of_ascends {xs : List α} (h : Ascends key xs) : ascending key xs = xs :=
  (ascends_ascending key xs).eq_of_atKey h fun k => atKey_ascending k xs

theorem ascending_congr {xs ys : List α} (h : ∀ k, atKey key k xs = atKey key k ys) :
    ascending key xs = ascending key ys := by
  refine (ascends_ascending key xs).eq_of_atKey (ascends_ascending key ys) fun k => ?_
  rw [atKey_ascending, atKey_ascending, h]

theorem atKey_map {f : α → α} (hf : ∀ x, key (f x) = key x) (k : Int) (xs : List α) :
    atKey key k (xs.map f) = (atKey key k xs).map f := by
  rw [atKey, atKey, List.filter_map]
  simp only [Function.comp_def, hf]

end Sorting

namespace Field

def ChoicesSorted : Field → Field → Prop
  | .checkbox g, .checkbox sorted =>
      sorted.toGroup = g.toGroup ∧ StablySorted (·.order) g.choices sorted.choices
  | .radio g, .radio sorted =>
      { sorted with choices := g.choices } = g ∧
        StablySorted Choice.order g.choices sorted.choices
  | f, sorted => sorted = f

def SameByOrder : Field → Field → Prop
  | .checkbox g, .checkbox g' =>
      g.toGroup = g'.toGroup ∧ ∀ k, atKey (·.order) k g.choices = atKey (·.order) k g'.choices
  | .radio g, .radio g' =>
      { g with choices := g'.choices } = g' ∧
        ∀ k, atKey Choice.order k g.choices = atKey Choice.order k g'.choices
  | f, f' => f = f'

theorem choicesSorted_orderChoices (f : Field) : f.ChoicesSorted f.orderChoices := by
  cases f with
  | checkbox g => exact ⟨rfl, stablySorted_ascending _ g.choices⟩
  | radio g => exact ⟨rfl, stablySorted_ascending _ g.choices⟩
  | _ => rfl

theorem orderChoices_orderChoices (f : Field) : f.orderChoices.orderChoices = f.orderChoices := by
  cases f with
  | checkbox g => simp [orderChoices, ascending_of_ascends (ascends_ascending _ g.choices)]
  | radio g => simp [orderChoices, ascending_of_ascends (ascends_ascending _ g.choices)]
  | _ => rfl

theorem SameByOrder.orderChoices_eq {f g : Field} (h : f.SameByOrder g) :
    f.orderChoices = g.orderChoices := by
  cases f with
  | checkbox f =>
      cases g with
      | checkbox g =>
          obtain ⟨hgroup, hchoices⟩ := h
          rw [orderChoices, orderChoices, hgroup, ascending_congr hchoices]
      | _ => cases h
  | radio f =>
      cases g with
      | radio g =>
          obtain ⟨hgroup, hchoices⟩ := h
          rw [orderChoices, orderChoices, ascending_congr hchoices, ← hgroup]
      | _ => cases h
  | _ => exact congrArg orderChoices h

theorem forall₂_choicesSorted (fs : List Field) :
    List.Forall₂ ChoicesSorted fs (fs.map orderChoices) := by
  rw [List.forall₂_map_right_iff, List.forall₂_same]
  exact fun f _ => choicesSorted_orderChoices f

theorem map_orderChoices_congr {fs gs : List Field} (h : List.Forall₂ SameByOrder fs gs) :
    fs.map orderChoices = gs.map orderChoices := by
  induction h with
  | nil => rfl
  | cons hfg _ ih => rw [List.map_cons, List.map_cons, hfg.orderChoices_eq, ih]

end Field

theorem atKey_orderFields (k : Int) (fs : List Field) :
    atKey Field.order k (orderFields fs) = (atKey Field.order k fs).map Field.orderChoices := by
  rw [orderFields, atKey_ascending, atKey_map Field.order_orderChoices]

theorem orderFields_of_ascends {fs : List Field} (h : Ascends Field.order fs)
    (hc : ∀ f ∈ fs, f.orderChoices = f) : orderFields fs = fs := by
  have hchoices : fs.map Field.orderChoices = fs := (List.map_congr_left hc).trans (List.map_id _)
  rw [orderFields, hchoices, ascending_of_ascends h]

theorem orderFields_orderFields (fs : List Field) :
    orderFields (orderFields fs) = orderFields fs := by
  refine orderFields_of_ascends (ascends_ascending _ _) fun f hf => ?_
  obtain ⟨g, _, rfl⟩ := List.mem_map.mp ((ascending_perm _ _).mem_iff.mp hf)
  exact g.orderChoices_orderChoices

theorem orderFields_congr {fs gs : List Field}
    (h : ∀ k, List.Forall₂ Field.SameByOrder (atKey Field.order k fs) (atKey Field.order k gs)) :
    orderFields fs = orderFields gs := by
  refine ascending_congr fun k => ?_
  rw [atKey_map Field.order_orderChoices, atKey_map Field.order_orderChoices]
  exact Field.map_orderChoices_congr (h k)

theorem length_orderFields (fs : List Field) : (orderFields fs).length = fs.length := by
  rw [orderFields, (ascending_perm _ _).length_eq, List.length_map]

end FormMarkup
