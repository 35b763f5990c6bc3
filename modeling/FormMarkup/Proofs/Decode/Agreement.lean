import FormMarkup.Proofs.Decode.Members
import FormMarkup.Proofs.Json.Normal
import Mathlib.Data.List.Perm.Basic

namespace FormMarkup

inductive Agree {ε δ α β : Type} (r : α → β → Prop) : Except ε α → Except δ β → Prop where
  | ok {a : α} {b : β} (h : r a b) : Agree r (.ok a) (.ok b)
  | error (e : ε) (d : δ) : Agree r (.error e) (.error d)

namespace Agree

variable {ε δ α β γ ζ : Type} {r : α → β → Prop} {x : Except ε α} {y : Except δ β}

theorem of_ok (hx : ∀ a, x = .ok a → ∃ b, y = .ok b ∧ r a b)
    (hy : ∀ b, y = .ok b → ∃ a, x = .ok a) : Agree r x y := by
  cases x with
  | ok a =>
      obtain ⟨b, rfl, hr⟩ := hx a rfl
      exact .ok hr
  | error e =>
      cases y with
      | ok b =>
          obtain ⟨a, ha⟩ := hy b rfl
          cases ha
      | error d => exact .error e d

theorem ok_iff {x : Except ε α} {y : Except δ α} (h : Agree Eq x y) {a : α} :
    y = .ok a ↔ x = .ok a := by
  cases h with
  | ok h => simp [h]
  | error e d => simp

theorem map {s : γ → ζ → Prop} {f : α → γ} {g : β → ζ} (h : Agree r x y)
    (hs : ∀ a b, r a b → s (f a) (g b)) : Agree s (x.map f) (y.map g) := by
  cases h with
  | ok h => exact .ok (hs _ _ h)
  | error e d => exact .error e d

theorem bind {s : γ → ζ → Prop} {f : α → Except ε γ} {g : β → Except δ ζ} (h : Agree r x y)
    (hs : ∀ a b, x = .ok a → r a b → Agree s (f a) (g b)) : Agree s (x.bind f) (y.bind g) := by
  cases h with
  | ok h => exact hs _ _ rfl h
  | error e d => exact .error e d

theorem mapError_left {η : Type} (h : Agree r x y) (f : ε → η) : Agree r (x.mapError f) y := by
  cases h with
  | ok h => exact .ok h
  | error e d => exact .error (f e) d

theorem refl (x : Except ε α) : Agree Eq x x := by
  cases x with
  | ok a => exact .ok rfl
  | error e => exact .error e e

end Agree

structure SameMap {α : Type} (xs ys : Pairs α) : Prop where
  nodup : (Pairs.keys xs).Nodup
  perm : xs.Perm ys

namespace SameMap

variable {α β : Type} {xs ys : Pairs α}

theorem nil : SameMap ([] : Pairs α) [] :=
  ⟨List.nodup_nil, .nil⟩

theorem mapValues (h : SameMap xs ys) (f : α → β) :
    SameMap (xs.map fun e => (e.1, f e.2)) (ys.map fun e => (e.1, f e.2)) := by
  refine ⟨?_, h.perm.map _⟩
  rw [Pairs.keys_mapValues]
  exact h.nodup

theorem filterTexts {xs ys : Pairs (Option String)} (h : SameMap xs ys) :
    SameMap (xs.filterMap fun e => e.2.map fun text => (e.1, text))
      (ys.filterMap fun e => e.2.map fun text => (e.1, text)) := by
  refine ⟨?_, h.perm.filterMap _⟩
  rw [Json.keys_texts]
  exact h.nodup.sublist (List.filter_sublist.map Prod.fst)

end SameMap

namespace Json

def Steady {α : Type} (r : α → α → Prop) (read : Json → Except DecodeError α) : Prop :=
  ∀ v, Agree r (read v) (read v.normalise)

theorem readText_steady : Steady Eq readText := by
  intro v
  cases v with
  | string s => exact .ok rfl
  | _ => exact .error _ _

theorem readOptionalText_steady : Steady Eq readOptionalText := by
  intro v
  cases v with
  | null => exact .ok rfl
  | string s => exact .ok rfl
  | _ => exact .error _ _

theorem scalarText_steady : Steady Eq scalarText := by
  intro v
  cases v with
  | list items => exact .error _ _
  | object members => exact .error _ _
  | _ => exact .refl _

theorem readScalar_steady : Steady Eq readScalar := fun v =>
  (scalarText_steady v).map fun _ _ h => by rw [h]

theorem readFlag_steady : Steady Eq readFlag := by
  intro v
  cases v with
  | list items => exact .error _ _
  | object members => exact .error _ _
  | _ => exact .refl _

theorem readInteger_steady : Steady Eq readInteger := by
  intro v
  cases v with
  | list items => exact .error _ _
  | object members => exact .error _ _
  | _ => exact .refl _

theorem readCount_steady : Steady Eq readCount := by
  intro v
  cases v with
  | list items => exact .error _ _
  | object members => exact .error _ _
  | _ => exact .refl _

def TextOf (m : String × Json) (t : String × Option String) : Prop :=
  t.1 = m.1 ∧ m.2.scalarText = .ok t.2

theorem scalarTexts_iff {ms : List (String × Json)} {texts : Pairs (Option String)} :
    scalarTexts ms = .ok texts ↔ List.Forall₂ TextOf ms texts := by
  induction ms generalizing texts with
  | nil => simp [scalarTexts, eq_comm]
  | cons m ms ih =>
      obtain ⟨name, v⟩ := m
      rw [scalarTexts]
      constructor
      · intro h
        cases hv : v.scalarText with
        | error e => simp [hv] at h
        | ok text =>
            cases hrest : scalarTexts ms with
            | error e => simp [hv, hrest] at h
            | ok rest =>
                simp only [hv, hrest, Except.ok.injEq] at h
                subst h
                exact .cons ⟨rfl, hv⟩ (ih.mp hrest)
      · intro h
        cases h with
        | cons hm hrest =>
            obtain ⟨hname, hv⟩ := hm
            simp only at hv hname
            rw [hv, ih.mpr hrest, ← hname]

theorem textOf_normalise {m : String × Json} {t : String × Option String} :
    TextOf (m.1, m.2.normalise) t ↔ TextOf m t :=
  and_congr_right fun _ => (scalarText_steady m.2).ok_iff

theorem readTable_steady : Steady SameMap readTable := by
  intro v
  cases v with
  | object ms =>
      have hperm : (Pairs.sorted ms).Perm (Pairs.distinct ms) := by
        rw [← Pairs.sorted_distinct]
        exact Pairs.sorted_perm (Pairs.nodup_distinct ms)
      have htree : ∀ texts : Pairs (Option String),
          (normalise (.object ms)).readTable = .ok texts ↔
            List.Forall₂ TextOf (Pairs.sorted ms) texts := by
        intro texts
        rw [normalise, readTable, Pairs.distinct_of_nodup (Pairs.nodup_sorted _),
          ← normaliseMembers_sorted, scalarTexts_iff, normaliseMembers_eq_map,
          List.forall₂_map_left_iff]
        simp only [textOf_normalise]
      refine .of_ok (fun texts h => ?_) (fun texts h => ?_)
      · rw [readTable] at h
        obtain ⟨tree, hsorted, hp⟩ := List.perm_comp_forall₂ hperm (scalarTexts_iff.mp h)
        refine ⟨tree, (htree tree).mpr hsorted, ?_, hp.symm⟩
        rw [(scalarTexts_ok h).1]
        exact Pairs.nodup_distinct ms
      · obtain ⟨texts, hwritten, _⟩ := List.perm_comp_forall₂ hperm.symm ((htree texts).mp h)
        exact ⟨texts, scalarTexts_iff.mpr hwritten⟩
  | _ => exact .error _ _

theorem readAttributes_steady : Steady SameMap readAttributes := fun v =>
  (readTable_steady v).map fun _ _ h => h.filterTexts

theorem readLabels_steady : Steady SameMap readLabels := fun v =>
  (readTable_steady v).map fun _ _ h => h.mapValues fun text => text.getD ""

theorem readEach_agrees {α : Type} {r : α → α → Prop} {read : Json → Except DecodeError α}
    {items : List Json} (h : ∀ item ∈ items, Agree r (read item) (read item.normalise)) :
    Agree (List.Forall₂ r) (readEach read items) (readEach read (normaliseItems items)) := by
  induction items with
  | nil => exact .ok .nil
  | cons item items ih =>
      obtain ⟨hitem, hitems⟩ := List.forall_mem_cons.mp h
      rw [normaliseItems, readEach, readEach]
      generalize read item = x at hitem
      generalize read item.normalise = y at hitem
      cases hitem with
      | error e d => exact .error e d
      | ok ha =>
          have hrest := ih hitems
          generalize readEach read items = xs at hrest
          generalize readEach read (normaliseItems items) = ys at hrest
          cases hrest with
          | error e d => exact .error e d
          | ok has => exact .ok (.cons ha has)

theorem readList_agrees {α : Type} {r : α → α → Prop} {read : Json → Except DecodeError α}
    {v : Json} (h : ∀ item ∈ v.items, Agree r (read item) (read item.normalise)) :
    Agree (List.Forall₂ r) (v.readList read) (v.normalise.readList read) := by
  cases v with
  | list items => exact readEach_agrees h
  | _ => exact .error _ _

end Json

end FormMarkup
