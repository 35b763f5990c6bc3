import FormMarkup.Proofs.Text.Trim
import FormMarkup.Proofs.Text.Words
import Mathlib.Data.List.Chain

namespace FormMarkup.Text

def tokens (s : String) : List String :=
  ((s.toList.splitOnP isBlank).filter fun w => !w.isEmpty).map String.ofList

theorem modifyHead_nil_append (pieces : List (List Char)) :
    pieces.modifyHead ([] ++ ·) = pieces := by
  cases pieces <;> rfl

theorem filter_modifyHead (w : List Char) {v : List Char} {pieces : List (List Char)} :
    (((v :: pieces).modifyHead (w ++ ·)).filter fun v => !v.isEmpty) =
      pushWord (w ++ v) (pieces.filter fun v => !v.isEmpty) := by
  rw [List.modifyHead_cons, List.filter_cons, pushWord]
  cases hv : (w ++ v).isEmpty <;> simp

-- The run read so far stands before the first piece of the rest.
theorem wordsFrom_eq_splitOnP (cs w : List Char) :
    wordsFrom w cs =
      ((cs.splitOnP isBlank).modifyHead (w ++ ·)).filter fun v => !v.isEmpty := by
  induction cs generalizing w with
  | nil =>
      rw [wordsFrom, List.splitOnP_nil, filter_modifyHead, List.append_nil]
      rfl
  | cons c cs ih =>
      rw [wordsFrom, List.splitOnP_cons_eq_if_modifyHead]
      split
      · rw [filter_modifyHead, List.append_nil, ih, modifyHead_nil_append]
      · rw [ih, List.modifyHead_modifyHead]
        simp [Function.comp_def]

theorem words_eq_tokens (s : String) : words s = tokens s := by
  rw [words, wordsFrom_eq_splitOnP, modifyHead_nil_append, tokens]

theorem joinWords_eq_intercalate (ws : List String) : joinWords ws = " ".intercalate ws := by
  refine String.toList_inj.mp ?_
  rw [joinWords, String.toList_ofList, String.toList_intercalate]
  rfl

structure Tidy (s : String) : Prop where
  trimmed : Trimmed s.toList
  single : s.toList.IsChain fun a b => isBlank a = false ∨ isBlank b = false

theorem Unbroken.tidy {s : String} (h : Unbroken s) : Tidy s where
  trimmed := Blankless.trimmed h
  single := (List.pairwise_of_forall_mem_list fun a ha _ _ => .inl (h a ha)).isChain

theorem Tidy.join {v t : String} (hv : Unbroken v) (hne : v ≠ "") (ht : Tidy t) (hte : t ≠ "") :
    Tidy (v ++ " " ++ t) := by
  have hchars : (v ++ " " ++ t).toList = v.toList ++ ' ' :: t.toList := by
    simp [String.toList_append]
  obtain ⟨c, cs, hc⟩ := List.exists_cons_of_ne_nil (mt String.toList_eq_nil_iff.mp hne)
  obtain ⟨d, ds, hd⟩ := List.exists_cons_of_ne_nil (mt String.toList_eq_nil_iff.mp hte)
  refine ⟨⟨?_, ?_⟩, ?_⟩
  · rw [hchars, hc]
    rintro _ ⟨⟩
    exact hv c (hc ▸ List.mem_cons_self ..)
  · rw [hchars, List.getLast?_append_of_ne_nil _ (List.cons_ne_nil _ _), hd,
      List.getLast?_cons_cons, ← hd]
    exact ht.trimmed.last
  · rw [hchars, List.isChain_append]
    refine ⟨hv.tidy.single, List.isChain_cons.mpr ⟨fun a ha => .inr ?_, ht.single⟩, ?_⟩
    · exact ht.trimmed.head a ha
    · exact fun a ha _ _ => .inl (hv a (List.mem_of_mem_getLast? ha))

theorem intercalate_ne_empty {w : String} {ws : List String} (hw : w ≠ "") :
    " ".intercalate (w :: ws) ≠ "" := by
  cases ws with
  | nil => simpa using hw
  | cons v ws => simp [String.intercalate_cons_cons]

theorem tidy_intercalate {ws : List String} (h : ∀ w ∈ ws, Unbroken w ∧ w ≠ "") :
    Tidy (" ".intercalate ws) := by
  induction ws with
  | nil => exact Unbroken.tidy (by decide)
  | cons w ws ih =>
      obtain ⟨⟨hw, hne⟩, hws⟩ := List.forall_mem_cons.mp h
      cases ws with
      | nil => exact hw.tidy
      | cons v ws =>
          rw [String.intercalate_cons_cons]
          exact .join hw hne (ih hws) (intercalate_ne_empty (hws v (List.mem_cons_self ..)).2)

end FormMarkup.Text
