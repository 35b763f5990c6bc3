import FormMarkup.Render.Parts
import Mathlib.Data.List.Basic

namespace FormMarkup

namespace Text

def Unbroken (s : String) : Prop :=
  ∀ c ∈ s.toList, isBlank c = false

instance (s : String) : Decidable (Unbroken s) :=
  decidable_of_iff (s.toList.all (fun c => !isBlank c) = true) (by simp [Unbroken])

theorem Unbroken.append {s t : String} (hs : Unbroken s) (ht : Unbroken t) :
    Unbroken (s ++ t) := by
  intro c hc
  rw [String.toList_append] at hc
  rcases List.mem_append.mp hc with hc | hc
  · exact hs c hc
  · exact ht c hc

theorem unbroken_words {s w : String} (h : w ∈ words s) : Unbroken w := by
  obtain ⟨cs, hcs, rfl⟩ := List.mem_map.mp h
  have hnil : ∀ c ∈ ([] : List Char), isBlank c = false := fun _ hc => (List.not_mem_nil hc).elim
  have hclean := (wordsFrom_no_blank s.toList [] hnil cs hcs).2
  intro c hc
  rw [String.toList_ofList] at hc
  exact hclean c hc

theorem ne_empty_of_mem_words {s w : String} (h : w ∈ words s) : w ≠ "" := by
  obtain ⟨cs, hcs, rfl⟩ := List.mem_map.mp h
  have hnil : ∀ c ∈ ([] : List Char), isBlank c = false := fun _ hc => (List.not_mem_nil hc).elim
  have hne := (wordsFrom_no_blank s.toList [] hnil cs hcs).1
  simpa using hne

theorem wordsFrom_unbroken {cs : List Char} (h : ∀ c ∈ cs, isBlank c = false) (w : List Char) :
    wordsFrom w cs = pushWord (w ++ cs) [] := by
  induction cs generalizing w with
  | nil => rw [wordsFrom, List.append_nil]
  | cons c cs ih =>
      have hc : ¬isBlank c = true := by simp [h c (List.mem_cons_self ..)]
      rw [wordsFrom, if_neg hc, ih fun d hd => h d (List.mem_cons_of_mem _ hd)]
      simp

theorem pushWord_append (w : List Char) (vs ws : List (List Char)) :
    pushWord w (vs ++ ws) = pushWord w vs ++ ws := by
  cases w <;> rfl

theorem wordsFrom_append {c : Char} (hc : isBlank c = true) (xs ys w : List Char) :
    wordsFrom w (xs ++ c :: ys) = wordsFrom w xs ++ wordsFrom [] ys := by
  induction xs generalizing w with
  | nil => simp only [List.nil_append, wordsFrom, hc, if_true, ← pushWord_append]
  | cons x xs ih =>
      rw [List.cons_append, wordsFrom, wordsFrom]
      split
      · rw [ih, pushWord_append]
      · exact ih _

theorem words_unbroken {s : String} (h : Unbroken s) (hne : s ≠ "") : words s = [s] := by
  rw [words, wordsFrom_unbroken h, List.nil_append]
  simp [pushWord, hne]

theorem words_append_space (s t : String) : words (s ++ " " ++ t) = words s ++ words t := by
  have hsplit : (s ++ " " ++ t).toList = s.toList ++ ' ' :: t.toList := by
    simp [String.toList_append]
  rw [words, hsplit, wordsFrom_append (by decide), List.map_append]
  rfl

theorem joinWords_cons_cons (v w : String) (ws : List String) :
    joinWords (v :: w :: ws) = v ++ " " ++ joinWords (w :: ws) := by
  simp [joinWords, List.intercalate_cons_cons, String.ofList_append, String.append_assoc]

theorem words_joinWords (ws : List String) : words (joinWords ws) = ws.flatMap words := by
  induction ws with
  | nil => rfl
  | cons w ws ih =>
      cases ws with
      | nil => simp [joinWords]
      | cons v vs => rw [joinWords_cons_cons, words_append_space, ih]; rfl

theorem words_of_mem_words {s w : String} (h : w ∈ words s) : words w = [w] :=
  words_unbroken (unbroken_words h) (ne_empty_of_mem_words h)

theorem flatMap_words_of_single {ws : List String} (h : ∀ w ∈ ws, words w = [w]) :
    ws.flatMap words = ws := by
  rw [List.flatMap_congr h, List.flatMap_singleton']

theorem flatMap_words (s : String) : (words s).flatMap words = words s :=
  flatMap_words_of_single fun _ => words_of_mem_words

end Text

theorem words_classList (parts : List String) :
    Text.words (classList parts) = parts.flatMap Text.words := by
  rw [classList, Text.words_joinWords, List.flatMap_assoc]
  exact List.flatMap_congr fun part _ => Text.flatMap_words part

namespace Settings

theorem words_hook {s : Settings} (hs : Text.Unbroken s.ns) {part : String}
    (hp : Text.Unbroken part) : Text.words (s.hook part) = [s.hook part] := by
  have hdash : Text.Unbroken "-" := by decide
  refine Text.words_unbroken ((hs.append hdash).append hp) fun h => ?_
  simp [hook] at h

theorem words_namespace {s : Settings} (hs : Text.Unbroken s.ns) (ending : String)
    (he : Text.Unbroken ending) (hne : ending ≠ "") :
    Text.words (s.ns ++ ending) = [s.ns ++ ending] :=
  Text.words_unbroken (hs.append he) fun h => hne (String.append_eq_empty_iff.mp h).2

end Settings

end FormMarkup
