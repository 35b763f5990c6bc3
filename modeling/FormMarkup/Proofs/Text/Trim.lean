import FormMarkup.Text.Blank
import Mathlib.Data.List.TakeWhile

namespace FormMarkup.Text

structure Trimmed (cs : List Char) : Prop where
  head : ∀ c ∈ cs.head?, isBlank c = false
  last : ∀ c ∈ cs.getLast?, isBlank c = false

theorem trimStartChars_eq {cs : List Char} (h : ∀ c ∈ cs.head?, isBlank c = false) :
    trimStartChars cs = cs := by
  cases cs with
  | nil => rfl
  | cons c cs => exact List.dropWhile_cons_of_neg (by simp [h c rfl])

theorem trimEndChars_eq {cs : List Char} (h : ∀ c ∈ cs.getLast?, isBlank c = false) :
    trimEndChars cs = cs := by
  have hreverse : trimStartChars cs.reverse = cs.reverse :=
    trimStartChars_eq (by rwa [List.head?_reverse])
  rw [trimEndChars, ← trimStartChars, hreverse, List.reverse_reverse]

theorem Trimmed.trimChars_eq {cs : List Char} (h : Trimmed cs) : trimChars cs = cs := by
  rw [trimChars, trimStartChars_eq h.head, trimEndChars_eq h.last]

def Blankless (cs : List Char) : Prop :=
  ∀ c ∈ cs, isBlank c = false

-- Checked by all on the list: a bounded statement would be decided over every character.
instance (cs : List Char) : Decidable (Blankless cs) :=
  decidable_of_iff (cs.all (fun c => !isBlank c) = true) (by simp [Blankless])

theorem Blankless.trimmed {cs : List Char} (h : Blankless cs) : Trimmed cs :=
  ⟨fun c hc => h c (List.mem_of_mem_head? hc), fun c hc => h c (List.mem_of_mem_getLast? hc)⟩

def Blanks (cs : List Char) : Prop :=
  ∀ c ∈ cs, isBlank c = true

instance (cs : List Char) : Decidable (Blanks cs) :=
  decidable_of_iff (cs.all isBlank = true) List.all_eq_true

theorem blanks_iff {s : String} : isBlankText s = true ↔ Blanks s.toList :=
  List.all_eq_true

theorem Blanks.reverse {cs : List Char} (h : Blanks cs) : Blanks cs.reverse :=
  fun c hc => h c (List.mem_reverse.mp hc)

def Padded (text cs : List Char) : Prop :=
  ∃ front back, Blanks front ∧ Blanks back ∧ text = front ++ cs ++ back

theorem trimEndChars_append {back : List Char} (h : Blanks back) (cs : List Char) :
    trimEndChars (cs ++ back) = trimEndChars cs := by
  rw [trimEndChars, List.reverse_append, List.dropWhile_append_of_pos h.reverse, trimEndChars]

theorem Padded.trimChars_eq {text cs : List Char} (h : Padded text cs) :
    trimChars text = trimChars cs := by
  obtain ⟨front, back, hfront, hback, rfl⟩ := h
  rw [trimChars, trimStartChars, List.append_assoc, List.dropWhile_append_of_pos hfront,
    List.dropWhile_append, trimChars, trimStartChars]
  split
  · next hempty =>
      rw [List.isEmpty_iff.mp hempty, List.dropWhile_eq_nil_iff.mpr hback]
  · exact trimEndChars_append hback _

theorem blanks_takeWhile (cs : List Char) : Blanks (cs.takeWhile isBlank) :=
  fun _ => List.mem_takeWhile_imp

theorem padded_trimChars (text : List Char) : Padded text (trimChars text) := by
  have hend (cs : List Char) :
      trimEndChars cs ++ (cs.reverse.takeWhile isBlank).reverse = cs := by
    rw [trimEndChars, ← List.reverse_append, List.takeWhile_append_dropWhile,
      List.reverse_reverse]
  refine ⟨text.takeWhile isBlank, ((trimStartChars text).reverse.takeWhile isBlank).reverse,
    blanks_takeWhile _, (blanks_takeWhile _).reverse, ?_⟩
  calc text = text.takeWhile isBlank ++ trimStartChars text :=
        List.takeWhile_append_dropWhile.symm
    _ = text.takeWhile isBlank ++ (trimChars text ++ _) := by rw [trimChars, hend]
    _ = _ := (List.append_assoc ..).symm

end FormMarkup.Text
