import FormMarkup.Decimal.Layout
import FormMarkup.Proofs.Decimal.Signed
import FormMarkup.Proofs.Text.Trim

namespace FormMarkup.Decimal

def IsNumeric (c : Char) : Prop :=
  c.isDigit = true ∨ c ∈ ['.', 'e', 'E', '+', '-']

instance (c : Char) : Decidable (IsNumeric c) :=
  inferInstanceAs (Decidable (c.isDigit = true ∨ c ∈ ['.', 'e', 'E', '+', '-']))

def Numeric (cs : List Char) : Prop :=
  ∀ c ∈ cs, IsNumeric c

instance (cs : List Char) : Decidable (Numeric cs) :=
  decidable_of_iff (cs.all (fun c => decide (IsNumeric c)) = true) (by simp [Numeric])

theorem numeric_nil : Numeric [] :=
  fun _ h => nomatch h

theorem Numeric.cons {c : Char} {cs : List Char} (hc : IsNumeric c) (h : Numeric cs) :
    Numeric (c :: cs) :=
  List.forall_mem_cons.mpr ⟨hc, h⟩

theorem Numeric.append {xs ys : List Char} (hx : Numeric xs) (hy : Numeric ys) :
    Numeric (xs ++ ys) :=
  List.forall_mem_append.mpr ⟨hx, hy⟩

theorem Numeric.subset {xs ys : List Char} (hy : Numeric ys) (h : xs ⊆ ys) : Numeric xs :=
  fun c hc => hy c (h hc)

theorem Digits.numeric {cs : List Char} (h : Digits cs) : Numeric cs :=
  fun c hc => .inl (h.2 c hc)

theorem Denotes.numeric {cs : List Char} {n : Int} (h : Denotes cs n) : Numeric cs := by
  cases h with
  | plain h => exact h.numeric
  | plus h => exact h.numeric.cons (by decide)
  | minus h => exact h.numeric.cons (by decide)

theorem Denotes.nonempty {cs : List Char} {n : Int} (h : Denotes cs n) : cs ≠ [] := by
  cases h with
  | plain h => exact h.1
  | plus h => exact List.cons_ne_nil _ _
  | minus h => exact List.cons_ne_nil _ _

theorem Numeric.blankless {cs : List Char} (h : Numeric cs) : Text.Blankless cs := by
  intro c hc
  rcases h c hc with hdigit | hother
  · obtain ⟨hlow, hhigh⟩ := isDigit_iff.mp hdigit
    have hzero : ('0').toNat = 48 := rfl
    have hnine : ('9').toNat = 57 := rfl
    simp [Text.isBlank]
    omega
  · have hmarks : Text.Blankless ['.', 'e', 'E', '+', '-'] := by decide
    exact hmarks c hother

theorem digits_naturalChars (n : Nat) : Digits (naturalChars n) :=
  digits_toDigits n

theorem numeric_integerChars (n : Int) : Numeric (integerChars n) :=
  (denotes_integerChars n).numeric

theorem integerChars_zero_iff {n : Int} : integerChars n = ['0'] ↔ n = 0 := by
  constructor
  · intro h
    have hden := denotes_integerChars n
    rw [h] at hden
    exact hden.unique (denotes_integerChars 0)
  · rintro rfl
    rfl

namespace Layout

structure Marked (cs : List Char) : Prop where
  numeric : Numeric cs
  mark : '.' ∈ cs ∨ 'e' ∈ cs

theorem Marked.ne_zero {cs : List Char} (h : Marked cs) : cs ≠ ['0'] := by
  rintro rfl
  simpa using h.mark

theorem Marked.nonempty {cs : List Char} (h : Marked cs) : cs ≠ [] := by
  rintro rfl
  simpa using h.mark

theorem marked_around {xs ys : List Char} {c : Char} (hx : Numeric xs) (hy : Numeric ys)
    (hc : c = '.' ∨ c = 'e') : Marked (xs ++ c :: ys) := by
  have hmem : c ∈ xs ++ c :: ys := List.mem_append_right _ (List.mem_cons_self ..)
  rcases hc with rfl | rfl
  · exact ⟨hx.append (hy.cons (by decide)), .inl hmem⟩
  · exact ⟨hx.append (hy.cons (by decide)), .inr hmem⟩

theorem Marked.append {xs ys : List Char} (hx : Numeric xs) (hy : Marked ys) : Marked (xs ++ ys) :=
  ⟨hx.append hy.numeric, hy.mark.imp (List.mem_append_right _) (List.mem_append_right _)⟩

theorem numeric_zeros (n : Nat) : Numeric (List.replicate n '0') := by
  intro c hc
  rw [List.eq_of_mem_replicate hc]
  decide

theorem marked_positionalChars {ds : List Char} (h : Numeric ds) (exponent : Int) :
    Marked (positionalChars true ds exponent) := by
  rw [positionalChars]
  split
  · exact marked_around (h.append (numeric_zeros _)) (by decide) (.inl rfl)
  · split
    · exact marked_around (h.subset (List.take_subset _ _)) (h.subset (List.drop_subset _ _))
        (.inl rfl)
    · have hzero : Numeric ['0'] := by decide
      exact marked_around hzero ((numeric_zeros _).append h) (.inl rfl)

theorem marked_exponentChars {ds : List Char} (h : Numeric ds) (leading : Int) :
    Marked (exponentChars ds leading) := by
  have hexponent : Numeric (if 0 ≤ leading then '+' :: integerChars leading
      else integerChars leading) := by
    split
    · exact (numeric_integerChars leading).cons (by decide)
    · exact numeric_integerChars leading
  refine marked_around ?_ hexponent (.inr rfl)
  match ds with
  | [] => exact numeric_nil
  | [d] => exact h
  | d :: e :: rest =>
      obtain ⟨hd, hrest⟩ := List.forall_mem_cons.mp h
      exact Numeric.cons hd (Numeric.cons (by decide) hrest)

theorem document_chars (x : Binary64) :
    document.chars x ∈ ["null".toList, "-null".toList] ∨ Marked (document.chars x) := by
  have hsign : Numeric (if x.negative then ['-'] else []) := by
    split <;> decide
  have hdigits := (digits_naturalChars (shortest document.tie x).coefficient).numeric
  rw [chars]
  split
  · exact .inl (List.mem_cons_self ..)
  · split
    · left
      cases x.negative <;> decide
    · right
      refine Marked.append hsign ?_
      split
      · exact marked_positionalChars hdigits _
      · exact marked_exponentChars hdigits _

end Layout

end FormMarkup.Decimal
