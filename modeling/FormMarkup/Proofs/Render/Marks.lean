import FormMarkup.Render.Groups
import Mathlib.Data.List.Nodup

namespace FormMarkup

def positionText (k : Nat) : String :=
  Decimal.integerText (Int.ofNat k)

theorem toList_positionText (k : Nat) : (positionText k).toList = Nat.toDigits 10 k := by
  rw [positionText, Decimal.integerText, String.toList_ofList]
  rfl

theorem positionText_inj {j k : Nat} : positionText j = positionText k ↔ j = k := by
  refine ⟨fun h => ?_, congrArg positionText⟩
  have hdigits := congrArg String.toList h
  rw [toList_positionText, toList_positionText] at hdigits
  have hvalue := congrArg (fun ds => Nat.ofDigitChars 10 ds 0) hdigits
  simpa [Nat.ofDigitChars_toDigits] using hvalue

theorem isDigit_of_mem_positionText {k : Nat} {c : Char} (h : c ∈ (positionText k).toList) :
    c.isDigit = true := by
  rw [toList_positionText] at h
  exact Nat.isDigit_of_mem_toDigits (by decide) (by decide) h

theorem underscore_notMem_positionText (k : Nat) : '_' ∉ (positionText k).toList := by
  intro h
  have hdigit := isDigit_of_mem_positionText h
  revert hdigit
  decide

theorem ending_ne_positionText (name ending : String) (k : Nat) :
    name ++ "_help" ≠ ending ++ positionText k := by
  intro h
  have hchars := congrArg (fun s => s.toList.getLast?) h
  have hne : (positionText k).toList ≠ [] := by
    rw [toList_positionText]
    exact Nat.toDigits_ne_nil
  obtain ⟨c, hc⟩ : ∃ c, (positionText k).toList.getLast? = some c :=
    ⟨_, List.getLast?_eq_some_getLast hne⟩
  have hdigit := isDigit_of_mem_positionText (List.mem_of_getLast? hc)
  simp [String.toList_append, List.getLast?_append, hc] at hchars
  rw [← hchars] at hdigit
  revert hdigit
  decide

theorem append_cons_inj {c : Char} {us vs xs ys : List Char} (hx : c ∉ xs) (hy : c ∉ ys)
    (h : us ++ c :: xs = vs ++ c :: ys) : us = vs ∧ xs = ys := by
  rcases List.append_eq_append_iff.mp h with ⟨as, rfl, has⟩ | ⟨bs, rfl, hbs⟩
  · cases as with
    | nil => simpa using has
    | cons a as =>
        obtain rfl : xs = as ++ c :: ys := (List.cons.inj has).2
        exact absurd (by simp) hx
  · cases bs with
    | nil => simpa [eq_comm] using hbs
    | cons b bs =>
        obtain rfl : ys = bs ++ c :: xs := (List.cons.inj hbs).2
        exact absurd (by simp) hy

theorem underscore_position_inj {m n : String} {j k : Nat}
    (h : m ++ "_" ++ positionText j = n ++ "_" ++ positionText k) : m = n ∧ j = k := by
  have hchars := congrArg String.toList h
  simp only [String.toList_append, List.append_assoc] at hchars
  obtain ⟨hname, hposition⟩ := append_cons_inj (underscore_notMem_positionText j)
    (underscore_notMem_positionText k) hchars
  exact ⟨String.toList_inj.mp hname, positionText_inj.mp (String.toList_inj.mp hposition)⟩

inductive Mark where
  | control (name : String)
  | hint (name : String)
  | choice (name : String) (position : Nat)
  | button (name : String) (position : Nat)
  deriving DecidableEq, Repr

namespace Mark

def name : Mark → String
  | control name => name
  | hint name => name
  | choice name _ => name
  | button name _ => name

def stem : Mark → String
  | control name => name
  | hint name => name ++ "_help"
  | choice name k => name ++ "_" ++ positionText k
  | button name k => name ++ positionText k

def id (s : Settings) (m : Mark) : String :=
  s.ns ++ "_" ++ m.stem

theorem id_inj {s : Settings} {x y : Mark} : x.id s = y.id s ↔ x.stem = y.stem := by
  rw [id, id, String.append_right_inj]

inductive Meets : Mark → Mark → Prop
  | hint (name : String) : Meets (hint name) (control (name ++ "_help"))
  | choice (name : String) (k : Nat) :
      Meets (choice name k) (control (name ++ "_" ++ positionText k))
  | button (name : String) (k : Nat) : Meets (button name k) (control (name ++ positionText k))
  | buttonChoice {name name' : String} {j k : Nat}
      (h : name ++ positionText j = name' ++ "_" ++ positionText k) :
      Meets (button name j) (choice name' k)
  | buttons {name name' : String} {j k : Nat} (hne : name ≠ name')
      (h : name ++ positionText j = name' ++ positionText k) :
      Meets (button name j) (button name' k)

theorem Meets.stem_eq {x y : Mark} (h : x.Meets y) : x.stem = y.stem := by
  cases h with
  | hint name => rfl
  | choice name k => rfl
  | button name k => rfl
  | buttonChoice h => exact h
  | buttons _ h => exact h

theorem Meets.ne {x y : Mark} (h : x.Meets y) : x ≠ y := by
  cases h with
  | hint name => simp
  | choice name k => simp
  | button name k => simp
  | buttonChoice h => simp
  | buttons hne _ => simp [hne]

-- A stem that ends in a digit is no hint's, and one position stands after the last underscore.
theorem eq_or_meets {x y : Mark} (h : x.stem = y.stem) : x = y ∨ x.Meets y ∨ y.Meets x := by
  cases x with
  | control m =>
      cases y with
      | control n => exact Or.inl (congrArg control h)
      | hint n =>
          obtain rfl : m = n ++ "_help" := h
          exact Or.inr (Or.inr (.hint n))
      | choice n k =>
          obtain rfl : m = n ++ "_" ++ positionText k := h
          exact Or.inr (Or.inr (.choice n k))
      | button n k =>
          obtain rfl : m = n ++ positionText k := h
          exact Or.inr (Or.inr (.button n k))
  | hint m =>
      cases y with
      | control n =>
          obtain rfl : m ++ "_help" = n := h
          exact Or.inr (Or.inl (.hint m))
      | hint n => exact Or.inl (congrArg hint ((String.append_left_inj _).mp h))
      | choice n k => exact absurd h (ending_ne_positionText m _ k)
      | button n k => exact absurd h (ending_ne_positionText m n k)
  | choice m j =>
      cases y with
      | control n =>
          obtain rfl : m ++ "_" ++ positionText j = n := h
          exact Or.inr (Or.inl (.choice m j))
      | hint n => exact absurd h.symm (ending_ne_positionText n _ j)
      | choice n k =>
          obtain ⟨rfl, rfl⟩ := underscore_position_inj h
          exact Or.inl rfl
      | button n k => exact Or.inr (Or.inr (.buttonChoice h.symm))
  | button m j =>
      cases y with
      | control n =>
          obtain rfl : m ++ positionText j = n := h
          exact Or.inr (Or.inl (.button m j))
      | hint n => exact absurd h.symm (ending_ne_positionText n m j)
      | choice n k => exact Or.inr (Or.inl (.buttonChoice h))
      | button n k =>
          by_cases hne : m = n
          · subst hne
            have hk : j = k := positionText_inj.mp ((String.append_right_inj m).mp h)
            exact Or.inl (congrArg (button m) hk)
          · exact Or.inr (Or.inl (.buttons hne h))

theorem nodup_ids_iff (s : Settings) {marks : List Mark} (h : marks.Nodup) :
    (marks.map (id s)).Nodup ↔ ∀ x ∈ marks, ∀ y ∈ marks, ¬x.Meets y := by
  rw [List.nodup_map_iff_inj_on h]
  constructor
  · intro hinj x hx y hy hmeets
    exact hmeets.ne (hinj x hx y hy (id_inj.mpr hmeets.stem_eq))
  · intro hapart x hx y hy hid
    rcases eq_or_meets (id_inj.mp hid) with heq | hmeets | hmeets
    · exact heq
    · exact (hapart x hx y hy hmeets).elim
    · exact (hapart y hy x hx hmeets).elim

end Mark

end FormMarkup
