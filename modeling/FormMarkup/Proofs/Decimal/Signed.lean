import FormMarkup.Decimal.Digits
import Mathlib.Data.List.Basic

namespace FormMarkup.Decimal

def Digits (cs : List Char) : Prop :=
  cs ≠ [] ∧ ∀ c ∈ cs, c.isDigit = true

instance (cs : List Char) : Decidable (Digits cs) :=
  decidable_of_iff (cs ≠ [] ∧ cs.all Char.isDigit = true) (by simp [Digits])

inductive Denotes : List Char → Int → Prop where
  | plain {ds : List Char} (h : Digits ds) : Denotes ds (Nat.ofDigitChars 10 ds 0)
  | plus {ds : List Char} (h : Digits ds) : Denotes ('+' :: ds) (Nat.ofDigitChars 10 ds 0)
  | minus {ds : List Char} (h : Digits ds) : Denotes ('-' :: ds) (-Nat.ofDigitChars 10 ds 0)

def digitValue (c : Char) : Nat :=
  c.toNat - '0'.toNat

theorem isDigit_iff {c : Char} : c.isDigit = true ↔ '0'.toNat ≤ c.toNat ∧ c.toNat ≤ '9'.toNat := by
  rw [Char.isDigit, Bool.and_eq_true, decide_eq_true_eq, decide_eq_true_eq, ge_iff_le,
    UInt32.le_iff_toNat_le, UInt32.le_iff_toNat_le]
  rfl

theorem digit?_eq (c : Char) : digit? c = if c.isDigit then some (digitValue c) else none := by
  simp only [digit?, digitValue, ← isDigit_iff]

theorem digits?_iff {cs : List Char} {ds : List Nat} :
    digits? cs = some ds ↔ (∀ c ∈ cs, c.isDigit = true) ∧ cs.map digitValue = ds := by
  induction cs generalizing ds with
  | nil => simp [digits?]
  | cons c cs ih =>
      rw [digits?, digit?_eq]
      cases hc : c.isDigit with
      | false => simp [hc]
      | true =>
          cases hds : digits? cs with
          | none =>
              have hnot : ¬∀ d ∈ cs, d.isDigit = true := by
                intro hall
                rw [ih.mpr ⟨hall, rfl⟩] at hds
                cases hds
              simp [hc, hnot]
          | some rest =>
              obtain ⟨hall, rfl⟩ := ih.mp hds
              simpa [hc] using fun _ => hall

theorem ofDigits_digitValue (cs : List Char) :
    ofDigits (cs.map digitValue) = Nat.ofDigitChars 10 cs 0 := by
  rw [ofDigits, List.foldl_map]
  rfl

theorem unsigned?_iff {cs : List Char} {n : Nat} :
    unsigned? cs = some n ↔ Digits cs ∧ Nat.ofDigitChars 10 cs 0 = n := by
  rw [unsigned?, Digits]
  cases cs with
  | nil => simp
  | cons c cs =>
      simp only [List.isEmpty_cons, Bool.false_eq_true, if_false, Option.map_eq_some_iff,
        digits?_iff, ne_eq, reduceCtorEq, not_false_eq_true, true_and]
      constructor
      · rintro ⟨ds, ⟨hall, rfl⟩, rfl⟩
        exact ⟨hall, (ofDigits_digitValue _).symm⟩
      · rintro ⟨hall, rfl⟩
        exact ⟨_, ⟨hall, rfl⟩, ofDigits_digitValue _⟩

theorem Digits.head_isDigit {c : Char} {cs : List Char} (h : Digits (c :: cs)) :
    c.isDigit = true :=
  h.2 c (List.mem_cons_self ..)

theorem signed?_iff {cs : List Char} {n : Int} : signed? cs = some n ↔ Denotes cs n := by
  have hplus : ¬('+').isDigit = true := by decide
  have hminus : ¬('-').isDigit = true := by decide
  constructor
  · intro h
    rw [signed?.eq_def] at h
    split at h <;> obtain ⟨m, hm, rfl⟩ := Option.map_eq_some_iff.mp h <;>
      obtain ⟨hds, rfl⟩ := unsigned?_iff.mp hm
    · exact .plus hds
    · exact .minus hds
    · exact .plain hds
  · intro h
    cases h with
    | plain h =>
        have hread := unsigned?_iff.mpr ⟨h, rfl⟩
        rw [signed?.eq_def]
        split
        · exact absurd h.head_isDigit hplus
        · exact absurd h.head_isDigit hminus
        · rw [hread]
          rfl
    | plus h => rw [signed?, unsigned?_iff.mpr ⟨h, rfl⟩]; rfl
    | minus h => rw [signed?, unsigned?_iff.mpr ⟨h, rfl⟩]; rfl

theorem Denotes.unique {cs : List Char} {m n : Int} (hm : Denotes cs m) (hn : Denotes cs n) :
    m = n := by
  have hread := signed?_iff.mpr hm
  rw [signed?_iff.mpr hn] at hread
  exact (Option.some.inj hread).symm

theorem integerText_eq (n : Int) : integerText n = toString n := by
  cases n with
  | ofNat n => rfl
  | negSucc n =>
      refine String.toList_inj.mp ?_
      simp [integerText, integerChars, naturalChars, toString, Int.repr, Nat.repr]

theorem digits_toDigits (n : Nat) : Digits (Nat.toDigits 10 n) :=
  ⟨Nat.toDigits_ne_nil, fun _ hc => Nat.isDigit_of_mem_toDigits (by decide) (by decide) hc⟩

theorem denotes_integerChars (n : Int) : Denotes (integerChars n) n := by
  have hvalue (m : Nat) : Nat.ofDigitChars 10 (naturalChars m) 0 = m :=
    Nat.ofDigitChars_toDigits (by decide) (by decide)
  cases n with
  | ofNat m =>
      have hden := Denotes.plain (digits_toDigits m)
      rwa [show Nat.toDigits 10 m = naturalChars m from rfl, hvalue] at hden
  | negSucc m =>
      have hden := Denotes.minus (digits_toDigits (m + 1))
      rwa [show Nat.toDigits 10 (m + 1) = naturalChars (m + 1) from rfl, hvalue] at hden

end FormMarkup.Decimal
