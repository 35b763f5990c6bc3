import FormMarkup.Json.Numeral
import FormMarkup.Proofs.Decimal.Written
import Mathlib.Data.List.TakeWhile

namespace FormMarkup

namespace Decimal

theorem takeDigits_eq (cs : List Char) :
    takeDigits cs = ((cs.takeWhile Char.isDigit).map digitValue, cs.dropWhile Char.isDigit) := by
  induction cs with
  | nil => rfl
  | cons c cs ih =>
      rw [takeDigits, digit?_eq, List.takeWhile_cons, List.dropWhile_cons]
      cases c.isDigit with
      | false => rfl
      | true => simp [ih]

theorem le_foldl_digits (ds : List Nat) (n : Nat) :
    n ≤ ds.foldl (fun n d => 10 * n + d) n := by
  induction ds generalizing n with
  | nil => exact Nat.le_refl n
  | cons d ds ih =>
      have hstep : n ≤ 10 * n + d := by omega
      exact Nat.le_trans hstep (ih _)

def Plain (ds : List Nat) : Prop :=
  ∀ rest, ds = 0 :: rest → rest = []

theorem Plain.eq_zero {ds : List Nat} (h : Plain ds) (hne : ds ≠ []) (hz : ofDigits ds = 0) :
    ds = [0] := by
  cases ds with
  | nil => exact absurd rfl hne
  | cons d ds =>
      have hle := le_foldl_digits ds (10 * 0 + d)
      rw [ofDigits, List.foldl_cons] at hz
      obtain rfl : d = 0 := by omega
      rw [h ds rfl]

end Decimal

open FormMarkup.Decimal

namespace Json.Numeral

theorem scanFraction_none {cs rest : List Char} (h : scanFraction cs = some (none, rest)) :
    rest = cs := by
  unfold scanFraction at h
  split at h
  · split at h <;> simp at h
  · simpa [eq_comm] using h

theorem scanExponent_none {cs rest : List Char} (h : scanExponent cs = some (none, rest)) :
    rest = cs := by
  unfold scanExponent at h
  split at h
  · split at h
    · split at h <;> simp at h
    · simpa [eq_comm] using h
  · simpa [eq_comm] using h

def Consumed (cs rest : List Char) : Prop :=
  ∃ front, Numeric front ∧ cs = front ++ rest

namespace Consumed

variable {cs mid rest : List Char}

theorem refl (cs : List Char) : Consumed cs cs :=
  ⟨[], numeric_nil, rfl⟩

theorem trans (h : Consumed cs mid) (hm : Consumed mid rest) : Consumed cs rest := by
  obtain ⟨front, hfront, rfl⟩ := h
  obtain ⟨back, hback, rfl⟩ := hm
  exact ⟨front ++ back, hfront.append hback, (List.append_assoc ..).symm⟩

theorem cons {c : Char} (hc : IsNumeric c) (h : Consumed cs rest) : Consumed (c :: cs) rest := by
  obtain ⟨front, hfront, rfl⟩ := h
  exact ⟨c :: front, hfront.cons hc, rfl⟩

theorem takeDigits (cs : List Char) : Consumed cs (takeDigits cs).2 := by
  rw [takeDigits_eq]
  exact ⟨cs.takeWhile Char.isDigit, fun _ hc => .inl (List.mem_takeWhile_imp hc),
    List.takeWhile_append_dropWhile.symm⟩

theorem scanFraction {fraction : Option (List Nat)} (h : scanFraction cs = some (fraction, rest)) :
    Consumed cs rest := by
  unfold Numeral.scanFraction at h
  split at h
  · next ds =>
      have hds := takeDigits ds
      split at h
      · cases h
      · next heq =>
          cases h
          rw [heq] at hds
          exact hds.cons (by decide)
  · cases h
    exact refl _

theorem exponentSign (cs : List Char) : Consumed cs (exponentSign cs).2 := by
  unfold Numeral.exponentSign
  split
  · exact (refl _).cons (by decide)
  · exact (refl _).cons (by decide)
  · exact refl _

theorem scanExponent {exponent : Option (Bool × List Nat)}
    (h : scanExponent cs = some (exponent, rest)) : Consumed cs rest := by
  unfold Numeral.scanExponent at h
  split at h
  · next c ds =>
      split at h
      · next hc =>
          have hletter : IsNumeric c := by
            rcases hc with rfl | rfl <;> decide
          have hds := (exponentSign ds).trans (takeDigits _)
          split at h
          · cases h
          · next heq =>
              cases h
              rw [heq] at hds
              exact hds.cons hletter
      · cases h
        exact refl _
  · cases h
    exact refl _

theorem scanUnsigned {negative : Bool} {w : Numeral}
    (h : scanUnsigned negative cs = some (w, rest)) : Consumed cs rest := by
  have hds := takeDigits cs
  rw [Numeral.scanUnsigned] at h
  split at h
  · cases h
  · cases h
  · next heq =>
      rw [heq] at hds
      split at h
      · cases h
      · next hfraction =>
          split at h
          · cases h
          · next hexponent =>
              cases h
              exact (hds.trans (scanFraction hfraction)).trans (scanExponent hexponent)

end Consumed

theorem numeric_of_scan {cs : List Char} {w : Numeral} (h : scan cs = some (w, [])) :
    Numeric cs := by
  have hall : Consumed cs [] := by
    rw [scan.eq_def] at h
    split at h
    · exact (Consumed.scanUnsigned h).cons (by decide)
    · exact .scanUnsigned h
  obtain ⟨front, hfront, heq⟩ := hall
  rw [heq, List.append_nil]
  exact hfront

def IsWhole (w : Numeral) : Prop :=
  w.fraction = none ∧ w.exponent = none

def wholePart (w : Numeral) : Int :=
  if w.negative then -Int.ofNat (ofDigits w.whole) else Int.ofNat (ofDigits w.whole)

structure Scanned (negative : Bool) (cs : List Char) (w : Numeral) : Prop where
  negative : w.negative = negative
  whole : w.whole = (cs.takeWhile Char.isDigit).map digitValue
  nonempty : w.whole ≠ []
  plain : Plain w.whole
  isWhole : w.IsWhole ↔ ∀ c ∈ cs, c.isDigit = true

theorem scanned_of_scanUnsigned {negative : Bool} {cs : List Char} {w : Numeral}
    (h : scanUnsigned negative cs = some (w, [])) : Scanned negative cs w := by
  rw [scanUnsigned, takeDigits_eq] at h
  generalize hds : (cs.takeWhile Char.isDigit).map digitValue = ds at h
  split at h
  · cases h
  · cases h
  · next whole rest hnil hlead heq =>
      obtain ⟨rfl, rfl⟩ := Prod.mk.inj heq
      cases hf : scanFraction (cs.dropWhile Char.isDigit) with
      | none => simp [hf] at h
      | some f =>
          obtain ⟨fraction, rest⟩ := f
          simp only [hf] at h
          cases he : scanExponent rest with
          | none => simp [he] at h
          | some e =>
              obtain ⟨exponent, rest'⟩ := e
              simp only [he, Option.some.injEq, Prod.mk.injEq] at h
              obtain ⟨rfl, rfl⟩ := h
              refine ⟨rfl, hds.symm, hnil, fun rest' hzero => ?_, ?_⟩
              · cases rest' with
                | nil => rfl
                | cons d rest' => exact absurd hzero (hlead d rest')
              · rw [← List.dropWhile_eq_nil_iff]
                constructor
                · rintro ⟨rfl, rfl⟩
                  rw [← scanFraction_none hf, ← scanExponent_none he]
                · intro hnone
                  rw [hnone] at hf
                  cases hf
                  cases he
                  exact ⟨rfl, rfl⟩

theorem scan_cases {cs : List Char} {w : Numeral} (h : scan cs = some (w, [])) :
    Scanned false cs w ∨ ∃ ds, cs = '-' :: ds ∧ Scanned true ds w := by
  rw [scan.eq_def] at h
  split at h
  · exact .inr ⟨_, rfl, scanned_of_scanUnsigned h⟩
  · exact .inl (scanned_of_scanUnsigned h)

namespace Scanned

variable {negative : Bool} {cs : List Char} {w : Numeral}

theorem digits_iff (h : Scanned negative cs w) : Digits cs ↔ w.IsWhole := by
  rw [h.isWhole, Digits]
  refine ⟨And.right, fun hall => ⟨?_, hall⟩⟩
  rintro rfl
  exact h.nonempty h.whole

theorem whole_eq (h : Scanned negative cs w) (hw : w.IsWhole) :
    w.whole = cs.map digitValue := by
  rw [h.whole, List.takeWhile_eq_self_iff.mpr (h.isWhole.mp hw)]

theorem head_isDigit (h : Scanned negative cs w) : ∃ c rest, cs = c :: rest ∧ c.isDigit = true := by
  have hne := h.nonempty
  rw [h.whole] at hne
  cases cs with
  | nil => exact absurd rfl hne
  | cons c cs =>
      refine ⟨c, cs, rfl, ?_⟩
      by_contra hc
      exact hne (by simp [hc])

theorem zero_iff (h : Scanned negative cs w) :
    w.IsWhole ∧ ofDigits w.whole = 0 ↔ cs = ['0'] := by
  constructor
  · rintro ⟨hw, hz⟩
    have hdigits := h.isWhole.mp hw
    have hone := h.plain.eq_zero h.nonempty hz
    rw [h.whole_eq hw] at hone
    obtain ⟨c, rfl, hc⟩ := List.map_eq_singleton_iff.mp hone
    have hc' := isDigit_iff.mp (hdigits c (List.mem_cons_self ..))
    have hnat : c.toNat = '0'.toNat := Nat.le_antisymm (Nat.le_of_sub_eq_zero hc) hc'.1
    rw [Char.toNat_inj.mp hnat]
  · rintro rfl
    have hw : w.IsWhole := h.digits_iff.mp (by decide)
    exact ⟨hw, by rw [h.whole_eq hw]; rfl⟩

end Scanned

theorem denotes_iff {cs : List Char} {w : Numeral} (h : scan cs = some (w, [])) {n : Int} :
    Denotes cs n ↔ w.IsWhole ∧ w.wholePart = n := by
  have hplain {negative : Bool} {ds : List Char} (hs : Scanned negative ds w) (hw : w.IsWhole) :
      ofDigits w.whole = Nat.ofDigitChars 10 ds 0 := by
    rw [hs.whole_eq hw, ofDigits_digitValue]
  rcases scan_cases h with hs | ⟨ds, rfl, hs⟩
  · obtain ⟨c, rest, rfl, hc⟩ := hs.head_isDigit
    rw [wholePart, hs.negative]
    constructor
    · intro hd
      cases hd with
      | plain hds =>
          have hw := hs.digits_iff.mp hds
          exact ⟨hw, congrArg Int.ofNat (hplain hs hw)⟩
      | plus => cases hc
      | minus => cases hc
    · rintro ⟨hw, rfl⟩
      rw [hplain hs hw]
      exact .plain (hs.digits_iff.mpr hw)
  · rw [wholePart, hs.negative]
    constructor
    · intro hd
      cases hd with
      | plain hds => cases hds.head_isDigit
      | minus hds =>
          have hw := hs.digits_iff.mp hds
          exact ⟨hw, congrArg (fun m => -Int.ofNat m) (hplain hs hw)⟩
    · rintro ⟨hw, rfl⟩
      rw [hplain hs hw]
      exact .minus (hs.digits_iff.mpr hw)

theorem absorb_whole {limit n m : Nat} (hn : n < limit) {ds : List Nat} :
    absorb limit n ds = (m, []) ↔ ds.foldl (fun n d => 10 * n + d) n = m ∧ m < limit := by
  induction ds generalizing n with
  | nil =>
      simp only [absorb, List.foldl_nil, Prod.mk.injEq, and_true]
      exact ⟨fun h => ⟨h, h ▸ hn⟩, And.left⟩
  | cons d ds ih =>
      rw [absorb, List.foldl_cons]
      split
      · next hlt => exact ih hlt
      · next hge =>
          have hle := le_foldl_digits ds (10 * n + d)
          simp only [Prod.mk.injEq, reduceCtorEq, and_false, false_iff, not_and, not_lt]
          omega

theorem value_kind {w : Numeral} {v : Json} (h : w.value = some v) :
    (∃ n, v = .integer n) ∨ ∃ x, v = .float x := by
  rw [value] at h
  split at h
  · split at h
    · split at h <;> cases h
      · exact .inl ⟨_, rfl⟩
      · exact .inr ⟨_, rfl⟩
    · cases h
      exact .inl ⟨_, rfl⟩
  · obtain ⟨x, -, rfl⟩ := Option.map_eq_some_iff.mp h
    exact .inr ⟨x, rfl⟩

theorem value_whole {w : Numeral} (hw : w.IsWhole) :
    (ofDigits w.whole < 18446744073709551616 →
      w.value = some (if w.negative then
        if 0 < ofDigits w.whole ∧ ofDigits w.whole ≤ 9223372036854775808 then
          .integer (-Int.ofNat (ofDigits w.whole))
        else .float ((Binary64.ofNat (ofDigits w.whole)).withSign true)
      else .integer (Int.ofNat (ofDigits w.whole)))) ∧
    (18446744073709551616 ≤ ofDigits w.whole → w.value = w.float.map .float) := by
  obtain ⟨hf, he⟩ := hw
  have hread {c : Nat} : absorb (Nat.pow 2 64) 0 w.whole = (c, []) ↔
      ofDigits w.whole = c ∧ c < 18446744073709551616 :=
    absorb_whole (by decide)
  rw [value, hf, he]
  constructor
  · intro hlt
    rw [hread.mpr ⟨rfl, hlt⟩]
    simp only
    split
    · split <;> rfl
    · rfl
  · intro hge
    split
    · next hwhole =>
        have hlt := (hread.mp hwhole).2
        rw [← (hread.mp hwhole).1] at hlt
        omega
    · rfl

theorem value_integer_iff {w : Numeral} {n : Int} :
    w.value = some (.integer n) ↔
      w.IsWhole ∧ w.wholePart = n ∧ (w.negative = true → n ≠ 0) ∧
        -9223372036854775808 ≤ n ∧ n < 18446744073709551616 := by
  have hfloat : w.float.map Json.float ≠ some (.integer n) := by
    cases w.float <;> simp
  by_cases hw : w.IsWhole
  · obtain ⟨hsmall, hlarge⟩ := value_whole hw
    rw [wholePart]
    rcases Nat.lt_or_ge (ofDigits w.whole) 18446744073709551616 with hlt | hge
    · rw [hsmall hlt]
      cases w.negative with
      | false => simp [hw]; omega
      | true =>
          simp only [if_true]
          split
          · simp [hw]; omega
          · simp [hw]; omega
    · rw [hlarge hge]
      refine iff_of_false hfloat ?_
      rintro ⟨-, hn, -, hlow, hhigh⟩
      split at hn <;> simp only [Int.ofNat_eq_natCast] at hn <;> omega
  · have hvalue : w.value = w.float.map .float := by
      rw [value]
      split
      · next hf he _ => exact absurd ⟨hf, he⟩ hw
      · rfl
    simp [hvalue, hfloat, hw]

theorem minusZero_iff {cs : List Char} {w : Numeral} (h : scan cs = some (w, [])) :
    cs = ['-', '0'] ↔ w.IsWhole ∧ w.negative = true ∧ w.wholePart = 0 := by
  rcases scan_cases h with hs | ⟨ds, rfl, hs⟩
  · obtain ⟨c, rest, rfl, hc⟩ := hs.head_isDigit
    rw [hs.negative]
    refine iff_of_false ?_ (by simp)
    intro heq
    rw [(List.cons.inj heq).1] at hc
    cases hc
  · rw [wholePart, hs.negative, List.cons_inj_right, ← hs.zero_iff]
    simp

theorem integer_iff_denotes {cs : List Char} {w : Numeral} (h : scan cs = some (w, [])) {n : Int} :
    w.value = some (.integer n) ↔
      Denotes cs n ∧ cs ≠ ['-', '0'] ∧ -9223372036854775808 ≤ n ∧ n < 18446744073709551616 := by
  rw [value_integer_iff, denotes_iff h, ne_eq cs, minusZero_iff h]
  constructor
  · rintro ⟨hw, rfl, hz, hrange⟩
    exact ⟨⟨hw, rfl⟩, fun hzero => hz hzero.2.1 hzero.2.2, hrange⟩
  · rintro ⟨⟨hw, rfl⟩, hz, hrange⟩
    exact ⟨hw, rfl, fun hneg hzero => hz ⟨hw, hneg, hzero⟩, hrange⟩

theorem integer_zero_iff {cs : List Char} {w : Numeral} (h : scan cs = some (w, [])) :
    w.value = some (.integer 0) ↔ cs = ['0'] := by
  rw [value_integer_iff]
  rcases scan_cases h with hs | ⟨ds, rfl, hs⟩
  · rw [← hs.zero_iff, wholePart, hs.negative]
    simp
  · rw [hs.negative]
    exact iff_of_false (by simp) (by simp)

end Json.Numeral

end FormMarkup
