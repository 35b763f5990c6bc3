import FormMarkup.Proofs.Text.Trim
import FormMarkup.Text.Letters

namespace FormMarkup.Text

theorem toNat_toLower (c : Char) : c.toLower.toNat =
    if 65 ≤ c.toNat ∧ c.toNat ≤ 90 then c.toNat + 32 else c.toNat := by
  have hupper : (c.val ≥ 'A'.val ∧ c.val ≤ 'Z'.val) ↔ 65 ≤ c.toNat ∧ c.toNat ≤ 90 := by
    rw [ge_iff_le, UInt32.le_iff_toNat_le, UInt32.le_iff_toNat_le]
    rfl
  by_cases h : c.val ≥ 'A'.val ∧ c.val ≤ 'Z'.val
  · have hlower : c.toLower.val = c.val + ('a'.val - 'A'.val) := congrArg Char.val (dif_pos h)
    have hstep : ('a'.val - 'A'.val).toNat = 32 := rfl
    have hself : c.val.toNat = c.toNat := rfl
    have hrange := hupper.mp h
    rw [if_pos hrange, Char.toNat, hlower, UInt32.toNat_add]
    omega
  · have hlower : c.toLower = c := dif_neg h
    rw [if_neg (mt hupper.mpr h), hlower]

theorem lowerLetter_eq_toLower : lowerLetter = Char.toLower := by
  have hfirst : 'A'.toNat = 65 := rfl
  have hlast : 'Z'.toNat = 90 := rfl
  funext c
  refine Char.toNat_inj.mp ?_
  rw [toNat_toLower, lowerLetter, hfirst, hlast]
  simp only [Bool.and_eq_true, decide_eq_true_eq]
  split
  · next h =>
      have hvalid : (c.toNat + 32).isValidChar := .inl (by omega)
      rw [Char.ofNat, dif_pos hvalid]
      rfl
  · rfl

theorem isBlank_toLower (c : Char) : isBlank c.toLower = isBlank c := by
  simp only [isBlank, toNat_toLower]
  split
  · rw [Bool.eq_iff_iff]
    simp
    omega
  · rfl

theorem trimChars_map_toLower (cs : List Char) :
    trimChars (cs.map Char.toLower) = (trimChars cs).map Char.toLower := by
  have hblank : isBlank ∘ Char.toLower = isBlank := funext isBlank_toLower
  rw [trimChars, trimStartChars, trimEndChars, List.dropWhile_map, hblank, ← List.map_reverse,
    List.dropWhile_map, hblank, ← List.map_reverse]
  rfl

end FormMarkup.Text
