import FormMarkup.Decode.Scalar
import FormMarkup.Proofs.Decimal.Written
import FormMarkup.Proofs.Text.Trim

namespace FormMarkup

open FormMarkup.Decimal (Denotes)
open FormMarkup.Text (Blanks Padded)

namespace Json

inductive StandsFor : Json → Int → Prop where
  | nothing : StandsFor .null 0
  | number {n : Int} (hlow : -9223372036854775808 ≤ n) (hhigh : n ≤ 9223372036854775807) :
      StandsFor (.integer n) n
  | blank {s : String} (h : Blanks s.toList) : StandsFor (.string s) 0
  | text {s : String} {cs : List Char} {n : Int} (hp : Padded s.toList cs) (hd : Denotes cs n)
      (hlow : -9223372036854775808 ≤ n) (hhigh : n ≤ 9223372036854775807) :
      StandsFor (.string s) n

theorem not_blanks_of_denotes {text cs : List Char} {n : Int} (hp : Padded text cs)
    (hd : Denotes cs n) : ¬Blanks text := by
  obtain ⟨front, back, -, -, rfl⟩ := hp
  obtain ⟨c, hc⟩ := List.exists_mem_of_ne_nil cs hd.nonempty
  intro h
  have hblank := h c (List.mem_append_left _ (List.mem_append_right _ hc))
  rw [hd.numeric.blankless c hc] at hblank
  cases hblank

theorem readInteger_iff {v : Json} {n : Int} : v.readInteger = .ok n ↔ v.StandsFor n := by
  cases v with
  | null =>
      constructor
      · rintro ⟨⟩
        exact .nothing
      · rintro ⟨⟩
        rfl
  | integer m =>
      rw [readInteger]
      constructor
      · intro h
        split at h
        · next hm =>
            obtain ⟨hlow, hhigh⟩ := Decimal.isWord_iff.mp hm
            cases h
            exact .number hlow (by omega)
        · cases h
      · rintro (_ | ⟨hlow, hhigh⟩)
        rw [if_pos (Decimal.isWord_iff.mpr ⟨hlow, by omega⟩)]
  | string s =>
      rw [readInteger]
      constructor
      · intro h
        split at h
        · next hblank =>
            cases h
            exact .blank (Text.blanks_iff.mp hblank)
        · split at h
          · next m hm =>
              split at h
              · next hword =>
                  obtain ⟨hlow, hhigh⟩ := Decimal.isWord_iff.mp hword
                  cases h
                  exact .text (Text.padded_trimChars _) (Decimal.signed?_iff.mp hm) hlow (by omega)
              · cases h
          · cases h
      · intro h
        cases h with
        | blank hblank => rw [if_pos (Text.blanks_iff.mpr hblank)]
        | text hp hd hlow hhigh =>
            have hfull : ¬Text.isBlankText s = true := fun hblank =>
              not_blanks_of_denotes hp hd (Text.blanks_iff.mp hblank)
            have htrim := hd.numeric.blankless.trimmed.trimChars_eq
            rw [if_neg hfull, hp.trimChars_eq, htrim, Decimal.signed?_iff.mpr hd]
            exact if_pos (Decimal.isWord_iff.mpr ⟨hlow, by omega⟩)
  | _ => exact iff_of_false (by simp [readInteger]) (by rintro ⟨⟩)

def CountsAs (v : Json) (k : Nat) : Prop :=
  v.StandsFor k ∧ k ≤ 4294967295

theorem readCount_iff {v : Json} {k : Nat} : v.readCount = .ok k ↔ v.CountsAs k := by
  rw [CountsAs, ← readInteger_iff, readCount]
  cases v.readInteger with
  | error e => simp
  | ok n =>
      simp only [Except.ok.injEq]
      constructor
      · intro h
        split at h
        · cases h
          omega
        · cases h
      · rintro ⟨rfl, hk⟩
        rw [if_pos (by omega), Int.toNat_natCast]

theorem standsFor_written {n : Int} (hlow : -9223372036854775808 ≤ n)
    (hhigh : n ≤ 9223372036854775807) {s : String} (hp : Padded s.toList (toString n).toList) :
    StandsFor (.string s) n := by
  have hchars : (toString n).toList = Decimal.integerChars n := by
    rw [← Decimal.integerText_eq, Decimal.integerText, String.toList_ofList]
  exact .text (hchars ▸ hp) (Decimal.denotes_integerChars n) hlow hhigh

end Json

end FormMarkup
