import FormMarkup.Decode.Scalar
import FormMarkup.Proofs.Json.Numeral
import FormMarkup.Proofs.Text.Letters

namespace FormMarkup

open FormMarkup.Decimal (IsNumeric Numeric)
open FormMarkup.Text (Padded)

namespace Json

theorem readFlag_string (s : String) : readFlag (.string s) =
    .ok !unsetWords.contains (String.ofList ((Text.trimChars s.toList).map Char.toLower)) := by
  rw [readFlag, Text.lowerLetters, Text.lowerLetter_eq_toLower, Text.trim, String.toList_ofList]

theorem readFlag_congr {s t : String} {cs ds : List Char} (hs : Padded s.toList cs)
    (ht : Padded t.toList ds) (h : cs.map Char.toLower = ds.map Char.toLower) :
    readFlag (.string s) = readFlag (.string t) := by
  rw [readFlag_string, readFlag_string, hs.trimChars_eq, ht.trimChars_eq,
    ← Text.trimChars_map_toLower, h, Text.trimChars_map_toLower]

theorem readFlag_padded {s : String} {cs : List Char} (h : Text.Blankless cs)
    (hp : Padded s.toList cs) :
    readFlag (.string s) = .ok !unsetWords.contains (String.ofList (cs.map Char.toLower)) := by
  rw [readFlag_string, hp.trimChars_eq, h.trimmed.trimChars_eq]

theorem readFlag_unset_iff {s : String} :
    readFlag (.string s) = .ok false ↔
      ∃ cs, Padded s.toList cs ∧
        String.ofList (cs.map Char.toLower) ∈ ["", "0", "false", "off", "no"] := by
  have hunset : ∀ w ∈ unsetWords, Text.Blankless w.toList := by
    decide
  constructor
  · intro h
    rw [readFlag_string, Except.ok.injEq, Bool.not_eq_false', List.contains_iff_mem] at h
    exact ⟨_, Text.padded_trimChars _, h⟩
  · rintro ⟨cs, hp, hword⟩
    have hfull : Text.Blankless cs := by
      intro c hc
      have hlower := hunset _ hword c.toLower (by
        rw [String.toList_ofList]
        exact List.mem_map_of_mem hc)
      rwa [Text.isBlank_toLower] at hlower
    rw [readFlag_padded hfull hp, Except.ok.injEq, Bool.not_eq_false', List.contains_iff_mem]
    exact hword

theorem toLower_of_isDigit {c : Char} (h : c.isDigit = true) : c.toLower = c := by
  refine Char.toNat_inj.mp ?_
  have hdigit := Decimal.isDigit_iff.mp h
  have hnine : ('9').toNat = 57 := rfl
  rw [Text.toNat_toLower, if_neg (by omega)]

theorem isNumeric_toLower {c : Char} (h : IsNumeric c) :
    IsNumeric c.toLower ∧ (c.toLower = '0' → c = '0') := by
  rcases h with hdigit | hmark
  · rw [toLower_of_isDigit hdigit]
    exact ⟨.inl hdigit, id⟩
  · simp only [List.mem_cons, List.not_mem_nil, or_false] at hmark
    rcases hmark with rfl | rfl | rfl | rfl | rfl <;> decide

theorem unset_numeric_iff {cs : List Char} (hn : Numeric cs) (hne : cs ≠ []) :
    unsetWords.contains (String.ofList (cs.map Char.toLower)) = true ↔ cs = ['0'] := by
  have hlower : Numeric (cs.map Char.toLower) := by
    intro d hd
    obtain ⟨c, hc, rfl⟩ := List.mem_map.mp hd
    exact (isNumeric_toLower (hn c hc)).1
  have hwords : ∀ w ∈ unsetWords, Numeric w.toList → w = "" ∨ w = "0" := by
    decide
  rw [List.contains_iff_mem]
  constructor
  · intro hmem
    rcases hwords _ hmem (by rwa [String.toList_ofList]) with hempty | hword
    · simp [hne] at hempty
    · have hword := congrArg String.toList hword
      rw [String.toList_ofList] at hword
      obtain ⟨c, rfl, hc⟩ := List.map_eq_singleton_iff.mp hword
      rw [(isNumeric_toLower (hn c (List.mem_cons_self ..))).2 hc]
  · rintro rfl
    decide

theorem readFlag_numeric {s : String} {cs : List Char} {zero : Bool} (hn : Numeric cs)
    (hne : cs ≠ []) (hp : Padded s.toList cs) (hz : zero = true ↔ cs = ['0']) :
    readFlag (.string s) = .ok !zero := by
  have hunset : unsetWords.contains (String.ofList (cs.map Char.toLower)) = zero := by
    rw [Bool.eq_iff_iff, hz, unset_numeric_iff hn hne]
  rw [readFlag_padded hn.blankless hp, hunset]

def IsFloatZero (v : Json) : Prop :=
  ∃ x, v = .float x ∧ x.isZero = true

def isSimple : Json → Bool
  | .bool _ => true
  | .integer _ => true
  | .float _ => true
  | _ => false

theorem readFlag_float {s : String} {x : Decimal.Binary64} (h : readFlag (.string s) = .ok true) :
    readFlag (.string s) = readFlag (.float x) ↔ ¬IsFloatZero (.float x) := by
  rw [h, readFlag]
  cases hz : x.isZero <;> simp [IsFloatZero, hz]

theorem readFlag_quoted {v : Json} (hv : v.isSimple = true) {s : String}
    (hp : Padded s.toList v.text.toList) :
    readFlag (.string s) = readFlag v ↔ ¬v.IsFloatZero := by
  rw [text, String.toList_ofList] at hp
  cases v with
  | bool b =>
      refine iff_of_true ?_ (by simp [IsFloatZero])
      cases b <;> rw [chars] at hp <;> rw [readFlag_padded (by decide) hp] <;> rfl
  | integer n =>
      refine iff_of_true ?_ (by simp [IsFloatZero])
      have hden := Decimal.denotes_integerChars n
      have hzero : (n == 0) = true ↔ Decimal.integerChars n = ['0'] := by
        rw [beq_iff_eq, Decimal.integerChars_zero_iff]
      exact readFlag_numeric hden.numeric hden.nonempty hp hzero
  | float x =>
      refine readFlag_float ?_
      rw [chars] at hp
      rcases Decimal.Layout.document_chars x with hnone | hmarked
      · rcases List.mem_pair.mp hnone with hnull | hnull <;> rw [hnull] at hp <;>
          rw [readFlag_padded (by decide) hp] <;> rfl
      · exact readFlag_numeric hmarked.numeric hmarked.nonempty hp
          (iff_of_false Bool.false_ne_true hmarked.ne_zero)
  | _ => cases hv

theorem readFlag_numeral {cs : List Char} {w : Numeral} (hw : Numeral.scan cs = some (w, []))
    {v : Json} (hv : w.value = some v) {s : String} (hp : Padded s.toList cs) :
    readFlag (.string s) = readFlag v ↔ ¬v.IsFloatZero := by
  have hne : cs ≠ [] := by
    rintro rfl
    cases hw
  have hnumeric := Numeral.numeric_of_scan hw
  have hzero := Numeral.integer_zero_iff hw
  rw [hv, Option.some.injEq] at hzero
  rcases Numeral.value_kind hv with ⟨n, rfl⟩ | ⟨x, rfl⟩
  · refine iff_of_true ?_ (by simp [IsFloatZero])
    have hn : (n == 0) = true ↔ cs = ['0'] := by
      rw [← hzero, beq_iff_eq, Json.integer.injEq]
    exact readFlag_numeric hnumeric hne hp hn
  · have hfull : cs ≠ ['0'] := by
      rw [ne_eq, ← hzero]
      simp
    exact readFlag_float (readFlag_numeric hnumeric hne hp (iff_of_false Bool.false_ne_true hfull))

end Json

end FormMarkup
