import FormMarkup.Proofs.Decode.Integers
import FormMarkup.Proofs.Field.Placed
import FormMarkup.Proofs.Json.Numeral

namespace FormMarkup

open FormMarkup.Decimal (Denotes)
open FormMarkup.Text (Padded)

namespace Json

theorem standsFor_numeral {cs : List Char} {w : Numeral} (hw : Numeral.scan cs = some (w, []))
    {v : Json} (hv : w.value = some v) {n : Int} :
    v.StandsFor n ↔ Denotes cs n ∧ cs ≠ ['-', '0'] ∧
      -9223372036854775808 ≤ n ∧ n ≤ 9223372036854775807 := by
  have hinteger : v.StandsFor n ↔ v = .integer n ∧
      -9223372036854775808 ≤ n ∧ n ≤ 9223372036854775807 := by
    rcases Numeral.value_kind hv with ⟨m, rfl⟩ | ⟨x, rfl⟩
    · constructor
      · rintro (_ | ⟨hlow, hhigh⟩)
        exact ⟨rfl, hlow, hhigh⟩
      · rintro ⟨heq, hlow, hhigh⟩
        cases heq
        exact .number hlow hhigh
    · exact iff_of_false (by rintro ⟨⟩) (by simp)
  have hvalue : v = .integer n ↔ w.value = some (.integer n) := by
    rw [hv, Option.some.injEq]
  rw [hinteger, hvalue, Numeral.integer_iff_denotes hw]
  constructor
  · rintro ⟨⟨hd, hz, hlow, -⟩, -, hhigh⟩
    exact ⟨hd, hz, hlow, hhigh⟩
  · rintro ⟨hd, hz, hlow, hhigh⟩
    exact ⟨⟨hd, hz, hlow, by omega⟩, hlow, hhigh⟩

end Json

def Field.rows? : Field → Option Nat
  | .textArea f => some f.rows
  | _ => none

namespace Member

theorem order_readsAs : order.ReadsAs (fun a => a) Json.StandsFor :=
  Key.readsAs_self fun _ _ => Json.readInteger_iff

theorem rows_readsAs : rows.ReadsAs (fun a => a) Json.CountsAs :=
  Key.readsAs_self fun _ _ => Json.readCount_iff

end Member

namespace Field

theorem allTake_order : AllTake ["order"] Json.StandsFor fun f => some f.order := by
  intro typeName known hknown hnames
  unfold memberNames? at hknown
  split at hknown
  all_goals cases hknown
  all_goals
    exact takesMember rfl Member.order rfl (by decide) Member.order_readsAs
      fun _ _ h => congrArg some h

theorem allTake_rows : AllTake ["rows"] Json.CountsAs Field.rows? := by
  intro typeName known hknown hnames
  unfold memberNames? at hknown
  split at hknown
  all_goals cases hknown
  all_goals first
    | exact absurd hnames (by decide)
    | exact takesMember rfl Member.rows rfl (by decide) Member.rows_readsAs
        fun _ _ h => congrArg some h

theorem integer_members_exact :
    (∀ v n, Json.readInteger v = .ok n ↔ v.StandsFor n) ∧
    (∀ v k, Json.readCount v = .ok k ↔ v.CountsAs k) ∧
    (∀ n : Int, -9223372036854775808 ≤ n → n ≤ 9223372036854775807 →
      (Json.integer n).StandsFor n ∧
      ∀ s : String, Padded s.toList (toString n).toList → (Json.string s).StandsFor n) ∧
    (∀ cs w v n, Json.Numeral.scan cs = some (w, []) → w.value = some v →
      (v.StandsFor n ↔ Denotes cs n ∧ cs ≠ ['-', '0'] ∧
        -9223372036854775808 ≤ n ∧ n ≤ 9223372036854775807)) ∧
    AllTake ["order"] Json.StandsFor (fun f => some f.order) ∧
    TakesMember Checkbox.decode (fun _ => True) ["order"] Json.StandsFor (fun c => some c.order) ∧
    TakesMember Choice.decode (fun _ => True) ["order"] Json.StandsFor (fun c => some c.order) ∧
    AllTake ["rows"] Json.CountsAs Field.rows? := by
  refine ⟨fun _ _ => Json.readInteger_iff, fun _ _ => Json.readCount_iff, ?_, ?_,
    allTake_order, ?_, ?_, allTake_rows⟩
  · exact fun n hlow hhigh =>
      ⟨.number hlow hhigh, fun s hp => Json.standsFor_written hlow hhigh hp⟩
  · exact fun cs w v n hw hv => Json.standsFor_numeral hw hv
  · exact Checkbox.takesMember Member.order rfl Member.order_readsAs fun _ _ h => congrArg some h
  · exact Choice.takesMember Member.order rfl Member.order_readsAs fun _ _ h => congrArg some h

theorem integer_members_exact_padded :
    ∃ f, decode (.object [("type", .string "text"), ("order", .string "\t+007 "),
      ("name", .string "x")]) = .ok f ∧ f.order = 7 := by
  obtain ⟨hread, -, -, -, hall, -⟩ := integer_members_exact
  have htake := hall "text" inputNames rfl (by decide)
  have hpadded : Padded "\t+007 ".toList ['+', '0', '0', '7'] :=
    ⟨['\t'], [' '], by decide, by decide, by decide⟩
  have hseven : (Json.string "\t+007 ").StandsFor 7 :=
    .text hpadded (.plus (by decide)) (by decide) (by decide)
  have hfree : ∀ n ∈ ["order"], n ∉
      Pairs.keys ([("type", Json.string "text")] ++ [("name", .string "x")]) := by
    decide
  obtain ⟨f, hf⟩ := (htake.accepts (List.mem_cons_self ..) rfl hfree).mpr
    ⟨⟨7, hseven⟩, _, rfl⟩
  obtain ⟨n, hn, hpart⟩ := htake.holds (List.mem_cons_self ..) rfl hfree hf
  refine ⟨f, hf, ?_⟩
  have hvalue := (hread _ _).mpr hn
  rw [(hread _ _).mpr hseven] at hvalue
  rw [Option.some.inj hpart, Except.ok.inj hvalue]

end Field

end FormMarkup
