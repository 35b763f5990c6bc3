import FormMarkup.Proofs.Decode.Flags
import FormMarkup.Proofs.Field.Placed

namespace FormMarkup

open FormMarkup.Text (Padded)

def Json.Flags (v : Json) (b : Bool) : Prop :=
  v.readFlag = .ok b

namespace Field

def required? : Field → Option Bool
  | .input _ f => some f.required
  | .textArea f => some f.required
  | .file f => some f.required
  | .select f => some f.required
  | .radio g => some g.required
  | .switch f => some f.required
  | _ => none

def checked? : Field → Option Bool
  | .switch f => some f.checked
  | _ => none

def multiple? : Field → Option Bool
  | .file f => some f.multiple
  | .select f => some f.multiple
  | _ => none

end Field

theorem Key.flags {key : Key Bool} (h : key.read = Json.readFlag) :
    key.ReadsAs (fun b => b) Json.Flags :=
  readsAs_self fun v b => by rw [h, Json.Flags]

namespace Field

-- A group of radio buttons is required when it does not say so.
theorem allTake_required : AllTake ["required"] Json.Flags required? := by
  intro typeName known hknown hnames
  unfold memberNames? at hknown
  split at hknown
  all_goals cases hknown
  all_goals first
    | exact absurd hnames (by decide)
    | exact takesMember rfl Member.required rfl (by decide) (Key.flags rfl)
        fun _ _ h => congrArg some h
    | exact takesMember rfl Member.requiredUnlessUnset rfl (by decide) (Key.flags rfl)
        fun _ _ h => congrArg some h

theorem allTake_checked : AllTake ["checked"] Json.Flags checked? := by
  intro typeName known hknown hnames
  unfold memberNames? at hknown
  split at hknown
  all_goals cases hknown
  all_goals first
    | exact absurd hnames (by decide)
    | exact takesMember rfl Member.checked rfl (by decide) (Key.flags rfl)
        fun _ _ h => congrArg some h

theorem allTake_multiple : AllTake ["multiple"] Json.Flags multiple? := by
  intro typeName known hknown hnames
  unfold memberNames? at hknown
  split at hknown
  all_goals cases hknown
  all_goals first
    | exact absurd hnames (by decide)
    | exact takesMember rfl Member.multiple rfl (by decide) (Key.flags rfl)
        fun _ _ h => congrArg some h

theorem flags_agree_in_quotes :
    (∀ v s, Json.isSimple v = true → Padded s.toList v.text.toList →
      (Json.readFlag (.string s) = Json.readFlag v ↔ ¬v.IsFloatZero)) ∧
    (∀ cs w v s, Json.Numeral.scan cs = some (w, []) → w.value = some v → Padded s.toList cs →
      (Json.readFlag (.string s) = Json.readFlag v ↔ ¬v.IsFloatZero)) ∧
    (∀ s, ∃ b, Json.readFlag (.string s) = .ok b ∧
      (b = false ↔ ∃ cs, Padded s.toList cs ∧
        String.ofList (cs.map Char.toLower) ∈ ["", "0", "false", "off", "no"])) ∧
    (∀ s t cs ds, Padded s.toList cs → Padded t.toList ds →
      cs.map Char.toLower = ds.map Char.toLower →
      Json.readFlag (.string s) = Json.readFlag (.string t)) ∧
    AllTake ["required"] Json.Flags required? ∧
    AllTake ["checked"] Json.Flags checked? ∧
    AllTake ["multiple"] Json.Flags multiple? ∧
    TakesMember Checkbox.decode (fun _ => True) ["required"] Json.Flags
      (fun c => some c.required) ∧
    TakesMember Checkbox.decode (fun _ => True) ["checked"] Json.Flags (fun c => some c.checked) ∧
    TakesMember Choice.decode (fun _ => True) ["checked"] Json.Flags (fun c => some c.checked) := by
  refine ⟨fun v s hv hp => Json.readFlag_quoted hv hp,
    fun cs w v s hw hv hp => Json.readFlag_numeral hw hv hp, ?_,
    fun s t cs ds hs ht h => Json.readFlag_congr hs ht h,
    allTake_required, allTake_checked, allTake_multiple, ?_, ?_, ?_⟩
  · intro s
    refine ⟨_, rfl, ?_⟩
    rw [← Json.readFlag_unset_iff, Json.readFlag, Except.ok.injEq]
  · exact Checkbox.takesMember Member.required rfl (Key.flags rfl) fun _ _ h => congrArg some h
  · exact Checkbox.takesMember Member.checked rfl (Key.flags rfl) fun _ _ h => congrArg some h
  · exact Choice.takesMember Member.checked rfl (Key.flags rfl) fun _ _ h => congrArg some h

theorem flags_agree_in_quotes_padded :
    Json.readFlag (.string " 7\n") = Json.readFlag (.integer 7) ∧
    ∃ f, decode (.object [("type", .string "switch"), ("checked", .string " 7\n"),
      ("name", .string "x")]) = .ok f ∧ checked? f = some true := by
  obtain ⟨hquoted, -, -, -, -, hall, -⟩ := flags_agree_in_quotes
  have hpadded : Padded " 7\n".toList (Json.integer 7).text.toList :=
    ⟨[' '], ['\n'], by decide, by decide, by decide⟩
  have hseven := (hquoted (.integer 7) " 7\n" rfl hpadded).mpr (by simp [Json.IsFloatZero])
  have htake := hall "switch" _ rfl (by decide)
  have hfree : ∀ n ∈ ["checked"], n ∉
      Pairs.keys ([("type", Json.string "switch")] ++ [("name", .string "x")]) := by
    decide
  obtain ⟨f, hf⟩ := (htake.accepts (List.mem_cons_self ..) rfl hfree).mpr
    ⟨⟨true, hseven⟩, _, rfl⟩
  obtain ⟨b, hb, hpart⟩ := htake.holds (List.mem_cons_self ..) rfl hfree hf
  refine ⟨hseven, f, hf, ?_⟩
  have htrue : b = true := Except.ok.inj (hb.symm.trans hseven)
  rw [hpart, htrue]

theorem zero_in_quotes_is_set :
    (¬∀ v s, Json.isSimple v = true → Padded s.toList v.text.toList →
      Json.readFlag (.string s) = Json.readFlag v) ∧
    decode (.object [("type", .string "switch"), ("checked", .float (.zero false))]) =
      .ok (.switch {}) ∧
    decode (.object [("type", .string "switch"), ("checked", .string "0.0")]) =
      .ok (.switch { checked := true }) := by
  refine ⟨fun h => ?_, rfl, rfl⟩
  have htext : (Json.float (.zero false)).text = "0.0" := rfl
  have hpadded : Padded "0.0".toList (Json.float (.zero false)).text.toList :=
    ⟨[], [], by decide, by decide, by rw [htext]; rfl⟩
  have hsame := h (.float (.zero false)) "0.0" rfl hpadded
  cases hsame

end Field

end FormMarkup
