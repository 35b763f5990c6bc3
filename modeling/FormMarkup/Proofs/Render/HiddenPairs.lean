import FormMarkup.Proofs.Field.HiddenPairs
import FormMarkup.Proofs.Json.Normal
import FormMarkup.Proofs.Render.Inputs

namespace FormMarkup

open FormMarkup.Markup

namespace HiddenPair

def inputView (p : HiddenPair) : InputView :=
  { type := some "hidden", name := some p.name, value := some p.value }

theorem view_listItems (pairs : List HiddenPair) :
    (starts .input (listItems pairs)).map Attribute.view = pairs.map inputView :=
  Renderer.view_inputs_complete {} (f := .hidden { pairs })
    ⟨fun _ hm => (List.not_mem_nil hm).elim, rfl⟩

theorem scan_listItems (pairs : List HiddenPair) :
    ∃ events, scan (write (listItems pairs)) = some events ∧
      inputViews events = pairs.map inputView :=
  ⟨_, scan_write (sound_listItems pairs).tame,
    (inputViews_eventsOf [] _).trans (view_listItems pairs)⟩

theorem write_listItems_eq_empty {pairs : List HiddenPair} :
    write (listItems pairs) = "" ↔ pairs = [] := by
  cases pairs with
  | nil => exact ⟨fun _ => rfl, fun _ => rfl⟩
  | cons p ps =>
      have hne : (write (listItems (p :: ps))).toList ≠ [] := by
        simp [toList_write, listItems, items, inputLine, Item.chars]
      exact ⟨fun h => absurd (String.toList_eq_nil_iff.mpr h) hne, fun h => absurd h (List.cons_ne_nil p ps)⟩

end HiddenPair

theorem hidden_pairs_intact (v : Json) :
    (∀ pairs, (∃ f, Field.decode v.normalise = .ok (.hidden f) ∧ f.pairs = pairs) ↔
      ∃ ms, v.normalise = .object ms ∧ Pairs.find? "type" ms = some (.string "hidden") ∧
        HiddenInputs.pairs? ms = some pairs ∧
        ∃ n, ((Pairs.find? "order" ms).getD .null).readInteger = .ok n) ∧
    (∀ ms, v.normalise = .object ms → Pairs.find? "type" ms = some (.string "hidden") →
      HiddenInputs.Faulty ms → ∃ e, Field.decode v.normalise = .error e) ∧
    ∀ pairs,
      (∃ events, scan (write (HiddenPair.listItems pairs)) = some events ∧
        inputViews events = pairs.map HiddenPair.inputView) ∧
      (write (HiddenPair.listItems pairs) = "" ↔ pairs = []) := by
  have hd := Json.distinctKeys_normalise v
  refine ⟨fun pairs => Field.decode_hidden_iff hd, fun ms hms htype hfaulty => ?_, fun pairs =>
    ⟨HiddenPair.scan_listItems pairs, HiddenPair.write_listItems_eq_empty⟩⟩
  rw [hms] at hd ⊢
  exact Field.decode_faulty hd htype hfaulty

def mixedHidden : Json :=
  .object
    [("inputs", .list
        [.object [("name", .string "a"), ("value", .null), ("x", .list [])],
         .list [.string "a", .integer (-3)],
         .object [("name", .string ""), ("value", .string "\"<&")]]),
     ("name", .integer 7), ("order", .integer 2), ("type", .string "hidden"),
     ("value", .bool true)]

def namelessHidden : Json :=
  .object
    [("inputs", .list [.object [("name", .string "a")]]), ("type", .string "hidden"),
     ("value", .string "b")]

theorem hidden_pairs_intact_mixed :
    (∃ f, Field.decode mixedHidden.normalise = .ok (.hidden f) ∧
      f.pairs = [⟨"7", "true"⟩, ⟨"a", ""⟩, ⟨"a", "-3"⟩, ⟨"", "\"<&"⟩]) ∧
    (∃ e, Field.decode namelessHidden.normalise = .error e) ∧
    ∃ events,
      scan (write (HiddenPair.listItems [⟨"a", ""⟩, ⟨"a", "-3"⟩, ⟨"", "\"<&"⟩])) = some events ∧
      inputViews events =
        [{ type := some "hidden", name := some "a", value := some "" },
         { type := some "hidden", name := some "a", value := some "-3" },
         { type := some "hidden", name := some "", value := some "\"<&" }] := by
  obtain ⟨hdecodes, -, hwritten⟩ := hidden_pairs_intact mixedHidden
  obtain ⟨-, hfails, -⟩ := hidden_pairs_intact namelessHidden
  have hfaulty : HiddenPair.Faulty (.object [("name", .string "a")]) :=
    ⟨"value", by simp, .inl (by decide)⟩
  exact ⟨(hdecodes _).mpr ⟨_, rfl, rfl, by decide, 2, rfl⟩,
    hfails _ rfl rfl (.inr ⟨_, _, List.mem_cons_self .., List.mem_cons_self .., hfaulty⟩),
    (hwritten _).1⟩

end FormMarkup
