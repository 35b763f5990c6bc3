import FormMarkup.Proofs.Field.HiddenPairs
import FormMarkup.Proofs.Field.Placed
import Mathlib.Data.List.Induction

namespace FormMarkup

namespace Pairs

variable {α : Type}

theorem distinct_append (xs : Pairs α) (name : String) (v : α) :
    distinct (xs ++ [(name, v)]) = put name v (distinct xs) := by
  rw [distinct, List.foldl_append]
  rfl

theorem keys_distinct (xs : Pairs α) : keys (distinct xs) = (keys xs).eraseDups := by
  induction xs using List.reverseRecOn with
  | nil => rfl
  | append_singleton xs x ih =>
      obtain ⟨name, v⟩ := x
      have hkeys : keys (xs ++ [(name, v)]) = keys xs ++ [name] := List.map_append
      rw [distinct_append, keys, keys_put, ← keys, ih, hkeys, List.eraseDups_append]
      split
      · next hm => simp [List.removeAll, List.mem_eraseDups.mp hm]
      · next hm => simp [List.removeAll, mt List.mem_eraseDups.mpr hm, List.eraseDups_cons]

theorem mem_distinct_iff {xs : Pairs α} {name : String} {v : α} :
    (name, v) ∈ distinct xs ↔ last? name xs = some v := by
  rw [← find?_eq_some_iff (nodup_distinct xs), find?_distinct]

theorem map_distinct {β : Type} {xs : Pairs α} {f : String × α → β} {g : String → β}
    (h : ∀ name v, last? name xs = some v → f (name, v) = g name) :
    (distinct xs).map f = (keys xs).eraseDups.map g := by
  rw [← keys_distinct, keys, List.map_map]
  refine List.map_congr_left fun m hm => ?_
  exact h m.1 m.2 (mem_distinct_iff.mp hm)

end Pairs

namespace Json

variable {entries : List (String × Json)} {map : TextMap}

def LastScalars (entries : List (String × Json)) : Prop :=
  ∀ name v, Pairs.last? name entries = some v → v.isContainer = false

def lastText (entries : List (String × Json)) (name : String) : String :=
  ((Pairs.last? name entries).bind scalar?).getD ""

def lastNull (entries : List (String × Json)) (name : String) : Bool :=
  (Pairs.last? name entries).any isNull

def labelsOf (entries : List (String × Json)) : TextMap :=
  (Pairs.keys entries).eraseDups.map fun name => (name, lastText entries name)

def attributesOf (entries : List (String × Json)) : TextMap :=
  ((Pairs.keys entries).eraseDups.filter fun name => !lastNull entries name).map
    fun name => (name, lastText entries name)

def ownText? (v : Json) : Option String :=
  if v.isNull then none else v.scalar?

theorem scalarText_ok_iff {v : Json} {t : Option String} :
    v.scalarText = .ok t ↔ v.isContainer = false ∧ v.ownText? = t := by
  cases v with
  | bool b => cases b <;> simp [scalarText, isContainer, ownText?, isNull, scalar?]
  | integer n =>
      simp [scalarText, isContainer, ownText?, isNull, scalar?, Decimal.integerText_eq]
  | _ => simp [scalarText, isContainer, ownText?, isNull, scalar?]

theorem scalarTexts_ok_iff {ms : List (String × Json)} {texts : Pairs (Option String)} :
    scalarTexts ms = .ok texts ↔
      (∀ m ∈ ms, m.2.isContainer = false) ∧ ms.map (fun m => (m.1, m.2.ownText?)) = texts := by
  rw [scalarTexts_iff]
  constructor
  · intro h
    induction h with
    | nil => simp
    | cons hm _ ih =>
        obtain ⟨hname, htext⟩ := hm
        obtain ⟨hscalar, hown⟩ := scalarText_ok_iff.mp htext
        refine ⟨List.forall_mem_cons.mpr ⟨hscalar, ih.1⟩, ?_⟩
        rw [List.map_cons, ih.2, hown, ← hname]
  · rintro ⟨hall, rfl⟩
    rw [List.forall₂_map_right_iff]
    exact List.forall₂_same.mpr fun m hm => ⟨rfl, scalarText_ok_iff.mpr ⟨hall m hm, rfl⟩⟩

theorem lastScalars_iff :
    LastScalars entries ↔ ∀ m ∈ Pairs.distinct entries, m.2.isContainer = false :=
  ⟨fun h m hm => h m.1 m.2 (Pairs.mem_distinct_iff.mp hm),
    fun h name v hv => h (name, v) (Pairs.mem_distinct_iff.mpr hv)⟩

theorem readTable_object_iff {table : Pairs (Option String)} :
    readTable (.object entries) = .ok table ↔
      LastScalars entries ∧
        (Pairs.distinct entries).map (fun m => (m.1, m.2.ownText?)) = table := by
  rw [readTable, scalarTexts_ok_iff, lastScalars_iff]

theorem getD_ownText? (v : Json) : v.ownText?.getD "" = v.scalar?.getD "" := by
  cases v <;> rfl

theorem readLabels_object_iff :
    readLabels (.object entries) = .ok map ↔ LastScalars entries ∧ labelsOf entries = map := by
  have hlabels : ((Pairs.distinct entries).map fun m => (m.1, m.2.ownText?)).map
      (fun entry => (entry.1, entry.2.getD "")) = labelsOf entries := by
    rw [List.map_map]
    refine Pairs.map_distinct fun name v hv => ?_
    simp [lastText, hv, getD_ownText?]
  rw [readLabels]
  constructor
  · intro h
    obtain ⟨table, htable, rfl⟩ := map_ok h
    obtain ⟨hlast, rfl⟩ := readTable_object_iff.mp htable
    exact ⟨hlast, hlabels.symm⟩
  · rintro ⟨hlast, rfl⟩
    rw [readTable_object_iff.mpr ⟨hlast, rfl⟩, ← hlabels]
    rfl

theorem readAttributes_object_iff :
    readAttributes (.object entries) = .ok map ↔
      LastScalars entries ∧ attributesOf entries = map := by
  have hattributes : LastScalars entries →
      ((Pairs.distinct entries).map fun m => (m.1, m.2.ownText?)).filterMap
        (fun entry => entry.2.map fun text => (entry.1, text)) = attributesOf entries := by
    intro hlast
    rw [attributesOf, ← Pairs.keys_distinct, Pairs.keys, List.filter_map, List.map_map,
      List.filterMap_map, ← List.filterMap_eq_map, List.filterMap_filter]
    refine List.filterMap_congr fun m hm => ?_
    obtain ⟨name, v⟩ := m
    have hv := Pairs.mem_distinct_iff.mp hm
    have hscalar := hlast name v hv
    have hnull : lastNull entries name = v.isNull := by
      rw [lastNull, hv]
      rfl
    have htext : lastText entries name = v.scalar?.getD "" := by
      rw [lastText, hv]
      rfl
    simp only [Function.comp_apply, hnull, htext]
    cases v with
    | list items => cases hscalar
    | object ms => cases hscalar
    | bool b => cases b <;> rfl
    | _ => rfl
  rw [readAttributes]
  constructor
  · intro h
    obtain ⟨table, htable, rfl⟩ := map_ok h
    obtain ⟨hlast, rfl⟩ := readTable_object_iff.mp htable
    exact ⟨hlast, (hattributes hlast).symm⟩
  · rintro ⟨hlast, rfl⟩
    rw [readTable_object_iff.mpr ⟨hlast, rfl⟩, ← hattributes hlast]
    rfl

def LabelsAs (v : Json) (map : TextMap) : Prop :=
  ∃ entries, v = .object entries ∧ LastScalars entries ∧ labelsOf entries = map

def AttributesAs (v : Json) (map : TextMap) : Prop :=
  ∃ entries, v = .object entries ∧ LastScalars entries ∧ attributesOf entries = map

theorem readLabels_iff {v : Json} : readLabels v = .ok map ↔ v.LabelsAs map := by
  cases v with
  | object entries => simp [readLabels_object_iff, LabelsAs]
  | _ => exact iff_of_false (by rintro ⟨⟩) (by simp [LabelsAs])

theorem readAttributes_iff {v : Json} : readAttributes v = .ok map ↔ v.AttributesAs map := by
  cases v with
  | object entries => simp [readAttributes_object_iff, AttributesAs]
  | _ => exact iff_of_false (by rintro ⟨⟩) (by simp [AttributesAs])

end Json

namespace Member

theorem options_readsAs : options.ReadsAs (fun map => map) Json.LabelsAs :=
  Key.readsAs_self fun _ _ => Json.readLabels_iff

theorem extraAttributes_readsAs : extraAttributes.ReadsAs (fun map => map) Json.AttributesAs :=
  Key.readsAs_self fun _ _ => Json.readAttributes_iff

theorem givenAttributes_readsAs : givenAttributes.ReadsAs some Json.AttributesAs := by
  intro v given
  simp only [← Json.readAttributes_iff, givenAttributes]
  cases v.readAttributes <;> simp [Except.map]

end Member

namespace Field

def options? : Field → Option TextMap
  | .select f => some f.options
  | _ => none

def attributes? : Field → Option TextMap
  | .input _ f => f.extraAttributes
  | .textArea f => some f.extraAttributes
  | .file f => some f.extraAttributes
  | .select f => some f.extraAttributes
  | .switch f => some f.extraAttributes
  | _ => none

theorem allTake_options : AllTake ["options"] Json.LabelsAs options? := by
  intro typeName known hknown hnames
  unfold memberNames? at hknown
  split at hknown
  all_goals cases hknown
  all_goals first
    | exact absurd hnames (by decide)
    | exact takesMember rfl Member.options rfl (by decide) Member.options_readsAs
        fun _ _ h => congrArg some h

theorem allTake_attributes :
    AllTake ["extraAttributes", "extra_attr"] Json.AttributesAs attributes? := by
  intro typeName known hknown hnames
  unfold memberNames? at hknown
  split at hknown
  all_goals cases hknown
  all_goals first
    | exact absurd hnames (by decide)
    | exact takesMember rfl Member.givenAttributes rfl (by decide) Member.givenAttributes_readsAs
        fun _ _ h => h
    | exact takesMember rfl Member.extraAttributes rfl (by decide) Member.extraAttributes_readsAs
        fun _ _ h => congrArg some h

theorem tables_follow_last_values :
    (∀ entries map, Json.readLabels (.object entries) = .ok map ↔
      Json.LastScalars entries ∧ Json.labelsOf entries = map) ∧
    (∀ entries map, Json.readAttributes (.object entries) = .ok map ↔
      Json.LastScalars entries ∧ Json.attributesOf entries = map) ∧
    AllTakeInText ["options"] Json.LabelsAs options? ∧
    AllTakeInText ["extraAttributes", "extra_attr"] Json.AttributesAs attributes? ∧
    TakesMember Checkbox.decode (fun _ => True) ["extraAttributes", "extra_attr"]
      Json.AttributesAs (fun c => some c.extraAttributes) ∧
    TakesMember Choice.decode (fun _ => True) ["extraAttributes", "extra_attr"]
      Json.AttributesAs (fun c => some c.extraAttributes) := by
  refine ⟨fun _ _ => Json.readLabels_object_iff, fun _ _ => Json.readAttributes_object_iff,
    allTake_options.inText, allTake_attributes.inText, ?_, ?_⟩
  · exact Checkbox.takesMember Member.extraAttributes rfl Member.extraAttributes_readsAs
      fun _ _ h => congrArg some h
  · exact Choice.takesMember Member.extraAttributes rfl Member.extraAttributes_readsAs
      fun _ _ h => congrArg some h

def repeatedLabels : String :=
  "\x7b\"type\":\"select\"," ++
    "\"options\":\x7b\"b\":[],\"a\":\"x\",\"b\":null,\"a\":7\x7d\x7d"

theorem tables_follow_last_values_repeated :
    ∃ f, ofText repeatedLabels = .ok f ∧ options? f = some [("b", ""), ("a", "7")] := by
  obtain ⟨-, -, hall, -⟩ := tables_follow_last_values
  have hparse : Json.parse? repeatedLabels = some (.object ([("type", .string "select")] ++
      ("options", .object [("b", .list []), ("a", .string "x"), ("b", .null), ("a", .integer 7)])
        :: [])) := by
    rfl
  have hfree : ∀ n ∈ ["options"], n ∉
      Pairs.keys ([("type", Json.string "select")] ++ ([] : List (String × Json))) := by
    decide
  obtain ⟨haccepts, hholds⟩ :=
    hall "select" _ repeatedLabels "options" _ _ [] rfl (by decide) (by decide) rfl hfree hparse
  have hmap : Json.readLabels (.object
      [("b", .list []), ("a", .string "x"), ("b", .null), ("a", .integer 7)]) =
      .ok [("b", ""), ("a", "7")] := by
    rfl
  obtain ⟨f, hf⟩ := haccepts.mpr ⟨⟨_, Json.readLabels_iff.mp hmap⟩, _, rfl⟩
  obtain ⟨labels, hread, hpart⟩ := hholds f hf
  refine ⟨f, hf, ?_⟩
  have hsame := Json.readLabels_iff.mpr hread
  rw [hmap] at hsame
  rw [hpart, ← Except.ok.inj hsame]

end Field

end FormMarkup
