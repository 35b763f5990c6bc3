import FormMarkup.Proofs.Decode.Lookup

namespace FormMarkup

structure Reordered (found written : List String) : Prop where
  perm : found.Perm written
  increasing : Increasing found
  kept : found = written ↔ Increasing written

theorem Reordered.of_perm {found written : List String} (hp : found.Perm written)
    (hi : Increasing found) : Reordered found written :=
  ⟨hp, hi, fun h => h ▸ hi, fun h => hi.eq_of_perm h hp⟩

theorem Reordered.nil : Reordered [] [] :=
  .of_perm .nil .nil

namespace Json

mutual

def distinctKeys : Json → Bool
  | .list items => distinctItems items
  | .object members => decide (Pairs.keys members).Nodup && distinctMembers members
  | _ => true

def distinctItems : List Json → Bool
  | [] => true
  | item :: items => distinctKeys item && distinctItems items

def distinctMembers : List (String × Json) → Bool
  | [] => true
  | (_, value) :: members => distinctKeys value && distinctMembers members

end

theorem distinctKeys_of_mem_list {items : List Json} (h : distinctKeys (.list items) = true) :
    ∀ v ∈ items, v.distinctKeys = true := by
  rw [distinctKeys] at h
  induction items with
  | nil => exact fun v hv => (List.not_mem_nil hv).elim
  | cons item items ih =>
      rw [distinctItems, Bool.and_eq_true] at h
      exact List.forall_mem_cons.mpr ⟨h.1, ih h.2⟩

theorem distinctKeys_of_distinctMembers {members : List (String × Json)}
    (h : distinctMembers members = true) : ∀ m ∈ members, m.2.distinctKeys = true := by
  induction members with
  | nil => exact fun m hm => (List.not_mem_nil hm).elim
  | cons m members ih =>
      rw [distinctMembers, Bool.and_eq_true] at h
      exact List.forall_mem_cons.mpr ⟨h.1, ih h.2⟩

theorem distinctKeys_of_mem_object {members : List (String × Json)}
    (h : distinctKeys (.object members) = true) :
    (Pairs.keys members).Nodup ∧ ∀ m ∈ members, m.2.distinctKeys = true := by
  rw [distinctKeys, Bool.and_eq_true, decide_eq_true_eq] at h
  exact ⟨h.1, distinctKeys_of_distinctMembers h.2⟩

theorem distinctKeys_object {members : List (String × Json)} (hn : (Pairs.keys members).Nodup)
    (h : ∀ m ∈ members, m.2.distinctKeys = true) : distinctKeys (.object members) = true := by
  rw [distinctKeys, decide_eq_true hn, Bool.true_and]
  clear hn
  induction members with
  | nil => rfl
  | cons m members ih =>
      obtain ⟨hm, hmembers⟩ := List.forall_mem_cons.mp h
      rw [distinctMembers, hm, ih hmembers, Bool.true_and]

def isNull : Json → Bool
  | .null => true
  | _ => false

def keys : Json → List String
  | .object members => Pairs.keys members
  | _ => []

def valuedKeys : Json → List String
  | .object members => Pairs.keys (members.filter fun m => !m.2.isNull)
  | _ => []

theorem keys_normaliseMembers (members : List (String × Json)) :
    Pairs.keys (normaliseMembers members) = Pairs.keys members := by
  rw [normaliseMembers_eq_map, Pairs.keys, List.map_map]
  rfl

theorem isNull_normalise (v : Json) : v.normalise.isNull = v.isNull := by
  cases v <;> rfl

theorem valuedKeys_normaliseMembers (members : List (String × Json)) :
    valuedKeys (.object (normaliseMembers members)) = valuedKeys (.object members) := by
  rw [valuedKeys, valuedKeys, normaliseMembers_eq_map, List.filter_map, Pairs.keys, List.map_map]
  simp only [Function.comp_def, isNull_normalise]
  rfl

theorem sorted_normaliseMembers_perm {members : List (String × Json)}
    (h : (Pairs.keys members).Nodup) :
    (Pairs.sorted (normaliseMembers members)).Perm (normaliseMembers members) :=
  Pairs.sorted_perm (by rwa [keys_normaliseMembers])

theorem isSome_scalarText {v : Json} {text : Option String} (h : v.scalarText = .ok text) :
    text.isSome = !v.isNull := by
  cases v with
  | bool b => cases b <;> cases h <;> rfl
  | list items => cases h
  | object members => cases h
  | _ => cases h; rfl

theorem scalarTexts_ok {members : List (String × Json)} {texts : Pairs (Option String)}
    (h : scalarTexts members = .ok texts) :
    Pairs.keys texts = Pairs.keys members ∧
      Pairs.keys (texts.filter fun t => t.2.isSome) = valuedKeys (.object members) := by
  induction members generalizing texts with
  | nil =>
      cases h
      exact ⟨rfl, rfl⟩
  | cons m members ih =>
      obtain ⟨name, v⟩ := m
      rw [scalarTexts] at h
      cases hv : v.scalarText with
      | error e => simp [hv] at h
      | ok text =>
          cases hrest : scalarTexts members with
          | error e => simp [hv, hrest] at h
          | ok rest =>
              simp only [hv, hrest, Except.ok.injEq] at h
              subst h
              obtain ⟨hkeys, hvalued⟩ := ih hrest
              have hnull := isSome_scalarText hv
              rw [valuedKeys] at hvalued ⊢
              refine ⟨congrArg (name :: ·) hkeys, ?_⟩
              cases hn : v.isNull <;> simp [hn] at hnull <;>
                simpa [Pairs.keys, hnull, hn] using hvalued

theorem readTable_normalise {v : Json} (hd : v.distinctKeys = true)
    {table : Pairs (Option String)} (h : v.normalise.readTable = .ok table) :
    Reordered (Pairs.keys table) v.keys ∧
      Reordered (Pairs.keys (table.filter fun t => t.2.isSome)) v.valuedKeys := by
  cases v with
  | object members =>
      have hnodup := (distinctKeys_of_mem_object hd).1
      have hperm := sorted_normaliseMembers_perm hnodup
      have hincreasing := Pairs.increasing_sorted (normaliseMembers members)
      rw [normalise, readTable, Pairs.distinct_of_nodup hincreasing.nodup] at h
      obtain ⟨hkeys, hvalued⟩ := scalarTexts_ok h
      have hp : (Pairs.keys table).Perm (Pairs.keys members) := by
        rw [hkeys, ← keys_normaliseMembers members]
        exact hperm.map Prod.fst
      have hv : (Pairs.keys (table.filter fun t => t.2.isSome)).Perm
          (valuedKeys (.object members)) := by
        rw [hvalued, ← valuedKeys_normaliseMembers members]
        exact (hperm.filter _).map Prod.fst
      refine ⟨.of_perm hp ?_, .of_perm hv ?_⟩
      · rw [hkeys]
        exact hincreasing
      · rw [hvalued]
        exact hincreasing.sublist (List.filter_sublist.map Prod.fst)
  | _ => cases h

theorem readLabels_normalise {v : Json} {labels : TextMap} (hd : v.distinctKeys = true)
    (h : v.normalise.readLabels = .ok labels) : Reordered (Pairs.keys labels) v.keys := by
  obtain ⟨table, htable, rfl⟩ := map_ok h
  have hkeys := (readTable_normalise hd htable).1
  rwa [Pairs.keys, List.map_map]

theorem keys_texts (table : Pairs (Option String)) :
    Pairs.keys (table.filterMap fun entry => entry.2.map fun text => (entry.1, text)) =
      Pairs.keys (table.filter fun entry => entry.2.isSome) := by
  induction table with
  | nil => rfl
  | cons entry table ih =>
      obtain ⟨name, text⟩ := entry
      cases text with
      | none => exact ih
      | some text => exact congrArg (name :: ·) ih

theorem readAttributes_normalise {v : Json} {attributes : TextMap} (hd : v.distinctKeys = true)
    (h : v.normalise.readAttributes = .ok attributes) :
    Reordered (Pairs.keys attributes) v.valuedKeys := by
  obtain ⟨table, htable, rfl⟩ := map_ok h
  have hkeys := (readTable_normalise hd htable).2
  rwa [keys_texts]

end Json

end FormMarkup
