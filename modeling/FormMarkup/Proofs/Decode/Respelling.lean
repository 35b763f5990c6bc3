import FormMarkup.Proofs.Decode.Agreement
import FormMarkup.Proofs.Decode.KnownMembers
import Mathlib.Data.List.Pairwise

namespace FormMarkup

def renamed (a b : String) (m : String × Json) : String × Json :=
  if m.1 = a then (b, m.2) else m

theorem renamed_value (a b : String) (m : String × Json) : (renamed a b m).2 = m.2 := by
  unfold renamed
  split <;> rfl

theorem nodup_renamed {a b : String} {ms : List (String × Json)} (hn : (Pairs.keys ms).Nodup)
    (hb : b ∉ Pairs.keys ms) : (Pairs.keys (ms.map (renamed a b))).Nodup := by
  have hkeys : Pairs.keys (ms.map (renamed a b)) =
      (Pairs.keys ms).map fun n => if n = a then b else n := by
    rw [Pairs.keys, Pairs.keys, List.map_map, List.map_map]
    refine List.map_congr_left fun m _ => ?_
    rw [Function.comp, Function.comp, renamed]
    split <;> rfl
  rw [hkeys]
  refine hn.map_on fun x hx y hy hxy => ?_
  split at hxy <;> split at hxy
  · next hxa hya => exact hxa.trans hya.symm
  · exact absurd (hxy ▸ hy) hb
  · exact absurd (hxy ▸ hx) hb
  · exact hxy

namespace Slot

variable {slots : List Slot} {ms ms' : List (String × Json)}

theorem accepts_perm (hp : ms'.Perm ms) : Accepts slots ms' ↔ Accepts slots ms :=
  ⟨fun h m hm => h m (hp.mem_iff.mpr hm), fun h m hm => h m (hp.mem_iff.mp hm)⟩

theorem membersFault?_perm (hp : ms'.Perm ms) :
    membersFault? slots [] ms' = none ↔ membersFault? slots [] ms = none := by
  simp [membersFault?_eq_none_iff, (filled_perm hp).nodup_iff, accepts_perm hp]

theorem membersFault?_map {f : String × Json → String × Json}
    (hfind : ∀ m, find? slots (f m).1 = find? slots m.1) (hvalue : ∀ m, (f m).2 = m.2)
    (seen : List String) : membersFault? slots seen (ms.map f) = membersFault? slots seen ms := by
  induction ms generalizing seen with
  | nil => rfl
  | cons m ms ih =>
      have hm := hfind m
      have hv := hvalue m
      obtain ⟨n, v⟩ := m
      rw [List.map_cons]
      generalize f (n, v) = fm at hm hv
      obtain ⟨n', v'⟩ := fm
      simp only at hm hv
      rw [membersFault?, membersFault?, hm, hv]
      simp only [ih]

end Slot

theorem Key.find?_map {α : Type} {key : Key α} {f : String × Json → String × Json}
    (hname : ∀ m, key.slot.answers (f m).1 = key.slot.answers m.1) (hvalue : ∀ m, (f m).2 = m.2)
    (ms : List (String × Json)) : key.find? (ms.map f) = key.find? ms := by
  induction ms with
  | nil => rfl
  | cons m ms ih =>
      have hm := hname m
      have hv := hvalue m
      obtain ⟨n, v⟩ := m
      rw [List.map_cons]
      generalize f (n, v) = fm at hm hv
      obtain ⟨n', v'⟩ := fm
      simp only at hm hv
      rw [find?, find?, hm, hv, ih]

namespace Record

variable {record : Record} {ms ms' : List (String × Json)}

theorem answers_iff_find? {α : Type} {key : Key α} (hd : record.DistinctNames)
    (hm : key.slot ∈ record.slots) {name : String} :
    key.slot.answers name = true ↔ Slot.find? record.slots name = some key.slot :=
  ⟨fun h => Slot.find?_of_mem hd hm h, fun h => (Slot.mem_of_find? h).2⟩

structure SameReading (record : Record) (ms ms' : List (String × Json)) : Prop where
  taken : record.membersError? ms' = none ↔ record.membersError? ms = none
  gets : record.membersError? ms = none → record.SameGets ms ms'
  passthrough : record.passthrough ms' = record.passthrough ms

theorem passthrough_perm (hn : (Pairs.keys ms).Nodup) (hp : ms'.Perm ms) :
    record.passthrough ms' = record.passthrough ms := by
  have hn' : (Pairs.keys ms').Nodup := (hp.map Prod.fst).nodup_iff.mpr hn
  refine Pairs.eq_of_find? (Pairs.increasing_sorted _) (Pairs.increasing_sorted _) fun name => ?_
  rw [passthrough, passthrough, unknownMembers_eq, unknownMembers_eq, Json.find?_normalised,
    Json.find?_normalised, Pairs.last?_filter fun n => !record.recognises n,
    Pairs.last?_filter fun n => !record.recognises n, Pairs.last?_of_nodup hn',
    Pairs.last?_of_nodup hn, Pairs.find?_perm hn' hp]

theorem sameReading_perm (hd : record.DistinctNames) (hneeded : record.needed = [])
    (hn : (Pairs.keys ms).Nodup) (hp : ms'.Perm ms) : record.SameReading ms ms' := by
  have htaken : record.membersError? ms' = none ↔ record.membersError? ms = none := by
    simp [membersError?_eq_none_iff, hneeded, Slot.membersFault?_perm hp]
  refine ⟨htaken, fun h => ?_, passthrough_perm hn hp⟩
  intro α key hm
  have hclean := membersFault?_of_membersError? (htaken.mpr h)
  rw [Key.get, Key.get, Key.find?_perm (knows_of_mem hd hm)
    (Slot.filledOnce_of_membersFault? hclean) hp]

section Renaming

variable {a b : String} (hsame : Slot.find? record.slots b = Slot.find? record.slots a)
include hsame

theorem find?_renamed (m : String × Json) :
    Slot.find? record.slots (renamed a b m).1 = Slot.find? record.slots m.1 := by
  unfold renamed
  split
  · next h => rw [hsame, h]
  · rfl

theorem membersError?_renamed (hneeded : record.needed = []) (ms : List (String × Json)) :
    record.membersError? (ms.map (renamed a b)) = record.membersError? ms := by
  have hmissing : ∀ xs : List (String × Json), record.missing? xs = none := by
    intro xs
    rw [missing?, hneeded]
    rfl
  rw [membersError?, membersError?, hmissing, hmissing,
    Slot.membersFault?_map (find?_renamed hsame) (renamed_value a b)]

theorem sameGets_renamed (hd : record.DistinctNames) (ms : List (String × Json)) :
    record.SameGets ms (ms.map (renamed a b)) := by
  intro α key hm
  have hname : ∀ m, key.slot.answers (renamed a b m).1 = key.slot.answers m.1 := by
    intro m
    rw [Bool.eq_iff_iff, answers_iff_find? hd hm, answers_iff_find? hd hm, find?_renamed hsame]
  rw [Key.get, Key.get, Key.find?_map hname (renamed_value a b)]

theorem passthrough_renamed (ha : record.recognises a = true) (ms : List (String × Json)) :
    record.passthrough (ms.map (renamed a b)) = record.passthrough ms := by
  have hfilter : (ms.map (renamed a b)).filter (fun m => !record.recognises m.1) =
      ms.filter fun m => !record.recognises m.1 := by
    induction ms with
    | nil => rfl
    | cons m ms ih =>
        have hm : record.recognises (renamed a b m).1 = record.recognises m.1 := by
          rw [recognises, find?_renamed hsame, recognises]
        rw [List.map_cons, List.filter_cons, List.filter_cons, hm, ih]
        split
        · next hu =>
            have hne : m.1 ≠ a := fun h => by simp [h, ha] at hu
            rw [renamed, if_neg hne]
        · rfl
  rw [passthrough, passthrough, unknownMembers_eq, unknownMembers_eq, hfilter]

theorem sameReading_respelled (hd : record.DistinctNames) (hneeded : record.needed = [])
    (ha : record.recognises a = true) (hn : (Pairs.keys ms).Nodup) (hb : b ∉ Pairs.keys ms)
    (hp : ms'.Perm (ms.map (renamed a b))) : record.SameReading ms ms' := by
  have hperm := sameReading_perm hd hneeded (nodup_renamed hn hb) hp
  have herror := membersError?_renamed hsame hneeded ms
  refine ⟨herror ▸ hperm.taken, fun h => ?_,
    hperm.passthrough.trans (passthrough_renamed hsame ha ms)⟩
  intro α key hm
  exact (hperm.gets (herror.trans h) key hm).trans (sameGets_renamed hsame hd ms key hm)

end Renaming

theorem error_of_both {slot : Slot} {a b : String} (hne : a ≠ b)
    (ha : Slot.find? record.slots a = some slot) (hb : Slot.find? record.slots b = some slot)
    (hma : a ∈ Pairs.keys ms) (hmb : b ∈ Pairs.keys ms) :
    ∃ e, record.membersError? ms = some e := by
  cases he : record.membersError? ms with
  | some e => exact ⟨e, rfl⟩
  | none =>
      have honce := Slot.filledOnce_of_membersFault? (membersFault?_of_membersError? he)
      obtain ⟨m, hm, rfl⟩ := List.mem_map.mp hma
      obtain ⟨n, hn, rfl⟩ := List.mem_map.mp hmb
      have hsymm : Std.Symm fun x y : String × Json =>
          ∀ slot, Slot.find? record.slots x.1 = some slot →
            Slot.find? record.slots y.1 ≠ some slot :=
        ⟨fun x y h slot hy hx => h slot hx hy⟩
      have hmn : m ≠ n := fun h => hne (congrArg Prod.fst h)
      exact absurd hb (List.Pairwise.forall honce hm hn hmn slot ha)

end Record

end FormMarkup
