import FormMarkup.Proofs.Decode.KnownMembers
import FormMarkup.Proofs.Decode.SingleNames

namespace FormMarkup

variable {α : Type} {key : Key α} {name : String} {v : Json} {front back : List (String × Json)}

theorem Slot.eq_of_name_eq {slots : List Slot} (hd : (slots.flatMap spellings).Nodup)
    {slot other : Slot} (hs : slot ∈ slots) (ho : other ∈ slots) (h : slot.name = other.name) :
    slot = other := by
  have hslot : slot.answers slot.name = true := answers_iff.mpr (List.mem_cons_self ..)
  have hother : other.answers slot.name = true := answers_iff.mpr (h ▸ List.mem_cons_self ..)
  exact Option.some.inj ((find?_of_mem hd hs hslot).symm.trans (find?_of_mem hd ho hother))

namespace Key

def Free (key : Key α) (ms : List (String × Json)) : Prop :=
  ∀ n ∈ Pairs.keys ms, key.slot.answers n = false

theorem free_iff {ms : List (String × Json)} :
    key.Free ms ↔ ∀ n ∈ key.slot.spellings, n ∉ Pairs.keys ms := by
  constructor
  · intro h n hn hm
    have ha := h n hm
    rw [Slot.answers_iff.mpr hn] at ha
    cases ha
  · intro h n hm
    rw [Bool.eq_false_iff]
    exact fun ha => h n (Slot.answers_iff.mp ha) hm

theorem find?_free {ms : List (String × Json)} (h : key.Free ms) : key.find? ms = none := by
  cases hv : key.find? ms with
  | none => rfl
  | some v =>
      obtain ⟨n, hm, ha⟩ := mem_of_find? hv
      rw [h n (List.mem_map_of_mem hm)] at ha
      cases ha

theorem get_placed (ha : key.slot.answers name = true) (hf : key.Free (front ++ back)) {a : α}
    (hr : key.read v = .ok a) : key.get (front ++ (name, v) :: back) = a := by
  have hfront : key.Free front := fun n hn => hf n (by
    rw [Pairs.keys, List.map_append]
    exact List.mem_append_left _ hn)
  rw [get, find?_append, find?_free hfront, Option.none_or, find?, if_pos ha]
  simp only [hr]

theorem fault?_eq_none_iff : key.slot.fault? v = none ↔ ∃ a, key.read v = .ok a := by
  refine ⟨fault?_eq_none, ?_⟩
  rintro ⟨a, ha⟩
  simp only [slot, ha]

end Key

namespace Record

variable {record : Record}

theorem membersError?_placed (hd : record.DistinctNames) (hk : key.slot ∈ record.slots)
    (ha : key.slot.answers name = true) (hf : key.Free (front ++ back))
    (hn : name ∉ record.needed) :
    record.membersError? (front ++ (name, v) :: back) = none ↔
      (∃ a, key.read v = .ok a) ∧ record.membersError? (front ++ back) = none := by
  have hfind : Slot.find? record.slots name = some key.slot := Slot.find?_of_mem hd hk ha
  have hfilled : Slot.filled record.slots (front ++ (name, v) :: back) =
      Slot.filled record.slots front ++ key.slot.name :: Slot.filled record.slots back := by
    simp [Slot.filled, hfind]
  -- Another member that fills the slot would answer for the key.
  have hnew : key.slot.name ∉ Slot.filled record.slots front ++ Slot.filled record.slots back := by
    intro hm
    rw [Slot.filled, Slot.filled, ← List.filterMap_append, List.mem_filterMap] at hm
    obtain ⟨m, hm, hslot⟩ := hm
    obtain ⟨slot, hslot, hname⟩ := Option.map_eq_some_iff.mp hslot
    obtain ⟨hmem, hanswers⟩ := Slot.mem_of_find? hslot
    obtain rfl := Slot.eq_of_name_eq hd hmem hk hname
    rw [hf m.1 (List.mem_map_of_mem hm)] at hanswers
    cases hanswers
  have haccepts : Slot.Accepts record.slots (front ++ (name, v) :: back) ↔
      (∃ a, key.read v = .ok a) ∧ Slot.Accepts record.slots (front ++ back) := by
    simp only [Slot.Accepts, List.forall_mem_append, List.forall_mem_cons, hfind,
      Option.some.injEq, forall_eq', Key.fault?_eq_none_iff]
    tauto
  have hneeded : (∀ n ∈ record.needed, n ∈ Pairs.keys (front ++ (name, v) :: back)) ↔
      ∀ n ∈ record.needed, n ∈ Pairs.keys (front ++ back) := by
    refine forall₂_congr fun n hm => ?_
    have hne : n ≠ name := fun heq => hn (heq ▸ hm)
    simp [Pairs.keys, hne]
  have hfilled' : Slot.filled record.slots (front ++ back) =
      Slot.filled record.slots front ++ Slot.filled record.slots back := by
    simp [Slot.filled]
  rw [membersError?_eq_none_iff, membersError?_eq_none_iff, Slot.membersFault?_eq_none_iff,
    Slot.membersFault?_eq_none_iff, hfilled, hfilled', List.nodup_middle, List.nodup_cons,
    haccepts, hneeded]
  simp only [hnew, not_false_eq_true, true_and, List.not_mem_nil, implies_true]
  tauto

end Record

end FormMarkup
