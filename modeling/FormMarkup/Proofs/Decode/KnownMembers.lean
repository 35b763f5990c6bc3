import FormMarkup.Proofs.Decode.Rereading
import Mathlib.Data.List.Find

namespace FormMarkup

open FormMarkup.Json (normaliseMembers)

namespace Record

variable {record : Record} {ms ms' : List (String × Json)}

def NeedsKnown (record : Record) : Prop :=
  ∀ name ∈ record.needed, record.recognises name = true

instance (record : Record) : Decidable record.NeedsKnown :=
  inferInstanceAs (Decidable (∀ name ∈ record.needed, record.recognises name = true))

def SameGets (record : Record) (ms ms' : List (String × Json)) : Prop :=
  ∀ {α : Type} (key : Key α), key.slot ∈ record.slots → key.get ms' = key.get ms

theorem recognises_iff {name : String} :
    record.recognises name = true ↔ name ∈ record.slots.flatMap Slot.spellings := by
  rw [recognises, Slot.find?, List.find?_isSome, List.mem_flatMap]
  simp only [Slot.answers_iff]

theorem any_known {name : String} (h : record.recognises name = true)
    (ms : List (String × Json)) :
    ((record.known ms).any fun m => m.1 = name) = ms.any fun m => m.1 = name := by
  induction ms with
  | nil => rfl
  | cons m ms ih =>
      obtain ⟨n, v⟩ := m
      by_cases hn : n = name
      · simp [known, hn, h]
      · rw [List.any_cons, ← ih, known, List.filter_cons]
        split <;> simp [known, hn]

theorem missing?_known (hn : record.NeedsKnown) (ms : List (String × Json)) :
    record.missing? (record.known ms) = record.missing? ms :=
  List.find?_congr fun name hm => by rw [any_known (hn name hm)]

theorem membersError?_known (hn : record.NeedsKnown) (ms : List (String × Json)) :
    record.membersError? (record.known ms) = record.membersError? ms := by
  rw [membersError?, membersError?, membersFault?_known, missing?_known hn]

theorem membersError?_congr (hn : record.NeedsKnown) (h : record.known ms' = record.known ms) :
    record.membersError? ms' = record.membersError? ms := by
  rw [← membersError?_known hn, h, membersError?_known hn]

theorem sameGets_of_known (hd : record.DistinctNames) (h : record.known ms' = record.known ms) :
    record.SameGets ms ms' := by
  intro α key hm
  have hk := knows_of_mem hd hm
  rw [← get_known hk ms', h, get_known hk]

theorem known_putSorted {name : String} (h : record.recognises name = false) (v : Json)
    (ms : List (String × Json)) : record.known (Pairs.putSorted name v ms) = record.known ms :=
  Pairs.filter_putSorted h v ms

end Record

theorem Json.filter_putSorted_tree {p : String → Bool} {name : String} (hp : p name = true)
    (v : Json) {ms : List (String × Json)} (h : name ∉ Pairs.keys ms) :
    Pairs.sorted (normaliseMembers ((Pairs.putSorted name v ms).filter fun m => p m.1)) =
      Pairs.putSorted name v.normalise
        (Pairs.sorted (normaliseMembers (ms.filter fun m => p m.1))) := by
  refine Pairs.eq_of_find? (Pairs.increasing_sorted _)
    (Pairs.increasing_putSorted _ _ (Pairs.increasing_sorted _)) fun other => ?_
  rw [find?_normalised, Pairs.find?_putSorted, find?_normalised, Pairs.last?_filter,
    Pairs.last?_filter, Pairs.last?_putSorted other v h]
  by_cases ho : name = other
  · simp [← ho, hp]
  · simp [ho]

section Replacement

variable {name : String} {v w : Json} {front back : List (String × Json)}

namespace Slot

theorem membersFault?_replace {slots : List Slot}
    (h : ∀ slot, find? slots name = some slot → slot.fault? v = slot.fault? w)
    (seen : List String) :
    membersFault? slots seen (front ++ (name, v) :: back) =
      membersFault? slots seen (front ++ (name, w) :: back) := by
  induction front generalizing seen with
  | nil =>
      rw [List.nil_append, List.nil_append, membersFault?, membersFault?]
      cases hs : find? slots name with
      | none => rfl
      | some slot => simp only [h slot hs]
  | cons m front ih =>
      obtain ⟨n, x⟩ := m
      rw [List.cons_append, List.cons_append, membersFault?, membersFault?]
      cases find? slots n with
      | none => exact ih seen
      | some slot => simp only [ih]

end Slot

namespace Key

variable {α : Type} {key : Key α}

theorem find?_append (xs ys : List (String × Json)) :
    key.find? (xs ++ ys) = (key.find? xs).or (key.find? ys) := by
  induction xs with
  | nil => rfl
  | cons x xs ih =>
      obtain ⟨n, x⟩ := x
      rw [List.cons_append, find?, find?, ih]
      split <;> rfl

theorem get_replace (h : key.slot.answers name = true → key.read v = key.read w) :
    key.get (front ++ (name, v) :: back) = key.get (front ++ (name, w) :: back) := by
  rw [get, get, find?_append, find?_append]
  cases key.find? front with
  | some x => rfl
  | none =>
      rw [Option.none_or, Option.none_or, find?, find?]
      cases ha : key.slot.answers name with
      | false => rfl
      | true => simp only [if_true, h ha]

theorem fault?_congr (h : key.read v = key.read w) : key.slot.fault? v = key.slot.fault? w := by
  simp only [slot, h]

end Key

namespace Record

variable {record : Record}

theorem membersError?_replace
    (h : ∀ slot, Slot.find? record.slots name = some slot → slot.fault? v = slot.fault? w) :
    record.membersError? (front ++ (name, v) :: back) =
      record.membersError? (front ++ (name, w) :: back) := by
  have hmissing : record.missing? (front ++ (name, v) :: back) =
      record.missing? (front ++ (name, w) :: back) :=
    List.find?_congr fun other _ => by simp
  rw [membersError?, membersError?, Slot.membersFault?_replace h, hmissing]

theorem passthrough_replace (h : record.recognises name = true) :
    record.passthrough (front ++ (name, v) :: back) =
      record.passthrough (front ++ (name, w) :: back) := by
  simp [passthrough, unknownMembers_eq, h]

theorem membersError?_of_fault {slot : Slot} {e : DecodeError}
    (hs : Slot.find? record.slots name = some slot) (he : slot.fault? v = some e) :
    ∃ d, record.membersError? (front ++ (name, v) :: back) = some d := by
  cases hm : record.membersError? (front ++ (name, v) :: back) with
  | some d => exact ⟨d, rfl⟩
  | none =>
      have hfault := (Slot.fault?_of_membersFault? (membersFault?_of_membersError? hm)
        (List.mem_append_right _ (List.mem_cons_self ..)) hs).2
      rw [he] at hfault
      cases hfault

end Record

end Replacement

namespace Json

theorem readEach_replace {α : Type} {read : Json → Except DecodeError α} {v w : Json}
    (h : read v = read w) (xs ys : List Json) :
    readEach read (xs ++ v :: ys) = readEach read (xs ++ w :: ys) := by
  induction xs with
  | nil => rw [List.nil_append, List.nil_append, readEach, readEach, h]
  | cons x xs ih => rw [List.cons_append, List.cons_append, readEach, readEach, ih]

theorem readEach_error {α : Type} {read : Json → Except DecodeError α} {v : Json}
    {e : DecodeError} (h : read v = .error e) (xs ys : List Json) :
    ∃ d, readEach read (xs ++ v :: ys) = .error d := by
  induction xs with
  | nil =>
      refine ⟨e, ?_⟩
      rw [List.nil_append, readEach, h]
  | cons x xs ih =>
      obtain ⟨d, hd⟩ := ih
      rw [List.cons_append, readEach, hd]
      cases read x with
      | error c => exact ⟨c, rfl⟩
      | ok a => exact ⟨d, rfl⟩

end Json

end FormMarkup
