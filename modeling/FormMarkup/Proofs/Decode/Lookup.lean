import FormMarkup.Decode.Record
import FormMarkup.Proofs.Pairs

namespace FormMarkup

section Results

variable {ε α β : Type}

theorem map_ok {x : Except ε α} {f : α → β} {b : β} (h : x.map f = .ok b) :
    ∃ a, x = .ok a ∧ f a = b := by
  cases x with
  | error e => cases h
  | ok a => exact ⟨a, rfl, Except.ok.inj h⟩

theorem bind_ok {x : Except ε α} {f : α → Except ε β} {b : β} (h : x.bind f = .ok b) :
    ∃ a, x = .ok a ∧ f a = .ok b := by
  cases x with
  | error e => cases h
  | ok a => exact ⟨a, rfl, h⟩

theorem toOption_ok {x : Except ε α} {a : α} (h : x.toOption = some a) :
    x = .ok a := by
  cases x with
  | error e => cases h
  | ok b => exact congrArg Except.ok (Option.some.inj h)

end Results

namespace Slot

theorem membersFault?_cons {slots : List Slot} {seen : List String} {name : String} {v : Json}
    {ms : List (String × Json)} (h : membersFault? slots seen ((name, v) :: ms) = none) :
    (find? slots name = none ∧ membersFault? slots seen ms = none) ∨
      ∃ slot, find? slots name = some slot ∧ slot.name ∉ seen ∧ slot.fault? v = none ∧
        membersFault? slots (slot.name :: seen) ms = none := by
  rw [membersFault?] at h
  cases hs : find? slots name with
  | none =>
      rw [hs] at h
      exact Or.inl ⟨rfl, h⟩
  | some slot =>
      simp only [hs] at h
      split at h
      · cases h
      · next hseen =>
          cases hv : slot.fault? v with
          | none =>
              rw [hv] at h
              exact Or.inr ⟨slot, rfl, hseen, hv, h⟩
          | some e =>
              rw [hv] at h
              cases h

theorem fault?_of_membersFault? {slots : List Slot} {seen : List String}
    {ms : List (String × Json)} (h : membersFault? slots seen ms = none) {m : String × Json}
    (hm : m ∈ ms) {slot : Slot} (hs : find? slots m.1 = some slot) :
    slot.name ∉ seen ∧ slot.fault? m.2 = none := by
  induction ms generalizing seen with
  | nil => cases hm
  | cons n ms ih =>
      obtain ⟨name, v⟩ := n
      rcases membersFault?_cons h with ⟨hnone, hrest⟩ | ⟨found, hfound, hseen, hfault, hrest⟩
      · rcases List.mem_cons.mp hm with rfl | hm
        · rw [hnone] at hs
          cases hs
        · exact ih hrest hm
      · rcases List.mem_cons.mp hm with rfl | hm
        · rw [hfound] at hs
          obtain rfl := Option.some.inj hs
          exact ⟨hseen, hfault⟩
        · obtain ⟨hout, hv⟩ := ih hrest hm
          exact ⟨fun hin => hout (List.mem_cons_of_mem _ hin), hv⟩

def FilledOnce (slots : List Slot) (ms : List (String × Json)) : Prop :=
  ms.Pairwise fun a b => ∀ slot, find? slots a.1 = some slot → find? slots b.1 ≠ some slot

theorem filledOnce_of_membersFault? {slots : List Slot} {seen : List String}
    {ms : List (String × Json)} (h : membersFault? slots seen ms = none) :
    FilledOnce slots ms := by
  induction ms generalizing seen with
  | nil => exact .nil
  | cons n ms ih =>
      obtain ⟨name, v⟩ := n
      rcases membersFault?_cons h with ⟨hnone, hrest⟩ | ⟨found, hfound, _, _, hrest⟩
      · refine List.pairwise_cons.mpr ⟨fun m _ slot hs => ?_, ih hrest⟩
        rw [hnone] at hs
        cases hs
      · refine List.pairwise_cons.mpr ⟨fun m hm slot hs ht => ?_, ih hrest⟩
        rw [hfound] at hs
        obtain rfl := Option.some.inj hs
        exact (fault?_of_membersFault? hrest hm ht).1 (List.mem_cons_self ..)

theorem FilledOnce.perm {slots : List Slot} {ms ms' : List (String × Json)}
    (h : FilledOnce slots ms) (hp : ms.Perm ms') : FilledOnce slots ms' :=
  List.Pairwise.perm h hp fun hxy slot hy hx => hxy slot hx hy

end Slot

namespace Record

def Knows {α : Type} (record : Record) (key : Key α) : Prop :=
  ∀ name, key.slot.answers name = true → Slot.find? record.slots name = some key.slot

theorem knows_of_names {α : Type} {record : Record} {key : Key α}
    (h : Slot.find? record.slots key.name = some key.slot)
    (ho : ∀ other, key.otherName = some other → Slot.find? record.slots other = some key.slot) :
    record.Knows key := by
  intro name ha
  rcases Bool.or_eq_true_iff.mp ha with hn | hn
  · rw [← of_decide_eq_true hn]
    exact h
  · exact ho name (of_decide_eq_true hn)

theorem knows_of_two {α : Type} {record : Record} {key : Key α} {other : String}
    (hk : key.otherName = some other) (h : Slot.find? record.slots key.name = some key.slot)
    (ho : Slot.find? record.slots other = some key.slot) : record.Knows key := by
  refine knows_of_names h fun name hn => ?_
  rw [hk] at hn
  exact Option.some.inj hn ▸ ho

theorem knows_of_one {α : Type} {record : Record} {key : Key α} (hk : key.otherName = none)
    (h : Slot.find? record.slots key.name = some key.slot) : record.Knows key := by
  refine knows_of_names h fun name hn => ?_
  rw [hk] at hn
  cases hn

end Record

namespace Key

variable {α : Type}

theorem find?_perm {key : Key α} {record : Record} (hk : record.Knows key)
    {ms ms' : List (String × Json)} (h : Slot.FilledOnce record.slots ms) (hp : ms.Perm ms') :
    key.find? ms = key.find? ms' := by
  induction hp with
  | nil => rfl
  | cons m _ ih =>
      obtain ⟨name, v⟩ := m
      rw [find?, find?, ih (List.pairwise_cons.mp h).2]
  | swap m n ms =>
      obtain ⟨name, v⟩ := m
      obtain ⟨other, w⟩ := n
      have hfirst := (List.pairwise_cons.mp h).1 (name, v) (List.mem_cons_self ..)
      by_cases hn : key.slot.answers name = true
      · have ho : ¬key.slot.answers other = true := fun ho => hfirst _ (hk _ ho) (hk _ hn)
        rw [find?, find?, find?, find?, if_pos hn, if_neg ho, if_pos hn]
      · rw [find?, find?, find?, find?, if_neg hn, if_neg hn]
  | trans hp _ ih ih' => exact (ih h).trans (ih' (h.perm hp))

theorem find?_normaliseMembers (key : Key α) (ms : List (String × Json)) :
    key.find? (Json.normaliseMembers ms) = (key.find? ms).map Json.normalise := by
  induction ms with
  | nil => rfl
  | cons m ms ih =>
      obtain ⟨name, v⟩ := m
      rw [Json.normaliseMembers, find?, find?]
      split
      · rfl
      · exact ih

theorem mem_of_find? {key : Key α} {ms : List (String × Json)} {v : Json}
    (h : key.find? ms = some v) : ∃ name, (name, v) ∈ ms ∧ key.slot.answers name = true := by
  induction ms with
  | nil => cases h
  | cons m ms ih =>
      obtain ⟨name, w⟩ := m
      rw [find?] at h
      split at h
      · next ha =>
          obtain rfl := Option.some.inj h
          exact ⟨name, List.mem_cons_self .., ha⟩
      · obtain ⟨other, hm, ha⟩ := ih h
        exact ⟨other, List.mem_cons_of_mem _ hm, ha⟩

theorem fault?_eq_none {key : Key α} {v : Json} (h : key.slot.fault? v = none) :
    ∃ a, key.read v = .ok a := by
  unfold slot at h
  cases hr : key.read v with
  | ok a => exact ⟨a, rfl⟩
  | error e => simp [hr] at h

theorem get_of_perm_normalise {key : Key α} {record : Record} (hk : record.Knows key)
    {ms ms' : List (String × Json)} (hp : ms'.Perm (Json.normaliseMembers ms))
    (hf : Slot.membersFault? record.slots [] ms' = none) :
    (key.find? ms = none ∧ key.get ms' = key.fallback) ∨
      ∃ v, key.find? ms = some v ∧ key.read v.normalise = .ok (key.get ms') := by
  have hfind : key.find? ms' = (key.find? ms).map Json.normalise := by
    rw [find?_perm hk (Slot.filledOnce_of_membersFault? hf) hp, find?_normaliseMembers]
  cases hv : key.find? ms with
  | none =>
      left
      rw [hv] at hfind
      exact ⟨rfl, by rw [get, hfind]; rfl⟩
  | some v =>
      right
      rw [hv] at hfind
      obtain ⟨name, hm, ha⟩ := mem_of_find? hfind
      obtain ⟨a, hr⟩ := fault?_eq_none (Slot.fault?_of_membersFault? hf hm (hk name ha)).2
      refine ⟨v, rfl, ?_⟩
      rw [get, hfind, Option.map_some]
      simp only [hr]

end Key

end FormMarkup
