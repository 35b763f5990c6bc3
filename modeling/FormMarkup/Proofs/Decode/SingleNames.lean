import FormMarkup.Proofs.Decode.Rereading

namespace FormMarkup

namespace Slot

variable {slots : List Slot} {ms : List (String × Json)}

def SingleNames (slots : List Slot) : Prop :=
  ∀ slot ∈ slots, slot.otherName = none

instance (slots : List Slot) : Decidable (SingleNames slots) :=
  inferInstanceAs (Decidable (∀ slot ∈ slots, slot.otherName = none))

theorem answers_single {slot : Slot} (h : slot.otherName = none) {name : String} :
    slot.answers name = true ↔ slot.name = name := by
  simp [answers, h]

theorem filled_single (h : SingleNames slots) (ms : List (String × Json)) :
    filled slots ms = (Pairs.keys ms).filter fun name => (find? slots name).isSome := by
  have hname : ∀ name, (find? slots name).map Slot.name =
      if (find? slots name).isSome then some name else none := by
    intro name
    cases hfind : find? slots name with
    | none => rfl
    | some slot =>
        obtain ⟨hmem, hanswers⟩ := mem_of_find? hfind
        exact congrArg some ((answers_single (h slot hmem)).mp hanswers)
  induction ms with
  | nil => rfl
  | cons m ms ih =>
      rw [Pairs.keys, List.map_cons, ← Pairs.keys, List.filter_cons, ← ih, filled,
        List.filterMap_cons, hname, ← filled]
      by_cases hfind : (find? slots m.1).isSome = true
      · rw [if_pos hfind, if_pos hfind]
      · rw [if_neg hfind, if_neg hfind]

theorem membersFault?_single (hs : SingleNames slots) (hd : (slots.flatMap spellings).Nodup)
    (hn : (Pairs.keys ms).Nodup) :
    membersFault? slots [] ms = none ↔
      ∀ slot ∈ slots, ∀ v, Pairs.find? slot.name ms = some v → slot.fault? v = none := by
  have hfilled : (filled slots ms).Nodup := by
    rw [filled_single hs]
    exact hn.filter _
  have haccepts : Accepts slots ms ↔
      ∀ slot ∈ slots, ∀ v, Pairs.find? slot.name ms = some v → slot.fault? v = none := by
    constructor
    · intro h slot hslot v hv
      have hanswers : slot.answers slot.name = true := (answers_single (hs slot hslot)).mpr rfl
      exact h _ ((Pairs.find?_eq_some_iff hn).mp hv) slot (find?_of_mem hd hslot hanswers)
    · intro h m hm slot hfind
      obtain ⟨hslot, hanswers⟩ := mem_of_find? hfind
      refine h slot hslot m.2 ((Pairs.find?_eq_some_iff hn).mpr ?_)
      rw [(answers_single (hs slot hslot)).mp hanswers]
      exact hm
  rw [membersFault?_eq_none_iff, haccepts]
  simp [hfilled]

end Slot

namespace Key

variable {α : Type} {key : Key α} {ms : List (String × Json)}

def readIn (key : Key α) (ms : List (String × Json)) : Except DecodeError α :=
  match Pairs.find? key.name ms with
  | none => .ok key.fallback
  | some v => key.read v

theorem readIn_ok_iff :
    (∃ a, key.readIn ms = .ok a) ↔
      ∀ v, Pairs.find? key.slot.name ms = some v → key.slot.fault? v = none := by
  have hname : key.slot.name = key.name := rfl
  rw [readIn, hname]
  cases Pairs.find? key.name ms with
  | none => simp
  | some v => cases hr : key.read v <;> simp [slot, hr]

theorem get_of_readIn (ho : key.otherName = none) {a : α} (h : key.readIn ms = .ok a) :
    key.get ms = a := by
  have hfind : key.find? ms = Pairs.find? key.name ms := by
    clear h
    induction ms with
    | nil => rfl
    | cons m ms ih =>
        have hanswers : key.slot.answers m.1 = decide (m.1 = key.name) := by
          simp [Slot.answers, slot, ho, eq_comm]
        rw [find?, Pairs.find?, hanswers, ih]
        simp
  rw [readIn] at h
  rw [get, hfind]
  cases hv : Pairs.find? key.name ms with
  | none =>
      rw [hv] at h
      exact Except.ok.inj h
  | some v =>
      simp only [hv] at h
      simp only [h]

end Key

namespace Record

variable {record : Record} {α : Type} {of : List (String × Json) → α} {a : α}
variable {ms : List (String × Json)} {items : List Json}

theorem openMembers_object_iff :
    (record.openMembers (.object ms)).map of = .ok a ↔
      record.membersError? ms = none ∧ of ms = a := by
  rw [openMembers]
  cases record.membersError? ms <;> simp [Except.map]

theorem members_object_iff :
    (record.members (.object ms)).map of = .ok a ↔ record.membersError? ms = none ∧ of ms = a :=
  openMembers_object_iff

theorem members_list_iff :
    (record.members (.list items)).map of = .ok a ↔
      record.itemsError? items = none ∧ of (Slot.place record.slots items) = a := by
  rw [members]
  cases record.itemsError? items <;> simp [Except.map]

end Record

namespace Json

theorem readEach_ok_iff {α : Type} {read : Json → Except DecodeError α} {of : Json → Option α}
    {items : List Json} (h : ∀ item ∈ items, ∀ a, read item = .ok a ↔ of item = some a)
    {as : List α} : readEach read items = .ok as ↔ items.mapM of = some as := by
  induction items generalizing as with
  | nil => simp [readEach]
  | cons item items ih =>
      obtain ⟨hitem, hitems⟩ := List.forall_mem_cons.mp h
      have hrest (bs : List α) : readEach read items = .ok bs ↔ items.mapM of = some bs :=
        ih hitems
      rw [readEach, List.mapM_cons]
      cases hr : read item with
      | error e =>
          have hnone : of item = none :=
            Option.eq_none_iff_forall_ne_some.mpr fun a ha => by
              have hok := (hitem a).mpr ha
              rw [hr] at hok
              cases hok
          simp [hnone]
      | ok a =>
          rw [(hitem a).mp hr]
          cases hrs : readEach read items with
          | error e =>
              have hnone : items.mapM of = none :=
                Option.eq_none_iff_forall_ne_some.mpr fun bs hbs => by
                  have hok := (hrest bs).mpr hbs
                  rw [hrs] at hok
                  cases hok
              simp [hnone]
          | ok bs => simp [(hrest bs).mp hrs]

theorem mapM_eq_none {α : Type} {of : Json → Option α} {items : List Json} {item : Json}
    (hm : item ∈ items) (h : of item = none) : items.mapM of = none := by
  induction items with
  | nil => cases hm
  | cons other items ih =>
      rw [List.mapM_cons]
      rcases List.mem_cons.mp hm with rfl | hm
      · simp [h]
      · simp [ih hm]

end Json

end FormMarkup
