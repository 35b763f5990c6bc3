import FormMarkup.Proofs.Decode.Agreement

namespace FormMarkup

namespace Slot

def spellings (slot : Slot) : List String :=
  slot.name :: slot.otherName.toList

theorem answers_iff {slot : Slot} {name : String} :
    slot.answers name = true ↔ name ∈ slot.spellings := by
  rw [answers, spellings, Bool.or_eq_true, decide_eq_true_eq, decide_eq_true_eq, List.mem_cons,
    Option.mem_toList, eq_comm]

theorem find?_of_mem {slots : List Slot} (hd : (slots.flatMap spellings).Nodup) {slot : Slot}
    (hm : slot ∈ slots) {name : String} (ha : slot.answers name = true) :
    find? slots name = some slot := by
  induction slots with
  | nil => cases hm
  | cons s slots ih =>
      rw [List.flatMap_cons, List.nodup_append] at hd
      rcases List.mem_cons.mp hm with rfl | hm
      · exact List.find?_cons_of_pos ha
      · have hrest : name ∈ slots.flatMap spellings :=
          List.mem_flatMap.mpr ⟨slot, hm, answers_iff.mp ha⟩
        have hs : ¬s.answers name = true :=
          fun h => hd.2.2 _ (answers_iff.mp h) _ hrest rfl
        calc find? (s :: slots) name = find? slots name := List.find?_cons_of_neg hs
          _ = some slot := ih hd.2.1 hm

theorem mem_of_find? {slots : List Slot} {name : String} {slot : Slot}
    (h : find? slots name = some slot) : slot ∈ slots ∧ slot.answers name = true :=
  ⟨List.mem_of_find?_eq_some h, List.find?_some (p := fun s : Slot => s.answers name) h⟩

def filled (slots : List Slot) (ms : List (String × Json)) : List String :=
  ms.filterMap fun m => (find? slots m.1).map Slot.name

def Accepts (slots : List Slot) (ms : List (String × Json)) : Prop :=
  ∀ m ∈ ms, ∀ slot, find? slots m.1 = some slot → slot.fault? m.2 = none

theorem membersFault?_eq_none_iff {slots : List Slot} {seen : List String}
    {ms : List (String × Json)} :
    membersFault? slots seen ms = none ↔
      (filled slots ms).Nodup ∧ (∀ n ∈ filled slots ms, n ∉ seen) ∧ Accepts slots ms := by
  induction ms generalizing seen with
  | nil => simp [membersFault?, filled, Accepts]
  | cons m ms ih =>
      obtain ⟨name, v⟩ := m
      rw [membersFault?]
      cases hs : find? slots name with
      | none => simp [ih, filled, Accepts, hs]
      | some slot =>
          by_cases hseen : slot.name ∈ seen
          · simp [filled, hs, hseen]
          · cases hv : slot.fault? v with
            | some e => simp [Accepts, hs, hseen, hv]
            | none =>
                simp only [hseen, if_false, ih, filled, Accepts, hs, Option.map_some,
                  List.filterMap_cons_some, List.nodup_cons, List.mem_cons, not_or,
                  forall_eq_or_imp, Option.some.injEq, forall_eq', hv, true_and, not_false_eq_true]
                constructor
                · rintro ⟨hnodup, hout, hrest⟩
                  exact ⟨⟨fun hin => (hout _ hin).1 rfl, hnodup⟩, fun n hn => (hout n hn).2, hrest⟩
                · rintro ⟨⟨hnew, hnodup⟩, hout, hrest⟩
                  exact ⟨hnodup, fun n hn => ⟨fun heq => hnew (heq ▸ hn), hout n hn⟩, hrest⟩

theorem filled_perm {slots : List Slot} {ms ms' : List (String × Json)} (h : ms'.Perm ms) :
    (filled slots ms').Perm (filled slots ms) :=
  h.filterMap _

theorem filled_normaliseMembers (slots : List Slot) (ms : List (String × Json)) :
    filled slots (Json.normaliseMembers ms) = filled slots ms := by
  rw [filled, Json.normaliseMembers_eq_map, List.filterMap_map]
  rfl

def SteadyAt (slot : Slot) (v : Json) : Prop :=
  slot.fault? v.normalise = none ↔ slot.fault? v = none

def SteadyOn (slot : Slot) (ms : List (String × Json)) : Prop :=
  ∀ m ∈ ms, slot.answers m.1 = true → slot.SteadyAt m.2

theorem accepts_of_perm_normalise {slots : List Slot} {ms ms' : List (String × Json)}
    (hp : ms'.Perm (Json.normaliseMembers ms))
    (hs : ∀ m ∈ ms, ∀ slot, find? slots m.1 = some slot → slot.SteadyAt m.2) :
    Accepts slots ms' ↔ Accepts slots ms := by
  have hmap : Accepts slots ms' ↔ Accepts slots (Json.normaliseMembers ms) :=
    ⟨fun h m hm => h m (hp.mem_iff.mpr hm), fun h m hm => h m (hp.mem_iff.mp hm)⟩
  rw [hmap, Json.normaliseMembers_eq_map]
  constructor
  · intro h m hm slot hfind
    exact (hs m hm slot hfind).mp (h (m.1, m.2.normalise) (List.mem_map_of_mem hm) slot hfind)
  · intro h m' hm' slot hfind
    obtain ⟨m, hm, rfl⟩ := List.mem_map.mp hm'
    exact (hs m hm slot hfind).mpr (h m hm slot hfind)

theorem membersFault?_of_perm_normalise {slots : List Slot} {ms ms' : List (String × Json)}
    (hp : ms'.Perm (Json.normaliseMembers ms))
    (hs : ∀ m ∈ ms, ∀ slot, find? slots m.1 = some slot → slot.SteadyAt m.2) :
    membersFault? slots [] ms' = none ↔ membersFault? slots [] ms = none := by
  have hfilled : (filled slots ms').Perm (filled slots ms) :=
    filled_normaliseMembers slots ms ▸ filled_perm hp
  simp [membersFault?_eq_none_iff, hfilled.nodup_iff, accepts_of_perm_normalise hp hs]

end Slot

namespace Record

def DistinctNames (record : Record) : Prop :=
  (record.slots.flatMap Slot.spellings).Nodup

instance (record : Record) : Decidable record.DistinctNames := by
  unfold DistinctNames
  infer_instance

def recognises (record : Record) (name : String) : Bool :=
  (Slot.find? record.slots name).isSome

def known (record : Record) (ms : List (String × Json)) : List (String × Json) :=
  ms.filter fun m => record.recognises m.1

def writesOnce (record : Record) (ms : List (String × Json)) : Bool :=
  decide (Pairs.keys (record.known ms)).Nodup

theorem knows_of_mem {record : Record} (hd : record.DistinctNames) {α : Type} {key : Key α}
    (hm : key.slot ∈ record.slots) : record.Knows key :=
  fun _ ha => Slot.find?_of_mem hd hm ha

theorem membersFault?_known (record : Record) (seen : List String) (ms : List (String × Json)) :
    Slot.membersFault? record.slots seen (record.known ms) =
      Slot.membersFault? record.slots seen ms := by
  induction ms generalizing seen with
  | nil => rfl
  | cons m ms ih =>
      obtain ⟨name, v⟩ := m
      cases hs : Slot.find? record.slots name with
      | none =>
          rw [Slot.membersFault?, hs]
          simpa [known, recognises, hs] using ih seen
      | some slot =>
          have hkeep : record.known ((name, v) :: ms) = (name, v) :: record.known ms := by
            simp [known, recognises, hs]
          rw [hkeep, Slot.membersFault?, Slot.membersFault?, hs]
          simp only [ih]

theorem find?_known {record : Record} {α : Type} {key : Key α} (hk : record.Knows key)
    (ms : List (String × Json)) : key.find? (record.known ms) = key.find? ms := by
  induction ms with
  | nil => rfl
  | cons m ms ih =>
      obtain ⟨name, v⟩ := m
      cases ha : key.slot.answers name with
      | true => simp [known, recognises, Key.find?, ha, hk name ha]
      | false =>
          rw [Key.find?, ha, ← ih, known, List.filter_cons]
          split <;> simp [known, Key.find?, ha]

theorem get_known {record : Record} {α : Type} {key : Key α} (hk : record.Knows key)
    (ms : List (String × Json)) : key.get (record.known ms) = key.get ms := by
  rw [Key.get, Key.get, find?_known hk]

theorem known_sorted_perm {record : Record} {ms : List (String × Json)}
    (h : record.writesOnce ms = true) :
    (record.known (Pairs.sorted (Json.normaliseMembers ms))).Perm
      (Json.normaliseMembers (record.known ms)) := by
  have hnodup : (Pairs.keys (Json.normaliseMembers (record.known ms))).Nodup := by
    rw [Json.keys_normaliseMembers]
    exact of_decide_eq_true h
  rw [known, Pairs.filter_sorted, ← Json.normaliseMembers_filter]
  exact Pairs.sorted_perm hnodup

theorem unknownMembers_eq (record : Record) (ms : List (String × Json)) :
    Slot.unknownMembers record.slots ms = ms.filter fun m => !record.recognises m.1 := by
  simp [Slot.unknownMembers, recognises]

theorem passthrough_sorted (record : Record) (ms : List (String × Json)) :
    record.passthrough (Pairs.sorted (Json.normaliseMembers ms)) = record.passthrough ms := by
  rw [passthrough, passthrough, unknownMembers_eq, unknownMembers_eq,
    Pairs.filter_sorted fun name => !record.recognises name,
    ← Json.normaliseMembers_filter fun name => !record.recognises name,
    Json.normaliseMembers_sorted, Json.normaliseMembers_normaliseMembers, Pairs.sorted_sorted]

-- Unknown names may repeat, so that only the known members are a permutation of the tree's.
structure Rereads (record : Record) (ms ms' : List (String × Json)) : Prop where
  distinct : record.DistinctNames
  known : (record.known ms').Perm (Json.normaliseMembers (record.known ms))
  passthrough : record.passthrough ms' = record.passthrough ms
  clean : Slot.membersFault? record.slots [] ms' = none

end Record

namespace Key

variable {α : Type}

def SteadyAt (key : Key α) (r : α → α → Prop) (v : Json) : Prop :=
  Agree r (key.read v) (key.read v.normalise)

theorem SteadyAt.slot {key : Key α} {r : α → α → Prop} {v : Json} (hs : key.SteadyAt r v) :
    key.slot.SteadyAt v := by
  unfold SteadyAt at hs
  unfold Slot.SteadyAt Key.slot
  simp only
  generalize key.read v = x at hs
  generalize key.read v.normalise = y at hs
  cases hs <;> simp

theorem SteadyAt.read_ok {key : Key α} {r : α → α → Prop} {v : Json} (hs : key.SteadyAt r v)
    {b : α} (h : key.read v.normalise = .ok b) : ∃ a, key.read v = .ok a ∧ r a b := by
  unfold SteadyAt at hs
  rw [h] at hs
  generalize key.read v = x at hs
  cases hs with
  | ok h => exact ⟨_, rfl, h⟩

def SteadyOn (key : Key α) (r : α → α → Prop) (ms : List (String × Json)) : Prop :=
  ∀ m ∈ ms, key.slot.answers m.1 = true → key.SteadyAt r m.2

theorem SteadyOn.slot {key : Key α} {r : α → α → Prop} {ms : List (String × Json)}
    (hs : key.SteadyOn r ms) : key.slot.SteadyOn ms :=
  fun m hm ha => (hs m hm ha).slot

theorem steadyOn {key : Key α} {r : α → α → Prop} (hs : Json.Steady r key.read)
    (ms : List (String × Json)) : key.SteadyOn r ms :=
  fun m _ _ => hs m.2

theorem steady {key : Key α} {r : α → α → Prop} (hs : Json.Steady r key.read)
    {ms : List (String × Json)} : key.slot.SteadyOn ms :=
  (steadyOn hs ms).slot

end Key

namespace Record.Rereads

variable {α : Type} {record : Record} {ms ms' : List (String × Json)}

theorem get_related (hr : record.Rereads ms ms') (key : Key α) (hm : key.slot ∈ record.slots)
    {r : α → α → Prop} (hfallback : r key.fallback key.fallback) (hs : key.SteadyOn r ms) :
    r (key.get ms) (key.get ms') := by
  have hk := Record.knows_of_mem hr.distinct hm
  have hclean : Slot.membersFault? record.slots [] (record.known ms') = none := by
    rw [Record.membersFault?_known]
    exact hr.clean
  have hget := Key.get_of_perm_normalise hk hr.known hclean
  rw [Record.find?_known hk, Record.get_known hk] at hget
  rcases hget with ⟨hnone, hget⟩ | ⟨v, hv, hread⟩
  · rw [hget, Key.get, hnone]
    exact hfallback
  · obtain ⟨name, hin, ha⟩ := Key.mem_of_find? hv
    obtain ⟨a, hread', hra⟩ := (hs _ hin ha).read_ok hread
    rw [Key.get, hv]
    simp only [hread']
    exact hra

theorem get_eq (hr : record.Rereads ms ms') (key : Key α) (hm : key.slot ∈ record.slots)
    (hs : Json.Steady Eq key.read) : key.get ms = key.get ms' :=
  hr.get_related key hm rfl (Key.steadyOn hs ms)

end Record.Rereads

namespace Json

def writesOnce (record : Record) : Json → Bool
  | .object members => record.writesOnce members
  | _ => true

def itemsWriteOnce (record : Record) (name : String) (ms : List (String × Json)) : Bool :=
  ms.all fun m => m.1 != name || m.2.items.all (writesOnce record)

end Json

theorem Key.steadyOn_list {α : Type} {key : Key (List α)} {read : Json → Except DecodeError α}
    {record : Record} {r : α → α → Prop} {ms : List (String × Json)}
    (hread : key.read = Json.readList read) (hone : key.otherName = none)
    (hitem : ∀ item, item.writesOnce record = true → Agree r (read item) (read item.normalise))
    (hw : Json.itemsWriteOnce record key.name ms = true) :
    key.SteadyOn (List.Forall₂ r) ms := by
  intro m hm ha
  have hname : key.name = m.1 := by simpa [slot, Slot.answers, hone] using ha
  have hitems : ∀ item ∈ m.2.items, item.writesOnce record = true := by
    simpa [hname] using List.all_eq_true.mp hw m hm
  rw [SteadyAt, hread]
  exact Json.readList_agrees fun item hi => hitem item (hitems item hi)

namespace Record

variable {record : Record}

theorem membersError?_eq_none_iff {ms : List (String × Json)} :
    record.membersError? ms = none ↔
      Slot.membersFault? record.slots [] ms = none ∧
        ∀ name ∈ record.needed, name ∈ Pairs.keys ms := by
  rw [membersError?]
  cases Slot.membersFault? record.slots [] ms with
  | some e => simp
  | none => simp [missing?, Pairs.keys]

theorem itemsError?_eq_none_iff {items : List Json} :
    record.itemsError? items = none ↔
      Slot.membersFault? record.slots [] (Slot.place record.slots items) = none ∧
        record.needed.length ≤ items.length ∧ items.length ≤ record.slots.length := by
  rw [itemsError?]
  cases Slot.membersFault? record.slots [] (Slot.place record.slots items) with
  | some e => simp
  | none => grind

def SteadyOn (record : Record) (ms : List (String × Json)) : Prop :=
  ∀ slot ∈ record.slots, slot.SteadyOn ms

theorem membersFault?_tree {ms ms' : List (String × Json)} (hs : record.SteadyOn ms)
    (hk : (record.known ms').Perm (Json.normaliseMembers (record.known ms))) :
    Slot.membersFault? record.slots [] ms' = none ↔
      Slot.membersFault? record.slots [] ms = none := by
  rw [← membersFault?_known record [] ms', ← membersFault?_known record [] ms]
  refine Slot.membersFault?_of_perm_normalise hk fun m hm slot hfind => ?_
  obtain ⟨hslot, ha⟩ := Slot.mem_of_find? hfind
  exact hs slot hslot m (List.mem_filter.mp hm).1 ha

theorem membersError?_tree {ms : List (String × Json)} (hs : record.SteadyOn ms)
    (hw : record.writesOnce ms = true) :
    record.membersError? (Pairs.sorted (Json.normaliseMembers ms)) = none ↔
      record.membersError? ms = none := by
  rw [membersError?_eq_none_iff, membersError?_eq_none_iff,
    membersFault?_tree hs (known_sorted_perm hw)]
  simp only [Pairs.mem_keys_sorted, Json.keys_normaliseMembers]

theorem itemsError?_tree {items : List Json}
    (hs : record.SteadyOn (Slot.place record.slots items)) :
    record.itemsError? (Json.normaliseItems items) = none ↔ record.itemsError? items = none := by
  have hknown := Json.normaliseMembers_filter record.recognises (Slot.place record.slots items)
  rw [itemsError?_eq_none_iff, itemsError?_eq_none_iff, place_normaliseItems,
    membersFault?_tree hs (.of_eq hknown.symm), Json.normaliseItems_eq_map, List.length_map]

theorem passthrough_normaliseMembers (ms : List (String × Json)) :
    record.passthrough (Json.normaliseMembers ms) = record.passthrough ms := by
  rw [passthrough, passthrough, unknownMembers_eq, unknownMembers_eq,
    ← Json.normaliseMembers_filter fun name => !record.recognises name,
    Json.normaliseMembers_normaliseMembers]

theorem rereads_sorted (hd : record.DistinctNames) {ms : List (String × Json)}
    (hw : record.writesOnce ms = true)
    (h : record.membersError? (Pairs.sorted (Json.normaliseMembers ms)) = none) :
    record.Rereads ms (Pairs.sorted (Json.normaliseMembers ms)) where
  distinct := hd
  known := known_sorted_perm hw
  passthrough := passthrough_sorted record ms
  clean := membersFault?_of_membersError? h

theorem rereads_place (hd : record.DistinctNames) {items : List Json}
    (h : record.itemsError? (Json.normaliseItems items) = none) :
    record.Rereads (Slot.place record.slots items)
      (Slot.place record.slots (Json.normaliseItems items)) := by
  have hclean := membersFault?_of_itemsError? h
  rw [place_normaliseItems] at hclean ⊢
  exact ⟨hd, .of_eq (Json.normaliseMembers_filter record.recognises _).symm,
    passthrough_normaliseMembers _, hclean⟩

section Results

variable {α : Type} {r : α → α → Prop} {of : List (String × Json) → α}

theorem agree_of_error? {e e' : Option DecodeError} {ms ms' : List (String × Json)}
    (he : e' = none ↔ e = none) (hr : e' = none → r (of ms) (of ms')) :
    Agree r ((match e with | some e => Except.error e | none => .ok ms).map of)
      ((match e' with | some e => Except.error e | none => .ok ms').map of) := by
  cases e' with
  | none =>
      rw [he.mp rfl]
      exact .ok (hr rfl)
  | some d =>
      cases e with
      | none => cases he.mpr rfl
      | some e => exact .error e d

theorem members_agrees (hd : record.DistinctNames) {v : Json} (hw : v.writesOnce record = true)
    (hs : record.SteadyOn (record.spread v))
    (hr : ∀ ms, record.Rereads (record.spread v) ms → r (of (record.spread v)) (of ms)) :
    Agree r ((record.members v).map of) ((record.members v.normalise).map of) := by
  cases v with
  | object ms =>
      exact agree_of_error? (membersError?_tree hs hw) fun h => hr _ (rereads_sorted hd hw h)
  | list items =>
      exact agree_of_error? (itemsError?_tree hs) fun h => hr _ (rereads_place hd h)
  | _ => exact .error _ _

theorem openMembers_agrees (hd : record.DistinctNames) {v : Json}
    (hw : v.writesOnce record = true) (hs : record.SteadyOn (record.spread v))
    (hr : ∀ ms, record.Rereads (record.spread v) ms → r (of (record.spread v)) (of ms)) :
    Agree r ((record.openMembers v).map of) ((record.openMembers v.normalise).map of) := by
  cases v with
  | object ms => exact members_agrees hd hw hs hr
  | _ => exact .error _ _

end Results

end Record

end FormMarkup
