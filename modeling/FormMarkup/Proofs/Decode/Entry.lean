import FormMarkup.Field.Basic
import FormMarkup.Proofs.Decode.Rereading

namespace FormMarkup

/-- A member as it is written. One without a value has no written form; one that may be left out
holds what its type assumes in its place. -/
structure Entry where
  name : String
  otherName : Option String := none
  value : Option Json
  optional : Bool := false

namespace Entry

def spellings (e : Entry) : List String :=
  e.name :: e.otherName.toList

def given (name value : String) : Entry :=
  { name, value := some (.string value) }

def text (name : String) (unset value : String) : Entry :=
  { name, value := some (.string value), optional := value = unset }

def markup (name : String) (unset value : RawMarkup) : Entry :=
  { name, value := some (.string value.text), optional := value = unset }

def optionalText (name : String) (unset value : Option String) : Entry :=
  { name
    value := some (match value with
      | some s => .string s
      | none => .null)
    optional := value = unset }

def flag (name : String) (unset value : Bool) : Entry :=
  { name, value := some (.bool value), optional := value = unset }

def integer (name : String) (unset value : Int) : Entry :=
  { name, value := some (.integer value), optional := value = unset }

def texts (map : TextMap) : Json :=
  .object (map.map fun entry => (entry.1, .string entry.2))

def map (name : String) (unset value : TextMap) : Entry :=
  { name, value := some (texts value), optional := value = unset }

def optionalMap (name : String) (value : Option TextMap) : Entry :=
  { name, value := value.map texts }

def list (name : String) (items : List Json) : Entry :=
  { name, value := some (.list items), optional := items.isEmpty }

def orAs (e : Entry) (other : String) : Entry :=
  { e with otherName := some other }

def members (keep : String → Bool) (es : List Entry) : List (String × Json) :=
  es.filterMap fun e =>
    if e.optional && !keep e.name then none else e.value.map fun v => (e.name, v)

end Entry

structure Entry.Fits {α : Type} (e : Entry) (key : Key α) (a : α) : Prop where
  name : e.name = key.name
  read : ∀ v, e.value = some v → key.read v.normalise = .ok a
  unset : e.value = none ∨ e.optional = true → key.fallback = a

namespace Entry

theorem Fits.orAs {α : Type} {e : Entry} {key : Key α} {a : α} (h : e.Fits key a)
    (other : String) : (e.orAs other).Fits key a :=
  ⟨h.name, h.read, h.unset⟩

theorem given_fits {α : Type} {name s : String} {a fallback : α} {other : Option String}
    {read : Json → Except DecodeError α} (h : read (.string s) = .ok a) :
    (given name s).Fits ⟨name, other, fallback, read⟩ a where
  name := rfl
  read := by
    rintro v ⟨⟩
    exact h
  unset := by simp [given]

theorem text_fits {name unset s : String} {other : Option String} :
    (text name unset s).Fits ⟨name, other, unset, Json.readText⟩ s where
  name := rfl
  read := by
    rintro v ⟨⟩
    rfl
  unset := by simp [text, eq_comm]

theorem markup_fits {name : String} {unset m : RawMarkup} {other : Option String} :
    (markup name unset m).Fits ⟨name, other, unset, fun v => v.readText.map RawMarkup.mk⟩ m where
  name := rfl
  read := by
    rintro v ⟨⟩
    rfl
  unset := by simp [markup, eq_comm]

theorem optionalText_fits {name : String} {unset s other : Option String} :
    (optionalText name unset s).Fits ⟨name, other, unset, Json.readOptionalText⟩ s where
  name := rfl
  read := by
    rintro v ⟨⟩
    cases s <;> rfl
  unset := by simp [optionalText, eq_comm]

theorem flag_fits {name : String} {unset b : Bool} {other : Option String} :
    (flag name unset b).Fits ⟨name, other, unset, Json.readFlag⟩ b where
  name := rfl
  read := by
    rintro v ⟨⟩
    rfl
  unset := by simp [flag, eq_comm]

theorem readInteger_integer {n : Int} (h : Decimal.isWord n = true) :
    (Json.integer n).readInteger = .ok n :=
  if_pos h

theorem integer_fits {name : String} {unset n : Int} {other : Option String}
    (h : Decimal.isWord n = true) :
    (integer name unset n).Fits ⟨name, other, unset, Json.readInteger⟩ n where
  name := rfl
  read := by
    rintro v ⟨⟩
    exact readInteger_integer h
  unset := by simp [integer, eq_comm]

theorem readCount_of_integer {v : Json} {n : Int} (hv : v.readInteger = .ok n)
    (hn : 0 ≤ n ∧ n < 4294967296) : v.readCount = .ok n.toNat := by
  rw [Json.readCount, hv]
  exact if_pos hn

theorem readCount_integer {n : Nat} (h : n < 4294967296) : (Json.integer n).readCount = .ok n := by
  have hword : Decimal.isWord n = true := Decimal.isWord_iff.mpr (by omega)
  exact readCount_of_integer (readInteger_integer hword) (by omega)

theorem count_fits {name : String} {unset n : Nat} {other : Option String} (h : n < 4294967296) :
    (integer name unset n).Fits ⟨name, other, unset, Json.readCount⟩ n where
  name := rfl
  read := by
    rintro v ⟨⟩
    simpa only [Json.normalise] using readCount_integer h
  unset := by
    intro h
    have hn : (n : Int) = unset := by simpa [integer] using h
    exact Int.ofNat.inj hn.symm

theorem readTable_texts {m : TextMap} (h : Increasing (Pairs.keys m)) :
    (texts m).normalise.readTable = .ok (m.map fun e => (e.1, some e.2)) := by
  have hvalues : Json.normaliseMembers (m.map fun e => (e.1, Json.string e.2)) =
      m.map fun e => (e.1, Json.string e.2) := by
    rw [Json.normaliseMembers_eq_map, List.map_map]
    rfl
  have hkeys : Pairs.keys (m.map fun e => (e.1, Json.string e.2)) = Pairs.keys m :=
    Pairs.keys_mapValues Json.string m
  have hsorted : Pairs.sorted (m.map fun e => (e.1, Json.string e.2)) =
      m.map fun e => (e.1, Json.string e.2) :=
    Pairs.sorted_of_increasing (hkeys ▸ h)
  rw [texts, Json.normalise, hvalues, hsorted, Json.readTable,
    Pairs.distinct_of_nodup (hkeys ▸ h.nodup), Json.scalarTexts_iff, List.forall₂_map_left_iff,
    List.forall₂_map_right_iff, List.forall₂_same]
  exact fun e _ => ⟨rfl, rfl⟩

theorem readAttributes_texts {m : TextMap} (h : Increasing (Pairs.keys m)) :
    (texts m).normalise.readAttributes = .ok m := by
  rw [Json.readAttributes, readTable_texts h]
  simp [Except.map, List.filterMap_map]

theorem readLabels_texts {m : TextMap} (h : Increasing (Pairs.keys m)) :
    (texts m).normalise.readLabels = .ok m := by
  rw [Json.readLabels, readTable_texts h]
  simp [Except.map, Function.comp_def]

theorem map_fits {name : String} {unset m : TextMap} {other : Option String}
    {read : Json → Except DecodeError TextMap} (h : read (texts m).normalise = .ok m) :
    (map name unset m).Fits ⟨name, other, unset, read⟩ m where
  name := rfl
  read := by
    rintro v ⟨⟩
    exact h
  unset := by simp [map, eq_comm]

theorem optionalMap_fits {name : String} {m : Option TextMap} {other : Option String}
    (h : ∀ texts ∈ m, Increasing (Pairs.keys texts)) :
    (optionalMap name m).Fits
      ⟨name, other, none, fun v => v.readAttributes.map some⟩ m where
  name := rfl
  read := by
    intro v hv
    obtain ⟨texts, rfl, rfl⟩ := Option.map_eq_some_iff.mp hv
    simp only [readAttributes_texts (h texts rfl), Except.map]
  unset := by simp [optionalMap, eq_comm]

theorem list_fits {α : Type} {name : String} {items : List Json} {as : List α}
    {other : Option String} {read : Json → Except DecodeError α}
    (h : List.Forall₂ (fun item a => read item.normalise = .ok a) items as) :
    (list name items).Fits ⟨name, other, [], Json.readList read⟩ as where
  name := rfl
  read := by
    rintro v ⟨⟩
    change Json.readEach read (Json.normaliseItems items) = .ok as
    induction h with
    | nil => rfl
    | cons hitem _ ih => rw [Json.normaliseItems, Json.readEach, hitem]; simp only [ih]
  unset := by
    cases h <;> simp [list]

end Entry

def Record.Takes (record : Record) (e : Entry) : Prop :=
  ∃ slot ∈ record.slots, slot.name = e.name ∧
    ∀ v, e.value = some v → slot.fault? v.normalise = none

theorem Record.takes {α : Type} (record : Record) (key : Key α) (hm : key.slot ∈ record.slots)
    {e : Entry} {a : α} (h : e.Fits key a) : record.Takes e := by
  refine ⟨key.slot, hm, h.name.symm, fun v hv => ?_⟩
  rw [Key.slot]
  simp only [h.read v hv]

namespace Entry

def tree (keep : String → Bool) (es : List Entry) (extra : Passthrough) : List (String × Json) :=
  Pairs.sorted (Json.normaliseMembers (members keep es ++ extra))

variable {keep : String → Bool} {es : List Entry}

theorem mem_members {m : String × Json} (h : m ∈ members keep es) :
    ∃ e ∈ es, e.name = m.1 ∧ e.value = some m.2 := by
  obtain ⟨e, he, hm⟩ := List.mem_filterMap.mp h
  split at hm
  · cases hm
  · obtain ⟨v, hv, rfl⟩ := Option.map_eq_some_iff.mp hm
    exact ⟨e, he, rfl, hv⟩

theorem mem_keys_members {e : Entry} (he : e ∈ es) (hv : e.value ≠ none)
    (ho : e.optional = false) : e.name ∈ Pairs.keys (members keep es) := by
  obtain ⟨v, hv⟩ := Option.ne_none_iff_exists'.mp hv
  refine List.mem_map.mpr ⟨(e.name, v), List.mem_filterMap.mpr ⟨e, he, ?_⟩, rfl⟩
  simp [hv, ho]

theorem keys_members_sublist : (Pairs.keys (members keep es)).Sublist (es.map name) := by
  induction es with
  | nil => exact .slnil
  | cons e es ih =>
      rw [members, List.filterMap_cons]
      split
      · exact ih.cons _
      · next m hm =>
          have hin : m ∈ members keep [e] :=
            List.mem_filterMap.mpr ⟨e, List.mem_singleton_self e, hm⟩
          obtain ⟨_, he, hname, _⟩ := mem_members hin
          rw [List.mem_singleton.mp he] at hname
          rw [Pairs.keys, List.map_cons, List.map_cons, ← hname]
          exact ih.cons_cons _

end Entry

theorem Key.answers_of_find?_none {α : Type} {key : Key α} {ms : List (String × Json)}
    (h : key.find? ms = none) : ∀ name ∈ Pairs.keys ms, key.slot.answers name = false := by
  induction ms with
  | nil => exact fun _ hname => (List.not_mem_nil hname).elim
  | cons m ms ih =>
      obtain ⟨n, v⟩ := m
      rw [Key.find?] at h
      split at h
      · cases h
      · next hn => exact List.forall_mem_cons.mpr ⟨Bool.not_eq_true _ ▸ hn, ih h⟩

structure Record.Holds (record : Record) (es : List Entry) (extra : Passthrough) : Prop where
  distinct : record.DistinctNames
  names : (es.map Entry.name).Nodup
  takes : ∀ e ∈ es, record.Takes e
  increasing : Increasing (Pairs.keys extra)
  normal : ∀ m ∈ extra, m.2.normalise = m.2
  foreign : ∀ name ∈ Pairs.keys extra, record.recognises name = false

theorem Record.members_of_clean {record : Record} {ms : List (String × Json)}
    (h : record.membersError? ms = none) : record.members (.object ms) = .ok ms := by
  rw [Record.members, h]

namespace Record.Holds

variable {record : Record} {es : List Entry} {extra : Passthrough} {keep : String → Bool}

theorem find?_slot (h : record.Holds es extra) {e : Entry} (he : e ∈ es) :
    ∃ slot ∈ record.slots, Slot.find? record.slots e.name = some slot ∧ slot.name = e.name ∧
      ∀ v, e.value = some v → slot.fault? v.normalise = none := by
  obtain ⟨slot, hslot, hname, hv⟩ := h.takes e he
  have ha : slot.answers e.name = true := by simp [Slot.answers, hname]
  exact ⟨slot, hslot, Slot.find?_of_mem h.distinct hslot ha, hname, hv⟩

theorem find?_extra (h : record.Holds es extra) {m : String × Json} (hm : m ∈ extra) :
    Slot.find? record.slots m.1 = none := by
  simpa [recognises] using h.foreign m.1 (List.mem_map_of_mem hm)

theorem nodup (h : record.Holds es extra) :
    (Pairs.keys (Entry.members keep es ++ extra)).Nodup := by
  rw [Pairs.keys_append]
  refine List.nodup_append.mpr ⟨h.names.sublist Entry.keys_members_sublist, h.increasing.nodup, ?_⟩
  rintro name hname other hother rfl
  obtain ⟨e, he, rfl⟩ := List.mem_map.mp (Entry.keys_members_sublist.subset hname)
  obtain ⟨slot, _, hfind, _⟩ := h.find?_slot he
  simpa [recognises, hfind] using h.foreign e.name hother

theorem tree_perm (h : record.Holds es extra) :
    (Entry.tree keep es extra).Perm (Json.normaliseMembers (Entry.members keep es ++ extra)) :=
  Json.sorted_normaliseMembers_perm h.nodup

theorem filled_members (h : record.Holds es extra) :
    Slot.filled record.slots (Entry.members keep es ++ extra) =
      Pairs.keys (Entry.members keep es) := by
  have hown : Slot.filled record.slots (Entry.members keep es) =
      Pairs.keys (Entry.members keep es) := by
    rw [Slot.filled, Pairs.keys, ← List.filterMap_eq_map]
    refine List.filterMap_congr fun m hm => ?_
    obtain ⟨e, he, hname, _⟩ := Entry.mem_members hm
    obtain ⟨slot, _, hfind, hslot, _⟩ := h.find?_slot he
    simp [← hname, hfind, hslot]
  have hextra : Slot.filled record.slots extra = [] :=
    List.filterMap_eq_nil_iff.mpr fun m hm => by simp [h.find?_extra hm]
  rw [Slot.filled, List.filterMap_append]
  exact (congrArg₂ _ hown hextra).trans (List.append_nil _)

theorem clean (h : record.Holds es extra) :
    Slot.membersFault? record.slots [] (Entry.tree keep es extra) = none := by
  rw [Slot.membersFault?_eq_none_iff]
  refine ⟨?_, fun _ _ => List.not_mem_nil, fun m hm slot hslot => ?_⟩
  · rw [(Slot.filled_perm h.tree_perm).nodup_iff, Slot.filled_normaliseMembers, h.filled_members]
    exact h.names.sublist Entry.keys_members_sublist
  · have hin := h.tree_perm.mem_iff.mp hm
    rw [Json.normaliseMembers_eq_map] at hin
    obtain ⟨m, hwritten, rfl⟩ := List.mem_map.mp hin
    rcases List.mem_append.mp hwritten with hm | hm
    · obtain ⟨e, he, hname, hv⟩ := Entry.mem_members hm
      obtain ⟨found, _, hfind, _, hfault⟩ := h.find?_slot he
      rw [← hname, hfind] at hslot
      rw [← Option.some.inj hslot]
      exact hfault _ hv
    · rw [h.find?_extra hm] at hslot
      cases hslot

theorem get {α : Type} (h : record.Holds es extra) (key : Key α) (e : Entry) {a : α}
    (hm : key.slot ∈ record.slots) (he : e ∈ es) (hf : e.Fits key a) :
    key.get (Entry.tree keep es extra) = a := by
  have hk := Record.knows_of_mem h.distinct hm
  have hanswers : key.slot.answers e.name = true := by simp [Slot.answers, Key.slot, hf.name]
  rcases Key.get_of_perm_normalise hk h.tree_perm h.clean with ⟨hnone, hget⟩ | ⟨v, hv, hread⟩
  -- What is not found was left out, or has no written form: the key assumes the value.
  · rw [hget]
    refine hf.unset ?_
    by_contra hwritten
    rw [not_or, Bool.not_eq_true] at hwritten
    have hin : e.name ∈ Pairs.keys (Entry.members keep es ++ extra) := by
      rw [Pairs.keys_append]
      exact List.mem_append_left _ (Entry.mem_keys_members he hwritten.1 hwritten.2)
    rw [Key.answers_of_find?_none hnone _ hin] at hanswers
    cases hanswers
  -- What is found answers to the key, and the names are distinct: it is this entry.
  · obtain ⟨name, hin, ha⟩ := Key.mem_of_find? hv
    rcases List.mem_append.mp hin with hin | hin
    · obtain ⟨found, hfound, hname, hvalue⟩ := Entry.mem_members hin
      obtain ⟨slot, _, hfind, hslot, _⟩ := h.find?_slot hfound
      have hsame : slot = key.slot := Option.some.inj (hfind.symm.trans (hname ▸ hk name ha))
      have heq : found = e := by
        refine List.inj_on_of_nodup_map h.names hfound he ?_
        rw [← hslot, hsame, hf.name]
        rfl
      subst heq
      exact Except.ok.inj (hread.symm.trans (hf.read v hvalue))
    · have hnone := h.find?_extra hin
      rw [hk name ha] at hnone
      cases hnone

theorem get_absent {α : Type} (h : record.Holds es extra) (key : Key α)
    (hm : key.slot ∈ record.slots) (ha : ∀ e ∈ es, key.slot.answers e.name = false) :
    key.get (Entry.tree keep es extra) = key.fallback := by
  have hk := Record.knows_of_mem h.distinct hm
  rcases Key.get_of_perm_normalise hk h.tree_perm h.clean with ⟨_, hget⟩ | ⟨v, hv, _⟩
  · exact hget
  · obtain ⟨name, hin, hname⟩ := Key.mem_of_find? hv
    rcases List.mem_append.mp hin with hin | hin
    · obtain ⟨e, he, rfl, _⟩ := Entry.mem_members hin
      rw [ha e he] at hname
      cases hname
    · have hnone := h.find?_extra hin
      rw [hk name hname] at hnone
      cases hnone

theorem passthrough_tree (h : record.Holds es extra) :
    record.passthrough (Entry.tree keep es extra) = extra := by
  have hown : (Entry.members keep es).filter (fun m => !record.recognises m.1) = [] := by
    refine List.filter_eq_nil_iff.mpr fun m hm => ?_
    obtain ⟨e, he, hname, _⟩ := Entry.mem_members hm
    obtain ⟨slot, _, hfind, _⟩ := h.find?_slot he
    simp [recognises, ← hname, hfind]
  have hextra : extra.filter (fun m => !record.recognises m.1) = extra :=
    List.filter_eq_self.mpr fun m hm => by simp [recognises, h.find?_extra hm]
  have hnormal : Json.normaliseMembers extra = extra := by
    rw [Json.normaliseMembers_eq_map]
    calc extra.map (fun m => (m.1, m.2.normalise)) = extra.map id :=
          List.map_congr_left fun m hm => Prod.ext rfl (h.normal m hm)
      _ = extra := List.map_id _
  rw [Entry.tree, passthrough_sorted, passthrough, unknownMembers_eq, List.filter_append, hown,
    hextra, List.nil_append, hnormal, Pairs.sorted_of_increasing h.increasing]

theorem members_tree (h : record.Holds es extra) (keep : String → Bool)
    (hneeded : ∀ name ∈ record.needed, name ∈ Pairs.keys (Entry.members keep es)) :
    record.members (Json.object (Entry.members keep es ++ extra)).normalise =
      .ok (Entry.tree keep es extra) := by
  have herror : record.membersError? (Entry.tree keep es extra) = none := by
    refine membersError?_eq_none_iff.mpr ⟨h.clean, fun name hname => ?_⟩
    rw [Entry.tree, Pairs.mem_keys_sorted, Json.keys_normaliseMembers, Pairs.keys_append]
    exact List.mem_append_left _ (hneeded name hname)
  exact members_of_clean herror

theorem openMembers_tree (h : record.Holds es extra) (keep : String → Bool)
    (hneeded : ∀ name ∈ record.needed, name ∈ Pairs.keys (Entry.members keep es)) :
    record.openMembers (Json.object (Entry.members keep es ++ extra)).normalise =
      .ok (Entry.tree keep es extra) :=
  h.members_tree keep hneeded

end Record.Holds

end FormMarkup
