import FormMarkup.Proofs.Decode.Respelling
import FormMarkup.Proofs.Field.Items
import FormMarkup.Proofs.Field.UnknownMembers
import FormMarkup.Proofs.Form.Ingestion

namespace FormMarkup

def Json.respell (d : Json) (a b : String) : Json :=
  match d with
  | .object ms => .object (Pairs.sorted (ms.map (renamed a b)))
  | d => d

def Twofold (pairs : List (String × String)) (a b : String) : Prop :=
  (a, b) ∈ pairs ∨ (b, a) ∈ pairs

namespace Record

variable {record : Record} {a b : String}

def otherNames (record : Record) : List (String × String) :=
  record.slots.filterMap fun slot => slot.otherName.map fun other => (slot.name, other)

theorem slot_of_otherNames (hd : record.DistinctNames) (h : (a, b) ∈ record.otherNames) :
    a ≠ b ∧ ∃ slot, Slot.find? record.slots a = some slot ∧
      Slot.find? record.slots b = some slot := by
  obtain ⟨slot, hm, hslot⟩ := List.mem_filterMap.mp h
  obtain ⟨other, hother, hab⟩ := Option.map_eq_some_iff.mp hslot
  obtain ⟨rfl, rfl⟩ := Prod.mk.inj hab
  have hspellings : slot.spellings = [slot.name, other] := by
    rw [Slot.spellings, hother]
    rfl
  have hnodup : slot.spellings.Nodup := (List.nodup_flatMap.mp hd).1 slot hm
  refine ⟨?_, slot, Slot.find?_of_mem hd hm (Slot.answers_iff.mpr ?_),
    Slot.find?_of_mem hd hm (Slot.answers_iff.mpr ?_)⟩
  · rw [hspellings] at hnodup
    simpa using hnodup
  · simp [hspellings]
  · simp [hspellings]

theorem slot_of_twofold (hd : record.DistinctNames) (h : Twofold record.otherNames a b) :
    a ≠ b ∧ ∃ slot, Slot.find? record.slots a = some slot ∧
      Slot.find? record.slots b = some slot := by
  rcases h with h | h
  · exact slot_of_otherNames hd h
  · obtain ⟨hne, slot, hb, ha⟩ := slot_of_otherNames hd h
    exact ⟨hne.symm, slot, ha, hb⟩

section Objects

variable {α : Type} {of : List (String × Json) → α} {ms : List (String × Json)}

theorem openMembers_agree_of_same {ms' : List (String × Json)} (h : record.SameReading ms ms')
    (hof : record.SameGets ms ms' → of ms' = of ms) :
    Agree Eq ((record.openMembers (.object ms)).map of)
      ((record.openMembers (.object ms')).map of) :=
  agree_of_error? h.taken fun he => (hof (h.gets (h.taken.mp he))).symm

theorem sameReading_of_twofold (hd : record.DistinctNames) (hneeded : record.needed = [])
    (ht : Twofold record.otherNames a b) (hn : (Pairs.keys ms).Nodup) (hb : b ∉ Pairs.keys ms)
    {ms' : List (String × Json)} (hp : ms'.Perm (ms.map (renamed a b))) :
    record.SameReading ms ms' := by
  obtain ⟨-, slot, hfa, hfb⟩ := slot_of_twofold hd ht
  refine sameReading_respelled (hfb.trans hfa.symm) hd hneeded ?_ hn hb hp
  rw [recognises, hfa]
  rfl

theorem openMembers_error_of_both (hd : record.DistinctNames) (ht : Twofold record.otherNames a b)
    (ha : a ∈ Pairs.keys ms) (hb : b ∈ Pairs.keys ms) :
    ∃ e, (record.openMembers (.object ms)).map of = .error e := by
  obtain ⟨hne, slot, hfa, hfb⟩ := slot_of_twofold hd ht
  obtain ⟨e, he⟩ := error_of_both hne hfa hfb ha hb
  refine ⟨e, ?_⟩
  rw [openMembers, he]
  rfl

end Objects

end Record

structure Synonyms {α : Type} (read : Json → Except DecodeError α) (refused : Json → Prop)
    (pairs : List (String × String)) (holds : List (String × Json) → Prop) : Prop where
  swapped : ∀ a b ms, Twofold pairs a b → holds ms → (Pairs.keys ms).Nodup → b ∉ Pairs.keys ms →
    Agree Eq (read (.object ms)) (read ((Json.object ms).respell a b))
  twice : ∀ a b ms, Twofold pairs a b → holds ms → a ∈ Pairs.keys ms → b ∈ Pairs.keys ms →
    (∃ e, read (.object ms) = .error e) ∧ refused (.object ms)

theorem Synonyms.mono {α β : Type} {read : Json → Except DecodeError α}
    {read' : Json → Except DecodeError β} {refused refused' : Json → Prop}
    {pairs : List (String × String)} {holds : List (String × Json) → Prop}
    (h : Synonyms read refused pairs holds)
    (hs : ∀ d d', Agree Eq (read d) (read d') → Agree Eq (read' d) (read' d'))
    (hr : ∀ d, (∃ e, read d = .error e) → (∃ e, read' d = .error e) ∧ refused' d) :
    Synonyms read' refused' pairs holds where
  swapped _ _ _ ht hh hn hb := hs _ _ (h.swapped _ _ _ ht hh hn hb)
  twice _ _ _ ht hh ha hb := hr _ (h.twice _ _ _ ht hh ha hb).1

theorem Record.synonyms {record : Record} {α : Type} {of : List (String × Json) → α}
    (hd : record.DistinctNames) (hneeded : record.needed = [])
    (hof : ∀ {ms ms'}, record.SameGets ms ms' → of ms' = of ms) :
    Synonyms (fun d => (record.members d).map of) (fun _ => True) record.otherNames
      (fun _ => True) where
  swapped _ _ _ ht _ hn hb :=
    have hperm := Pairs.sorted_perm (nodup_renamed hn hb)
    openMembers_agree_of_same (sameReading_of_twofold hd hneeded ht hn hb hperm) hof
  twice _ _ _ ht _ ha hb := ⟨openMembers_error_of_both hd ht ha hb, trivial⟩

def TextInput.otherNames : List (String × String) :=
  [("requiredTitle", "abbr"), ("defaultValue", "default_value"),
    ("extraAttributes", "extra_attr")]

def Checkbox.otherNames : List (String × String) :=
  [("requiredTitle", "abbr"), ("extraAttributes", "extra_attr")]

def Choice.otherNames : List (String × String) :=
  [("extraAttributes", "extra_attr")]

def FormTag.otherNames : List (String × String) :=
  [("formClass", "form_class")]

namespace Field

theorem typeOfMembers_perm {ms ms' : List (String × Json)} (hn : (Pairs.keys ms).Nodup)
    (hp : ms'.Perm ms) : typeOfMembers ms' = typeOfMembers ms := by
  have hfilter : (ms'.filter isType).Perm (ms.filter isType) := hp.filter _
  have heq : ms'.filter isType = ms.filter isType := by
    rcases types_of_nodup hn with hnil | ⟨v, hone⟩
    · rw [hnil] at hfilter ⊢
      exact hfilter.eq_nil
    · rw [hone] at hfilter ⊢
      exact List.perm_singleton.mp hfilter
  rw [typeOfMembers, heq]
  rfl

def otherNames? (typeName : String) : Option (List (String × String)) :=
  match typeName with
  | "text" => some TextInput.otherNames
  | "email" => some TextInput.otherNames
  | "password" => some TextInput.otherNames
  | "number" => some TextInput.otherNames
  | "textarea" => some [("requiredTitle", "abbr"), ("extraAttributes", "extra_attr")]
  | "file" => some [("requiredTitle", "abbr"), ("extraAttributes", "extra_attr")]
  | "select" => some [("requiredTitle", "abbr"), ("defaultOption", "default_option"),
      ("selectOption", "select_option"), ("extraAttributes", "extra_attr")]
  | "radio" => some [("requiredTitle", "abbr")]
  | "switch" => some [("requiredTitle", "abbr"), ("extraAttributes", "extra_attr")]
  | _ => none

theorem otherNames?_record {typeName : String} {pairs : List (String × String)}
    (h : otherNames? typeName = some pairs) :
    ∃ record, record? typeName = some record ∧ record.otherNames = pairs ∧
      record.needed = [] := by
  unfold otherNames? at h
  split at h <;> cases h <;> exact ⟨_, rfl, rfl, rfl⟩

section Descriptors

variable {typeName a b : String} {record : Record} {ms ms' : List (String × Json)}

theorem ne_type_of_recognises (hr : record? typeName = some record) {name : String}
    (h : record.recognises name = true) : name ≠ "type" := by
  have htype : record.recognises "type" = false := by
    unfold record? at hr
    split at hr <;> cases hr <;> decide
  rintro rfl
  rw [htype] at h
  cases h

theorem recognises_of_twofold (hd : record.DistinctNames) (ht : Twofold record.otherNames a b) :
    record.recognises a = true ∧ record.recognises b = true := by
  obtain ⟨-, slot, ha, hb⟩ := Record.slot_of_twofold hd ht
  rw [Record.recognises, Record.recognises, ha, hb]
  exact ⟨rfl, rfl⟩

theorem isType_renamed (ha : a ≠ "type") (hb : b ≠ "type") (m : String × Json) :
    isType (renamed a b m) = isType m := by
  unfold renamed
  split
  · next h => simp [isType, h, ha, hb]
  · rfl

theorem typeOfMembers_renamed (ha : a ≠ "type") (hb : b ≠ "type") (ms : List (String × Json)) :
    typeOfMembers (ms.map (renamed a b)) = typeOfMembers ms := by
  have hfilter : (ms.map (renamed a b)).filter isType = ms.filter isType := by
    rw [List.filter_map, show isType ∘ renamed a b = isType from funext (isType_renamed ha hb)]
    refine (List.map_congr_left fun m hm => ?_).trans (List.map_id _)
    have hm : m.1 = "type" := of_decide_eq_true (List.mem_filter.mp hm).2
    exact if_neg fun h => ha (h.symm.trans hm)
  rw [typeOfMembers, hfilter]
  rfl

theorem decode_of_type (ht : typeOfMembers ms = .ok typeName) :
    decode (.object ms) = decodeAs typeName (.object (ms.filter fun m => !isType m)) := by
  rw [decode, ht]
  rfl

theorem ofMembersAs_same (hr : record? typeName = some record) (h : record.SameGets ms ms')
    (hp : record.passthrough ms' = record.passthrough ms) :
    ofMembersAs typeName ms' = ofMembersAs typeName ms := by
  rw [ofMembersAs_congr hr h, hp]
  exact (ofMembersAs_congr hr fun _ _ => rfl).symm

theorem decode_synonyms {pairs : List (String × String)}
    (hpairs : otherNames? typeName = some pairs) :
    Synonyms decode (fun _ => True) pairs fun ms => typeOfMembers ms = .ok typeName := by
  obtain ⟨record, hr, rfl, hneeded⟩ := otherNames?_record hpairs
  obtain ⟨hd, -⟩ := record?_sound hr
  have hnames : ∀ {a b}, Twofold record.otherNames a b → a ≠ "type" ∧ b ≠ "type" := by
    intro a b ht
    obtain ⟨ha, hb⟩ := recognises_of_twofold hd ht
    exact ⟨ne_type_of_recognises hr ha, ne_type_of_recognises hr hb⟩
  refine ⟨fun a b ms ht htype hn hb => ?_, fun a b ms ht htype ha hb => ⟨?_, trivial⟩⟩
  · obtain ⟨hat, hbt⟩ := hnames ht
    have hdistinct : (Pairs.keys (ms.map (renamed a b))).Nodup := nodup_renamed hn hb
    have hsorted := Pairs.sorted_perm hdistinct
    have htype' : typeOfMembers (Pairs.sorted (ms.map (renamed a b))) = .ok typeName := by
      rw [typeOfMembers_perm hdistinct hsorted, typeOfMembers_renamed hat hbt, htype]
    have hperm := hsorted.filter fun m => !isType m
    have hother : (fun m => !isType m) ∘ renamed a b = fun m => !isType m :=
      funext fun m => congrArg not (isType_renamed hat hbt m)
    rw [List.filter_map, hother] at hperm
    have hkeys : (Pairs.keys (ms.filter fun m => !isType m)).Sublist (Pairs.keys ms) :=
      List.filter_sublist.map Prod.fst
    have hsame := Record.sameReading_of_twofold hd hneeded ht (hn.sublist hkeys)
      (fun hm => hb (hkeys.mem hm)) hperm
    rw [decode_of_type htype, Json.respell, decode_of_type htype', decodeAs_object hr,
      decodeAs_object hr]
    exact Record.openMembers_agree_of_same hsame fun h => ofMembersAs_same hr h hsame.passthrough
  · obtain ⟨hat, hbt⟩ := hnames ht
    have hkept : ∀ {name}, name ≠ "type" → name ∈ Pairs.keys ms →
        name ∈ Pairs.keys (ms.filter fun m => !isType m) := by
      intro name hname h
      obtain ⟨m, hm, rfl⟩ := List.mem_map.mp h
      exact List.mem_map_of_mem (List.mem_filter.mpr ⟨hm, by simp [isType, hname]⟩)
    rw [decode_of_type htype, decodeAs_object hr]
    exact Record.openMembers_error_of_both hd ht (hkept hat ha) (hkept hbt hb)

end Descriptors

def SkippedEntry (entry : Json) : Prop :=
  ∀ (doc : Json) (i : Nat) d ws, doc.normalise.entries[i]? = some entry →
    Definition.ofJson doc = .ok (d, ws) →
    d.fields[i]? = some .unknown ∧ Warning.malformedField i ∈ ws

theorem skipped_of_error {entry : Json} (h : ∃ e, decode entry = .error e) :
    (∃ e, decode entry = .error e) ∧ SkippedEntry entry := by
  refine ⟨h, fun doc i d ws hentry hdoc => ?_⟩
  obtain ⟨e, he⟩ := h
  obtain ⟨hfields, hwarnings⟩ := Definition.ofSorted_ok hdoc
  rw [hfields, hwarnings, List.getElem?_map, hentry]
  have hmem := (Definition.mem_undecodable (k := 0)).mpr ⟨entry, e, hentry, he⟩
  rw [Nat.zero_add] at hmem
  exact ⟨congrArg some (ofEntry_error he), List.mem_map_of_mem hmem⟩

def RefusedTag (tag : Json) : Prop :=
  ∀ doc : Json, doc.normalise.given? "form" = some tag →
    ∃ e, Definition.ofJson doc = .error (.badTag e)

theorem refused_of_error {tag : Json} (h : ∃ e, FormTag.decode tag = .error e) :
    (∃ e, FormTag.decode tag = .error e) ∧ RefusedTag tag := by
  obtain ⟨e, he⟩ := h
  exact ⟨⟨e, he⟩, fun _ hdoc => ⟨e, Definition.ofSorted_badTag hdoc he⟩⟩

theorem checkbox_synonyms :
    Synonyms Checkbox.decode (fun _ => True) Checkbox.otherNames fun _ => True :=
  have hnames : Checkbox.record.DistinctNames := by decide
  Record.synonyms hnames rfl Checkbox.ofMembers_congr

theorem choice_synonyms :
    Synonyms Choice.decode (fun _ => True) Choice.otherNames fun _ => True :=
  have hnames : Choice.record.DistinctNames := by decide
  Record.synonyms hnames rfl fun h => Choice.ofMembers_congr h fun _ hm => hm

theorem tag_synonyms :
    Synonyms FormTag.decode (fun _ => True) FormTag.otherNames fun _ => True :=
  have hnames : FormTag.record.DistinctNames := by decide
  Record.synonyms hnames rfl FormTag.ofMembers_congr

theorem HoldsItems.synonyms {α : Type} {typeName list : String} {read : Json → Except DecodeError α}
    {refused : Json → Prop} {pairs : List (String × String)} {front back : List (String × Json)}
    (h : HoldsItems typeName list read) (hs : Synonyms read refused pairs fun _ => True)
    (ht : typeOfMembers (front ++ back) = .ok typeName) (xs ys : List Json) :
    Synonyms (fun item => decode (around list front back xs ys item))
      (fun item => SkippedEntry (around list front back xs ys item)) pairs fun _ => True := by
  refine hs.mono (fun d d' hd => h.decode_agrees ht hd xs ys) fun d hd => ?_
  obtain ⟨e, he⟩ := hd
  exact skipped_of_error (h.decode_error ht he xs ys)

theorem other_names_are_synonyms :
    (∀ typeName pairs, otherNames? typeName = some pairs →
      Synonyms decode SkippedEntry pairs fun ms => typeOfMembers ms = .ok typeName) ∧
    Synonyms Checkbox.decode (fun _ => True) Checkbox.otherNames (fun _ => True) ∧
    Synonyms Choice.decode (fun _ => True) Choice.otherNames (fun _ => True) ∧
    (∀ front back xs ys,
      (typeOfMembers (front ++ back) = .ok "checkbox" →
        Synonyms (fun choice => decode (around "choices" front back xs ys choice))
          (fun choice => SkippedEntry (around "choices" front back xs ys choice))
          Checkbox.otherNames fun _ => True) ∧
      (typeOfMembers (front ++ back) = .ok "radio" →
        Synonyms (fun choice => decode (around "choices" front back xs ys choice))
          (fun choice => SkippedEntry (around "choices" front back xs ys choice))
          Choice.otherNames fun _ => True)) ∧
    Synonyms FormTag.decode RefusedTag FormTag.otherNames fun _ => True := by
  refine ⟨?_, checkbox_synonyms, choice_synonyms, fun front back xs ys => ⟨?_, ?_⟩, ?_⟩
  · intro typeName pairs hpairs
    exact (decode_synonyms hpairs).mono (fun _ _ => id) fun _ => skipped_of_error
  · exact fun ht => checkbox_holdsItems.synonyms checkbox_synonyms ht xs ys
  · exact fun ht => radio_holdsItems.synonyms choice_synonyms ht xs ys
  · exact tag_synonyms.mono (fun _ _ => id) fun _ => refused_of_error

theorem other_names_are_synonyms_marked :
    decode (.object [("abbr", .string "needed"), ("name", .string "x"),
      ("type", .string "text")]) =
      .ok (.input .text { name := "x", requiredTitle := some "needed" }) ∧
    decode (.object [("name", .string "x"), ("requiredTitle", .string "needed"),
      ("type", .string "text")]) =
      .ok (.input .text { name := "x", requiredTitle := some "needed" }) ∧
    SkippedEntry (.object [("abbr", .string "needed"), ("name", .string "x"),
      ("requiredTitle", .null), ("type", .string "text")]) := by
  have htext := other_names_are_synonyms.1 "text" TextInput.otherNames rfl
  have hpair : Twofold TextInput.otherNames "abbr" "requiredTitle" :=
    .inr (by simp [TextInput.otherNames])
  have hold : decode (.object [("abbr", .string "needed"), ("name", .string "x"),
      ("type", .string "text")]) =
      .ok (.input .text { name := "x", requiredTitle := some "needed" }) := by
    rfl
  have hswapped := htext.swapped "abbr" "requiredTitle"
    [("abbr", .string "needed"), ("name", .string "x"), ("type", .string "text")] hpair rfl
    (by decide) (by decide)
  have htwice := htext.twice "abbr" "requiredTitle"
    [("abbr", .string "needed"), ("name", .string "x"), ("requiredTitle", .null),
      ("type", .string "text")] hpair rfl (by decide) (by decide)
  exact ⟨hold, hswapped.ok_iff.mpr hold, htwice.2⟩

end Field

end FormMarkup
