import FormMarkup.Proofs.Decode.Placed
import FormMarkup.Proofs.Field.OtherNames
import FormMarkup.Proofs.Field.TextAndTree

namespace FormMarkup

variable {α β γ : Type} {reads : Json → α → Prop} {part : β → Option α}

structure TakesMember (decode : Json → Except DecodeError β) (fits : List (String × Json) → Prop)
    (names : List String) (reads : Json → α → Prop) (part : β → Option α) : Prop where
  accepts : ∀ {name v front back}, name ∈ names → fits (front ++ back) →
    (∀ n ∈ names, n ∉ Pairs.keys (front ++ back)) →
    ((∃ b, decode (.object (front ++ (name, v) :: back)) = .ok b) ↔
      (∃ a, reads v a) ∧ ∃ b, decode (.object (front ++ back)) = .ok b)
  holds : ∀ {name v front back b}, name ∈ names → fits (front ++ back) →
    (∀ n ∈ names, n ∉ Pairs.keys (front ++ back)) →
    decode (.object (front ++ (name, v) :: back)) = .ok b → ∃ a, reads v a ∧ part b = some a

namespace Key

def ReadsAs (key : Key γ) (wrap : α → γ) (reads : Json → α → Prop) : Prop :=
  ∀ v c, key.read v = .ok c ↔ ∃ a, reads v a ∧ wrap a = c

variable {key : Key γ} {wrap : α → γ}

theorem readsAs_self {key : Key α} (h : ∀ v a, key.read v = .ok a ↔ reads v a) :
    key.ReadsAs (fun a => a) reads := by
  intro v a
  rw [h]
  simp

theorem ReadsAs.exists_iff (h : key.ReadsAs wrap reads) {v : Json} :
    (∃ c, key.read v = .ok c) ↔ ∃ a, reads v a := by
  constructor
  · rintro ⟨c, hc⟩
    obtain ⟨a, ha, -⟩ := (h v c).mp hc
    exact ⟨a, ha⟩
  · rintro ⟨a, ha⟩
    exact ⟨wrap a, (h v _).mpr ⟨a, ha, rfl⟩⟩

end Key

theorem Record.takesMember {record : Record} {of : List (String × Json) → β} (key : Key γ)
    {wrap : α → γ} (hd : record.DistinctNames)
    (hk : Slot.find? record.slots key.name = some key.slot)
    (hn : ∀ name ∈ key.slot.spellings, name ∉ record.needed) (hr : key.ReadsAs wrap reads)
    (hpart : ∀ ms a, key.get ms = wrap a → part (of ms) = some a) :
    TakesMember (fun d => (record.openMembers d).map of) (fun _ => True) key.slot.spellings reads
      part := by
  have hmem := (Slot.mem_of_find? hk).1
  have hplaced {name v front back} (hname : name ∈ key.slot.spellings)
      (hfree : ∀ n ∈ key.slot.spellings, n ∉ Pairs.keys (front ++ back)) :
      record.membersError? (front ++ (name, v) :: back) = none ↔
        (∃ a, reads v a) ∧ record.membersError? (front ++ back) = none := by
    rw [← hr.exists_iff]
    exact membersError?_placed hd hmem (Slot.answers_iff.mpr hname) (Key.free_iff.mpr hfree)
      (hn _ hname)
  refine ⟨fun hname _ hfree => ?_, fun hname _ hfree hb => ?_⟩
  · simp only [openMembers_object_iff, exists_and_left, exists_eq', and_true]
    exact hplaced hname hfree
  · obtain ⟨htaken, rfl⟩ := openMembers_object_iff.mp hb
    obtain ⟨⟨a, ha⟩, -⟩ := (hplaced hname hfree).mp htaken
    have hread := (hr _ _).mpr ⟨a, ha, rfl⟩
    have hget := Key.get_placed (Slot.answers_iff.mpr hname) (Key.free_iff.mpr hfree) hread
    exact ⟨a, ha, hpart _ a hget⟩

namespace Field

variable {part : Field → Option α}

theorem decode_placed {typeName name : String} {v : Json} {front back : List (String × Json)}
    (hn : name ≠ "type") (ht : typeOfMembers (front ++ back) = .ok typeName) :
    decode (.object (front ++ (name, v) :: back)) =
      decodeAs typeName (.object (front.filter (fun m => !isType m) ++
        (name, v) :: back.filter fun m => !isType m)) := by
  have htype : typeOfMembers (front ++ (name, v) :: back) = .ok typeName := by
    rw [← ht]
    simp [typeOfMembers, isType, hn]
  rw [decode_of_type htype]
  simp [isType, hn]

theorem takesMember {typeName : String} {record : Record} (hrecord : record? typeName = some record)
    (key : Key γ) {wrap : α → γ} (hk : Slot.find? record.slots key.name = some key.slot)
    (hn : ∀ name ∈ key.slot.spellings, name ∉ record.needed) (hr : key.ReadsAs wrap reads)
    (hpart : ∀ ms a, key.get ms = wrap a → part (ofMembersAs typeName ms) = some a) :
    TakesMember decode (fun ms => typeOfMembers ms = .ok typeName) key.slot.spellings reads
      part := by
  obtain ⟨hd, -⟩ := record?_sound hrecord
  have hown : TakesMember (decodeAs typeName) (fun _ => True) key.slot.spellings reads part := by
    have htakes := Record.takesMember key hd hk hn hr hpart
    refine ⟨fun hname _ hfree => ?_, fun hname _ hfree hb => ?_⟩
    · simp only [decodeAs_object hrecord]
      exact htakes.accepts hname trivial hfree
    · rw [decodeAs_object hrecord] at hb
      exact htakes.holds hname trivial hfree hb
  have hne : ∀ name ∈ key.slot.spellings, name ≠ "type" := by
    intro name hname
    refine ne_type_of_recognises hrecord ?_
    have hmem := (Slot.mem_of_find? hk).1
    rw [Record.recognises, Slot.find?_of_mem hd hmem (Slot.answers_iff.mpr hname)]
    rfl
  have hkept : ∀ {ms : List (String × Json)}, (∀ n ∈ key.slot.spellings, n ∉ Pairs.keys ms) →
      ∀ n ∈ key.slot.spellings, n ∉ Pairs.keys (ms.filter fun m => !isType m) := by
    intro ms hfree n hn hm
    exact hfree n hn ((List.filter_sublist.map Prod.fst).mem hm)
  refine ⟨fun hname ht hfree => ?_, fun hname ht hfree hb => ?_⟩
  · rw [decode_placed (hne _ hname) ht, decode_of_type ht, List.filter_append]
    exact hown.accepts hname trivial (List.filter_append .. ▸ hkept hfree)
  · rw [decode_placed (hne _ hname) ht] at hb
    exact hown.holds hname trivial (List.filter_append .. ▸ hkept hfree) hb

end Field

theorem Checkbox.takesMember (key : Key γ) {wrap : α → γ} {part : Checkbox → Option α}
    (hk : Slot.find? record.slots key.name = some key.slot) (hr : key.ReadsAs wrap reads)
    (hpart : ∀ ms a, key.get ms = wrap a → part (ofMembers ms) = some a) :
    TakesMember decode (fun _ => True) key.slot.spellings reads part :=
  have hnames : record.DistinctNames := by decide
  have h := Record.takesMember key hnames hk (fun _ _ => List.not_mem_nil) hr hpart
  ⟨h.accepts, h.holds⟩

theorem Choice.takesMember (key : Key γ) {wrap : α → γ} {part : Choice → Option α}
    (hk : Slot.find? record.slots key.name = some key.slot) (hr : key.ReadsAs wrap reads)
    (hpart : ∀ ms a, key.get ms = wrap a → part (ofMembers ms) = some a) :
    TakesMember decode (fun _ => True) key.slot.spellings reads part :=
  have hnames : record.DistinctNames := by decide
  have h := Record.takesMember key hnames hk (fun _ _ => List.not_mem_nil) hr hpart
  ⟨h.accepts, h.holds⟩

namespace Field

def AllTake (names : List String) (reads : Json → α → Prop) (part : Field → Option α) : Prop :=
  ∀ typeName known, memberNames? typeName = some known → names ⊆ known →
    TakesMember decode (fun ms => typeOfMembers ms = .ok typeName) names reads part

def AllTakeInText (names : List String) (reads : Json → α → Prop) (part : Field → Option α) :
    Prop :=
  ∀ typeName known text name v front back, memberNames? typeName = some known → names ⊆ known →
    name ∈ names → typeOfMembers (front ++ back) = .ok typeName →
    (∀ n ∈ names, n ∉ Pairs.keys (front ++ back)) →
    Json.parse? text = some (.object (front ++ (name, v) :: back)) →
    ((∃ f, ofText text = .ok f) ↔
      (∃ a, reads v a) ∧ ∃ f, decode (.object (front ++ back)) = .ok f) ∧
    ∀ f, ofText text = .ok f → ∃ a, reads v a ∧ part f = some a

theorem AllTake.inText {names : List String} {part : Field → Option α}
    (h : AllTake names reads part) : AllTakeInText names reads part := by
  intro typeName known text name v front back hknown hnames hname ht hfree hparse
  have htakes := h typeName known hknown hnames
  have hwhole (f : Field) : ofText text = .ok f ↔
      decode (.object (front ++ (name, v) :: back)) = .ok f := by
    rw [ofText_whole hparse]
    cases decode (.object (front ++ (name, v) :: back)) <;> simp [Except.mapError]
  simp only [hwhole]
  exact ⟨htakes.accepts hname ht hfree, fun f hf => htakes.holds hname ht hfree hf⟩

end Field

end FormMarkup
