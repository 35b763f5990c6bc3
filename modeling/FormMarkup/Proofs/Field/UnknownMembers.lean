import FormMarkup.Proofs.Field.Items
import FormMarkup.Proofs.Form.Ingestion
import FormMarkup.Proofs.Render.Reordering

namespace FormMarkup

def Json.insert (d : Json) (name : String) (v : Json) : Json :=
  match d with
  | .object ms => .object (Pairs.putSorted name v ms)
  | d => d

namespace Field

def keeping (name : String) (v : Json) (f : Field) : Field :=
  f.withPassthrough (Pairs.putSorted name v f.passthrough)

section Decoding

variable {typeName name : String} {record : Record} {v : Json} {ms ms' : List (String × Json)}

theorem decodeAs_of_known (hr : record? typeName = some record)
    (h : record.known ms' = record.known ms) :
    decodeAs typeName (.object ms') =
      (decodeAs typeName (.object ms)).map (withPassthrough (record.passthrough ms')) := by
  obtain ⟨hd, hn⟩ := record?_sound hr
  rw [decodeAs_object hr, decodeAs_object hr, Record.openMembers, Record.openMembers,
    Record.membersError?_congr hn h]
  cases record.membersError? ms with
  | some e => rfl
  | none => exact congrArg Except.ok (ofMembersAs_congr hr (Record.sameGets_of_known hd h))

theorem decodeAs_inserted (hr : record? typeName = some record)
    (h : record.known ms' = record.known ms)
    (hp : record.passthrough ms' = Pairs.putSorted name v (record.passthrough ms)) :
    decodeAs typeName (.object ms') = (decodeAs typeName (.object ms)).map (keeping name v) := by
  rw [decodeAs_of_known hr h, hp, decodeAs_object hr, Record.openMembers]
  cases record.membersError? ms with
  | some e => rfl
  | none =>
      exact congrArg Except.ok (withPassthrough_ofMembersAs hr ms (Pairs.putSorted name v))

theorem typeOfMembers_putSorted (h : name ≠ "type") (v : Json) (ms : List (String × Json)) :
    typeOfMembers (Pairs.putSorted name v ms) = typeOfMembers ms := by
  have hother : decide (name = "type") = false := decide_eq_false h
  have hfilter : (Pairs.putSorted name v ms).filter isType = ms.filter isType :=
    Pairs.filter_putSorted (p := fun n => decide (n = "type")) hother v ms
  rw [typeOfMembers, hfilter]
  rfl

theorem decode_insert (hr : record? typeName = some record)
    (ht : typeOfMembers ms = .ok typeName) (hnew : name ∉ Pairs.keys ms) (hne : name ≠ "type")
    (hu : record.recognises name = false) (v : Json) :
    decode ((Json.object ms).insert name v) =
      (decode (.object ms)).map (keeping name v.normalise) := by
  simp only [Json.insert, decode, typeOfMembers_putSorted hne, ht, Except.bind]
  refine decodeAs_inserted hr ?_ ?_
  · simp only [Record.known, List.filter_filter]
    exact Pairs.filter_putSorted
      (p := fun n => record.recognises n && !decide (n = "type")) (by simp [hu]) v ms
  · simp only [Record.passthrough, Record.unknownMembers_eq, List.filter_filter]
    exact Json.filter_putSorted_tree
      (p := fun n => !record.recognises n && !decide (n = "type")) (by simp [hu, hne]) v hnew

end Decoding

section Bare

variable (p : Passthrough) (f : Field)

theorem order_withPassthrough : (f.withPassthrough p).order = f.order := by
  cases f <;> rfl

theorem orderChoices_withPassthrough :
    (f.withPassthrough p).orderChoices = f.orderChoices.withPassthrough p := by
  cases f <;> rfl

theorem withPassthrough_withPassthrough (q : Passthrough) :
    (f.withPassthrough q).withPassthrough p = f.withPassthrough p := by
  cases f <;> rfl

end Bare

end Field

namespace Renderer

variable (r : Renderer)

theorem field_withPassthrough (p : Passthrough) (f : Field) :
    r.field (f.withPassthrough p) = r.field f := by
  cases f <;> rfl

theorem form_withPassthrough (p : Passthrough) (fs : List Field) (tag : FormTag) :
    r.form (fs.map (Field.withPassthrough p)) tag = r.form fs tag :=
  r.form_map (r.field_withPassthrough p) (Field.order_withPassthrough p)
    (Field.orderChoices_withPassthrough p) fs tag

theorem form_keeping (name : String) (v : Json) (f : Field) (fs gs : List Field) (tag : FormTag) :
    r.form (fs ++ f.keeping name v :: gs) tag = r.form (fs ++ f :: gs) tag := by
  rw [← r.form_withPassthrough [] (fs ++ f.keeping name v :: gs),
    ← r.form_withPassthrough [] (fs ++ f :: gs), List.map_append, List.map_append, List.map_cons,
    List.map_cons, Field.keeping, Field.withPassthrough_withPassthrough]

end Renderer

section Records

variable {name : String} (v : Json) {ms : List (String × Json)}

theorem Record.members_insert {α : Type} {record : Record} {of : List (String × Json) → α}
    (hd : record.DistinctNames) (hn : record.NeedsKnown)
    (hof : ∀ {ms ms'}, record.SameGets ms ms' → of ms' = of ms)
    (hu : record.recognises name = false) (d : Json) :
    (record.members (d.insert name v)).map of = (record.members d).map of := by
  cases d with
  | object ms =>
      have hknown := record.known_putSorted hu v ms
      simp only [Json.insert, members, membersError?_congr hn hknown]
      cases record.membersError? ms with
      | some e => rfl
      | none => exact congrArg Except.ok (hof (sameGets_of_known hd hknown))
  | _ => rfl

theorem Checkbox.decode_insert (hu : record.recognises name = false) (d : Json) :
    decode (d.insert name v) = decode d :=
  Record.members_insert v (by decide) (by decide) Checkbox.ofMembers_congr hu d

theorem Choice.decode_insert (hu : record.recognises name = false) (d : Json) :
    decode (d.insert name v) = decode d :=
  Record.members_insert v (by decide) (by decide)
    (fun h => Choice.ofMembers_congr h fun _ hm => hm) hu d

theorem HiddenPair.decode_insert (hu : record.recognises name = false) (d : Json) :
    decode (d.insert name v) = decode d :=
  Record.members_insert v (by decide) (by decide) HiddenPair.ofMembers_congr hu d

theorem FormTag.ofMembers_congr {ms ms' : List (String × Json)} (h : record.SameGets ms ms') :
    ofMembers ms' = ofMembers ms := by
  rw [ofMembers, ofMembers, h Member.classes (by simp [record]),
    h Member.formClasses (by simp [record]), h Member.plainId (by simp [record]),
    h Member.action (by simp [record]), h Member.method (by simp [record]),
    h Member.formAttributes (by simp [record])]

theorem FormTag.decode_insert (hu : record.recognises name = false) (d : Json) :
    decode (d.insert name v) = decode d :=
  Record.members_insert v (by decide) (by decide) FormTag.ofMembers_congr hu d

theorem Record.recognises_eq_false {record : Record} {names : List String}
    (hnames : record.slots.flatMap Slot.spellings = names) (h : name ∉ names) :
    record.recognises name = false := by
  rw [Bool.eq_false_iff]
  intro hr
  exact h (hnames ▸ recognises_iff.mp hr)

theorem Definition.ofSorted_tag {a b : Json} (hn : a.isNull = b.isNull)
    (h : FormTag.decode a = FormTag.decode b) (front back : List (String × Json)) :
    ofSorted (.object (front ++ ("form", a) :: back)) =
      ofSorted (.object (front ++ ("form", b) :: back)) := by
  have hform : ∀ v, Pairs.find? "form" (front ++ ("form", v) :: back) =
      (Pairs.find? "form" front).or (some v) := by
    intro v
    rw [Pairs.find?_append, Pairs.find?, if_pos rfl]
  have htag : tagOf (front ++ ("form", a) :: back) = tagOf (front ++ ("form", b) :: back) := by
    rw [tagOf_eq, tagOf_eq, Json.given?, Json.given?, hform, hform]
    cases Pairs.find? "form" front with
    | some form => rfl
    | none => cases hb : b.isNull <;> simp [Option.filter, hn, hb, h]
  have hentries : entriesOf (front ++ ("form", a) :: back) =
      entriesOf (front ++ ("form", b) :: back) := by
    rw [entriesOf, entriesOf, Pairs.find?_append, Pairs.find?_append, Pairs.find?, Pairs.find?,
      if_neg (by decide), if_neg (by decide)]
  rw [ofSorted, ofSorted, htag, hentries]

end Records

def FormTag.memberNames : List String :=
  ["class", "formClass", "form_class", "id", "action", "method", "attr"]

namespace Field

def itemNames? (typeName : String) : Option (String × List String) :=
  match typeName with
  | "checkbox" => some ("choices",
      ["label", "name", "value", "checked", "id", "required", "class", "before", "after", "order",
        "requiredTitle", "abbr", "extraAttributes", "extra_attr"])
  | "radio" => some ("choices",
      ["label", "value", "checked", "id", "class", "before", "after", "order", "extraAttributes",
        "extra_attr"])
  | "hidden" => some ("inputs", ["name", "value"])
  | _ => none

theorem decode_around_insert {typeName list name : String} {names : List String}
    {front back : List (String × Json)} (hi : itemNames? typeName = some (list, names))
    (hu : name ∉ names) (ht : typeOfMembers (front ++ back) = .ok typeName)
    (xs ys : List Json) (item v : Json) :
    decode (around list front back xs ys (item.insert name v)) =
      decode (around list front back xs ys item) := by
  unfold itemNames? at hi
  split at hi <;> cases hi
  · exact checkbox_holdsItems.decode_congr ht
      (Checkbox.decode_insert v (Record.recognises_eq_false rfl hu) item) xs ys
  · exact radio_holdsItems.decode_congr ht
      (Choice.decode_insert v (Record.recognises_eq_false rfl hu) item) xs ys
  · exact hidden_holdsItems.decode_congr ht
      (HiddenPair.decode_insert v (Record.recognises_eq_false rfl hu) item) xs ys

theorem unknown_member_inert (name : String) (v : Json) :
    (∀ typeName names ms, memberNames? typeName = some names →
      typeOfMembers ms = .ok typeName → name ∉ Pairs.keys ms → name ≠ "type" → name ∉ names →
      decode ((Json.object ms).insert name v) =
        (decode (.object ms)).map (keeping name v.normalise)) ∧
    (∀ (r : Renderer) (f : Field),
      r.field (f.keeping name v.normalise) = r.field f ∧
      ∀ (fs gs : List Field) (tag : FormTag),
        r.form (fs ++ f.keeping name v.normalise :: gs) tag = r.form (fs ++ f :: gs) tag) ∧
    (∀ typeName list names front back, itemNames? typeName = some (list, names) →
      name ∉ names → typeOfMembers (front ++ back) = .ok typeName → ∀ xs ys item,
      decode (around list front back xs ys (item.insert name v)) =
        decode (around list front back xs ys item)) ∧
    (name ∉ FormTag.memberNames → ∀ tag,
      FormTag.decode (tag.insert name v) = FormTag.decode tag ∧
      ∀ front back, Definition.ofSorted (.object (front ++ ("form", tag.insert name v) :: back)) =
        Definition.ofSorted (.object (front ++ ("form", tag) :: back))) := by
  refine ⟨?_, ?_, ?_, ?_⟩
  · intro typeName names ms hnames ht hnew hne hu
    obtain ⟨record, hr, hslots⟩ := memberNames?_record hnames
    exact decode_insert hr ht hnew hne (Record.recognises_eq_false hslots hu) v
  · exact fun r f => ⟨r.field_withPassthrough _ f, r.form_keeping name v.normalise f⟩
  · intro typeName list names front back hi hu ht xs ys item
    exact decode_around_insert hi hu ht xs ys item v
  · intro hu tag
    have hdecode := FormTag.decode_insert v (Record.recognises_eq_false rfl hu) tag
    refine ⟨hdecode, Definition.ofSorted_tag ?_ hdecode⟩
    cases tag <;> rfl

theorem unknown_member_inert_foreign :
    decode (.object [("name", .string "s"), ("type", .string "select")]) =
      .ok (.select { name := "s" }) ∧
    decode (.object [("choices", .list [.null]), ("name", .string "s"),
      ("type", .string "select")]) =
      .ok (.select { name := "s", passthrough := [("choices", .list [.null])] }) := by
  have hplain : decode (.object [("name", .string "s"), ("type", .string "select")]) =
      .ok (.select { name := "s" }) := by
    rfl
  have hkept := (unknown_member_inert "choices" (.list [.null])).1 "select" _
    [("name", .string "s"), ("type", .string "select")] rfl rfl (by decide) (by decide) (by decide)
  rw [hplain] at hkept
  exact ⟨hplain, hkept⟩

end Field

end FormMarkup
