import FormMarkup.Proofs.Decimal.Signed
import FormMarkup.Proofs.Decode.SingleNames
import FormMarkup.Proofs.Field.MapKeys

namespace FormMarkup

namespace Json

def scalar? : Json → Option String
  | .null => some ""
  | .bool true => some "true"
  | .bool false => some "false"
  | .integer n => some (toString n)
  | .float x => some (Decimal.Layout.document.text x)
  | .string s => some s
  | .list _ => none
  | .object _ => none

theorem scalarText_iff {v : Json} {s : String} :
    (∃ text, v.scalarText = .ok text ∧ text.getD "" = s) ↔ v.scalar? = some s := by
  cases v with
  | bool b => cases b <;> simp [scalarText, scalar?]
  | integer n => simp [scalarText, scalar?, Decimal.integerText_eq]
  | _ => simp [scalarText, scalar?]

theorem readScalar_iff {v : Json} {s : String} : v.readScalar = .ok s ↔ v.scalar? = some s := by
  rw [← scalarText_iff, readScalar]
  cases v.scalarText <;> simp [Except.map]

theorem scalar?_container {v : Json} (h : v.isContainer = true) : v.scalar? = none := by
  cases v with
  | list items => rfl
  | object ms => rfl
  | _ => cases h

def scalarOr? (name : String) (ms : List (String × Json)) : Option String :=
  ((Pairs.find? name ms).getD .null).scalar?

end Json

def HiddenPair.ofItem? : Json → Option HiddenPair
  | .object ms => do
      let name ← Pairs.find? "name" ms
      let value ← Pairs.find? "value" ms
      return ⟨← name.scalar?, ← value.scalar?⟩
  | .list [name, value] => do
      return ⟨← name.scalar?, ← value.scalar?⟩
  | _ => none

namespace HiddenInputs

def listed? (ms : List (String × Json)) : Option (List HiddenPair) :=
  match Pairs.find? "inputs" ms with
  | none => some []
  | some (.list items) => items.mapM HiddenPair.ofItem?
  | some _ => none

def pairs? (ms : List (String × Json)) : Option (List HiddenPair) := do
  let name ← Json.scalarOr? "name" ms
  let value ← Json.scalarOr? "value" ms
  let listed ← listed? ms
  return (if name = "" then [] else [⟨name, value⟩]) ++ listed

end HiddenInputs

namespace HiddenPair

theorem membersError?_iff {ms : List (String × Json)} (hn : (Pairs.keys ms).Nodup) :
    record.membersError? ms = none ↔
      ((∃ name, Member.pairName.readIn ms = .ok name) ∧
        ∃ value, Member.pairValue.readIn ms = .ok value) ∧
      "name" ∈ Pairs.keys ms ∧ "value" ∈ Pairs.keys ms := by
  have hsingle : Slot.SingleNames record.slots := by decide
  rw [Record.membersError?_eq_none_iff, Slot.membersFault?_single hsingle (by decide) hn]
  simp [record, Key.readIn_ok_iff]

theorem decode_object_iff {ms : List (String × Json)} (hn : (Pairs.keys ms).Nodup)
    {p : HiddenPair} : decode (.object ms) = .ok p ↔ ofItem? (.object ms) = some p := by
  rw [decode, Record.members_object_iff, membersError?_iff hn, ← Pairs.find?_isSome,
    ← Pairs.find?_isSome]
  cases hname : Pairs.find? "name" ms with
  | none => simp [ofItem?, hname]
  | some a =>
      cases hvalue : Pairs.find? "value" ms with
      | none => simp [ofItem?, hvalue]
      | some b =>
          have ha (s : String) : Member.pairName.readIn ms = .ok s ↔ a.scalar? = some s := by
            rw [← Json.readScalar_iff, Key.readIn, Member.pairName, Member.scalar, hname]
          have hb (s : String) : Member.pairValue.readIn ms = .ok s ↔ b.scalar? = some s := by
            rw [← Json.readScalar_iff, Key.readIn, Member.pairValue, Member.scalar, hvalue]
          cases hn : a.scalar? with
          | none => simp [ofItem?, hname, ha, hn]
          | some n =>
              cases hv : b.scalar? with
              | none => simp [ofItem?, hvalue, hb, hv]
              | some v =>
                  have hgetName := Key.get_of_readIn rfl ((ha n).mpr hn)
                  have hgetValue := Key.get_of_readIn rfl ((hb v).mpr hv)
                  simp [ofItem?, hname, hvalue, ha, hb, hn, hv, ofMembers, hgetName, hgetValue]

theorem decode_list_iff {items : List Json} {p : HiddenPair} :
    decode (.list items) = .ok p ↔ ofItem? (.list items) = some p := by
  match items with
  | [] => simp [decode, Record.members_list_iff, Record.itemsError?_eq_none_iff, record, ofItem?]
  | [a] => simp [decode, Record.members_list_iff, Record.itemsError?_eq_none_iff, record, ofItem?]
  | a :: b :: c :: rest =>
      simp [decode, Record.members_list_iff, Record.itemsError?_eq_none_iff, record, ofItem?]
  | [a, b] =>
      have hplaced : Slot.place record.slots [a, b] = [("name", a), ("value", b)] := rfl
      have hobject : decode (.list [a, b]) = .ok p ↔
          decode (.object [("name", a), ("value", b)]) = .ok p := by
        rw [decode, decode, Record.members_list_iff, Record.members_object_iff, hplaced,
          Record.itemsError?_eq_none_iff, Record.membersError?_eq_none_iff, hplaced]
        simp [record, Pairs.keys]
      have hitem : ofItem? (.list [a, b]) = ofItem? (.object [("name", a), ("value", b)]) := rfl
      rw [hobject, hitem]
      exact decode_object_iff (by simp [Pairs.keys])

theorem decode_iff {item : Json} (hd : item.distinctKeys = true) {p : HiddenPair} :
    decode item = .ok p ↔ ofItem? item = some p := by
  cases item with
  | object ms => exact decode_object_iff (Json.distinctKeys_of_mem_object hd).1
  | list items => exact decode_list_iff
  | _ => simp [decode, Record.members, ofItem?, Except.map]

def Faulty : Json → Prop
  | .object ms =>
      ∃ name ∈ ["name", "value"],
        name ∉ Pairs.keys ms ∨ ∃ v, (name, v) ∈ ms ∧ v.isContainer = true
  | .list items => items.length ≠ 2 ∨ ∃ v ∈ items, v.isContainer = true
  | _ => True

theorem ofItem?_faulty {item : Json} (hd : item.distinctKeys = true) (h : Faulty item) :
    ofItem? item = none := by
  cases item with
  | object ms =>
      have hn := (Json.distinctKeys_of_mem_object hd).1
      obtain ⟨name, hname, hfault⟩ := h
      have hnone : (Pairs.find? name ms).bind Json.scalar? = none := by
        rcases hfault with hmissing | ⟨v, hv, hcontainer⟩
        · rw [Pairs.find?_eq_none hmissing, Option.bind_none]
        · rw [(Pairs.find?_eq_some_iff hn).mpr hv, Option.bind_some,
            Json.scalar?_container hcontainer]
      rcases List.mem_pair.mp hname with rfl | rfl
      · cases hfind : Pairs.find? "name" ms <;> simp_all [ofItem?]
      · cases hfind : Pairs.find? "value" ms <;> simp_all [ofItem?]
  | list items =>
      match items, h with
      | [a, b], .inr ⟨v, hv, hcontainer⟩ =>
          have hnone := Json.scalar?_container hcontainer
          rcases List.mem_pair.mp hv with rfl | rfl <;> simp [ofItem?, hnone]
      | [a, b], .inl hlength => exact absurd rfl hlength
      | [], _ => rfl
      | [_], _ => rfl
      | _ :: _ :: _ :: _, _ => rfl
  | _ => rfl

end HiddenPair

namespace HiddenInputs

def Faulty (ms : List (String × Json)) : Prop :=
  (∃ name ∈ ["name", "value"], ∃ v, (name, v) ∈ ms ∧ v.isContainer = true) ∨
    ∃ items item, ("inputs", .list items) ∈ ms ∧ item ∈ items ∧ HiddenPair.Faulty item

variable {ms : List (String × Json)}

theorem membersError?_iff (hn : (Pairs.keys ms).Nodup) :
    record.membersError? ms = none ↔
      (∃ pairs, Member.pairs.readIn ms = .ok pairs) ∧
      (∃ name, Member.ownName.readIn ms = .ok name) ∧
      (∃ value, Member.ownValue.readIn ms = .ok value) ∧
      ∃ n, Member.order.readIn ms = .ok n := by
  have hsingle : Slot.SingleNames record.slots := by decide
  rw [Record.membersError?_eq_none_iff, Slot.membersFault?_single hsingle (by decide) hn]
  simp [record, Key.readIn_ok_iff]

theorem readIn_pairs_iff (hd : (Json.object ms).distinctKeys = true) {pairs : List HiddenPair} :
    Member.pairs.readIn ms = .ok pairs ↔ listed? ms = some pairs := by
  rw [Key.readIn, Member.pairs, listed?]
  cases hv : Pairs.find? "inputs" ms with
  | none => simp
  | some v =>
      have hdv : v.distinctKeys = true :=
        (Json.distinctKeys_of_mem_object hd).2 _ (Pairs.mem_of_find? hv)
      cases v with
      | list items =>
          have hitems := Json.distinctKeys_of_mem_list hdv
          exact Json.readEach_ok_iff fun item hitem p => HiddenPair.decode_iff (hitems item hitem)
      | _ => simp [Json.readList]

theorem readIn_scalar_iff (name : String) {s : String} :
    (∃ text, (Member.optionalScalar name).readIn ms = .ok text ∧ text.getD "" = s) ↔
      Json.scalarOr? name ms = some s := by
  rw [Json.scalarOr?, ← Json.scalarText_iff, Key.readIn, Member.optionalScalar]
  cases Pairs.find? name ms with
  | none => simp [Json.scalarText]
  | some v => rfl

theorem readIn_order :
    Member.order.readIn ms = ((Pairs.find? "order" ms).getD .null).readInteger := by
  rw [Key.readIn, Member.order]
  cases Pairs.find? "order" ms <;> rfl

theorem pairs_ofMembers {listed : List HiddenPair} {name value : Option String}
    (hl : Member.pairs.readIn ms = .ok listed) (hn : Member.ownName.readIn ms = .ok name)
    (hv : Member.ownValue.readIn ms = .ok value) :
    (ofMembers ms).pairs =
      (if name.getD "" = "" then [] else [⟨name.getD "", value.getD ""⟩]) ++ listed := by
  rw [ofMembers, Key.get_of_readIn rfl hl, Key.get_of_readIn rfl hn, Key.get_of_readIn rfl hv]
  cases name <;> simp [firstPair]

theorem decode_object_iff (hd : (Json.object ms).distinctKeys = true) (pairs : List HiddenPair) :
    (∃ f, decode (.object ms) = .ok f ∧ f.pairs = pairs) ↔
      pairs? ms = some pairs ∧
        ∃ n, ((Pairs.find? "order" ms).getD .null).readInteger = .ok n := by
  have hn := (Json.distinctKeys_of_mem_object hd).1
  simp only [decode, Record.openMembers_object_iff, membersError?_iff hn, readIn_order]
  constructor
  · rintro ⟨_, ⟨⟨⟨listed, hlisted⟩, ⟨name, hname⟩, ⟨value, hvalue⟩, horder⟩, rfl⟩, rfl⟩
    refine ⟨?_, horder⟩
    have hn := (readIn_scalar_iff "name").mp ⟨name, hname, rfl⟩
    have hv := (readIn_scalar_iff "value").mp ⟨value, hvalue, rfl⟩
    have hl := (readIn_pairs_iff hd).mp hlisted
    rw [pairs_ofMembers hlisted hname hvalue]
    simp [pairs?, hn, hv, hl]
  · rintro ⟨hpairs, horder⟩
    simp only [pairs?, Option.bind_eq_bind, Option.bind_eq_some_iff, Option.pure_def,
      Option.some.injEq] at hpairs
    obtain ⟨n, hn, v, hv, listed, hl, rfl⟩ := hpairs
    obtain ⟨name, hname, rfl⟩ := (readIn_scalar_iff "name").mpr hn
    obtain ⟨value, hvalue, rfl⟩ := (readIn_scalar_iff "value").mpr hv
    have hlisted := (readIn_pairs_iff hd).mpr hl
    exact ⟨ofMembers ms, ⟨⟨⟨listed, hlisted⟩, ⟨name, hname⟩, ⟨value, hvalue⟩, horder⟩, rfl⟩,
      pairs_ofMembers hlisted hname hvalue⟩

theorem pairs?_faulty (hd : (Json.object ms).distinctKeys = true) (h : Faulty ms) :
    pairs? ms = none := by
  obtain ⟨hn, hmembers⟩ := Json.distinctKeys_of_mem_object hd
  rcases h with ⟨name, hname, v, hv, hcontainer⟩ | ⟨items, item, hitems, hitem, hfaulty⟩
  · have hnone : Json.scalarOr? name ms = none := by
      rw [Json.scalarOr?, (Pairs.find?_eq_some_iff hn).mpr hv]
      exact Json.scalar?_container hcontainer
    rcases List.mem_pair.mp hname with rfl | rfl <;> simp [pairs?, hnone]
  · have hitemd := Json.distinctKeys_of_mem_list (hmembers _ hitems) item hitem
    have hlisted : listed? ms = none := by
      rw [listed?, (Pairs.find?_eq_some_iff hn).mpr hitems]
      exact Json.mapM_eq_none hitem (HiddenPair.ofItem?_faulty hitemd hfaulty)
    simp [pairs?, hlisted]

end HiddenInputs

namespace Field

theorem typeOfMembers_iff {ms : List (String × Json)} (hn : (Pairs.keys ms).Nodup)
    {typeName : String} :
    typeOfMembers ms = .ok typeName ↔ Pairs.find? "type" ms = some (.string typeName) := by
  have hfind : Pairs.find? "type" (ms.filter isType) = Pairs.find? "type" ms :=
    Pairs.find?_filter (fun name => decide (name = "type")) "type" ms
  rw [typeOfMembers, ← hfind]
  rcases types_of_nodup hn with hnil | ⟨v, hone⟩
  · simp [hnil, Pairs.find?]
  · rw [hone]
    cases v <;> simp [readTypeName, Pairs.find?]

theorem type_of_hidden {typeName : String} {v : Json} {f : HiddenInputs}
    (h : decodeAs typeName v = .ok (.hidden f)) : typeName = "hidden" := by
  unfold decodeAs at h
  split at h
  case h_11 => rfl
  case h_14 =>
    unfold decodeUnknown at h
    split at h <;> cases h
  all_goals
    obtain ⟨a, -, ha⟩ := map_ok h
    cases ha

theorem find?_own {name : String} (h : name ≠ "type") (ms : List (String × Json)) :
    Pairs.find? name (ownMembers (.object ms)) = Pairs.find? name ms :=
  (Pairs.find?_filter (fun n => !decide (n = "type")) name ms).trans (if_pos (by simp [h]))

theorem pairs?_own (ms : List (String × Json)) :
    HiddenInputs.pairs? (ownMembers (.object ms)) = HiddenInputs.pairs? ms := by
  have hname := find?_own (show "name" ≠ "type" by decide) ms
  have hvalue := find?_own (show "value" ≠ "type" by decide) ms
  have hinputs := find?_own (show "inputs" ≠ "type" by decide) ms
  simp only [HiddenInputs.pairs?, HiddenInputs.listed?, Json.scalarOr?, hname, hvalue, hinputs]

theorem decode_object_hidden_iff {ms : List (String × Json)} (hn : (Pairs.keys ms).Nodup)
    {f : HiddenInputs} :
    decode (.object ms) = .ok (.hidden f) ↔
      Pairs.find? "type" ms = some (.string "hidden") ∧
        HiddenInputs.decode (.object (ownMembers (.object ms))) = .ok f := by
  rw [← typeOfMembers_iff hn]
  constructor
  · intro h
    obtain ⟨typeName, htype, hdecode⟩ := bind_ok h
    obtain rfl := type_of_hidden hdecode
    obtain ⟨g, hg, heq⟩ := map_ok hdecode
    obtain rfl := Field.hidden.inj heq
    exact ⟨htype, hg⟩
  · rintro ⟨htype, hf⟩
    rw [decode, htype]
    exact congrArg (Except.map Field.hidden) hf

theorem decode_list_ne_hidden (items : List Json) (f : HiddenInputs) :
    decode (.list items) ≠ .ok (.hidden f) := by
  intro h
  cases items with
  | nil => cases h
  | cons item items =>
      obtain ⟨typeName, -, hdecode⟩ := bind_ok h
      obtain rfl := type_of_hidden hdecode
      cases hdecode

theorem decode_hidden_iff {v : Json} (hd : v.distinctKeys = true) {pairs : List HiddenPair} :
    (∃ f, decode v = .ok (.hidden f) ∧ f.pairs = pairs) ↔
      ∃ ms, v = .object ms ∧ Pairs.find? "type" ms = some (.string "hidden") ∧
        HiddenInputs.pairs? ms = some pairs ∧
        ∃ n, ((Pairs.find? "order" ms).getD .null).readInteger = .ok n := by
  cases v with
  | object ms =>
      have hn := (Json.distinctKeys_of_mem_object hd).1
      have hown : (Json.object (ownMembers (.object ms))).distinctKeys = true :=
        Json.distinctKeys_object (hn.sublist (List.filter_sublist.map Prod.fst))
          (distinctKeys_ownMembers hd)
      have hinner := HiddenInputs.decode_object_iff hown pairs
      rw [pairs?_own, find?_own (by decide)] at hinner
      simp only [decode_object_hidden_iff hn, and_assoc, exists_and_left, hinner,
        Json.object.injEq, exists_eq_left']
  | list items =>
      refine ⟨fun ⟨f, hf, _⟩ => absurd hf (decode_list_ne_hidden items f), ?_⟩
      rintro ⟨ms, hms, -⟩
      cases hms
  | _ =>
      refine ⟨fun ⟨f, hf, _⟩ => ?_, fun ⟨ms, hms, _⟩ => ?_⟩
      · cases hf
      · cases hms

theorem decode_faulty {ms : List (String × Json)} (hd : (Json.object ms).distinctKeys = true)
    (ht : Pairs.find? "type" ms = some (.string "hidden")) (h : HiddenInputs.Faulty ms) :
    ∃ e, decode (.object ms) = .error e := by
  cases hdecode : decode (.object ms) with
  | error e => exact ⟨e, rfl⟩
  | ok g =>
      have htype := (typeOfMembers_iff (Json.distinctKeys_of_mem_object hd).1).mpr ht
      have hhidden : ∃ f, decode (.object ms) = .ok (.hidden f) := by
        rw [hdecode]
        rw [decode, htype] at hdecode
        obtain ⟨f, -, rfl⟩ := map_ok hdecode
        exact ⟨f, rfl⟩
      obtain ⟨f, hf⟩ := hhidden
      obtain ⟨ms', hms, -, hpairs, -⟩ := (decode_hidden_iff hd).mp ⟨f, hf, rfl⟩
      obtain rfl := Json.object.inj hms
      rw [HiddenInputs.pairs?_faulty hd h] at hpairs
      cases hpairs

end Field

end FormMarkup
