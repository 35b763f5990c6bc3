import FormMarkup.Proofs.Decode.Agreement
import FormMarkup.Proofs.Field.ByType

namespace FormMarkup

section Lists

variable {α β : Type} {key : Key α} {record : Record} {v w : Json}
  {front back : List (String × Json)}

theorem Key.get_other {name : String} (h : key.slot.answers name = false) :
    key.get (front ++ (name, v) :: back) = key.get (front ++ (name, w) :: back) :=
  get_replace fun ha => absurd ha (by simp [h])

theorem Record.openMembers_replace {of : List (String × Json) → β} {name : String}
    (hs : Slot.find? record.slots name = some key.slot) (h : key.read v = key.read w)
    (hof : of (front ++ (name, v) :: back) = of (front ++ (name, w) :: back)) :
    (record.openMembers (.object (front ++ (name, v) :: back))).map of =
      (record.openMembers (.object (front ++ (name, w) :: back))).map of := by
  have hslot : ∀ slot, Slot.find? record.slots name = some slot →
      slot.fault? v = slot.fault? w := by
    intro slot hfound
    obtain rfl := Option.some.inj (hs.symm.trans hfound)
    exact Key.fault?_congr h
  rw [openMembers, openMembers, membersError?_replace hslot]
  cases record.membersError? (front ++ (name, w) :: back) with
  | some e => rfl
  | none => exact congrArg Except.ok hof

theorem Record.openMembers_error (key : Key α) {of : List (String × Json) → β} {name : String}
    (hs : Slot.find? record.slots name = some key.slot) {e : DecodeError}
    (h : key.read v = .error e) :
    ∃ d, (record.openMembers (.object (front ++ (name, v) :: back))).map of = .error d := by
  have hfault : key.slot.fault? v = some e := by
    simp only [Key.slot, h]
  obtain ⟨d, hd⟩ := membersError?_of_fault hs hfault
  refine ⟨d, ?_⟩
  rw [openMembers, hd]
  rfl

end Lists

section Groups

variable {v w : Json} (front back : List (String × Json))

theorem CheckboxGroup.decode_replace (h : Member.checkboxes.read v = Member.checkboxes.read w) :
    decode (.object (front ++ ("choices", v) :: back)) =
      decode (.object (front ++ ("choices", w) :: back)) := by
  refine Record.openMembers_replace rfl h ?_
  rw [ofMembers, ofMembers, Group.ofMembers, Group.ofMembers,
    Member.classes.get_other (by decide), Member.before.get_other (by decide),
    Member.after.get_other (by decide), Member.order.get_other (by decide),
    Record.passthrough_replace (by decide), Key.get_replace fun _ => h]

theorem RadioGroup.decode_replace (h : Member.choices.read v = Member.choices.read w) :
    decode (.object (front ++ ("choices", v) :: back)) =
      decode (.object (front ++ ("choices", w) :: back)) := by
  refine Record.openMembers_replace rfl h ?_
  rw [ofMembers, ofMembers, Group.ofMembers, Group.ofMembers,
    Member.classes.get_other (by decide), Member.before.get_other (by decide),
    Member.after.get_other (by decide), Member.order.get_other (by decide),
    Member.title.get_other (by decide), Member.name.get_other (by decide),
    Member.requiredUnlessUnset.get_other (by decide),
    Member.requiredTitle.get_other (by decide),
    Record.passthrough_replace (by decide), Key.get_replace fun _ => h]

theorem HiddenInputs.decode_replace (h : Member.pairs.read v = Member.pairs.read w) :
    decode (.object (front ++ ("inputs", v) :: back)) =
      decode (.object (front ++ ("inputs", w) :: back)) := by
  refine Record.openMembers_replace rfl h ?_
  rw [ofMembers, ofMembers, Member.ownName.get_other (by decide),
    Member.ownValue.get_other (by decide), Member.order.get_other (by decide),
    Record.passthrough_replace (by decide), Key.get_replace fun _ => h]

end Groups

namespace Field

structure HoldsItems {α : Type} (typeName list : String) (read : Json → Except DecodeError α) :
    Prop where
  own : list ≠ "type"
  replace : ∀ {vs ws : List Json}, Json.readEach read vs = Json.readEach read ws →
    ∀ front back : List (String × Json),
      decodeAs typeName (.object (front ++ (list, .list vs) :: back)) =
        decodeAs typeName (.object (front ++ (list, .list ws) :: back))
  error : ∀ {vs : List Json} {e : DecodeError}, Json.readEach read vs = .error e →
    ∀ front back : List (String × Json),
      ∃ d, decodeAs typeName (.object (front ++ (list, .list vs) :: back)) = .error d

theorem map_error {ε α β : Type} {x : Except ε α} {f : α → β} (h : ∃ d, x = .error d) :
    ∃ d, x.map f = .error d := by
  obtain ⟨d, rfl⟩ := h
  exact ⟨d, rfl⟩

theorem checkbox_holdsItems : HoldsItems "checkbox" "choices" Checkbox.decode where
  own := by decide
  replace h front back :=
    congrArg (Except.map Field.checkbox) (CheckboxGroup.decode_replace front back h)
  error h _ _ := map_error (Record.openMembers_error Member.checkboxes rfl h)

theorem radio_holdsItems : HoldsItems "radio" "choices" Choice.decode where
  own := by decide
  replace h front back :=
    congrArg (Except.map Field.radio) (RadioGroup.decode_replace front back h)
  error h _ _ := map_error (Record.openMembers_error Member.choices rfl h)

theorem hidden_holdsItems : HoldsItems "hidden" "inputs" HiddenPair.decode where
  own := by decide
  replace h front back :=
    congrArg (Except.map Field.hidden) (HiddenInputs.decode_replace front back h)
  error h _ _ := map_error (Record.openMembers_error Member.pairs rfl h)

def around (list : String) (front back : List (String × Json)) (xs ys : List Json)
    (item : Json) : Json :=
  .object (front ++ (list, .list (xs ++ item :: ys)) :: back)

section Around

variable {α : Type} {typeName list : String} {read : Json → Except DecodeError α}
  {front back : List (String × Json)}

theorem decode_around (hl : list ≠ "type") (ht : typeOfMembers (front ++ back) = .ok typeName)
    (xs ys : List Json) (item : Json) :
    decode (around list front back xs ys item) =
      decodeAs typeName (.object (front.filter (fun m => !isType m) ++
        (list, .list (xs ++ item :: ys)) :: back.filter fun m => !isType m)) := by
  have htype : typeOfMembers (front ++ (list, .list (xs ++ item :: ys)) :: back) =
      .ok typeName := by
    rw [← ht]
    simp [typeOfMembers, isType, hl]
  rw [around, decode, htype]
  simp [Except.bind, isType, hl]

theorem HoldsItems.decode_congr (h : HoldsItems typeName list read)
    (ht : typeOfMembers (front ++ back) = .ok typeName) {a b : Json} (hab : read a = read b)
    (xs ys : List Json) :
    decode (around list front back xs ys a) = decode (around list front back xs ys b) := by
  rw [decode_around h.own ht, decode_around h.own ht]
  exact h.replace (Json.readEach_replace hab xs ys) _ _

theorem HoldsItems.decode_error (h : HoldsItems typeName list read)
    (ht : typeOfMembers (front ++ back) = .ok typeName) {a : Json} {e : DecodeError}
    (ha : read a = .error e) (xs ys : List Json) :
    ∃ d, decode (around list front back xs ys a) = .error d := by
  rw [decode_around h.own ht]
  obtain ⟨d, hd⟩ := Json.readEach_error ha xs ys
  exact h.error hd _ _

theorem HoldsItems.decode_agrees (h : HoldsItems typeName list read)
    (ht : typeOfMembers (front ++ back) = .ok typeName) {a b : Json}
    (hab : Agree Eq (read a) (read b)) (xs ys : List Json) :
    Agree Eq (decode (around list front back xs ys a))
      (decode (around list front back xs ys b)) := by
  cases ha : read a with
  | ok x =>
      have hb : read b = .ok x := hab.ok_iff.mpr ha
      rw [h.decode_congr ht (ha.trans hb.symm) xs ys]
      exact .refl _
  | error e =>
      cases hb : read b with
      | ok x =>
          have hx := hab.ok_iff.mp hb
          rw [ha] at hx
          cases hx
      | error d =>
          obtain ⟨e', he⟩ := h.decode_error ht ha xs ys
          obtain ⟨d', hd⟩ := h.decode_error ht hb xs ys
          rw [he, hd]
          exact .error e' d'

end Around

end Field

end FormMarkup
