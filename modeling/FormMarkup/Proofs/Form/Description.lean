import FormMarkup.Proofs.Field.ReadBack
import FormMarkup.Proofs.Form.Calls
import FormMarkup.Proofs.Form.Entries

namespace FormMarkup

def member (name : String) (value : Option Json) : List (String × Json) :=
  (value.map fun v => (name, v)).toList

def InputCall.described (name : String) (calls : List InputCall) : List (String × Json) :=
  member "label" ((lastOf label? calls).map .string) ++
    member "name" (some (.string name)) ++
    member "id" ((lastOf id? calls).map .string) ++
    member "required" ((lastOf required? calls).map .bool) ++
    member "class" ((lastOf classes? calls).map .string) ++
    member "hint" ((lastOf hint? calls).map .string) ++
    member "order" ((lastOf order? calls).map .integer) ++
    member "placeholder" ((lastOf placeholder? calls).map .string) ++
    member "value" ((lastOf value? calls).map .string) ++
    member "extraAttributes" ((attributesOf (calls.filterMap attribute?)).map Entry.texts)

namespace Part

def description : Part → Json
  | .hidden pairs =>
      .object
        [("type", .string "hidden"),
         ("inputs", .list (pairs.map fun p =>
            .object [("name", .string p.name), ("value", .string p.value)]))]
  | .nonce name action =>
      .object [("type", .string "nonce"), ("name", .string name), ("value", .string action)]
  | .submit label => .object [("type", .string "submit"), ("value", .string label)]
  | .input type name calls =>
      .object (("type", .string type.name) :: InputCall.described name calls)

end Part

namespace Call

def tagDescription (calls : List Call) : Json :=
  .object
    (member "class" ((lastOf classes? calls).map .string) ++
      member "formClass" ((lastOf formClasses? calls).map .string) ++
      member "id" ((lastOf id? calls).map .string) ++
      member "action" ((lastOf action? calls).map .string) ++
      member "method" ((lastOf method? calls).map .string) ++
      member "attr" (match calls.filterMap attribute? with
        | [] => none
        | a :: as => some (.string (fragment (a :: as)).text)))

def document (calls : List Call) : Json :=
  .object
    [("form", tagDescription calls), ("fields", .list ((Part.ofCalls [] calls).map Part.description))]

end Call

structure InputCall.Ascending (calls : List InputCall) : Prop where
  attributes : Increasing (Pairs.keys (Pairs.distinct (calls.filterMap attribute?)))
  orders : ∀ n ∈ calls.filterMap order?, Decimal.isWord n = true

def Call.Ascending : Call → Prop
  | .input _ _ calls => InputCall.Ascending calls
  | _ => True

def Part.Ascending : Part → Prop
  | .input _ _ calls => InputCall.Ascending calls
  | _ => True

namespace Entry

variable {keep : String → Bool} {name : String}

theorem members_unset {e : Entry} (es : List Entry) (ho : e.optional = true)
    (hk : keep e.name = false) : members keep (e :: es) = members keep es := by
  simp [members, ho, hk]

theorem members_written {e : Entry} (es : List Entry)
    (h : e.optional = false ∨ keep e.name = true) :
    members keep (e :: es) = member e.name e.value ++ members keep es := by
  rcases h with h | h <;> cases hv : e.value <;> simp [members, member, h, hv]

theorem members_orAs (e : Entry) (other : String) (es : List Entry) :
    members keep (e.orAs other :: es) = members keep (e :: es) := rfl

section Set

variable {α : Type} {value : Option α} {json : α → Json} {e : Entry}

theorem members_set (es : List Entry) (hk : keep e.name = value.isSome)
    (hset : ∀ a, value = some a → e.value = some (json a))
    (hunset : value = none → e.optional = true) :
    members keep (e :: es) = member e.name (value.map json) ++ members keep es := by
  cases value with
  | none => exact members_unset es (hunset rfl) hk
  | some a => rw [members_written es (Or.inr hk), hset a rfl]; rfl

end Set

theorem members_text {unset : String} {value : Option String} (es : List Entry)
    (hk : keep name = value.isSome) :
    members keep (text name unset (value.getD unset) :: es) =
      member name (value.map .string) ++ members keep es :=
  members_set es hk (by rintro a rfl; rfl) (by rintro rfl; simp [text])

theorem members_flag {unset : Bool} {value : Option Bool} (es : List Entry)
    (hk : keep name = value.isSome) :
    members keep (flag name unset (value.getD unset) :: es) =
      member name (value.map .bool) ++ members keep es :=
  members_set es hk (by rintro a rfl; rfl) (by rintro rfl; simp [flag])

theorem members_integer {unset : Int} {value : Option Int} (es : List Entry)
    (hk : keep name = value.isSome) :
    members keep (integer name unset (value.getD unset) :: es) =
      member name (value.map .integer) ++ members keep es :=
  members_set es hk (by rintro a rfl; rfl) (by rintro rfl; simp [integer])

theorem members_optionalText {value : Option String} (es : List Entry)
    (hk : keep name = value.isSome) :
    members keep (optionalText name none value :: es) =
      member name (value.map .string) ++ members keep es :=
  members_set es hk (by rintro a rfl; rfl) (by rintro rfl; simp [optionalText])

end Entry

namespace InputCall

def isSet (calls : List InputCall) : String → Bool
  | "label" => (lastOf label? calls).isSome
  | "name" => true
  | "id" => (lastOf id? calls).isSome
  | "required" => (lastOf required? calls).isSome
  | "class" => (lastOf classes? calls).isSome
  | "hint" => (lastOf hint? calls).isSome
  | "order" => (lastOf order? calls).isSome
  | "placeholder" => (lastOf placeholder? calls).isSome
  | "value" => (lastOf value? calls).isSome
  | _ => false

open Entry in
theorem members_entries (name : String) (calls : List InputCall) :
    members (isSet calls) (fieldOf name calls).entries = described name calls := by
  simp only [TextInput.entries, Control.entries, fieldOf, List.cons_append, List.nil_append,
    Written.label, Written.name, Written.id, Written.required, Written.classes, Written.hint,
    Written.order, Written.placeholder, Written.value]
  rw [members_text _ rfl, members_written _ (Or.inr rfl), members_optionalText _ rfl, members_flag _ rfl,
    members_text _ rfl, members_unset _ rfl rfl, members_unset _ rfl rfl, members_text _ rfl,
    members_integer _ rfl, members_unset _ rfl rfl, members_text _ rfl, members_text _ rfl,
    members_unset _ rfl rfl, members_unset _ rfl rfl, members_unset _ rfl rfl,
    members_written _ (Or.inl rfl)]
  simp [described, members, Written.givenAttributes, optionalMap, orAs, text]

end InputCall

namespace Part

def isSet : Part → String → Bool
  | .hidden _ => (· = "inputs")
  | .input _ _ calls => InputCall.isSet calls
  | _ => (· = "value")

theorem description_eq (p : Part) :
    p.description = p.field.written p.isSet fun _ _ => false := by
  cases p with
  | hidden pairs =>
      have hpairs : (pairs.mapIdx fun _ p => p.written fun _ => false) =
          pairs.map fun p => .object [("name", .string p.name), ("value", .string p.value)] := by
        refine List.ext_getElem (by simp) fun i _ _ => ?_
        rw [List.getElem_mapIdx, List.getElem_map]
        rfl
      rw [field, Field.written, Field.entries, HiddenInputs.entries, hpairs,
        Entry.members_written _ (Or.inr rfl), Entry.members_unset _ rfl rfl]
      rfl
  | nonce name action => rfl
  | submit label => rfl
  | input type name calls =>
      rw [field, Field.written, Field.entries, isSet, InputCall.members_entries]
      exact congrArg (fun ms => Json.object (_ :: ms)) (List.append_nil _).symm

theorem ascending_of_mem_ofRun {run : List HiddenPair} {p : Part} (h : p ∈ ofRun run) :
    p.Ascending := by
  cases run with
  | nil => cases h
  | cons q qs => rw [List.mem_singleton.mp h]; trivial

theorem ascending_ofCalls {calls : List Call} (h : ∀ c ∈ calls, c.Ascending)
    (run : List HiddenPair) : ∀ p ∈ ofCalls run calls, p.Ascending := by
  induction calls generalizing run with
  | nil => exact fun _ => ascending_of_mem_ofRun
  | cons c calls ih =>
      obtain ⟨hc, hcalls⟩ := List.forall_mem_cons.mp h
      have hpart : ∀ p : Part, p.Ascending →
          ∀ q ∈ ofRun run ++ p :: ofCalls [] calls, q.Ascending := fun p hp =>
        List.forall_mem_append.mpr
          ⟨fun _ => ascending_of_mem_ofRun, List.forall_mem_cons.mpr ⟨hp, ih hcalls []⟩⟩
      cases c with
      | hidden name value => exact ih hcalls _
      | nonce name action => exact hpart _ trivial
      | submit label => exact hpart _ trivial
      | input type name ics => exact hpart _ hc
      | _ => exact ih hcalls run

theorem writable_field {p : Part} (h : p.Ascending) : p.field.Writable where
  known := by cases p <;> exact Field.noConfusion
  orders := by
    cases p with
    | input type name calls =>
        refine List.forall_mem_singleton.mpr ?_
        change Decimal.isWord ((lastOf InputCall.order? calls).getD 0) = true
        cases ho : lastOf InputCall.order? calls with
        | none => rfl
        | some n => exact h.orders n (List.mem_of_getLast? ho)
    | _ => exact List.forall_mem_singleton.mpr rfl
  rows := by cases p <;> rintro a ⟨⟩
  maps := by
    cases p with
    | input type name calls =>
        intro map hmap
        have hin : InputCall.attributesOf (calls.filterMap InputCall.attribute?) = some map :=
          Option.mem_toList.mp hmap
        have hget := InputCall.getD_attributesOf (calls.filterMap InputCall.attribute?)
        rw [hin, Option.getD_some] at hget
        rw [hget]
        exact h.attributes
    | _ => exact List.forall_mem_nil _
  passthrough := by
    have hnone : p.field.passthrough = [] := by cases p <;> rfl
    rw [hnone]
    exact ⟨.nil, List.forall_mem_nil _, List.forall_mem_nil _⟩

theorem decode_description {p : Part} (h : p.Ascending) :
    Field.decode p.description.normalise = .ok p.field := by
  have hw := writable_field h
  have htype : "type" ∉ Pairs.keys
      (Entry.members p.isSet (p.field.entries fun _ _ => false) ++ p.field.passthrough) := by
    rw [Pairs.keys_append, List.mem_append, not_or]
    exact ⟨fun hin => p.field.type_not_mem_entries (Entry.keys_members_sublist.subset hin),
      Field.type_not_mem_passthrough hw.passthrough⟩
  rw [description_eq, Field.written, Field.decode_typed htype]
  exact Field.decodeAs_written hw

end Part

namespace Written

open Entry

def action := optionalText "action"
def method := optionalText "method"
def formAttributes := markup "attr"

def formClasses (unset value : String) : Entry :=
  (text "formClass" unset value).orAs "form_class"

end Written

namespace FormTag

def entries (tag : FormTag) : List Entry :=
  let unset : FormTag := {}
  [Written.classes unset.classes tag.classes, Written.formClasses unset.formClasses tag.formClasses,
   Written.plainId unset.id tag.id, Written.action unset.action tag.action,
   Written.method unset.method tag.method,
   Written.formAttributes unset.attributes tag.attributes]

theorem decode_written (keep : String → Bool) (tag : FormTag) :
    decode (Json.object (Entry.members keep tag.entries)).normalise = .ok tag := by
  have hnames : (tag.entries.map Entry.name).Nodup := of_decide_eq_true rfl
  have htakes : ∀ e ∈ tag.entries, record.Takes e := by
    simp only [entries, List.forall_mem_cons]
    exact ⟨record.takes Member.classes (by simp [record]) Entry.text_fits,
      record.takes Member.formClasses (by simp [record]) (Entry.text_fits.orAs _),
      record.takes Member.plainId (by simp [record]) Entry.text_fits,
      record.takes Member.action (by simp [record]) Entry.optionalText_fits,
      record.takes Member.method (by simp [record]) Entry.optionalText_fits,
      record.takes Member.formAttributes (by simp [record]) Entry.markup_fits,
      List.forall_mem_nil _⟩
  have h := Record.holds_alone (by decide) hnames htakes
  have hms := h.members_tree keep (List.forall_mem_nil _)
  rw [List.append_nil] at hms
  rw [decode, hms, Except.map, ofMembers,
    h.get Member.classes (Written.classes "" tag.classes) (by simp [record]) (by simp [entries])
      Entry.text_fits,
    h.get Member.formClasses (Written.formClasses "" tag.formClasses) (by simp [record])
      (by simp [entries]) (Entry.text_fits.orAs _),
    h.get Member.plainId (Written.plainId "" tag.id) (by simp [record]) (by simp [entries])
      Entry.text_fits,
    h.get Member.action (Written.action none tag.action) (by simp [record]) (by simp [entries])
      Entry.optionalText_fits,
    h.get Member.method (Written.method none tag.method) (by simp [record]) (by simp [entries])
      Entry.optionalText_fits,
    h.get Member.formAttributes (Written.formAttributes {} tag.attributes) (by simp [record])
      (by simp [entries]) Entry.markup_fits]

end FormTag

namespace Call

def isSet (calls : List Call) : String → Bool
  | "class" => (lastOf classes? calls).isSome
  | "formClass" => (lastOf formClasses? calls).isSome
  | "id" => (lastOf id? calls).isSome
  | "action" => (lastOf action? calls).isSome
  | "method" => (lastOf method? calls).isSome
  | "attr" => !(calls.filterMap attribute?).isEmpty
  | _ => false

open Entry in
theorem tagDescription_eq (calls : List Call) :
    tagDescription calls = .object (members (isSet calls) (tagOf calls).entries) := by
  simp only [FormTag.entries, tagOf, Written.classes, Written.formClasses, Written.plainId,
    Written.action, Written.method]
  rw [members_text _ rfl, members_orAs, members_text _ rfl, members_text _ rfl,
    members_optionalText _ rfl, members_optionalText _ rfl]
  have hattr : members (isSet calls)
      [Written.formAttributes {} (fragment (calls.filterMap attribute?))] =
        member "attr" (match calls.filterMap attribute? with
          | [] => none
          | a :: as => some (.string (fragment (a :: as)).text)) := by
    cases has : calls.filterMap attribute? with
    | nil =>
        have hk : isSet calls "attr" = false := by simp [isSet, has]
        exact members_unset _ rfl hk
    | cons a as =>
        have hk : isSet calls "attr" = true := by simp [isSet, has]
        exact members_written _ (Or.inr hk)
  rw [hattr, tagDescription]
  simp only [List.append_assoc]

theorem decode_tagDescription (calls : List Call) :
    FormTag.decode (tagDescription calls).normalise = .ok (tagOf calls) := by
  rw [tagDescription_eq]
  exact FormTag.decode_written _ _

end Call

namespace Definition

theorem decodeEntries_ok {vs : List Json} {fs : List Field}
    (h : List.Forall₂ (fun v f => Field.decode v = .ok f) vs fs) (k : Nat) :
    decodeEntries k vs = (fs, []) := by
  induction h generalizing k with
  | nil => rfl
  | cons hv _ ih => rw [decodeEntries, hv, ih]

theorem ofSorted_object {ms : List (String × Json)} {tag : FormTag} {vs : List Json}
    (ht : tagOf ms = .ok tag) (he : entriesOf ms = .ok vs) :
    ofSorted (.object ms) =
      .ok ({ tag, fields := (decodeEntries 0 vs).1 }, (decodeEntries 0 vs).2) := by
  rw [ofSorted, ht]
  simp only [he]

theorem decode_parts {ps : List Part} (h : ∀ p ∈ ps, p.Ascending) :
    List.Forall₂ (fun v f => Field.decode v = .ok f)
      (Json.normaliseItems (ps.map Part.description)) (ps.map Part.field) := by
  rw [Json.normaliseItems_eq_map, List.map_map, List.forall₂_map_left_iff,
    List.forall₂_map_right_iff, List.forall₂_same]
  exact fun p hp => Part.decode_description (h p hp)

theorem ofJson_document {calls : List Call} (h : ∀ c ∈ calls, c.Ascending) :
    ofJson (Call.document calls) =
      .ok ({ tag := Call.tagOf calls, fields := (Part.ofCalls [] calls).map Part.field }, []) := by
  have hentries := decodeEntries_ok (decode_parts (Part.ascending_ofCalls h [])) 0
  have htag := Call.decode_tagDescription calls
  let ms : List (String × Json) :=
    [("form", Call.tagDescription calls),
     ("fields", .list ((Part.ofCalls [] calls).map Part.description))]
  have hform : tagOf (Pairs.sorted (Json.normaliseMembers ms)) = .ok (Call.tagOf calls) := by
    rw [tagOf, Json.find?_normalised]
    exact congrArg (Except.mapError DefinitionError.badTag) htag
  have hfields : entriesOf (Pairs.sorted (Json.normaliseMembers ms)) =
      .ok (Json.normaliseItems ((Part.ofCalls [] calls).map Part.description)) := by
    rw [entriesOf, Json.find?_normalised]
    rfl
  rw [ofJson, Call.document, Json.normalise, ofSorted_object hform hfields, hentries]

theorem document_renders_alike (calls : List Call) (h : ∀ c ∈ calls, c.Ascending) :
    ∃ d, ofJson (Call.document calls) = .ok (d, []) ∧
      d.tag = (Builder.ofCalls calls).tag ∧ d.fields = (Builder.ofCalls calls).fields ∧
      ∀ r : Renderer, (d.render r).html = ((Builder.ofCalls calls).build r).html ∧
        (d.render r).warnings = ((Builder.ofCalls calls).build r).warnings := by
  have htag := Call.tag_ofCalls calls
  have hfields := Builder.fields_ofCalls calls
  refine ⟨_, ofJson_document h, htag.symm, hfields.symm, fun r => ?_⟩
  rw [Builder.build, render, htag, hfields]
  exact ⟨rfl, rfl⟩

def signupCalls : List Call :=
  [.classes "box", .hidden "step" "1", .classes "signup", .hidden "step" "2",
   .input .email "mail"
     [.label "Mail", .label "E-mail", .required, .order (-1), .addAttribute "max" "9",
      .addAttribute "size" "2", .addAttribute "max" "5"],
   .hidden "from" "home", .addAttribute "data-step" "1", .nonce "token" "save", .submit "Join"]

theorem document_renders_alike_signup :
    (∀ c ∈ signupCalls, c.Ascending) ∧
    Call.document signupCalls =
      .object
        [("form", .object [("class", .string "signup"), ("attr", .string "data-step=\"1\"")]),
         ("fields", .list
           [.object
              [("type", .string "hidden"),
               ("inputs", .list
                 [.object [("name", .string "step"), ("value", .string "1")],
                  .object [("name", .string "step"), ("value", .string "2")]])],
            .object
              [("type", .string "email"), ("label", .string "E-mail"), ("name", .string "mail"),
               ("required", .bool true), ("order", .integer (-1)),
               ("extraAttributes", .object [("max", .string "5"), ("size", .string "2")])],
            .object
              [("type", .string "hidden"),
               ("inputs", .list [.object [("name", .string "from"), ("value", .string "home")]])],
            .object
              [("type", .string "nonce"), ("name", .string "token"), ("value", .string "save")],
            .object [("type", .string "submit"), ("value", .string "Join")]])] ∧
    ∃ d, ofJson (Call.document signupCalls) = .ok (d, []) ∧
      d.tag = (Builder.ofCalls signupCalls).tag ∧ d.fields = (Builder.ofCalls signupCalls).fields ∧
      ∀ r : Renderer, (d.render r).html = ((Builder.ofCalls signupCalls).build r).html ∧
        (d.render r).warnings = ((Builder.ofCalls signupCalls).build r).warnings := by
  have h : ∀ c ∈ signupCalls, c.Ascending := by
    simp only [signupCalls, List.forall_mem_cons]
    exact ⟨trivial, trivial, trivial, trivial, ⟨by decide, by decide⟩, trivial, trivial, trivial,
      trivial, List.forall_mem_nil _⟩
  exact ⟨h, rfl, document_renders_alike signupCalls h⟩

end Definition

end FormMarkup
