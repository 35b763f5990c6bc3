import FormMarkup.Proofs.Field.TextAndTree
import FormMarkup.Proofs.Field.WrittenForm

namespace FormMarkup.Field

variable {keepItem : Nat → String → Bool}

-- The tree has the type among the other members, by name; it is the only one of that name.
theorem decode_typed {typeName : String} {ms : List (String × Json)}
    (h : "type" ∉ Pairs.keys ms) :
    decode (Json.object (("type", .string typeName) :: ms)).normalise =
      decodeAs typeName (Json.object ms).normalise := by
  have hown : ∀ m ∈ ms, isType m = false := fun m hm =>
    decide_eq_false fun heq => h (List.mem_map.mpr ⟨m, hm, heq⟩)
  have htypes : (("type", Json.string typeName) :: ms).filter isType =
      [("type", .string typeName)] := by
    rw [List.filter_cons_of_pos rfl, List.filter_eq_nil_iff.mpr fun m hm => by simp [hown m hm]]
  have hrest : (("type", Json.string typeName) :: ms).filter (fun m => !isType m) = ms := by
    rw [List.filter_cons_of_neg (by simp [isType]),
      List.filter_eq_self.mpr fun m hm => by simp [hown m hm]]
  rw [Json.normalise, decode, typeOfMembers, types_tree, htypes, ownMembers_tree, hrest]
  rfl

theorem type_not_mem_entries (f : Field) : "type" ∉ (f.entries keepItem).map Entry.name := by
  cases f <;> exact of_decide_eq_false rfl

theorem type_not_mem_passthrough {f : Field} (h : f.passthrough.Foreign f.reserved) :
    "type" ∉ Pairs.keys f.passthrough := fun hin =>
  h.foreign "type" hin (List.mem_append_left _ (List.mem_cons_self ..))

theorem decodeAs_written {f : Field} {keep : String → Bool} (hw : f.Writable) :
    decodeAs f.typeName
        (Json.object (Entry.members keep (f.entries keepItem) ++ f.passthrough)).normalise =
      .ok f := by
  obtain ⟨hknown, horders, hrows, hmaps, hforeign⟩ := hw
  cases f with
  | input type f =>
      have ho := horders f.order (List.mem_singleton_self _)
      have hm : ∀ map ∈ f.extraAttributes, Increasing (Pairs.keys map) := fun map hin =>
        hmaps map (Option.mem_toList.mpr hin)
      cases type <;>
        exact congrArg (Except.map (Field.input _)) (TextInput.decode_written ho hm hforeign)
  | textArea f =>
      have ho := horders f.order (List.mem_singleton_self _)
      have hm := hmaps f.extraAttributes (List.mem_singleton_self _)
      have hr := hrows f rfl
      exact congrArg (Except.map Field.textArea) (TextArea.decode_written ho hr hm hforeign)
  | file f =>
      have ho := horders f.order (List.mem_singleton_self _)
      have hm := hmaps f.extraAttributes (List.mem_singleton_self _)
      exact congrArg (Except.map Field.file) (FileInput.decode_written ho hm hforeign)
  | select f =>
      have ho := horders f.order (List.mem_singleton_self _)
      have hl := hmaps f.options (List.mem_cons_self ..)
      have hm := hmaps f.extraAttributes (List.mem_cons_of_mem _ (List.mem_singleton_self _))
      exact congrArg (Except.map Field.select) (Select.decode_written ho hl hm hforeign)
  | checkbox g =>
      have ho := horders g.order (List.mem_cons_self ..)
      have hos : ∀ c ∈ g.choices, Decimal.isWord c.order = true := fun c hc =>
        horders c.order (List.mem_cons_of_mem _ (List.mem_map_of_mem hc))
      have hms : ∀ c ∈ g.choices, Increasing (Pairs.keys c.extraAttributes) := fun c hc =>
        hmaps c.extraAttributes (List.mem_map_of_mem hc)
      exact congrArg (Except.map Field.checkbox) (CheckboxGroup.decode_written ho hos hms hforeign)
  | radio g =>
      have ho := horders g.order (List.mem_cons_self ..)
      have hos : ∀ c ∈ g.choices, Decimal.isWord c.order = true := fun c hc =>
        horders c.order (List.mem_cons_of_mem _ (List.mem_map_of_mem hc))
      have hms : ∀ c ∈ g.choices, Increasing (Pairs.keys c.extraAttributes) := fun c hc =>
        hmaps c.extraAttributes (List.mem_map_of_mem hc)
      exact congrArg (Except.map Field.radio) (RadioGroup.decode_written ho hos hms hforeign)
  | switch f =>
      have ho := horders f.order (List.mem_singleton_self _)
      have hm := hmaps f.extraAttributes (List.mem_singleton_self _)
      exact congrArg (Except.map Field.switch) (Switch.decode_written ho hm hforeign)
  | hidden f =>
      have ho := horders f.order (List.mem_singleton_self _)
      exact congrArg (Except.map Field.hidden) (HiddenInputs.decode_written ho hforeign)
  | nonce n =>
      have ho := horders n.order (List.mem_singleton_self _)
      rw [passthrough, List.append_nil]
      exact congrArg (Except.map Field.nonce) (Nonce.decode_written ho)
  | submit b =>
      have ho := horders b.order (List.mem_singleton_self _)
      exact congrArg (Except.map Field.submit) (SubmitButton.decode_written ho hforeign)
  | unknown => exact (hknown rfl).elim

theorem decode_every_written_form (f : Field) (keep : String → Bool)
    (keepItem : Nat → String → Bool) (hw : f.Writable) :
    decode (f.written keep keepItem).normalise = .ok f := by
  have htype : "type" ∉ Pairs.keys (Entry.members keep (f.entries keepItem) ++ f.passthrough) := by
    rw [Pairs.keys_append, List.mem_append, not_or]
    exact ⟨fun hin => f.type_not_mem_entries (Entry.keys_members_sublist.subset hin),
      type_not_mem_passthrough hw.passthrough⟩
  calc decode (f.written keep keepItem).normalise
      = decodeAs f.typeName
          (Json.object (Entry.members keep (f.entries keepItem) ++ f.passthrough)).normalise :=
        decode_typed htype
    _ = .ok f := decodeAs_written hw

def sizes : Field :=
  .radio
    { title := "Size", name := "size", required := false, order := -2
      passthrough := [("data", .object [("a", .integer 1), ("b", .null)])]
      choices :=
        [{ label := "S", value := "s", extraAttributes := [("class", "x"), ("title", "Small")] },
         { label := "L" }] }

theorem sizes_writable : sizes.Writable where
  known := by rintro ⟨⟩
  orders := by decide
  rows := by rintro a ⟨⟩
  maps := by decide
  passthrough :=
    { increasing := by decide
      normal := List.forall_mem_singleton.mpr rfl
      foreign := by decide }

theorem sizes_written_read_back :
    sizes.written (fun name => name = "requiredTitle") (fun _ _ => false) =
        .object
          [("type", .string "radio"), ("order", .integer (-2)), ("title", .string "Size"),
           ("name", .string "size"), ("required", .bool false), ("requiredTitle", .null),
           ("choices", .list
             [.object [("label", .string "S"), ("value", .string "s"),
                ("extraAttributes", .object [("class", .string "x"), ("title", .string "Small")])],
              .object [("label", .string "L")]]),
           ("data", .object [("a", .integer 1), ("b", .null)])] ∧
      decode (sizes.written (fun name => name = "requiredTitle") fun _ _ => false).normalise =
        .ok sizes :=
  ⟨rfl, decode_every_written_form sizes _ _ sizes_writable⟩

end FormMarkup.Field
