import FormMarkup.Proofs.Settings.Merging

namespace FormMarkup.Settings

section Documents

def entries : Toml → Pairs Toml
  | .table entries => entries
  | _ => []

def under? (name : String) (t : Toml) : Option Toml :=
  Pairs.find? name (entries t)

def isTable : Toml → Bool
  | .table _ => true
  | _ => false

def text? : Toml → Option String
  | .string s => some s
  | _ => none

def reading? (name : String) (document : Toml) : Option (Option String) :=
  ((under? sectionName document).bind (under? name)).map text?

mutual

def unreserved : Toml → Bool
  | .list items => unreservedItems items
  | .table entries => unreservedEntries entries
  | _ => true

def unreservedItems : List Toml → Bool
  | [] => true
  | item :: items => unreserved item && unreservedItems items

def unreservedEntries : List (String × Toml) → Bool
  | [] => true
  | (name, item) :: entries =>
      name != Value.reservedName && unreserved item && unreservedEntries entries

end

mutual

theorem ofToml_isSome {t : Toml} (h : unreserved t = true) : (Value.ofToml t).isSome = true := by
  cases t with
  | list items =>
      rw [unreserved] at h
      rw [Value.ofToml, Option.isSome_map]
      exact itemsOfToml_isSome h
  | table entries =>
      rw [unreserved] at h
      rw [Value.ofToml, Option.isSome_map]
      exact entriesOfToml_isSome h
  | _ => rfl

theorem itemsOfToml_isSome {items : List Toml} (h : unreservedItems items = true) :
    (Value.itemsOfToml items).isSome = true := by
  cases items with
  | nil => rfl
  | cons item items =>
      rw [unreservedItems, Bool.and_eq_true] at h
      obtain ⟨v, hv⟩ := Option.isSome_iff_exists.mp (ofToml_isSome h.1)
      obtain ⟨vs, hvs⟩ := Option.isSome_iff_exists.mp (itemsOfToml_isSome h.2)
      rw [Value.itemsOfToml, hv, hvs]
      rfl

theorem entriesOfToml_isSome {entries : Pairs Toml} (h : unreservedEntries entries = true) :
    (Value.entriesOfToml entries).isSome = true := by
  cases entries with
  | nil => rfl
  | cons e entries =>
      obtain ⟨n, item⟩ := e
      rw [unreservedEntries, Bool.and_eq_true, Bool.and_eq_true] at h
      obtain ⟨v, hv⟩ := Option.isSome_iff_exists.mp (ofToml_isSome h.1.2)
      obtain ⟨vs, hvs⟩ := Option.isSome_iff_exists.mp (entriesOfToml_isSome h.2)
      rw [Value.entriesOfToml, if_neg (bne_iff_ne.mp h.1.1), hv, hvs]
      rfl

end

def Reads (t : Toml) (v : Value) : Prop :=
  Value.ofToml t = some v

theorem find?_fileEntries {entries : Pairs Toml} {es : Pairs Value}
    (h : Value.fileEntries entries = some es) (name : String) :
    Option.Rel Reads (Pairs.find? name entries) (Pairs.find? name es) := by
  induction entries generalizing es with
  | nil =>
      cases h
      exact .none
  | cons e entries ih =>
      obtain ⟨n, item⟩ := e
      rw [Value.fileEntries] at h
      split at h
      · next v vs hv hvs =>
          cases h
          rw [Pairs.find?, Pairs.find?]
          split
          · exact .some hv
          · exact ih hvs
      · cases h

theorem fileEntries_of_entries {entries : Pairs Toml} {es : Pairs Value}
    (h : Value.entriesOfToml entries = some es) : Value.fileEntries entries = some es := by
  induction entries generalizing es with
  | nil => exact h
  | cons e entries ih =>
      obtain ⟨n, item⟩ := e
      rw [Value.entriesOfToml] at h
      split at h
      · cases h
      · split at h
        · next v vs hv hvs =>
            rw [Value.fileEntries, hv, ih hvs]
            exact h
        · cases h

theorem fileEntries_isSome {entries : Pairs Toml} (h : ∀ e ∈ entries, unreserved e.2 = true) :
    (Value.fileEntries entries).isSome = true := by
  induction entries with
  | nil => rfl
  | cons e entries ih =>
      obtain ⟨v, hv⟩ := Option.isSome_iff_exists.mp (ofToml_isSome (h e (List.mem_cons_self ..)))
      obtain ⟨vs, hvs⟩ := Option.isSome_iff_exists.mp
        (ih fun e he => h e (List.mem_cons_of_mem _ he))
      rw [Value.fileEntries, hv, hvs]
      rfl

def Own (t : Toml) : Prop :=
  (under? Value.standInName t).isNone = true

instance (t : Toml) : Decidable (Own t) :=
  inferInstanceAs (Decidable (_ = true))

theorem ofEntries_own {entries : Pairs Toml} {es : Pairs Value}
    (h : Value.entriesOfToml entries = some es) (hown : Own (.table entries)) :
    Value.ofEntries es = .table es := by
  have hnone := find?_fileEntries (fileEntries_of_entries h) Value.standInName
  rw [show Pairs.find? Value.standInName entries = none from Option.isNone_iff_eq_none.mp hown]
    at hnone
  rw [Value.ofEntries]
  cases hfound : Pairs.find? Value.standInName es with
  | none => rfl
  | some v =>
      rw [hfound] at hnone
      cases hnone

theorem Reads.text? {t : Toml} {v : Value} (h : Reads t v) (hown : Own t) :
    v.text? = text? t := by
  cases t with
  | list items =>
      rw [Reads, Value.ofToml, Option.map_eq_some_iff] at h
      obtain ⟨vs, -, rfl⟩ := h
      rfl
  | table entries =>
      rw [Reads, Value.ofToml, Option.map_eq_some_iff] at h
      obtain ⟨es, hes, rfl⟩ := h
      rw [ofEntries_own hes hown]
      rfl
  | _ =>
      cases h
      rfl

theorem Reads.table {t : Toml} {v : Value} (h : Reads t v) (htable : isTable t = true)
    (hown : Own t) :
    v.isTable = true ∧ ∀ name, Option.Rel Reads (under? name t) (v.under? name) := by
  cases t with
  | table entries =>
      rw [Reads, Value.ofToml, Option.map_eq_some_iff] at h
      obtain ⟨es, hes, rfl⟩ := h
      rw [ofEntries_own hes hown]
      exact ⟨rfl, find?_fileEntries (fileEntries_of_entries hes)⟩
  | _ => cases htable

structure Plain (document : Toml) : Prop where
  rest : ∀ e ∈ entries document, unreserved e.2 = true
  table : ∀ t ∈ under? sectionName document, isTable t = true ∧ Own t
  settings : ∀ t ∈ under? sectionName document, ∀ name ∈ names, ∀ u ∈ under? name t, Own u

instance (document : Toml) : Decidable (Plain document) :=
  decidable_of_iff
    ((∀ e ∈ entries document, unreserved e.2 = true) ∧
      (∀ t ∈ under? sectionName document, isTable t = true ∧ Own t) ∧
      ∀ t ∈ under? sectionName document, ∀ name ∈ names, ∀ u ∈ under? name t, Own u)
    ⟨fun h => ⟨h.1, h.2.1, h.2.2⟩, fun h => ⟨h.rest, h.table, h.settings⟩⟩

variable {text : String} {document : Toml}

theorem parse?_table (h : Toml.parse? text = some document) :
    ∃ entries, document = .table entries := by
  simp only [Toml.parse?] at h
  split at h
  · cases h
  · rw [Toml.assemble, Option.map_eq_some_iff] at h
    obtain ⟨es, -, rfl⟩ := h
    exact ⟨_, rfl⟩

theorem ofFile?_plain (h : Toml.parse? text = some document) (hplain : Plain document) :
    ∃ layer, Value.ofFile? text = some layer ∧ layer.isTable = true ∧
      ∀ name, Option.Rel Reads (under? name document) (layer.under? name) := by
  obtain ⟨entries, rfl⟩ := parse?_table h
  obtain ⟨es, hes⟩ := Option.isSome_iff_exists.mp (fileEntries_isSome hplain.rest)
  refine ⟨.table es, ?_, rfl, find?_fileEntries hes⟩
  rw [Value.ofFile?, h]
  exact congrArg (Option.map Value.table) hes

theorem rel_cases {o : Option Toml} {p : Option Value} (h : Option.Rel Reads o p) :
    (o = none ∧ p = none) ∨ ∃ t v, o = some t ∧ p = some v ∧ Reads t v := by
  cases h with
  | none => exact .inl ⟨rfl, rfl⟩
  | some hread => exact .inr ⟨_, _, rfl, rfl, hread⟩

theorem ofFile?_reading (h : Toml.parse? text = some document) (hplain : Plain document) :
    ∃ layer, Value.ofFile? text = some layer ∧ layer.IsLayer ∧
      ∀ name ∈ names, layer.reading? name = reading? name document := by
  obtain ⟨layer, hlayer, htable, hentry⟩ := ofFile?_plain h hplain
  rcases rel_cases (hentry sectionName) with ⟨ht, hv⟩ | ⟨t, v, ht, hv, hread⟩
  · refine ⟨layer, hlayer, ⟨htable, fun w hw => ?_⟩, fun name _ => ?_⟩
    · rw [hv] at hw
      cases hw
    · rw [Value.reading?, hv, reading?, ht]
      rfl
  · obtain ⟨hsection, hsettings⟩ := hread.table (hplain.table t ht).1 (hplain.table t ht).2
    refine ⟨layer, hlayer, ⟨htable, fun w hw => ?_⟩, fun name hname => ?_⟩
    · rw [hv, Option.some.injEq] at hw
      exact hw ▸ hsection
    · rw [Value.reading?, hv, reading?, ht, Option.bind_some, Option.bind_some]
      rcases rel_cases (hsettings name) with ⟨hu, hw⟩ | ⟨u, w, hu, hw, hread⟩
      · rw [hu, hw]
        rfl
      · rw [hu, hw]
        exact congrArg some (hread.text? (hplain.settings t ht name hname u hu))

theorem fileLayers_readings {files : List (Option String)} {documents : List Toml}
    (h : List.Forall₂ (fun text document => Toml.parse? text = some document)
      (files.filterMap id) documents) (hplain : ∀ d ∈ documents, Plain d) :
    ∃ layers, fileLayers files = some layers ∧ (∀ v ∈ layers, v.IsLayer) ∧
      ∀ name ∈ names, layers.map (Value.reading? name) = documents.map (reading? name) := by
  induction files generalizing documents with
  | nil =>
      cases h
      exact ⟨[], rfl, fun v hv => absurd hv List.not_mem_nil, fun _ _ => rfl⟩
  | cons file files ih =>
      cases file with
      | none => exact ih h hplain
      | some text =>
          cases h with
          | @cons _ document _ documents hparse hrest =>
              obtain ⟨v, hv, hlayer, hread⟩ :=
                ofFile?_reading hparse (hplain document (List.mem_cons_self ..))
              obtain ⟨layers, hlayers, hall, hreads⟩ :=
                ih hrest fun d hd => hplain d (List.mem_cons_of_mem _ hd)
              refine ⟨v :: layers, ?_, ?_, fun name hname => ?_⟩
              · rw [fileLayers, hv, hlayers]
              · exact List.forall_mem_cons.mpr ⟨hlayer, hall⟩
              · rw [List.map_cons, List.map_cons, hread name hname, hreads name hname]

end Documents

section Variables

def assignments (environment : Pairs String) : List (List String × Value) :=
  environment.filterMap fun v => (variablePath? v.1).map fun path => (path, readVariable v.2)

def assigned? (name : String) : List String × Value → Option (Option String)
  | ([first], v) => if first = sectionName then (v.under? name).map Value.text? else none
  | ([first, second], v) =>
      if first = sectionName then if second = name then some v.text? else none else none
  | (first :: second :: _ :: _, _) =>
      if first = sectionName then if second = name then some none else none else none
  | ([], _) => none

theorem ofVariables_eq (environment : Pairs String) (layer : Value) :
    ofVariables environment layer =
      ((assignments environment).map fun a => nest a.1 a.2).foldl Value.merge layer := by
  induction environment generalizing layer with
  | nil => rfl
  | cons v environment ih =>
      obtain ⟨name, text⟩ := v
      rw [ofVariables, assignments, List.filterMap_cons]
      cases variablePath? name with
      | none => exact ih layer
      | some path => exact ih _

theorem splitName_ne_nil (part cs : List Char) : splitName part cs ≠ [] := by
  fun_induction splitName part cs with
  | case1 => exact List.cons_ne_nil _ _
  | case2 => exact List.cons_ne_nil _ _
  | case3 => exact List.cons_ne_nil _ _
  | case4 _ _ _ _ _ ih => exact ih

theorem variablePath?_ne_nil {name : String} {path : List String}
    (h : variablePath? name = some path) : path ≠ [] := by
  simp only [variablePath?] at h
  split at h
  · split at h
    · cases h
    · cases h
      exact fun hnil => splitName_ne_nil _ _ (List.map_eq_nil_iff.mp hnil)
  · cases h

theorem assignments_ne_nil {environment : Pairs String} {a : List String × Value}
    (h : a ∈ assignments environment) : a.1 ≠ [] := by
  obtain ⟨v, -, hv⟩ := List.mem_filterMap.mp h
  obtain ⟨path, hpath, rfl⟩ := Option.map_eq_some_iff.mp hv
  exact variablePath?_ne_nil hpath

theorem isLayer_nest {path : List String} {v : Value} (hpath : path ≠ [])
    (h : path = [sectionName] → v.isTable = true) : (nest path v).IsLayer := by
  cases path with
  | nil => exact absurd rfl hpath
  | cons first rest =>
      refine ⟨rfl, fun w hw => ?_⟩
      rw [nest, Value.under?, Pairs.find?] at hw
      split at hw
      · next hfirst =>
          cases hw
          cases rest with
          | nil => exact h (hfirst ▸ rfl)
          | cons second rest => rfl
      · cases hw

theorem reading?_nest (name : String) (path : List String) (v : Value) (hpath : path ≠ []) :
    (nest path v).reading? name = assigned? name (path, v) := by
  cases path with
  | nil => exact absurd rfl hpath
  | cons first rest =>
      rw [Value.reading?, nest, Value.under?, Pairs.find?]
      cases rest with
      | nil =>
          rw [assigned?]
          split <;> rfl
      | cons second rest =>
          cases rest with
          | nil =>
              rw [assigned?]
              split
              · rw [Option.bind_some, nest, Value.under?, Pairs.find?]
                split <;> rfl
              · rfl
          | cons third rest =>
              rw [assigned?]
              split
              · rw [Option.bind_some, nest, Value.under?, Pairs.find?]
                split <;> rfl
              · rfl

theorem ofVariables_readings {environment : Pairs String}
    (h : ∀ a ∈ assignments environment, a.1 = [sectionName] → a.2.isTable = true) :
    (ofVariables environment (.table [])).IsLayer ∧
      ∀ name, (ofVariables environment (.table [])).reading? name =
        lastGiven ((assignments environment).map (assigned? name)) := by
  have hempty : (Value.table []).IsLayer := ⟨rfl, fun w hw => by cases hw⟩
  have hlayers : ∀ v ∈ (assignments environment).map fun a => nest a.1 a.2, v.IsLayer := by
    intro v hv
    obtain ⟨a, ha, rfl⟩ := List.mem_map.mp hv
    exact isLayer_nest (assignments_ne_nil ha) (h a ha)
  rw [ofVariables_eq]
  refine ⟨hempty.foldl_merge hlayers, fun name => ?_⟩
  rw [Value.reading?_foldl_merge hempty hlayers, List.map_map]
  have hreads : (assignments environment).map (Value.reading? name ∘ fun a => nest a.1 a.2) =
      (assignments environment).map (assigned? name) :=
    List.map_congr_left fun a ha => reading?_nest name a.1 a.2 (assignments_ne_nil ha)
  rw [hreads]
  exact Option.or_none

end Variables

end FormMarkup.Settings
