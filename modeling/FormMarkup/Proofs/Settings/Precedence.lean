import FormMarkup.Proofs.Settings.Layers

namespace FormMarkup.Settings

def texts (s : Settings) : Pairs String :=
  [("namespace", s.ns), ("required_title", s.requiredTitle), ("submit_label", s.submitLabel),
    ("text_max_length", s.textMaxLength)]

theorem keys_texts (s : Settings) : Pairs.keys s.texts = names :=
  rfl

theorem mem_names {s : Settings} {e : String × String} (h : e ∈ s.texts) : e.1 ∈ names :=
  keys_texts s ▸ List.mem_map.mpr ⟨e, h, rfl⟩

def usual? (name : String) : Option String :=
  Pairs.find? name ({} : Settings).texts

theorem usual?_isSome : ∀ name ∈ names, (usual? name).isSome = true := by
  decide

theorem readText_eq_ok {path : List String} {v : Value} {fallback s : String} :
    readText path (some v) fallback = .ok s ↔ v.text? = some s := by
  cases v with
  | text t => simp [readText, Value.text?]
  | _ => simp [readText, Value.text?]

theorem bind_eq_ok {α β ε : Type} {x : Except ε α} {f : α → Except ε β} {b : β} :
    x >>= f = .ok b ↔ ∃ a, x = .ok a ∧ f a = .ok b := by
  cases x <;> simp [bind, Except.bind]

theorem ofValues_eq_ok {path : Nat → String → List String} {value : Nat → String → Option Value}
    {s : Settings} :
    ofValues path value = .ok s ↔
      readText (path 0 "namespace") (value 0 "namespace") ({} : Settings).ns = .ok s.ns ∧
      readText (path 1 "required_title") (value 1 "required_title") ({} : Settings).requiredTitle =
        .ok s.requiredTitle ∧
      readText (path 2 "submit_label") (value 2 "submit_label") ({} : Settings).submitLabel =
        .ok s.submitLabel ∧
      readText (path 3 "text_max_length") (value 3 "text_max_length")
        ({} : Settings).textMaxLength = .ok s.textMaxLength := by
  simp only [ofValues, bind_eq_ok]
  constructor
  · rintro ⟨ns, hns, title, htitle, label, hlabel, length, hlength, hs⟩
    cases hs
    exact ⟨hns, htitle, hlabel, hlength⟩
  · rintro ⟨hns, htitle, hlabel, hlength⟩
    exact ⟨_, hns, _, htitle, _, hlabel, _, hlength, rfl⟩

theorem Value.IsLayer.exists_entries {layer : Value} (h : layer.IsLayer) :
    ∃ entries : Pairs Value,
      ofLayer layer = ofValues (fun _ name => [sectionName, name])
        (fun _ name => Pairs.find? name entries) ∧
      ∀ name, layer.reading? name = (Pairs.find? name entries).map Value.text? := by
  have htable := h.table
  cases layer with
  | table all =>
      cases hw : Pairs.find? sectionName all with
      | none =>
          refine ⟨[], ?_, fun name => ?_⟩
          · rw [ofLayer, hw]
            rfl
          · rw [Value.reading?, Value.under?, hw]
            rfl
      | some w =>
          have hsection := h.sections w hw
          cases w with
          | table entries =>
              refine ⟨entries, ?_, fun name => ?_⟩
              · rw [ofLayer, hw]
                rfl
              · rw [Value.reading?, Value.under?, hw]
                rfl
          | _ => cases hsection
  | _ => cases htable

theorem ofLayer_eq_ok {layer : Value} {s : Settings} (h : layer.IsLayer) :
    ofLayer layer = .ok s ↔
      ∀ e ∈ s.texts, (layer.reading? e.1).getD (usual? e.1) = some e.2 := by
  obtain ⟨entries, hof, hread⟩ := h.exists_entries
  have hmember : ∀ (name : String) (path : List String) (fallback t : String),
      usual? name = some fallback →
      (readText path (Pairs.find? name entries) fallback = .ok t ↔
        (layer.reading? name).getD (usual? name) = some t) := by
    intro name path fallback t husual
    rw [hread, husual]
    cases Pairs.find? name entries with
    | none => simp [readText]
    | some v => exact readText_eq_ok
  rw [hof, ofValues_eq_ok, hmember _ _ _ _ rfl, hmember _ _ _ _ rfl, hmember _ _ _ _ rfl,
    hmember _ _ _ _ rfl]
  simp only [texts, List.forall_mem_cons, List.not_mem_nil, false_implies, implies_true, and_true]

theorem exists_texts {text? : String → Option String}
    (h : ∀ name ∈ names, (text? name).isSome = true) :
    ∃ s : Settings, ∀ e ∈ s.texts, text? e.1 = some e.2 := by
  obtain ⟨ns, hns⟩ := Option.isSome_iff_exists.mp (h "namespace" (by decide))
  obtain ⟨title, htitle⟩ := Option.isSome_iff_exists.mp (h "required_title" (by decide))
  obtain ⟨label, hlabel⟩ := Option.isSome_iff_exists.mp (h "submit_label" (by decide))
  obtain ⟨length, hlength⟩ := Option.isSome_iff_exists.mp (h "text_max_length" (by decide))
  refine ⟨⟨ns, title, label, length⟩, ?_⟩
  simp [texts, hns, htitle, hlabel, hlength]

theorem ofLayer_succeeds_iff {layer : Value} (h : layer.IsLayer) :
    (∃ s, ofLayer layer = .ok s) ↔ ∀ name ∈ names, layer.reading? name ≠ some none := by
  constructor
  · rintro ⟨s, hs⟩ name hname hnone
    rw [← keys_texts s] at hname
    obtain ⟨e, he, rfl⟩ := List.mem_map.mp hname
    have hsettled := (ofLayer_eq_ok h).mp hs e he
    rw [hnone] at hsettled
    cases hsettled
  · intro hreads
    have hsettled : ∀ name ∈ names, ((layer.reading? name).getD (usual? name)).isSome = true := by
      intro name hname
      cases hr : layer.reading? name with
      | none => exact usual?_isSome name hname
      | some o =>
          cases o with
          | none => exact absurd hr (hreads name hname)
          | some t => rfl
    obtain ⟨s, hs⟩ := exists_texts hsettled
    exact ⟨s, (ofLayer_eq_ok h).mpr hs⟩

theorem ofLayer_congr {layer layer' : Value} (h : layer.IsLayer) (h' : layer'.IsLayer)
    (hreads : ∀ name ∈ names, layer'.reading? name = layer.reading? name) :
    (ofLayer layer').toOption = (ofLayer layer).toOption := by
  have hiff : ∀ s, ofLayer layer' = .ok s ↔ ofLayer layer = .ok s := by
    intro s
    rw [ofLayer_eq_ok h, ofLayer_eq_ok h']
    exact forall₂_congr fun e he => by rw [hreads e.1 (mem_names he)]
  cases hl : ofLayer layer with
  | ok s => rw [(hiff s).mpr hl]
  | error e =>
      cases hl' : ofLayer layer' with
      | ok s => exact absurd (hl.symm.trans ((hiff s).mp hl')) (fun hne => by cases hne)
      | error e' => rfl

def given (documents : List Toml) (environment : Pairs String) (name : String) :
    Option (Option String) :=
  lastGiven (documents.map (reading? name) ++
    (assignments (Pairs.distinct environment)).map (assigned? name))

structure Layered (files : List (Option String)) (documents : List Toml)
    (environment : Pairs String) : Prop where
  parsed : List.Forall₂ (fun text document => Toml.parse? text = some document)
    (files.filterMap id) documents
  plain : ∀ d ∈ documents, Plain d
  tables : ∀ a ∈ assignments (Pairs.distinct environment),
    a.1 = [sectionName] → a.2.isTable = true

theorem parsed_filterMap {texts : List String}
    (h : ∀ text ∈ texts, (Toml.parse? text).isSome = true) :
    List.Forall₂ (fun text document => Toml.parse? text = some document) texts
      (texts.filterMap Toml.parse?) := by
  induction texts with
  | nil => exact .nil
  | cons text texts ih =>
      obtain ⟨htext, htexts⟩ := List.forall_mem_cons.mp h
      obtain ⟨document, hdocument⟩ := Option.isSome_iff_exists.mp htext
      rw [List.filterMap_cons, hdocument]
      exact .cons hdocument (ih htexts)

section Loading

variable {files : List (Option String)} {documents : List Toml} {environment : Pairs String}

theorem isLayer_layer (s : Settings) : (layer s).IsLayer := by
  refine ⟨rfl, fun w hw => ?_⟩
  cases hw
  rfl

theorem reading?_layer (s : Settings) {name : String} (h : name ∈ names) :
    (layer s).reading? name = (Pairs.find? name s.texts).map some := by
  simp only [names, List.mem_cons, List.not_mem_nil, or_false] at h
  rcases h with rfl | rfl | rfl | rfl <;> rfl

theorem load_eq_ofLayer (h : Layered files documents environment) :
    ∃ merged, load files environment = ofLayer merged ∧ merged.IsLayer ∧
      ∀ name ∈ names, merged.reading? name =
        (given documents environment name).or ((usual? name).map some) := by
  obtain ⟨layers, hlayers, hall, hreads⟩ := fileLayers_readings h.parsed h.plain
  obtain ⟨hvariables, hvreads⟩ := ofVariables_readings h.tables
  have hfiles := (isLayer_layer {}).foldl_merge hall
  refine ⟨_, ?_, hfiles.merge hvariables, fun name hname => ?_⟩
  · rw [load, hlayers]
  · rw [Value.reading?_merge hfiles.table hvariables, hvreads,
      Value.reading?_foldl_merge (isLayer_layer {}) hall, hreads name hname,
      reading?_layer {} hname, given, lastGiven_append, Option.or_assoc, usual?]

theorem getD_or_map_some (o : Option (Option String)) (usual : Option String) :
    (o.or (usual.map some)).getD usual = o.getD usual := by
  cases o <;> cases usual <;> rfl

theorem load_eq_ok (h : Layered files documents environment) {s : Settings} :
    load files environment = .ok s ↔
      ∀ e ∈ s.texts, (given documents environment e.1).getD
        (usual? e.1) = some e.2 := by
  obtain ⟨merged, hload, hmerged, hreads⟩ := load_eq_ofLayer h
  rw [hload, ofLayer_eq_ok hmerged]
  exact forall₂_congr fun e he => by rw [hreads e.1 (mem_names he), getD_or_map_some]

theorem load_succeeds_iff (h : Layered files documents environment) :
    (∃ s, load files environment = .ok s) ↔
      ∀ name ∈ names, given documents environment name ≠ some none := by
  obtain ⟨merged, hload, hmerged, hreads⟩ := load_eq_ofLayer h
  rw [hload, ofLayer_succeeds_iff hmerged]
  refine forall₂_congr fun name hname => not_congr ?_
  rw [hreads name hname]
  cases given documents environment name <;> cases usual? name <;> simp

theorem load_congr {files' : List (Option String)} {documents' : List Toml}
    {environment' : Pairs String} (h : Layered files documents environment)
    (h' : Layered files' documents' environment')
    (hgiven : ∀ name ∈ names, given documents' environment' name =
      given documents environment name) :
    (load files' environment').toOption = (load files environment).toOption := by
  obtain ⟨merged, hload, hmerged, hreads⟩ := load_eq_ofLayer h
  obtain ⟨merged', hload', hmerged', hreads'⟩ := load_eq_ofLayer h'
  rw [hload, hload']
  refine ofLayer_congr hmerged hmerged' fun name hname => ?_
  rw [hreads name hname, hreads' name hname, hgiven name hname]

theorem readVariable_character (c : Char) :
    readVariable (String.ofList ['\x27', c, '\x27']) = .text (String.ofList [c]) := by
  simp [readVariable, scanValue, skipSpaces, isSpace]

theorem load_by_key (h : Layered files documents environment) :
    ((∃ s, load files environment = .ok s) ↔
      ∀ name ∈ names, given documents environment name ≠ some none) ∧
    (∀ s, load files environment = .ok s → ∀ e ∈ s.texts,
      (given documents environment e.1).getD (usual? e.1) = some e.2) ∧
    (∀ files' documents' environment', Layered files' documents' environment' →
      (∀ name ∈ names, given documents' environment' name = given documents environment name) →
      (load files' environment').toOption = (load files environment).toOption) ∧
    ∀ c, readVariable (String.ofList ['\x27', c, '\x27']) = .text (String.ofList [c]) :=
  ⟨load_succeeds_iff h, fun _ hs => (load_eq_ok h).mp hs, fun _ _ _ => load_congr h,
    readVariable_character⟩

end Loading

def lowFile : String :=
  "[forms]\nnamespace = 5\nrequired_title = 'low'\nother = [1]"

def highFile : String :=
  "[forms]\nnamespace = 'high'"

def settlingVariables : Pairs String :=
  [("ACTON_FORMS_FORMS__SUBMIT_LABEL", "\x27x\x27")]

def settlingDocuments : List Toml :=
  [lowFile, highFile].filterMap Toml.parse?

theorem load_by_key_overridden :
    Layered [some lowFile, none, some highFile] settlingDocuments settlingVariables ∧
    ∃ s, load [some lowFile, none, some highFile] settlingVariables = .ok s ∧
      ∀ e ∈ s.texts, some e.2 = Pairs.find? e.1
        [("namespace", "high"), ("required_title", "low"), ("submit_label", "x"),
          ("text_max_length", "50")] := by
  have hlayered : Layered [some lowFile, none, some highFile] settlingDocuments
      settlingVariables :=
    ⟨parsed_filterMap (by decide +kernel), by decide +kernel, by decide +kernel⟩
  obtain ⟨hsucceeds, htexts, -, -⟩ := load_by_key hlayered
  obtain ⟨s, hs⟩ := hsucceeds.mpr (by decide +kernel)
  refine ⟨hlayered, s, hs, fun e he => ?_⟩
  have hname := mem_names he
  rw [← htexts s hs e he]
  revert hname
  generalize e.1 = name
  revert name
  decide +kernel

def standInFile : String :=
  "[forms]\n___figment_value_value = \x7bnamespace=\x27in\x27\x7d\nnamespace=\x27out\x27"

def reservedFile : String :=
  "[other]\n___figment_value_id = 1"

-- The first file defines the namespace as "out", the second no setting at all.
theorem reserved_names_interfere :
    ((Toml.parse? standInFile).map fun d => given [d] [] "namespace") = some (some (some "out")) ∧
    (load [some standInFile] []).toOption.map Settings.ns = some "in" ∧
    ((Toml.parse? reservedFile).map fun d => names.map (given [d] [])) =
      some [none, none, none, none] ∧
    (load [some reservedFile] []).toOption = none := by
  decide +kernel

end FormMarkup.Settings
