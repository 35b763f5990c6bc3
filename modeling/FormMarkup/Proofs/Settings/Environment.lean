import FormMarkup.Proofs.Settings.Precedence
import FormMarkup.Proofs.Settings.Variable

namespace FormMarkup.Settings

section SettingFile

def settingFile (name text : String) : String :=
  "[forms]\n" ++ name ++ " = \"" ++ text ++ "\""

theorem IsPhraseChar.isPlain {c : Char} (h : IsPhraseChar c) : Toml.isPlain c = true := by
  rcases h with h | h
  · have hrange := isAlphanum_iff.mp h
    simp [Toml.isPlain]
    omega
  · simp only [List.mem_cons, List.not_mem_nil, or_false] at h
    rcases h with rfl | rfl | rfl <;> decide

theorem scanBasic_phrase {cs : List Char} (h : ∀ c ∈ cs, IsPhraseChar c) (rest : List Char) :
    Toml.scanBasic (cs ++ '"' :: rest) = some (cs, rest) := by
  induction cs with
  | nil => rfl
  | cons c cs ih =>
      obtain ⟨hc, hcs⟩ := List.forall_mem_cons.mp h
      have hbackslash : c ≠ '\\' := hc.ne (by decide)
      rw [List.cons_append, Toml.scanBasic, if_pos hc.isPlain, ih hcs]
      · rfl
      · exact hc.ne (by decide)
      all_goals
        intros
        contradiction

theorem value_phrase {text : String} (h : Phrase text) (rest : List Char) :
    Toml.value ('"' :: (text.toList ++ '"' :: rest)) = some (.string text, rest) := by
  have hlong : ∀ tail, text.toList ++ '"' :: rest ≠ '"' :: '"' :: tail := by
    intro tail heq
    have hquote : '"' ∉ text.toList := h.not_mem (by decide)
    cases hcs : text.toList with
    | nil => exact h.nonempty (String.toList_eq_nil_iff.mp hcs)
    | cons c cs =>
        rw [hcs] at heq hquote
        exact hquote (by simp [(List.cons.inj heq).1])
  have hscan : Toml.scanString ('"' :: (text.toList ++ '"' :: rest)) =
      some (text.toList, rest) := by
    rw [Toml.scanString, scanBasic_phrase h.chars]
    exact hlong
  calc Toml.value ('"' :: (text.toList ++ '"' :: rest))
      = (Toml.scanString ('"' :: (text.toList ++ '"' :: rest))).map
          fun r => (Toml.string (String.ofList r.1), r.2) := rfl
    _ = some (.string text, rest) := by
        rw [hscan, Option.map_some, String.ofList_toList]

theorem statement?_header (rest : List Char) :
    Toml.statement? ("[forms]".toList ++ '\n' :: rest) =
      some (.header (.table [] sectionName), '\n' :: rest) := by
  rfl

theorem statement?_setting {name : String} (hname : name ∈ names) (cs : List Char) :
    Toml.statement? (name.toList ++ " = ".toList ++ '"' :: cs) =
      (Toml.value ('"' :: cs)).map fun r => (.pair (([], name), r.1), r.2) := by
  simp only [names, List.mem_cons, List.not_mem_nil, or_false] at hname
  rcases hname with rfl | rfl | rfl | rfl <;>
  · show Option.map _ (Option.map _ _) = _
    rw [Option.map_map]
    rfl

theorem statements_cons {c : Char} (hc : c ∉ [' ', '\t', '#', '\n', '\r'])
    {cs rest next : List Char} {s : Toml.Statement} (hs : Toml.statement? (c :: cs) = some (s, rest))
    (hend : Toml.endLine? rest = some next) (lines : Nat) :
    Toml.statements (lines + 1) (c :: cs) = (Toml.statements lines next).map (s :: ·) := by
  simp only [List.mem_cons, List.not_mem_nil, or_false, not_or] at hc
  have hskip : Toml.skipGap (c :: cs) = c :: cs :=
    List.dropWhile_cons_of_neg (by simp [Toml.isGap, hc])
  rw [Toml.statements, hskip]
  split
  · contradiction
  · next heq => exact absurd (List.cons.inj heq).1 hc.2.2.1
  · next heq => exact absurd (List.cons.inj heq).1 hc.2.2.2.1
  · next heq => exact absurd (List.cons.inj heq).1 hc.2.2.2.2
  · simp only [hs, hend, Option.bind_some]
    cases Toml.statements lines next <;> rfl

theorem exists_names_cons {name : String} (hname : name ∈ names) :
    ∃ c cs, name.toList = c :: cs ∧ c ∉ [' ', '\t', '#', '\n', '\r'] := by
  simp only [names, List.mem_cons, List.not_mem_nil, or_false] at hname
  rcases hname with rfl | rfl | rfl | rfl <;> exact ⟨_, _, rfl, by decide⟩

theorem parse?_settingFile {name text : String} (hname : name ∈ names) (h : Phrase text) :
    Toml.parse? (settingFile name text) =
      some (.table [(sectionName, .table [(name, .string text)])]) := by
  have htext : (settingFile name text).toList =
      "[forms]".toList ++ '\n' ::
        (name.toList ++ " = ".toList ++ '"' :: (text.toList ++ ['"'])) := by
    simp [settingFile]
  have hsetting := (statement?_setting hname (text.toList ++ ['"'])).trans
    (congrArg _ (value_phrase h []))
  obtain ⟨c, cs, hcs, hplain⟩ := exists_names_cons hname
  have hstatements : ∀ lines, Toml.statements (lines + 3) (settingFile name text).toList =
      some [.header (.table [] sectionName), .pair (([], name), .string text)] := by
    intro lines
    rw [hcs] at hsetting
    rw [htext, hcs]
    refine (statements_cons (by decide) (statement?_header _) rfl _).trans ?_
    refine (congrArg _ (statements_cons hplain hsetting rfl _)).trans ?_
    rfl
  obtain ⟨lines, hlines⟩ : ∃ lines, (settingFile name text).toList.length + 1 = lines + 3 :=
    ⟨(settingFile name text).toList.length - 2, by simp [htext]⟩
  have hmark : Toml.skipMark (settingFile name text).toList = (settingFile name text).toList := by
    rw [htext]
    rfl
  rw [Toml.parse?]
  simp only [hmark, hlines, hstatements]
  rfl

end SettingFile

section United

variable {files : List (Option String)} {base : Value}

def fromFiles (files : List (Option String)) : Option Value :=
  (fileLayers files).map fun layers => layers.foldl Value.merge (layer {})

def united (files : List (Option String)) (environment : Pairs String) : Option Value :=
  (fromFiles files).map fun base =>
    base.merge (ofVariables (Pairs.distinct environment) (.table []))

theorem load_eq (files : List (Option String)) (environment : Pairs String) :
    load files environment = ((united files environment).map ofLayer).getD (.error .badFile) := by
  rw [load, united, fromFiles]
  cases fileLayers files <;> rfl

theorem isTable_ofFile? {text : String} {v : Value} (h : Value.ofFile? text = some v) :
    v.isTable = true := by
  rw [Value.ofFile?] at h
  split at h
  · obtain ⟨entries, -, rfl⟩ := Option.map_eq_some_iff.mp h
    rfl
  · cases h

theorem fileLayers_cons_some (text : String) (files : List (Option String)) :
    fileLayers (some text :: files) =
      (Value.ofFile? text).bind fun v => (fileLayers files).map (v :: ·) := by
  rw [fileLayers]
  cases Value.ofFile? text <;> cases fileLayers files <;> rfl

theorem isTable_fileLayers {layers : List Value} (h : fileLayers files = some layers) :
    ∀ v ∈ layers, v.isTable = true := by
  induction files generalizing layers with
  | nil =>
      cases h
      exact fun v hv => absurd hv List.not_mem_nil
  | cons file files ih =>
      cases file with
      | none => exact ih h
      | some text =>
          rw [fileLayers_cons_some] at h
          obtain ⟨v, hv, hrest⟩ := Option.bind_eq_some_iff.mp h
          obtain ⟨rest, hfiles, rfl⟩ := Option.map_eq_some_iff.mp hrest
          exact List.forall_mem_cons.mpr ⟨isTable_ofFile? hv, ih hfiles⟩

theorem fileLayers_append_some (files : List (Option String)) (text : String) :
    fileLayers (files ++ [some text]) =
      (fileLayers files).bind fun layers => (Value.ofFile? text).map fun v => layers ++ [v] := by
  induction files with
  | nil =>
      rw [List.nil_append, fileLayers_cons_some]
      cases Value.ofFile? text <;> rfl
  | cons file files ih =>
      cases file with
      | none => exact ih
      | some other =>
          rw [List.cons_append, fileLayers_cons_some, fileLayers_cons_some, ih]
          cases Value.ofFile? other <;> cases fileLayers files <;> cases Value.ofFile? text <;> rfl

theorem isTable_foldl_merge {low : Value} {layers : List Value} (hlow : low.isTable = true)
    (h : ∀ v ∈ layers, v.isTable = true) : (layers.foldl Value.merge low).isTable = true := by
  induction layers generalizing low with
  | nil => exact hlow
  | cons v layers ih =>
      obtain ⟨hv, hlayers⟩ := List.forall_mem_cons.mp h
      exact ih ((Value.isTable_merge low v).trans hv) hlayers

theorem isTable_fromFiles (h : fromFiles files = some base) : base.isTable = true := by
  obtain ⟨layers, hlayers, rfl⟩ := Option.map_eq_some_iff.mp h
  exact isTable_foldl_merge rfl (isTable_fileLayers hlayers)

theorem fromFiles_append_some (files : List (Option String)) (text : String) :
    fromFiles (files ++ [some text]) =
      (fromFiles files).bind fun base => (Value.ofFile? text).map base.merge := by
  rw [fromFiles, fileLayers_append_some, fromFiles]
  cases fileLayers files with
  | none => rfl
  | some layers =>
      cases Value.ofFile? text with
      | none => rfl
      | some v => exact congrArg some (List.foldl_append ..)

theorem Value.isLayer_of_reading {v : Value} {name : String} {r : Option String}
    (htable : v.isTable = true) (h : v.reading? name = some r) : v.IsLayer := by
  refine ⟨htable, fun w hw => ?_⟩
  rw [Value.reading?, hw] at h
  cases hw' : w.isTable with
  | true => rfl
  | false =>
      rw [Option.bind_some, under?_of_not_table hw'] at h
      cases h

end United

section Tells

variable {name : String} {said : Option String} {base low rest all all' : Value}

structure Tells (name : String) (said : Option String) (rest all : Value) : Prop where
  table : all.isTable = true
  reading : ∀ other ∈ names,
    all.reading? other = if other = name then some said else rest.reading? other

theorem Tells.isLayer (hname : name ∈ names) (h : Tells name said rest all) : all.IsLayer :=
  Value.isLayer_of_reading h.table ((h.reading name hname).trans (if_pos rfl))

theorem Tells.merge (hname : name ∈ names) (h : Tells name said rest all) (hrest : rest.IsLayer)
    (hbase : base.isTable = true) : Tells name said (base.merge rest) (base.merge all) := by
  refine ⟨(Value.isTable_merge base all).trans h.table, fun other hother => ?_⟩
  rw [Value.reading?_merge hbase (h.isLayer hname), Value.reading?_merge hbase hrest,
    h.reading other hother]
  split <;> rfl

theorem Tells.below (h : Tells name said base low) (hbase : base.isTable = true)
    (hrest : rest.IsLayer) (hunsaid : rest.reading? name = none) :
    Tells name said (base.merge rest) (low.merge rest) := by
  refine ⟨(Value.isTable_merge low rest).trans hrest.table, fun other hother => ?_⟩
  rw [Value.reading?_merge h.table hrest, Value.reading?_merge hbase hrest, h.reading other hother]
  split
  · next heq =>
      rw [heq, hunsaid]
      rfl
  · rfl

theorem Tells.congr (hname : name ∈ names) (h : Tells name said rest all)
    (h' : Tells name said rest all') : (ofLayer all).toOption = (ofLayer all').toOption :=
  ofLayer_congr (h'.isLayer hname) (h.isLayer hname) fun other hother =>
    (h.reading other hother).trans (h'.reading other hother).symm

theorem Tells.ofLayer_error (hname : name ∈ names) (h : Tells name none rest all) :
    ∃ e, ofLayer all = .error e := by
  cases hall : ofLayer all with
  | error e => exact ⟨e, rfl⟩
  | ok s =>
      exact absurd ((h.reading name hname).trans (if_pos rfl))
        ((ofLayer_succeeds_iff (h.isLayer hname)).mp ⟨s, hall⟩ name hname)

theorem Tells.ofLayer_succeeds_iff {text : String} (hname : name ∈ names)
    (h : Tells name (some text) rest all) :
    (∃ s, ofLayer all = .ok s) ↔
      ∀ other ∈ names, other ≠ name → rest.reading? other ≠ some none := by
  rw [Settings.ofLayer_succeeds_iff (h.isLayer hname)]
  refine forall₂_congr fun other hother => ?_
  rw [h.reading other hother]
  by_cases heq : other = name <;> simp [heq]

theorem Tells.text {text : String} (hname : name ∈ names) (h : Tells name (some text) rest all)
    {s : Settings} (hs : ofLayer all = .ok s) : Pairs.find? name s.texts = some text := by
  obtain ⟨t, ht⟩ := Option.isSome_iff_exists.mp (Pairs.find?_isSome.mpr (keys_texts s ▸ hname))
  have hsettled := (ofLayer_eq_ok (h.isLayer hname)).mp hs _ (Pairs.mem_of_find? ht)
  rw [h.reading name hname, if_pos rfl] at hsettled
  exact ht.trans hsettled.symm

end Tells

section Alone

variable {environment : Pairs String} {key name text : String}

def without (key : String) (environment : Pairs String) : Pairs String :=
  (Pairs.distinct environment).filter fun e => e.1 ≠ key

/-- One variable gives the setting, and no other one says anything of it: none names it, a part of
it, or all settings as something else than a table. -/
structure Gives (environment : Pairs String) (key name text : String) : Prop where
  named : Text.lowerLetters key = variableName name
  given : (key, text) ∈ Pairs.distinct environment
  alone : ∀ a ∈ assignments (without key environment), assigned? name a = none
  tables : ∀ a ∈ assignments (without key environment),
    a.1 = [sectionName] → a.2.isTable = true

theorem distinct_without (key : String) (environment : Pairs String) :
    Pairs.distinct (without key environment) = without key environment :=
  Pairs.distinct_of_nodup
    ((Pairs.nodup_distinct environment).sublist (List.filter_sublist.map Prod.fst))

theorem exists_distinct_eq (h : (key, text) ∈ Pairs.distinct environment) :
    ∃ before after, Pairs.distinct environment = before ++ (key, text) :: after ∧
      without key environment = before ++ after := by
  obtain ⟨before, after, hsplit⟩ := List.append_of_mem h
  have hnodup := Pairs.nodup_distinct environment
  rw [hsplit] at hnodup
  have hfresh : key ∉ Pairs.keys (before ++ after) :=
    (List.nodup_cons.mp ((List.perm_middle.map Prod.fst).nodup hnodup)).1
  have hkeep : ∀ e ∈ before ++ after, decide (e.1 ≠ key) = true := fun e he =>
    decide_eq_true fun heq => hfresh (heq ▸ List.mem_map.mpr ⟨e, he, rfl⟩)
  obtain ⟨hbefore, hafter⟩ := List.forall_mem_append.mp hkeep
  refine ⟨before, after, hsplit, ?_⟩
  rw [without, hsplit, List.filter_append, List.filter_cons_of_neg (by simp),
    List.filter_eq_self.mpr hbefore, List.filter_eq_self.mpr hafter]

theorem lastGiven_eq_none {α : Type} {xs : List (Option α)} (h : ∀ x ∈ xs, x = none) :
    lastGiven xs = none := by
  induction xs with
  | nil => rfl
  | cons x xs ih =>
      obtain ⟨hx, hxs⟩ := List.forall_mem_cons.mp h
      rw [lastGiven, ih hxs, hx]
      rfl

theorem assigned?_setting (other name : String) (v : Value) :
    assigned? other ([sectionName, name], v) = if other = name then some v.text? else none := by
  rw [assigned?, if_pos rfl]
  exact if_congr eq_comm rfl rfl

theorem Gives.exists_assignments (hname : name ∈ names) (h : Gives environment key name text) :
    ∃ before after,
      assignments (Pairs.distinct environment) =
        before ++ ([sectionName, name], readVariable text) :: after ∧
      assignments (without key environment) = before ++ after := by
  obtain ⟨before, after, hall, hrest⟩ := exists_distinct_eq h.given
  refine ⟨assignments before, assignments after, ?_, ?_⟩
  · rw [hall, assignments, List.filterMap_append, List.filterMap_cons,
      variablePath?_letters hname h.named]
    rfl
  · rw [hrest, assignments, List.filterMap_append]
    rfl

theorem Gives.isLayer_rest (h : Gives environment key name text) :
    (ofVariables (Pairs.distinct (without key environment)) (.table [])).IsLayer := by
  rw [distinct_without]
  exact (ofVariables_readings h.tables).1

theorem Gives.unsaid (h : Gives environment key name text) :
    (ofVariables (Pairs.distinct (without key environment)) (.table [])).reading? name = none := by
  rw [distinct_without, (ofVariables_readings h.tables).2]
  exact lastGiven_eq_none (List.forall_mem_map.mpr h.alone)

-- No variable after the one that gives the setting takes it back, so its place does not matter.
theorem Gives.tells (hname : name ∈ names) (h : Gives environment key name text) :
    Tells name (readVariable text).text?
      (ofVariables (Pairs.distinct (without key environment)) (.table []))
      (ofVariables (Pairs.distinct environment) (.table [])) := by
  obtain ⟨before, after, hall, hrest⟩ := h.exists_assignments hname
  obtain ⟨-, halone⟩ := List.forall_mem_append.mp (hrest ▸ h.alone)
  obtain ⟨hbefore, hafter⟩ := List.forall_mem_append.mp (hrest ▸ h.tables)
  have htables : ∀ a ∈ assignments (Pairs.distinct environment),
      a.1 = [sectionName] → a.2.isTable = true := by
    rw [hall, List.forall_mem_append, List.forall_mem_cons]
    exact ⟨hbefore, fun hpath => absurd hpath (by simp), hafter⟩
  obtain ⟨hlayer, hreads⟩ := ofVariables_readings htables
  obtain ⟨-, hreads'⟩ := ofVariables_readings h.tables
  have hlast : lastGiven (after.map (assigned? name)) = none :=
    lastGiven_eq_none (List.forall_mem_map.mpr halone)
  rw [distinct_without]
  refine ⟨hlayer.table, fun other _ => ?_⟩
  rw [hreads other, hreads' other, hall, hrest, List.map_append, List.map_cons,
    List.map_append, lastGiven_append, lastGiven_append, lastGiven, assigned?_setting]
  split
  · next heq =>
      rw [heq, hlast]
      rfl
  · rw [Option.or_none]

theorem ofFile?_settingFile (hname : name ∈ names) (h : Phrase text) :
    Value.ofFile? (settingFile name text) = some (nest [sectionName, name] (.text text)) := by
  rw [Value.ofFile?, parse?_settingFile hname h]
  simp only [names, List.mem_cons, List.not_mem_nil, or_false] at hname
  rcases hname with rfl | rfl | rfl | rfl <;> rfl

end Alone

section Loading

variable {files : List (Option String)} {environment : Pairs String} {key name text : String}
  {rest : Value}

theorem united_variable (hname : name ∈ names) (h : Gives environment key name text)
    (hrest : united files (without key environment) = some rest) :
    ∃ all, united files environment = some all ∧
      Tells name (readVariable text).text? rest all := by
  obtain ⟨base, hbase, rfl⟩ := Option.map_eq_some_iff.mp hrest
  refine ⟨_, congrArg (Option.map _) hbase, ?_⟩
  exact (h.tells hname).merge hname h.isLayer_rest (isTable_fromFiles hbase)

theorem united_settingFile (hname : name ∈ names) (h : Gives environment key name text)
    (htext : Phrase text) (hrest : united files (without key environment) = some rest) :
    ∃ all, united (files ++ [some (settingFile name text)]) (without key environment) = some all ∧
      Tells name (some text) rest all := by
  obtain ⟨base, hbase, rfl⟩ := Option.map_eq_some_iff.mp hrest
  have htable := isTable_fromFiles hbase
  have hnest : (nest [sectionName, name] (.text text)).IsLayer :=
    isLayer_nest (List.cons_ne_nil _ _) fun hpath => absurd hpath (by simp)
  have hfile : Tells name (some text) base (base.merge (nest [sectionName, name] (.text text))) := by
    refine ⟨(Value.isTable_merge _ _).trans hnest.table, fun other _ => ?_⟩
    rw [Value.reading?_merge htable hnest, reading?_nest _ _ _ (List.cons_ne_nil _ _),
      assigned?_setting]
    split <;> rfl
  refine ⟨_, ?_, hfile.below htable h.isLayer_rest h.unsaid⟩
  rw [united, fromFiles_append_some, hbase, ofFile?_settingFile hname htext]
  rfl

theorem load_unreadable (h : fromFiles files = none) (environment : Pairs String) :
    load files environment = .error .badFile := by
  rw [load_eq, united, h]
  rfl

theorem load_variable (files : List (Option String)) (hname : name ∈ names)
    (h : Gives environment key name text) (htext : Phrase text) :
    ((∃ s, load (files ++ [some (settingFile name text)]) (without key environment) = .ok s) ↔
      ∃ rest, united files (without key environment) = some rest ∧
        ∀ other ∈ names, other ≠ name → rest.reading? other ≠ some none) ∧
    (∀ s, load (files ++ [some (settingFile name text)]) (without key environment) = .ok s →
      Pairs.find? name s.texts = some text) ∧
    (IsScalar text → ∃ e, load files environment = .error e) ∧
    (¬IsScalar text →
      (load files environment).toOption =
        (load (files ++ [some (settingFile name text)]) (without key environment)).toOption ∧
      ∀ files' rest all, united files (without key environment) = some rest →
        united files' (without key environment) = some all → Tells name (some text) rest all →
        (load files environment).toOption = (load files' (without key environment)).toOption) := by
  cases hrest : united files (without key environment) with
  | none =>
      have hbase : fromFiles files = none := Option.map_eq_none_iff.mp hrest
      have hfile : fromFiles (files ++ [some (settingFile name text)]) = none := by
        rw [fromFiles_append_some, hbase]
        rfl
      rw [load_unreadable hbase, load_unreadable hfile]
      exact ⟨by simp, by simp, fun _ => ⟨_, rfl⟩, fun _ => ⟨rfl, by simp⟩⟩
  | some rest =>
      obtain ⟨all, hall, htells⟩ := united_variable hname h hrest
      obtain ⟨above, habove, hfile⟩ := united_settingFile hname h htext hrest
      rw [load_eq, load_eq, hall, habove]
      simp only [Option.map_some, Option.getD_some]
      refine ⟨?_, fun s => hfile.text hname, fun hscalar => ?_, fun hscalar => ?_⟩
      · simpa using hfile.ofLayer_succeeds_iff hname
      · rw [readVariable_scalar htext hscalar] at htells
        exact htells.ofLayer_error hname
      · rw [readVariable_text htext hscalar] at htells
        refine ⟨htells.congr hname hfile, fun files' rest' all' heq hall' htells' => ?_⟩
        cases heq
        rw [load_eq, hall']
        exact htells.congr hname htells'

end Loading

def labelVariables : Pairs String :=
  [("HOME", "/root"), ("Acton_Forms_FORMS__Submit_Label", "Send it-now_2"),
    ("acton_forms_forms.namespace", "crm")]

theorem load_variable_over_file :
    ∃ s, (load [some lowFile] labelVariables).toOption = some s ∧
      (load [some lowFile, some (settingFile "submit_label" "Send it-now_2")]
        (without "Acton_Forms_FORMS__Submit_Label" labelVariables)).toOption = some s ∧
      Pairs.find? "submit_label" s.texts = some "Send it-now_2" := by
  have hgives : Gives labelVariables "Acton_Forms_FORMS__Submit_Label" "submit_label"
      "Send it-now_2" := by
    constructor <;> decide +kernel
  have hphrase : Phrase "Send it-now_2" := by decide
  -- The file's own namespace is a number, which the environment hides.
  have hothers : ∃ rest ∈ united [some lowFile]
      (without "Acton_Forms_FORMS__Submit_Label" labelVariables),
      ∀ other ∈ names, other ≠ "submit_label" → rest.reading? other ≠ some none := by
    decide +kernel
  obtain ⟨hfile, htext, -, hagree⟩ :=
    load_variable [some lowFile] (by decide) hgives hphrase
  obtain ⟨s, hs⟩ := hfile.mpr hothers
  have hsame := (hagree (by decide)).1
  rw [hs] at hsame
  exact ⟨s, hsame, congrArg Except.toOption hs, htext s hs⟩

theorem load_refuses_number :
    Gives [("ACTON_FORMS_FORMS__TEXT_MAX_LENGTH", "80")] "ACTON_FORMS_FORMS__TEXT_MAX_LENGTH"
      "text_max_length" "80" ∧
    Phrase "80" ∧
    (load [none] [("ACTON_FORMS_FORMS__TEXT_MAX_LENGTH", "80")]).toOption = none ∧
    (load [some (settingFile "text_max_length" "80")] []).toOption.map Settings.textMaxLength =
      some "80" :=
  ⟨by constructor <;> decide +kernel, by decide, by decide +kernel, by decide +kernel⟩

end FormMarkup.Settings
