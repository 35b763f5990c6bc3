import FormMarkup.Proofs.Markup.TagView
import FormMarkup.Proofs.Render.Constraints
import FormMarkup.Proofs.Render.Marks

namespace FormMarkup

open FormMarkup.Markup

structure IdSource where
  explicit : String
  stem : Option String
  authored : Option String
  deriving DecidableEq, Repr

namespace IdSource

def isUnset (source : IdSource) : Bool :=
  source.explicit = ""

def id (source : IdSource) (k : Nat) : Option String :=
  if source.explicit = "" then (source.stem.map (· ++ positionText k)).or source.authored
  else some source.explicit

def position (sources : List IdSource) (i : Nat) : Nat :=
  (sources.take i).countP isUnset

def IsSynthesized (sources : List IdSource) (i : Nat) : Prop :=
  ∃ source stem, sources[i]? = some source ∧ source.explicit = "" ∧ source.stem = some stem

theorem position_lt {sources : List IdSource} {source : IdSource} {i j : Nat} (hij : i < j)
    (hi : sources[i]? = some source) (hunset : source.explicit = "") :
    position sources i < position sources j := by
  have hnext : position sources (i + 1) = position sources i + 1 := by
    simp [position, List.take_add_one, hi, isUnset, hunset]
  have hle : position sources (i + 1) ≤ position sources j :=
    (List.take_sublist_take_left hij).countP_le
  omega

end IdSource

def authoredId (map : TextMap) : Option String :=
  (Pairs.find? "id" map).map decoded

def Checkbox.idSource (s : Settings) (c : Checkbox) : IdSource where
  explicit := c.id.getD ""
  stem := if c.name = "" then none else some (s.ns ++ "_" ++ idName c.name ++ "_")
  authored := authoredId c.extraAttributes

def RadioGroup.idSource (s : Settings) (g : RadioGroup) (c : Choice) : IdSource where
  explicit := c.id.getD ""
  stem := if idName g.name = "" then none else some (s.ns ++ "_" ++ idName g.name)
  authored := authoredId c.extraAttributes

namespace Field

def idSources (s : Settings) : Field → List IdSource
  | .checkbox g => g.choices.map (Checkbox.idSource s)
  | .radio g => g.choices.map (g.idSource s)
  | _ => []

def isGroup : Field → Bool
  | .checkbox _ | .radio _ => true
  | _ => false

theorem Quiet.withDefaults_group {f : Field} (h : f.Quiet) (hg : f.isGroup = true)
    (s : Settings) : (f.withDefaults s).Quiet := by
  refine ⟨?_, ?_⟩
  · rw [fragments_withDefaults]
    exact h.blank
  · cases f with
    | checkbox g =>
        rw [Field.withDefaults, authorAttributes, List.flatMap_map]
        exact h.unquoted
    | radio g => exact h.unquoted
    | _ => cases hg

-- Names differ from choice to choice in a checkbox group, so that there an underscore must stand
-- before the number.
theorem stem_append_inj {s : Settings} {f : Field} {x y : IdSource} {t u : String} {j k : Nat}
    (hx : x ∈ f.idSources s) (hy : y ∈ f.idSources s) (ht : x.stem = some t) (hu : y.stem = some u)
    (h : t ++ positionText j = u ++ positionText k) : j = k := by
  cases f with
  | checkbox g =>
      obtain ⟨c, -, rfl⟩ := List.mem_map.mp hx
      obtain ⟨d, -, rfl⟩ := List.mem_map.mp hy
      obtain rfl := Option.some.inj (Option.ite_none_left_eq_some.mp ht).2
      obtain rfl := Option.some.inj (Option.ite_none_left_eq_some.mp hu).2
      exact (underscore_position_inj h).2
  | radio g =>
      obtain ⟨c, -, rfl⟩ := List.mem_map.mp hx
      obtain ⟨d, -, rfl⟩ := List.mem_map.mp hy
      obtain rfl : t = u := Option.some.inj (ht.symm.trans hu)
      exact positionText_inj.mp ((String.append_right_inj t).mp h)
  | _ => cases hx

end Field

theorem getElem?_withIds {α : Type} (own : α → Option String) (computed : Nat → α → String)
    (k : Nat) (xs : List α) (i : Nat) :
    (withIds own computed k xs)[i]? = xs[i]?.map fun x =>
      ((own x).getD (computed (k + (xs.take i).countP fun y => (own y).isNone) x), x) := by
  induction xs generalizing k i with
  | nil => rfl
  | cons x xs ih =>
      cases hx : own x with
      | some id =>
          cases i with
          | zero => simp [withIds, hx]
          | succ i => simp [withIds, hx, ih]
      | none =>
          cases i with
          | zero => simp [withIds, hx]
          | succ i =>
              have hk : ∀ m, k + 1 + m = k + (m + 1) := fun m => by omega
              simp [withIds, hx, ih, hk]

theorem Choice.ownId_getD (c : Choice) (computed : String) :
    c.ownId.getD computed = if c.id.getD "" = "" then computed else c.id.getD "" := by
  cases hid : c.id with
  | none => simp [ownId, hid]
  | some id => by_cases hempty : id = "" <;> simp [ownId, hid, hempty, Option.filter]

theorem Choice.isNone_ownId (c : Choice) : c.ownId.isNone = decide (c.id.getD "" = "") := by
  cases hid : c.id with
  | none => simp [ownId, hid]
  | some id => by_cases hempty : id = "" <;> simp [ownId, hid, hempty, Option.filter]

section Numbering

variable {α : Type} {own : α → Option String} {computed : Nat → α → String} {source : α → IdSource}
  {value : String × α → Option String}

theorem getElem?_map_withIds (hunset : ∀ x, (own x).isNone = (source x).isUnset)
    (hvalue : ∀ x k, value ((own x).getD (computed k x), x) = (source x).id k)
    (xs : List α) (i : Nat) :
    ((withIds own computed 0 xs).map value)[i]? =
      (xs.map source)[i]?.map fun x => x.id (IdSource.position (xs.map source) i) := by
  have hposition : (xs.take i).countP (fun x => (own x).isNone) =
      IdSource.position (xs.map source) i := by
    rw [IdSource.position, ← List.map_take, List.countP_map]
    exact congrArg (fun p => List.countP p _) (funext hunset)
  rw [List.getElem?_map, List.getElem?_map, getElem?_withIds, Nat.zero_add, hposition,
    Option.map_map, Option.map_map]
  exact congrArg (fun g => Option.map g xs[i]?) (funext fun x => hvalue x _)

end Numbering

theorem valueOf_id_extraAttributes (map : TextMap) :
    Attribute.valueOf "id" (extraAttributes .textual map) = authoredId map :=
  Attribute.valueOf_extraAttributes_eq "id" .textual map

theorem IdSource.id_eq {source : IdSource} {c : Choice} {computed : String} {k : Nat}
    (hexplicit : source.explicit = c.id.getD "")
    (hcomputed : given computed = source.stem.map (· ++ positionText k)) :
    (given (c.ownId.getD computed)).or source.authored = source.id k := by
  rw [c.ownId_getD, id, ← hcomputed, hexplicit]
  by_cases hid : c.id.getD "" = ""
  · rw [if_pos hid, if_pos hid]
  · rw [if_neg hid, if_neg hid, given, if_neg hid, Option.some_or]

theorem Checkbox.valueOf_id (s : Settings) (c : Checkbox) (k : Nat) :
    Attribute.valueOf "id" (c.attributes s (c.ownId.getD (c.computedId s k))) =
      (c.idSource s).id k := by
  have hcomputed : given (c.computedId s k) =
      (c.idSource s).stem.map (· ++ positionText k) := by
    by_cases hname : c.name = "" <;> simp [computedId, idSource, hname, given, positionText]
  rw [← IdSource.id_eq rfl hcomputed]
  simp [attributes, valueOf_id_extraAttributes, idSource]

theorem RadioGroup.valueOf_id (s : Settings) (g : RadioGroup) (c : Choice) (k : Nat) :
    Attribute.valueOf "id" (g.attributes s (c.ownId.getD (g.computedId s k)) c) =
      (g.idSource s c).id k := by
  have hcomputed : given (g.computedId s k) =
      (g.idSource s c).stem.map (· ++ positionText k) := by
    by_cases hname : idName g.name = "" <;> simp [computedId, idSource, hname, given, positionText]
  rw [← IdSource.id_eq rfl hcomputed]
  simp [attributes, valueOf_id_extraAttributes, idSource]

namespace Renderer

def inputIds (r : Renderer) (f : Field) : List (Option String) :=
  (starts .input (r.field f).items).map (Attribute.valueOf "id")

theorem getElem?_inputIds (r : Renderer) {f : Field} (hg : f.isGroup = true) (i : Nat) :
    (r.inputIds f)[i]? =
      (f.idSources r.settings)[i]?.map fun x =>
        x.id (IdSource.position (f.idSources r.settings) i) := by
  cases f with
  | checkbox g =>
      have hsources : (Field.checkbox g).idSources r.settings =
          (g.choices.map (Checkbox.withDefaults r.settings)).map
            (Checkbox.idSource r.settings) := by
        rw [List.map_map]
        rfl
      have hids : r.inputIds (.checkbox g) =
          (withIds (fun c => c.ownId) (Checkbox.computedId r.settings) 0
            (g.choices.map (Checkbox.withDefaults r.settings))).map fun p =>
              Attribute.valueOf "id" (p.2.attributes r.settings p.1) := by
        rw [inputIds, field, Field.withDefaults, complete, CheckboxGroup.starts_items rfl,
          List.map_flatMap]
        exact flatMap_eq_map fun p _ => rfl
      rw [hids, hsources]
      exact getElem?_map_withIds (fun c => c.isNone_ownId) (fun c k => c.valueOf_id r.settings k)
        _ i
  | radio g =>
      have hids : r.inputIds (.radio g) =
          (withIds Choice.ownId (fun k _ => g.computedId r.settings k) 0 g.choices).map fun p =>
            Attribute.valueOf "id" (g.attributes r.settings p.1 p.2) := by
        rw [inputIds, field, Field.withDefaults, complete, RadioGroup.starts_items rfl,
          List.map_flatMap]
        exact flatMap_eq_map fun p _ => rfl
      rw [hids]
      exact getElem?_map_withIds (fun c => c.isNone_ownId)
        (fun c k => g.valueOf_id r.settings c k) _ i
  | _ => cases hg

theorem inputIds_eq_mapIdx (r : Renderer) {f : Field} (hg : f.isGroup = true) :
    r.inputIds f = (f.idSources r.settings).mapIdx fun i x =>
      x.id (IdSource.position (f.idSources r.settings) i) := by
  refine List.ext_getElem? fun i => ?_
  rw [r.getElem?_inputIds hg, List.getElem?_mapIdx]

theorem getElem?_inputIds_synthesized (r : Renderer) {f : Field} (hg : f.isGroup = true)
    {i : Nat} {source : IdSource} {stem : String} (hi : (f.idSources r.settings)[i]? = some source)
    (hunset : source.explicit = "") (hstem : source.stem = some stem) :
    (r.inputIds f)[i]? =
      some (some (stem ++ positionText (IdSource.position (f.idSources r.settings) i))) := by
  rw [r.getElem?_inputIds hg, hi]
  simp [IdSource.id, hunset, hstem]

theorem inputIds_ne_of_lt (r : Renderer) {f : Field} (hg : f.isGroup = true) {i j : Nat}
    (hij : i < j) (hi : IdSource.IsSynthesized (f.idSources r.settings) i)
    (hj : IdSource.IsSynthesized (f.idSources r.settings) j) :
    (r.inputIds f)[i]? ≠ (r.inputIds f)[j]? := by
  obtain ⟨x, t, hx, hxunset, ht⟩ := hi
  obtain ⟨y, u, hy, hyunset, hu⟩ := hj
  rw [r.getElem?_inputIds_synthesized hg hx hxunset ht,
    r.getElem?_inputIds_synthesized hg hy hyunset hu]
  intro h
  have hposition := Field.stem_append_inj (List.mem_of_getElem? hx) (List.mem_of_getElem? hy) ht hu
    (Option.some.inj (Option.some.inj h))
  have hlt := IdSource.position_lt hij hx hxunset
  omega

theorem scan_inputIds (r : Renderer) {f : Field} (hs : r.settings.PlainNamespace)
    (hg : f.isGroup = true) (hf : f.Quiet) :
    ∃ events, scan (r.field f).html = some events ∧
      (tagsOf "input" events).map (decodedAt "id") = r.inputIds f := by
  have htoken : f.isToken = false := by
    cases f with
    | nonce n => cases hg
    | _ => rfl
  refine ⟨_, scan_field htoken hs (hf.withDefaults_group hg r.settings), ?_⟩
  have htags := tagsOf_eventsOf .input [] (r.field f).items
  rw [inputIds]
  exact (congrArg _ htags).trans List.map_map

theorem choice_ids (r : Renderer) (f : Field) (hs : r.settings.PlainNamespace)
    (hg : f.isGroup = true) :
    (f.Quiet → ∃ events, scan (r.field f).html = some events ∧
      (tagsOf "input" events).map (decodedAt "id") = r.inputIds f) ∧
    (r.inputIds f).length = (f.idSources r.settings).length ∧
    (∀ i source, (f.idSources r.settings)[i]? = some source →
      (source.explicit ≠ "" → (r.inputIds f)[i]? = some (some source.explicit)) ∧
      (source.explicit = "" → ∀ stem, source.stem = some stem →
        (r.inputIds f)[i]? =
          some (some (stem ++ positionText (IdSource.position (f.idSources r.settings) i)))) ∧
      (source.explicit = "" → source.stem = none → (r.inputIds f)[i]? = some source.authored)) ∧
    ∀ i j, i ≠ j → IdSource.IsSynthesized (f.idSources r.settings) i →
      IdSource.IsSynthesized (f.idSources r.settings) j →
      (r.inputIds f)[i]? ≠ (r.inputIds f)[j]? := by
  refine ⟨r.scan_inputIds hs hg, ?_, ?_, ?_⟩
  · rw [r.inputIds_eq_mapIdx hg, List.length_mapIdx]
  · intro i source hi
    refine ⟨fun hset => ?_, fun hunset stem => r.getElem?_inputIds_synthesized hg hi hunset,
      fun hunset hstem => ?_⟩
    · rw [r.getElem?_inputIds hg, hi]
      simp [IdSource.id, hset]
    · rw [r.getElem?_inputIds hg, hi]
      simp [IdSource.id, hunset, hstem]
  · intro i j hij hi hj
    rcases Nat.lt_or_gt_of_ne hij with hlt | hlt
    · exact r.inputIds_ne_of_lt hg hlt hi hj
    · exact (r.inputIds_ne_of_lt hg hlt hj hi).symm

def numberedGroup : Field :=
  .checkbox
    { choices :=
        [{ name := "a_1[]" }, { name := "b", id := some "x" }, { value := "v" },
          { name := "[]", id := some "" }, { name := "a", extraAttributes := [("id", "y")] },
          { extraAttributes := [("id", "&lt;")] }] }

theorem choice_ids_mixed :
    (({} : Renderer).settings.PlainNamespace ∧ numberedGroup.isGroup = true) ∧
    (∃ events, scan (({} : Renderer).field numberedGroup).html = some events ∧
      (tagsOf "input" events).map (decodedAt "id") = ({} : Renderer).inputIds numberedGroup) ∧
    (({} : Renderer).inputIds numberedGroup)[0]? = some (some "app_a_1_0") ∧
    (({} : Renderer).inputIds numberedGroup)[1]? = some (some "x") ∧
    (({} : Renderer).inputIds numberedGroup)[2]? = some none ∧
    (({} : Renderer).inputIds numberedGroup)[3]? = some (some "app__2") ∧
    (({} : Renderer).inputIds numberedGroup)[4]? = some (some "app_a_3") ∧
    (({} : Renderer).inputIds numberedGroup)[5]? = some (some "<") ∧
    (({} : Renderer).inputIds numberedGroup)[0]? ≠
      (({} : Renderer).inputIds numberedGroup)[4]? := by
  have hs : ({} : Renderer).settings.PlainNamespace := by decide
  have hf : numberedGroup.Quiet := ⟨by decide, by unfold Unquoted; decide⟩
  obtain ⟨hscan, -, hids, hdiffer⟩ := choice_ids {} numberedGroup hs rfl
  have hfirst := (hids 0 _ rfl).2.1 rfl _ rfl
  have hsecond := (hids 1 _ rfl).1 (by decide)
  have hthird := (hids 2 _ rfl).2.2 rfl rfl
  have hfourth := (hids 3 _ rfl).2.1 rfl _ rfl
  have hfifth := (hids 4 _ rfl).2.1 rfl _ rfl
  have hsixth := (hids 5 _ rfl).2.2 rfl rfl
  have hapart := hdiffer 0 4 (by decide) ⟨_, _, rfl, rfl, rfl⟩ ⟨_, _, rfl, rfl, rfl⟩
  exact ⟨⟨hs, rfl⟩, hscan hf, hfirst, hsecond, hthird, hfourth, hfifth, hsixth.trans (by decide),
    hapart⟩

end Renderer

end FormMarkup
