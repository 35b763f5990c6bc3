import FormMarkup.Markup.Extra
import FormMarkup.Proofs.Markup.Tame

namespace FormMarkup

namespace Markup

theorem isBlank_of_isTagSpace {c : Char} (h : isTagSpace c = true) : Text.isBlank c = true := by
  simp only [isTagSpace, Bool.or_eq_true, decide_eq_true_eq] at h
  rcases h with (((rfl | rfl) | rfl) | rfl) | rfl <;> decide

structure IsPlainName (name : String) : Prop where
  nonempty : name ≠ ""
  plain : ∀ c ∈ name.toList, Text.isBlank c = false ∧ Text.isControl c = false ∧
    c ∉ ['"', '\x27', '=', '<', '>', '/']

theorem isNameChar_iff {c : Char} :
    isNameChar c = true ↔ Text.isBlank c = false ∧ Text.isControl c = false ∧
      c ∉ ['"', '\x27', '=', '<', '>', '/'] := by
  simp [isNameChar, and_assoc]

theorem isAttributeName_iff {name : String} : isAttributeName name = true ↔ IsPlainName name := by
  simp only [isAttributeName, Bool.and_eq_true, bne_iff_ne, List.all_eq_true, isNameChar_iff]
  exact ⟨fun h => ⟨h.1, h.2⟩, fun h => ⟨h.nonempty, h.plain⟩⟩

instance (name : String) : Decidable (IsPlainName name) :=
  decidable_of_iff (isAttributeName name = true) isAttributeName_iff

theorem isTagNameChar_of_unmarked {c : Char} (hblank : Text.isBlank c = false)
    (hmark : c ∉ ['"', '\x27', '=', '<', '>', '/']) : isTagNameChar c = true := by
  have hspace : isTagSpace c = false := by
    cases hs : isTagSpace c with
    | false => rfl
    | true => exact absurd (isBlank_of_isTagSpace hs) (by simp [hblank])
  simp only [List.mem_cons, List.not_mem_nil, or_false, not_or] at hmark
  simp [isTagNameChar, hspace, hmark]

theorem IsPlainName.isTagName {name : String} (h : IsPlainName name) : IsTagName name := by
  refine ⟨h.nonempty, fun c hc => ?_⟩
  obtain ⟨hblank, -, hmark⟩ := h.plain c hc
  exact isTagNameChar_of_unmarked hblank hmark

theorem isNameChar_of_lowerLetter {c : Char} (h : isNameChar (Text.lowerLetter c) = true) :
    isNameChar c = true := by
  by_cases hc : 'A'.toNat ≤ c.toNat ∧ c.toNat ≤ 'Z'.toNat
  · have hrange : 65 ≤ c.toNat ∧ c.toNat ≤ 90 := hc
    have hmark : c ∉ ['"', '\x27', '=', '<', '>', '/'] := by
      simp only [List.mem_cons, List.not_mem_nil, or_false]
      rintro (rfl | rfl | rfl | rfl | rfl | rfl) <;> revert hrange <;> decide
    refine isNameChar_iff.mpr ⟨?_, ?_, hmark⟩
    · simp [Text.isBlank]
      omega
    · simp [Text.isControl]
      omega
  · have hsame : Text.lowerLetter c = c := by
      simp [Text.lowerLetter] at hc ⊢
      omega
    rwa [hsame] at h

theorem IsPlainName.of_lowerLetters {name : String} (h : IsPlainName (Text.lowerLetters name)) :
    IsPlainName name := by
  have htoList : (Text.lowerLetters name).toList = name.toList.map Text.lowerLetter :=
    String.toList_ofList
  refine ⟨fun hname => h.nonempty (by rw [hname]; rfl), fun c hc => ?_⟩
  have hlower : Text.lowerLetter c ∈ (Text.lowerLetters name).toList := by
    rw [htoList]
    exact List.mem_map_of_mem hc
  exact isNameChar_iff.mp (isNameChar_of_lowerLetter (isNameChar_iff.mpr (h.plain _ hlower)))

theorem Constraints.allows_iff {c : Constraints} {name : String} :
    c.allows name = true ↔ Text.lowerLetters name ∉ c.suppressed := by
  have hsame : ∀ dropped ∈ c.suppressed, Text.lowerLetters dropped = dropped := by
    cases c <;> decide
  rw [Constraints.allows, Bool.not_eq_true', List.any_eq_false]
  constructor
  · intro h hm
    refine h _ hm ?_
    rw [Text.sameLetters_iff]
    exact hsame _ hm
  · intro h dropped hd hs
    rw [Text.sameLetters_iff, hsame dropped hd] at hs
    exact h (hs ▸ hd)

theorem Constraints.isPlainName_of_suppressed {c : Constraints} {name : String}
    (h : Text.lowerLetters name ∈ c.suppressed) : IsPlainName name := by
  have hall : ∀ dropped ∈ c.suppressed, IsPlainName dropped := by
    cases c <;> decide
  exact (hall _ h).of_lowerLetters

inductive ItemMode where
  | between
  | inName (done : List Char)
  | equals (name : List Char)
  | inValue (name done : List Char)
  | quoted (name value : List Char)
  deriving DecidableEq, Repr

def readItemsFrom : ItemMode → List Char → Option TextMap
  | .between, [] => some []
  | _, [] => none
  | .between, c :: cs => if c = ' ' then readItemsFrom (.inName []) cs else none
  | .inName done, c :: cs =>
      if isTagNameChar c then readItemsFrom (.inName (done ++ [c])) cs
      else if c = '=' && done != [] then readItemsFrom (.equals done) cs
      else none
  | .equals name, c :: cs => if c = '\x27' then readItemsFrom (.inValue name []) cs else none
  | .inValue name done, c :: cs =>
      if c = '\x27' then readItemsFrom (.quoted name done) cs
      else readItemsFrom (.inValue name (done ++ [c])) cs
  | .quoted name value, c :: cs =>
      if c = ' ' then
        (readItemsFrom .between cs).map ((String.ofList name, String.ofList value) :: ·)
      else none

def readItems (s : String) : Option TextMap :=
  readItemsFrom .between s.toList

example : readItems " a='1 > 0'  b='' " = some [("a", "1 > 0"), ("b", "")] := by decide

example : readItems " a='1'  b" = none := by decide

def itemChars (a : String × String) : List Char :=
  (Attribute.extra a.1 a.2).chars

def Readable (a : String × String) : Prop :=
  IsTagName a.1 ∧ '\x27' ∉ a.2.toList

theorem read_run {μ β : Type} {r : μ → List Char → β} {f : List Char → μ} {cs : List Char}
    (h : ∀ done rest, ∀ c ∈ cs, r (f done) (c :: rest) = r (f (done ++ [c])) rest)
    (done rest : List Char) : r (f done) (cs ++ rest) = r (f (done ++ cs)) rest := by
  induction cs generalizing done with
  | nil => simp
  | cons c cs ih =>
      have hc := h done (cs ++ rest) c (List.mem_cons_self ..)
      have hcs := ih (fun d t x hx => h d t x (List.mem_cons_of_mem _ hx)) (done ++ [c])
      rw [List.cons_append, hc, hcs, List.append_assoc, List.singleton_append]

theorem readItemsFrom_name {cs : List Char} (h : ∀ c ∈ cs, isTagNameChar c = true)
    (done rest : List Char) :
    readItemsFrom (.inName done) (cs ++ rest) = readItemsFrom (.inName (done ++ cs)) rest :=
  read_run (r := readItemsFrom) (f := .inName)
    (fun _ _ c hc => by simp [readItemsFrom, h c hc]) done rest

theorem readItemsFrom_value {cs : List Char} (h : '\x27' ∉ cs) (name done rest : List Char) :
    readItemsFrom (.inValue name done) (cs ++ rest) =
      readItemsFrom (.inValue name (done ++ cs)) rest :=
  read_run (r := readItemsFrom) (f := .inValue name)
    (fun _ _ c hc => by
      have hne : c ≠ '\x27' := fun e => h (e ▸ hc)
      simp [readItemsFrom, hne]) done rest

theorem readItemsFrom_item {a : String × String} (h : Readable a) (rest : List Char) :
    readItemsFrom .between (itemChars a ++ rest) = (readItemsFrom .between rest).map (a :: ·) := by
  obtain ⟨⟨hne, hname⟩, hvalue⟩ := h
  have hnil : a.1.toList ≠ [] := fun e => hne (String.toList_eq_nil_iff.mp e)
  have hequals : isTagNameChar '=' = false := by decide
  have hstart : itemChars a ++ rest =
      ' ' :: (a.1.toList ++ '=' :: '\x27' :: (a.2.toList ++ '\x27' :: ' ' :: rest)) := by
    simp [itemChars, Attribute.chars]
  calc readItemsFrom .between (itemChars a ++ rest)
      = readItemsFrom (.inName a.1.toList)
          ('=' :: '\x27' :: (a.2.toList ++ '\x27' :: ' ' :: rest)) := by
        rw [hstart, readItemsFrom, if_pos rfl, readItemsFrom_name hname, List.nil_append]
    _ = readItemsFrom (.inValue a.1.toList []) (a.2.toList ++ '\x27' :: ' ' :: rest) := by
        simp [readItemsFrom, hequals, hnil]
    _ = readItemsFrom (.inValue a.1.toList a.2.toList) ('\x27' :: ' ' :: rest) := by
        rw [readItemsFrom_value hvalue, List.nil_append]
    _ = (readItemsFrom .between rest).map (a :: ·) := by
        simp [readItemsFrom]

theorem readItemsFrom_written {items : TextMap} (h : ∀ a ∈ items, Readable a) :
    readItemsFrom .between (items.flatMap itemChars) = some items := by
  induction items with
  | nil => rfl
  | cons a items ih =>
      rw [List.flatMap_cons, readItemsFrom_item (h a (List.mem_cons_self ..)),
        ih fun b hb => h b (List.mem_cons_of_mem _ hb)]
      rfl

namespace ItemMode

def read : ItemMode → List Char
  | .between => []
  | .inName done => ' ' :: done
  | .equals name => ' ' :: name ++ ['=']
  | .inValue name done => ' ' :: name ++ '=' :: '\x27' :: done
  | .quoted name value => ' ' :: name ++ '=' :: '\x27' :: value ++ ['\x27']

def Fair : ItemMode → Prop
  | .between => True
  | .inName done => ∀ c ∈ done, isTagNameChar c = true
  | .equals name => name ≠ [] ∧ ∀ c ∈ name, isTagNameChar c = true
  | .inValue name done =>
      (name ≠ [] ∧ ∀ c ∈ name, isTagNameChar c = true) ∧ '\x27' ∉ done
  | .quoted name value =>
      (name ≠ [] ∧ ∀ c ∈ name, isTagNameChar c = true) ∧ '\x27' ∉ value

end ItemMode

-- What is read and what is left make up the items, whatever the mode.
theorem written_of_readItemsFrom {m : ItemMode} (hm : m.Fair) {cs : List Char} {items : TextMap}
    (h : readItemsFrom m cs = some items) :
    m.read ++ cs = items.flatMap itemChars ∧ ∀ a ∈ items, Readable a := by
  induction cs generalizing m items with
  | nil =>
      cases m with
      | between =>
          obtain rfl : [] = items := Option.some.inj h
          exact ⟨rfl, fun _ ha => (List.not_mem_nil ha).elim⟩
      | inName done => cases h
      | equals name => cases h
      | inValue name done => cases h
      | quoted name value => cases h
  | cons c cs ih =>
      cases m with
      | between =>
          rw [readItemsFrom, Option.ite_none_right_eq_some] at h
          obtain ⟨rfl, h⟩ := h
          exact ih (m := .inName []) (fun _ hc => (List.not_mem_nil hc).elim) h
      | inName done =>
          rw [readItemsFrom] at h
          split at h
          · next hc =>
              have hdone : (ItemMode.inName (done ++ [c])).Fair := by
                simpa [ItemMode.Fair, or_imp, forall_and, hc] using hm
              simpa [ItemMode.read] using ih hdone h
          · rw [Option.ite_none_right_eq_some, Bool.and_eq_true, decide_eq_true_eq,
              bne_iff_ne] at h
            obtain ⟨⟨rfl, hne⟩, h⟩ := h
            simpa [ItemMode.read] using ih (m := .equals done) ⟨hne, hm⟩ h
      | equals name =>
          rw [readItemsFrom, Option.ite_none_right_eq_some] at h
          obtain ⟨rfl, h⟩ := h
          simpa [ItemMode.read] using ih (m := .inValue name []) ⟨hm, List.not_mem_nil⟩ h
      | inValue name done =>
          rw [readItemsFrom] at h
          split at h
          · next hc =>
              subst hc
              simpa [ItemMode.read] using ih (m := .quoted name done) hm h
          · next hc =>
              have hdone : '\x27' ∉ done ++ [c] := by
                simpa [hm.2] using Ne.symm hc
              simpa [ItemMode.read] using ih (m := .inValue name (done ++ [c])) ⟨hm.1, hdone⟩ h
      | quoted name value =>
          rw [readItemsFrom, Option.ite_none_right_eq_some] at h
          obtain ⟨rfl, h⟩ := h
          obtain ⟨rest, hrest, rfl⟩ := Option.map_eq_some_iff.mp h
          obtain ⟨hcs, hall⟩ := ih (m := .between) trivial hrest
          have hname : IsTagName (String.ofList name) := by
            refine ⟨fun e => hm.1.1 ?_, ?_⟩
            · simpa using congrArg String.toList e
            · rw [String.toList_ofList]
              exact hm.1.2
          have hread : Readable (String.ofList name, String.ofList value) :=
            ⟨hname, by rw [String.toList_ofList]; exact hm.2⟩
          rw [List.flatMap_cons, ← hcs]
          exact ⟨by simp [ItemMode.read, itemChars, Attribute.chars],
            List.forall_mem_cons.mpr ⟨hread, hall⟩⟩

theorem readItems_eq_some_iff {s : String} {items : TextMap} :
    readItems s = some items ↔
      s.toList = items.flatMap itemChars ∧ ∀ a ∈ items, Readable a := by
  refine ⟨fun h => written_of_readItemsFrom (m := .between) trivial h, fun ⟨hs, h⟩ => ?_⟩
  rw [readItems, hs, readItemsFrom_written h]

theorem toList_writeExtra (c : Constraints) (attributes : TextMap) :
    (writeAttributes (extraAttributes c attributes)).toList =
      (attributes.filter fun a => isAttributeName a.1 && c.allows a.1).flatMap itemChars := by
  rw [toList_writeAttributes, extraAttributes, List.flatMap_map]
  rfl

theorem extraAttributes_read_back (c : Constraints) (attributes : TextMap)
    (h : ∀ a ∈ attributes, '\x27' ∉ a.2.toList) :
    readItems (writeAttributes (extraAttributes c attributes)) =
        some (attributes.filter fun a =>
          IsPlainName a.1 ∧ Text.lowerLetters a.1 ∉ c.suppressed) ∧
      nameWarnings attributes =
        (attributes.filter fun a => ¬IsPlainName a.1).map (fun a => .invalidAttributeName a.1) ∧
      ∀ a ∈ attributes, Text.lowerLetters a.1 ∈ c.suppressed →
        .invalidAttributeName a.1 ∉ nameWarnings attributes := by
  have hname : ∀ name, isAttributeName name = decide (IsPlainName name) := fun name =>
    Bool.eq_iff_iff.mpr (isAttributeName_iff.trans decide_eq_true_iff.symm)
  have hallows : ∀ name, c.allows name = decide (Text.lowerLetters name ∉ c.suppressed) :=
    fun name => Bool.eq_iff_iff.mpr (Constraints.allows_iff.trans decide_eq_true_iff.symm)
  have hwarnings : nameWarnings attributes =
      (attributes.filter fun a => ¬IsPlainName a.1).map
        (fun a => .invalidAttributeName a.1) := by
    simp only [nameWarnings, hname, decide_not]
  refine ⟨readItems_eq_some_iff.mpr ⟨?_, fun a ha => ?_⟩, hwarnings, fun a _ ha hwarned => ?_⟩
  · rw [toList_writeExtra]
    simp only [hname, hallows, Bool.decide_and]
  · obtain ⟨hmem, hkept⟩ := List.mem_filter.mp ha
    exact ⟨(of_decide_eq_true hkept).1.isTagName, h a hmem⟩
  · rw [hwarnings] at hwarned
    obtain ⟨b, hb, hsame⟩ := List.mem_map.mp hwarned
    rw [← Warning.invalidAttributeName.inj hsame] at ha
    exact of_decide_eq_true (List.mem_filter.mp hb).2 (Constraints.isPlainName_of_suppressed ha)

def mixedAttributes : TextMap :=
  [("data-x", "a = <b>/"), ("MAX", "1"), ("on click", "x"), ("", "y"), ("é", " 1 ")]

theorem extraAttributes_read_back_mixed :
    (∀ a ∈ mixedAttributes, '\x27' ∉ a.2.toList) ∧
      readItems (writeAttributes (extraAttributes .textual mixedAttributes)) =
        some [("data-x", "a = <b>/"), ("é", " 1 ")] ∧
      nameWarnings mixedAttributes = [.invalidAttributeName "on click", .invalidAttributeName ""] ∧
      .invalidAttributeName "MAX" ∉ nameWarnings mixedAttributes := by
  have hunquoted : ∀ a ∈ mixedAttributes, '\x27' ∉ a.2.toList := by decide
  obtain ⟨hread, hwarnings, hsilent⟩ :=
    extraAttributes_read_back .textual mixedAttributes hunquoted
  refine ⟨hunquoted, hread.trans ?_, hwarnings.trans ?_, hsilent ("MAX", "1") ?_ ?_⟩
  · decide
  · decide
  · decide
  · decide

end Markup

end FormMarkup
