import FormMarkup.Proofs.Decimal.Signed
import FormMarkup.Proofs.Settings.Layers
import FormMarkup.Proofs.Text.Letters

namespace FormMarkup.Settings

open FormMarkup.Decimal

section Names

theorem toLower_underscore_iff {c : Char} : c.toLower = '_' ↔ c = '_' := by
  rw [← Char.toNat_inj, ← Char.toNat_inj, Text.toNat_toLower, show ('_').toNat = 95 from rfl]
  split <;> omega

theorem toLower_dot_iff {c : Char} : c.toLower = '.' ↔ c = '.' := by
  rw [← Char.toNat_inj, ← Char.toNat_inj, Text.toNat_toLower, show ('.').toNat = 46 from rfl]
  split <;> omega

theorem splitName_map_toLower (part cs : List Char) :
    splitName (part.map Char.toLower) (cs.map Char.toLower) =
      (splitName part cs).map fun p => p.map Char.toLower := by
  fun_induction splitName part cs with
  | case1 part => rfl
  | case2 part cs ih => exact congrArg _ ih
  | case3 part cs ih => exact congrArg _ ih
  | case4 part c cs hline hdot ih =>
      rw [List.map_cons, splitName]
      · rw [← ih, List.map_append, List.map_singleton]
      · intro ds hc hcs
        obtain ⟨d, rest, rfl, hd, -⟩ := List.map_eq_cons_iff.mp hcs
        rw [toLower_underscore_iff.mp hd] at hline
        exact hline rest (toLower_underscore_iff.mp hc) rfl
      · exact fun hc => hdot (toLower_dot_iff.mp hc)

def variableName (name : String) : String :=
  "acton_forms_forms__" ++ name

theorem blankless_variableName : ∀ name ∈ names, Text.Blankless (variableName name).toList := by
  decide

theorem take_variableName :
    ∀ name ∈ names, (variableName name).toList.take namePrefix.length = namePrefix := by
  decide

theorem splitName_variableName :
    ∀ name ∈ names, splitName [] ((variableName name).toList.drop namePrefix.length) =
      [sectionName.toList, name.toList] := by
  decide

theorem names_nonempty : ∀ name ∈ names, name.toList.isEmpty = false := by
  decide

theorem variablePath?_letters {key name : String} (hname : name ∈ names)
    (h : Text.lowerLetters key = variableName name) :
    variablePath? key = some [sectionName, name] := by
  have hlower : key.toList.map Char.toLower = (variableName name).toList := by
    rw [← h, Text.lowerLetters, String.toList_ofList, Text.lowerLetter_eq_toLower]
  have hblankless : Text.Blankless key.toList := by
    intro c hc
    rw [← Text.isBlank_toLower]
    refine blankless_variableName name hname _ ?_
    rw [← hlower]
    exact List.mem_map_of_mem hc
  have hrest : Text.Blankless (key.toList.drop namePrefix.length) :=
    fun c hc => hblankless c (List.mem_of_mem_drop hc)
  have hfront : (key.toList.take namePrefix.length).map Char.toLower = namePrefix := by
    rw [List.map_take, hlower, take_variableName name hname]
  have hparts : (splitName [] (key.toList.drop namePrefix.length)).map (List.map Char.toLower) =
      [sectionName.toList, name.toList] := by
    rw [← splitName_map_toLower, List.map_drop, hlower, List.map_nil,
      splitName_variableName name hname]
  obtain ⟨first, rest, hsplit, hfirst, hrests⟩ := List.map_eq_cons_iff.mp hparts
  obtain ⟨second, rfl, hsecond⟩ := List.map_eq_singleton_iff.mp hrests
  have hempty : ∀ part : List Char, part.isEmpty = (part.map Char.toLower).isEmpty :=
    fun _ => List.isEmpty_map.symm
  have hfilled : [first, second].any List.isEmpty = false := by
    rw [List.any_cons, List.any_cons, hempty first, hfirst, hempty second, hsecond,
      names_nonempty name hname]
    rfl
  simp only [variablePath?, Text.lowerLetter_eq_toLower, hblankless.trimmed.trimChars_eq,
    hrest.trimmed.trimChars_eq, hfront, hsplit, hfilled, if_true, List.map_cons, List.map_nil,
    hfirst, hsecond, String.ofList_toList]
  rfl

end Names

section Texts

def IsPhraseChar (c : Char) : Prop :=
  c.isAlphanum = true ∨ c ∈ [' ', '-', '_']

instance (c : Char) : Decidable (IsPhraseChar c) :=
  inferInstanceAs (Decidable (c.isAlphanum = true ∨ c ∈ [' ', '-', '_']))

structure Phrase (text : String) : Prop where
  nonempty : text ≠ ""
  chars : ∀ c ∈ text.toList, IsPhraseChar c
  head : ' ' ∉ text.toList.head?
  last : ' ' ∉ text.toList.getLast?

instance (text : String) : Decidable (Phrase text) :=
  decidable_of_iff
    (text ≠ "" ∧ text.toList.all (fun c => decide (IsPhraseChar c)) = true ∧
      ' ' ∉ text.toList.head? ∧ ' ' ∉ text.toList.getLast?)
    ⟨fun ⟨nonempty, chars, head, last⟩ =>
        ⟨nonempty, fun c hc => of_decide_eq_true (List.all_eq_true.mp chars c hc), head, last⟩,
      fun h => ⟨h.nonempty, List.all_eq_true.mpr fun c hc => decide_eq_true (h.chars c hc),
        h.head, h.last⟩⟩

theorem isAlphanum_iff {c : Char} : c.isAlphanum = true ↔
    (65 ≤ c.toNat ∧ c.toNat ≤ 90) ∨ (97 ≤ c.toNat ∧ c.toNat ≤ 122) ∨
      (48 ≤ c.toNat ∧ c.toNat ≤ 57) := by
  have hranges : c.isAlphanum = ((decide (65 ≤ c.val ∧ c.val ≤ 90) ||
      (decide (97 ≤ c.val) && decide (c.val ≤ 122))) ||
      (decide (48 ≤ c.val) && decide (c.val ≤ 57))) := rfl
  simp only [hranges, Bool.or_eq_true, Bool.and_eq_true, decide_eq_true_eq,
    UInt32.le_iff_toNat_le, or_assoc]
  rfl

theorem IsPhraseChar.not_blank {c : Char} (h : IsPhraseChar c) (hc : c ≠ ' ') :
    Text.isBlank c = false := by
  rcases h with h | h
  · have hrange := isAlphanum_iff.mp h
    simp [Text.isBlank]
    omega
  · simp only [List.mem_cons, List.not_mem_nil, or_false] at h
    rcases h with rfl | rfl | rfl
    · exact absurd rfl hc
    · decide
    · decide

theorem Phrase.trimmed {text : String} (h : Phrase text) : Text.Trimmed text.toList where
  head c hc := (h.chars c (List.mem_of_mem_head? hc)).not_blank fun heq => h.head (heq ▸ hc)
  last c hc := (h.chars c (List.mem_of_mem_getLast? hc)).not_blank fun heq => h.last (heq ▸ hc)

theorem isBlank_of_isSpace {c : Char} (h : isSpace c = true) : Text.isBlank c = true := by
  simp only [isSpace, Bool.or_eq_true, decide_eq_true_eq] at h
  rcases h with (((rfl | rfl) | rfl) | rfl) | rfl <;> decide

theorem IsPhraseChar.ne {c : Char} (h : IsPhraseChar c) {d : Char} (hd : ¬IsPhraseChar d) :
    c ≠ d :=
  fun heq => hd (heq ▸ h)

theorem IsPhraseChar.not_separator {c : Char} (h : IsPhraseChar c) : isSeparator c = false := by
  have hcomma : c ≠ ',' := h.ne (by decide)
  have hopen : c ≠ '\x7b' := h.ne (by decide)
  have hclose : c ≠ '\x7d' := h.ne (by decide)
  have hleft : c ≠ '[' := h.ne (by decide)
  have hright : c ≠ ']' := h.ne (by decide)
  simp [isSeparator, hcomma, hopen, hclose, hleft, hright]

theorem skipSpaces_eq {cs : List Char} (h : Text.Trimmed cs) : skipSpaces cs = cs := by
  cases cs with
  | nil => rfl
  | cons c cs =>
      refine List.dropWhile_cons_of_neg fun hspace => ?_
      have hblank := isBlank_of_isSpace hspace
      rw [h.head c rfl] at hblank
      cases hblank

theorem scanValue_bare {cs : List Char} (hchars : ∀ c ∈ cs, IsPhraseChar c)
    (htrim : Text.Trimmed cs) (htrue : ∀ rest, cs ≠ "true".toList ++ rest)
    (hfalse : ∀ rest, cs ≠ "false".toList ++ rest) (depth : Nat) :
    scanValue (depth + 1) cs = some (bareValue cs, []) := by
  have hall : ∀ c ∈ cs, (!isSeparator c) = true := fun c hc => by
    rw [(hchars c hc).not_separator]
    rfl
  have hhead : ∀ d rest, ¬IsPhraseChar d → cs ≠ d :: rest :=
    fun d rest hd heq => hd (hchars d (heq ▸ List.mem_cons_self ..))
  rw [scanValue, skipSpaces_eq htrim]
  split
  · exact absurd rfl (htrue _)
  · exact absurd rfl (hfalse _)
  · exact absurd rfl (hhead _ _ (by decide))
  · exact absurd rfl (hhead _ _ (by decide))
  · exact absurd rfl (hhead _ _ (by decide))
  · exact absurd rfl (hhead _ _ (by decide))
  · exact absurd rfl (hhead _ _ (by decide))
  · rw [List.takeWhile_eq_self_iff.mpr hall, List.dropWhile_eq_nil_iff.mpr hall,
      htrim.trimChars_eq]
    rfl

theorem scanValue_word {word : String} {b : Bool}
    (h : (word, b) ∈ [("true", true), ("false", false)]) (rest : List Char) (depth : Nat) :
    scanValue (depth + 1) (word.toList ++ rest) = some (.bool b, skipSpaces rest) := by
  simp only [List.mem_cons, Prod.mk.injEq, List.not_mem_nil, or_false] at h
  rcases h with ⟨rfl, rfl⟩ | ⟨rfl, rfl⟩ <;> simp [scanValue, skipSpaces, isSpace]

def IsNumber (cs : List Char) : Prop :=
  ∃ n, Denotes cs n ∧ -9223372036854775808 ≤ n ∧ n < 18446744073709551616

instance (cs : List Char) : Decidable (IsNumber cs) :=
  decidable_of_iff
    (∃ n ∈ signed? cs, -9223372036854775808 ≤ n ∧ n < 18446744073709551616)
    (exists_congr fun _ => and_congr_left' signed?_iff)

theorem unsignedWord?_digits {ds : List Char} (h : Digits ds)
    (hsmall : Nat.ofDigitChars 10 ds 0 < 18446744073709551616) :
    unsignedWord? ds = some (Nat.ofDigitChars 10 ds 0) ∧
      unsignedWord? ('+' :: ds) = some (Nat.ofDigitChars 10 ds 0) := by
  have hread : (unsigned? ds).filter (fun n => n < Nat.pow 2 64) =
      some (Nat.ofDigitChars 10 ds 0) := by
    rw [unsigned?_iff.mpr ⟨h, rfl⟩]
    exact if_pos (decide_eq_true hsmall)
  constructor
  · rw [unsignedWord?, hread]
    intro rest heq
    rw [heq] at h
    exact absurd h.head_isDigit (by decide)
  · rw [unsignedWord?, hread]

theorem isNumber_of_unsignedWord? {cs : List Char} {n : Nat} (h : unsignedWord? cs = some n) :
    IsNumber cs := by
  have hwide : Nat.pow 2 64 = 18446744073709551616 := rfl
  rw [unsignedWord?.eq_def] at h
  split at h
  all_goals
    obtain ⟨hread, hsmall⟩ := Option.filter_eq_some_iff.mp h
    obtain ⟨hds, rfl⟩ := unsigned?_iff.mp hread
    rw [decide_eq_true_eq, hwide] at hsmall
  · exact ⟨_, .plus hds, by omega, by omega⟩
  · exact ⟨_, .plain hds, by omega, by omega⟩

theorem isNumber_of_word {cs : List Char} {n : Int} (h : (signed? cs).filter isWord = some n) :
    IsNumber cs := by
  obtain ⟨hread, hword⟩ := Option.filter_eq_some_iff.mp h
  have hrange := isWord_iff.mp hword
  exact ⟨n, signed?_iff.mp hread, by omega, by omega⟩

theorem IsNumber.read {cs : List Char} (h : IsNumber cs) :
    (∃ n, unsignedWord? cs = some n) ∨ ∃ n, (signed? cs).filter isWord = some n := by
  obtain ⟨n, hn, hlow, hhigh⟩ := h
  have hsigned := signed?_iff.mpr hn
  cases hn with
  | plain hds => exact .inl ⟨_, (unsignedWord?_digits hds (by omega)).1⟩
  | plus hds => exact .inl ⟨_, (unsignedWord?_digits hds (by omega)).2⟩
  | minus hds =>
      refine .inr ⟨_, Option.filter_eq_some_iff.mpr ⟨hsigned, isWord_iff.mpr ?_⟩⟩
      omega

theorem bareValue_cases {cs : List Char} (hdot : '.' ∉ cs) :
    (IsNumber cs → (bareValue cs).text? = none) ∧
      (¬IsNumber cs → bareValue cs = .text (String.ofList cs)) := by
  have hcontains : cs.contains '.' = false := by simpa using hdot
  cases hu : unsignedWord? cs with
  | some n =>
      have hvalue : bareValue cs = .unsigned n := by
        rw [bareValue, hcontains, hu]
        rfl
      exact ⟨fun _ => by rw [hvalue]; rfl, fun h => absurd (isNumber_of_unsignedWord? hu) h⟩
  | none =>
      cases hs : (signed? cs).filter isWord with
      | some n =>
          have hvalue : bareValue cs = .signed n := by
            rw [bareValue, hcontains, hu, hs]
            rfl
          exact ⟨fun _ => by rw [hvalue]; rfl, fun h => absurd (isNumber_of_word hs) h⟩
      | none =>
          have hvalue : bareValue cs = .text (String.ofList cs) := by
            rw [bareValue, hcontains, hu, hs]
            rfl
          have hnumber : ¬IsNumber cs := fun h => by
            rcases h.read with ⟨n, hn⟩ | ⟨n, hn⟩
            · rw [hu] at hn
              cases hn
            · rw [hs] at hn
              cases hn
          exact ⟨fun h => absurd h hnumber, fun _ => hvalue⟩

theorem IsNumber.head {c : Char} {cs : List Char} (h : IsNumber (c :: cs)) :
    c = '+' ∨ c = '-' ∨ c.isDigit = true := by
  obtain ⟨n, hn, -⟩ := h
  cases hn with
  | plain hds => exact .inr (.inr hds.head_isDigit)
  | plus hds => exact .inl rfl
  | minus hds => exact .inr (.inl rfl)

def IsScalar (text : String) : Prop :=
  text = "true" ∨ text = "false" ∨ IsNumber text.toList

instance (text : String) : Decidable (IsScalar text) :=
  inferInstanceAs (Decidable (text = "true" ∨ text = "false" ∨ IsNumber text.toList))

section

variable {text : String}

theorem Phrase.not_mem (h : Phrase text) {c : Char} (hc : ¬IsPhraseChar c) : c ∉ text.toList :=
  fun hmem => hc (h.chars c hmem)

theorem readVariable_longer (h : Phrase text) {word : String} {b : Bool}
    (hword : (word, b) ∈ [("true", true), ("false", false)]) {rest : List Char}
    (hrest : rest ≠ []) (htext : text.toList = word.toList ++ rest) :
    readVariable text = .text text := by
  have hremains : skipSpaces rest ≠ [] := by
    intro hnil
    have hspace := List.dropWhile_eq_nil_iff.mp hnil _ (List.getLast_mem hrest)
    have hlast : rest.getLast hrest ∈ text.toList.getLast? := by
      rw [htext, List.getLast?_append_of_ne_nil _ hrest, List.getLast?_eq_some_getLast hrest]
      exact rfl
    have hblank := isBlank_of_isSpace hspace
    rw [h.trimmed.last _ hlast] at hblank
    cases hblank
  rw [readVariable, htext, scanValue_word hword]
  obtain ⟨c, cs, hcons⟩ := List.exists_cons_of_ne_nil hremains
  rw [hcons]

theorem readVariable_bare (h : Phrase text) (htrue : ∀ rest, text.toList ≠ "true".toList ++ rest)
    (hfalse : ∀ rest, text.toList ≠ "false".toList ++ rest) :
    readVariable text = bareValue text.toList := by
  rw [readVariable, scanValue_bare h.chars h.trimmed htrue hfalse]

theorem readVariable_scalar (h : Phrase text) (hscalar : IsScalar text) :
    (readVariable text).text? = none := by
  rcases hscalar with rfl | rfl | hnumber
  · rfl
  · rfl
  · have hword : ∀ c cs, ¬(c = '+' ∨ c = '-' ∨ c.isDigit = true) → text.toList ≠ c :: cs := by
      intro c cs hc heq
      rw [heq] at hnumber
      exact hc hnumber.head
    rw [readVariable_bare h (fun _ => hword _ _ (by decide)) (fun _ => hword _ _ (by decide))]
    exact (bareValue_cases (h.not_mem (by decide))).1 hnumber

theorem readVariable_text (h : Phrase text) (hscalar : ¬IsScalar text) :
    readVariable text = .text text := by
  have hlonger : ∀ word b, (word, b) ∈ [("true", true), ("false", false)] → word ≠ text →
      (∃ rest, text.toList = word.toList ++ rest) → readVariable text = .text text := by
    rintro word b hword hne ⟨rest, htext⟩
    refine readVariable_longer h hword (fun hnil => hne ?_) htext
    rw [hnil, List.append_nil] at htext
    exact (String.toList_inj.mp htext).symm
  by_cases htrue : ∃ rest, text.toList = "true".toList ++ rest
  · exact hlonger _ true (by decide) (fun heq => hscalar (.inl heq.symm)) htrue
  by_cases hfalse : ∃ rest, text.toList = "false".toList ++ rest
  · exact hlonger _ false (by decide) (fun heq => hscalar (.inr (.inl heq.symm))) hfalse
  rw [readVariable_bare h (fun rest heq => htrue ⟨rest, heq⟩) fun rest heq => hfalse ⟨rest, heq⟩]
  have hbare := (bareValue_cases (h.not_mem (by decide))).2
  rw [hbare fun hnumber => hscalar (.inr (.inr hnumber)), String.ofList_toList]

end

end Texts

end FormMarkup.Settings
