import FormMarkup.Markup.Escape

namespace FormMarkup.Markup

def textEntity (c : Char) : List Char :=
  if c = '&' then "&amp;".toList
  else if c = '<' then "&lt;".toList
  else if c = '>' then "&gt;".toList
  else [c]

def valueEntity (c : Char) : List Char :=
  if c = '"' then "&quot;".toList
  else if c = '\x27' then "&#39;".toList
  else textEntity c

theorem replaceChar_singleton {c d : Char} (h : d ≠ c) (entity : List Char) :
    replaceChar c entity [d] = [d] := by
  simp [replaceChar, h]

theorem textEntity_of_ne {c : Char} (ha : c ≠ '&') (hl : c ≠ '<') (hg : c ≠ '>') :
    textEntity c = [c] := by
  rw [textEntity, if_neg ha, if_neg hl, if_neg hg]

theorem valueEntity_of_ne {c : Char} (hq : c ≠ '"') (hs : c ≠ '\x27') :
    valueEntity c = textEntity c := by
  rw [valueEntity, if_neg hq, if_neg hs]

theorem escapeTextChars_append (xs ys : List Char) :
    escapeTextChars (xs ++ ys) = escapeTextChars xs ++ escapeTextChars ys := by
  simp only [escapeTextChars, replaceChar_append]

theorem escapeValueChars_append (xs ys : List Char) :
    escapeValueChars (xs ++ ys) = escapeValueChars xs ++ escapeValueChars ys := by
  simp only [escapeValueChars, replaceChar_append]

theorem escapeTextChars_singleton (c : Char) : escapeTextChars [c] = textEntity c := by
  by_cases ha : c = '&'
  · subst ha; decide
  by_cases hl : c = '<'
  · subst hl; decide
  by_cases hg : c = '>'
  · subst hg; decide
  rw [escapeTextChars, replaceChar_singleton ha, replaceChar_singleton hl,
    replaceChar_singleton hg, textEntity_of_ne ha hl hg]

theorem escapeValueChars_singleton (c : Char) : escapeValueChars [c] = valueEntity c := by
  by_cases hq : c = '"'
  · subst hq; decide
  by_cases hs : c = '\x27'
  · subst hs; decide
  by_cases ha : c = '&'
  · subst ha; decide
  by_cases hl : c = '<'
  · subst hl; decide
  by_cases hg : c = '>'
  · subst hg; decide
  rw [escapeValueChars, replaceChar_singleton ha, replaceChar_singleton hq,
    replaceChar_singleton hs, replaceChar_singleton hl, replaceChar_singleton hg,
    valueEntity_of_ne hq hs, textEntity_of_ne ha hl hg]

theorem escapeTextChars_eq_flatMap (cs : List Char) :
    escapeTextChars cs = cs.flatMap textEntity := by
  induction cs with
  | nil => rfl
  | cons c cs ih =>
      rw [← List.singleton_append, escapeTextChars_append, escapeTextChars_singleton, ih]
      rfl

theorem escapeValueChars_eq_flatMap (cs : List Char) :
    escapeValueChars cs = cs.flatMap valueEntity := by
  induction cs with
  | nil => rfl
  | cons c cs ih =>
      rw [← List.singleton_append, escapeValueChars_append, escapeValueChars_singleton, ih]
      rfl

theorem all_textEntity (c : Char) : (textEntity c).all fun d => d != '<' && d != '>' := by
  by_cases ha : c = '&'
  · subst ha; decide
  by_cases hl : c = '<'
  · subst hl; decide
  by_cases hg : c = '>'
  · subst hg; decide
  simp [textEntity_of_ne ha hl hg, hl, hg]

theorem all_valueEntity (c : Char) :
    (valueEntity c).all fun d => d != '"' && d != '\x27' && (d != '<' && d != '>') := by
  by_cases hq : c = '"'
  · subst hq; decide
  by_cases hs : c = '\x27'
  · subst hs; decide
  by_cases ha : c = '&'
  · subst ha; decide
  by_cases hl : c = '<'
  · subst hl; decide
  by_cases hg : c = '>'
  · subst hg; decide
  simp [valueEntity_of_ne hq hs, textEntity_of_ne ha hl hg, hq, hs, hl, hg]

theorem mem_textEntity {c d : Char} (h : d ∈ textEntity c) : d ≠ '<' ∧ d ≠ '>' := by
  have hd := List.all_eq_true.mp (all_textEntity c) d h
  simpa using hd

theorem mem_valueEntity {c d : Char} (h : d ∈ valueEntity c) :
    d ≠ '"' ∧ d ≠ '\x27' ∧ d ≠ '<' ∧ d ≠ '>' := by
  have hd := List.all_eq_true.mp (all_valueEntity c) d h
  simpa [and_assoc] using hd

theorem mem_escapeTextChars {cs : List Char} {d : Char} (h : d ∈ escapeTextChars cs) :
    d ≠ '<' ∧ d ≠ '>' := by
  rw [escapeTextChars_eq_flatMap] at h
  obtain ⟨c, _, hd⟩ := List.mem_flatMap.mp h
  exact mem_textEntity hd

theorem mem_escapeValueChars {cs : List Char} {d : Char} (h : d ∈ escapeValueChars cs) :
    d ≠ '"' ∧ d ≠ '\x27' ∧ d ≠ '<' ∧ d ≠ '>' := by
  rw [escapeValueChars_eq_flatMap] at h
  obtain ⟨c, _, hd⟩ := List.mem_flatMap.mp h
  exact mem_valueEntity hd

def decodeEntities : List Char → List Char
  | '&' :: 'a' :: 'm' :: 'p' :: ';' :: cs => '&' :: decodeEntities cs
  | '&' :: 'q' :: 'u' :: 'o' :: 't' :: ';' :: cs => '"' :: decodeEntities cs
  | '&' :: '#' :: '3' :: '9' :: ';' :: cs => '\x27' :: decodeEntities cs
  | '&' :: 'l' :: 't' :: ';' :: cs => '<' :: decodeEntities cs
  | '&' :: 'g' :: 't' :: ';' :: cs => '>' :: decodeEntities cs
  | c :: cs => c :: decodeEntities cs
  | [] => []

def decoded (s : String) : String :=
  String.ofList (decodeEntities s.toList)

theorem decodeEntities_cons {c : Char} (h : c ≠ '&') (cs : List Char) :
    decodeEntities (c :: cs) = c :: decodeEntities cs := by
  rw [decodeEntities]
  all_goals
    intro _ hc
    exact fun _ => h hc

theorem exists_append_of_append_cons {α : Type} {c : α} {e xs ys zs : List α} (hc : c ∉ e)
    (h : xs ++ c :: ys = e ++ zs) : ∃ rest, xs = e ++ rest := by
  rcases List.append_eq_append_iff.mp h with ⟨as, rfl, has⟩ | ⟨bs, rfl, _⟩
  · cases as with
    | nil => exact ⟨[], by simp⟩
    | cons a as =>
        obtain rfl : c = a := (List.cons.inj has).1
        exact absurd (by simp) hc
  · exact ⟨bs, rfl⟩

-- A character of no entity ends whatever entity has begun before it.
theorem decodeEntities_append {c : Char} (hc : c ∉ "amp;quot#39ltg".toList) (xs ys : List Char) :
    decodeEntities (xs ++ c :: ys) = decodeEntities xs ++ decodeEntities (c :: ys) := by
  have hc' : c ∉ ['a', 'm', 'p', ';', 'q', 'u', 'o', 't', '#', '3', '9', 'l', 't', 'g'] := hc
  fun_induction decodeEntities xs with
  | case1 cs ih => simp only [List.cons_append, decodeEntities, ih]
  | case2 cs ih => simp only [List.cons_append, decodeEntities, ih]
  | case3 cs ih => simp only [List.cons_append, decodeEntities, ih]
  | case4 cs ih => simp only [List.cons_append, decodeEntities, ih]
  | case5 cs ih => simp only [List.cons_append, decodeEntities, ih]
  | case6 d cs hamp hquot hapos hlt hgt ih =>
      have hno : ∀ entity : List Char, c ∉ entity → (∀ rest, cs = entity ++ rest → False) →
          ∀ rest, cs ++ c :: ys = entity ++ rest → False := by
        intro entity he hcs rest h
        obtain ⟨rest', h'⟩ := exists_append_of_append_cons he h
        exact hcs rest' h'
      rw [List.cons_append, decodeEntities, ih]
      · rfl
      · intro rest hd h
        exact hno ['a', 'm', 'p', ';'] (by simp_all) (fun r => hamp r hd) rest h
      · intro rest hd h
        exact hno ['q', 'u', 'o', 't', ';'] (by simp_all) (fun r => hquot r hd) rest h
      · intro rest hd h
        exact hno ['#', '3', '9', ';'] (by simp_all) (fun r => hapos r hd) rest h
      · intro rest hd h
        exact hno ['l', 't', ';'] (by simp_all) (fun r => hlt r hd) rest h
      · intro rest hd h
        exact hno ['g', 't', ';'] (by simp_all) (fun r => hgt r hd) rest h
  | case7 => rfl

theorem decodeEntities_unescaped {cs : List Char} (h : '&' ∉ cs) : decodeEntities cs = cs := by
  induction cs with
  | nil => rfl
  | cons c cs ih =>
      have hc : c ≠ '&' := fun e => h (e ▸ List.mem_cons_self ..)
      rw [decodeEntities_cons hc, ih fun hm => h (List.mem_cons_of_mem _ hm)]

theorem mem_decodeEntities {c : Char} {cs : List Char} (h : c ∈ decodeEntities cs) :
    c ∈ cs ∨ c ∈ ['&', '"', '\x27', '<', '>'] := by
  fun_induction decodeEntities cs <;> grind

theorem decodeEntities_textEntity (c : Char) (cs : List Char) :
    decodeEntities (textEntity c ++ cs) = c :: decodeEntities cs := by
  by_cases ha : c = '&'
  · subst ha; rfl
  by_cases hl : c = '<'
  · subst hl; rfl
  by_cases hg : c = '>'
  · subst hg; rfl
  simpa [textEntity_of_ne ha hl hg] using decodeEntities_cons ha cs

theorem decodeEntities_valueEntity (c : Char) (cs : List Char) :
    decodeEntities (valueEntity c ++ cs) = c :: decodeEntities cs := by
  by_cases hq : c = '"'
  · subst hq; rfl
  by_cases hs : c = '\x27'
  · subst hs; rfl
  rw [valueEntity_of_ne hq hs]
  exact decodeEntities_textEntity c cs

theorem decodeEntities_flatMap {entity : Char → List Char}
    (h : ∀ c cs, decodeEntities (entity c ++ cs) = c :: decodeEntities cs) (cs : List Char) :
    decodeEntities (cs.flatMap entity) = cs := by
  induction cs with
  | nil => rfl
  | cons c cs ih => rw [List.flatMap_cons, h, ih]

theorem decoded_escapeText (s : String) : decoded (escapeText s) = s := by
  simp [decoded, escapeText, escapeTextChars_eq_flatMap,
    decodeEntities_flatMap decodeEntities_textEntity]

theorem decoded_escapeValue (s : String) : decoded (escapeValue s) = s := by
  simp [decoded, escapeValue, escapeValueChars_eq_flatMap,
    decodeEntities_flatMap decodeEntities_valueEntity]

end FormMarkup.Markup
