import FormMarkup.Proofs.Markup.Entity

namespace FormMarkup.Markup

def textEntities : List (Char × String) :=
  [('&', "&amp;"), ('<', "&lt;"), ('>', "&gt;")]

def valueEntities : List (Char × String) :=
  [('"', "&quot;"), ('\x27', "&#39;")] ++ textEntities

def substitute : List (Char × String) → Char → List Char
  | [], c => [c]
  | (d, entity) :: table, c => if c = d then entity.toList else substitute table c

theorem substitute_cases (table : List (Char × String)) (c : Char) :
    (∃ e ∈ table, e.1 = c ∧ substitute table c = e.2.toList) ∨
      ((∀ e ∈ table, e.1 ≠ c) ∧ substitute table c = [c]) := by
  induction table with
  | nil => exact .inr ⟨fun e he => absurd he List.not_mem_nil, rfl⟩
  | cons entry table ih =>
      obtain ⟨d, entity⟩ := entry
      rw [substitute]
      split
      · next hc => exact .inl ⟨_, List.mem_cons_self .., hc.symm, rfl⟩
      · next hc =>
          rcases ih with ⟨e, he, hec, hs⟩ | ⟨hne, hs⟩
          · exact .inl ⟨e, List.mem_cons_of_mem _ he, hec, hs⟩
          · exact .inr ⟨List.forall_mem_cons.mpr ⟨Ne.symm hc, hne⟩, hs⟩

theorem exists_of_flatMap_eq {α β : Type} {f : α → List β} {b : β} {xs : List α}
    {before after : List β} (h : xs.flatMap f = before ++ b :: after) :
    ∃ us x vs front back, xs = us ++ x :: vs ∧ f x = front ++ b :: back ∧
      before = us.flatMap f ++ front ∧ after = back ++ vs.flatMap f := by
  induction xs generalizing before with
  | nil => cases before <;> cases h
  | cons x xs ih =>
      rw [List.flatMap_cons] at h
      have hsplit : (∃ rest, before = f x ++ rest ∧ xs.flatMap f = rest ++ b :: after) ∨
          ∃ back, f x = before ++ b :: back ∧ after = back ++ xs.flatMap f := by
        rcases List.append_eq_append_iff.mp h with ⟨rest, hbefore, hrest⟩ | ⟨back, hx, hafter⟩
        · exact .inl ⟨rest, hbefore, hrest⟩
        · cases back with
          | nil => exact .inl ⟨[], by simpa using hx.symm, hafter.symm⟩
          | cons c back =>
              obtain ⟨rfl, rfl⟩ := List.cons.inj hafter
              exact .inr ⟨back, hx, rfl⟩
      rcases hsplit with ⟨rest, hbefore, hrest⟩ | ⟨back, hx, hafter⟩
      · obtain ⟨us, y, vs, front, back, rfl, hy, rfl, hafter⟩ := ih hrest
        refine ⟨x :: us, y, vs, front, back, rfl, hy, ?_, hafter⟩
        rw [hbefore, List.flatMap_cons, List.append_assoc]
      · exact ⟨[], x, xs, before, back, rfl, hx, rfl, hafter⟩

structure Entities (table : List (Char × String)) : Prop where
  marked : ∃ e ∈ table, e.1 = '&'
  named : ∀ e ∈ table, ∃ name, e.2.toList = '&' :: name ∧ ∀ m ∈ table, m.1 ∉ name

theorem entities_valueEntities : Entities valueEntities := by
  refine ⟨by decide, fun e he => ?_⟩
  simp only [valueEntities, textEntities, List.cons_append, List.nil_append, List.mem_cons,
    List.not_mem_nil, or_false] at he
  rcases he with rfl | rfl | rfl | rfl | rfl <;> exact ⟨_, rfl, by decide⟩

theorem entities_textEntities : Entities textEntities := by
  refine ⟨by decide, fun e he => ?_⟩
  obtain ⟨name, hentity, hname⟩ := entities_valueEntities.named e (List.mem_append_right _ he)
  exact ⟨name, hentity, fun m hm => hname m (List.mem_append_right _ hm)⟩

section

variable {table : List (Char × String)} {cs : List Char}

theorem Entities.ampersand (h : Entities table) {before after : List Char}
    (hcs : cs.flatMap (substitute table) = before ++ '&' :: after) :
    ∃ e ∈ table, ∃ us vs, cs = us ++ e.1 :: vs ∧ before = us.flatMap (substitute table) ∧
      '&' :: after = e.2.toList ++ vs.flatMap (substitute table) := by
  obtain ⟨us, c, vs, front, back, rfl, hc, hbefore, hafter⟩ := exists_of_flatMap_eq hcs
  obtain ⟨m, hm, hamp⟩ := h.marked
  rcases substitute_cases table c with ⟨e, he, rfl, hs⟩ | ⟨hne, hs⟩
  · obtain ⟨name, hentity, hname⟩ := h.named e he
    rw [hs, hentity] at hc
    cases front with
    | nil =>
        refine ⟨e, he, us, vs, rfl, by simpa using hbefore, ?_⟩
        rw [hafter, hentity, hc, List.nil_append, List.cons_append]
    | cons d front =>
        have hmem : '&' ∈ name := by simp [(List.cons.inj hc).2]
        exact absurd (hamp ▸ hmem) (hname m hm)
  · have hmem : '&' ∈ [c] := by simp [← hs, hc]
    exact absurd (hamp.trans (List.mem_singleton.mp hmem)) (hne m hm)

theorem Entities.replaced (h : Entities table) {e : Char × String} (he : e ∈ table)
    (hamp : e.1 ≠ '&') : e.1 ∉ cs.flatMap (substitute table) := by
  intro hmem
  obtain ⟨c, -, hc⟩ := List.mem_flatMap.mp hmem
  rcases substitute_cases table c with ⟨m, hm, -, hs⟩ | ⟨hne, hs⟩
  · obtain ⟨name, hentity, hname⟩ := h.named m hm
    rw [hs, hentity] at hc
    rcases List.mem_cons.mp hc with heq | hc
    · exact hamp heq
    · exact hname e he hc
  · rw [hs] at hc
    exact hne e he (List.mem_singleton.mp hc)

end

structure Substitutes (escape : String → String) (table : List (Char × String)) : Prop where
  each : ∀ s, (escape s).toList = s.toList.flatMap (substitute table)
  readBack : ∀ s, decoded (escape s) = s
  injective : Function.Injective escape
  replaced : ∀ s, ∀ e ∈ table, e.1 ≠ '&' → e.1 ∉ (escape s).toList
  ampersand : ∀ s before after, (escape s).toList = before ++ '&' :: after →
    ∃ e ∈ table, ∃ us vs, s.toList = us ++ e.1 :: vs ∧
      before = us.flatMap (substitute table) ∧
      '&' :: after = e.2.toList ++ vs.flatMap (substitute table)
  append : ∀ s t, escape (s ++ t) = escape s ++ escape t

theorem Entities.substitutes {table : List (Char × String)} (h : Entities table)
    {escape : String → String}
    (each : ∀ s, (escape s).toList = s.toList.flatMap (substitute table))
    (readBack : ∀ s, decoded (escape s) = s) : Substitutes escape table where
  each := each
  readBack := readBack
  injective := Function.LeftInverse.injective readBack
  replaced s e he hamp := by
    rw [each]
    exact h.replaced he hamp
  ampersand s before after hs := h.ampersand ((each s).symm.trans hs)
  append s t := by
    refine String.toList_inj.mp ?_
    rw [String.toList_append, each, each, each, String.toList_append, List.flatMap_append]

theorem toList_escapeText (s : String) :
    (escapeText s).toList = s.toList.flatMap (substitute textEntities) := by
  rw [escapeText, String.toList_ofList]
  exact escapeTextChars_eq_flatMap _

theorem toList_escapeValue (s : String) :
    (escapeValue s).toList = s.toList.flatMap (substitute valueEntities) := by
  rw [escapeValue, String.toList_ofList]
  exact escapeValueChars_eq_flatMap _

theorem escapes_substitute :
    Substitutes escapeText textEntities ∧ Substitutes escapeValue valueEntities :=
  ⟨entities_textEntities.substitutes toList_escapeText decoded_escapeText,
    entities_valueEntities.substitutes toList_escapeValue decoded_escapeValue⟩

end FormMarkup.Markup
