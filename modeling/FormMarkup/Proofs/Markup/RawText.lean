import FormMarkup.Proofs.Markup.Content

namespace FormMarkup.Markup

def Event.isStart (name : String) : Event → Bool
  | .start n _ => n = name
  | _ => false

def afterStart? (name : String) (m : Mode) : List Char → Option (List Char)
  | [] => none
  | c :: cs =>
      match m.step c with
      | none => none
      | some (events, m') =>
          if events.any (Event.isStart name) then some cs else afterStart? name m' cs

def textBefore? (ending : List Char) : List Char → Option (List Char)
  | [] => none
  | c :: cs =>
      if ending.isPrefixOf (c :: cs) then some [] else (textBefore? ending cs).map (c :: ·)

def dropLineFeed : List Char → List Char
  | '\n' :: cs => cs
  | cs => cs

/-- The content that a reader of HTML gives to the first control of a kind: all that stands between
its start tag and its end tag is text, and a line feed right after the start tag is not part of
it. -/
def initialContent? (e : Element) (html : String) : Option String := do
  let rest ← afterStart? e.name (.text []) html.toList
  let content ← textBefore? ("</" ++ e.name ++ ">").toList rest
  return decoded (String.ofList (dropLineFeed content))

example : initialContent? .textarea "<p>a</p><textarea b=\"<\">c<p>\n&lt;</p></textarea>d" =
    some "c<p>\n<</p>" := by
  decide

example : initialContent? .textarea "<textarea>\n\n&amp;lt;</textarea>" = some "\n&lt;" := by
  decide

theorem start_not_mem_textEvents (content : List Char) (n : String)
    (as : Pairs (Option String)) : .start n as ∉ textEvents content := by
  unfold textEvents
  split <;> simp

theorem Mode.step_ne_restart (m : Mode) (c : Char) : m.step c ≠ some ([], .text []) := by
  have hafter : ∀ tag, stepAfter tag c ≠ some ([], .text []) := by grind [stepAfter]
  cases m with
  | text content => rw [step]; split <;> simp
  | _ => grind [step]

theorem scanFrom_eq_nil {m : Mode} {cs : List Char} (h : scanFrom m cs = some []) :
    m = .text [] ∧ cs = [] := by
  induction cs generalizing m with
  | nil =>
      cases m with
      | text content =>
          cases content with
          | nil => exact ⟨rfl, rfl⟩
          | cons c cs => cases h
      | _ => cases h
  | cons c cs ih =>
      rw [scanFrom] at h
      split at h
      · cases h
      · next events m' hstep =>
          obtain ⟨es, hes, happend⟩ := Option.map_eq_some_iff.mp h
          obtain ⟨rfl, rfl⟩ := List.append_eq_nil_iff.mp happend
          obtain ⟨rfl, -⟩ := ih hes
          exact absurd hstep (m.step_ne_restart c)

theorem any_isStart {name : String} {events : List Event} (h : ∀ as, .start name as ∉ events) :
    events.any (Event.isStart name) = false := by
  refine List.any_eq_false.mpr fun e he => ?_
  cases e with
  | start n as =>
      have hne : n ≠ name := fun e => h as (e ▸ he)
      simp [Event.isStart, hne]
  | text content => exact Bool.false_ne_true
  | finish n => exact Bool.false_ne_true

theorem afterStart?_of_scanFrom {name : String} {as : Pairs (Option String)} {m : Mode}
    {cs : List Char} {events : List Event}
    (h : scanFrom m cs = some (events ++ [.start name as]))
    (hfirst : ∀ as', .start name as' ∉ events) (rest : List Char) :
    afterStart? name m (cs ++ rest) = some rest := by
  induction cs generalizing m events with
  | nil =>
      cases m with
      | text content =>
          have hmem : .start name as ∈ textEvents content := by
            rw [Option.some.inj h]
            exact List.mem_append_right _ (List.mem_singleton_self _)
          exact absurd hmem (start_not_mem_textEvents content name as)
      | _ => cases h
  | cons c cs ih =>
      rw [scanFrom] at h
      split at h
      · cases h
      · next stepped m' hstep =>
          obtain ⟨later, hlater, happend⟩ := Option.map_eq_some_iff.mp h
          have hlate (es : List Event) (hes : later = es ++ [.start name as])
              (hstepped : ∀ as', .start name as' ∉ stepped) (hnone : ∀ as', .start name as' ∉ es) :
              afterStart? name m (c :: cs ++ rest) = some rest := by
            rw [List.cons_append, afterStart?, hstep]
            simp only [any_isStart hstepped]
            exact ih (hes ▸ hlater) hnone
          -- The tag is known at this character or later.
          rcases List.append_eq_append_iff.mp happend with ⟨es, rfl, hes⟩ | ⟨es, rfl, hes⟩
          · simp only [List.mem_append, not_or] at hfirst
            exact hlate es hes (fun as' => (hfirst as').1) fun as' => (hfirst as').2
          · cases es with
            | nil => exact hlate [] hes.symm (by simpa using hfirst) fun _ => List.not_mem_nil
            | cons e es =>
                obtain ⟨rfl, hnil⟩ := List.cons.inj hes
                obtain ⟨rfl, rfl⟩ := List.append_eq_nil_iff.mp hnil.symm
                obtain ⟨-, rfl⟩ := scanFrom_eq_nil hlater
                rw [List.cons_append, afterStart?, hstep]
                simp [Event.isStart]

theorem textBefore?_append {content : List Char} (h : '<' ∉ content) (ending rest : List Char) :
    textBefore? ('<' :: ending) (content ++ '<' :: ending ++ rest) = some content := by
  induction content with
  | nil =>
      have hending : ('<' :: ending).isPrefixOf ('<' :: ending ++ rest) = true :=
        List.isPrefixOf_iff_prefix.mpr (List.prefix_append ..)
      rw [List.cons_append] at hending
      rw [List.nil_append, List.cons_append, textBefore?, if_pos hending]
  | cons c cs ih =>
      have hc : c ≠ '<' := fun e => h (e ▸ List.mem_cons_self ..)
      have hcs := ih fun hm => h (List.mem_cons_of_mem _ hm)
      have hother : ('<' :: ending).isPrefixOf (c :: cs ++ '<' :: ending ++ rest) = false := by
        simp [List.isPrefixOf, hc.symm]
      simp only [List.cons_append, List.append_assoc] at hcs hother ⊢
      rw [textBefore?, if_neg (by simp [hother]), hcs]
      rfl

theorem dropLineFeed_eq_iff {cs : List Char} : dropLineFeed cs = cs ↔ cs.head? ≠ some '\n' := by
  unfold dropLineFeed
  split
  · simp
  · next hne =>
      refine ⟨fun _ hhead => ?_, fun _ => rfl⟩
      obtain ⟨rest, rfl⟩ := List.head?_eq_some_iff.mp hhead
      exact hne rest rfl

theorem head?_textEntity {c : Char} (h : c ≠ '\n') (cs : List Char) :
    (textEntity c ++ cs).head? ≠ some '\n' := by
  by_cases ha : c = '&'
  · subst ha; simp [textEntity]
  by_cases hl : c = '<'
  · subst hl; simp [textEntity]
  by_cases hg : c = '>'
  · subst hg; simp [textEntity]
  simpa [textEntity_of_ne ha hl hg] using h

theorem decodeEntities_dropLineFeed (cs : List Char) :
    decodeEntities (dropLineFeed (escapeTextChars cs)) = dropLineFeed cs := by
  have hdecode (cs : List Char) : decodeEntities (cs.flatMap textEntity) = cs :=
    decodeEntities_flatMap decodeEntities_textEntity cs
  rw [escapeTextChars_eq_flatMap]
  cases cs with
  | nil => rfl
  | cons c cs =>
      by_cases hc : c = '\n'
      · subst hc
        exact hdecode cs
      · have hwritten : dropLineFeed ((c :: cs).flatMap textEntity) = (c :: cs).flatMap textEntity :=
          dropLineFeed_eq_iff.mpr (head?_textEntity hc _)
        have hgiven : dropLineFeed (c :: cs) = c :: cs :=
          dropLineFeed_eq_iff.mpr fun h => hc (Option.some.inj h)
        rw [hwritten, hdecode, hgiven]

theorem eventsOf_concat_start {e : Element} {items : List Item} (h : starts e items = [])
    (as : List Attribute) (pending : List Char) :
    ∃ events, eventsOf pending (items ++ [.start e as]) =
        events ++ [.start e.name (as.map Attribute.found)] ∧
      ∀ as', .start e.name as' ∉ events := by
  induction items generalizing pending with
  | nil => exact ⟨textEvents pending, rfl, start_not_mem_textEvents pending e.name⟩
  | cons i items ih =>
      cases i with
      | start e' bs =>
          have hother : e' ≠ e := by
            rintro rfl
            simp [starts, Item.start?] at h
          have hitems : starts e items = [] := by
            simpa [starts, Item.start?, hother] using h
          obtain ⟨events, hevents, hnone⟩ := ih hitems []
          refine ⟨textEvents pending ++ .start e'.name (bs.map Attribute.found) :: events, ?_, ?_⟩
          · rw [List.cons_append, eventsOf, hevents, List.append_assoc, List.cons_append]
          · have hname : e.name ≠ e'.name := fun hn => hother (Element.name_inj.mp hn).symm
            simp [start_not_mem_textEvents, hname, hnone]
      | finish e' =>
          obtain ⟨events, hevents, hnone⟩ := ih h []
          refine ⟨textEvents pending ++ .finish e'.name :: events, ?_, ?_⟩
          · rw [List.cons_append, eventsOf, hevents, List.append_assoc, List.cons_append]
          · simp [start_not_mem_textEvents, hnone]
      | text content => exact ih h (pending ++ escapeTextChars content.toList)
      | layout blanks => exact ih h (pending ++ blanks.toList)
      | raw markup => exact ih h (pending ++ markup.toList)

theorem initialContent?_write {e : Element} {before : List Item} (hbefore : ∀ i ∈ before, i.Tame)
    (hfirst : starts e before = []) {as : List Attribute} (has : AllTame as) (content : String)
    (after : List Item) :
    initialContent? e (write (before ++ .start e as :: .text content :: .finish e :: after)) =
      some (String.ofList (dropLineFeed content.toList)) := by
  obtain ⟨events, hevents, hnone⟩ := eventsOf_concat_start hfirst as []
  have htame : ∀ i ∈ before ++ [.start e as], i.Tame := by
    simpa [or_imp, forall_and] using ⟨hbefore, has⟩
  have hscan := (scanFrom_write htame []).trans (congrArg some hevents)
  have hcontent : '<' ∉ escapeTextChars content.toList := fun hm => (mem_escapeTextChars hm).1 rfl
  have hwritten : (write (before ++ .start e as :: .text content :: .finish e :: after)).toList =
      (write (before ++ [.start e as])).toList ++ (escapeTextChars content.toList ++
        '<' :: ('/' :: e.name.toList ++ ['>']) ++ (write after).toList) := by
    simp [toList_write, Item.chars]
  have hending : ("</" ++ e.name ++ ">").toList = '<' :: ('/' :: e.name.toList ++ ['>']) := by
    simp
  rw [initialContent?, hwritten, afterStart?_of_scanFrom hscan hnone, hending]
  simp only [Option.bind_eq_bind, Option.bind_some, textBefore?_append hcontent]
  simp [decoded, decodeEntities_dropLineFeed]

end FormMarkup.Markup
