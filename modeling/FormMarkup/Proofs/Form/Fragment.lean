import FormMarkup.Proofs.Form.Steps
import FormMarkup.Proofs.Markup.Extra
import FormMarkup.Proofs.Text.Trim

namespace FormMarkup

open FormMarkup.Markup

namespace Markup

structure IsItemName (name : String) : Prop where
  nonempty : name ≠ ""
  unmarked : ∀ c ∈ name.toList, Text.isBlank c = false ∧ c ∉ ['"', '\x27', '=', '<', '>', '/']

theorem IsItemName.isTagName {name : String} (h : IsItemName name) : IsTagName name :=
  ⟨h.nonempty, fun c hc => isTagNameChar_of_unmarked (h.unmarked c hc).1 (h.unmarked c hc).2⟩

instance (name : String) : Decidable (IsItemName name) :=
  decidable_of_iff
    (name ≠ "" ∧ name.toList.all (fun c =>
      !Text.isBlank c && decide (c ∉ ['"', '\x27', '=', '<', '>', '/'])) = true)
    ⟨fun h => ⟨h.1, by simpa using h.2⟩, fun h => ⟨h.1, by simpa using h.2⟩⟩

inductive PairMode where
  | name (done : List Char)
  | equals (name : List Char)
  | value (name done : List Char)
  | closed (name value : List Char)
  deriving DecidableEq, Repr

def readPairsFrom : PairMode → List Char → Option (List (String × String))
  | .closed name value, [] => some [(String.ofList name, decoded (String.ofList value))]
  | _, [] => none
  | .name done, c :: cs =>
      if isTagNameChar c then readPairsFrom (.name (done ++ [c])) cs
      else if c = '=' && done != [] then readPairsFrom (.equals done) cs
      else none
  | .equals name, c :: cs => if c = '"' then readPairsFrom (.value name []) cs else none
  | .value name done, c :: cs =>
      if c = '"' then readPairsFrom (.closed name done) cs
      else readPairsFrom (.value name (done ++ [c])) cs
  | .closed name value, c :: cs =>
      if c = ' ' then
        (readPairsFrom (.name []) cs).map
          ((String.ofList name, decoded (String.ofList value)) :: ·)
      else none

def readPairs (s : String) : Option (List (String × String)) :=
  if s = "" then some [] else readPairsFrom (.name []) s.toList

example : readPairs "a=\"1 > 0\" b=\"&quot;\"" = some [("a", "1 > 0"), ("b", "\"")] := by decide

example : readPairs "a=\"1\"  b=\"\"" = none := by decide

def pairChars (a : String × String) : List Char :=
  a.1.toList ++ '=' :: '"' :: (escapeValueChars a.2.toList ++ ['"'])

theorem readPairsFrom_name {cs : List Char} (h : ∀ c ∈ cs, isTagNameChar c = true)
    (done rest : List Char) :
    readPairsFrom (.name done) (cs ++ rest) = readPairsFrom (.name (done ++ cs)) rest :=
  read_run (r := readPairsFrom) (f := .name)
    (fun _ _ c hc => by simp [readPairsFrom, h c hc]) done rest

theorem readPairsFrom_value {cs : List Char} (h : '"' ∉ cs) (name done rest : List Char) :
    readPairsFrom (.value name done) (cs ++ rest) =
      readPairsFrom (.value name (done ++ cs)) rest :=
  read_run (r := readPairsFrom) (f := .value name)
    (fun _ _ c hc => by
      have hne : c ≠ '"' := fun e => h (e ▸ hc)
      simp [readPairsFrom, hne]) done rest

theorem readPairsFrom_pair {a : String × String} (h : IsTagName a.1) (rest : List Char) :
    readPairsFrom (.name []) (pairChars a ++ rest) =
      readPairsFrom (.closed a.1.toList (escapeValueChars a.2.toList)) rest := by
  obtain ⟨hne, hname⟩ := h
  have hnil : a.1.toList ≠ [] := fun e => hne (String.toList_eq_nil_iff.mp e)
  have hequals : isTagNameChar '=' = false := by decide
  have hvalue : '"' ∉ escapeValueChars a.2.toList := fun hm => (mem_escapeValueChars hm).1 rfl
  have hstart : pairChars a ++ rest =
      a.1.toList ++ '=' :: '"' :: (escapeValueChars a.2.toList ++ '"' :: rest) := by
    simp [pairChars]
  calc readPairsFrom (.name []) (pairChars a ++ rest)
      = readPairsFrom (.name a.1.toList)
          ('=' :: '"' :: (escapeValueChars a.2.toList ++ '"' :: rest)) := by
        rw [hstart, readPairsFrom_name hname, List.nil_append]
    _ = readPairsFrom (.value a.1.toList []) (escapeValueChars a.2.toList ++ '"' :: rest) := by
        simp [readPairsFrom, hequals, hnil]
    _ = readPairsFrom (.value a.1.toList (escapeValueChars a.2.toList)) ('"' :: rest) := by
        rw [readPairsFrom_value hvalue, List.nil_append]
    _ = readPairsFrom (.closed a.1.toList (escapeValueChars a.2.toList)) rest := by
        simp [readPairsFrom]

theorem readPairsFrom_written {as : List (String × String)} (h : ∀ a ∈ as, IsTagName a.1)
    (a : String × String) :
    readPairsFrom (.closed a.1.toList (escapeValueChars a.2.toList))
        (as.flatMap fun a => ' ' :: pairChars a) = some (a :: as) := by
  have hself : (String.ofList a.1.toList,
      decoded (String.ofList (escapeValueChars a.2.toList))) = a :=
    Prod.ext String.ofList_toList (decoded_escapeValue a.2)
  induction as generalizing a with
  | nil => exact congrArg (fun b => some [b]) hself
  | cons b as ih =>
      obtain ⟨hb, has⟩ := List.forall_mem_cons.mp h
      have hrest := ih has b (Prod.ext String.ofList_toList (decoded_escapeValue b.2))
      rw [List.flatMap_cons, List.cons_append, readPairsFrom, if_pos rfl, readPairsFrom_pair hb,
        hrest, hself]
      rfl

end Markup

namespace Step

def attribute? : Step → Option (String × String)
  | .call c => c.attribute?
  | .field _ => none

theorem mem_attributes {steps : List Step} {n v : String}
    (h : (n, v) ∈ steps.filterMap attribute?) : .call (.addAttribute n v) ∈ steps := by
  obtain ⟨s, hs, ha⟩ := List.mem_filterMap.mp h
  cases s with
  | field f => cases ha
  | call c =>
      cases c with
      | addAttribute _ _ => cases ha; exact hs
      | _ => cases ha

theorem attributes_calls (steps : List Step) :
    (steps.filterMap call?).filterMap Call.attribute? = steps.filterMap attribute? := by
  rw [List.filterMap_filterMap]
  congr 1
  funext s
  cases s <;> rfl

end Step

namespace Call

def fragmentChars (as : List (String × String)) : List Char :=
  (as.flatMap fun a => ' ' :: pairChars a).tail

theorem fragmentChars_cons (a : String × String) (as : List (String × String)) :
    fragmentChars (a :: as) = pairChars a ++ as.flatMap fun a => ' ' :: pairChars a := rfl

theorem fragmentChars_concat {as : List (String × String)} (h : as ≠ []) (a : String × String) :
    fragmentChars (as ++ [a]) = fragmentChars as ++ ' ' :: pairChars a := by
  cases as with
  | nil => exact absurd rfl h
  | cons b as => simp [fragmentChars_cons]

theorem head_pairChars {a : String × String} (h : IsItemName a.1) :
    ∀ c ∈ (pairChars a).head?, Text.isBlank c = false := by
  intro c hc
  cases hname : a.1.toList with
  | nil => exact absurd (String.toList_eq_nil_iff.mp hname) h.nonempty
  | cons d ds =>
      rw [pairChars, hname] at hc
      obtain rfl : d = c := Option.some.inj hc
      exact (h.unmarked d (by simp [hname])).1

theorem head_fragmentChars {as : List (String × String)} (h : ∀ a ∈ as, IsItemName a.1) :
    ∀ c ∈ (fragmentChars as).head?, Text.isBlank c = false := by
  cases as with
  | nil => exact fun _ hc => nomatch hc
  | cons a as =>
      intro c hc
      have hne : pairChars a ≠ [] := by simp [pairChars]
      rw [fragmentChars_cons, List.head?_append, List.head?_eq_some_head hne, Option.some_or,
        ← List.head?_eq_some_head] at hc
      exact head_pairChars (h a (List.mem_cons_self ..)) c hc

theorem last_fragmentChars (as : List (String × String)) :
    ∀ c ∈ (fragmentChars as).getLast?, Text.isBlank c = false := by
  rcases List.eq_nil_or_concat as with rfl | ⟨bs, a, rfl⟩
  · exact fun _ hc => nomatch hc
  · intro c hc
    rw [List.concat_eq_append] at hc
    have hquote : ∃ front, fragmentChars (bs ++ [a]) = front ++ ['"'] := by
      by_cases hbs : bs = []
      · exact ⟨a.1.toList ++ '=' :: '"' :: escapeValueChars a.2.toList, by
          simp [hbs, fragmentChars_cons, pairChars]⟩
      · exact ⟨fragmentChars bs ++
          ' ' :: (a.1.toList ++ '=' :: '"' :: escapeValueChars a.2.toList), by
          simp [fragmentChars_concat hbs, pairChars]⟩
    obtain ⟨front, hfront⟩ := hquote
    rw [hfront, List.getLast?_concat] at hc
    obtain rfl := Option.some.inj hc
    decide

theorem trimmed_fragmentChars {as : List (String × String)} (h : ∀ a ∈ as, IsItemName a.1) :
    Text.Trimmed (fragmentChars as) :=
  ⟨head_fragmentChars h, last_fragmentChars as⟩

-- No call trims anything of the items before it, because these begin with a name and end with a
-- quote.
theorem toList_fragment {as : List (String × String)} (h : ∀ a ∈ as, IsItemName a.1) :
    (fragment as).text.toList = fragmentChars as := by
  induction as using List.reverseRecOn with
  | nil => rfl
  | append_singleton as a ih =>
      have has : ∀ b ∈ as, IsItemName b.1 := fun b hb => h b (List.mem_append_left _ hb)
      have hitem : (Attribute.escaped a.1 a.2).write.toList = ' ' :: pairChars a := by
        simp [Attribute.write, escapeValue, pairChars]
      have hcall : (fragment (as ++ [a])).text.toList =
          Text.trimStartChars
            (Text.trimChars (fragment as).text.toList ++ ' ' :: pairChars a) := by
        rw [← hitem, fragment, List.foldl_append]
        exact String.toList_ofList
      rw [hcall, ih has, (trimmed_fragmentChars has).trimChars_eq]
      by_cases hnil : as = []
      · have hspace : Text.trimStartChars (' ' :: pairChars a) =
            Text.trimStartChars (pairChars a) := rfl
        rw [hnil, fragmentChars, List.flatMap_nil, List.tail_nil, List.nil_append, hspace,
          Text.trimStartChars_eq (head_pairChars (h a (by simp)))]
        exact (List.append_nil _).symm
      · rw [← fragmentChars_concat hnil]
        exact Text.trimStartChars_eq (head_fragmentChars h)

theorem readPairs_fragment {as : List (String × String)} (h : ∀ a ∈ as, IsItemName a.1) :
    readPairs (fragment as).text = some as := by
  have htext := toList_fragment h
  cases as with
  | nil => rfl
  | cons a as =>
      obtain ⟨ha, has⟩ := List.forall_mem_cons.mp h
      have hne : (fragment (a :: as)).text ≠ "" := by
        intro hempty
        rw [hempty, fragmentChars_cons] at htext
        simp [pairChars] at htext
      rw [readPairs, if_neg hne, htext, fragmentChars_cons, readPairsFrom_pair ha.isTagName,
        readPairsFrom_written fun b hb => (has b hb).isTagName]

theorem attribute_fragment {as : List (String × String)} (h : ∀ a ∈ as, IsItemName a.1) :
    (fragment as).attribute = if as = [] then [] else [.raw (fragment as).text] := by
  cases as with
  | nil => rfl
  | cons a as =>
      have htext := toList_fragment h
      have hblank : (fragment (a :: as)).isBlank = false := by
        obtain ⟨c, cs, hcs⟩ : ∃ c cs, fragmentChars (a :: as) = c :: cs :=
          List.exists_cons_of_ne_nil (by simp [fragmentChars_cons, pairChars])
        have hc := head_fragmentChars h c (by rw [hcs]; rfl)
        simp [RawMarkup.isBlank, Text.isBlankText, htext, hcs, hc]
      have htrim : Text.trim (fragment (a :: as)).text = (fragment (a :: as)).text := by
        rw [Text.trim, htext, (trimmed_fragmentChars h).trimChars_eq, ← htext, String.ofList_toList]
      rw [RawMarkup.attribute, if_neg (by simp [hblank]), htrim, if_neg (by simp)]

end Call

theorem FormTag.formAttributes_eq (s : Settings) (tag : FormTag) :
    tag.formAttributes s =
      ({ tag with attributes := {} } : FormTag).formAttributes s ++ tag.attributes.attribute := by
  have hempty : RawMarkup.attribute {} = [] := rfl
  rw [formAttributes, formAttributes, hempty, List.append_nil]

namespace Builder

theorem attributes_accumulate (steps : List Step)
    (h : ∀ name value, .call (.addAttribute name value) ∈ steps → IsItemName name) :
    let tag := (ofSteps steps).tag
    let as := steps.filterMap Step.attribute?
    readPairs tag.attributes.text = some as ∧ Text.Trimmed tag.attributes.text.toList ∧
      ∀ s, write (tag.opening s) =
        write [.start .div (tag.containerAttributes s), .layout "\n"] ++ "<form" ++
          writeAttributes (({ tag with attributes := {} } : FormTag).formAttributes s) ++
          (if as = [] then "" else " " ++ tag.attributes.text) ++ ">\n" := by
  intro tag as
  have hnames : ∀ a ∈ as, IsItemName a.1 := fun a ha => h a.1 a.2 (Step.mem_attributes ha)
  have hfragment : tag.attributes = Call.fragment as := by
    simp only [tag, tag_ofSteps, Call.tagOf, Step.attributes_calls, as]
  refine ⟨?_, ?_, fun s => ?_⟩
  · rw [hfragment]
    exact Call.readPairs_fragment hnames
  · rw [hfragment, Call.toList_fragment hnames]
    exact Call.trimmed_fragmentChars hnames
  · have hlast : writeAttributes tag.attributes.attribute =
        if as = [] then "" else " " ++ tag.attributes.text := by
      rw [hfragment, Call.attribute_fragment hnames]
      split <;> simp [writeAttributes, Attribute.write]
    have hform (bs : List Attribute) :
        write [.start .form bs, .layout "\n"] = "<form" ++ writeAttributes bs ++ ">\n" := by
      simp [write, Item.write, Element.name, String.append_assoc]
    have hopening : tag.opening s = [.start .div (tag.containerAttributes s), .layout "\n"] ++
        [.start .form (tag.formAttributes s), .layout "\n"] := rfl
    rw [hopening, write_append, hform, tag.formAttributes_eq, writeAttributes_append, hlast]
    simp only [String.append_assoc]

def spacedSteps : List Step :=
  [.call (.addAttribute "data-x" "  a  b  "), .call (.id "f"), .field (.switch { name := "s" }),
    .call (.addAttribute "data-y" "'\"&amp;\" c=\"d"), .call (.hidden "h" "1"),
    .call (.addAttribute "data-x" ""), .call (.addAttribute "é" "\n")]

theorem attributes_accumulate_spaced :
    let tag := (ofSteps spacedSteps).tag
    (∀ name value, .call (.addAttribute name value) ∈ spacedSteps → IsItemName name) ∧
      readPairs tag.attributes.text =
        some [("data-x", "  a  b  "), ("data-y", "'\"&amp;\" c=\"d"), ("data-x", ""),
          ("é", "\n")] ∧
      Text.Trimmed tag.attributes.text.toList ∧
      write (tag.opening {}) =
        "<div class=\"app_form_container\">\n<form class=\"app_form\" id=\"f\"" ++
          " data-x=\"  a  b  \" data-y=\"&#39;&quot;&amp;amp;&quot; c=&quot;d\"" ++
          " data-x=\"\" é=\"\n\">\n" := by
  have h : ∀ name value, .call (.addAttribute name value) ∈ spacedSteps → IsItemName name := by
    intro name value hmem
    simp only [spacedSteps, List.mem_cons, List.not_mem_nil, or_false, Step.call.injEq,
      Call.addAttribute.injEq, reduceCtorEq, false_or] at hmem
    obtain ⟨rfl, -⟩ | ⟨rfl, -⟩ | ⟨rfl, -⟩ | ⟨rfl, -⟩ := hmem <;> decide
  obtain ⟨hread, htrimmed, hopening⟩ := attributes_accumulate spacedSteps h
  exact ⟨h, hread, htrimmed, (hopening {}).trans (by decide +kernel)⟩

end Builder

end FormMarkup
