import FormMarkup.Markup.Item
import FormMarkup.Proofs.Markup.Entity
import FormMarkup.Proofs.Markup.Scan

namespace FormMarkup.Markup

def IsTagName (name : String) : Prop :=
  name ≠ "" ∧ ∀ c ∈ name.toList, isTagNameChar c = true

instance (name : String) : Decidable (IsTagName name) :=
  decidable_of_iff (name ≠ "" ∧ name.toList.all isTagNameChar = true) (by simp [IsTagName])

@[simp]
theorem isTagName_literal :
    IsTagName "type" ∧ IsTagName "class" ∧ IsTagName "id" ∧ IsTagName "name" ∧
    IsTagName "value" ∧ IsTagName "rows" ∧ IsTagName "accept" ∧ IsTagName "autocomplete" ∧
    IsTagName "placeholder" ∧ IsTagName "aria-describedby" ∧ IsTagName "for" ∧
    IsTagName "title" ∧ IsTagName "required" ∧ IsTagName "multiple" ∧ IsTagName "checked" ∧
    IsTagName "disabled" ∧ IsTagName "selected" ∧ IsTagName "action" ∧ IsTagName "method" := by
  decide

theorem isTagName_element (e : Element) : IsTagName e.name := by
  cases e <;> decide

namespace Attribute

def found : Attribute → String × Option String
  | .escaped name value => (name, some (escapeValue value))
  | .plain name value => (name, some value)
  | .bare name => (name, none)
  | .extra name value => (name, some value)
  | .raw text => (text, none)

def Tame : Attribute → Prop
  | .escaped name _ => IsTagName name
  | .plain name value => IsTagName name ∧ '"' ∉ value.toList
  | .bare name => IsTagName name
  | .extra name value => IsTagName name ∧ '\x27' ∉ value.toList
  | .raw _ => False

end Attribute

def AllTame (as : List Attribute) : Prop :=
  ∀ a ∈ as, a.Tame

@[simp]
theorem allTame_nil : AllTame [] :=
  fun _ h => (List.not_mem_nil h).elim

@[simp]
theorem allTame_cons {a : Attribute} {as : List Attribute} :
    AllTame (a :: as) ↔ a.Tame ∧ AllTame as :=
  List.forall_mem_cons

@[simp]
theorem allTame_append {as bs : List Attribute} : AllTame (as ++ bs) ↔ AllTame as ∧ AllTame bs :=
  List.forall_mem_append

def OpenTag.addAll (tag : OpenTag) (as : List Attribute) : OpenTag :=
  { tag with attributes := tag.attributes ++ as.map Attribute.found }

theorem OpenTag.addAll_cons (tag : OpenTag) (a : Attribute) (as : List Attribute) :
    tag.addAll (a :: as) = (tag.addAll [a]).addAll as := by
  simp [OpenTag.addAll]

def Boundary (tag : OpenTag) (m : Mode) : Prop :=
  ∀ c, isTagNameChar c = false → c ≠ '=' → m.step c = Mode.stepAfter tag c

theorem boundary_startName (name : List Char) : Boundary ⟨name, []⟩ (.startName name) := by
  intro c hc _
  simp [Mode.step, hc]

theorem boundary_between (tag : OpenTag) : Boundary tag (.between tag) := by
  intro c hc _
  simp [Mode.step, hc]

theorem boundary_closed (tag : OpenTag) : Boundary tag (.closed tag) := by
  intro c _ _
  rfl

theorem boundary_attribute (tag : OpenTag) (name : List Char) :
    Boundary (tag.add name none) (.attribute tag name) := by
  intro c hc he
  simp [Mode.step, hc, he]

theorem Boundary.space {tag : OpenTag} {m : Mode} (h : Boundary tag m) :
    Reads m [' '] [] (.between tag) :=
  Reads.one (by rw [h ' ' (by decide) (by decide)]; rfl)

theorem Boundary.finish {tag : OpenTag} {m : Mode} (h : Boundary tag m) :
    Reads m ['>'] [tag.event] (.text []) :=
  Reads.one (by rw [h '>' (by decide) (by decide)]; rfl)

theorem reads_name {tag : OpenTag} {name : String} (h : IsTagName name) :
    Reads (.between tag) name.toList [] (.attribute tag name.toList) := by
  obtain ⟨hne, hall⟩ := h
  cases hcs : name.toList with
  | nil => exact absurd (String.toList_eq_nil_iff.mp hcs) hne
  | cons c cs =>
      rw [hcs] at hall
      have hc : (Mode.between tag).step c = some ([], .attribute tag [c]) := by
        simp [Mode.step, hall c (List.mem_cons_self ..)]
      exact Reads.cons hc
        (reads_attributeName tag (fun x hx => hall x (List.mem_cons_of_mem _ hx)) [c])

theorem Boundary.bare {tag : OpenTag} {m : Mode} (h : Boundary tag m) {name : String}
    (hn : IsTagName name) :
    Reads m (" " ++ name).toList [] (.attribute tag name.toList) := by
  rw [String.toList_append]
  exact h.space.append (reads_name hn)

theorem Boundary.given {tag : OpenTag} {m : Mode} (h : Boundary tag m) {name value : String}
    {quote : Char} (hn : IsTagName name) (hq : quote = '"' ∨ quote = '\x27')
    (hv : quote ∉ value.toList) :
    Reads m ((" " ++ name).toList ++ '=' :: quote :: (value.toList ++ [quote])) []
      (.closed (tag.add name.toList (some value))) := by
  have heq : (Mode.attribute tag name.toList).step '=' = some ([], .equals tag name.toList) := rfl
  have hopen : (Mode.equals tag name.toList).step quote =
      some ([], .quoted tag name.toList quote []) := by
    rcases hq with rfl | rfl <;> rfl
  have hclose : (Mode.quoted tag name.toList quote value.toList).step quote =
      some ([], .closed (tag.add name.toList (some value))) := by
    simp [Mode.step]
  have hvalue := (reads_quoted tag name.toList hv []).append (Reads.one hclose)
  exact (h.bare hn).append (Reads.cons heq (Reads.cons hopen hvalue))

theorem reads_attribute {tag : OpenTag} {m : Mode} (h : Boundary tag m) {a : Attribute}
    (ha : a.Tame) :
    ∃ m', Boundary (tag.addAll [a]) m' ∧ Reads m a.write.toList [] m' := by
  cases a with
  | escaped name value =>
      have hv : '"' ∉ (escapeValue value).toList := by
        intro hm
        rw [escapeValue, String.toList_ofList] at hm
        exact (mem_escapeValueChars hm).1 rfl
      refine ⟨.closed _, boundary_closed _, ?_⟩
      simpa [Attribute.write, OpenTag.addAll, OpenTag.add, Attribute.found] using
        h.given ha (Or.inl rfl) hv
  | plain name value =>
      refine ⟨.closed _, boundary_closed _, ?_⟩
      simpa [Attribute.write, OpenTag.addAll, OpenTag.add, Attribute.found] using
        h.given ha.1 (Or.inl rfl) ha.2
  | bare name =>
      refine ⟨.attribute tag name.toList, ?_, h.bare ha⟩
      simpa [OpenTag.addAll, OpenTag.add, Attribute.found] using
        boundary_attribute tag name.toList
  | extra name value =>
      refine ⟨.between _, boundary_between _, ?_⟩
      have hg := h.given ha.1 (Or.inr rfl) ha.2
      simpa [Attribute.write, OpenTag.addAll, OpenTag.add, Attribute.found] using
        hg.append (boundary_closed _).space
  | raw text => exact ha.elim

theorem reads_attributes {as : List Attribute} (ha : AllTame as) {tag : OpenTag}
    {m : Mode} (h : Boundary tag m) :
    Reads m ((writeAttributes as).toList ++ ['>']) [(tag.addAll as).event] (.text []) := by
  induction as generalizing tag m with
  | nil => simpa [writeAttributes, OpenTag.addAll] using h.finish
  | cons a as ih =>
      obtain ⟨m', hm', hr⟩ := reads_attribute h (ha a (List.mem_cons_self ..))
      have hrest := ih (fun b hb => ha b (List.mem_cons_of_mem _ hb)) hm'
      rw [← OpenTag.addAll_cons] at hrest
      simpa [writeAttributes] using hr.append hrest

theorem reads_startTag {as : List Attribute} (ha : AllTame as) (e : Element)
    (pending : List Char) :
    Reads (.text pending) (Item.start e as).write.toList
      (textEvents pending ++ [.start e.name (as.map Attribute.found)]) (.text []) := by
  have hopen : (Mode.text pending).step '<' = some (textEvents pending, .opened) := rfl
  obtain ⟨c, cs, hname, hletter⟩ : ∃ c cs, e.name.toList = c :: cs ∧
      (Mode.opened).step c = some ([], .startName [c]) := by
    cases e <;> exact ⟨_, _, rfl, rfl⟩
  have hall := (isTagName_element e).2
  rw [hname] at hall
  have hcs := reads_startName (fun x hx => hall x (List.mem_cons_of_mem _ hx)) [c]
  have has := reads_attributes ha (boundary_startName ([c] ++ cs))
  have hr := Reads.cons hopen (Reads.cons hletter (hcs.append has))
  have hn : String.ofList (c :: cs) = e.name := by rw [← hname, String.ofList_toList]
  simpa [Item.write, hname, OpenTag.event, OpenTag.addAll, hn] using hr

theorem reads_finishTag (e : Element) (pending : List Char) :
    Reads (.text pending) (Item.finish e).write.toList
      (textEvents pending ++ [.finish e.name]) (.text []) := by
  have hopen : (Mode.text pending).step '<' = some (textEvents pending, .opened) := rfl
  have hslash : (Mode.opened).step '/' = some ([], .finishName []) := rfl
  obtain ⟨hne, hall⟩ := isTagName_element e
  have hclose : (Mode.finishName e.name.toList).step '>' =
      some ([.finish e.name], .text []) := by
    have hnil : e.name.toList ≠ [] := fun h => hne (String.toList_eq_nil_iff.mp h)
    simp [Mode.step, isTagNameChar, hnil]
  have hname := (reads_finishName hall []).append (Reads.one hclose)
  simpa [Item.write] using Reads.cons hopen (Reads.cons hslash hname)

def Angleless (cs : List Char) : Prop :=
  ∀ c ∈ cs, c ≠ '<' ∧ c ≠ '>'

theorem Angleless.append {xs ys : List Char} (hx : Angleless xs) (hy : Angleless ys) :
    Angleless (xs ++ ys) := by
  intro c hc
  rcases List.mem_append.mp hc with hc | hc
  · exact hx c hc
  · exact hy c hc

def layoutBlanks : List String :=
  ["\n", " ", "  ", "    ", "      "]

theorem angleless_layoutBlanks : ∀ blanks ∈ layoutBlanks, Angleless blanks.toList := by
  have hall : layoutBlanks.all fun blanks => blanks.toList.all fun c => c == '\n' || c == ' ' := by
    decide
  intro blanks hblanks c hc
  have hc' := List.all_eq_true.mp (List.all_eq_true.mp hall blanks hblanks) c hc
  rcases Bool.or_eq_true_iff.mp hc' with h | h
  · rw [eq_of_beq h]; decide
  · rw [eq_of_beq h]; decide

def Item.Tame : Item → Prop
  | .start _ as => AllTame as
  | .finish _ => True
  | .text _ => True
  | .layout blanks => blanks ∈ layoutBlanks
  | .raw _ => False

def eventsOf (pending : List Char) : List Item → List Event
  | [] => textEvents pending
  | .start e as :: items =>
      textEvents pending ++ .start e.name (as.map Attribute.found) :: eventsOf [] items
  | .finish e :: items => textEvents pending ++ .finish e.name :: eventsOf [] items
  | .text content :: items => eventsOf (pending ++ escapeTextChars content.toList) items
  | .layout blanks :: items => eventsOf (pending ++ blanks.toList) items
  | .raw markup :: items => eventsOf (pending ++ markup.toList) items

theorem scanFrom_write {items : List Item} (h : ∀ i ∈ items, i.Tame) (pending : List Char) :
    scanFrom (.text pending) (write items).toList = some (eventsOf pending items) := by
  induction items generalizing pending with
  | nil => rfl
  | cons i items ih =>
      have hi := h i (List.mem_cons_self ..)
      have hrest := ih fun j hj => h j (List.mem_cons_of_mem _ hj)
      rw [write, String.toList_append]
      cases i with
      | start e as => rw [reads_startTag hi e pending, hrest]; simp [eventsOf]
      | finish e => rw [reads_finishTag e pending, hrest]; simp [eventsOf]
      | text content =>
          have hc : ∀ c ∈ escapeTextChars content.toList, c ≠ '<' :=
            fun c hc => (mem_escapeTextChars hc).1
          rw [Item.write, escapeText, String.toList_ofList, reads_text hc pending, hrest]
          simp [eventsOf]
      | layout blanks =>
          have hc := angleless_layoutBlanks blanks hi
          rw [Item.write, reads_text (fun c h => (hc c h).1) pending, hrest]
          simp [eventsOf]
      | raw markup => exact hi.elim

theorem scan_write {items : List Item} (h : ∀ i ∈ items, i.Tame) :
    scan (write items) = some (eventsOf [] items) :=
  scanFrom_write h []

def Attribute.chars : Attribute → List Char
  | .escaped name value =>
      ' ' :: name.toList ++ '=' :: '"' :: escapeValueChars value.toList ++ ['"']
  | .plain name value => ' ' :: name.toList ++ '=' :: '"' :: value.toList ++ ['"']
  | .bare name => ' ' :: name.toList
  | .extra name value => ' ' :: name.toList ++ '=' :: '\x27' :: value.toList ++ ['\x27', ' ']
  | .raw text => ' ' :: text.toList

def Item.chars : Item → List Char
  | .start e as => '<' :: e.name.toList ++ as.flatMap Attribute.chars ++ ['>']
  | .finish e => '<' :: '/' :: e.name.toList ++ ['>']
  | .text content => escapeTextChars content.toList
  | .layout blanks => blanks.toList
  | .raw markup => markup.toList

theorem toList_writeAttributes (as : List Attribute) :
    (writeAttributes as).toList = as.flatMap Attribute.chars := by
  induction as with
  | nil => rfl
  | cons a as ih =>
      rw [writeAttributes, String.toList_append, ih, List.flatMap_cons]
      cases a <;> simp [Attribute.write, Attribute.chars, escapeValue]

theorem toList_write (items : List Item) : (write items).toList = items.flatMap Item.chars := by
  induction items with
  | nil => rfl
  | cons i items ih =>
      rw [write, String.toList_append, ih, List.flatMap_cons]
      cases i <;> simp [Item.write, Item.chars, toList_writeAttributes, escapeText]

end FormMarkup.Markup
