import FormMarkup.Pairs

namespace FormMarkup.Markup

structure OpenTag where
  name : List Char
  attributes : Pairs (Option String) := []
  deriving DecidableEq, Repr

inductive Event where
  | text (content : String)
  | start (name : String) (attributes : Pairs (Option String))
  | finish (name : String)
  deriving DecidableEq, Repr

inductive Mode where
  | text (content : List Char)
  | opened
  | finishName (name : List Char)
  | startName (name : List Char)
  | between (tag : OpenTag)
  | attribute (tag : OpenTag) (name : List Char)
  | equals (tag : OpenTag) (name : List Char)
  | quoted (tag : OpenTag) (name : List Char) (quote : Char) (value : List Char)
  | closed (tag : OpenTag)
  deriving DecidableEq, Repr

def OpenTag.add (tag : OpenTag) (name : List Char) (value : Option String) : OpenTag :=
  { tag with attributes := tag.attributes ++ [(String.ofList name, value)] }

def OpenTag.event (tag : OpenTag) : Event :=
  .start (String.ofList tag.name) tag.attributes

def isTagSpace (c : Char) : Bool :=
  c = ' ' || c = '\t' || c = '\n' || c = '\r' || c = '\x0c'

def isTagLetter (c : Char) : Bool :=
  ('a' ≤ c && c ≤ 'z') || ('A' ≤ c && c ≤ 'Z')

def isTagNameChar (c : Char) : Bool :=
  !(isTagSpace c || c = '"' || c = '\x27' || c = '=' || c = '<' || c = '>' || c = '/')

def textEvents (content : List Char) : List Event :=
  if content.isEmpty then [] else [.text (String.ofList content)]

namespace Mode

def stepAfter (tag : OpenTag) (c : Char) : Option (List Event × Mode) :=
  if isTagSpace c then some ([], .between tag)
  else if c = '>' then some ([tag.event], .text [])
  else none

def step : Mode → Char → Option (List Event × Mode)
  | .text content, c =>
      if c = '<' then some (textEvents content, .opened) else some ([], .text (content ++ [c]))
  | .opened, c =>
      if c = '/' then some ([], .finishName [])
      else if isTagLetter c then some ([], .startName [c])
      else none
  | .finishName name, c =>
      if isTagNameChar c then some ([], .finishName (name ++ [c]))
      else if c = '>' && name != [] then some ([.finish (String.ofList name)], .text [])
      else none
  | .startName name, c =>
      if isTagNameChar c then some ([], .startName (name ++ [c])) else stepAfter ⟨name, []⟩ c
  | .between tag, c =>
      if isTagNameChar c then some ([], .attribute tag [c]) else stepAfter tag c
  | .attribute tag name, c =>
      if isTagNameChar c then some ([], .attribute tag (name ++ [c]))
      else if c = '=' then some ([], .equals tag name)
      else stepAfter (tag.add name none) c
  | .equals tag name, c =>
      if c = '"' || c = '\x27' then some ([], .quoted tag name c []) else none
  | .quoted tag name quote value, c =>
      if c = quote then some ([], .closed (tag.add name (some (String.ofList value))))
      else some ([], .quoted tag name quote (value ++ [c]))
  | .closed tag, c => stepAfter tag c

def rest? : Mode → Option (List Event)
  | .text content => some (textEvents content)
  | _ => none

end Mode

def scanFrom (m : Mode) : List Char → Option (List Event)
  | [] => m.rest?
  | c :: cs =>
      match m.step c with
      | none => none
      | some (events, m') => (scanFrom m' cs).map (events ++ ·)

def scan (s : String) : Option (List Event) :=
  scanFrom (.text []) s.toList

example : scan "a<p id=\"b\" c>d</p>" =
    some [.text "a", .start "p" [("id", some "b"), ("c", none)], .text "d", .finish "p"] := by
  decide

example : scan "<p title=\"a\"b\">" = none := by decide

def Reads (m : Mode) (cs : List Char) (events : List Event) (m' : Mode) : Prop :=
  ∀ rest, scanFrom m (cs ++ rest) = (scanFrom m' rest).map (events ++ ·)

namespace Reads

theorem nil (m : Mode) : Reads m [] [] m := by
  intro rest
  cases h : scanFrom m rest <;> simp [h]

theorem append {m m' m'' : Mode} {xs ys : List Char} {es fs : List Event}
    (h : Reads m xs es m') (k : Reads m' ys fs m'') : Reads m (xs ++ ys) (es ++ fs) m'' := by
  intro rest
  rw [List.append_assoc, h, k]
  simp [Function.comp_def]

theorem cons {m m' m'' : Mode} {c : Char} {cs : List Char} {es fs : List Event}
    (h : m.step c = some (es, m')) (k : Reads m' cs fs m'') :
    Reads m (c :: cs) (es ++ fs) m'' := by
  intro rest
  simp only [List.cons_append, scanFrom, h, k rest]
  simp [Function.comp_def]

theorem one {m m' : Mode} {c : Char} {es : List Event} (h : m.step c = some (es, m')) :
    Reads m [c] es m' := by
  simpa using cons h (nil m')

theorem run {f : List Char → Mode} {cs : List Char}
    (h : ∀ done, ∀ c ∈ cs, (f done).step c = some ([], f (done ++ [c]))) (done : List Char) :
    Reads (f done) cs [] (f (done ++ cs)) := by
  induction cs generalizing done with
  | nil => simpa using nil (f done)
  | cons c cs ih =>
      have hc := h done c (List.mem_cons_self ..)
      have hcs := ih (fun d x hx => h d x (List.mem_cons_of_mem _ hx)) (done ++ [c])
      simpa using cons hc hcs

end Reads

theorem reads_text {cs : List Char} (h : ∀ c ∈ cs, c ≠ '<') (done : List Char) :
    Reads (.text done) cs [] (.text (done ++ cs)) :=
  Reads.run (f := .text) (fun _ c hc => by simp [Mode.step, h c hc]) done

theorem reads_startName {cs : List Char} (h : ∀ c ∈ cs, isTagNameChar c = true)
    (done : List Char) : Reads (.startName done) cs [] (.startName (done ++ cs)) :=
  Reads.run (f := .startName) (fun _ c hc => by simp [Mode.step, h c hc]) done

theorem reads_finishName {cs : List Char} (h : ∀ c ∈ cs, isTagNameChar c = true)
    (done : List Char) : Reads (.finishName done) cs [] (.finishName (done ++ cs)) :=
  Reads.run (f := .finishName) (fun _ c hc => by simp [Mode.step, h c hc]) done

theorem reads_attributeName (tag : OpenTag) {cs : List Char}
    (h : ∀ c ∈ cs, isTagNameChar c = true) (done : List Char) :
    Reads (.attribute tag done) cs [] (.attribute tag (done ++ cs)) :=
  Reads.run (f := .attribute tag) (fun _ c hc => by simp [Mode.step, h c hc]) done

theorem reads_quoted (tag : OpenTag) (name : List Char) {cs : List Char} {quote : Char}
    (h : quote ∉ cs) (done : List Char) :
    Reads (.quoted tag name quote done) cs [] (.quoted tag name quote (done ++ cs)) :=
  Reads.run (f := .quoted tag name quote)
    (fun _ c hc => by
      have hne : c ≠ quote := fun e => h (e ▸ hc)
      simp [Mode.step, hne]) done

end FormMarkup.Markup
