import FormMarkup.Form.Builder
import Mathlib.Data.List.Induction

namespace FormMarkup

inductive InputCall where
  | label (text : String)
  | placeholder (text : String)
  | value (text : String)
  | required
  | hint (text : String)
  | order (n : Int)
  | id (text : String)
  | classes (text : String)
  | addAttribute (name value : String)
  deriving DecidableEq, Repr

def InputBuilder.call (b : InputBuilder) : InputCall → InputBuilder
  | .label text => b.setLabel text
  | .placeholder text => b.setPlaceholder text
  | .value text => b.setValue text
  | .required => b.setRequired
  | .hint text => b.setHint text
  | .order n => b.setOrder n
  | .id text => b.setId text
  | .classes text => b.setClasses text
  | .addAttribute name value => b.addAttribute name value

inductive Call where
  | id (text : String)
  | classes (text : String)
  | formClasses (text : String)
  | action (text : String)
  | method (text : String)
  | addAttribute (name value : String)
  | hidden (name value : String)
  | nonce (name action : String)
  | submit (label : String)
  | input (type : InputType) (name : String) (calls : List InputCall)
  deriving DecidableEq, Repr

namespace Builder

def call (b : Builder) : Call → Builder
  | .id text => b.setId text
  | .classes text => b.setClasses text
  | .formClasses text => b.setFormClasses text
  | .action text => b.setAction text
  | .method text => b.setMethod text
  | .addAttribute name value => b.addAttribute name value
  | .hidden name value => b.addHidden name value
  | .nonce name action => b.addNonce name action
  | .submit label => b.addSubmit label
  | .input type name calls => (calls.foldl InputBuilder.call (b.startInput type name)).done

def ofCalls (calls : List Call) : Builder :=
  calls.foldl call {}

end Builder

def lastOf {α β : Type} (pick : α → Option β) (xs : List α) : Option β :=
  (xs.filterMap pick).getLast?

@[simp]
theorem lastOf_concat {α β : Type} (pick : α → Option β) (xs : List α) (x : α) :
    lastOf pick (xs ++ [x]) = (pick x).or (lastOf pick xs) := by
  cases h : pick x <;> simp [lastOf, h]

namespace InputCall

def label? : InputCall → Option String
  | .label text => some text
  | _ => none

def placeholder? : InputCall → Option String
  | .placeholder text => some text
  | _ => none

def value? : InputCall → Option String
  | .value text => some text
  | _ => none

def required? : InputCall → Option Bool
  | .required => some true
  | _ => none

def hint? : InputCall → Option String
  | .hint text => some text
  | _ => none

def order? : InputCall → Option Int
  | .order n => some n
  | _ => none

def id? : InputCall → Option String
  | .id text => some text
  | _ => none

def classes? : InputCall → Option String
  | .classes text => some text
  | _ => none

def attribute? : InputCall → Option (String × String)
  | .addAttribute n v => some (n, v)
  | _ => none

def attributesOf : List (String × String) → Option TextMap
  | [] => none
  | a :: as => some (Pairs.distinct (a :: as))

def fieldOf (name : String) (calls : List InputCall) : TextInput where
  label := (lastOf label? calls).getD ""
  name := name
  id := lastOf id? calls
  required := (lastOf required? calls).getD false
  classes := (lastOf classes? calls).getD ""
  hint := (lastOf hint? calls).getD ""
  order := (lastOf order? calls).getD 0
  placeholder := (lastOf placeholder? calls).getD ""
  value := (lastOf value? calls).getD ""
  extraAttributes := attributesOf (calls.filterMap attribute?)

theorem getD_attributesOf (as : List (String × String)) :
    (attributesOf as).getD [] = Pairs.distinct as := by
  cases as <;> rfl

theorem attributesOf_concat (as : List (String × String)) (n v : String) :
    attributesOf (as ++ [(n, v)]) = some (Pairs.put n v ((attributesOf as).getD [])) := by
  have hput : Pairs.distinct (as ++ [(n, v)]) = Pairs.put n v (Pairs.distinct as) := by
    rw [Pairs.distinct, List.foldl_append]
    rfl
  rw [getD_attributesOf, ← hput]
  cases as <;> rfl

theorem foldl_call (b : Builder) (type : InputType) (name : String) (calls : List InputCall) :
    calls.foldl InputBuilder.call (b.startInput type name) =
      { form := b, type, field := fieldOf name calls } := by
  induction calls using List.reverseRecOn with
  | nil => rfl
  | append_singleton calls c ih =>
      rw [List.foldl_append, ih, List.foldl_cons, List.foldl_nil]
      cases c <;>
        simp [InputBuilder.call, InputBuilder.setLabel, InputBuilder.setPlaceholder,
          InputBuilder.setValue, InputBuilder.setRequired, InputBuilder.setHint,
          InputBuilder.setOrder, InputBuilder.setId, InputBuilder.setClasses,
          InputBuilder.addAttribute, fieldOf, attributesOf_concat, List.filterMap_cons, label?,
          placeholder?, value?, required?, hint?, order?, id?, classes?, attribute?]

end InputCall

namespace Call

def id? : Call → Option String
  | .id text => some text
  | _ => none

def classes? : Call → Option String
  | .classes text => some text
  | _ => none

def formClasses? : Call → Option String
  | .formClasses text => some text
  | _ => none

def action? : Call → Option String
  | .action text => some text
  | _ => none

def method? : Call → Option String
  | .method text => some text
  | _ => none

def attribute? : Call → Option (String × String)
  | .addAttribute n v => some (n, v)
  | _ => none

def fragment (attributes : List (String × String)) : RawMarkup :=
  (attributes.foldl (fun b a => b.addAttribute a.1 a.2) ({} : Builder)).tag.attributes

def tagOf (calls : List Call) : FormTag where
  classes := (lastOf classes? calls).getD ""
  formClasses := (lastOf formClasses? calls).getD ""
  id := (lastOf id? calls).getD ""
  action := lastOf action? calls
  method := lastOf method? calls
  attributes := fragment (calls.filterMap attribute?)

theorem tag_addAttribute {as : List (String × String)} {b : Builder}
    (h : b.tag.attributes = fragment as) (n v : String) :
    (b.addAttribute n v).tag = { b.tag with attributes := fragment (as ++ [(n, v)]) } := by
  rw [Builder.addAttribute, h, fragment, fragment, List.foldl_append]
  rfl

theorem tag_ofCalls (calls : List Call) : (Builder.ofCalls calls).tag = tagOf calls := by
  induction calls using List.reverseRecOn with
  | nil => rfl
  | append_singleton calls c ih =>
      rw [Builder.ofCalls, List.foldl_append, List.foldl_cons, List.foldl_nil, ← Builder.ofCalls]
      have hsame : (Builder.ofCalls calls).tag.attributes =
          fragment (calls.filterMap attribute?) := by rw [ih]; rfl
      have hattribute := tag_addAttribute hsame
      cases c <;>
        simp [Builder.call, Builder.setId, Builder.setClasses, Builder.setFormClasses,
          Builder.setAction, Builder.setMethod, Builder.addHidden, Builder.addNonce,
          Builder.addSubmit, Builder.addField, InputCall.foldl_call, InputBuilder.done, tagOf, ih,
          hattribute, List.filterMap_cons, id?, classes?, formClasses?, action?, method?, attribute?]

end Call

/-- Hidden calls make one part as long as no other part comes between them. -/
inductive Part where
  | hidden (pairs : List HiddenPair)
  | nonce (name action : String)
  | submit (label : String)
  | input (type : InputType) (name : String) (calls : List InputCall)
  deriving DecidableEq, Repr

namespace Part

def field : Part → Field
  | .hidden pairs => .hidden { pairs }
  | .nonce name action => .nonce { name, action }
  | .submit label => .submit { value := some label }
  | .input type name calls => .input type (InputCall.fieldOf name calls)

def ofRun : List HiddenPair → List Part
  | [] => []
  | p :: ps => [.hidden (p :: ps)]

def ofCalls (run : List HiddenPair) : List Call → List Part
  | [] => ofRun run
  | .hidden name value :: calls => ofCalls (run ++ [⟨name, value⟩]) calls
  | .nonce name action :: calls => ofRun run ++ .nonce name action :: ofCalls [] calls
  | .submit label :: calls => ofRun run ++ .submit label :: ofCalls [] calls
  | .input type name ics :: calls => ofRun run ++ .input type name ics :: ofCalls [] calls
  | _ :: calls => ofCalls run calls

end Part

namespace Builder

def EndsOpen (fs : List Field) : Prop :=
  ∃ f, fs.getLast? = some (.hidden f)

theorem not_endsOpen_concat {f : Field} (h : ∀ g, f ≠ .hidden g) (fs : List Field) :
    ¬EndsOpen (fs ++ [f]) := by
  rintro ⟨g, hg⟩
  rw [List.getLast?_concat] at hg
  exact h g (Option.some.inj hg)

theorem appendHidden_of_not_endsOpen (pair : HiddenPair) {fs : List Field} (h : ¬EndsOpen fs) :
    appendHidden pair fs = fs ++ [.hidden { pairs := [pair] }] := by
  fun_induction appendHidden pair fs with
  | case1 => rfl
  | case2 f => exact absurd ⟨f, rfl⟩ h
  | case3 f fs hf ih =>
      cases fs with
      | nil => rfl
      | cons g gs => rw [ih fun ⟨g', hg'⟩ => h ⟨g', by rwa [List.getLast?_cons_cons]⟩]; rfl

theorem appendHidden_concat (pair : HiddenPair) (fs : List Field) (f : HiddenInputs) :
    appendHidden pair (fs ++ [.hidden f]) =
      fs ++ [.hidden { f with pairs := f.pairs ++ [pair] }] := by
  induction fs with
  | nil => rfl
  | cons g gs ih => cases gs <;> simp_all [appendHidden]

theorem appendHidden_run (pair : HiddenPair) {fs : List Field} (h : ¬EndsOpen fs)
    (run : List HiddenPair) :
    appendHidden pair (fs ++ (Part.ofRun run).map Part.field) =
      fs ++ (Part.ofRun (run ++ [pair])).map Part.field := by
  cases run with
  | nil => simpa [Part.ofRun, Part.field] using appendHidden_of_not_endsOpen pair h
  | cons p ps => exact appendHidden_concat pair fs { pairs := p :: ps }

-- The fields before the open run are closed: a hidden call joins the run, any other part ends it.
theorem fields_foldl (calls : List Call) (b : Builder) (done : List Field)
    (run : List HiddenPair) (hdone : ¬EndsOpen done)
    (hb : b.fields = done ++ (Part.ofRun run).map Part.field) :
    (calls.foldl call b).fields = done ++ (Part.ofCalls run calls).map Part.field := by
  induction calls generalizing b done run with
  | nil => exact hb
  | cons c calls ih =>
      have hpart : ∀ (p : Part), (∀ g, p.field ≠ .hidden g) →
          (calls.foldl call (b.addField p.field)).fields =
            done ++ (Part.ofRun run ++ p :: Part.ofCalls [] calls).map Part.field := by
        intro p hp
        have hfields : (b.addField p.field).fields =
            (done ++ (Part.ofRun run).map Part.field ++ [p.field]) ++
              (Part.ofRun []).map Part.field := by
          simp [addField, hb, Part.ofRun]
        rw [ih _ _ [] (not_endsOpen_concat hp _) hfields]
        simp
      rw [List.foldl_cons]
      cases c with
      | hidden name value =>
          refine ih _ done _ hdone ?_
          rw [call, addHidden, hb]
          exact appendHidden_run ⟨name, value⟩ hdone run
      | nonce name action => exact hpart (.nonce name action) fun _ => Field.noConfusion
      | submit label => exact hpart (.submit label) fun _ => Field.noConfusion
      | input type name ics =>
          rw [call, InputCall.foldl_call]
          exact hpart (.input type name ics) fun _ => Field.noConfusion
      | id text => exact ih _ done run hdone hb
      | classes text => exact ih _ done run hdone hb
      | formClasses text => exact ih _ done run hdone hb
      | action text => exact ih _ done run hdone hb
      | method text => exact ih _ done run hdone hb
      | addAttribute n v => exact ih _ done run hdone hb

theorem fields_ofCalls (calls : List Call) :
    (ofCalls calls).fields = (Part.ofCalls [] calls).map Part.field := by
  have hempty : ¬EndsOpen [] := by
    rintro ⟨_, ⟨⟩⟩
  exact fields_foldl calls {} [] [] hempty rfl

end Builder

end FormMarkup
