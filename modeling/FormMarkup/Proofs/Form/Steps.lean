import FormMarkup.Proofs.Form.Calls

namespace FormMarkup

inductive Step where
  | call (c : Call)
  | field (f : Field)

namespace Step

def call? : Step → Option Call
  | .call c => some c
  | .field _ => none

def parts : Step → List Field
  | .call (.hidden name value) => [.hidden { pairs := [⟨name, value⟩] }]
  | .call (.nonce name action) => [.nonce { name, action }]
  | .call (.submit label) => [.submit { value := some label }]
  | .call (.input type name calls) => [.input type (InputCall.fieldOf name calls)]
  | .call _ => []
  | .field f => [f]

end Step

namespace Builder

def step (b : Builder) : Step → Builder
  | .call c => b.call c
  | .field f => b.addField f

def ofSteps (steps : List Step) : Builder :=
  steps.foldl step {}

def stepApart (b : Builder) : Step → Builder
  | .call (.hidden name value) => b.addField (.hidden { pairs := [⟨name, value⟩] })
  | s => b.step s

def ofStepsApart (steps : List Step) : Builder :=
  steps.foldl stepApart {}

theorem fields_stepApart (b : Builder) (s : Step) :
    (b.stepApart s).fields = b.fields ++ s.parts := by
  cases s with
  | field f => rfl
  | call c =>
      cases c with
      | hidden name value => rfl
      | nonce name action => rfl
      | submit label => rfl
      | input type name calls =>
          have hdone : (calls.foldl InputBuilder.call (b.startInput type name)).done =
              b.addField (.input type (InputCall.fieldOf name calls)) := by
            rw [InputCall.foldl_call]
            rfl
          exact congrArg Builder.fields hdone
      | _ => exact (List.append_nil _).symm

theorem step_eq_stepApart {s : Step} (h : ∀ name value, s ≠ .call (.hidden name value))
    (b : Builder) : b.step s = b.stepApart s := by
  cases s with
  | field f => rfl
  | call c =>
      cases c with
      | hidden name value => exact absurd rfl (h name value)
      | _ => rfl

theorem tag_call {b b' : Builder} (h : b.tag = b'.tag) (c : Call) :
    (b.call c).tag = (b'.call c).tag := by
  cases c <;>
    simp [call, setId, setClasses, setFormClasses, setAction, setMethod, addAttribute, addHidden,
      addNonce, addSubmit, addField, InputCall.foldl_call, InputBuilder.done, h]

theorem tag_step {b b' : Builder} (h : b.tag = b'.tag) (s : Step) :
    (b.step s).tag = (b'.step s).tag := by
  cases s with
  | call c => exact tag_call h c
  | field f => exact h

theorem tag_stepApart (b : Builder) (s : Step) : (b.stepApart s).tag = (b.step s).tag := by
  cases s with
  | field f => rfl
  | call c => cases c <;> rfl

theorem tag_foldl_step (steps : List Step) {b b' : Builder} (h : b.tag = b'.tag) :
    (steps.foldl step b).tag = ((steps.filterMap Step.call?).foldl call b').tag := by
  induction steps generalizing b b' with
  | nil => exact h
  | cons s steps ih =>
      cases s with
      | call c => exact ih (tag_call h c)
      | field f => exact ih h

theorem tag_ofSteps (steps : List Step) :
    (ofSteps steps).tag = Call.tagOf (steps.filterMap Step.call?) :=
  (tag_foldl_step steps rfl).trans (Call.tag_ofCalls _)

end Builder

end FormMarkup
