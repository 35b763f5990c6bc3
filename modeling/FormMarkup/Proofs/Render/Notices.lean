import FormMarkup.Proofs.Markup.Extra
import FormMarkup.Proofs.Render.HiddenPairs
import FormMarkup.Proofs.Render.Silent

namespace FormMarkup

open FormMarkup.Markup

def misnamed (attributes : TextMap) : List Warning :=
  (attributes.filter fun a => ¬IsPlainName a.1).map fun a => .invalidAttributeName a.1

theorem nameWarnings_eq (attributes : TextMap) : nameWarnings attributes = misnamed attributes := by
  have hname : ∀ a : String × String, (!isAttributeName a.1) = decide (¬IsPlainName a.1) := by
    intro a
    rw [Bool.eq_iff_iff, Bool.not_eq_true', decide_eq_true_iff, ← isAttributeName_iff,
      Bool.not_eq_true]
  rw [nameWarnings, misnamed, funext hname]

theorem misnamed_flatMap {α : Type} (f : α → TextMap) (xs : List α) :
    misnamed (xs.flatMap f) = xs.flatMap fun x => misnamed (f x) := by
  rw [misnamed, List.filter_flatMap, List.map_flatMap]
  rfl

theorem misnamed_nil : misnamed [] = [] :=
  rfl

theorem misnamed_usual (s : Settings) : misnamed [("maxlength", s.textMaxLength)] = [] := by
  have hname : IsPlainName "maxlength" := by decide
  simp [misnamed, hname]

def Warning.isOmission : Warning → Bool
  | .unknownType => true
  | .noPairs => true
  | .noTokenEmitter _ => true
  | _ => false

theorem isOmission_misnamed {attributes : TextMap} {w : Warning} (h : w ∈ misnamed attributes) :
    w.isOmission = false := by
  obtain ⟨a, -, rfl⟩ := List.mem_map.mp h
  rfl

namespace Renderer

def notices (r : Renderer) : Field → List Warning
  | .unknown => [.unknownType]
  | .hidden f => if f.pairs = [] then [.noPairs] else []
  | .nonce n => if r.emitter = none then [.noTokenEmitter n.name] else []
  | f => misnamed f.authorAttributes

theorem warnings_field (r : Renderer) (f : Field) : (r.field f).warnings = r.notices f := by
  cases f with
  | input type f =>
      cases hx : f.extraAttributes with
      | none =>
          simp [field, Field.withDefaults, TextInput.withDefaults, complete, notices,
            Field.authorAttributes, hx, nameWarnings_eq, misnamed_usual, misnamed_nil]
      | some map =>
          simp [field, Field.withDefaults, TextInput.withDefaults, complete, notices,
            Field.authorAttributes, hx, nameWarnings_eq]
  | checkbox g =>
      simp [field, Field.withDefaults, Checkbox.withDefaults, complete, notices,
        Field.authorAttributes, nameWarnings_eq, misnamed_flatMap, List.flatMap_map]
  | radio g =>
      simp [field, Field.withDefaults, RadioGroup.withDefaults, complete, notices,
        Field.authorAttributes, nameWarnings_eq, misnamed_flatMap]
  | hidden f => simp [field, Field.withDefaults, complete, notices]
  | nonce n =>
      cases he : r.emitter <;> simp [field, Field.withDefaults, complete, nonce, notices, he]
  | submit b => rfl
  | unknown => rfl
  | _ => exact nameWarnings_eq _

theorem silent_iff {r : Renderer} {f : Field} :
    r.Silent f ↔ ∃ w ∈ r.notices f, w.isOmission = true := by
  have hnames : ∀ attributes, ¬∃ w ∈ misnamed attributes, w.isOmission = true := by
    rintro attributes ⟨w, hw, homission⟩
    rw [isOmission_misnamed hw] at homission
    cases homission
  cases f with
  | hidden f => by_cases hp : f.pairs = [] <;> simp [Silent, notices, hp, Warning.isOmission]
  | nonce n => by_cases he : r.emitter = none <;> simp [Silent, notices, he, Warning.isOmission]
  | unknown => simp [Silent, notices, Warning.isOmission]
  | _ => exact iff_of_false (fun h => h) (hnames _)

theorem html_ne_empty {items : List Item} (h : .layout "\n" ∈ items) : write items ≠ "" := by
  intro hempty
  have hchars : '\n' ∈ (write items).toList := by
    rw [toList_write]
    exact List.mem_flatMap.mpr ⟨_, h, List.mem_singleton.mpr rfl⟩
  rw [hempty] at hchars
  cases hchars

theorem newline_mem_block (indent : String) (e : Element) (as : List Attribute)
    (content : List Item) : .layout "\n" ∈ block indent e as content := by
  simp [block]

def WritesTokens (r : Renderer) : Prop :=
  ∀ emit ∈ r.emitter, ∀ name action, emit name action ≠ ""

theorem html_field_eq_empty_iff {r : Renderer} (h : r.WritesTokens) {f : Field} :
    (r.field f).html = "" ↔ r.Silent f := by
  refine ⟨fun hempty => ?_, fun hsilent => ?_⟩
  · cases f with
    | checkbox g =>
        refine absurd hempty (html_ne_empty ?_)
        exact List.mem_append_left _ (List.mem_append_right _ (newline_mem_block ..))
    | radio g =>
        refine absurd hempty (html_ne_empty ?_)
        exact List.mem_append_left _ (List.mem_append_right _ (newline_mem_block ..))
    | hidden f => exact HiddenPair.write_listItems_eq_empty.mp hempty
    | nonce n =>
        cases he : r.emitter with
        | none => exact he
        | some emit =>
            simp [Rendered.html, field, Field.withDefaults, complete, nonce, he, write,
              Item.write] at hempty
            exact absurd hempty (h emit he _ _)
    | unknown => trivial
    | _ => exact absurd hempty (html_ne_empty (newline_mem_block ..))
  · rw [Rendered.html, hsilent.items_eq_nil]
    rfl

theorem toList_html_form (r : Renderer) {fs : List Field} (h : fs ≠ []) (tag : FormTag) :
    (r.form fs tag).html.toList = (write (tag.opening r.settings)).toList ++
      (orderFields fs).flatMap (fun f => (r.field f).html.toList) ++
      (write FormTag.closing).toList := by
  have hfield : ∀ f, (r.field f).html.toList = (r.field f).items.flatMap Item.chars :=
    fun f => toList_write _
  rw [Rendered.html, items_form r h, items_fields, toList_write, toList_write, toList_write,
    List.flatMap_append, List.flatMap_append, List.flatMap_assoc, funext hfield]

theorem nothing_omitted_silently (r : Renderer) (h : r.WritesTokens) (fs : List Field)
    (tag : FormTag) :
    (r.form fs tag).warnings = (orderFields fs).flatMap r.notices ∧
    (fs ≠ [] → (r.form fs tag).html.toList = (write (tag.opening r.settings)).toList ++
      (orderFields fs).flatMap (fun f => (r.field f).html.toList) ++
      (write FormTag.closing).toList) ∧
    ∀ f, (r.field f).warnings = r.notices f ∧
      ((r.field f).html = "" ↔ ∃ w ∈ r.notices f, w.isOmission = true) := by
  refine ⟨?_, fun hne => toList_html_form r hne tag, fun f => ⟨warnings_field r f, ?_⟩⟩
  · rw [warnings_form, warnings_fields, funext (warnings_field r)]
  · rw [html_field_eq_empty_iff h, silent_iff]

def noticedToken : Field :=
  .nonce { name := "t", action := "u", order := 1 }

def noticedForm : List Field :=
  [.switch { label := "a", order := 3, extraAttributes := [("b c", ""), ("max", "1"), ("", "d")] },
   .hidden { order := 2 }, noticedToken,
   .checkbox
     { order := 1
       choices :=
         [{ order := 2, extraAttributes := [("e=", "")] },
          { extraAttributes := [("f", ""), ("g>", "h")] }] },
   .unknown, .input .text {}]

theorem orderFields_noticed :
    orderFields noticedForm =
      [.unknown, .input .text {}, noticedToken,
        .checkbox
          { order := 1
            choices :=
              [{ extraAttributes := [("f", ""), ("g>", "h")] },
               { order := 2, extraAttributes := [("e=", "")] }] },
        .hidden { order := 2 },
        .switch
          { label := "a", order := 3
            extraAttributes := [("b c", ""), ("max", "1"), ("", "d")] }] := by
  simp [noticedForm, noticedToken, orderFields, ascending, List.mergeSort, Field.orderChoices,
    Field.order, List.MergeSort.Internal.splitInTwo]

def tokenWriter : Renderer :=
  { emitter := some fun name action => "<token name=" ++ name ++ " value=" ++ action ++ ">" }

theorem tokenWriter_writesTokens : tokenWriter.WritesTokens := by
  rintro emit ⟨⟩ name action hempty
  simpa using congrArg String.toList hempty

theorem nothing_omitted_silently_mixed :
    (tokenWriter.WritesTokens ∧
      (tokenWriter.form noticedForm {}).warnings =
        [.unknownType, .invalidAttributeName "g>", .invalidAttributeName "e=", .noPairs,
          .invalidAttributeName "b c", .invalidAttributeName ""] ∧
      (tokenWriter.field noticedToken).html ≠ "") ∧
    ({} : Renderer).WritesTokens ∧
      (({} : Renderer).form noticedForm {}).warnings =
        [.unknownType, .noTokenEmitter "t", .invalidAttributeName "g>",
          .invalidAttributeName "e=", .noPairs, .invalidAttributeName "b c",
          .invalidAttributeName ""] ∧
      (({} : Renderer).field noticedToken).html = "" := by
  have hnone : ({} : Renderer).WritesTokens := fun emit hemit => by cases hemit
  obtain ⟨hwriter, -, hwritten⟩ :=
    nothing_omitted_silently tokenWriter tokenWriter_writesTokens noticedForm {}
  obtain ⟨hmute, -, hunwritten⟩ := nothing_omitted_silently {} hnone noticedForm {}
  refine ⟨⟨tokenWriter_writesTokens, hwriter.trans ?_, ?_⟩, hnone, hmute.trans ?_, ?_⟩
  · rw [orderFields_noticed]
    decide
  · rw [Ne, (hwritten noticedToken).2]
    decide
  · rw [orderFields_noticed]
    decide
  · rw [(hunwritten noticedToken).2]
    decide

end Renderer

end FormMarkup
