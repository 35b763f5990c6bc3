import FormMarkup.Proofs.Field.Ordering
import FormMarkup.Proofs.Form.Entries
import FormMarkup.Proofs.Render.Assembly

namespace FormMarkup

open FormMarkup.Markup

structure Marked where
  kept : Bool
  field : Field

namespace Marked

def all (xs : List Marked) : List Field :=
  xs.map Marked.field

def remaining (xs : List Marked) : List Field :=
  (xs.filter Marked.kept).map Marked.field

def orderChoices (x : Marked) : Marked :=
  { x with field := x.field.orderChoices }

def ordered (xs : List Marked) : List Marked :=
  ascending (Field.order ∘ Marked.field) (xs.map orderChoices)

theorem all_ordered (xs : List Marked) : all (ordered xs) = orderFields (all xs) := by
  rw [all, ordered, map_ascending, orderFields, all, List.map_map, List.map_map]
  rfl

theorem remaining_ordered (xs : List Marked) :
    remaining (ordered xs) = orderFields (remaining xs) := by
  have hkept : (xs.map orderChoices).filter Marked.kept =
      (xs.filter Marked.kept).map orderChoices := List.filter_map
  rw [remaining, ordered, filter_ascending, map_ascending, hkept, orderFields, remaining,
    List.map_map, List.map_map]
  rfl

theorem mem_ordered {x : Marked} {xs : List Marked} (h : x ∈ ordered xs) :
    ∃ y ∈ xs, y.orderChoices = x :=
  List.mem_map.mp ((ascending_perm _ _).mem_iff.mp h)

theorem flatMap_remaining {β : Type} {f : Field → List β} {xs : List Marked}
    (h : ∀ x ∈ xs, x.kept = false → f x.field = []) :
    (remaining xs).flatMap f = (all xs).flatMap f := by
  induction xs with
  | nil => rfl
  | cons x xs ih =>
      have hrest := ih fun y hy => h y (List.mem_cons_of_mem _ hy)
      cases hk : x.kept with
      | false => simpa [remaining, all, hk, h x (List.mem_cons_self ..) hk] using hrest
      | true => simpa [remaining, all, hk] using hrest

end Marked

theorem Definition.decodeEntries_unknown {vs : List Json} {i : Nat} {v : Json} {e : DecodeError}
    (hv : vs[i]? = some v) (he : Field.decode v = .error e) :
    (decodeEntries 0 vs).1[i]? = some .unknown := by
  rw [fields_decodeEntries, List.getElem?_map, hv, Option.map_some, Field.ofEntry_error he]

namespace Renderer

def Silent (r : Renderer) : Field → Prop
  | .unknown => True
  | .hidden f => f.pairs = []
  | .nonce _ => r.emitter = none
  | _ => False

theorem Silent.orderChoices {r : Renderer} {f : Field} (h : r.Silent f) :
    r.Silent f.orderChoices := by
  cases f with
  | checkbox g => exact h.elim
  | radio g => exact h.elim
  | _ => exact h

theorem Silent.items_eq_nil {r : Renderer} {f : Field} (h : r.Silent f) :
    (r.field f).items = [] := by
  cases f with
  | hidden f =>
      have hp : f.pairs = [] := h
      simp [field, Field.withDefaults, complete, HiddenPair.listItems, hp]
  | nonce n =>
      have he : r.emitter = none := h
      simp [field, Field.withDefaults, complete, nonce, he]
  | unknown => rfl
  | _ => exact h.elim

theorem items_fields_remaining {r : Renderer} {xs : List Marked}
    (h : ∀ x ∈ xs, x.kept = false → r.Silent x.field) :
    (r.fields (Marked.remaining xs)).items = (r.fields (Marked.all xs)).items := by
  have hsilent : ∀ x ∈ Marked.ordered xs, x.kept = false → (r.field x.field).items = [] := by
    intro x hx hk
    obtain ⟨y, hy, rfl⟩ := Marked.mem_ordered hx
    exact (h y hy hk).orderChoices.items_eq_nil
  rw [items_fields, items_fields, ← Marked.remaining_ordered, ← Marked.all_ordered]
  exact Marked.flatMap_remaining hsilent

theorem form_without_silent (r : Renderer) (tag : FormTag) (xs : List Marked)
    (hs : ∀ x ∈ xs, x.kept = false → r.Silent x.field) (hk : ∃ x ∈ xs, x.kept = true) :
    (∀ (vs : List Json) (i : Nat) (v : Json) (e : DecodeError), vs[i]? = some v →
      Field.decode v = .error e → (Definition.decodeEntries 0 vs).1[i]? = some .unknown) ∧
    (r.form (Marked.remaining xs) tag).html = (r.form (Marked.all xs) tag).html ∧
    (r.form (Marked.all xs) tag).warnings =
      (Marked.all (Marked.ordered xs)).flatMap (fun f => (r.field f).warnings) ∧
    (r.form (Marked.remaining xs) tag).warnings =
      (Marked.remaining (Marked.ordered xs)).flatMap fun f => (r.field f).warnings := by
  obtain ⟨x, hx, hkept⟩ := hk
  have hall : Marked.all xs ≠ [] := List.ne_nil_of_mem (List.mem_map_of_mem hx)
  have hremaining : Marked.remaining xs ≠ [] :=
    List.ne_nil_of_mem (List.mem_map_of_mem (List.mem_filter.mpr ⟨hx, hkept⟩))
  refine ⟨fun vs i v e => Definition.decodeEntries_unknown, ?_, ?_, ?_⟩
  · rw [Rendered.html, items_form r hremaining, items_fields_remaining hs, ← items_form r hall]
    rfl
  · rw [warnings_form, warnings_fields, Marked.all_ordered]
  · rw [warnings_form, warnings_fields, Marked.remaining_ordered]

def patchyForm : List Marked :=
  [⟨false, .unknown⟩, ⟨true, .switch { label := "a", order := 2, extraAttributes := [("b/", "")] }⟩,
   ⟨false, .hidden { order := 7 }⟩, ⟨true, .textArea { name := "c", order := -1 }⟩,
   ⟨false, .nonce { name := "d", action := "e", order := 2 }⟩]

theorem form_without_silent_patchy :
    ((∀ x ∈ patchyForm, x.kept = false → ({} : Renderer).Silent x.field) ∧
      ∃ x ∈ patchyForm, x.kept = true) ∧
    (∀ (vs : List Json) (i : Nat) (v : Json) (e : DecodeError), vs[i]? = some v →
      Field.decode v = .error e → (Definition.decodeEntries 0 vs).1[i]? = some .unknown) ∧
    (({} : Renderer).form (Marked.remaining patchyForm) {}).html =
      (({} : Renderer).form (Marked.all patchyForm) {}).html ∧
    (({} : Renderer).form (Marked.all patchyForm) {}).warnings =
      (Marked.all (Marked.ordered patchyForm)).flatMap
        (fun f => (({} : Renderer).field f).warnings) ∧
    (({} : Renderer).form (Marked.remaining patchyForm) {}).warnings =
      (Marked.remaining (Marked.ordered patchyForm)).flatMap
        fun f => (({} : Renderer).field f).warnings := by
  have hs : ∀ x ∈ patchyForm, x.kept = false → ({} : Renderer).Silent x.field := by
    intro x hx hk
    simp only [patchyForm, List.mem_cons, List.not_mem_nil, or_false] at hx
    rcases hx with rfl | rfl | rfl | rfl | rfl
    · trivial
    · cases hk
    · rfl
    · cases hk
    · rfl
  have hk : ∃ x ∈ patchyForm, x.kept = true :=
    ⟨_, List.mem_cons_of_mem _ (List.mem_cons_self ..), rfl⟩
  exact ⟨⟨hs, hk⟩, form_without_silent {} {} patchyForm hs hk⟩

end Renderer

end FormMarkup
