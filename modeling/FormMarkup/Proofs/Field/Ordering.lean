import FormMarkup.Field.Order

namespace FormMarkup

variable {α : Type} {key : α → Int}

def Ascends (key : α → Int) (xs : List α) : Prop :=
  xs.Pairwise fun x y => key x ≤ key y

def atKey (key : α → Int) (k : Int) (xs : List α) : List α :=
  xs.filter fun x => key x = k

theorem before_trans (x y z : α) (hxy : decide (key x ≤ key y) = true)
    (hyz : decide (key y ≤ key z) = true) : decide (key x ≤ key z) = true :=
  decide_eq_true (Int.le_trans (of_decide_eq_true hxy) (of_decide_eq_true hyz))

theorem before_total (x y : α) : (decide (key x ≤ key y) || decide (key y ≤ key x)) = true := by
  rcases Int.le_total (key x) (key y) with h | h <;> simp [h]

theorem ascends_ascending (key : α → Int) (xs : List α) : Ascends key (ascending key xs) :=
  (List.pairwise_mergeSort before_trans before_total xs).imp of_decide_eq_true

theorem mem_atKey {k : Int} {xs : List α} {x : α} : x ∈ atKey key k xs ↔ x ∈ xs ∧ key x = k := by
  simp [atKey]

theorem atKey_atKey (k : Int) (xs : List α) : atKey key k (atKey key k xs) = atKey key k xs := by
  simp [atKey]

theorem atKey_filter (k : Int) (p : α → Bool) (xs : List α) :
    atKey key k (xs.filter p) = (atKey key k xs).filter p := by
  simp [atKey, Bool.and_comm]

theorem atKey_ascending (k : Int) (xs : List α) :
    atKey key k (ascending key xs) = atKey key k xs := by
  have hlevel : (atKey key k xs).Pairwise fun x y => decide (key x ≤ key y) = true :=
    List.pairwise_of_forall_mem_list fun x hx y hy => by
      rw [(mem_atKey.mp hx).2, (mem_atKey.mp hy).2]
      exact decide_eq_true (Int.le_refl k)
  have hkept : (atKey key k xs).Sublist (ascending key xs) :=
    List.sublist_mergeSort before_trans before_total hlevel List.filter_sublist
  have hsub := hkept.filter fun x => key x = k
  have hlength := ((ascending_perm key xs).filter fun x => key x = k).length_eq
  have hsame := hsub.eq_of_length ((congrArg List.length (atKey_atKey k xs)).trans hlength.symm)
  exact hsame.symm.trans (atKey_atKey k xs)

theorem Ascends.head_le {x y : α} {xs : List α} (h : Ascends key (x :: xs))
    (hy : y ∈ x :: xs) : key x ≤ key y := by
  rcases List.mem_cons.mp hy with rfl | hy
  · exact Int.le_refl _
  · exact List.rel_of_pairwise_cons h hy

theorem atKey_cons (k : Int) (x : α) (xs : List α) :
    atKey key k (x :: xs) = if key x = k then x :: atKey key k xs else atKey key k xs := by
  by_cases h : key x = k <;> simp [atKey, h]

theorem mem_of_atKey {xs ys : List α} (h : ∀ k, atKey key k xs = atKey key k ys) {x : α}
    (hx : x ∈ xs) : x ∈ ys := by
  have hat : x ∈ atKey key (key x) xs := mem_atKey.mpr ⟨hx, rfl⟩
  rw [h] at hat
  exact (mem_atKey.mp hat).1

-- The two heads have equal keys, because each is somewhere in the other list.
theorem Ascends.eq_of_atKey {xs ys : List α} (hx : Ascends key xs) (hy : Ascends key ys)
    (h : ∀ k, atKey key k xs = atKey key k ys) : xs = ys := by
  induction xs generalizing ys with
  | nil =>
      cases ys with
      | nil => rfl
      | cons y ys =>
          have hmem := mem_of_atKey (fun k => (h k).symm) (List.mem_cons_self (a := y) ..)
          cases hmem
  | cons x xs ih =>
      cases ys with
      | nil =>
          have hmem := mem_of_atKey h (List.mem_cons_self (a := x) ..)
          cases hmem
      | cons y ys =>
          have hxy := hx.head_le (mem_of_atKey (fun k => (h k).symm) (List.mem_cons_self ..))
          have hyx := hy.head_le (mem_of_atKey h (List.mem_cons_self ..))
          have hkey : key y = key x := Int.le_antisymm hyx hxy
          have hheads := h (key x)
          rw [atKey_cons, atKey_cons, if_pos rfl, if_pos hkey] at hheads
          obtain ⟨rfl, _⟩ := List.cons.inj hheads
          have htails : ∀ k, atKey key k xs = atKey key k ys := by
            intro k
            have hk := h k
            rw [atKey_cons, atKey_cons] at hk
            split at hk
            · exact (List.cons.inj hk).2
            · exact hk
          exact congrArg (x :: ·) (ih hx.tail hy.tail htails)

theorem filter_ascending (key : α → Int) (p : α → Bool) (xs : List α) :
    (ascending key xs).filter p = ascending key (xs.filter p) := by
  refine Ascends.eq_of_atKey (List.Pairwise.filter p (ascends_ascending key xs))
    (ascends_ascending key _) fun k => ?_
  rw [atKey_filter, atKey_ascending, atKey_ascending, atKey_filter]

theorem atKey_flatMap {β : Type} {key' : β → Int} {f : α → List β}
    (hf : ∀ x, ∀ y ∈ f x, key' y = key x) (k : Int) (xs : List α) :
    atKey key' k (xs.flatMap f) = (atKey key k xs).flatMap f := by
  induction xs with
  | nil => rfl
  | cons x xs ih =>
      have hx : atKey key' k (f x) = if key x = k then f x else [] := by
        split
        · next hk => exact List.filter_eq_self.mpr fun y hy => by simp [hf x y hy, hk]
        · next hk => exact List.filter_eq_nil_iff.mpr fun y hy => by simp [hf x y hy, hk]
      have hsplit : atKey key' k (f x ++ xs.flatMap f) =
          atKey key' k (f x) ++ atKey key' k (xs.flatMap f) := List.filter_append ..
      rw [List.flatMap_cons, hsplit, hx, ih, atKey_cons]
      split <;> rfl

-- What stands for an element stays together, because all of it has the element's key.
theorem flatMap_ascending {β : Type} {key' : β → Int} {f : α → List β}
    (hf : ∀ x, ∀ y ∈ f x, key' y = key x) (xs : List α) :
    (ascending key xs).flatMap f = ascending key' (xs.flatMap f) := by
  have hascends : Ascends key' ((ascending key xs).flatMap f) := by
    refine List.pairwise_flatMap.mpr ⟨fun x _ => ?_, ?_⟩
    · exact List.pairwise_of_forall_mem_list fun y hy z hz =>
        Int.le_of_eq ((hf x y hy).trans (hf x z hz).symm)
    · refine (ascends_ascending key xs).imp fun {x x'} hxx' y hy z hz => ?_
      rw [hf x y hy, hf x' z hz]
      exact hxx'
  refine hascends.eq_of_atKey (ascends_ascending key' _) fun k => ?_
  rw [atKey_flatMap hf, atKey_ascending, atKey_ascending, atKey_flatMap hf]

theorem map_ascending {β : Type} (f : α → β) (key : β → Int) (xs : List α) :
    (ascending (key ∘ f) xs).map f = ascending key (xs.map f) :=
  List.map_mergeSort fun _ _ _ _ => rfl

theorem orderFields_map {g : Field → Field} (horder : ∀ f, (g f).order = f.order)
    (hchoices : ∀ f, (g f).orderChoices = g f.orderChoices) (fs : List Field) :
    orderFields (fs.map g) = (orderFields fs).map g := by
  have hkey : Field.order ∘ g = Field.order := funext horder
  calc orderFields (fs.map g)
      = ascending Field.order ((fs.map Field.orderChoices).map g) := by
        rw [orderFields, List.map_map, List.map_map]
        exact congrArg _ (List.map_congr_left fun f _ => hchoices f)
    _ = (ascending Field.order (fs.map Field.orderChoices)).map g := by
        rw [← map_ascending, hkey]

end FormMarkup
