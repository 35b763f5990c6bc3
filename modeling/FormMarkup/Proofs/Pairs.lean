import FormMarkup.Pairs

namespace FormMarkup

def Increasing (names : List String) : Prop :=
  names.Pairwise fun a b => a < b

instance (names : List String) : Decidable (Increasing names) := by
  unfold Increasing
  infer_instance

theorem Increasing.eq_of_perm {xs ys : List String} (hx : Increasing xs) (hy : Increasing ys)
    (h : xs.Perm ys) : xs = ys :=
  h.eq_of_pairwise (fun _ _ _ _ hab hba => absurd hba (String.lt_asymm hab)) hx hy

theorem Increasing.nodup {names : List String} (h : Increasing names) : names.Nodup :=
  h.imp fun hlt heq => absurd (heq ▸ hlt) (String.lt_irrefl _)

theorem lt_of_not_lt {a b : String} (hne : a ≠ b) (h : ¬a < b) : b < a :=
  String.not_le.mp fun hle => hne (String.le_antisymm hle (String.not_lt.mp h))

namespace Pairs

variable {α : Type}

def keys (pairs : Pairs α) : List String :=
  pairs.map Prod.fst

theorem keys_append (xs ys : Pairs α) : keys (xs ++ ys) = keys xs ++ keys ys :=
  List.map_append

theorem mem_keys_putSorted {name other : String} {value : α} {pairs : Pairs α}
    (h : other ∈ keys (putSorted name value pairs)) : other = name ∨ other ∈ keys pairs := by
  induction pairs with
  | nil => exact Or.inl (List.mem_singleton.mp h)
  | cons p pairs ih =>
      obtain ⟨n, v⟩ := p
      unfold putSorted at h
      split at h
      · rcases List.mem_cons.mp h with h | h
        · exact Or.inl h
        · exact Or.inr (List.mem_cons_of_mem _ h)
      · split at h
        · exact List.mem_cons.mp h
        · rcases List.mem_cons.mp h with rfl | h
          · exact Or.inr (List.mem_cons_self ..)
          · exact (ih h).imp_right (List.mem_cons_of_mem _)

theorem increasing_putSorted (name : String) (value : α) {pairs : Pairs α}
    (h : Increasing (keys pairs)) : Increasing (keys (putSorted name value pairs)) := by
  induction pairs with
  | nil => exact List.pairwise_singleton _ _
  | cons p pairs ih =>
      obtain ⟨n, v⟩ := p
      obtain ⟨hfirst, hrest⟩ := List.pairwise_cons.mp h
      unfold putSorted
      split
      · next heq =>
          rw [heq]
          exact h
      · next hne =>
          split
          · next hlt =>
              refine List.pairwise_cons.mpr ⟨fun m hm => ?_, h⟩
              rcases List.mem_cons.mp hm with rfl | hm
              · exact hlt
              · exact String.lt_trans hlt (hfirst m hm)
          · next hnlt =>
              refine List.pairwise_cons.mpr ⟨fun m hm => ?_, ih hrest⟩
              rcases mem_keys_putSorted hm with rfl | hm
              · exact lt_of_not_lt hne hnlt
              · exact hfirst m hm

theorem putSorted_perm {name : String} (value : α) {pairs : Pairs α}
    (h : name ∉ keys pairs) : (putSorted name value pairs).Perm ((name, value) :: pairs) := by
  induction pairs with
  | nil => exact .refl _
  | cons p pairs ih =>
      obtain ⟨n, v⟩ := p
      have hn : name ≠ n := fun e => h (e ▸ List.mem_cons_self ..)
      have hrest : name ∉ keys pairs := fun hm => h (List.mem_cons_of_mem _ hm)
      rw [putSorted, if_neg hn]
      split
      · exact .refl _
      · exact ((ih hrest).cons (n, v)).trans (.swap ..)

theorem increasing_sorted (pairs : Pairs α) : Increasing (keys (sorted pairs)) := by
  have hfold : ∀ (pairs done : Pairs α), Increasing (keys done) →
      Increasing (keys (pairs.foldl (fun done p => putSorted p.1 p.2 done) done)) := by
    intro pairs
    induction pairs with
    | nil => exact fun _ h => h
    | cons p pairs ih => exact fun done h => ih _ (increasing_putSorted p.1 p.2 h)
  exact hfold pairs [] .nil

theorem sorted_perm {pairs : Pairs α} (h : (keys pairs).Nodup) : (sorted pairs).Perm pairs := by
  have hfold : ∀ (pairs done : Pairs α), (keys (done ++ pairs)).Nodup →
      (pairs.foldl (fun done p => putSorted p.1 p.2 done) done).Perm (done ++ pairs) := by
    intro pairs
    induction pairs with
    | nil =>
        intro done _
        rw [List.append_nil]
        exact .refl _
    | cons p pairs ih =>
        intro done hd
        have hmiddle : (done ++ p :: pairs).Perm (p :: done ++ pairs) := List.perm_middle
        have hnew : (keys (p :: done ++ pairs)).Nodup := (hmiddle.map Prod.fst).nodup hd
        have hp : p.1 ∉ keys done := by
          rw [keys_append] at hnew
          exact (List.nodup_cons.mp (List.nodup_append.mp hnew).1).1
        have hput := (putSorted_perm p.2 hp).append_right pairs
        exact ((ih _ ((hput.map Prod.fst).symm.nodup hnew)).trans hput).trans hmiddle.symm
  exact hfold pairs [] h

theorem put_of_not_mem {name : String} (value : α) {pairs : Pairs α} (h : name ∉ keys pairs) :
    put name value pairs = pairs ++ [(name, value)] := by
  induction pairs with
  | nil => rfl
  | cons p pairs ih =>
      obtain ⟨n, v⟩ := p
      have hn : n ≠ name := fun e => h (e ▸ List.mem_cons_self ..)
      rw [put, if_neg hn, ih fun hm => h (List.mem_cons_of_mem _ hm)]
      rfl

theorem distinct_of_nodup {pairs : Pairs α} (h : (keys pairs).Nodup) : distinct pairs = pairs := by
  have hfold : ∀ (pairs done : Pairs α), (keys (done ++ pairs)).Nodup →
      pairs.foldl (fun done p => put p.1 p.2 done) done = done ++ pairs := by
    intro pairs
    induction pairs with
    | nil => exact fun done _ => (List.append_nil done).symm
    | cons p pairs ih =>
        intro done hd
        have happend : done ++ p :: pairs = (done ++ [p]) ++ pairs := by simp
        have hp : p.1 ∉ keys done := by
          rw [keys_append, List.nodup_append] at hd
          exact fun hm => hd.2.2 _ hm _ (List.mem_cons_self ..) rfl
        rw [List.foldl_cons, put_of_not_mem p.2 hp, happend]
        exact ih _ (happend ▸ hd)
  exact hfold pairs [] h

theorem find?_append (name : String) (xs ys : Pairs α) :
    find? name (xs ++ ys) = (find? name xs).or (find? name ys) := by
  induction xs with
  | nil => rfl
  | cons x xs ih =>
      obtain ⟨n, v⟩ := x
      by_cases h : n = name
      · simp [find?, h]
      · simp [find?, h, ih]

theorem find?_perm {name : String} {xs ys : Pairs α} (h : (keys xs).Nodup) (hp : xs.Perm ys) :
    find? name xs = find? name ys := by
  induction hp with
  | nil => rfl
  | cons x _ ih =>
      obtain ⟨n, v⟩ := x
      rw [find?, find?, ih (List.nodup_cons.mp h).2]
  | swap x y xs =>
      obtain ⟨n, v⟩ := x
      obtain ⟨m, w⟩ := y
      have hne : m ≠ n := fun e => (List.nodup_cons.mp h).1 (e ▸ List.mem_cons_self ..)
      by_cases hn : n = name
      · have hm : ¬m = name := fun hm => hne (hm.trans hn.symm)
        rw [find?, find?, find?, find?, if_pos hn, if_neg hm, if_pos hn]
      · rw [find?, find?, find?, find?, if_neg hn, if_neg hn]
  | trans hp _ ih ih' => exact (ih h).trans (ih' ((hp.map Prod.fst).nodup h))

theorem mem_of_find? {name : String} {xs : Pairs α} {v : α} (h : find? name xs = some v) :
    (name, v) ∈ xs := by
  induction xs with
  | nil => cases h
  | cons x xs ih =>
      obtain ⟨n, w⟩ := x
      rw [find?] at h
      split at h
      · next hn =>
          cases h
          exact hn ▸ List.mem_cons_self ..
      · exact List.mem_cons_of_mem _ (ih h)

end Pairs

end FormMarkup
