import FormMarkup.Proofs.Pairs
import Mathlib.Data.List.Nodup

namespace FormMarkup.Pairs

variable {α β : Type}

def last? (name : String) : Pairs α → Option α
  | [] => none
  | (n, v) :: rest => (last? name rest).or (if n = name then some v else none)

theorem find?_isSome {name : String} {xs : Pairs α} :
    (find? name xs).isSome = true ↔ name ∈ keys xs := by
  induction xs with
  | nil => simp [find?, keys]
  | cons x xs ih =>
      obtain ⟨n, v⟩ := x
      by_cases h : n = name
      · simp [find?, keys, h]
      · simpa [find?, keys, h, Ne.symm h] using ih

theorem last?_isSome {name : String} {xs : Pairs α} :
    (last? name xs).isSome = true ↔ name ∈ keys xs := by
  induction xs with
  | nil => simp [last?, keys]
  | cons x xs ih =>
      obtain ⟨n, v⟩ := x
      by_cases h : n = name
      · simp [last?, keys, h]
      · simpa [last?, keys, h, Ne.symm h] using ih

theorem find?_eq_none {name : String} {xs : Pairs α} (h : name ∉ keys xs) :
    find? name xs = none := by
  cases hf : find? name xs with
  | none => rfl
  | some v => exact absurd (find?_isSome.mp (hf ▸ rfl)) h

theorem last?_eq_none {name : String} {xs : Pairs α} (h : name ∉ keys xs) :
    last? name xs = none := by
  cases hl : last? name xs with
  | none => rfl
  | some v => exact absurd (last?_isSome.mp (hl ▸ rfl)) h

theorem mem_of_last? {name : String} {xs : Pairs α} {v : α} (h : last? name xs = some v) :
    (name, v) ∈ xs := by
  induction xs with
  | nil => cases h
  | cons p xs ih =>
      obtain ⟨n, w⟩ := p
      rw [last?] at h
      cases hl : last? name xs with
      | some u =>
          rw [hl] at h
          exact List.mem_cons_of_mem _ (ih (hl.trans h))
      | none =>
          rw [hl, Option.none_or] at h
          split at h
          · next hn => rw [hn, Option.some.inj h]; exact List.mem_cons_self ..
          · cases h

theorem last?_putSorted {name : String} (other : String) (value : α) {xs : Pairs α}
    (h : name ∉ keys xs) :
    last? other (putSorted name value xs) =
      if name = other then some value else last? other xs := by
  induction xs with
  | nil => simp [putSorted, last?]
  | cons x xs ih =>
      obtain ⟨n, v⟩ := x
      have hne : name ≠ n := fun heq => h (heq ▸ List.mem_cons_self ..)
      have hrest : name ∉ keys xs := fun hm => h (List.mem_cons_of_mem _ hm)
      rw [putSorted, if_neg hne]
      split
      · rw [last?]
        split
        · next ho =>
            subst ho
            rw [last?_eq_none h, Option.none_or]
        · exact Option.or_none
      · rw [last?, ih hrest, last?]
        split
        · rfl
        · rfl

theorem last?_of_nodup {name : String} {xs : Pairs α} (h : (keys xs).Nodup) :
    last? name xs = find? name xs := by
  induction xs with
  | nil => rfl
  | cons x xs ih =>
      obtain ⟨n, v⟩ := x
      obtain ⟨hn, hrest⟩ := List.nodup_cons.mp h
      rw [last?, find?, ih hrest]
      split
      · next heq => rw [find?_eq_none (heq ▸ hn), Option.none_or]
      · exact Option.or_none

section Insertion

variable {insert : String → α → Pairs α → Pairs α}

theorem find?_foldl
    (h : ∀ name other value pairs, find? other (insert name value pairs) =
      if name = other then some value else find? other pairs)
    (name : String) (pairs done : Pairs α) :
    find? name (pairs.foldl (fun done p => insert p.1 p.2 done) done) =
      (last? name pairs).or (find? name done) := by
  induction pairs generalizing done with
  | nil => rfl
  | cons p pairs ih =>
      rw [List.foldl_cons, ih, h, last?, Option.or_assoc]
      split <;> rfl

end Insertion

theorem find?_sorted (name : String) (xs : Pairs α) :
    find? name (sorted xs) = last? name xs := by
  rw [sorted, find?_foldl fun name other => find?_putSorted name other]
  exact Option.or_none

theorem find?_distinct (name : String) (xs : Pairs α) :
    find? name (distinct xs) = last? name xs := by
  rw [distinct, find?_foldl fun name other => find?_put name other]
  exact Option.or_none

theorem nodup_distinct (xs : Pairs α) : (keys (distinct xs)).Nodup := by
  have hput : ∀ (name : String) (value : α) (done : Pairs α), (keys done).Nodup →
      (keys (put name value done)).Nodup := by
    intro name value done h
    rw [keys, keys_put]
    split
    · exact h
    · next hnew =>
        refine List.nodup_append.mpr ⟨h, List.nodup_singleton _, fun a ha b hb heq => hnew ?_⟩
        rw [← List.mem_singleton.mp hb, ← heq]
        exact ha
  have hfold : ∀ (xs done : Pairs α), (keys done).Nodup →
      (keys (xs.foldl (fun done p => put p.1 p.2 done) done)).Nodup := by
    intro xs
    induction xs with
    | nil => exact fun _ h => h
    | cons x xs ih => exact fun done h => ih _ (hput x.1 x.2 done h)
  exact hfold xs [] List.nodup_nil

theorem nodup_sorted (xs : Pairs α) : (keys (sorted xs)).Nodup :=
  (increasing_sorted xs).nodup

theorem mem_keys_sorted {name : String} {xs : Pairs α} :
    name ∈ keys (sorted xs) ↔ name ∈ keys xs := by
  rw [← find?_isSome, find?_sorted, last?_isSome]

theorem find?_eq_some_iff {name : String} {v : α} {xs : Pairs α} (h : (keys xs).Nodup) :
    find? name xs = some v ↔ (name, v) ∈ xs := by
  constructor
  · exact mem_of_find?
  · intro hm
    induction xs with
    | nil => cases hm
    | cons x xs ih =>
        obtain ⟨n, w⟩ := x
        obtain ⟨hn, hrest⟩ := List.nodup_cons.mp h
        rcases List.mem_cons.mp hm with heq | hm
        · obtain ⟨rfl, rfl⟩ := Prod.mk.inj heq
          rw [find?, if_pos rfl]
        · have hmem : name ∈ keys xs := List.mem_map.mpr ⟨_, hm, rfl⟩
          have hne : n ≠ name := fun heq => hn (heq ▸ hmem)
          rw [find?, if_neg hne]
          exact ih hrest hm

theorem sorted_subset (xs : Pairs α) : sorted xs ⊆ xs := by
  intro p hp
  refine mem_of_last? ?_
  rw [← find?_sorted]
  exact (find?_eq_some_iff (nodup_sorted xs)).mpr hp

theorem perm_of_find? {xs ys : Pairs α} (hx : (keys xs).Nodup) (hy : (keys ys).Nodup)
    (h : ∀ name, find? name xs = find? name ys) : xs.Perm ys := by
  refine (List.perm_ext_iff_of_nodup hx.of_map hy.of_map).mpr fun p => ?_
  obtain ⟨name, v⟩ := p
  rw [← find?_eq_some_iff hx, ← find?_eq_some_iff hy, h]

theorem pairwise_of_increasing {xs : Pairs α} (h : Increasing (keys xs)) :
    xs.Pairwise fun a b => a.1 < b.1 :=
  List.pairwise_map.mp h

theorem eq_of_increasing_perm {xs ys : Pairs α} (hx : Increasing (keys xs))
    (hy : Increasing (keys ys)) (h : xs.Perm ys) : xs = ys :=
  h.eq_of_pairwise (fun _ _ _ _ hab hba => absurd hba (String.lt_asymm hab))
    (pairwise_of_increasing hx) (pairwise_of_increasing hy)

theorem eq_of_find? {xs ys : Pairs α} (hx : Increasing (keys xs)) (hy : Increasing (keys ys))
    (h : ∀ name, find? name xs = find? name ys) : xs = ys :=
  eq_of_increasing_perm hx hy (perm_of_find? hx.nodup hy.nodup h)

theorem sorted_congr {xs ys : Pairs α} (h : ∀ name, last? name xs = last? name ys) :
    sorted xs = sorted ys := by
  refine eq_of_find? (increasing_sorted xs) (increasing_sorted ys) fun name => ?_
  rw [find?_sorted, find?_sorted, h]

theorem sorted_of_increasing {xs : Pairs α} (h : Increasing (keys xs)) : sorted xs = xs :=
  eq_of_increasing_perm (increasing_sorted xs) h (sorted_perm h.nodup)

theorem sorted_sorted (xs : Pairs α) : sorted (sorted xs) = sorted xs :=
  sorted_of_increasing (increasing_sorted xs)

theorem sorted_distinct (xs : Pairs α) : sorted (distinct xs) = sorted xs :=
  sorted_congr fun name => by rw [last?_of_nodup (nodup_distinct xs), find?_distinct]

theorem last?_filter (p : String → Bool) (name : String) (xs : Pairs α) :
    last? name (xs.filter fun m => p m.1) = if p name then last? name xs else none := by
  induction xs with
  | nil => cases p name <;> rfl
  | cons x xs ih =>
      obtain ⟨n, v⟩ := x
      by_cases hn : n = name
      · cases hp : p name <;> simp [last?, hn, hp] at ih ⊢ <;> simp [ih]
      · cases hp : p n <;> simp [last?, hn, hp, ih]

theorem find?_filter (p : String → Bool) (name : String) (xs : Pairs α) :
    find? name (xs.filter fun m => p m.1) = if p name then find? name xs else none := by
  induction xs with
  | nil => cases p name <;> rfl
  | cons x xs ih =>
      obtain ⟨n, v⟩ := x
      by_cases hn : n = name
      · subst hn
        cases hp : p n with
        | true => simp [find?, hp]
        | false => simpa [hp] using ih
      · cases hp : p n <;> simp [find?, hn, hp, ih]

theorem filter_putSorted {p : String → Bool} {name : String} (h : p name = false) (value : α)
    (xs : Pairs α) :
    (putSorted name value xs).filter (fun m => p m.1) = xs.filter fun m => p m.1 := by
  induction xs with
  | nil => simp [putSorted, h]
  | cons x xs ih =>
      obtain ⟨n, v⟩ := x
      rw [putSorted]
      split
      · next hn => simp [← hn, h]
      · split
        · simp [h]
        · rw [List.filter_cons, List.filter_cons, ih]

theorem filter_sorted (p : String → Bool) (xs : Pairs α) :
    (sorted xs).filter (fun m => p m.1) = sorted (xs.filter fun m => p m.1) := by
  have hsub : (keys ((sorted xs).filter fun m => p m.1)).Sublist (keys (sorted xs)) :=
    List.filter_sublist.map Prod.fst
  have hinc := (increasing_sorted xs).sublist hsub
  refine eq_of_find? hinc (increasing_sorted _) fun name => ?_
  rw [find?_sorted, last?_filter, ← last?_of_nodup hinc.nodup, last?_filter,
    last?_of_nodup (nodup_sorted xs), find?_sorted]

theorem find?_mapValues (f : α → β) (name : String) (xs : Pairs α) :
    find? name (xs.map fun m => (m.1, f m.2)) = (find? name xs).map f := by
  induction xs with
  | nil => rfl
  | cons x xs ih =>
      obtain ⟨n, v⟩ := x
      rw [List.map_cons, find?, find?, ih]
      split <;> rfl

theorem last?_mapValues (f : α → β) (name : String) (xs : Pairs α) :
    last? name (xs.map fun m => (m.1, f m.2)) = (last? name xs).map f := by
  induction xs with
  | nil => rfl
  | cons x xs ih =>
      obtain ⟨n, v⟩ := x
      rw [List.map_cons, last?, last?, ih, Option.map_or]
      split <;> rfl

theorem keys_mapValues (f : α → β) (xs : Pairs α) :
    keys (xs.map fun m => (m.1, f m.2)) = keys xs := by
  rw [keys, List.map_map]
  rfl

theorem mapValues_sorted (f : α → β) (xs : Pairs α) :
    (sorted xs).map (fun m => (m.1, f m.2)) = sorted (xs.map fun m => (m.1, f m.2)) := by
  refine eq_of_find? ?_ (increasing_sorted _) fun name => ?_
  · rw [keys_mapValues]
    exact increasing_sorted xs
  · rw [find?_mapValues, find?_sorted, find?_sorted, last?_mapValues]

end FormMarkup.Pairs
