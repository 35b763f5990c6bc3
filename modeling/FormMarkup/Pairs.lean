namespace FormMarkup

abbrev Pairs (α : Type) := List (String × α)

namespace Pairs

variable {α : Type}

def find? (name : String) : Pairs α → Option α
  | [] => none
  | (n, v) :: rest => if n = name then some v else find? name rest

def put (name : String) (value : α) : Pairs α → Pairs α
  | [] => [(name, value)]
  | (n, v) :: rest => if n = name then (n, value) :: rest else (n, v) :: put name value rest

def distinct (pairs : Pairs α) : Pairs α :=
  pairs.foldl (fun done p => put p.1 p.2 done) []

def putSorted (name : String) (value : α) : Pairs α → Pairs α
  | [] => [(name, value)]
  | (n, v) :: rest =>
      if name = n then (name, value) :: rest
      else if name < n then (name, value) :: (n, v) :: rest
      else (n, v) :: putSorted name value rest

def sorted (pairs : Pairs α) : Pairs α :=
  pairs.foldl (fun done p => putSorted p.1 p.2 done) []

theorem find?_put (name other : String) (value : α) (pairs : Pairs α) :
    find? other (put name value pairs) =
      if name = other then some value else find? other pairs := by
  induction pairs with
  | nil => simp [put, find?]
  | cons p pairs ih =>
      obtain ⟨n, v⟩ := p
      by_cases hn : n = name
      · subst hn
        by_cases ho : n = other <;> simp [put, find?, ho]
      · by_cases ho : n = other
        · subst ho
          simp [put, find?, hn, Ne.symm hn]
        · simp [put, find?, hn, ho, ih]

theorem find?_putSorted (name other : String) (value : α) (pairs : Pairs α) :
    find? other (putSorted name value pairs) =
      if name = other then some value else find? other pairs := by
  induction pairs with
  | nil => simp [putSorted, find?]
  | cons p pairs ih =>
      obtain ⟨n, v⟩ := p
      by_cases hn : name = n
      · subst hn
        by_cases ho : name = other <;> simp [putSorted, find?, ho]
      · by_cases hlt : name < n
        · simp [putSorted, find?, hn, hlt]
        · by_cases ho : n = other
          · subst ho
            simp [putSorted, find?, hn, hlt]
          · simp [putSorted, find?, hn, hlt, ho, ih]

theorem keys_put (name : String) (value : α) (pairs : Pairs α) :
    (put name value pairs).map Prod.fst =
      if name ∈ pairs.map Prod.fst then pairs.map Prod.fst else pairs.map Prod.fst ++ [name] := by
  induction pairs with
  | nil => simp [put]
  | cons p pairs ih =>
      obtain ⟨n, v⟩ := p
      by_cases h : n = name
      · simp [put, h]
      · simp only [put, h, if_false, List.map_cons, ih, List.mem_cons, Ne.symm h, false_or]
        split <;> simp

end Pairs

end FormMarkup
