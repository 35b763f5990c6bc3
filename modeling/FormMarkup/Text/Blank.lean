namespace FormMarkup.Text

/-- The characters with the Unicode property `White_Space`. -/
def isBlank (c : Char) : Bool :=
  let n := c.toNat
  (9 ≤ n && n ≤ 13) || n == 0x20 || n == 0x85 || n == 0xA0 || n == 0x1680 ||
    (0x2000 ≤ n && n ≤ 0x200A) || n == 0x2028 || n == 0x2029 || n == 0x202F ||
    n == 0x205F || n == 0x3000

/-- The characters of the Unicode category `Cc`. -/
def isControl (c : Char) : Bool :=
  let n := c.toNat
  n < 0x20 || (0x7F ≤ n && n ≤ 0x9F)

def trimStartChars (cs : List Char) : List Char :=
  cs.dropWhile isBlank

def trimEndChars (cs : List Char) : List Char :=
  (cs.reverse.dropWhile isBlank).reverse

def trimChars (cs : List Char) : List Char :=
  trimEndChars (trimStartChars cs)

def trim (s : String) : String :=
  String.ofList (trimChars s.toList)

def isBlankText (s : String) : Bool :=
  s.toList.all isBlank

def pushWord (w : List Char) (ws : List (List Char)) : List (List Char) :=
  if w.isEmpty then ws else w :: ws

def wordsFrom (w : List Char) : List Char → List (List Char)
  | [] => pushWord w []
  | c :: cs => if isBlank c then pushWord w (wordsFrom [] cs) else wordsFrom (w ++ [c]) cs

def words (s : String) : List String :=
  (wordsFrom [] s.toList).map String.ofList

def joinWords (ws : List String) : String :=
  String.ofList (List.intercalate [' '] (ws.map String.toList))

theorem mem_pushWord {v w : List Char} {ws : List (List Char)} :
    v ∈ pushWord w ws ↔ (v = w ∧ w ≠ []) ∨ v ∈ ws := by
  cases w <;> simp [pushWord]

theorem wordsFrom_no_blank (cs : List Char) :
    ∀ w : List Char, (∀ c ∈ w, isBlank c = false) →
      ∀ v ∈ wordsFrom w cs, v ≠ [] ∧ ∀ c ∈ v, isBlank c = false := by
  induction cs with
  | nil =>
      intro w hw v hv
      rcases mem_pushWord.mp hv with ⟨rfl, hne⟩ | hv
      · exact ⟨hne, hw⟩
      · cases hv
  | cons c cs ih =>
      intro w hw v hv
      cases hc : isBlank c with
      | true =>
          rw [wordsFrom, if_pos hc] at hv
          rcases mem_pushWord.mp hv with ⟨rfl, hne⟩ | hv
          · exact ⟨hne, hw⟩
          · exact ih [] (fun _ h => nomatch h) v hv
      | false =>
          rw [wordsFrom, if_neg (by rw [hc]; exact Bool.false_ne_true)] at hv
          refine ih (w ++ [c]) (fun d hd => ?_) v hv
          rcases List.mem_append.mp hd with hd | hd
          · exact hw d hd
          · rw [List.mem_singleton.mp hd]; exact hc

end FormMarkup.Text
