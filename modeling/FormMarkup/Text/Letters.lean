namespace FormMarkup.Text

def lowerLetter (c : Char) : Char :=
  if 'A'.toNat ≤ c.toNat && c.toNat ≤ 'Z'.toNat then Char.ofNat (c.toNat + 32) else c

def lowerLetters (s : String) : String :=
  String.ofList (s.toList.map lowerLetter)

def sameLetters (a b : String) : Bool :=
  lowerLetters a == lowerLetters b

theorem sameLetters_iff {a b : String} :
    sameLetters a b = true ↔ lowerLetters a = lowerLetters b := by
  simp [sameLetters]

end FormMarkup.Text
