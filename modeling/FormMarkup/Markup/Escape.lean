namespace FormMarkup.Markup

def replaceChar (c : Char) (entity : List Char) (cs : List Char) : List Char :=
  cs.flatMap fun d => if d = c then entity else [d]

/-- The ampersand goes first, so that no entity is escaped again. -/
def escapeTextChars (cs : List Char) : List Char :=
  replaceChar '>' "&gt;".toList (replaceChar '<' "&lt;".toList (replaceChar '&' "&amp;".toList cs))

def escapeValueChars (cs : List Char) : List Char :=
  replaceChar '>' "&gt;".toList
    (replaceChar '<' "&lt;".toList
      (replaceChar '\x27' "&#39;".toList
        (replaceChar '"' "&quot;".toList (replaceChar '&' "&amp;".toList cs))))

def escapeText (s : String) : String :=
  String.ofList (escapeTextChars s.toList)

def escapeValue (s : String) : String :=
  String.ofList (escapeValueChars s.toList)

theorem replaceChar_append (c : Char) (entity xs ys : List Char) :
    replaceChar c entity (xs ++ ys) = replaceChar c entity xs ++ replaceChar c entity ys := by
  simp [replaceChar]

end FormMarkup.Markup
