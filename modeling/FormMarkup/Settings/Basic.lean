namespace FormMarkup

structure Settings where
  ns : String := "app"
  requiredTitle : String := "This field is required"
  submitLabel : String := "Submit"
  textMaxLength : String := "50"
  deriving DecidableEq, Repr, Inhabited

namespace Settings

def namespaced (s : Settings) (name : String) : String :=
  if name = "" then "" else s.ns ++ "_" ++ name

def hook (s : Settings) (part : String) : String :=
  s.ns ++ "-" ++ part

end Settings

end FormMarkup
