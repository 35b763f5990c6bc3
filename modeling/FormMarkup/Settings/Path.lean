namespace FormMarkup.Settings

def joinPath (base part : String) : String :=
  if part.toList.head? = some '/' then part
  else if base = "" || base.toList.getLast? = some '/' then base ++ part
  else base ++ "/" ++ part

def configDirectory (home : String) (override : Option String) : String :=
  match override with
  | some directory =>
      if directory.toList.head? = some '/' then directory else joinPath home ".config"
  | none => joinPath home ".config"

def userFile (home : String) (override : Option String) (service : String) : String :=
  joinPath (joinPath (joinPath (configDirectory home override) "acton-forms") service) "config.toml"

end FormMarkup.Settings
