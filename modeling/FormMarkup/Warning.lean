namespace FormMarkup

inductive Warning where
  | malformedField (index : Nat)
  | unknownType
  | noPairs
  | noTokenEmitter (name : String)
  | invalidAttributeName (name : String)
  deriving DecidableEq, Repr

def Warning.message : Warning → String
  | .malformedField _ => "Malformed field descriptor, skipping"
  | .unknownType => "Skipping field with unknown type"
  | .noPairs => "Hidden field has no name/value pairs, skipping"
  | .noTokenEmitter _ => "No token emitter configured, skipping nonce field"
  | .invalidAttributeName _ => "Dropping attribute with invalid name"

end FormMarkup
