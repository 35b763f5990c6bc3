import FormMarkup.Json.Printer
import FormMarkup.Text.Quoted

namespace FormMarkup

inductive Wanted where
  | text
  | map
  | sequence
  | typeName
  | descriptor
  | record (title : String)
  deriving DecidableEq, Repr

inductive DecodeError where
  | missingMember (name : String)
  | duplicateMember (name : String)
  | wrongKind (found : Json) (wanted : Wanted)
  | tooShort (length : Nat) (title : String) (size : Nat)
  | tooLong (length : Nat) (size : Nat)
  | tooLongDocument (length : Nat)
  | notScalar (found : Json)
  | notBoolean (found : Json)
  | notInteger (found : Json)
  | notCount (found : Int)
  deriving Repr

inductive ReadError where
  | badSyntax
  | decode (error : DecodeError)
  deriving Repr

def Wanted.message : Wanted → String
  | .text => "a string"
  | .map => "a map"
  | .sequence => "a sequence"
  | .typeName => "variant identifier"
  | .descriptor => "internally tagged enum Field"
  | .record title => "struct " ++ title

namespace Json

def kindMessage : Json → String
  | .null => "null"
  | .bool true => "boolean `true`"
  | .bool false => "boolean `false`"
  | .integer n => "integer `" ++ Decimal.integerText n ++ "`"
  | .float x => "floating point `" ++ Decimal.Layout.document.text x ++ "`"
  | .string s => "string " ++ Text.quoted s
  | .list _ => "sequence"
  | .object _ => "map"

def sortedText (value : Json) : String :=
  value.normalise.text

end Json

namespace DecodeError

def countMessage (n : Nat) : String :=
  Decimal.integerText (Int.ofNat n) ++ if n = 1 then " element" else " elements"

def message : DecodeError → String
  | .missingMember name => "missing field `" ++ name ++ "`"
  | .duplicateMember name => "duplicate field `" ++ name ++ "`"
  | .wrongKind found wanted =>
      "invalid type: " ++ found.kindMessage ++ ", expected " ++ wanted.message
  | .tooShort length title size =>
      "invalid length " ++ Decimal.integerText (Int.ofNat length) ++ ", expected struct " ++
        title ++ " with " ++ countMessage size
  | .tooLong length size =>
      "invalid length " ++ Decimal.integerText (Int.ofNat length) ++ ", expected " ++
        countMessage size ++ " in sequence"
  | .tooLongDocument length =>
      "invalid length " ++ Decimal.integerText (Int.ofNat length) ++
        ", expected fewer elements in array"
  | .notScalar found => "expected a scalar, found " ++ found.sortedText
  | .notBoolean found => "expected a boolean, found " ++ found.sortedText
  | .notInteger (.string s) => "expected an integer, found \"" ++ s ++ "\""
  | .notInteger found => "expected an integer, found " ++ found.sortedText
  | .notCount found => "expected a count, found " ++ Decimal.integerText found

end DecodeError

end FormMarkup
