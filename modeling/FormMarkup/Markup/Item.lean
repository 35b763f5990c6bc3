import FormMarkup.Markup.Escape

namespace FormMarkup.Markup

inductive Element where
  | div
  | form
  | label
  | abbr
  | input
  | select
  | option
  | textarea
  | small
  | paragraph
  | button
  deriving DecidableEq, Repr

def Element.name : Element → String
  | .div => "div"
  | .form => "form"
  | .label => "label"
  | .abbr => "abbr"
  | .input => "input"
  | .select => "select"
  | .option => "option"
  | .textarea => "textarea"
  | .small => "small"
  | .paragraph => "p"
  | .button => "button"

inductive Attribute where
  | escaped (name value : String)
  | plain (name value : String)
  | bare (name : String)
  | extra (name value : String)
  | raw (text : String)
  deriving DecidableEq, Repr

inductive Item where
  | start (element : Element) (attributes : List Attribute)
  | finish (element : Element)
  | text (content : String)
  | layout (blanks : String)
  | raw (markup : String)
  deriving DecidableEq, Repr

def Attribute.write : Attribute → String
  | .escaped name value => " " ++ name ++ "=\"" ++ escapeValue value ++ "\""
  | .plain name value => " " ++ name ++ "=\"" ++ value ++ "\""
  | .bare name => " " ++ name
  | .extra name value => " " ++ name ++ "='" ++ value ++ "' "
  | .raw text => " " ++ text

def writeAttributes : List Attribute → String
  | [] => ""
  | a :: as => a.write ++ writeAttributes as

def Item.write : Item → String
  | .start element attributes => "<" ++ element.name ++ writeAttributes attributes ++ ">"
  | .finish element => "</" ++ element.name ++ ">"
  | .text content => escapeText content
  | .layout blanks => blanks
  | .raw markup => markup

def write : List Item → String
  | [] => ""
  | item :: items => item.write ++ write items

theorem writeAttributes_append (as bs : List Attribute) :
    writeAttributes (as ++ bs) = writeAttributes as ++ writeAttributes bs := by
  induction as with
  | nil => simp [writeAttributes]
  | cons a as ih => simp [writeAttributes, ih, String.append_assoc]

theorem write_append (xs ys : List Item) : write (xs ++ ys) = write xs ++ write ys := by
  induction xs with
  | nil => simp [write]
  | cons x xs ih => simp [write, ih, String.append_assoc]

def unlessEmpty (name value : String) : List Attribute :=
  if value = "" then [] else [.escaped name value]

def bareIf (set : Bool) (name : String) : List Attribute :=
  if set then [.bare name] else []

def line (indent : String) (element : Element) (attributes : List Attribute) (content : String) :
    List Item :=
  [.layout indent, .start element attributes, .text content, .finish element, .layout "\n"]

def block (indent : String) (element : Element) (attributes : List Attribute)
    (content : List Item) : List Item :=
  [.layout indent, .start element attributes, .layout "\n"] ++ content ++
    [.layout indent, .finish element, .layout "\n"]

end FormMarkup.Markup
