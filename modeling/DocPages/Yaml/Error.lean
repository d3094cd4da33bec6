import DocPages.Text.Quoted
import DocPages.Yaml.Moment
/-! # Errors of reading

Why a text describes no value.  Where the rules of the language are broken the cause is not told
apart further; a value that its tag forbids has a cause and a wording of its own.  Whole numbers of too
many digits are neither read from base ten nor written in it. -/
set_option autoImplicit false
namespace DocPages.Yaml

inductive Error
  /-- the text follows no rule of the language, or describes no value -/
  | malformed
  | notAnInteger (text : String) (base : Nat)
  | tooManyDigits (count : Nat)
  /-- a number from another base is too long for base ten -/
  | tooManyDigitsToWrite
  | notADecimal (text : String)
  | emptyNumber
  | notATruthValue (text : String)
  | outOfRange (e : MomentError)
  | unhashable (kind : String)
  deriving DecidableEq

def maxQuoted : Nat := 200

def maxDigits : Nat := 4300

def Error.message? : Error → Option String
  | .malformed => none
  | .notAnInteger text base =>
    some ("invalid literal for int() with base " ++ toString base ++ ": "
      ++ String.ofList ((Text.quoted text).toList.take maxQuoted))
  | .tooManyDigits count =>
    some ("Exceeds the limit (4300 digits) for integer string conversion: value has "
      ++ toString count ++ " digits; use sys.set_int_max_str_digits() to increase the limit")
  | .tooManyDigitsToWrite =>
    some ("Exceeds the limit (4300 digits) for integer string conversion; "
      ++ "use sys.set_int_max_str_digits() to increase the limit")
  | .notADecimal text => some ("could not convert string to float: " ++ Text.quoted text)
  | .emptyNumber => some "string index out of range"
  | .notATruthValue text => some text
  | .outOfRange e => some e.message
  | .unhashable kind => some ("unhashable type: '" ++ kind ++ "'")

end DocPages.Yaml
