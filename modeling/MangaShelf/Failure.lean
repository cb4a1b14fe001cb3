import MangaShelf.Catalog.Refusal
import MangaShelf.Json.Display
import MangaShelf.Json.Limits
import MangaShelf.JsonPath.Syntax
import MangaShelf.Pattern.Syntax
import MangaShelf.Selector.Syntax
import MangaShelf.Text.Charset
import MangaShelf.Url.Reference
import MangaShelf.Url.Request

/-!
# Failures

What stops a request or the reading of a page. Most of what a site can get wrong ends in an empty
result; what is listed here does not.
-/

namespace MangaShelf

/-- What stops a request. -/
inductive Failure where
  | reference (fault : Url.ReferenceFault)
  | request (fault : Url.RequestFault)
  | selector (fault : Selector.Fault)
  | path (fault : JsonPath.Fault)
  | pattern (fault : Pattern.Fault)
  | charset (fault : Text.CharsetFault)
  /-- A JSON text or a value is nested too deep. -/
  | tooDeep
  /-- A number has more digits than are written. -/
  | tooManyDigits
  /-- Something that is no list, where labels are expected. -/
  | notIterable (kind : String)
  | refused (refusal : Catalog.Refusal)
  deriving DecidableEq, Repr

/-- The failure to write a value that cannot be written. -/
def Failure.ofUnwritable (v : Json) : Failure :=
  if v.isOverlong then .tooManyDigits else .tooDeep

/-- The wording for what is nested too deep. -/
def depthMessage : String :=
  "maximum recursion depth exceeded"

/-- The wording for a number with too many digits; those of a text are counted. -/
def digitsMessage (count : Option Nat) : String :=
  "Exceeds the limit (4300 digits) for integer string conversion" ++
    (match count with
      | none => ""
      | some n => ": value has " ++ toString n ++ " digits") ++
    "; use sys.set_int_max_str_digits() to increase the limit"

/-- The wording of a fault in a selector. -/
def Selector.Fault.message : Selector.Fault → String
  | .rejected => "Invalid selector"
  | .cutShort => "generator raised StopIteration"
  | .strayMinus => "'-'"
  | .tooDeep => depthMessage

/-- The wording of a fault in a pattern. -/
def Pattern.Fault.message : Pattern.Fault → String
  | .tooManyRounds => "the repetition number is too large"
  | .tooManyDigits count => digitsMessage (some count)
  | .opposedOptions => "ASCII and UNICODE flags are incompatible"
  | .tooDeep => depthMessage

/-- The wording of a fault in a path. -/
def JsonPath.Fault.message : JsonPath.Fault → String
  | .malformed => "Invalid path"
  | .badOperator text => text ++ " is not valid"
  | .intersection => ""
  | .outside => "'NoneType' object has no attribute 'value'"
  | .zeroStep => "slice step cannot be zero"
  | .unordered first second =>
    "'<' not supported between instances of '" ++ first ++ "' and '" ++ second ++ "'"
  | .notText kind => "expected string or bytes-like object, got '" ++ kind ++ "'"
  | .badTemplate => "invalid group reference"
  | .badPattern (.fault fault) => fault.message
  | .badPattern .malformed => "invalid pattern"
  | .tooManyDigits count => digitsMessage (some count)
  | .tooLongText => digitsMessage none
  | .tooLarge => "int too large to convert to float"
  | .infinite => "cannot convert float infinity to integer"
  | .tooOften => "cannot fit 'int' into an index-sized integer"
  | .unsortable => "'DatumInContext' object is not iterable"
  | .tooDeep => depthMessage

/-- The wording of a failure. -/
def Failure.message : Failure → String
  | .reference fault => fault.message
  | .request fault => fault.message
  | .selector fault => fault.message
  | .path fault => fault.message
  | .pattern fault => fault.message
  | .charset fault => fault.message
  | .tooDeep => depthMessage
  | .tooManyDigits => digitsMessage none
  | .notIterable kind => "'" ++ kind ++ "' object is not iterable"
  | .refused refusal => refusal.message

end MangaShelf
