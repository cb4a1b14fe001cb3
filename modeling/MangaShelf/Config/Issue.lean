import MangaShelf.Json.Value

/-!
# Issues of a document

What can be wrong with a configuration document, where, and how an issue is worded. A check runs
over a whole document and reports every issue it meets, in the order of the model's fields.
-/

namespace MangaShelf.Config

/-- A step from a value to a part of it. -/
inductive Step where
  | key (name : String)
  | index (position : Nat)
  deriving DecidableEq, Repr

/-- What is wrong with a web address. -/
inductive AddressFault where
  | emptyInput
  | noScheme
  | emptyHost
  | badPort
  | badIpv4
  | badIpv6
  | badDomain
  | badDomainCharacter
  deriving DecidableEq, Repr

/-- The wording of a fault in a web address. -/
def AddressFault.message : AddressFault → String
  | .emptyInput => "input is empty"
  | .noScheme => "relative URL without a base"
  | .emptyHost => "empty host"
  | .badPort => "invalid port number"
  | .badIpv4 => "invalid IPv4 address"
  | .badIpv6 => "invalid IPv6 address"
  | .badDomain => "invalid international domain name"
  | .badDomainCharacter => "invalid domain character"

/-- What is wrong with a value. -/
inductive Problem where
  | missing
  /-- Not an object, where the named model is expected. -/
  | notModel (model : String)
  /-- Not an object, where a request body is expected. -/
  | notFields
  | notString
  | notBool
  | unreadableBool
  | notList
  /-- Not one of the listed words. -/
  | notOneOf (choices : List String)
  | notInt
  | unreadableInt
  | fractionalInt
  | intTooLong
  | notFinite
  | unreadableFloat
  | tooShort (least : Nat)
  | tooSmall (least : Int)
  | notAddress
  | badAddress (fault : AddressFault)
  | badScheme
  | addressTooLong
  | malformedJson
  deriving DecidableEq, Repr

/-- Something wrong at a place of the document. -/
structure Issue where
  path : List Step
  problem : Problem
  deriving DecidableEq, Repr

/-- Quoted words, separated by commas and a final "or". -/
def choiceList : List String → String
  | [] => ""
  | [w] => "'" ++ w ++ "'"
  | [v, w] => "'" ++ v ++ "' or '" ++ w ++ "'"
  | w :: ws => "'" ++ w ++ "', " ++ choiceList ws

/-- The short name of a problem. -/
def Problem.code : Problem → String
  | .missing => "missing"
  | .notModel _ => "model_type"
  | .notFields => "model_attributes_type"
  | .notString => "string_type"
  | .notBool => "bool_type"
  | .unreadableBool => "bool_parsing"
  | .notList => "list_type"
  | .notOneOf _ => "literal_error"
  | .notInt => "int_type"
  | .unreadableInt => "int_parsing"
  | .fractionalInt => "int_from_float"
  | .intTooLong => "int_parsing_size"
  | .notFinite => "finite_number"
  | .unreadableFloat => "float_parsing"
  | .tooShort _ => "string_too_short"
  | .tooSmall _ => "greater_than_equal"
  | .notAddress => "url_type"
  | .badAddress _ => "url_parsing"
  | .badScheme => "url_scheme"
  | .addressTooLong => "url_too_long"
  | .malformedJson => "json_invalid"

/-- The longest web address that is taken, in bytes. -/
def maxAddressLength : Nat := 2083

/-- The wording of a problem. -/
def Problem.message : Problem → String
  | .missing => "Field required"
  | .notModel model => "Input should be a valid dictionary or instance of " ++ model
  | .notFields => "Input should be a valid dictionary or object to extract fields from"
  | .notString => "Input should be a valid string"
  | .notBool => "Input should be a valid boolean"
  | .unreadableBool => "Input should be a valid boolean, unable to interpret input"
  | .notList => "Input should be a valid list"
  | .notOneOf choices => "Input should be " ++ choiceList choices
  | .notInt => "Input should be a valid integer"
  | .unreadableInt => "Input should be a valid integer, unable to parse string as an integer"
  | .fractionalInt => "Input should be a valid integer, got a number with a fractional part"
  | .intTooLong => "Unable to parse input string as an integer, exceeded maximum size"
  | .notFinite => "Input should be a finite number"
  | .unreadableFloat => "Input should be a valid number, unable to parse string as a number"
  | .tooShort least =>
    "String should have at least " ++ toString least ++
      (if least = 1 then " character" else " characters")
  | .tooSmall least => "Input should be greater than or equal to " ++ toString least
  | .notAddress => "URL input should be a string or URL"
  | .badAddress fault => "Input should be a valid URL, " ++ fault.message
  | .badScheme => "URL scheme should be 'http' or 'https'"
  | .addressTooLong => "URL should have at most " ++ toString maxAddressLength ++ " characters"
  | .malformedJson => "JSON decode error"

/-- A step as a member of the reported path. -/
def Step.toJson : Step → Json
  | .key name => .string name
  | .index position => .int position

/-- An issue as it is reported. -/
def Issue.toJson (issue : Issue) : Json :=
  .object [("type", .string issue.problem.code),
    ("loc", .array (issue.path.map Step.toJson)),
    ("msg", .string issue.problem.message)]

/-- The outcome of a check: a value, or all the issues that stand against it. -/
inductive Checked (α : Type) where
  | ok (value : α)
  | invalid (issues : List Issue)

namespace Checked

variable {α β : Type}

/-- One issue at the place that is looked at. -/
def refuse (problem : Problem) : Checked α :=
  .invalid [⟨[], problem⟩]

/-- Apply a function to the value. -/
def map (f : α → β) : Checked α → Checked β
  | .ok a => .ok (f a)
  | .invalid issues => .invalid issues

/-- Run a further check on the value. -/
def bind (c : Checked α) (f : α → Checked β) : Checked β :=
  match c with
  | .ok a => f a
  | .invalid issues => .invalid issues

/-- Combine two independent checks; the issues of both are kept, the first ones first. -/
def seq (f : Checked (α → β)) (a : Unit → Checked α) : Checked β :=
  match f, a () with
  | .ok g, .ok x => .ok (g x)
  | .ok _, .invalid issues => .invalid issues
  | .invalid issues, .ok _ => .invalid issues
  | .invalid first, .invalid second => .invalid (first ++ second)

instance : Functor Checked where
  map := map

instance : Seq Checked where
  seq := seq

/-- The issues seen from the value that holds the checked part. -/
def at_ (step : Step) : Checked α → Checked α
  | .ok a => .ok a
  | .invalid issues => .invalid (issues.map fun i => { i with path := step :: i.path })

/-- The value, if there are no issues. -/
def toOption : Checked α → Option α
  | .ok a => some a
  | .invalid _ => none

end Checked

end MangaShelf.Config
