import Supervision.Decimal.Numeral
import Supervision.Pattern.Fault
import Supervision.Text.Alphanumeric
import Supervision.Text.Blank
import Supervision.Text.Bytes
import Supervision.Text.Pieces

/-!
# Directives of a log filter

A directive lets events through up to some detail, those whose target begins in its way or all. Its text is a level alone,
or a target, then in brackets a span and in braces a field, then a level behind an equals sign; `LogDirective.parse` reads
it. Each part may be missing, but not all of them, and where the level is missing every detail is let through.

The shape of a directive is that of its text without the white space at the ends, but its words are cut out of the whole
text at the places that the shape gives, in bytes. So white space at the end belongs to the last word, and behind white
space at the head all words are out of place.

A field may ask for a value behind an equals sign: a number, or a pattern for the text of the value.
-/

namespace Supervision

/-- What a directive asks of an event, beside its target. -/
inductive LogScope where
  | any
  /-- The event has a field of this name. -/
  | field (name : String)
  /-- The event belongs to a certain span of the work, or one with a certain value. No work is divided into spans here. -/
  | span
deriving DecidableEq, Repr

namespace LogScope

/-- How much a scope narrows a directive down. -/
def rank : LogScope → Nat
  | any => 0
  | _ => 1

/-- Whether an event is in a scope: the text of an event is its only field, and it is in no span. -/
def covers : LogScope → Bool
  | any => true
  | field name => name == "message"
  | span => false

end LogScope

/-- Lets the events of a part of the supervisor through, up to some detail. -/
structure LogDirective where
  /-- What the target of the part begins with. -/
  target : String
  scope : LogScope := .any
  /-- The most detail let through; at zero nothing is. -/
  detail : Nat
deriving DecidableEq, Repr

/-- Why a text is no directive. -/
inductive LogDirectiveFault where
  | malformed
  /-- The value that a field asks for is neither a number nor a pattern. -/
  | field (fault : PatternFault)
  | unknownLevel
deriving DecidableEq, Repr

/-- The text of a fault. -/
def LogDirectiveFault.message : LogDirectiveFault → String
  | malformed => "invalid filter directive"
  | field fault => ": ".intercalate ["invalid field filter", fault.message]
  | unknownLevel =>
    "error parsing level filter: expected one of \"off\", \"error\", \"warn\", \"info\", \"debug\", \"trace\", or a number 0-5"

namespace LogDirective

/-- The detail of everything. -/
def everything : Nat := 5

/-- The detail that a number stands for: the number itself, which may have a plus sign. -/
def detailOfNumber? (word : List Char) : Option Nat :=
  let digits := match word with
    | '+' :: rest => rest
    | _ => word
  if digits.isEmpty || !digits.all Char.isDigit then none
  else if Decimal.numberIn 10 digits ≤ everything then some (Decimal.numberIn 10 digits)
  else none

/-- The detail that the name of a level stands for, in capital letters or not. -/
def detailOfName? (word : List Char) : Option Nat :=
  match String.ofList (word.map Char.toLower) with
  | "off" => some 0
  | "error" => some 1
  | "warn" => some 2
  | "info" => some 3
  | "debug" => some 4
  | "trace" => some 5
  | _ => none

/-- The detail that a word stands for. -/
def detail? (word : List Char) : Option Nat :=
  (detailOfNumber? word).or (detailOfName? word)

/-- Whether a directive may begin with a character. -/
def isFirstChar (c : Char) : Bool :=
  c == '-' || c == ':' || c == '_' || c == '[' || Text.isAlphanumeric c

/-- The end of a directive: nothing, or an equals sign and a level, which may be empty. The place is that of the end in the
whole text, in bytes, and the last argument is what the shape has there. -/
def finish (whole : List Char) (target : String) (scope : LogScope) (place : Nat) :
    List Char → Except LogDirectiveFault LogDirective
  | [] => .ok ⟨target, scope, everything⟩
  | c :: _ =>
    if c = '=' then
      match Text.fromByte (place + 1) whole with
      | [] => .ok ⟨target, scope, everything⟩
      | level =>
        match detail? level with
        | some detail => .ok ⟨target, scope, detail⟩
        | none => .error .unknownLevel
    else .error .malformed

/-- What is wrong with the value that a field asks for, if anything is. -/
def valueFault? (value : List Char) : Option PatternFault :=
  if Decimal.isNumeral value then none else Pattern.fault? value

/-- The scope that a field gives, named or not, in a span or not. A field that asks for a value is one of a span; a second
equals sign ends the value. -/
def fieldScope (inSpan : Bool) (field : List Char) : Except LogDirectiveFault LogScope :=
  match Text.cut '=' field with
  | _ :: value :: _ =>
    match valueFault? value with
    | none => .ok .span
    | some fault => .error (.field fault)
  | _ => .ok (if inSpan then .span else .field (String.ofList field))

/-- What follows an opening bracket: a span, then perhaps a field, and the closing bracket. The field is judged before what
is behind it. -/
def bracket (whole : List Char) (target : String) (place : Nat) (rest : List Char) :
    Except LogDirectiveFault LogDirective :=
  let (span, rest) := rest.span fun c => c != ']' && c != '\x7b'
  let start := place + Text.byteSize span + 1
  match rest with
  | ']' :: rest => finish whole target .span start rest
  | '\x7b' :: rest =>
    match rest.span (· != '\x7d') with
    | ([], _) => .error .malformed
    | (field, '\x7d' :: rest) =>
      let stop := start + Text.byteSize field
      match fieldScope (!span.isEmpty) (Text.between start stop whole), rest with
      | .error fault, _ => .error fault
      | .ok scope, ']' :: rest => finish whole target scope (stop + 2) rest
      | .ok _, _ => .error .malformed
    | _ => .error .malformed
  | _ => .error .malformed

/-- Reads a directive. -/
def parse (text : String) : Except LogDirectiveFault LogDirective :=
  let whole := text.toList
  let shape := Text.trim whole
  let (head, rest) := shape.span fun c => c != '=' && c != '['
  let place := Text.byteSize head
  let target := String.ofList (Text.upToByte place whole)
  if (shape.head?.map isFirstChar).getD false then
    match rest with
    | [] => .ok (match detail? whole with
      | some detail => ⟨"", .any, detail⟩
      | none => ⟨text, .any, everything⟩)
    | '[' :: rest => bracket whole target (place + 1) rest
    | rest => finish whole target .any place rest
  else .error .malformed

end LogDirective

end Supervision
