import TransactionGateway.Decimal.Numeral
import TransactionGateway.Decimal.Shortest
import TransactionGateway.Text.Numeral
import TransactionGateway.Yaml.Node

/-! # What scalars mean

* **Plain scalars.** Some words mean null or a truth value. Whole numbers are decimal, or binary,
  octal or hexadecimal behind `0b`, `0o` or `0x`; digits behind a leading zero are no number. Other
  decimal notation with a finite value, and the words for infinities and for no number, are floats.
  Everything else is text.
* **Tags.** The tags of truth values, whole numbers, floats and null demand such a scalar, whatever
  its style. Any other tag of the format, and any style but the plain one, make a scalar text. A tag
  that begins with `!` leaves a plain scalar what it is. -/

namespace TransactionGateway.Yaml

open TransactionGateway.Text

/-- A float: a finite number, an infinity or no number. -/
inductive FloatValue where
  | finite (x : Decimal.Binary64)
  | infinity (negative : Bool)
  | notANumber
deriving DecidableEq, Repr

namespace FloatValue

/-- The text of a float. -/
def text : FloatValue → String
  | finite x => x.text
  | infinity negative => if negative then "-inf" else "inf"
  | notANumber => "NaN"

end FloatValue

/-- What a scalar means. -/
inductive Meaning where
  | null
  | boolean (b : Bool)
  | integer (i : Int)
  | float (x : FloatValue)
  | text (s : String)
deriving DecidableEq, Repr

/-- The kinds of meaning that a tag can demand. -/
inductive Demand where
  | boolean
  | integer
  | float
  | null
deriving DecidableEq, Repr

namespace Demand

/-- The wording of what is demanded. -/
def text : Demand → String
  | boolean => "a boolean"
  | integer => "an integer"
  | float => "a float"
  | null => "null"

/-- The tag of a demand. -/
def tag : Demand → Octets
  | boolean => octetsOf "tag:yaml.org,2002:bool".toList
  | integer => octetsOf "tag:yaml.org,2002:int".toList
  | float => octetsOf "tag:yaml.org,2002:float".toList
  | null => octetsOf "tag:yaml.org,2002:null".toList

/-- The demand that a tag makes. -/
def ofTag? (tag : Octets) : Option Demand :=
  [boolean, integer, float, null].find? (·.tag == tag)

end Demand

namespace Meaning

/-- The text is a word for null. -/
def isNull (s : List Char) : Bool :=
  ["null", "Null", "NULL", "~"].any fun word => word.toList == s

/-- The truth value of a word. -/
def boolean? (s : List Char) : Option Bool :=
  if ["true", "True", "TRUE"].any (·.toList == s) then some true
  else if ["false", "False", "FALSE"].any (·.toList == s) then some false
  else none

/-- Digits behind a leading zero, with a sign or without. -/
def isZeroPadded (s : List Char) : Bool :=
  let s :=
    match s with
    | '-' :: r => r
    | '+' :: r => r
    | s => s
  match s with
  | '0' :: d :: r => (d :: r).all Char.isDigit
  | _ => false

/-- A sign comes first. -/
def isSigned (s : List Char) : Bool := oneAhead ['+', '-'] s

/-- The radix that a text names and the text behind it. -/
def radix? : List Char → Option (Nat × List Char)
  | '0' :: 'x' :: r => some (16, r)
  | '0' :: 'o' :: r => some (8, r)
  | '0' :: 'b' :: r => some (2, r)
  | _ => none

/-- A whole number without a minus sign, of at most `bound`. -/
def natural? (bound : Nat) (s : List Char) : Option Nat :=
  let positive :=
    match s with
    | '+' :: r => r
    | s => s
  match radix? positive with
  | some (radix, r) => if isSigned r then none else (readNatural radix bound r).toOption
  | none =>
    if isSigned positive || isZeroPadded s then none
    else (readNatural 10 bound positive).toOption

/-- A whole number with a minus sign, of at least `-bound`. -/
def negative? (bound : Nat) (s : List Char) : Option Int :=
  match s with
  | '-' :: r =>
    match radix? r with
    | some (radix, r) => (readInteger radix 0 bound ('-' :: r)).toOption
    | none => if isZeroPadded s then none else (readInteger 10 0 bound s).toOption
  | _ => none

/-- A whole number of at most 128 bits. -/
def integer? (s : List Char) : Option Int :=
  match natural? largest128 s with
  | some n => some n
  | none => negative? (largest128 / 2 + 1) s

/-- A float. -/
def float? (s : List Char) : Option FloatValue :=
  let positive :=
    match s with
    | '+' :: r => r
    | s => s
  if s.head? = some '+' ∧ isSigned positive then none
  else if [".inf", ".Inf", ".INF"].any (·.toList == positive) then some (.infinity false)
  else if ["-.inf", "-.Inf", "-.INF"].any (·.toList == s) then some (.infinity true)
  else if [".nan", ".NaN", ".NAN"].any (·.toList == s) then some .notANumber
  else (Decimal.read positive).map .finite

/-- The meaning of a plain scalar. -/
def ofPlain (s : String) : Meaning :=
  let cs := s.toList
  if cs = [] || isNull cs then .null
  else
    match boolean? cs with
    | some b => .boolean b
    | none =>
      match integer? cs with
      | some i => .integer i
      | none =>
        if isZeroPadded cs then .text s
        else
          match float? cs with
          | some x => .float x
          | none => .text s

/-- The meaning of a scalar of which a kind of meaning is demanded. -/
def ofDemanded (demand : Demand) (s : String) : Option Meaning :=
  match demand with
  | .boolean => (boolean? s.toList).map .boolean
  | .integer => (integer? s.toList).map .integer
  | .float => (float? s.toList).map .float
  | .null => if isNull s.toList then some .null else none

/-- The tag is the writer's own. -/
def isOwnTag (tag : Octets) : Bool := tag.head? == some 0x21

/-- The meaning of a scalar, or the demand that it does not meet. -/
def ofScalar (tag : Option Octets) (s : String) (style : Style) : Except Demand Meaning :=
  let untagged := if style = .plain then ofPlain s else .text s
  match tag with
  | none => .ok untagged
  | some tag =>
    match Demand.ofTag? tag with
    | some demand =>
      match ofDemanded demand s with
      | some m => .ok m
      | none => .error demand
    | none => .ok (if isOwnTag tag then untagged else .text s)

end Meaning

end TransactionGateway.Yaml
