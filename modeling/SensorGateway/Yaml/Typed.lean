import SensorGateway.Decimal.Numeral
import SensorGateway.Yaml.Document

/-!
Typed values of a document.

A plain scalar has the type that is asked for, if it is spelled as one; a quoted or folded scalar is
always text, and a literal block is a number only under the tag of that kind of number. Text is what
every scalar has, whatever its style. An alias stands for its node.
-/

set_option autoImplicit false

namespace SensorGateway.Yaml

/-- The node that a value stands for. -/
def Document.follow (d : Document) : Value → Value
  | .reference id => (d.anchors.target? id).getD (.scalar none "" .plain)
  | v => v

/-- A reader of one type. -/
abbrev Reader (α : Type) := Document → Value → Option α

/-! ## Scalars -/

/-- The full name of a standard tag. -/
def standardTag (name : String) : String := "tag:yaml.org,2002:" ++ name

/-- **The text of any scalar.** -/
def readText : Reader String := fun d v =>
  match d.follow v with
  | .scalar _ text _ => some text
  | _ => none

/-- The text of a scalar that may be of another type than text. -/
def readTyped (tagName : String) : Reader String := fun d v =>
  match d.follow v with
  | .scalar _ text .plain => some text
  | .scalar (some tag) text .literal => if tag = standardTag tagName then some text else none
  | _ => none

/-- Reads a scalar's text by a function. -/
def readTextBy {α : Type} (f : String → Option α) : Reader α := fun d v => (readText d v).bind f

/-! ## Numbers -/

/-- The digits behind a mark of their base, if a text has one. -/
def basedDigits? : List Char → Option (Nat × List Char)
  | '0' :: 'x' :: ds => some (16, ds)
  | '0' :: 'o' :: ds => some (8, ds)
  | '0' :: 'b' :: ds => some (2, ds)
  | _ => none

/-- Whether digits have a zero in front, which makes them text. -/
def hasLeadingZero (ds : List Char) : Bool :=
  1 < ds.length && ds.head? == some '0' && ds.all Char.isDigit

/-- **A natural number:** decimal, or in a marked base, with at most one plus sign. -/
def natural? (max : Nat) (s : String) : Option Nat :=
  let body := match s.toList with
    | '+' :: rest => rest
    | cs => cs
  let value := match basedDigits? body with
    | some (base, ds) => Text.digits? base ds
    | none => if hasLeadingZero body then none else Text.digits? 10 body
  value.filter (· ≤ max)

/-- **An integer:** like a natural number, and with a minus sign in front where it is negative. -/
def integer? (lo hi : Int) (s : String) : Option Int :=
  let unsigned (body : List Char) : Option Nat := match basedDigits? body with
    | some (base, ds) => Text.digits? base ds
    | none => if hasLeadingZero body then none else Text.digits? 10 body
  let value : Option Int := match s.toList with
    | '-' :: rest => (unsigned rest).map fun n => -(n : Int)
    | '+' :: rest => (unsigned rest).map Int.ofNat
    | cs => (unsigned cs).map Int.ofNat
  value.filter fun n => lo ≤ n && n ≤ hi

/-- The words for infinity and for no number. -/
def floatWord? : String → Option (Binary .double)
  | ".inf" => some (Decimal.Numeral.infinite false).round
  | ".Inf" => some (Decimal.Numeral.infinite false).round
  | ".INF" => some (Decimal.Numeral.infinite false).round
  | "+.inf" => some (Decimal.Numeral.infinite false).round
  | "+.Inf" => some (Decimal.Numeral.infinite false).round
  | "+.INF" => some (Decimal.Numeral.infinite false).round
  | "-.inf" => some (Decimal.Numeral.infinite true).round
  | "-.Inf" => some (Decimal.Numeral.infinite true).round
  | "-.INF" => some (Decimal.Numeral.infinite true).round
  | ".nan" => some Binary.nan
  | ".NaN" => some Binary.nan
  | ".NAN" => some Binary.nan
  | _ => none

/-- **A floating number:** a word, or a decimal numeral that is finite in 64 bits. -/
def float? (s : String) : Option (Binary .double) :=
  match floatWord? s with
  | some x => some x
  | none =>
    match Decimal.Numeral.read? s with
    | some (.finite negative digits e) =>
      let x : Binary .double := (Decimal.Numeral.finite negative digits e).round
      if x.unsigned = BinaryFormat.double.infinityBits then none else some x
    | _ => none

/-- A natural number of at most `max`. -/
def readNatural (max : Nat) : Reader Nat := fun d v => (readTyped "int" d v).bind (natural? max)

/-- An integer between two bounds. -/
def readInteger (lo hi : Int) : Reader Int := fun d v =>
  (readTyped "int" d v).bind (integer? lo hi)

/-- A floating number of 64 bits. -/
def readFloat : Reader (Binary .double) := fun d v => (readTyped "float" d v).bind float?

/-! ## Truth, absence and choice -/

/-- The words for true and false. -/
def bool? : String → Option Bool
  | "true" => some true
  | "True" => some true
  | "TRUE" => some true
  | "false" => some false
  | "False" => some false
  | "FALSE" => some false
  | _ => none

/-- True or false. -/
def readBool : Reader Bool := fun d v => (readTyped "bool" d v).bind bool?

/-- The words for nothing. -/
def isNullWord (s : String) : Bool := s = "null" || s = "Null" || s = "NULL" || s = "~"

/-- **A value that may be missing.** Nothing is written as an empty plain scalar or a word for it. -/
def readOptional {α : Type} (r : Reader α) : Reader (Option α) := fun d v =>
  match d.follow v with
  | .scalar none text .plain =>
    if text = "" || isNullWord text then some none else (r d v).map some
  | .scalar (some tag) text .plain =>
    if tag = standardTag "null" then (if isNullWord text then some none else none)
    else (r d v).map some
  | _ => (r d v).map some

/-- **One of several names:** as the text of a scalar, or as a local tag on nothing. -/
def readChoice {α : Type} (f : String → Option α) : Reader α := fun d v =>
  match d.follow v with
  | .scalar (some tag) text style =>
    if tag.startsWith "!" then
      if style = .plain && (text = "" || isNullWord text) then
        f (String.ofList (tag.toList.drop 1))
      else none
    else f text
  | .scalar none text _ => f text
  | _ => none

/-! ## Sections -/

/-- A key of a section and what its value does. -/
structure SectionField (σ : Type) where
  name : String
  read : Reader (σ → σ)

/-- A field whose value is read and then set. -/
def SectionField.of {σ α : Type} (name : String) (r : Reader α) (set : α → σ → σ) : SectionField σ :=
  ⟨name, fun d v => (r d v).map set⟩

/-- Reads the pairs of a section in order. `seen` are the known keys met before; a known key may not
come twice, and an unknown one is passed over with its value. -/
def readPairs {σ : Type} (fields : List (SectionField σ)) (d : Document) :
    (seen : List String) → σ → List (Value × Value) → Option σ
  | _, s, [] => some s
  | seen, s, (k, v) :: rest =>
    match readText d k with
    | none => none
    | some key =>
      match fields.find? (·.name = key) with
      | none => readPairs fields d seen s rest
      | some field =>
        if seen.contains key then none
        else match field.read d v with
          | none => none
          | some set => readPairs fields d (key :: seen) (set s) rest

/-- **A section over its defaults:** a mapping, or nothing. -/
def readSection {σ : Type} (fields : List (SectionField σ)) (base : σ) : Reader σ := fun d v =>
  match d.follow v with
  | .mapping _ pairs => readPairs fields d [] base pairs
  | .scalar _ "" .plain => some base
  | _ => none

end SensorGateway.Yaml
