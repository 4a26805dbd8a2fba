import Mathlib.Data.Int.Notation
import Mathlib.Data.Nat.Notation

/-!
# JSON values as the gateway reads them

Every message is a line of text that `serde_json` turns into a tree. The tree
keeps the members of an object in the order of the text, repetitions included:
a `Value` sees only the last member of a repeated key, while a typed record
refuses to be read from a repeated field. The text reader and the printer
themselves belong to the library and stay parameters.
-/

namespace SentinelGateway

/-- `serde_json::Number`: a nonnegative integer that fits 64 bits, a negative one,
or any other number, written as a decimal mantissa and exponent. -/
inductive Number where
  | posInt (n : UInt64)
  | negInt (n : ℤ)
  | float (mantissa exponent : ℤ)
  deriving DecidableEq

/-- `serde_json::Value`, with the members of an object in textual order. -/
inductive Json where
  | null
  | bool (b : Bool)
  | number (n : Number)
  | string (s : String)
  | array (items : List Json)
  | object (members : List (String × Json))

namespace Json

/-- The member a `Value` map holds for a key: inserting the members in order
leaves the last one of each key. -/
def lastMember (key : String) : List (String × Json) → Option Json
  | [] => none
  | (k, v) :: rest => (lastMember key rest).or (if k = key then some v else none)

/-- `Value::get` with a string index, defined on objects only. -/
def get (key : String) : Json → Option Json
  | .object members => lastMember key members
  | _ => none

/-- `Value::as_str`. -/
def asStr : Json → Option String
  | .string s => some s
  | _ => none

/-- `Value::as_u64`: only nonnegative integers that fit are read as such. -/
def asU64 : Json → Option UInt64
  | .number (.posInt n) => some n
  | _ => none

/-- A member read by `Value::get` comes from an object. -/
theorem exists_object_of_get {key : String} {v w : Json} (h : v.get key = some w) :
    ∃ members, v = .object members := by
  cases v with
  | object members => exact ⟨members, rfl⟩
  | null | bool _ | number _ | string _ | array _ => simp [get] at h

/-- A typed record reads each of its fields at most once: `none` is the
duplicate-field error, `some none` an absent field. -/
def uniqueField (key : String) (members : List (String × Json)) : Option (Option Json) :=
  match members.filter fun member => member.1 = key with
  | [] => some none
  | [member] => some (some member.2)
  | _ => none

/-- A field of a type without a default: an absent one is an error. -/
def required {α : Type} (decode : Json → Option α) (field : Option Json) : Option α :=
  field.bind decode

/-- A field of type `Option`: an absent one and a JSON `null` both read as `None`. -/
def optional {α : Type} (decode : Json → Option α) : Option Json → Option (Option α)
  | none => some none
  | some .null => some none
  | some v => (decode v).map some

end Json

/-- The functions of `serde_json` the gateway calls on text. `fromStr` reads a
line into a tree or reports why it is not JSON, `toString` prints a tree, and
`dataError` is the message of a typed read that fails on well-formed JSON. -/
structure SerdeJson where
  fromStr : String → Except String Json
  toString : Json → String
  dataError : String → String

/-- A typed `serde_json::from_str`: the text must be JSON and the tree must
decode to the wanted record. -/
def SerdeJson.read {α : Type} (serde : SerdeJson) (decode : Json → Option α)
    (text : String) : Except String α :=
  match serde.fromStr text with
  | .error e => .error e
  | .ok v =>
    match decode v with
    | some a => .ok a
    | none => .error (serde.dataError text)

namespace Json

/-- A character of a string in JSON text. -/
def escapeChar (c : Char) : List Char :=
  if c = '"' ∨ c = '\\' then ['\\', c]
  else if 32 ≤ c.toNat then [c]
  else
    match c.toNat with
    | 8 => ['\\', 'b']
    | 9 => ['\\', 't']
    | 10 => ['\\', 'n']
    | 12 => ['\\', 'f']
    | 13 => ['\\', 'r']
    | n => ['\\', 'u', '0', '0', Nat.digitChar (n / 16), Nat.digitChar (n % 16)]

/-- A string in JSON text. -/
def stringChars (s : String) : List Char := '"' :: s.toList.flatMap escapeChar ++ ['"']

/-- A number in JSON text. Numbers that are no integers are written with an exponent. -/
def numberChars : Number → List Char
  | .posInt n => Nat.toDigits 10 n.toNat
  | .negInt n => (toString n).toList
  | .float mantissa exponent => (toString mantissa).toList ++ 'e' :: (toString exponent).toList

mutual

/-- A value in JSON text without blanks, the members of an object in their order. -/
def chars : Json → List Char
  | .null => "null".toList
  | .bool b => if b then "true".toList else "false".toList
  | .number n => numberChars n
  | .string s => stringChars s
  | .array items => '[' :: itemsChars items ++ [']']
  | .object members => '{' :: membersChars members ++ ['}']

def itemsChars : List Json → List Char
  | [] => []
  | [item] => item.chars
  | item :: rest => item.chars ++ ',' :: itemsChars rest

def membersChars : List (String × Json) → List Char
  | [] => []
  | [(key, value)] => stringChars key ++ ':' :: value.chars
  | (key, value) :: rest => stringChars key ++ ':' :: value.chars ++ ',' :: membersChars rest

end

/-- The compact text of a value. The list of its bytes is written out, since
`String.ofList` appends byte by byte, which is slow to compute with. -/
def text (v : Json) : String :=
  .ofByteArray ⟨⟨v.chars.flatMap String.utf8EncodeChar⟩⟩
    (.intro v.chars (ByteArray.ext (by rw [List.utf8Encode, List.data_toByteArray])))

theorem text_eq (v : Json) : v.text = String.ofList v.chars := by
  rw [← String.toByteArray_inj, String.toByteArray_ofList]
  refine ByteArray.ext ?_
  rw [List.utf8Encode, List.data_toByteArray]
  rfl

example : (Json.object [("id", .number (.posInt 7)), ("a\n", .array [.null])]).text =
    "\x7b\"id\":7,\"a\\n\":[null]\x7d" := by
  decide +kernel

end Json

/-- A printer that writes compact text, and a reader that knows the texts of the listed
values only: all that a concrete session needs. -/
def SerdeJson.ofValues (values : List Json) : SerdeJson where
  fromStr text := match values.find? fun v => v.text = text with
    | some v => .ok v
    | none => .error "expected value at line 1 column 1"
  toString := Json.text
  dataError _ := "invalid type"

end SentinelGateway
