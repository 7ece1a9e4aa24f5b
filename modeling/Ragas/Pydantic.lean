import Ragas.Json

/-!
# The pydantic v1 validators behind the modelled models

`TokenUsage` and the Context Recall answers are pydantic v1 models. A parse
runs each field's value through the validator of the field's type and raises
one `ValidationError` when any field fails. These are the validators of `int`,
`bool` and `str` fields, the keyword arguments a nested model is built from,
and the root value of a custom-root model, on the values `json.loads` gives.

Python's `int(text)` is read with ASCII digits and `Char.isWhitespace`.
The text that `str(v)` makes of a number is not kept: a `str` field keeps the
value it accepted.
-/

namespace Ragas.Pydantic

def digitRun (acc : ℕ) : List Char → Option ℕ
  | [] => some acc
  | '_' :: c :: cs => if c.isDigit then digitRun (10 * acc + (c.toNat - '0'.toNat)) cs else none
  | c :: cs => if c.isDigit then digitRun (10 * acc + (c.toNat - '0'.toNat)) cs else none

def digits : List Char → Option ℕ
  | c :: cs => if c.isDigit then digitRun (c.toNat - '0'.toNat) cs else none
  | [] => none

def strip (cs : List Char) : List Char :=
  ((cs.dropWhile Char.isWhitespace).reverse.dropWhile Char.isWhitespace).reverse

/-- Python's `int(text)`: surrounding whitespace and an optional sign around the digits. -/
def parseInt (s : String) : Option ℤ :=
  match strip s.data with
  | '-' :: cs => (digits cs).map fun n => -(n : ℤ)
  | '+' :: cs => (digits cs).map Int.ofNat
  | cs => (digits cs).map Int.ofNat

/-- `int_validator`: an int passes; a bool or a float goes through `int(v)`, a float
truncating toward zero; a string longer than 4300 characters is refused before `int(v)`. -/
def intValidator : Json → Option ℤ
  | .int n => some n
  | .bool b => some (if b then 1 else 0)
  | .float x => some (x.num.tdiv x.den)
  | .str s => if 4300 < s.length then none else parseInt s
  | _ => none

def boolTrue : List String := ["1", "on", "t", "true", "y", "yes"]

def boolFalse : List String := ["0", "off", "f", "false", "n", "no"]

/-- `bool_validator`: a bool passes; any other value, lowered if a string, must be in
`BOOL_TRUE` or `BOOL_FALSE`, so a float `1` or `0` passes and a list or a dict fails. -/
def boolValidator : Json → Option Bool
  | .bool b => some b
  | .int n => if n = 1 then some true else if n = 0 then some false else none
  | .float x => if x = 1 then some true else if x = 0 then some false else none
  | .str s =>
      if pyLower s ∈ boolTrue then some true
      else if pyLower s ∈ boolFalse then some false
      else none
  | _ => none

/-- `str_validator`: a string passes, an int, bool or float is converted by `str(v)`. -/
def strValidator : Json → Option Json
  | .str s => some (.str s)
  | .int n => some (.int n)
  | .bool b => some (.bool b)
  | .float x => some (.float x)
  | _ => none

def kwargOf : Json → Option (String × Json)
  | .arr [.str k, v] => some (k, v)
  | .str s =>
      match s.data with
      | [a, b] => some (String.singleton a, .str (String.singleton b))
      | _ => none
  | .obj d =>
      match PyDict.keys d with
      | [a, b] => some (a, .str b)
      | _ => none
  | _ => none

/-- The keyword arguments `BaseModel.validate(value)` builds a nested model from: a dict
gives its own, anything else goes through `dict(value)`. -/
def kwargsOf : Json → Option (PyDict Json)
  | .obj d => some d
  | .arr xs => xs.mapM kwargOf
  | .str s => if s.isEmpty then some [] else none
  | _ => none

/-- The value `parse_obj` validates as `__root__` for a custom-root model: a dict whose only
key is `__root__` gives its value, any other value is the root itself. -/
def rootValue : Json → Json
  | .obj d =>
      if PyDict.keys d = ["__root__"] then (PyDict.get? d "__root__").getD (.obj d) else .obj d
  | v => v

end Ragas.Pydantic
