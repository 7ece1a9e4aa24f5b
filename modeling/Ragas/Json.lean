import Mathlib.Algebra.Order.Field.Rat

/-!
# Python values read by the metrics and the cost parser

The modelled code reads the values that `json.loads` gives back through
`json_loader.safe_load`, provider metadata mappings and dataset rows. They are
`Json` here: `None`, booleans, Python `int` and `float`, strings, lists and
string-keyed dicts. A JSON float is kept as its exact rational value; the
non-finite floats are not modelled. A dict is the list of insertions that built
it, so a key bound twice keeps its last value and its first position, as both
`dict(pairs)` and `json.loads` do.

`PyError` names the exceptions the modelled code raises, with the texts Python
gives them, and `Score` is a metric's float result: NumPy's NaN or a value.
Prices in `TokenUsage.cost` are Python floats proper, Lean's `Float`, and
`pyFloatOfInt` is the conversion `int * float` makes.
-/

namespace Ragas

/-- The exceptions the modelled code raises. -/
inductive PyError where
  | assertionError (msg : String)
  | attributeError (msg : String)
  | indexError (msg : String)
  | keyError (key : String)
  | overflowError (msg : String)
  | typeError (msg : String)
  | valueError (msg : String)
  /-- pydantic's `ValidationError` for the named model. -/
  | validationError (model : String)
  /-- tenacity's `RetryError`, holding the exception of the last attempt. -/
  | retryError (last : PyError)
  /-- An exception raised inside the language-model provider. -/
  | providerError (msg : String)
  deriving DecidableEq, Repr

/-- A Python `dict` with string keys, as the list of insertions that built it. -/
abbrev PyDict (α : Type) := List (String × α)

namespace PyDict
variable {α : Type}

/-- `d.get(key)`: the value of the last insertion of `key`. -/
def get? : PyDict α → String → Option α
  | [], _ => none
  | (k, v) :: d, key =>
      match get? d key with
      | some w => some w
      | none => if k = key then some v else none

def getItem (d : PyDict α) (key : String) : Except PyError α :=
  match get? d key with
  | some v => pure v
  | none => throw (.keyError key)

/-- The keys in iteration order, each where it was first inserted. -/
def keys (d : PyDict α) : List String := (d.map Prod.fst).eraseDups

theorem getItem_eq_ok {d : PyDict α} {key : String} {v : α} :
    getItem d key = .ok v ↔ get? d key = some v := by
  unfold getItem
  cases get? d key <;> simp [pure, Except.pure, throw, throwThe, MonadExceptOf.throw]

@[simp] theorem get?_nil (key : String) : get? ([] : PyDict α) key = none := rfl

theorem get?_append_of_get? {d e : PyDict α} {key : String} {v : α}
    (h : get? e key = some v) : get? (d ++ e) key = some v := by
  induction d with
  | nil => exact h
  | cons kv d ih => rw [List.cons_append, get?, ih]

theorem get?_append_of_none {d e : PyDict α} {key : String}
    (h : get? e key = none) : get? (d ++ e) key = get? d key := by
  induction d with
  | nil => exact h
  | cons kv d ih => rw [List.cons_append, get?, get?, ih]

end PyDict

/-- A value of `json.loads`. -/
inductive Json where
  | null
  | bool (b : Bool)
  | int (n : ℤ)
  | float (x : ℚ)
  | str (s : String)
  | arr (xs : List Json)
  | obj (kvs : List (String × Json))
  deriving Repr, Inhabited

def PyError.noAttribute (typeName attr : String) : PyError :=
  .attributeError ("'" ++ typeName ++ "' object has no attribute '" ++ attr ++ "'")

namespace Json

def typeName : Json → String
  | null => "NoneType"
  | bool _ => "bool"
  | int _ => "int"
  | float _ => "float"
  | str _ => "str"
  | arr _ => "list"
  | obj _ => "dict"

/-- `v.get(key, default)`: only a dict has `get`. -/
def get (v : Json) (key : String) (default : Json) : Except PyError Json :=
  match v with
  | obj d => pure ((PyDict.get? d key).getD default)
  | v => throw (.noAttribute v.typeName "get")

/-- `iter(v)`: a list gives its items, a string its characters, a dict its keys. -/
def iter : Json → Except PyError (List Json)
  | arr xs => pure xs
  | str s => pure (s.data.map fun c => str (String.singleton c))
  | obj d => pure ((PyDict.keys d).map str)
  | v => throw (.typeError ("'" ++ v.typeName ++ "' object is not iterable"))

end Json

/-- `sep.join(iterable)`: every item must be a string. -/
def pyJoin (sep : String) (iterable : Json) : Except PyError String := do
  let items ← match iterable.iter with
    | .ok items => pure items
    | .error _ => throw (.typeError "can only join an iterable")
  let strs ← items.enum.mapM fun (i, v) =>
    match v with
    | .str s => pure s
    | v => throw (.typeError ("sequence item " ++ toString i ++ ": expected str instance, " ++
        v.typeName ++ " found"))
  pure (sep.intercalate strs)

theorem mapM_enumFrom_str {f : ℕ × Json → Except PyError String}
    (hf : ∀ i s, f (i, .str s) = .ok s) :
    ∀ (strs : List String) (n : ℕ), ((strs.map Json.str).enumFrom n).mapM f = .ok strs
  | [], _ => rfl
  | s :: strs, n => by
      simp only [List.map_cons, List.enumFrom_cons, List.mapM_cons, hf,
        mapM_enumFrom_str hf strs (n + 1)]
      rfl

theorem pyJoin_strs (sep : String) (strs : List String) :
    pyJoin sep (.arr (strs.map .str)) = .ok (sep.intercalate strs) := by
  simp only [pyJoin, Json.iter, List.enum, pure, Except.pure, bind, Except.bind]
  rw [mapM_enumFrom_str]
  intro _ _
  rfl

def pySplit (sep : Char) (text : String) : List String :=
  go [] text.data
where
  go (acc : List Char) : List Char → List String
    | [] => [⟨acc.reverse⟩]
    | c :: cs => if c = sep then ⟨acc.reverse⟩ :: go [] cs else go (c :: acc) cs

/-- Modelled from the spec (§4.5): `ragas.utils.get_from_dict` is not under src/. It reads a
dotted key path, and the default stands where the path is absent. -/
def getFromDict (d : Json) (key : String) (default : Json) : Json :=
  go d (pySplit '.' key)
where
  go : Json → List String → Json
    | v, [] => v
    | .obj d, k :: ks =>
        match PyDict.get? d k with
        | some v => go v ks
        | none => default
    | _, _ :: _ => default

/-- Python's `str.lower` as ASCII case folding, which agrees with Python's on the words the
modelled code compares a lowered string with. -/
def pyLower (s : String) : String := ⟨s.data.map Char.toLower⟩

/-- `float(n)` as `int * float` converts it: rounded to nearest, ties to even, with a sticky
bit for the bits below the top 64, and `OverflowError` past the largest double. -/
def pyFloatOfInt (n : ℤ) : Except PyError Float :=
  let m := n.natAbs
  let s := m.log2 - 63
  let sticky := if m % 2 ^ s = 0 then 0 else 1
  let x := ((m >>> s ||| sticky).toUInt64.toFloat).scaleB s
  if x.isInf then throw (.overflowError "int too large to convert to float")
  else pure (if n < 0 then -x else x)

/-- A metric's float result: NumPy's NaN or a value, computed exactly. -/
inductive Score where
  | nan
  | value (q : ℚ)
  deriving DecidableEq, Repr

/-- `x + y` on Python numbers, where NaN absorbs. -/
def Score.add : Score → Score → Score
  | .value a, .value b => .value (a + b)
  | _, _ => .nan

@[simp] theorem Score.add_value (a b : ℚ) : (Score.value a).add (.value b) = .value (a + b) := rfl

@[simp] theorem Score.add_nan (x : Score) : x.add .nan = .nan := by cases x <;> rfl

@[simp] theorem Score.nan_add (x : Score) : Score.nan.add x = .nan := rfl

def Score.div : Score → ℕ → Score
  | .value a, k => .value (a / k)
  | .nan, _ => .nan

@[simp] theorem Score.div_value (a : ℚ) (k : ℕ) : (Score.value a).div k = .value (a / k) := rfl

@[simp] theorem Score.div_nan (k : ℕ) : Score.nan.div k = .nan := rfl

/-- In `[0, 1]` or NaN: the range every metric promises. -/
def Score.InUnit : Score → Prop
  | .nan => True
  | .value q => 0 ≤ q ∧ q ≤ 1

theorem Score.inUnit_ratio {c n : ℕ} (h : c ≤ n) : (Score.value ((c : ℚ) / n)).InUnit :=
  ⟨div_nonneg (Nat.cast_nonneg c) (Nat.cast_nonneg n),
    div_le_one_of_le₀ (Nat.cast_le.mpr h) (Nat.cast_nonneg n)⟩

theorem bind_eq_ok {α β : Type} {x : Except PyError α} {f : α → Except PyError β} {b : β} :
    x >>= f = .ok b ↔ ∃ a, x = .ok a ∧ f a = .ok b := by
  cases x <;> simp [bind, Except.bind]

theorem mapM_except_ok {α β : Type} {f : α → Except PyError β} :
    ∀ {xs : List α} {ys : List β}, xs.mapM f = .ok ys →
      ys.length = xs.length ∧ ∀ y ∈ ys, ∃ x ∈ xs, f x = .ok y
  | [], ys, h => by cases h; simp
  | x :: xs, ys, h => by
      rw [List.mapM_cons] at h
      obtain ⟨y, hx, h⟩ := bind_eq_ok.mp h
      obtain ⟨ys', hxs, h⟩ := bind_eq_ok.mp h
      cases h
      obtain ⟨hlen, hmem⟩ := mapM_except_ok hxs
      refine ⟨by simp [hlen], ?_⟩
      rintro z (_ | ⟨_, hz⟩)
      · exact ⟨x, List.mem_cons_self _ _, hx⟩
      · obtain ⟨w, hw, hfw⟩ := hmem z hz
        exact ⟨w, List.mem_cons_of_mem _ hw, hfw⟩

end Ragas
