import CostPlatform.Library.PyString
import Mathlib.Algebra.Order.Field.Rat
import Mathlib.Data.Rat.Defs

/-!
# JSON values as Python sees them

The values `json.loads` builds and `json.dumps` takes, with their truth values and printed forms.
The parser, the printers of containers and `float()` are a `Runtime`: what they return or raise is
left open.
-/

namespace PyJson

/-- A `float`.  Finite ones are taken as rationals. -/
inductive PyFloat where
  | Finite (value : ℚ)
  | PosInf
  | NegInf
  | NaN
  deriving DecidableEq, Repr

/-- A JSON value.  A float keeps its printed form; keys of an object are in insertion order. -/
inductive Json where
  | Null
  | Boolean (value : Bool)
  | Integer (value : ℤ)
  | Float (value : PyFloat) (text : String)
  | Text (value : String)
  | Items (items : List Json)
  | Dict (entries : List (String × Json))
  deriving Repr

/-- `bool(value)`. -/
def Json.truthy : Json → Bool
  | .Null => false
  | .Boolean value => value
  | .Integer value => value ≠ 0
  | .Float value _ => value ≠ .Finite 0
  | .Text value => value ≠ ""
  | .Items items => !items.isEmpty
  | .Dict entries => !entries.isEmpty

/-- `entries.get(key)`. -/
def lookup (entries : List (String × Json)) (key : String) : Option Json :=
  (entries.find? fun entry => entry.1 = key).map Prod.snd

/-- `entries[key] = value`: in its place where the key is there, at the end where it is not. -/
def setItem : List (String × Json) → String → Json → List (String × Json)
  | [], key, value => [(key, value)]
  | entry :: entries, key, value =>
      if entry.1 = key then (key, value) :: entries else entry :: setItem entries key value

@[simp] lemma lookup_nil (key : String) : lookup [] key = none := rfl

lemma lookup_cons (entry : String × Json) (entries : List (String × Json)) (key : String) :
    lookup (entry :: entries) key = if entry.1 = key then some entry.2 else lookup entries key := by
  by_cases h : entry.1 = key <;> simp [lookup, h]

lemma mem_of_lookup_eq_some {entries : List (String × Json)} {key : String} {value : Json}
    (h : lookup entries key = some value) : (key, value) ∈ entries := by
  induction entries with
  | nil => cases h
  | cons entry entries ih =>
      rw [lookup_cons] at h
      split_ifs at h with hkey
      · cases h
        exact hkey ▸ List.mem_cons_self
      · exact List.mem_cons_of_mem entry (ih h)

@[simp] lemma lookup_setItem (entries : List (String × Json)) (key : String) (value : Json)
    (name : String) :
    lookup (setItem entries key value) name
      = if name = key then some value else lookup entries name := by
  induction entries with
  | nil => simp [setItem, lookup, eq_comm]
  | cons entry entries ih =>
      rw [setItem]
      split_ifs with hkey hname hname
      · simp [lookup_cons, hname]
      · simp only [lookup_cons, hkey, if_neg (Ne.symm hname)]
      · have hentry : entry.1 ≠ name := fun h => hkey (h.trans hname)
        rw [lookup_cons, if_neg hentry, ih, if_pos hname]
      · rw [lookup_cons, lookup_cons, ih, if_neg hname]

mutual

/-- How many values a value is made of, the keys of its objects included. -/
def Json.weight : Json → Nat
  | .Null => 1
  | .Boolean _ => 1
  | .Integer _ => 1
  | .Float _ _ => 1
  | .Text _ => 1
  | .Items items => 1 + itemsWeight items
  | .Dict entries => 1 + entriesWeight entries

def itemsWeight : List Json → Nat
  | [] => 0
  | item :: items => item.weight + itemsWeight items

def entriesWeight : List (String × Json) → Nat
  | [] => 0
  | (_, value) :: entries => 1 + value.weight + entriesWeight entries

end

lemma Json.weight_pos (value : Json) : 0 < value.weight := by
  cases value <;> simp only [Json.weight] <;> omega

lemma itemsWeight_eq (items : List Json) : itemsWeight items = (items.map Json.weight).sum := by
  induction items with
  | nil => simp [itemsWeight]
  | cons item items ih => simp [itemsWeight, ih]

lemma entriesWeight_eq (entries : List (String × Json)) :
    entriesWeight entries
      = (entries.map fun entry => (Json.Text entry.1).weight).sum
        + (entries.map fun entry => entry.2.weight).sum := by
  induction entries with
  | nil => simp [entriesWeight]
  | cons entry entries ih =>
      simp only [entriesWeight, ih, List.map_cons, List.sum_cons, Json.weight]
      omega

/-- What `json.loads` raises: a decoding error, or something else (a nesting or digit limit). -/
inductive JsonError where
  | JSONDecodeError
  | Other (exception : String)
  deriving DecidableEq, Repr

/-- What `float()` raises. -/
inductive FloatError where
  | ValueError
  | TypeError
  | Other (exception : String)
  deriving DecidableEq, Repr

/-- The parts of the interpreter that are left open. -/
structure Runtime where
  jsonLoads : String → Except JsonError Json
  /-- `json.dumps(value, default=str, sort_keys=True)`, or the exception it raises. -/
  jsonDumps : Json → Except String String
  float : Json → Except FloatError PyFloat
  /-- The printed form of a list or an object. -/
  repr : Json → String

/-- `str(value)`. -/
def Runtime.str (runtime : Runtime) : Json → String
  | .Null => "None"
  | .Boolean true => "True"
  | .Boolean false => "False"
  | .Integer value => toString value
  | .Float _ text => text
  | .Text value => value
  | .Items items => runtime.repr (.Items items)
  | .Dict entries => runtime.repr (.Dict entries)

end PyJson
