import Mathlib.Data.List.Sort
import Mathlib.Data.List.TakeWhile
import RmtPlatform.Data.Decimal
import RmtPlatform.Data.Json

/-! Values a caller may pass, and the text they are digested as.

Parameters are dictionaries of arbitrary values. `canonical` is
`json.dumps(.., allow_nan=False, sort_keys=True)`: it refuses what is not JSON and
dictionaries whose keys cannot be ordered, and it forgets the order of entries and
the difference between a tuple and a list. What the language does with values the
code never looks into is left to `Runtime`: nothing is assumed of it. -/
namespace RmtPlatform

/-! ### Floats -/

namespace FloatText

def digitsOf (cs : List Char) : Nat := (cs.filter Char.isDigit).foldl (fun n c => 10 * n + (c.toNat - 48)) 0

def isExponentMark (c : Char) : Bool := c = 'e' ∨ c = 'E'

/-- The number that the text is in the decimal system. -/
def decimal (x : FloatText) : Decimal :=
  let mantissa := x.text.takeWhile fun c => !isExponentMark c
  let exponent := x.text.dropWhile fun c => !isExponentMark c
  let decimals := ((mantissa.dropWhile (· ≠ '.')).filter Char.isDigit).length
  { coefficient := if mantissa.head? = some '-' then -digitsOf mantissa else digitsOf mantissa
    exponent := (if '-' ∈ exponent then -digitsOf exponent else digitsOf exponent : Int) - decimals }

/-- A whole number in units of `2 ^ -1074`, of which every float is a whole number. -/
def unitsOf (i : Int) : Int := i * 2 ^ 1074

/-- The float that `float` makes of the text, the nearest there is, in these units. -/
def units (x : FloatText) : Int :=
  let n := unitsOf x.decimal.coefficient * 10 ^ x.decimal.exponent.toNat
  let d : Int := 10 ^ (-x.decimal.exponent).toNat
  -- Fifty-three binary digits.
  let place : Int := 2 ^ (Nat.log2 (n / d).natAbs - 52)
  let nearest := Decimal.roundHalfEven n.natAbs (d * place) * place
  if n < 0 then -nearest else nearest

end FloatText

inductive PyKey where
  | str (s : String)
  | int (i : Int)
  | float (x : FloatText)
  | bool (b : Bool)
  | none
deriving DecidableEq

inductive PyVal where
  | none
  | bool (b : Bool)
  | int (i : Int)
  | float (x : FloatText)
  /-- An infinity or a NaN. -/
  | nonfinite
  | str (s : String)
  | list (items : List PyVal)
  | tuple (items : List PyVal)
  | dict (entries : List (PyKey × PyVal))
  /-- An object that is none of these, whether it can be hashed, and what copying it raises. -/
  | other (hashable : Bool) (copyError : Option String)

/-- A dictionary, in the order of insertion. -/
abbrev Dict := List (PyKey × PyVal)

/-- Whether `parameters[key]` is there. -/
def Dict.has (d : Dict) (key : String) : Bool := (d.lookup (.str key)).isSome

/-- `parameters.get(key)`, `None` where there is no entry. -/
def Dict.get (d : Dict) (key : String) : PyVal := (d.lookup (.str key)).getD .none

/-! ### Canonical text -/

namespace PyKey

def isStr : PyKey → Bool
  | str _ => true
  | _ => false

/-- The number a key is, in the units of floats. -/
def number : PyKey → Option Int
  | int i => some (FloatText.unitsOf i)
  | float x => some x.units
  | bool b => some (FloatText.unitsOf (if b then 1 else 0))
  | _ => Option.none

/-- Whether `sorted` can compare the keys of a dictionary. -/
def comparable (keys : List PyKey) : Bool :=
  keys.length ≤ 1 || keys.all isStr || keys.all fun k => k.number.isSome

def le : PyKey → PyKey → Bool
  | str s, str t => decide (s ≤ t)
  | k, l => decide (k.number.getD 0 ≤ l.number.getD 0)

def text : PyKey → String
  | str s => s
  | int i => String.ofList (Json.renderInt i)
  | float x => String.ofList x.text
  | bool true => "true"
  | bool false => "false"
  | none => "null"

end PyKey

namespace PyVal

mutual
/-- The tree `json.dumps` writes, keys sorted; `none` where it raises. -/
def toJson : PyVal → Option Json
  | none => some .null
  | bool b => some (.bool b)
  | int i => some (.int i)
  | float x => some (.float x)
  | nonfinite => Option.none
  | str s => some (.string s)
  | list items => (toJsonItems items).map .array
  | tuple items => (toJsonItems items).map .array
  | dict entries =>
    if PyKey.comparable (entries.map Prod.fst) then
      (toJsonEntries entries).map fun ms =>
        .object ((ms.insertionSort fun a b => a.1.le b.1).map fun m => (m.1.text, m.2))
    else Option.none
  | other _ _ => Option.none

def toJsonItems : List PyVal → Option (List Json)
  | [] => some []
  | v :: vs => do
    let j ← toJson v
    let js ← toJsonItems vs
    some (j :: js)

def toJsonEntries : List (PyKey × PyVal) → Option (List (PyKey × Json))
  | [] => some []
  | (k, v) :: rest => do
    let j ← toJson v
    let js ← toJsonEntries rest
    some ((k, j) :: js)
end

/-- The canonical text of a value. -/
def canonical (v : PyVal) : Option String := v.toJson.map fun j => String.ofList j.render

/-- One text, one tree. -/
theorem toJson_of_canonical {v w : PyVal} {s : String} (hv : v.canonical = some s) (hw : w.canonical = some s) :
    v.toJson = w.toJson := by
  obtain ⟨j, hj, rfl⟩ := Option.map_eq_some_iff.mp hv
  obtain ⟨k, hk, hs⟩ := Option.map_eq_some_iff.mp hw
  have : k.render = j.render := String.ofList_inj.mp hs
  rw [hj, hk, Json.render_injective this]

/-! ### Reading back -/

/-- Setting an entry keeps its place if the key is there. -/
def setEntry (k : PyKey) (v : PyVal) : List (PyKey × PyVal) → List (PyKey × PyVal)
  | [] => [(k, v)]
  | (l, w) :: rest => if l = k then (l, v) :: rest else (l, w) :: setEntry k v rest

mutual
/-- `json.loads`. -/
def ofJson : Json → PyVal
  | .null => none
  | .bool b => bool b
  | .int i => int i
  | .float x => float x
  | .string s => str s
  | .array items => list (ofJsonItems items)
  | .object members => dict (ofJsonMembers [] members)

def ofJsonItems : List Json → List PyVal
  | [] => []
  | j :: js => ofJson j :: ofJsonItems js

/-- Of members with one name the last counts. -/
def ofJsonMembers (entries : List (PyKey × PyVal)) : List (String × Json) → List (PyKey × PyVal)
  | [] => entries
  | (k, j) :: rest => ofJsonMembers (setEntry (.str k) (ofJson j) entries) rest
end

/-- Whether a condition on the value holds. -/
def truthy : PyVal → Bool
  | none => false
  | bool b => b
  | int i => i ≠ 0
  | float x => x.units ≠ 0
  | nonfinite => true
  | str s => s ≠ ""
  | list items => !items.isEmpty
  | tuple items => !items.isEmpty
  | dict entries => !entries.isEmpty
  | other _ _ => true

mutual
/-- The type that keeps a value from being hashed. -/
def unhashable : PyVal → Option String
  | list _ => some "list"
  | dict _ => some "dict"
  | tuple items => unhashableItem items
  | other false _ => some "object"
  | _ => Option.none

def unhashableItem : List PyVal → Option String
  | [] => Option.none
  | v :: vs => (unhashable v).or (unhashableItem vs)
end

/-- One level deeper, if there is room. -/
def deeper (copyError : Nat → Option String) : Nat → Option String
  | 0 => some "maximum recursion depth exceeded"
  | room + 1 => copyError room

mutual
/-- What `copy.deepcopy` raises, with room for so many levels of nesting. -/
def copyError : PyVal → Nat → Option String
  | list items => deeper (copyErrorItems items)
  | tuple items => deeper (copyErrorItems items)
  | dict entries => deeper (copyErrorEntries entries)
  | other _ error => fun _ => error
  | _ => fun _ => Option.none

def copyErrorItems : List PyVal → Nat → Option String
  | [], _ => Option.none
  | v :: vs, room => (copyError v room).or (copyErrorItems vs room)

def copyErrorEntries : List (PyKey × PyVal) → Nat → Option String
  | [], _ => Option.none
  | (_, v) :: rest, room => (copyError v room).or (copyErrorEntries rest room)
end

/-- Whether a value equals a string. -/
def isStr (v : PyVal) (s : String) : Bool :=
  match v with
  | str t => t = s
  | _ => false

end PyVal

/-! ### Text -/

/-- White space as `str.isspace` has it. -/
def isSpace (c : Char) : Bool :=
  let n := c.toNat
  (9 ≤ n ∧ n ≤ 13) ∨ (28 ≤ n ∧ n ≤ 32) ∨ n = 0x85 ∨ n = 0xa0 ∨ n = 0x1680 ∨ (0x2000 ≤ n ∧ n ≤ 0x200a) ∨
    n = 0x2028 ∨ n = 0x2029 ∨ n = 0x202f ∨ n = 0x205f ∨ n = 0x3000

def strip (s : String) : String :=
  String.ofList ((s.toList.dropWhile isSpace).reverse.dropWhile isSpace).reverse

theorem strip_of_no_space {s : String} (h : ∀ c ∈ s.toList, isSpace c = false) : strip s = s := by
  have keep : ∀ cs : List Char, (∀ c ∈ cs, isSpace c = false) → cs.dropWhile isSpace = cs := fun cs hcs =>
    List.dropWhile_eq_self_iff.mpr fun hl => by simp [hcs _ (List.getElem_mem hl)]
  unfold strip
  rw [keep _ h, keep _ fun c hc => h c (List.mem_reverse.mp hc), List.reverse_reverse, String.ofList_toList]

/-- What `str(uuid4())` returns: hex digits and dashes. -/
structure Uuid where
  text : String
  wf : text.toList ≠ [] ∧ ∀ c ∈ text.toList, c.isDigit ∨ ('a' ≤ c ∧ c ≤ 'f') ∨ c = '-'
deriving DecidableEq

theorem Uuid.text_ne (u : Uuid) : u.text ≠ "" := fun h => u.wf.1 (by rw [h]; rfl)

theorem Uuid.no_space (u : Uuid) : ∀ c ∈ u.text.toList, isSpace c = false := by
  intro c hc
  have hrange : 45 ≤ c.toNat ∧ c.toNat ≤ 102 := by
    rcases u.wf.2 c hc with h | h | rfl
    · simp only [Char.isDigit, Bool.and_eq_true, decide_eq_true_eq] at h
      have h1 : (48 : UInt32).toNat ≤ c.toNat := UInt32.le_iff_toNat_le.mp h.1
      have h2 : c.toNat ≤ (57 : UInt32).toNat := UInt32.le_iff_toNat_le.mp h.2
      simp at h1 h2
      omega
    · have h1 : ('a'.val).toNat ≤ c.toNat := UInt32.le_iff_toNat_le.mp h.1
      have h2 : c.toNat ≤ ('f'.val).toNat := UInt32.le_iff_toNat_le.mp h.2
      simp at h1 h2
      omega
    · decide
  simp only [isSpace]
  have : ¬((9 ≤ c.toNat ∧ c.toNat ≤ 13) ∨ (28 ≤ c.toNat ∧ c.toNat ≤ 32) ∨ c.toNat = 0x85 ∨ c.toNat = 0xa0 ∨
      c.toNat = 0x1680 ∨ (0x2000 ≤ c.toNat ∧ c.toNat ≤ 0x200a) ∨ c.toNat = 0x2028 ∨ c.toNat = 0x2029 ∨
      c.toNat = 0x202f ∨ c.toNat = 0x205f ∨ c.toNat = 0x3000) := by omega
  exact decide_eq_false this

@[simp] theorem Uuid.strip_text (u : Uuid) : strip u.text = u.text := strip_of_no_space u.no_space

/-! ### What the language does elsewhere -/

/-- A value in an integer column. -/
inductive Cell where
  | null
  | integer (i : Int)
  | real (x : FloatText)
  | text (s : String)
deriving DecidableEq

/-- Library functions the code calls on values it does not look into. -/
structure Runtime where
  sha256 : String → String
  upper : String → String
  isAlpha : Char → Bool
  /-- `repr` of a string. -/
  repr : String → String
  /-- `str` of a value that is not a string. -/
  strOf : PyVal → String
  /-- `int` of a value that is neither an integer nor a truth value. -/
  intOf : PyVal → Option Int
  /-- How a text column takes a value that is neither `None` nor a string. -/
  textColumn : PyVal → Option String
  /-- How an integer column takes a value that is neither `None` nor an integer. -/
  integerColumn : PyVal → Option Cell
  /-- The levels of nesting within an action's parameters that the stack has room to copy. -/
  room : Nat

namespace Runtime

def str (rt : Runtime) : PyVal → String
  | .str s => s
  | v => rt.strOf v

def int (rt : Runtime) : PyVal → Option Int
  | .int i => some i
  | .bool b => some (if b then 1 else 0)
  | v => rt.intOf v

def bindText (rt : Runtime) : PyVal → Option (Option String)
  | .none => some none
  | .str s => some (some s)
  | v => (rt.textColumn v).map some

def bindInteger (rt : Runtime) : PyVal → Option Cell
  | .none => some .null
  | .int i => some (.integer i)
  | .bool b => some (.integer (if b then 1 else 0))
  | v => rt.integerColumn v

end Runtime

/-- The texts in a table, by how they begin, and their digests. -/
def tabulated (digests : List (String × String)) (s : String) : String :=
  let bytes (s : String) : List UInt8 := s.toByteArray.data.toList
  match digests.find? fun e => (bytes e.1).isPrefixOf (bytes s) with
  | some e => e.2
  | none => "sha256 of " ++ s

end RmtPlatform
