import RmtPlatform.Data.Dumps
import RmtPlatform.Data.Stored

/-! JSON text with sorted keys, and the trees it does not tell apart.

`Encoder.encode` is `json.dumps(.., sort_keys=True, separators=(",", ":"))`. It raises for
an integer with too many digits and for nesting beyond the interpreter's limit. Trees that
differ in the order of their members only (`Same`) have one sorted form (`Same.sorted`),
given that no object has two members of one name (`Distinct`). -/
namespace RmtPlatform

inductive EncodeError where
  /-- `ValueError`: more digits than an integer may have. -/
  | digits
  /-- `RecursionError` -/
  | depth
deriving DecidableEq

/-- What the encoder takes from the interpreter it runs in. -/
structure Encoder where
  /-- `sys.get_int_max_str_digits()` -/
  maxDigits : Option Nat
  /-- How many levels of nesting the stack has room for. -/
  levels : Option Nat

namespace Json

/-! ### Sorted keys -/

mutual
/-- Every object's members by name. -/
def sorted : Json → Json
  | array items => array (sortedItems items)
  | object members => object (byName (sortedMembers members))
  | v => v

def sortedItems : List Json → List Json
  | [] => []
  | v :: vs => sorted v :: sortedItems vs

def sortedMembers : List (String × Json) → List (String × Json)
  | [] => []
  | (k, v) :: ms => (k, sorted v) :: sortedMembers ms
end

theorem sortedMembers_eq (ms : List (String × Json)) : sortedMembers ms = ms.map fun m => (m.1, m.2.sorted) := by
  induction ms with
  | nil => rfl
  | cons m ms ih => rw [sortedMembers, ih, List.map_cons]

theorem sortedMembers_names (ms : List (String × Json)) : (sortedMembers ms).map Prod.fst = ms.map Prod.fst := by
  rw [sortedMembers_eq, List.map_map]
  rfl

mutual
/-- A Python value: no object has two members of one name. -/
def Distinct : Json → Prop
  | array items => DistinctItems items
  | object members => (members.map Prod.fst).Nodup ∧ DistinctMembers members
  | _ => True

def DistinctItems : List Json → Prop
  | [] => True
  | v :: vs => Distinct v ∧ DistinctItems vs

def DistinctMembers : List (String × Json) → Prop
  | [] => True
  | (_, v) :: ms => Distinct v ∧ DistinctMembers ms
end

/-! ### Equality of Python values -/

mutual
/-- The same but for the order of members. -/
inductive Same : Json → Json → Prop
  | refl (v : Json) : Same v v
  | array {vs ws : List Json} (items : SameItems vs ws) : Same (array vs) (array ws)
  | object {ms ns os : List (String × Json)} (members : SameMembers ms ns) (order : ns.Perm os) :
    Same (object ms) (object os)

inductive SameItems : List Json → List Json → Prop
  | nil : SameItems [] []
  | cons {v w : Json} {vs ws : List Json} (head : Same v w) (tail : SameItems vs ws) : SameItems (v :: vs) (w :: ws)

inductive SameMembers : List (String × Json) → List (String × Json) → Prop
  | nil : SameMembers [] []
  | cons {k : String} {v w : Json} {ms ns : List (String × Json)} (head : Same v w) (tail : SameMembers ms ns) :
    SameMembers ((k, v) :: ms) ((k, w) :: ns)
end

theorem SameMembers.refl : (ms : List (String × Json)) → SameMembers ms ms
  | [] => .nil
  | (_, v) :: ms => .cons (.refl v) (.refl ms)

theorem SameMembers.names {ms ns : List (String × Json)} (h : SameMembers ms ns) :
    ms.map Prod.fst = ns.map Prod.fst := by
  induction ms generalizing ns with
  | nil =>
    cases h
    rfl
  | cons m ms ih =>
    cases h with
    | cons head tail => simp only [List.map_cons, ih tail]

theorem Same.object_inv {ms : List (String × Json)} {w : Json} (h : Same (Json.object ms) w) : ∃ os, w = Json.object os := by
  cases h with
  | refl => exact ⟨ms, rfl⟩
  | object _ _ => exact ⟨_, rfl⟩

theorem Same.string_inv {s : String} {w : Json} (h : Same (Json.string s) w) : w = Json.string s := by
  cases h
  rfl

theorem Same.members {ms os : List (String × Json)} (h : Same (Json.object ms) (Json.object os)) :
    ∃ ns, SameMembers ms ns ∧ ns.Perm os := by
  cases h with
  | refl => exact ⟨ms, .refl ms, .refl ms⟩
  | object members order => exact ⟨_, members, order⟩

mutual
/-- **Sorting the keys forgets the order.** -/
theorem Same.sorted : {v w : Json} → Same v w → v.Distinct → v.sorted = w.sorted
  | _, _, .refl _, _ => rfl
  | _, _, .array items, distinct => by
    unfold Json.sorted
    rw [SameItems.sorted items distinct]
  | _, _, @Same.object _ ns os members order, distinct => by
    unfold Json.sorted
    rw [SameMembers.sorted members distinct.2]
    have unique : ((sortedMembers ns).map Prod.fst).Nodup := by
      rw [sortedMembers_names, ← members.names]
      exact distinct.1
    have perm : (sortedMembers ns).Perm (sortedMembers os) := by
      rw [sortedMembers_eq, sortedMembers_eq]
      exact order.map _
    rw [members_eq_of_perm (((byName_perm _).map _).nodup_iff.mpr unique)
      ((byName_perm _).trans (perm.trans (byName_perm _).symm)) (byName_sorted _) (byName_sorted _)]

theorem SameItems.sorted : {vs ws : List Json} → SameItems vs ws → DistinctItems vs → sortedItems vs = sortedItems ws
  | _, _, .nil, _ => rfl
  | _, _, .cons head tail, distinct => by
    rw [sortedItems, sortedItems, Same.sorted head distinct.1, SameItems.sorted tail distinct.2]

theorem SameMembers.sorted : {ms ns : List (String × Json)} → SameMembers ms ns → DistinctMembers ms →
    sortedMembers ms = sortedMembers ns
  | _, _, .nil, _ => rfl
  | _, _, .cons head tail, distinct => by
    rw [sortedMembers, sortedMembers, Same.sorted head distinct.1, SameMembers.sorted tail distinct.2]
end

/-! ### Entries -/

/-- A dictionary's entry is found wherever it stands. -/
theorem lookup_of_perm {κ ν : Type} [BEq κ] [LawfulBEq κ] {ms ns : List (κ × ν)} (unique : (ms.map Prod.fst).Nodup)
    (order : ms.Perm ns) (k : κ) : ms.lookup k = ns.lookup k := by
  induction order with
  | nil => rfl
  | cons m _ ih =>
    obtain ⟨l, v⟩ := m
    rw [List.lookup_cons, List.lookup_cons, ih (List.nodup_cons.mp unique).2]
  | swap m m' ms =>
    obtain ⟨l, v⟩ := m
    obtain ⟨l', v'⟩ := m'
    have ne : l' ≠ l := by
      rintro rfl
      simp at unique
    simp only [List.lookup_cons]
    by_cases h : (k == l) = true
    · have miss : (k == l') = false := beq_eq_false_iff_ne.mpr (eq_of_beq h ▸ Ne.symm ne)
      simp only [miss]
    · have miss : (k == l) = false := Bool.eq_false_iff.mpr h
      simp only [miss]
  | trans first _ ih ih' => exact (ih unique).trans (ih' ((first.map Prod.fst).nodup_iff.mp unique))

/-- What is found under a name in both. -/
def SameEntry : Option Json → Option Json → Prop
  | some v, some w => Same v w
  | none, none => True
  | _, _ => False

theorem SameMembers.lookup {ms ns : List (String × Json)} (h : SameMembers ms ns) (k : String) :
    SameEntry (ms.lookup k) (ns.lookup k) := by
  induction ms generalizing ns with
  | nil =>
    cases h
    trivial
  | cons m ms ih =>
    cases h with
    | cons head tail =>
      simp only [List.lookup_cons]
      split
      · exact head
      · exact ih tail

theorem Same.lookup {ms os : List (String × Json)} (h : Same (Json.object ms) (Json.object os))
    (unique : (ms.map Prod.fst).Nodup) (k : String) : SameEntry (ms.lookup k) (os.lookup k) := by
  obtain ⟨ns, members, order⟩ := h.members
  rw [← lookup_of_perm (members.names ▸ unique) order]
  exact members.lookup k

theorem SameMembers.filter (keep : String → Bool) {ms ns : List (String × Json)} (h : SameMembers ms ns) :
    SameMembers (ms.filter fun m => keep m.1) (ns.filter fun m => keep m.1) := by
  induction ms generalizing ns with
  | nil =>
    cases h
    exact .nil
  | cons m ms ih =>
    cases h with
    | cons head tail =>
      simp only [List.filter_cons]
      split
      · exact .cons head (ih tail)
      · exact ih tail

theorem Same.filter (keep : String → Bool) {ms os : List (String × Json)} (h : Same (Json.object ms) (Json.object os)) :
    Same (Json.object (ms.filter fun m => keep m.1)) (Json.object (os.filter fun m => keep m.1)) := by
  obtain ⟨ns, members, order⟩ := h.members
  exact .object (members.filter keep) (order.filter _)

end Json

/-! ### The encoder -/

namespace Encoder
variable (E : Encoder)

/-- One level deeper, if there is room. -/
def deeper : Option Nat → Except EncodeError (Option Nat)
  | none => .ok none
  | some 0 => .error .depth
  | some (n + 1) => .ok (some n)

mutual
/-- What the encoder raises on its way through a value. -/
def admits : Option Nat → Json → Except EncodeError Unit
  | _, .int i => if E.maxDigits.any (· < (Nat.toDigits 10 i.natAbs).length) then .error .digits else .ok ()
  | level, .array items => do
    let level ← deeper level
    admitsItems level items
  | level, .object members => do
    let level ← deeper level
    admitsMembers level members
  | _, _ => .ok ()

def admitsItems : Option Nat → List Json → Except EncodeError Unit
  | _, [] => .ok ()
  | level, v :: vs => do
    admits level v
    admitsItems level vs

def admitsMembers : Option Nat → List (String × Json) → Except EncodeError Unit
  | _, [] => .ok ()
  | level, (_, v) :: ms => do
    admits level v
    admitsMembers level ms
end

/-- `json.dumps(.., sort_keys=True, separators=(",", ":"))`. -/
def encode (v : Json) : Except EncodeError (List Char) := do
  E.admits E.levels v.sorted
  .ok (Json.write Json.asciiEscape [] v.sorted)

/-- The value is written. -/
def Takes (v : Json) : Prop := E.admits E.levels v.sorted = .ok ()

instance (v : Json) : Decidable (E.Takes v) := inferInstanceAs (Decidable (_ = _))

variable {E}

theorem encode_takes {v : Json} (h : E.Takes v) : E.encode v = .ok (Json.write Json.asciiEscape [] v.sorted) := by
  rw [encode, h]
  rfl

theorem encode_refused {v : Json} (h : ¬E.Takes v) : ∃ e, E.encode v = .error e := by
  unfold encode Takes at *
  cases admitted : E.admits E.levels v.sorted with
  | error e => exact ⟨e, rfl⟩
  | ok _ => exact absurd admitted h

theorem takes_same {v w : Json} (h : Json.Same v w) (distinct : v.Distinct) : E.Takes v ↔ E.Takes w := by
  unfold Takes
  rw [h.sorted distinct]

end Encoder

end RmtPlatform
