import Mathlib.Data.List.Nodup
import Mathlib.Tactic.Common

/-! Tables with a primary key.

A table's rows stand in the order they were inserted, and no two of them have
one key: `insert` refuses a row whose key is taken, and `update` may not touch
the key. -/
namespace RmtPlatform

structure Table (Row : Type) {Key : Type} (key : Row → Key) where
  rows : List Row
  unique : (rows.map key).Nodup

namespace Table
variable {Row Key : Type} {key : Row → Key} (t : Table Row key)

def empty : Table Row key := ⟨[], List.nodup_nil⟩

@[simp] theorem empty_rows : (empty : Table Row key).rows = [] := rfl

/-- One key, one row. -/
theorem row_unique {r r' : Row} (h : r ∈ t.rows) (h' : r' ∈ t.rows) (hk : key r = key r') : r = r' :=
  List.inj_on_of_nodup_map t.unique h h' hk

section
variable [DecidableEq Key]

/-- `SELECT .. WHERE key = ?`. -/
def find? (k : Key) : Option Row := t.rows.find? fun r => key r = k

theorem mem_of_find? {k : Key} {r : Row} (h : t.find? k = some r) : r ∈ t.rows :=
  List.mem_of_find?_eq_some h

theorem key_of_find? {k : Key} {r : Row} (h : t.find? k = some r) : key r = k :=
  by simpa using List.find?_some h

theorem find?_of_mem {r : Row} (h : r ∈ t.rows) : t.find? (key r) = some r := by
  cases hf : t.find? (key r) with
  | none => simpa using List.find?_eq_none.mp hf r h
  | some r' => rw [t.row_unique (t.mem_of_find? hf) h (t.key_of_find? hf)]

theorem find?_eq_some {k : Key} {r : Row} : t.find? k = some r ↔ r ∈ t.rows ∧ key r = k :=
  ⟨fun h => ⟨t.mem_of_find? h, t.key_of_find? h⟩, fun ⟨h, hk⟩ => hk ▸ t.find?_of_mem h⟩

theorem find?_eq_none {k : Key} : t.find? k = none ↔ ∀ r ∈ t.rows, key r ≠ k := by
  simp [find?]

end

/-- A row whose key is free goes last. -/
def insert (r : Row) (free : key r ∉ t.rows.map key) : Table Row key :=
  ⟨t.rows ++ [r], by
    rw [List.map_append, List.map_singleton]
    exact t.unique.append (List.nodup_singleton _) (by simpa using free)⟩

@[simp] theorem insert_rows (r : Row) (free : key r ∉ t.rows.map key) :
    (t.insert r free).rows = t.rows ++ [r] := rfl

private theorem map_updated {rows : List Row} {p : Row → Bool} {f : Row → Row}
    (keeps : ∀ r, key (f r) = key r) :
    (rows.map fun r => if p r then f r else r).map key = rows.map key := by
  rw [List.map_map]
  congr 1
  funext r
  simp only [Function.comp]
  split <;> simp [keeps]

/-- `UPDATE .. SET f WHERE p`; the key is not set. -/
def update (p : Row → Bool) (f : Row → Row) (keeps : ∀ r, key (f r) = key r) : Table Row key :=
  ⟨t.rows.map fun r => if p r then f r else r, by
    rw [map_updated keeps]
    exact t.unique⟩

@[simp] theorem update_rows (p : Row → Bool) (f : Row → Row) (keeps : ∀ r, key (f r) = key r) :
    (t.update p f keeps).rows = t.rows.map fun r => if p r then f r else r := rfl

@[simp] theorem update_keys (p : Row → Bool) (f : Row → Row) (keeps : ∀ r, key (f r) = key r) :
    (t.update p f keeps).rows.map key = t.rows.map key := map_updated keeps

theorem mem_update {p : Row → Bool} {f : Row → Row} {keeps : ∀ r, key (f r) = key r} {r' : Row} :
    r' ∈ (t.update p f keeps).rows ↔ ∃ r ∈ t.rows, (if p r then f r else r) = r' := by
  simp

end Table

end RmtPlatform
