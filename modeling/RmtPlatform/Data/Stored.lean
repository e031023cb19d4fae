import RmtPlatform.Data.Value

/-! Values stored as JSON and loaded.

Storing turns the keys of a dictionary into strings and a tuple into a list; the
canonical text writes keys as strings too, but sorts them as the values they are.
So the text of a value that has been stored is the text it had exactly where every
dictionary's keys are in the order of their names, and none of them is `None`, which
is stored under another name (`PyVal.toJson_stored`). A value that has a text is copied
where there is room for its nesting, however it is stored (`PyVal.copyError_tree`). -/
namespace RmtPlatform

namespace PyKey

/-- The string a key is stored as. -/
def stored : PyKey → String
  | none => "None"
  | k => k.text

/-- The keys' names are in the order in which the canonical text writes the keys. -/
def Ordered (keys : List PyKey) : Prop :=
  none ∉ keys ∧ ((keys.insertionSort fun k l => k.le l).map text).Pairwise (· ≤ ·)

instance (keys : List PyKey) : Decidable (Ordered keys) := inferInstanceAs (Decidable (_ ∧ _))

theorem numeric_ne_word {cs : List Char} {s : String} (numeric : ∀ c ∈ cs, isNumberChar c = true)
    (h : ∃ c ∈ s.toList, ¬isNumberChar c) : String.ofList cs ≠ s := by
  rintro rfl
  obtain ⟨c, hc, letter⟩ := h
  rw [String.toList_ofList] at hc
  exact letter (numeric c hc)

theorem renderInt_injective {i j : Int} (h : Json.renderInt i = Json.renderInt j) : i = j := by
  have hi := Json.readInt_renderInt i
  rw [h, Json.readInt_renderInt] at hi
  exact (Option.some.inj hi).symm

theorem renderInt_ne_float {i : Int} {x : FloatText} : Json.renderInt i ≠ x.text := by
  intro h
  have hi := Json.readInt_renderInt i
  rw [h, Json.readInt_float] at hi
  cases hi

/-- Keys of a dictionary that can be compared have different names. -/
theorem text_injective {keys : List PyKey} (comp : comparable keys = true) {k l : PyKey} (hk : k ∈ keys)
    (hl : l ∈ keys) (h : k.text = l.text) : k = l := by
  simp only [comparable, Bool.or_eq_true, decide_eq_true_eq, List.all_eq_true] at comp
  rcases comp with (short | strings) | numbers
  · obtain ⟨a, rfl⟩ : ∃ a, keys = [a] := List.length_eq_one_iff.mp (by
      have := List.length_pos_of_mem hk
      omega)
    rw [List.mem_singleton.mp hk, List.mem_singleton.mp hl]
  · cases k with
    | str s =>
      cases l with
      | str t => exact congrArg str h
      | _ => exact absurd (strings _ hl) (by simp [isStr])
    | _ => exact absurd (strings _ hk) (by simp [isStr])
  · have words : ∀ b, ∃ c ∈ (text (bool b)).toList, ¬isNumberChar c := by
      intro b
      cases b with
      | true => exact ⟨'t', by decide, by decide⟩
      | false => exact ⟨'f', by decide, by decide⟩
    cases k with
    | int i =>
      cases l with
      | int j => exact congrArg int (renderInt_injective (String.ofList_inj.mp h))
      | float x => exact absurd (String.ofList_inj.mp h) renderInt_ne_float
      | bool b => exact absurd h (numeric_ne_word (Json.numeric_renderInt i) (words b))
      | _ => exact absurd (numbers _ hl) (by simp [number])
    | float x =>
      cases l with
      | int j => exact absurd (String.ofList_inj.mp h).symm renderInt_ne_float
      | float y =>
        obtain ⟨text, numeric, fractional⟩ := x
        obtain rfl : text = y.text := String.ofList_inj.mp h
        rfl
      | bool b => exact absurd h (numeric_ne_word x.numeric (words b))
      | _ => exact absurd (numbers _ hl) (by simp [number])
    | bool b =>
      cases l with
      | int j => exact absurd h.symm (numeric_ne_word (Json.numeric_renderInt j) (words b))
      | float x => exact absurd h.symm (numeric_ne_word x.numeric (words b))
      | bool c => cases b <;> cases c <;> first | rfl | exact absurd h (by decide)
      | _ => exact absurd (numbers _ hl) (by simp [number])
    | _ => exact absurd (numbers _ hk) (by simp [number])

/-- Only `None` is stored under another name than it is digested under. -/
theorem stored_of_ne {k : PyKey} (h : k ≠ none) : k.stored = k.text := by
  cases k with
  | none => exact absurd rfl h
  | _ => rfl

/-- Where `None` is a key it is the only one. -/
theorem eq_of_none {keys : List PyKey} (comp : comparable keys = true) (h : none ∈ keys) : keys = [none] := by
  simp only [comparable, Bool.or_eq_true, decide_eq_true_eq, List.all_eq_true] at comp
  rcases comp with (short | strings) | numbers
  · obtain ⟨k, rfl⟩ : ∃ k, keys = [k] := List.length_eq_one_iff.mp (by
      have := List.length_pos_of_mem h
      omega)
    rw [List.mem_singleton.mp h]
  · exact absurd (strings _ h) (by simp [isStr])
  · exact absurd (numbers _ h) (by simp [number])

theorem nodup_text {keys : List PyKey} (comp : comparable keys = true) (unique : keys.Nodup) :
    (keys.map text).Nodup := unique.map_on fun _ hk _ hl h => text_injective comp hk hl h

theorem nodup_stored {keys : List PyKey} (comp : comparable keys = true) (unique : keys.Nodup) :
    (keys.map stored).Nodup := by
  by_cases h : none ∈ keys
  · rw [eq_of_none comp h]
    exact List.nodup_singleton _
  · rw [List.map_congr_left fun k hk => stored_of_ne fun e => h (e ▸ hk)]
    exact nodup_text comp unique

end PyKey

/-! ### Members in the order of their names -/

section
variable {α : Type}

/-- Members with different names in the order of their names are told by which they are. -/
theorem members_eq_of_perm {ms ms' : List (String × α)} (unique : (ms.map Prod.fst).Nodup) (perm : ms.Perm ms')
    (sorted : (ms.map Prod.fst).Pairwise (· ≤ ·)) (sorted' : (ms'.map Prod.fst).Pairwise (· ≤ ·)) : ms = ms' := by
  refine @List.Perm.eq_of_pairwise _ (fun a b => a.1 ≤ b.1) _ _ ?_ ?_ ?_ perm
  · intro a b ha hb hab hba
    exact List.inj_on_of_nodup_map unique ha (perm.mem_iff.mpr hb) (String.le_antisymm hab hba)
  · exact List.pairwise_map.mp sorted
  · exact List.pairwise_map.mp sorted'

/-- Members with the same names in the same order are told by which they are. -/
theorem members_eq_of_names {ms ms' : List (String × α)} (unique : (ms.map Prod.fst).Nodup) (perm : ms.Perm ms')
    (names : ms.map Prod.fst = ms'.map Prod.fst) : ms = ms' := by
  induction ms generalizing ms' with
  | nil => exact (List.nil_perm.mp perm).symm
  | cons m ms ih =>
    cases ms' with
    | nil => cases names
    | cons m' ms' =>
      obtain ⟨name, rest⟩ := List.cons.inj names
      have same : m = m' :=
        List.inj_on_of_nodup_map unique List.mem_cons_self (perm.mem_iff.mpr List.mem_cons_self) name
      subst same
      rw [ih (List.nodup_cons.mp unique).2 ((List.perm_cons m).mp perm) rest]

/-- By the names, smaller first. -/
def byName (ms : List (String × α)) : List (String × α) := ms.insertionSort fun a b => a.1 ≤ b.1

theorem byName_perm (ms : List (String × α)) : (byName ms).Perm ms := List.perm_insertionSort _ ms

theorem byName_sorted (ms : List (String × α)) : ((byName ms).map Prod.fst).Pairwise (· ≤ ·) := by
  have total : Std.Total fun a b : String × α => a.1 ≤ b.1 := ⟨fun a b => String.le_total a.1 b.1⟩
  have trans : IsTrans (String × α) fun a b => a.1 ≤ b.1 := ⟨fun _ _ _ => String.le_trans⟩
  exact List.pairwise_map.mpr (List.pairwise_insertionSort _ ms)

/-- Members written in another order are those of `ms'` by name exactly where they are
the same and that order is by name. -/
theorem byName_eq_iff {ms ms' ns : List (String × α)} (perm : ns.Perm ms) (unique : (ms.map Prod.fst).Nodup)
    (unique' : (ms'.map Prod.fst).Nodup) (names : ms.map Prod.fst = ms'.map Prod.fst) :
    byName ms' = ns ↔ (ns.map Prod.fst).Pairwise (· ≤ ·) ∧ ms' = ms := by
  constructor
  · intro same
    refine ⟨same ▸ byName_sorted ms', ?_⟩
    have perm' : ms'.Perm ms := (byName_perm ms').symm.trans (same ▸ perm)
    exact members_eq_of_names unique' perm' names.symm
  · rintro ⟨sorted, rfl⟩
    have both : (byName ms').Perm ns := (byName_perm ms').trans perm.symm
    refine members_eq_of_perm ?_ both (byName_sorted ms') sorted
    exact ((byName_perm ms').map Prod.fst).nodup_iff.mpr unique'

end

namespace PyVal

/-! ### Storing and loading -/

mutual
/-- What storing a value as JSON and loading it makes of it, where it can be digested. -/
def stored : PyVal → PyVal
  | list items => list (storedItems items)
  | tuple items => list (storedItems items)
  | dict entries => dict (storedEntries [] entries)
  | v => v

def storedItems : List PyVal → List PyVal
  | [] => []
  | v :: vs => stored v :: storedItems vs

/-- Of entries stored under one name the last counts. -/
def storedEntries (loaded : List (PyKey × PyVal)) : List (PyKey × PyVal) → List (PyKey × PyVal)
  | [] => loaded
  | (k, v) :: rest => storedEntries (setEntry (.str k.stored) (stored v) loaded) rest
end

mutual
/-- Every dictionary within has each key once. -/
def Proper : PyVal → Prop
  | list items => ProperItems items
  | tuple items => ProperItems items
  | dict entries => (entries.map Prod.fst).Nodup ∧ ProperEntries entries
  | _ => True

def ProperItems : List PyVal → Prop
  | [] => True
  | v :: vs => Proper v ∧ ProperItems vs

def ProperEntries : List (PyKey × PyVal) → Prop
  | [] => True
  | (_, v) :: rest => Proper v ∧ ProperEntries rest
end

mutual
/-- Every dictionary within has its keys in the order of their names. -/
def Settled : PyVal → Prop
  | list items => SettledItems items
  | tuple items => SettledItems items
  | dict entries => PyKey.Ordered (entries.map Prod.fst) ∧ SettledEntries entries
  | _ => True

def SettledItems : List PyVal → Prop
  | [] => True
  | v :: vs => Settled v ∧ SettledItems vs

def SettledEntries : List (PyKey × PyVal) → Prop
  | [] => True
  | (_, v) :: rest => Settled v ∧ SettledEntries rest
end

theorem setEntry_new {k : PyKey} {v : PyVal} {entries : List (PyKey × PyVal)} (new : k ∉ entries.map Prod.fst) :
    setEntry k v entries = entries ++ [(k, v)] := by
  induction entries with
  | nil => rfl
  | cons e entries ih =>
    obtain ⟨l, w⟩ := e
    simp only [List.map_cons, List.mem_cons, not_or] at new
    rw [setEntry, if_neg (fun h => new.1 h.symm), ih new.2]
    rfl

/-- The entry of a dictionary, stored. -/
def storedEntry (e : PyKey × PyVal) : PyKey × PyVal := (.str e.1.stored, e.2.stored)

theorem storedEntries_eq {entries loaded : List (PyKey × PyVal)}
    (unique : (loaded.map Prod.fst ++ entries.map fun e => PyKey.str e.1.stored).Nodup) :
    storedEntries loaded entries = loaded ++ entries.map storedEntry := by
  induction entries generalizing loaded with
  | nil => simp [storedEntries]
  | cons e entries ih =>
    obtain ⟨k, v⟩ := e
    have new : PyKey.str k.stored ∉ loaded.map Prod.fst := fun h =>
      (List.nodup_append.mp unique).2.2 _ h _ List.mem_cons_self rfl
    rw [storedEntries, setEntry_new new, ih]
    · simp [storedEntry]
    · simpa using unique

/-- Keys that can be compared are stored under different names. -/
theorem storedEntries_comparable {entries : List (PyKey × PyVal)}
    (comp : PyKey.comparable (entries.map Prod.fst) = true) (unique : (entries.map Prod.fst).Nodup) :
    storedEntries [] entries = entries.map storedEntry := by
  apply storedEntries_eq
  have names := (PyKey.nodup_stored comp unique).map (fun _ _ h => PyKey.str.inj h : Function.Injective PyKey.str)
  simpa [Function.comp_def] using names

/-! ### The text of what has been stored -/

theorem toJsonEntries_keys {entries : List (PyKey × PyVal)} {ms : List (PyKey × Json)}
    (h : toJsonEntries entries = some ms) : ms.map Prod.fst = entries.map Prod.fst := by
  induction entries generalizing ms with
  | nil =>
    cases h
    rfl
  | cons e entries ih =>
    obtain ⟨k, v⟩ := e
    simp only [toJsonEntries, Option.bind_eq_bind, Option.bind_eq_some_iff] at h
    obtain ⟨j, -, js, hjs, rest⟩ := h
    cases rest
    simp [ih hjs]

/-- The tree of a dictionary is a tree of string keys in the order of the keys. -/
theorem toJson_dict {entries : List (PyKey × PyVal)} {j : Json} : (dict entries).toJson = some j ↔
    PyKey.comparable (entries.map Prod.fst) = true ∧ ∃ ms, toJsonEntries entries = some ms ∧
      j = .object ((ms.insertionSort fun a b => a.1.le b.1).map fun m => (m.1.text, m.2)) := by
  rw [toJson]
  split
  · next comp =>
    rw [Option.map_eq_some_iff]
    exact ⟨fun ⟨ms, hms, hj⟩ => ⟨comp, ms, hms, hj.symm⟩, fun ⟨_, ms, hms, hj⟩ => ⟨ms, hms, hj.symm⟩⟩
  · next comp => exact iff_of_false (by simp) fun h => comp h.1

/-- The tree of a dictionary that has been stored. -/
theorem toJson_stored_dict {entries : List (PyKey × PyVal)} {ms : List (PyKey × Json)}
    (comp : PyKey.comparable (entries.map Prod.fst) = true) (unique : (entries.map Prod.fst).Nodup)
    (h : toJsonEntries (entries.map storedEntry) = some ms) :
    (dict entries).stored.toJson = some (.object (byName (ms.map fun m => (m.1.text, m.2)))) := by
  rw [stored, storedEntries_comparable comp unique, toJson_dict]
  have strings : ∀ k ∈ (entries.map storedEntry).map Prod.fst, k.isStr = true := by
    intro k hk
    obtain ⟨e, he, rfl⟩ := List.mem_map.mp hk
    obtain ⟨e', -, rfl⟩ := List.mem_map.mp he
    rfl
  refine ⟨?_, ms, h, ?_⟩
  · simp only [PyKey.comparable, Bool.or_eq_true]
    exact .inl (.inr (List.all_eq_true.mpr strings))
  · rw [byName, List.map_insertionSort (fun a b : PyKey × Json => a.1.le b.1) fun a b : String × Json => a.1 ≤ b.1]
    intro a ha b hb
    rw [← toJsonEntries_keys h] at strings
    have sa := strings _ (List.mem_map_of_mem ha)
    have sb := strings _ (List.mem_map_of_mem hb)
    rcases a with ⟨_ | _ | _ | _ | _, ja⟩ <;> rcases b with ⟨_ | _ | _ | _ | _, jb⟩ <;> simp_all [PyKey.isStr, PyKey.le, PyKey.text]

/-- Two dictionaries' trees, where their values' trees are known. -/
theorem object_eq_iff {keys : List PyKey} (comp : PyKey.comparable keys = true) (unique : keys.Nodup)
    {ms ms' : List (PyKey × Json)} (hms : ms.map Prod.fst = keys)
    (hms' : ms'.map Prod.fst = keys.map fun k => .str k.stored) :
    byName (ms'.map fun m => (m.1.text, m.2)) = (ms.insertionSort fun a b => a.1.le b.1).map (fun m => (m.1.text, m.2)) ↔
      PyKey.Ordered keys ∧ ms'.map Prod.snd = ms.map Prod.snd := by
  let name : PyKey × Json → String × Json := fun m => (m.1.text, m.2)
  have texts : (ms.map name).map Prod.fst = keys.map PyKey.text := by
    rw [← hms, List.map_map, List.map_map]
    rfl
  have names : (ms'.map name).map Prod.fst = keys.map PyKey.stored := by
    have := congrArg (List.map PyKey.text) hms'
    rw [List.map_map, List.map_map] at this
    rw [List.map_map]
    exact this
  have order : ((ms.insertionSort fun a b => a.1.le b.1).map name).map Prod.fst =
      (keys.insertionSort fun k l => k.le l).map PyKey.text := by
    rw [← hms, ← List.map_insertionSort (fun a b : PyKey × Json => a.1.le b.1) (fun k l : PyKey => k.le l)
      Prod.fst ms fun _ _ _ _ => Iff.rfl]
    rw [List.map_map, List.map_map]
    rfl
  have perm : ((ms.insertionSort fun a b => a.1.le b.1).map name).Perm (ms.map name) :=
    (List.perm_insertionSort _ ms).map name
  by_cases none : PyKey.none ∈ keys
  · -- `None` is digested under one name and stored under another.
    refine iff_of_false (fun same => ?_) fun h => h.1.1 none
    have key := PyKey.eq_of_none comp none
    have first := congrArg (List.map Prod.fst) same
    have perm' := (byName_perm (ms'.map name)).map Prod.fst
    rw [names, key] at perm'
    rw [order, perm'.eq_singleton, key] at first
    exact absurd (List.cons.inj first).1 (by decide)
  · have stored : keys.map PyKey.stored = keys.map PyKey.text :=
      List.map_congr_left fun k hk => PyKey.stored_of_ne fun e => none (e ▸ hk)
    have uniqueNames := PyKey.nodup_text comp unique
    rw [byName_eq_iff perm (texts ▸ uniqueNames) (names ▸ stored ▸ uniqueNames) (texts.trans (stored ▸ names.symm)),
      order, PyKey.Ordered, and_assoc]
    simp only [none, not_false_eq_true, true_and]
    refine and_congr_right fun _ => ⟨fun same => ?_, fun same => ?_⟩
    · have values := congrArg (List.map Prod.snd) same
      rwa [List.map_map, List.map_map] at values
    · have values : (ms'.map name).map Prod.snd = (ms.map name).map Prod.snd := by
        rw [List.map_map, List.map_map]
        exact same
      exact (List.zip_of_prod (names.trans stored) values).trans (List.zip_of_prod texts rfl).symm

mutual
/-- **What is stored keeps its text** exactly where every dictionary's keys are in the order of their names. -/
theorem toJson_stored {v : PyVal} {j : Json} (h : v.toJson = some j) (proper : v.Proper) :
    ∃ j', v.stored.toJson = some j' ∧ (j' = j ↔ v.Settled) := by
  match v with
  | list items =>
    obtain ⟨js, hjs, rfl⟩ := Option.map_eq_some_iff.mp h
    obtain ⟨js', hjs', same⟩ := toJson_storedItems hjs proper
    exact ⟨.array js', by rw [stored, toJson, hjs']; rfl, by rw [Json.array.injEq, same, Settled]⟩
  | tuple items =>
    obtain ⟨js, hjs, rfl⟩ := Option.map_eq_some_iff.mp h
    obtain ⟨js', hjs', same⟩ := toJson_storedItems hjs proper
    exact ⟨.array js', by rw [stored, toJson, hjs']; rfl, by rw [Json.array.injEq, same, Settled]⟩
  | dict entries =>
    obtain ⟨comp, ms, hms, rfl⟩ := toJson_dict.mp h
    obtain ⟨ms', hms', same⟩ := toJson_storedEntries hms proper.2
    refine ⟨_, toJson_stored_dict comp proper.1 hms', ?_⟩
    rw [Json.object.injEq, object_eq_iff comp proper.1 (toJsonEntries_keys hms), same, Settled]
    rw [toJsonEntries_keys hms', List.map_map, List.map_map]
    rfl
  | none | bool _ | int _ | float _ | str _ => exact ⟨j, h, by simp [Settled]⟩
  | nonfinite | other _ _ => cases h

theorem toJson_storedItems {items : List PyVal} {js : List Json} (h : toJsonItems items = some js)
    (proper : ProperItems items) :
    ∃ js', toJsonItems (storedItems items) = some js' ∧ (js' = js ↔ SettledItems items) := by
  match items with
  | [] => exact ⟨[], rfl, by cases h; simp [SettledItems]⟩
  | v :: vs =>
    simp only [toJsonItems, Option.bind_eq_bind, Option.bind_eq_some_iff, Option.some.injEq] at h
    obtain ⟨j, hj, js, hjs, rfl⟩ := h
    obtain ⟨j', hj', same⟩ := toJson_stored hj proper.1
    obtain ⟨js', hjs', rest⟩ := toJson_storedItems hjs proper.2
    exact ⟨j' :: js', by simp [storedItems, toJsonItems, hj', hjs'], by rw [List.cons.injEq, same, rest, SettledItems]⟩

theorem toJson_storedEntries {entries : List (PyKey × PyVal)} {ms : List (PyKey × Json)}
    (h : toJsonEntries entries = some ms) (proper : ProperEntries entries) :
    ∃ ms', toJsonEntries (entries.map storedEntry) = some ms' ∧
      (ms'.map Prod.snd = ms.map Prod.snd ↔ SettledEntries entries) := by
  match entries with
  | [] => exact ⟨[], rfl, by cases h; simp [SettledEntries]⟩
  | (k, v) :: rest =>
    simp only [toJsonEntries, Option.bind_eq_bind, Option.bind_eq_some_iff, Option.some.injEq] at h
    obtain ⟨j, hj, ms, hms, rfl⟩ := h
    obtain ⟨j', hj', same⟩ := toJson_stored hj proper.1
    obtain ⟨ms', hms', others⟩ := toJson_storedEntries hms proper.2
    refine ⟨(.str k.stored, j') :: ms', by simp [storedEntry, toJsonEntries, hj', hms'], ?_⟩
    rw [List.map_cons, List.map_cons, List.cons.injEq, same, others, SettledEntries]
end

end PyVal

/-! ### Copying what has a tree -/

namespace Json

def fitsDeeper (fits : Nat → Bool) : Nat → Bool
  | 0 => false
  | room + 1 => fits room

mutual
/-- There is room for the tree's levels of nesting. -/
def fits : Json → Nat → Bool
  | array items => fitsDeeper (fitsItems items)
  | object members => fitsDeeper (fitsMembers members)
  | _ => fun _ => true

def fitsItems : List Json → Nat → Bool
  | [], _ => true
  | j :: js, room => fits j room && fitsItems js room

def fitsMembers : List (String × Json) → Nat → Bool
  | [], _ => true
  | (_, j) :: rest, room => fits j room && fitsMembers rest room
end

theorem fitsMembers_eq (members : List (String × Json)) (room : Nat) :
    fitsMembers members room = members.all fun m => m.2.fits room := by
  induction members with
  | nil => rfl
  | cons m members ih => rw [fitsMembers, ih, List.all_cons]

end Json

namespace PyVal

/-- What copying raises where there may be too little room. -/
def tooDeep (fits : Bool) : Option String := if fits then Option.none else some "maximum recursion depth exceeded"

theorem tooDeep_or (a b : Bool) : (tooDeep a).or (tooDeep b) = tooDeep (a && b) := by
  cases a <;> rfl

theorem deeper_tooDeep {copyError : Nat → Option String} {fits : Nat → Bool}
    (h : ∀ room, copyError room = tooDeep (fits room)) (room : Nat) :
    deeper copyError room = tooDeep (Json.fitsDeeper fits room) := by
  cases room with
  | zero => rfl
  | succ room => exact h room

mutual
/-- **A value that has a tree is copied by its tree**: the copy fails only where there is no room for its levels. -/
theorem copyError_tree {v : PyVal} {j : Json} (h : v.toJson = some j) (room : Nat) :
    v.copyError room = tooDeep (j.fits room) := by
  match v with
  | list items =>
    obtain ⟨js, hjs, rfl⟩ := Option.map_eq_some_iff.mp h
    exact deeper_tooDeep (copyErrorItems_tree hjs) room
  | tuple items =>
    obtain ⟨js, hjs, rfl⟩ := Option.map_eq_some_iff.mp h
    exact deeper_tooDeep (copyErrorItems_tree hjs) room
  | dict entries =>
    obtain ⟨comp, ms, hms, rfl⟩ := toJson_dict.mp h
    refine deeper_tooDeep (fun room => ?_) room
    rw [copyErrorEntries_tree hms room, Json.fitsMembers_eq, List.all_map]
    exact congrArg tooDeep ((List.perm_insertionSort _ ms).symm.all_eq)
  | none | bool _ | int _ | float _ | str _ =>
    cases h
    rfl
  | nonfinite | other _ _ => cases h

theorem copyErrorItems_tree {items : List PyVal} {js : List Json} (h : toJsonItems items = some js) (room : Nat) :
    copyErrorItems items room = tooDeep (Json.fitsItems js room) := by
  match items with
  | [] =>
    cases h
    rfl
  | v :: vs =>
    simp only [toJsonItems, Option.bind_eq_bind, Option.bind_eq_some_iff, Option.some.injEq] at h
    obtain ⟨j, hj, js, hjs, rfl⟩ := h
    rw [copyErrorItems, copyError_tree hj room, copyErrorItems_tree hjs room, tooDeep_or, Json.fitsItems]

theorem copyErrorEntries_tree {entries : List (PyKey × PyVal)} {ms : List (PyKey × Json)}
    (h : toJsonEntries entries = some ms) (room : Nat) :
    copyErrorEntries entries room = tooDeep (ms.all fun m => m.2.fits room) := by
  match entries with
  | [] =>
    cases h
    rfl
  | (k, v) :: rest =>
    simp only [toJsonEntries, Option.bind_eq_bind, Option.bind_eq_some_iff, Option.some.injEq] at h
    obtain ⟨j, hj, ms, hms, rfl⟩ := h
    rw [copyErrorEntries, copyError_tree hj room, copyErrorEntries_tree hms room, tooDeep_or, List.all_cons]
end

/-- Dictionaries with one tree are copied alike. -/
theorem copyErrorEntries_congr {entries entries' : List (PyKey × PyVal)} {j : Json} (h : (dict entries).toJson = some j)
    (h' : (dict entries').toJson = some j) (room : Nat) : copyErrorEntries entries room = copyErrorEntries entries' room :=
  (copyError_tree h (room + 1)).trans (copyError_tree h' (room + 1)).symm

end PyVal

end RmtPlatform
