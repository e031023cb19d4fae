import Mathlib.Tactic.Common

/-! Programs of atomic steps.

A program over a shared state is a tree of atomic steps: each step changes the
state at once and continues according to the state it found. Everything that
happens between two steps of one program — another program's step, a crash — is
then a matter of how programs are composed, not of how they are written
(`Process.Safety`). A step may carry a label, which is what an observer of a run
sees of it; unlabelled steps are silent.

`Script` adds exceptions, which end the program but do not undo its steps.
`Transaction` runs a whole script as one step that takes effect entirely or not
at all, whichever of its statements fails. -/
namespace RmtPlatform

/-- Each step sees the state before it; the state after it is `effect` of that. -/
inductive Program (S L α : Type) where
  | done (value : α)
  | act (label : Option L) (effect : S → S) (next : S → Program S L α)

namespace Program
variable {S T L M α β γ : Type}

def bind : Program S L α → (α → Program S L β) → Program S L β
  | done a, f => f a
  | act l e k, f => act l e fun s => (k s).bind f

instance : Monad (Program S L) where
  pure := done
  bind := bind

@[simp] theorem done_bind (a : α) (f : α → Program S L β) : done a >>= f = f a := rfl

@[simp] theorem act_bind (l : Option L) (e : S → S) (k : S → Program S L α) (f : α → Program S L β) :
    act l e k >>= f = act l e fun s => k s >>= f := rfl

theorem bind_assoc (x : Program S L α) (f : α → Program S L β) (g : β → Program S L γ) :
    x >>= f >>= g = x >>= fun a => f a >>= g := by
  induction x with
  | done a => rfl
  | act l e k ih =>
    simp only [act_bind]
    congr 1
    funext s
    exact ih s

theorem bind_pure (x : Program S L α) : x >>= pure = x := by
  induction x with
  | done a => rfl
  | act l e k ih =>
    simp only [act_bind]
    congr 1
    funext s
    exact ih s

theorem lawful : LawfulMonad (Program S L) := LawfulMonad.mk' _ bind_pure (fun _ _ => rfl) bind_assoc

/-- The program alone, from a state: its value and the state it leaves. -/
def run : Program S L α → S → α × S
  | done a, s => (a, s)
  | act _ e k, s => (k s).run (e s)

@[simp] theorem run_done (a : α) (s : S) : (done a : Program S L α).run s = (a, s) := rfl

@[simp] theorem run_act (l : Option L) (e : S → S) (k : S → Program S L α) (s : S) :
    (act l e k).run s = (k s).run (e s) := rfl

theorem run_bind (x : Program S L α) (f : α → Program S L β) (s : S) :
    (x >>= f).run s = (f (x.run s).1).run (x.run s).2 := by
  induction x generalizing s with
  | done a => rfl
  | act l e k ih => exact ih s (e s)

/-- The labels a program running alone emits, the latest first. -/
def emitted : Program S L α → S → List L
  | done _, _ => []
  | act l e k, s => (k s).emitted (e s) ++ l.toList

@[simp] theorem emitted_done (a : α) (s : S) : (done a : Program S L α).emitted s = [] := rfl

@[simp] theorem emitted_act (l : Option L) (e : S → S) (k : S → Program S L α) (s : S) :
    (act l e k).emitted s = (k s).emitted (e s) ++ l.toList := rfl

theorem emitted_bind (x : Program S L α) (f : α → Program S L β) (s : S) :
    (x >>= f).emitted s = (f (x.run s).1).emitted (x.run s).2 ++ x.emitted s := by
  induction x generalizing s with
  | done a => simp
  | act l e k ih => simp [ih]

/-- Every step the program can take, from whatever state, is one `R` allows. -/
def Steps (R : S → Option L → S → Prop) : Program S L α → Prop
  | done _ => True
  | act l e k => ∀ s, R s l (e s) ∧ (k s).Steps R

section
variable {R R' : S → Option L → S → Prop} {x : Program S L α}

theorem Steps.mono (h : x.Steps R) (hR : ∀ s l s', R s l s' → R' s l s') : x.Steps R' := by
  induction x with
  | done a => trivial
  | act l e k ih => exact fun s => ⟨hR _ _ _ (h s).1, ih s (h s).2⟩

theorem Steps.and (h : x.Steps R) (h' : x.Steps R') : x.Steps fun s l s' => R s l s' ∧ R' s l s' := by
  induction x with
  | done a => trivial
  | act l e k ih => exact fun s => ⟨⟨(h s).1, (h' s).1⟩, ih s (h s).2 (h' s).2⟩

theorem Steps.bind {f : α → Program S L β} (h : x.Steps R) (hf : ∀ a, (f a).Steps R) : (x >>= f).Steps R := by
  induction x with
  | done a => exact hf a
  | act l e k ih => exact fun s => ⟨(h s).1, ih s (h s).2⟩

/-- What every step does along `Q`, the program running alone does. -/
theorem Steps.run {Q : S → S → Prop} (h : x.Steps R) (hrefl : ∀ s, Q s s) (htrans : ∀ a b c, Q a b → Q b c → Q a c)
    (hR : ∀ s l s', R s l s' → Q s s') (s : S) : Q s (x.run s).2 := by
  induction x generalizing s with
  | done a => exact hrefl s
  | act l e k ih => exact htrans _ _ _ (hR _ _ _ (h s).1) (ih s (h s).2 (e s))

theorem Steps.emitted {A : L → Prop} (h : x.Steps R) (hR : ∀ s m s', R s (some m) s' → A m) (s : S) :
    ∀ m ∈ x.emitted s, A m := by
  induction x generalizing s with
  | done a => simp
  | act l e k ih =>
    intro m hm
    rcases List.mem_append.mp hm with hm | hm
    · exact ih s (h s).2 (e s) m hm
    · obtain rfl : l = some m := by simpa using hm
      exact hR _ _ _ (h s).1

end

end Program

/-! ### A part of the state -/

/-- A component of a larger state, with the laws of reading and replacing it. -/
structure Component (T S : Type) where
  get : T → S
  set : S → T → T
  get_set : ∀ s t, get (set s t) = s
  set_get : ∀ t, set (get t) t = t
  set_set : ∀ s s' t, set s (set s' t) = set s t

namespace Program
variable {S T L M α β : Type}

/-- A program on a component, as a program on the whole. -/
def within (c : Component T S) (name : L → M) : Program S L α → Program T M α
  | done a => done a
  | act l e k => act (l.map name) (fun t => c.set (e (c.get t)) t) fun t => (k (c.get t)).within c name

theorem run_within (c : Component T S) (name : L → M) (x : Program S L α) (t : T) :
    (x.within c name).run t = ((x.run (c.get t)).1, c.set (x.run (c.get t)).2 t) := by
  induction x generalizing t with
  | done a => simp [within, c.set_get]
  | act l e k ih => simp [within, ih, c.get_set, c.set_set]

theorem Steps.within {R : T → Option M → T → Prop} {c : Component T S} {name : L → M} {x : Program S L α}
    (h : ∀ t (l : Option L) s, R t (l.map name) (c.set s t)) : (x.within c name).Steps R := by
  induction x with
  | done a => trivial
  | act l e k ih => exact fun t => ⟨h t l _, ih _⟩

theorem emitted_within (c : Component T S) (name : L → M) (x : Program S L α) (t : T) :
    (x.within c name).emitted t = (x.emitted (c.get t)).map name := by
  induction x generalizing t with
  | done a => rfl
  | act l e k ih => cases l <;> simp [within, ih, c.get_set]

end Program

/-! ### Exceptions -/

/-- A program that may raise; the steps taken before stay taken. -/
abbrev Script (S L E α : Type) := ExceptT E (Program S L) α

namespace Script
variable {S T L M E α β : Type}

/-- One silent look at the state. -/
def read (f : S → α) : Script S L E α := Program.act none id fun s => .done (.ok (f s))

/-- One step that may raise, and then changes nothing. -/
def step (label : Option L) (f : S → Except E (α × S)) : Script S L E α :=
  .act label
    (fun s => match f s with
      | .ok (_, s') => s'
      | .error _ => s)
    fun s => .done (match f s with
      | .ok (a, _) => .ok a
      | .error e => .error e)

/-- One step that cannot raise. -/
def modify (label : Option L) (f : S → S) : Script S L E Unit := Program.act label f fun _ => .done (.ok ())

/-- What an observer is told; the state is unchanged. -/
def announce (label : L) : Script S L E Unit := modify (some label) id

/-- Stop with `e` where `condition` holds. -/
def raiseIf (condition : Prop) [Decidable condition] (e : E) : Script S L E Unit :=
  if condition then throw e else pure ()

/-- What a pure computation returns or raises. -/
def ofExcept : Except E α → Script S L E α
  | .ok a => pure a
  | .error e => throw e

/-- What a script returns or raises, as a value. -/
def caught (x : Script S L E α) : Script S L E (Except E α) := Program.bind x fun r => .done (.ok r)

/-- The same in a script that raises exceptions of another kind. -/
def reified {E' : Type} (x : Script S L E α) : Script S L E' (Except E α) := Program.bind x fun r => .done (.ok r)

/-- The script alone, from a state. -/
def exec (x : Script S L E α) (s : S) : Except E α × S := Program.run x s

@[simp] theorem exec_pure (a : α) (s : S) : exec (pure a : Script S L E α) s = (.ok a, s) := rfl

@[simp] theorem exec_throw (e : E) (s : S) : exec (throw e : Script S L E α) s = (.error e, s) := rfl

@[simp] theorem exec_read (f : S → α) (s : S) : exec (read f : Script S L E α) s = (.ok (f s), s) := rfl

@[simp] theorem exec_modify (l : Option L) (f : S → S) (s : S) :
    exec (modify l f : Script S L E Unit) s = (.ok (), f s) := rfl

@[simp] theorem exec_announce (l : L) (s : S) : exec (announce l : Script S L E Unit) s = (.ok (), s) := rfl

@[simp] theorem exec_ofExcept (x : Except E α) (s : S) : exec (ofExcept x : Script S L E α) s = (x, s) := by
  cases x <;> rfl

@[simp] theorem exec_caught (x : Script S L E α) (s : S) :
    exec (caught x) s = (.ok (exec x s).1, (exec x s).2) :=
  Program.run_bind (α := Except E α) (β := Except E (Except E α)) x (fun r => .done (.ok r)) s

theorem exec_reified {E' : Type} (x : Script S L E α) (s : S) :
    exec (reified x : Script S L E' (Except E α)) s = (.ok (exec x s).1, (exec x s).2) :=
  Program.run_bind (α := Except E α) (β := Except E' (Except E α)) x (fun r => .done (.ok r)) s

theorem exec_bind (x : Script S L E α) (f : α → Script S L E β) (s : S) :
    exec (x >>= f) s = match exec x s with
      | (.ok a, s') => exec (f a) s'
      | (.error e, s') => (.error e, s') := by
  have h := Program.run_bind (α := Except E α) x (ExceptT.bindCont f) s
  show Program.run (Program.bind x (ExceptT.bindCont f)) s = _
  refine h.trans ?_
  unfold exec
  rcases Program.run x s with ⟨⟨e⟩ | ⟨a⟩, s'⟩ <;> rfl

theorem bind_assoc {γ : Type} (x : Script S L E α) (f : α → Script S L E β) (g : β → Script S L E γ) :
    x >>= f >>= g = x >>= fun a => f a >>= g :=
  have : LawfulMonad (Program S L) := Program.lawful
  LawfulMonad.bind_assoc x f g

theorem pure_bind (a : α) (f : α → Script S L E β) : (pure a : Script S L E α) >>= f = f a := rfl

/-- The labels a script running alone emits, the latest first. -/
def emitted (x : Script S L E α) (s : S) : List L := Program.emitted x s

@[simp] theorem emitted_pure (a : α) (s : S) : emitted (pure a : Script S L E α) s = [] := rfl

@[simp] theorem emitted_throw (e : E) (s : S) : emitted (throw e : Script S L E α) s = [] := rfl

@[simp] theorem emitted_read (f : S → α) (s : S) : emitted (read f : Script S L E α) s = [] := rfl

@[simp] theorem emitted_modify (l : Option L) (f : S → S) (s : S) :
    emitted (modify l f : Script S L E Unit) s = l.toList := rfl

@[simp] theorem emitted_announce (l : L) (s : S) : emitted (announce l : Script S L E Unit) s = [l] := rfl

theorem emitted_bind (x : Script S L E α) (f : α → Script S L E β) (s : S) :
    emitted (x >>= f) s = (match exec x s with
      | (.ok a, s') => emitted (f a) s'
      | (.error _, _) => []) ++ emitted x s := by
  have h := Program.emitted_bind (α := Except E α) x (ExceptT.bindCont f) s
  show Program.emitted (Program.bind x (ExceptT.bindCont f)) s = _
  refine h.trans ?_
  unfold exec emitted
  rcases Program.run x s with ⟨⟨e⟩ | ⟨a⟩, s'⟩ <;> rfl

@[simp] theorem emitted_caught (x : Script S L E α) (s : S) : emitted (caught x) s = emitted x s := by
  have h := Program.emitted_bind (α := Except E α) (β := Except E (Except E α)) x (fun r => .done (.ok r)) s
  exact h.trans (List.nil_append _)

@[simp] theorem emitted_ofExcept (x : Except E α) (s : S) : emitted (ofExcept x : Script S L E α) s = [] := by
  cases x <;> rfl

@[simp] theorem emitted_raiseIf (c : Prop) [Decidable c] (e : E) (s : S) :
    emitted (raiseIf c e : Script S L E Unit) s = [] := by
  unfold raiseIf
  split <;> rfl

/-- A sequence that returns: each part returns. -/
theorem exec_bind_ok {x : Script S L E α} {f : α → Script S L E β} {s s'' : S} {b : β} :
    exec (x >>= f) s = (.ok b, s'') ↔ ∃ a s', exec x s = (.ok a, s') ∧ exec (f a) s' = (.ok b, s'') := by
  rw [exec_bind]
  rcases exec x s with ⟨⟨e⟩ | ⟨a⟩, s'⟩ <;> simp

/-- The script leaves the state as it found it, whether it returns or raises. -/
def ReadOnly (x : Script S L E α) : Prop := ∀ s, (exec x s).2 = s

theorem readOnly_pure (a : α) : ReadOnly (pure a : Script S L E α) := fun _ => rfl

theorem readOnly_throw (e : E) : ReadOnly (throw e : Script S L E α) := fun _ => rfl

theorem readOnly_read (f : S → α) : ReadOnly (read f : Script S L E α) := fun _ => rfl

theorem readOnly_ofExcept (r : Except E α) : ReadOnly (ofExcept r : Script S L E α) := fun s => by
  rw [exec_ofExcept]

theorem ReadOnly.bind {x : Script S L E α} {f : α → Script S L E β} (hx : ReadOnly x)
    (hf : ∀ a, ReadOnly (f a)) : ReadOnly (x >>= f) := by
  intro s
  have hxs := hx s
  rw [exec_bind]
  rcases h : exec x s with ⟨e | a, s'⟩ <;> rw [h] at hxs
  · exact hxs
  · exact (hf a s').trans hxs

/-- A script that writes and then only reads leaves what the first part left. -/
theorem exec_bind_readOnly {x : Script S L E α} {f : α → Script S L E β} (hf : ∀ a, ReadOnly (f a)) (s : S) :
    (exec (x >>= f) s).2 = (exec x s).2 := by
  rw [exec_bind]
  rcases exec x s with ⟨e | a, s'⟩
  · rfl
  · exact hf a s'

/-- The script moves the state along `R`, whether it returns or raises. -/
def Moves (R : S → S → Prop) (x : Script S L E α) : Prop := ∀ s, R s (exec x s).2

section
variable {R : S → S → Prop}

theorem ReadOnly.moves (hrefl : ∀ s, R s s) {x : Script S L E α} (h : ReadOnly x) : Moves R x := fun s =>
  (h s).symm ▸ hrefl s

theorem Moves.bind (htrans : ∀ a b c, R a b → R b c → R a c) {x : Script S L E α} {f : α → Script S L E β}
    (hx : Moves R x) (hf : ∀ a, Moves R (f a)) : Moves R (x >>= f) := by
  intro s
  have hxs := hx s
  rw [exec_bind]
  rcases h : exec x s with ⟨e | a, s'⟩ <;> rw [h] at hxs
  · exact hxs
  · exact htrans _ _ _ hxs (hf a s')

theorem Moves.caught {x : Script S L E α} (hx : Moves R x) : Moves R (caught x) := fun s => by
  rw [exec_caught]
  exact hx s

end

/-! ### What every step of a script is -/

/-- Every step the script can take is one `R` allows. -/
def Steps (R : S → Option L → S → Prop) (x : Script S L E α) : Prop := Program.Steps R x

section
variable {R R' : S → Option L → S → Prop} {x : Script S L E α}

theorem steps_pure (a : α) : Steps R (pure a : Script S L E α) := trivial

theorem steps_ofExcept (r : Except E α) : Steps R (ofExcept r : Script S L E α) := by cases r <;> trivial

theorem steps_raiseIf (c : Prop) [Decidable c] (e : E) : Steps R (raiseIf c e : Script S L E Unit) := by
  unfold raiseIf
  split <;> trivial

theorem steps_read {f : S → α} (h : ∀ s, R s none s) : Steps R (read f : Script S L E α) := fun s => ⟨h s, trivial⟩

theorem steps_modify {l : Option L} {f : S → S} (h : ∀ s, R s l (f s)) : Steps R (modify l f : Script S L E Unit) :=
  fun s => ⟨h s, trivial⟩

theorem Steps.bind {f : α → Script S L E β} (hx : Steps R x) (hf : ∀ a, Steps R (f a)) : Steps R (x >>= f) := by
  refine Program.Steps.bind hx fun r => ?_
  cases r with
  | ok a => exact hf a
  | error e => trivial

theorem Steps.caught (hx : Steps R x) : Steps R (caught x) := Program.Steps.bind hx fun _ => trivial

theorem Steps.mono (h : Steps R x) (hR : ∀ s l s', R s l s' → R' s l s') : Steps R' x := Program.Steps.mono h hR

theorem Steps.moves {Q : S → S → Prop} (h : Steps R x) (hrefl : ∀ s, Q s s)
    (htrans : ∀ a b c, Q a b → Q b c → Q a c) (hR : ∀ s l s', R s l s' → Q s s') : Moves Q x :=
  Program.Steps.run h hrefl htrans hR

theorem Steps.emitted {A : L → Prop} (h : Steps R x) (hR : ∀ s m s', R s (some m) s' → A m) (s : S) :
    ∀ m ∈ emitted x s, A m :=
  Program.Steps.emitted h hR s

end

/-! ### What a script ends in, run alone -/

/-- The script returns in `Q` or raises in `X`. -/
def Ends (Q : α → S → Prop) (X : E → Prop) (x : Script S L E α) (s : S) : Prop :=
  match exec x s with
  | (.ok a, s') => Q a s'
  | (.error e, _) => X e

section
variable {Q : α → S → Prop} {R : β → S → Prop} {X : E → Prop}

theorem ends_bind {x : Script S L E α} {f : α → Script S L E β} {s : S} :
    Ends R X (x >>= f) s ↔ Ends (fun a s' => Ends R X (f a) s') X x s := by
  unfold Ends
  rw [exec_bind]
  rcases exec x s with ⟨⟨e⟩ | ⟨a⟩, s'⟩ <;> simp

@[simp] theorem ends_pure {a : α} {s : S} : Ends Q X (pure a : Script S L E α) s ↔ Q a s := Iff.rfl

@[simp] theorem ends_throw {e : E} {s : S} : Ends Q X (throw e : Script S L E α) s ↔ X e := Iff.rfl

@[simp] theorem ends_read {f : S → α} {s : S} : Ends Q X (read f : Script S L E α) s ↔ Q (f s) s := Iff.rfl

theorem ends_ofExcept {r : Except E α} {s : S} :
    Ends Q X (ofExcept r : Script S L E α) s ↔ (∀ a, r = .ok a → Q a s) ∧ ∀ e, r = .error e → X e := by
  cases r <;> simp [Ends]

theorem Ends.mono {Q' : α → S → Prop} {X' : E → Prop} {x : Script S L E α} {s : S} (h : Ends Q X x s)
    (hQ : ∀ a s', Q a s' → Q' a s') (hX : ∀ e, X e → X' e) : Ends Q' X' x s := by
  unfold Ends at h ⊢
  rcases hx : exec x s with ⟨e | a, s'⟩ <;> rw [hx] at h
  · exact hX e h
  · exact hQ a s' h

theorem Ends.bind {x : Script S L E α} {f : α → Script S L E β} {s : S} (h : Ends Q X x s)
    (hf : ∀ a s', Q a s' → Ends R X (f a) s') : Ends R X (x >>= f) s :=
  ends_bind.mpr (h.mono hf fun _ he => he)

theorem Ends.of_exec {x : Script S L E α} {s : S} (hQ : ∀ a s', exec x s = (.ok a, s') → Q a s')
    (hX : ∀ e s', exec x s = (.error e, s') → X e) : Ends Q X x s := by
  unfold Ends
  rcases hx : exec x s with ⟨e | a, s'⟩
  · exact hX e s' hx
  · exact hQ a s' hx

theorem Ends.ok {x : Script S L E α} {s s' : S} {a : α} (h : Ends Q X x s) (hx : exec x s = (.ok a, s')) :
    Q a s' := by
  simpa [Ends, hx] using h

theorem Ends.error {x : Script S L E α} {s s' : S} {e : E} (h : Ends Q X x s)
    (hx : exec x s = (.error e, s')) : X e := by
  simpa [Ends, hx] using h

end

theorem exec_raiseIf (c : Prop) [Decidable c] (e : E) (s : S) :
    exec (raiseIf c e : Script S L E Unit) s = (if c then .error e else .ok (), s) := by
  unfold raiseIf
  split <;> simp [*]

@[simp] theorem exec_raiseIf_ok {c : Prop} [Decidable c] {e : E} {s s' : S} {u : Unit} :
    exec (raiseIf c e : Script S L E Unit) s = (.ok u, s') ↔ ¬c ∧ s' = s := by
  rw [exec_raiseIf]
  split <;> simp [*, eq_comm]

theorem readOnly_raiseIf (c : Prop) [Decidable c] (e : E) : ReadOnly (raiseIf c e : Script S L E Unit) :=
  fun s => by rw [exec_raiseIf]

@[simp] theorem ends_raiseIf {Q : Unit → S → Prop} {X : E → Prop} {c : Prop} [Decidable c] {e : E} {s : S} :
    Ends Q X (raiseIf c e : Script S L E Unit) s ↔ (c → X e) ∧ (¬c → Q () s) := by
  unfold raiseIf
  by_cases h : c <;> simp [h]

theorem exec_step (l : Option L) (f : S → Except E (α × S)) (s : S) :
    exec (step l f) s = match f s with
      | .ok (a, s') => (.ok a, s')
      | .error e => (.error e, s) := by
  simp only [exec, step, Program.run]
  cases f s <;> rfl

@[simp] theorem exec_step_ok {l : Option L} {f : S → Except E (α × S)} {s s' : S} {a : α} :
    exec (step l f) s = (.ok a, s') ↔ f s = .ok (a, s') := by
  rw [exec_step]
  cases f s with
  | error e => simp
  | ok r => simp [Prod.ext_iff]

@[simp] theorem ends_step {Q : α → S → Prop} {X : E → Prop} {l : Option L} {f : S → Except E (α × S)} {s : S} :
    Ends Q X (step l f : Script S L E α) s ↔
      (∀ a s', f s = .ok (a, s') → Q a s') ∧ ∀ e, f s = .error e → X e := by
  unfold Ends
  rw [exec_step]
  cases f s with
  | error e => simp
  | ok r => simp [Prod.ext_iff]

/-! ### What a script ends in, and what it emits -/

/-- The script, run alone, returns in `Q` or raises in `X`; both see the labels it emits. -/
def Yields (Q : α → S → List L → Prop) (X : E → S → List L → Prop) (x : Script S L E α) (s : S) : Prop :=
  match exec x s with
  | (.ok a, s') => Q a s' (emitted x s)
  | (.error e, s') => X e s' (emitted x s)

section
variable {Q : α → S → List L → Prop} {R : β → S → List L → Prop} {X : E → S → List L → Prop} {s : S}

theorem Yields.mono {Q' : α → S → List L → Prop} {X' : E → S → List L → Prop} {x : Script S L E α}
    (h : Yields Q X x s) (hQ : ∀ a s' ls, Q a s' ls → Q' a s' ls) (hX : ∀ e s' ls, X e s' ls → X' e s' ls) :
    Yields Q' X' x s := by
  unfold Yields at *
  rcases hx : exec x s with ⟨e | a, s'⟩ <;> rw [hx] at h
  · exact hX e s' _ h
  · exact hQ a s' _ h

theorem Yields.of_exec {x : Script S L E α} (hQ : ∀ a s', exec x s = (.ok a, s') → Q a s' (emitted x s))
    (hX : ∀ e s', exec x s = (.error e, s') → X e s' (emitted x s)) : Yields Q X x s := by
  unfold Yields
  rcases hx : exec x s with ⟨e | a, s'⟩
  · exact hX e s' hx
  · exact hQ a s' hx

theorem Yields.ok {x : Script S L E α} {s' : S} {a : α} (h : Yields Q X x s) (hx : exec x s = (.ok a, s')) :
    Q a s' (emitted x s) := by
  simpa only [Yields, hx] using h

theorem Yields.error {x : Script S L E α} {s' : S} {e : E} (h : Yields Q X x s) (hx : exec x s = (.error e, s')) :
    X e s' (emitted x s) := by
  simpa only [Yields, hx] using h

/-- What holds of the state and the labels however the script ends. -/
theorem yields_both {C : S → List L → Prop} {x : Script S L E α} :
    Yields (fun _ s' ls => C s' ls) (fun _ s' ls => C s' ls) x s ↔ C (exec x s).2 (emitted x s) := by
  unfold Yields
  rcases exec x s with ⟨e | a, s'⟩ <;> rfl

/-- What holds of the labels however the script ends. -/
theorem yields_labels {C : List L → Prop} {x : Script S L E α} :
    Yields (fun _ _ ls => C ls) (fun _ _ ls => C ls) x s ↔ C (emitted x s) := by
  unfold Yields
  rcases exec x s with ⟨e | a, s'⟩ <;> rfl

theorem yields_of_exec {x : Script S L E α} {s' : S} {a : α} {ls : List L} (hx : exec x s = (.ok a, s'))
    (hl : emitted x s = ls) : Yields Q X x s ↔ Q a s' ls := by
  rw [Yields, hx, hl]

theorem yields_bind {x : Script S L E α} {f : α → Script S L E β} : Yields R X (x >>= f) s ↔
    Yields (fun a s' ls => Yields (fun b s'' ls' => R b s'' (ls' ++ ls)) (fun e s'' ls' => X e s'' (ls' ++ ls)) (f a) s')
      X x s := by
  unfold Yields
  rw [exec_bind, emitted_bind]
  rcases exec x s with ⟨e | a, s'⟩
  · simp
  · dsimp only
    rcases exec (f a) s' with ⟨e | b, s''⟩ <;> rfl

@[simp] theorem yields_pure {a : α} : Yields Q X (pure a : Script S L E α) s ↔ Q a s [] := Iff.rfl

@[simp] theorem yields_throw {e : E} : Yields Q X (throw e : Script S L E α) s ↔ X e s [] := Iff.rfl

@[simp] theorem yields_read {f : S → α} : Yields Q X (read f : Script S L E α) s ↔ Q (f s) s [] := Iff.rfl

@[simp] theorem yields_modify {Q : Unit → S → List L → Prop} {l : Option L} {f : S → S} :
    Yields Q X (modify l f : Script S L E Unit) s ↔ Q () (f s) l.toList :=
  Iff.rfl

@[simp] theorem yields_announce {Q : Unit → S → List L → Prop} {l : L} :
    Yields Q X (announce l : Script S L E Unit) s ↔ Q () s [l] :=
  Iff.rfl

theorem yields_ofExcept {r : Except E α} : Yields Q X (ofExcept r : Script S L E α) s ↔
    (∀ a, r = .ok a → Q a s []) ∧ ∀ e, r = .error e → X e s [] := by
  cases r <;> simp [ofExcept]

@[simp] theorem yields_raiseIf {Q : Unit → S → List L → Prop} {c : Prop} [Decidable c] {e : E} :
    Yields Q X (raiseIf c e : Script S L E Unit) s ↔ (c → X e s []) ∧ (¬c → Q () s []) := by
  unfold raiseIf
  by_cases h : c <;> simp [h]

theorem yields_caught {Q : Except E α → S → List L → Prop} {x : Script S L E α} : Yields Q X (caught x) s ↔
    Yields (fun a s' ls => Q (.ok a) s' ls) (fun e s' ls => Q (.error e) s' ls) x s := by
  unfold Yields
  rw [exec_caught, emitted_caught]
  rcases exec x s with ⟨e | a, s'⟩ <;> rfl

end

end Script

end RmtPlatform
