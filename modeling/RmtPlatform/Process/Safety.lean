import Mathlib.Logic.Relation
import RmtPlatform.Process.Program

/-! What a program keeps while others run.

A `Point` of a run is the state and the labels seen so far. `Program.Safe` says
that every step of a program, taken from any point the `Discipline` lets the
others reach, keeps the invariant and stays within what the program owes the
others; it is proved once per program, by the rules below. Two ways of running
programs then need nothing more: a `Pool`, where any number of calls interleave
step by step (`Pool.reach_sound`), and a `Serial` process, where each call
finishes before the next starts but the process may crash between any two steps
and restarts by a program of its own (`Serial.reach_sound`). -/
namespace RmtPlatform

/-- A moment of a run: the state, and the labels emitted so far, the latest first. -/
structure Point (S L : Type) where
  state : S
  trace : List L

def Point.step {S L : Type} (p : Point S L) (label : Option L) (effect : S → S) : Point S L :=
  ⟨effect p.state, label.toList ++ p.trace⟩

@[simp] theorem Point.step_none_id {S L : Type} (p : Point S L) : p.step none id = p := rfl

/-- What a program may assume of the others and owes them. -/
structure Discipline (S L : Type) where
  /-- What the others may do between two of the program's steps. -/
  rely : Point S L → Point S L → Prop
  /-- What each of the program's own steps owes. -/
  guarantee : Point S L → Point S L → Prop
  /-- Holds between any two steps. -/
  inv : Point S L → Prop
  /-- What a labelled step may assume of the point it starts from. -/
  admits : L → Point S L → Prop

namespace Discipline
variable {S L : Type}

/-- Everybody moves along `grows` and keeps `inv`. -/
def shared (grows : Point S L → Point S L → Prop) (inv : Point S L → Prop)
    (admits : L → Point S L → Prop) : Discipline S L :=
  ⟨grows, grows, inv, admits⟩

/-- Nobody else runs; `inv` holds after every step all the same. -/
def alone (inv : Point S L → Prop) (admits : L → Point S L → Prop) : Discipline S L :=
  ⟨fun p q => p = q, fun _ _ => True, inv, admits⟩

/-- What more is kept between any two steps. -/
def also (D : Discipline S L) (kept : Point S L → Prop) : Discipline S L := { D with inv := fun p => D.inv p ∧ kept p }

end Discipline

namespace Program
variable {S T L M α β : Type} {D : Discipline S L}

/-- Every step the program takes keeps the discipline, and it ends in `Q`. -/
def Safe (D : Discipline S L) (Q : α → Point S L → Prop) : Program S L α → Point S L → Prop
  | done a, p => Q a p
  | act l e k, p => ∀ q, D.rely p q → D.inv q → (∀ m ∈ l, D.admits m q) →
      D.inv (q.step l e) ∧ D.guarantee q (q.step l e) ∧ Safe D Q (k q.state) (q.step l e)

theorem Safe.mono {Q Q' : α → Point S L → Prop} {x : Program S L α} {p : Point S L}
    (h : x.Safe D Q p) (hq : ∀ a q, Q a q → Q' a q) : x.Safe D Q' p := by
  induction x generalizing p with
  | done a => exact hq a p h
  | act l e k ih =>
    intro q hr hi ha
    obtain ⟨hi', hg, hs⟩ := h q hr hi ha
    exact ⟨hi', hg, ih q.state hs⟩

theorem Safe.bind {Q : α → Point S L → Prop} {R : β → Point S L → Prop} {x : Program S L α}
    {f : α → Program S L β} {p : Point S L} (h : x.Safe D Q p)
    (hf : ∀ a q, Q a q → (f a).Safe D R q) : (x >>= f).Safe D R p := by
  induction x generalizing p with
  | done a => exact hf a p h
  | act l e k ih =>
    intro q hr hi ha
    obtain ⟨hi', hg, hs⟩ := h q hr hi ha
    exact ⟨hi', hg, ih q.state hs⟩

/-- A program ends where the others and it can have moved to. -/
theorem Safe.moves {Q : α → Point S L → Prop} {x : Program S L α} {p : Point S L}
    (hrefl : ∀ q, D.rely q q) (htrans : ∀ a b c, D.rely a b → D.rely b c → D.rely a c)
    (hg : ∀ a b, D.guarantee a b → D.rely a b) (h : x.Safe D Q p) :
    x.Safe D (fun a q => Q a q ∧ D.rely p q) p := by
  induction x generalizing p with
  | done a => exact ⟨h, hrefl p⟩
  | act l e k ih =>
    intro q hr hi ha
    obtain ⟨hi', hgq, hs⟩ := h q hr hi ha
    exact ⟨hi', hgq, (ih q.state hs).mono fun a r hr' => ⟨hr'.1, htrans _ _ _ (htrans _ _ _ hr (hg _ _ hgq)) hr'.2⟩⟩

/-- What the others do before a program's next step does not matter to it. -/
theorem Safe.later {Q : α → Point S L → Prop} {x : Program S L α} {p p' : Point S L}
    (h : x.Safe D Q p) (htrans : ∀ a b c, D.rely a b → D.rely b c → D.rely a c)
    (hQ : ∀ a, Q a p → Q a p') (hp : D.rely p p') : x.Safe D Q p' := by
  cases x with
  | done a => exact hQ a h
  | act l e k => exact fun q hr => h q (htrans _ _ _ hp hr)

/-- A program on a component whose steps the discipline does not notice. -/
theorem Safe.within {c : Component S T} {name : M → L} {x : Program T M α} {p : Point S L}
    (hrefl : ∀ q, D.rely q q) (htrans : ∀ a b c, D.rely a b → D.rely b c → D.rely a c)
    (hg : ∀ a b, D.guarantee a b → D.rely a b)
    (h : ∀ (q : Point S L) (l : Option M) (e : T → T), D.inv q →
      D.inv (q.step (l.map name) fun t => c.set (e (c.get t)) t) ∧
        D.guarantee q (q.step (l.map name) fun t => c.set (e (c.get t)) t)) :
    (x.within c name).Safe D (fun _ q => D.rely p q) p := by
  induction x generalizing p with
  | done a => exact hrefl p
  | act l e k ih =>
    intro q hr hi _
    obtain ⟨hi', hq⟩ := h q l e hi
    exact ⟨hi', hq, (ih _).mono fun _ r hs => htrans _ _ _ (htrans _ _ _ hr (hg _ _ hq)) hs⟩

/-- What a program is safe to end in with nobody else there, it ends in when it runs alone. -/
theorem Safe.run {Q : α → Point S L → Prop} {x : Program S L α} {p : Point S L}
    (h : x.Safe (.alone (fun _ => True) fun _ _ => True) Q p) : ∃ q, q.state = (x.run p.state).2 ∧ Q (x.run p.state).1 q := by
  induction x generalizing p with
  | done a => exact ⟨p, rfl, h⟩
  | act l e k ih => exact ih p.state (h p rfl trivial fun _ _ => trivial).2.2

end Program

/-! ### Rules for scripts -/

namespace Script
variable {S L E α β : Type} {D : Discipline S L} {p : Point S L}

/-- Every step keeps the discipline; the script returns in `Q` or raises in `X`. -/
def Safe (D : Discipline S L) (Q : α → Point S L → Prop) (X : E → Point S L → Prop)
    (x : Script S L E α) (p : Point S L) : Prop :=
  Program.Safe D (fun r q => match r with
    | .ok a => Q a q
    | .error e => X e q) x p

variable {Q : α → Point S L → Prop} {R : β → Point S L → Prop} {X : E → Point S L → Prop}

theorem Safe.mono {Q' : α → Point S L → Prop} {X' : E → Point S L → Prop} {x : Script S L E α}
    (h : Safe D Q X x p) (hQ : ∀ a q, Q a q → Q' a q) (hX : ∀ e q, X e q → X' e q) :
    Safe D Q' X' x p :=
  Program.Safe.mono h fun r q => match r with
    | .ok a => hQ a q
    | .error e => hX e q

theorem Safe.bind {x : Script S L E α} {f : α → Script S L E β} (h : Safe D Q X x p)
    (hf : ∀ a q, Q a q → Safe D R X (f a) q) : Safe D R X (x >>= f) p := by
  refine Program.Safe.bind h fun r q hr => ?_
  cases r with
  | ok a => exact hf a q hr
  | error e => exact hr

/-- The rest of a script, as what its first part has to reach. -/
theorem safe_bind {x : Script S L E α} {f : α → Script S L E β}
    (h : Safe D (fun a q => Safe D R X (f a) q) X x p) : Safe D R X (x >>= f) p :=
  h.bind fun _ _ hq => hq

theorem safe_pure {a : α} (h : Q a p) : Safe D Q X (pure a) p := h

theorem safe_throw {e : E} (h : X e p) : Safe D Q X (throw e) p := h

theorem safe_ofExcept {r : Except E α} (hQ : ∀ a, r = .ok a → Q a p) (hX : ∀ e, r = .error e → X e p) :
    Safe D Q X (ofExcept r) p := by
  cases r with
  | ok a => exact hQ a rfl
  | error e => exact hX e rfl

theorem Safe.caught {Q : Except E α → Point S L → Prop} {x : Script S L E α}
    (h : Safe D (fun a q => Q (.ok a) q) (fun e q => Q (.error e) q) x p) : Safe D Q X (caught x) p := by
  refine Program.Safe.bind h fun r q hr => ?_
  cases r with
  | ok a => exact hr
  | error e => exact hr

theorem Safe.exec {x : Script S L E α} {s s' : S} {a : α}
    (h : Safe (.alone (fun _ => True) fun _ _ => True) Q X x ⟨s, []⟩) (hx : exec x s = (.ok a, s')) :
    ∃ q, q.state = s' ∧ Q a q := by
  obtain ⟨q, state, ends⟩ := Program.Safe.run h
  have ran : Program.run x s = (.ok a, s') := hx
  rw [ran] at state ends
  exact ⟨q, state, ends⟩

theorem safe_read {f : S → α} (h : ∀ q, D.rely p q → D.inv q → D.guarantee q q ∧ Q (f q.state) q) :
    Safe D Q X (read f) p := by
  intro q hr hi _
  obtain ⟨hg, hq⟩ := h q hr hi
  exact ⟨hi, hg, hq⟩

theorem safe_modify {Q : Unit → Point S L → Prop} {l : Option L} {f : S → S}
    (h : ∀ q, D.rely p q → D.inv q → (∀ m ∈ l, D.admits m q) →
      D.inv (q.step l f) ∧ D.guarantee q (q.step l f) ∧ Q () (q.step l f)) :
    Safe D Q X (modify l f) p := h

theorem safe_step {l : Option L} {f : S → Except E (α × S)}
    (h : ∀ q, D.rely p q → D.inv q → (∀ m ∈ l, D.admits m q) → match f q.state with
      | .ok (a, s) => D.inv (q.step l fun _ => s) ∧ D.guarantee q (q.step l fun _ => s) ∧
          Q a (q.step l fun _ => s)
      | .error e => D.inv (q.step l id) ∧ D.guarantee q (q.step l id) ∧ X e (q.step l id)) :
    Safe D Q X (step l f) p := by
  intro q hr hi ha
  have := h q hr hi ha
  simp only [Point.step, Program.Safe, id] at this ⊢
  cases hf : f q.state with
  | error e => simpa only [hf] using this
  | ok r => simpa only [hf] using this

theorem safe_raiseIf {Q : Unit → Point S L → Prop} {c : Prop} [Decidable c] {e : E}
    (hX : c → X e p) (hQ : ¬c → Q () p) : Safe D Q X (raiseIf c e) p := by
  unfold raiseIf
  split
  · exact hX ‹_›
  · exact hQ ‹_›

end Script

/-! ### Interleaving -/

/-- Calls in progress, and where the run is. -/
structure Pool (S L α : Type) where
  threads : List (Program S L α)
  point : Point S L

namespace Pool
variable {S L α : Type}

/-- A new call starts, or one of the calls in progress takes a step. -/
inductive Step (calls : Program S L α → Point S L → Prop) (admits : L → Point S L → Prop) :
    Pool S L α → Pool S L α → Prop where
  | call {threads p} (x : Program S L α) : calls x p → Step calls admits ⟨threads, p⟩ ⟨x :: threads, p⟩
  | act {before after l e k p} : (∀ m ∈ l, admits m p) →
      Step calls admits ⟨before ++ .act l e k :: after, p⟩ ⟨before ++ k p.state :: after, p.step l e⟩

abbrev Reach (calls : Program S L α → Point S L → Prop) (admits : L → Point S L → Prop) :=
  Relation.ReflTransGen (Step calls admits)

/-- A run under a condition is a run. -/
theorem Reach.weaken {calls : Program S L α → Point S L → Prop} {admits admits' : L → Point S L → Prop}
    (h : ∀ m p, admits m p → admits' m p) {c c' : Pool S L α} (hr : Reach calls admits c c') :
    Reach calls admits' c c' := by
  refine Relation.ReflTransGen.mono (fun c c' hstep => ?_) c c' hr
  cases hstep with
  | call x hx => exact .call x hx
  | act ha => exact .act fun m hm => h m _ (ha m hm)

section
variable {D : Discipline S L} {calls : Program S L α → Point S L → Prop}

/-- Every call in progress is safe from here on. -/
def AllSafe (D : Discipline S L) (c : Pool S L α) : Prop :=
  ∀ x ∈ c.threads, x.Safe D (fun _ _ => True) c.point

theorem step_sound (htrans : ∀ a b c, D.rely a b → D.rely b c → D.rely a c)
    (hrefl : ∀ a, D.rely a a) (hg : ∀ a b, D.guarantee a b → D.rely a b)
    (hcalls : ∀ x p, calls x p → D.inv p → x.Safe D (fun _ _ => True) p) {c c' : Pool S L α}
    (h : Step calls D.admits c c') (hi : D.inv c.point) (hs : AllSafe D c) :
    D.inv c'.point ∧ AllSafe D c' ∧ D.rely c.point c'.point := by
  cases h with
  | @call threads p x hx =>
    refine ⟨hi, ?_, hrefl _⟩
    intro y hy
    rcases List.mem_cons.mp hy with rfl | hy
    · exact hcalls _ _ hx hi
    · exact hs y hy
  | @act before after l e k p ha =>
    obtain ⟨hi', hgq, hk⟩ := hs _ (List.mem_append_right _ List.mem_cons_self) p (hrefl _) hi ha
    refine ⟨hi', ?_, hg _ _ hgq⟩
    intro y hy
    -- The thread that moved continues from its own step; the others look on.
    rcases List.mem_append.mp hy with hy | hy
    · exact (hs y (List.mem_append_left _ hy)).later htrans (fun _ _ => trivial) (hg _ _ hgq)
    · rcases List.mem_cons.mp hy with rfl | hy
      · exact hk
      · exact (hs y (List.mem_append_right _ (List.mem_cons_of_mem _ hy))).later htrans
          (fun _ _ => trivial) (hg _ _ hgq)

/-- **Safe calls interleave safely**: whatever the schedule, the invariant holds
at every point of a run and every step moves along `rely`. -/
theorem reach_sound (htrans : ∀ a b c, D.rely a b → D.rely b c → D.rely a c)
    (hrefl : ∀ a, D.rely a a) (hg : ∀ a b, D.guarantee a b → D.rely a b)
    (hcalls : ∀ x p, calls x p → D.inv p → x.Safe D (fun _ _ => True) p) {c c' : Pool S L α}
    (h : Reach calls D.admits c c') (hi : D.inv c.point) (hs : AllSafe D c) :
    D.inv c'.point ∧ AllSafe D c' ∧ D.rely c.point c'.point := by
  induction h with
  | refl => exact ⟨hi, hs, hrefl _⟩
  | tail _ hstep ih =>
    obtain ⟨hi', hs', hr⟩ := ih
    obtain ⟨hi'', hs'', hr'⟩ := step_sound htrans hrefl hg hcalls hstep hi' hs'
    exact ⟨hi'', hs'', htrans _ _ _ hr hr'⟩

end

/-- The next step of thread `i`, if it has one. -/
def tick (c : Pool S L α) (i : Nat) : Pool S L α :=
  match c.threads[i]? with
  | some (.act l e k) => ⟨c.threads.take i ++ k c.point.state :: c.threads.drop (i + 1), c.point.step l e⟩
  | _ => c

/-- What the next step of thread `i` shows. -/
def label (c : Pool S L α) (i : Nat) : Option L :=
  match c.threads[i]? with
  | some (.act l _ _) => l
  | _ => none

/-- Every step of the schedule is admitted. -/
def Admitted (admits : L → Point S L → Prop) : Pool S L α → List Nat → Prop
  | _, [] => True
  | c, i :: rest => (∀ m ∈ c.label i, admits m c.point) ∧ Admitted admits (c.tick i) rest

instance decidableAdmitted (admits : L → Point S L → Prop) [∀ m p, Decidable (admits m p)] :
    (c : Pool S L α) → (schedule : List Nat) → Decidable (Admitted admits c schedule)
  | _, [] => inferInstanceAs (Decidable True)
  | c, i :: rest =>
    have := decidableAdmitted admits (c.tick i) rest
    inferInstanceAs (Decidable (_ ∧ _))

/-- The run a schedule describes. -/
def runSchedule (c : Pool S L α) (schedule : List Nat) : Pool S L α := schedule.foldl tick c

theorem tick_reach (calls : Program S L α → Point S L → Prop) {admits : L → Point S L → Prop} (c : Pool S L α) (i : Nat)
    (admitted : ∀ m ∈ c.label i, admits m c.point) : Reach calls admits c (c.tick i) := by
  unfold tick
  split
  · next l e k h =>
    obtain ⟨hi, hget⟩ := List.getElem?_eq_some_iff.mp h
    have hsplit : c.threads = c.threads.take i ++ .act l e k :: c.threads.drop (i + 1) := by
      rw [← hget, List.getElem_cons_drop, List.take_append_drop]
    refine .single ?_
    have shows : c.label i = l := by
      unfold label
      rw [h]
    conv => lhs; rw [show c = ⟨c.threads, c.point⟩ from rfl, hsplit]
    exact .act (shows ▸ admitted)
  · exact .refl

theorem admitted_reach (calls : Program S L α → Point S L → Prop) {admits : L → Point S L → Prop} (c : Pool S L α)
    (schedule : List Nat) (admitted : Admitted admits c schedule) : Reach calls admits c (c.runSchedule schedule) := by
  induction schedule generalizing c with
  | nil => exact .refl
  | cons i rest ih => exact (tick_reach calls c i admitted.1).trans (ih (c.tick i) admitted.2)

theorem runSchedule_reach (calls : Program S L α → Point S L → Prop) (c : Pool S L α) (schedule : List Nat) :
    Reach calls (fun _ _ => True) c (c.runSchedule schedule) := by
  induction schedule generalizing c with
  | nil => exact .refl
  | cons i rest ih => exact (tick_reach calls c i fun _ _ => trivial).trans (ih (c.tick i))

/-- A call that is served while no other takes a step. -/
def served (c : Pool S L α) (x : Program S L α) : Pool S L α :=
  ⟨.done (x.run c.point.state).1 :: c.threads, (x.run c.point.state).2, x.emitted c.point.state ++ c.point.trace⟩

theorem served_state (c : Pool S L α) (x : Program S L α) : (c.served x).point.state = (x.run c.point.state).2 := rfl

theorem served_reach {calls : Program S L α → Point S L → Prop} {c : Pool S L α} {x : Program S L α}
    (called : calls x c.point) : Reach calls (fun _ _ => True) c (c.served x) := by
  have runs : ∀ (x : Program S L α) (p : Point S L), Reach calls (fun _ _ => True) ⟨x :: c.threads, p⟩
      ⟨.done (x.run p.state).1 :: c.threads, (x.run p.state).2, x.emitted p.state ++ p.trace⟩ := by
    intro x
    induction x with
    | done a => exact fun p => .refl
    | act l e k ih =>
      intro p
      have next := ih p.state (p.step l e)
      rw [Program.emitted_act, List.append_assoc]
      exact .head (@Step.act _ _ _ calls _ [] c.threads l e k p fun _ _ => trivial) next
  exact .head (.call x called) (runs x c.point)

end Pool

/-! ### One call at a time, with crashes -/

/-- The call in progress, if any, and where the run is. -/
structure Serial (S L α : Type) where
  running : Option (Program S L α)
  point : Point S L

namespace Serial
variable {S L α : Type}

/-- What `crash` does to a state, and the program that runs before calls are
served again. -/
structure Recovery (S L α : Type) where
  crash : S → S → Prop
  restart : Program S L α

inductive Step (calls : Program S L α → Point S L → Prop) (admits : L → Point S L → Prop)
    (r : Recovery S L α) : Serial S L α → Serial S L α → Prop where
  | call {p} (x : Program S L α) : calls x p → Step calls admits r ⟨none, p⟩ ⟨some x, p⟩
  | act {l e k p} : (∀ m ∈ l, admits m p) →
      Step calls admits r ⟨some (.act l e k), p⟩ ⟨some (k p.state), p.step l e⟩
  | finish {a p} : Step calls admits r ⟨some (.done a), p⟩ ⟨none, p⟩
  | crash {x p s} : r.crash p.state s → Step calls admits r ⟨x, p⟩ ⟨some r.restart, ⟨s, p.trace⟩⟩

abbrev Reach (calls : Program S L α → Point S L → Prop) (admits : L → Point S L → Prop)
    (r : Recovery S L α) := Relation.ReflTransGen (Step calls admits r)

variable {inv idle : Point S L → Prop} {admits : L → Point S L → Prop}
  {calls : Program S L α → Point S L → Prop} {r : Recovery S L α}

/-- Between calls `idle` holds; a call in progress will reach it again. -/
def Sound (inv idle : Point S L → Prop) (admits : L → Point S L → Prop) (c : Serial S L α) : Prop :=
  inv c.point ∧ match c.running with
    | none => idle c.point
    | some x => x.Safe (.alone inv admits) (fun _ q => idle q) c.point

/-- **Crashes between any two steps**: `inv` holds at every point of the run, and
`idle` whenever no call is in progress, if each call and the restart program keep
`inv` at every step and end in `idle`. -/
theorem reach_sound
    (hcalls : ∀ x p, calls x p → inv p → idle p →
      x.Safe (.alone inv admits) (fun _ q => idle q) p)
    (hcrash : ∀ p s, inv p → r.crash p.state s → inv ⟨s, p.trace⟩ ∧
      r.restart.Safe (.alone inv admits) (fun _ q => idle q) ⟨s, p.trace⟩)
    {c c' : Serial S L α} (h : Reach calls admits r c c') (hc : Sound inv idle admits c) :
    Sound inv idle admits c' := by
  induction h with
  | refl => exact hc
  | tail _ hstep ih =>
    obtain ⟨hi, hs⟩ := ih
    cases hstep with
    | call x hx => exact ⟨hi, hcalls x _ hx hi hs⟩
    | act ha =>
      obtain ⟨hi', _, hk⟩ := hs _ rfl hi ha
      exact ⟨hi', hk⟩
    | finish => exact ⟨hi, hs⟩
    | crash hx => exact hcrash _ _ hi hx

/-- The call in progress takes `n` steps, or as many as it has. -/
def advance : Nat → Serial S L α → Serial S L α
  | n + 1, ⟨some (.act l e k), p⟩ => advance n ⟨some (k p.state), p.step l e⟩
  | _, c => c

theorem advance_reach (calls : Program S L α → Point S L → Prop) (r : Recovery S L α) (n : Nat) (c : Serial S L α) :
    Reach calls (fun _ _ => True) r c (c.advance n) := by
  fun_induction advance n c with
  | case1 n l e k p ih => exact .head (.act fun _ _ => trivial) ih
  | case2 n c => exact .refl

/-- A call that is at its end is over. -/
def finished : Serial S L α → Serial S L α
  | ⟨some (.done _), p⟩ => ⟨none, p⟩
  | c => c

theorem finished_reach (calls : Program S L α → Point S L → Prop) (r : Recovery S L α) (c : Serial S L α) :
    Reach calls (fun _ _ => True) r c c.finished := by
  unfold finished
  split
  · exact .single .finish
  · exact .refl

/-- The call, started where no other is in progress, takes `n` steps and ends if it can. -/
def serve (n : Nat) (x : Program S L α) (c : Serial S L α) : Serial S L α := (advance n ⟨some x, c.point⟩).finished

theorem serve_reach {calls : Program S L α → Point S L → Prop} {r : Recovery S L α} (n : Nat) {x : Program S L α}
    {c : Serial S L α} (idle : c.running.isNone = true) (called : calls x c.point) :
    Reach calls (fun _ _ => True) r c (c.serve n x) := by
  obtain ⟨running, p⟩ := c
  obtain rfl : running = none := Option.isNone_iff_eq_none.mp idle
  exact .head (.call x called) ((advance_reach calls r n _).trans (finished_reach calls r _))

/-- The process stops and starts again. -/
theorem crash_reach {calls : Program S L α → Point S L → Prop} {r : Recovery S L α} (n : Nat) {c : Serial S L α} {s : S}
    (crashes : r.crash c.point.state s) :
    Reach calls (fun _ _ => True) r c (serve n r.restart ⟨none, s, c.point.trace⟩) :=
  .head (.crash crashes) ((advance_reach calls r n _).trans (finished_reach calls r _))

end Serial

end RmtPlatform
