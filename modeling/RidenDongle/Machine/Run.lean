import Mathlib.Data.List.Infix
import Mathlib.Logic.Relation

/-!
# Runs of a machine driven by inputs

A machine is a function `step` from a state and an input to the next state;
what it emits is kept in the state. A run is the list of its inputs
(`run`). Three notions about the states a run goes through:

* `Always P`: `P` holds in each of them, the first and the last included;
* `Guarded ok`: each step meets the condition `ok` on the state before it and
  its input;
* `Simulates R`: two machines driven by the same inputs stay related by `R`.

`strayStep` is the machine of which nothing is known once a step has broken the rules.

An invariant is proved once per step and then holds along every guarded run
(`Guarded.always`); where the condition is exact for one step, it is exact for
whole runs (`always_iff_guarded`).
-/

namespace Machine

variable {S T I : Type*} (step : S → I → S)

/-- The state reached from `s` on the inputs `is`. -/
def run (s : S) (is : List I) : S := is.foldl step s

@[simp] theorem run_nil (s : S) : run step s [] = s := rfl

@[simp] theorem run_cons (s : S) (i : I) (is : List I) :
    run step s (i :: is) = run step (step s i) is := rfl

theorem run_append (s : S) (is js : List I) :
    run step s (is ++ js) = run step (run step s is) js := List.foldl_append

/-- The property `P` holds in every state of the run from `s` on the inputs. -/
def Always (P : S → Prop) : S → List I → Prop
  | s, [] => P s
  | s, i :: is => P s ∧ Always P (step s i) is

/-- Every step of the run from `s` on the inputs meets the condition `ok`. -/
def Guarded (ok : S → I → Prop) : S → List I → Prop
  | _, [] => True
  | s, i :: is => ok s i ∧ Guarded ok (step s i) is

instance decidableAlways (P : S → Prop) [DecidablePred P] :
    ∀ (is : List I) (s : S), Decidable (Always step P s is)
  | [], s => inferInstanceAs (Decidable (P s))
  | i :: is, s =>
    have := decidableAlways P is (step s i)
    inferInstanceAs (Decidable (P s ∧ Always step P (step s i) is))

instance decidableGuarded (ok : S → I → Prop) [∀ s i, Decidable (ok s i)] :
    ∀ (is : List I) (s : S), Decidable (Guarded step ok s is)
  | [], _ => inferInstanceAs (Decidable True)
  | i :: is, s =>
    have := decidableGuarded ok is (step s i)
    inferInstanceAs (Decidable (ok s i ∧ Guarded step ok (step s i) is))

variable {step} {P Q : S → Prop} {ok : S → I → Prop} {s : S} {is js : List I}

theorem Always.head (h : Always step P s is) : P s := by
  cases is with
  | nil => exact h
  | cons i is => exact h.1

/-- A property of every state of a run holds where each prefix of it ends. -/
theorem always_iff_prefixes :
    Always step P s is ↔ ∀ js, js <+: is → P (run step s js) := by
  induction is generalizing s with
  | nil => simp [Always, List.prefix_nil]
  | cons i is ih =>
    constructor
    · rintro ⟨hs, h⟩ js hjs
      cases js with
      | nil => exact hs
      | cons j js =>
        obtain ⟨rfl, hjs'⟩ := List.cons_prefix_cons.1 hjs
        exact ih.1 h js hjs'
    · intro h
      refine ⟨h [] List.nil_prefix, ih.2 fun js hjs => ?_⟩
      exact h (i :: js) (List.cons_prefix_cons.2 ⟨rfl, hjs⟩)

theorem Always.last (h : Always step P s is) : P (run step s is) :=
  always_iff_prefixes.1 h is List.prefix_rfl

theorem Always.mono (h : Always step P s is) (hPQ : ∀ s, P s → Q s) : Always step Q s is :=
  always_iff_prefixes.2 fun js hjs => hPQ _ (always_iff_prefixes.1 h js hjs)

theorem Always.append_right (h : Always step P s (is ++ js)) : Always step P (run step s is) js := by
  induction is generalizing s with
  | nil => exact h
  | cons i is ih => exact ih h.2

theorem Guarded.append (h : Guarded step ok s is) (h' : Guarded step ok (run step s is) js) :
    Guarded step ok s (is ++ js) := by
  induction is generalizing s with
  | nil => exact h'
  | cons i is ih => exact ⟨h.1, ih h.2 h'⟩

/-- An invariant preserved by the steps that meet the condition holds in every
    state of a guarded run. -/
theorem Guarded.always (h : Guarded step ok s is) (hs : P s)
    (hstep : ∀ s i, P s → ok s i → P (step s i)) : Always step P s is := by
  induction is generalizing s with
  | nil => exact hs
  | cons i is ih => exact ⟨hs, ih h.2 (hstep s i hs h.1)⟩

theorem Guarded.run (h : Guarded step ok s is) (hs : P s)
    (hstep : ∀ s i, P s → ok s i → P (step s i)) : P (run step s is) :=
  (h.always hs hstep).last

/-- An invariant preserved by every step holds in every state of a run. -/
theorem always_of_step (hs : P s) (hstep : ∀ s i, P s → P (step s i)) (is : List I) :
    Always step P s is := by
  induction is generalizing s with
  | nil => exact hs
  | cons i is ih => exact ⟨hs, ih (hstep s i hs)⟩

/-- Where the condition is exactly what a step needs to preserve `P`, and what
    a run loses it does not get back, the guarded runs are those along which
    `P` holds. The invariant `Q` is what is known along any run. -/
theorem always_iff_guarded (hQ : ∀ s i, Q s → Q (step s i))
    (hstep : ∀ s i, Q s → P s → (P (step s i) ↔ ok s i)) (hq : Q s) (hp : P s) :
    Always step P s is ↔ Guarded step ok s is := by
  induction is generalizing s with
  | nil => exact iff_of_true hp trivial
  | cons i is ih =>
    constructor
    · rintro ⟨_, h⟩
      exact ⟨(hstep s i hq hp).1 h.head, (ih (hQ s i hq) h.head).1 h⟩
    · rintro ⟨hok, h⟩
      have hp' := (hstep s i hq hp).2 hok
      exact ⟨hp, (ih (hQ s i hq) hp').2 h⟩

/-- What a run loses for good it has at its end exactly if it is guarded. The inputs
    are among those that `D` describes. -/
theorem run_iff_guarded {D : I → Prop} (hQ : ∀ s i, Q s → Q (step s i))
    (hstep : ∀ s i, D i → Q s → P s → (P (step s i) ↔ ok s i))
    (hlost : ∀ s i, ¬P s → ¬P (step s i)) (hq : Q s) (hp : P s) (his : ∀ i ∈ is, D i) :
    P (run step s is) ↔ Guarded step ok s is := by
  induction is generalizing s with
  | nil => exact iff_of_true hp trivial
  | cons i is ih =>
    obtain ⟨hi, his⟩ := List.forall_mem_cons.1 his
    by_cases hok : ok s i
    · have hp' : P (step s i) := (hstep s i hi hq hp).2 hok
      exact (ih (hQ s i hq) hp' his).trans (and_iff_right hok).symm
    · have hnot : ¬P (step s i) := fun hp' => hok ((hstep s i hi hq hp).1 hp')
      exact iff_of_false ((always_of_step (P := fun s => ¬P s) hnot hlost is).last) fun h => hok h.1

/-! ### Steps of which nothing is known -/

/-- The machine, of which nothing is known where a step would come to a state that is
    not lawful, as by a store outside an array: there it does whatever `stray` says. -/
def strayStep (step : S → I → S) (lawful : S → Prop) [DecidablePred lawful] (stray : S → I → S)
    (s : S) (i : I) : S :=
  if lawful (step s i) then step s i else stray s i

variable {lawful : S → Prop} [DecidablePred lawful] {stray : S → I → S} {i : I}

theorem strayStep_of_lawful (h : lawful (step s i)) : strayStep step lawful stray s i = step s i :=
  if_pos h

/-- It may go on as if it had not strayed. -/
theorem strayStep_self : strayStep step lawful step = step :=
  funext fun _ => funext fun _ => ite_self _

theorem strayStep_of_not_lawful (h : ¬lawful (step s i)) :
    strayStep step lawful stray s i = stray s i :=
  if_neg h

section

variable (hs : P s) (hstep : ∀ s i, P s → ok s i → lawful (step s i) ∧ P (step s i))
include hs hstep

/-- Where the condition keeps the steps lawful, by the invariant `P`, a guarded run is one of
    the machine itself, whatever the machine does where it strays. -/
theorem guarded_strayStep_iff :
    Guarded (strayStep step lawful stray) ok s is ↔ Guarded step ok s is := by
  induction is generalizing s with
  | nil => exact Iff.rfl
  | cons i is ih =>
    refine and_congr_right fun hok => ?_
    obtain ⟨hlawful, hnext⟩ := hstep s i hs hok
    rw [strayStep_of_lawful hlawful]
    exact ih hnext

theorem Guarded.run_strayStep (h : Guarded step ok s is) :
    Machine.run (strayStep step lawful stray) s is = Machine.run step s is := by
  induction is generalizing s with
  | nil => rfl
  | cons i is ih =>
    obtain ⟨hlawful, hnext⟩ := hstep s i hs h.1
    rw [run_cons, run_cons, strayStep_of_lawful hlawful]
    exact ih hnext h.2

/-- So the same holds along it. -/
theorem Guarded.always_strayStep_iff (h : Guarded step ok s is) :
    Always (strayStep step lawful stray) Q s is ↔ Always step Q s is := by
  induction is generalizing s with
  | nil => exact Iff.rfl
  | cons i is ih =>
    refine and_congr_right fun _ => ?_
    obtain ⟨hlawful, hnext⟩ := hstep s i hs h.1
    rw [strayStep_of_lawful hlawful]
    exact ih hnext h.2

end

/-! ### Two machines on the same inputs -/

variable {step' : T → I → T} {R : S → T → Prop} {t : T}

/-- Related states step, on the same input, to related states. -/
def Simulates (step : S → I → S) (step' : T → I → T) (R : S → T → Prop) : Prop :=
  ∀ s t i, R s t → R (step s i) (step' t i)

theorem Simulates.run (h : Simulates step step' R) (hst : R s t) (is : List I) :
    R (run step s is) (run step' t is) := by
  induction is generalizing s t with
  | nil => exact hst
  | cons i is ih => exact ih (h s t i hst)

/-- A machine whose inputs encode those of a more abstract one follows it along every
    run whose steps meet the condition, which is on the abstract state. -/
theorem related_of_guarded {J : Type*} {step' : T → J → T} {ok : T → J → Prop} {t : T}
    (encode : J → I) {js : List J} (h : Guarded step' ok t js) (hst : R s t)
    (hstep : ∀ s t j, R s t → ok t j → R (step s (encode j)) (step' t j)) :
    R (run step s (js.map encode)) (run step' t js) := by
  induction js generalizing s t with
  | nil => exact hst
  | cons j js ih => exact ih h.2 (hstep s t j hst h.1)

/-- It meets its own condition along the way, where the condition of the abstract machine
    says so. -/
theorem guarded_of_related {J : Type*} {step' : T → J → T} {ok' : T → J → Prop} {t : T}
    (encode : J → I) {js : List J} (h : Guarded step' ok' t js) (hst : R s t)
    (hstep : ∀ s t j, R s t → ok' t j → ok s (encode j) ∧ R (step s (encode j)) (step' t j)) :
    Guarded step ok s (js.map encode) := by
  induction js generalizing s t with
  | nil => trivial
  | cons j js ih =>
    obtain ⟨hok, hst'⟩ := hstep s t j hst h.1
    exact ⟨hok, ih h.2 hst'⟩

end Machine
