import HttpExchange.Action.Clone
import HttpExchange.Proofs.Action.Plan
import HttpExchange.Proofs.Store.Invariant

/-!
# Runs of clients over one store

Clients share a store: each of them makes calls and runs actions, and the order
in which they come is any. What happened since some moment is remembered by a
journal beside the store, which notes every call that succeeds, those inside
actions included. The journal is only looked at, so keeping it changes nothing.

## Main definitions

* `Journaled` — a store with a journal of the calls that succeeded.
* `Event`, `Event.runAll` — what clients do, one after the other.

## Main results

* `Journaled.runAll_store` — keeping a journal changes nothing.
* `Event.runAll_preserves` — what every call keeps, every run keeps.
-/

namespace HttpExchange

open Store

/-- A store, with the calls that succeeded since the journal was begun. -/
structure Journaled where
  store : Store
  journal : List Call

namespace Journaled

/-- A store at the moment when its journal is begun. -/
def start (s : Store) : Journaled := ⟨s, []⟩

/-- Notes a call if it has succeeded. -/
def note {α : Type} (call : Call) (journal : List Call) :
    Except StoreError α × Store → Except StoreError α × Journaled
  | (.ok a, s) => (.ok a, ⟨s, journal ++ [call]⟩)
  | (.error e, s) => (.error e, ⟨s, journal⟩)

instance : ObjectStore Journaled where
  schema? entity j := j.store.schema? entity
  read entity ids fields lang j := j.store.read entity ids fields lang
  create now entity values lang j :=
    note (.create now entity values lang) j.journal (j.store.create now entity values lang)
  update now entity ids values lang j :=
    note (.update now entity ids values lang) j.journal (j.store.update now entity ids values lang)
  cloneObjects now entity ids j :=
    note (.clone now entity ids) j.journal (j.store.cloneObjects now entity ids)

@[simp] theorem start_store (s : Store) : (start s).store = s := rfl

theorem note_store {α : Type} (call : Call) (journal : List Call)
    (r : Except StoreError α × Store) : (note call journal r).2.store = r.2 := by
  rcases r with ⟨_ | a, s⟩ <;> rfl

/-- A call of a store with a journal is the call of the store, noted if it succeeds. -/
theorem run_eq_note (call : Call) (j : Journaled) :
    call.run j = note call j.journal (call.run j.store) := by
  cases call with
  | create now entity values lang =>
      simp only [Call.run, ObjectStore.create]
      rcases j.store.create now entity values lang with ⟨_ | id, s⟩ <;> rfl
  | update now entity ids values lang =>
      simp only [Call.run, ObjectStore.update]
      rcases j.store.update now entity ids values lang with ⟨_ | _, s⟩ <;> rfl
  | clone now entity ids => rfl

end Journaled

/-! ## Events -/

/-- What a client does. -/
inductive Event where
  | call (call : Call)
  | update (wall : Nat → Int) (registry : Registry) (p : UpdateParams) (c : Context)
  | clone (now : Int) (p : CloneParams) (c : Context)

namespace Event

/-- What is left after an event. -/
def run {S : Type} [ObjectStore S] : Event → S → S
  | .call k, s => (k.run s).2
  | .update wall registry p c, s => (Update.run wall registry p s c).2.1
  | .clone now p c, s => (Clone.run now p s c).2.1

/-- What is left after some events, one after the other. -/
def runAll {S : Type} [ObjectStore S] (events : List Event) (s : S) : S :=
  events.foldl (fun s event => event.run s) s

end Event

section Store

variable {S : Type} [ObjectStore S]

theorem Clone.run_store (now : Int) (p : CloneParams) (s : S) (c : Context) :
    (Clone.run now p s c).2.1 = ((Call.clone now p.entity p.ids).run s).2 := by
  simp only [Clone.run, Call.run]
  rcases ObjectStore.cloneObjects now p.entity p.ids s with ⟨_ | ids, s'⟩ <;> rfl

/-- What every call keeps, every event keeps. -/
theorem Event.run_preserves {P : S → Prop} (hcall : ∀ (call : Call) s, P s → P (call.run s).2)
    (event : Event) {s : S} (h : P s) : P (event.run s) := by
  cases event with
  | call call => exact hcall call s h
  | update wall registry p c =>
      rw [Event.run, Update.run_store]
      refine Update.apply_preserves ?_ ?_ wall registry h
      · exact fun now values s h => hcall (.create now p.entity values p.lang) s h
      · exact fun now ids values s h => hcall (.update now p.entity ids values p.lang) s h
  | clone now p c =>
      rw [Event.run, Clone.run_store]
      exact hcall _ s h

/-- **What every call keeps, every run of clients keeps.** -/
theorem Event.runAll_preserves {P : S → Prop}
    (hcall : ∀ (call : Call) s, P s → P (call.run s).2) (events : List Event) {s : S} (h : P s) :
    P (runAll events s) := by
  induction events generalizing s with
  | nil => exact h
  | cons event events ih => exact ih (event.run_preserves hcall h)

end Store

/-! ## Keeping a journal changes nothing -/

namespace Update

variable (wall : Nat → Int) (registry : Registry) (p : UpdateParams)

theorem finish_store (schema : Schema) (ids : List Nat) (fields : Members) (j : Journaled) :
    finish wall registry p schema ids fields j.store =
      ((finish wall registry p schema ids fields j).1,
        (finish wall registry p schema ids fields j).2.store) := by
  simp only [finish, ObjectStore.update]
  rcases j.store.update (wall 2) p.entity ids fields p.lang with ⟨_ | _, s⟩ <;> rfl

theorem execute_store (schema : Schema) (plan : Plan) (j : Journaled) :
    plan.execute wall registry p schema j.store =
      ((plan.execute wall registry p schema j).1,
        (plan.execute wall registry p schema j).2.store) := by
  cases plan with
  | nothing => rfl
  | inPlace ids fields => exact finish_store wall registry p schema ids fields j
  | fork fields =>
      simp only [Plan.execute, ObjectStore.create, ObjectStore.update]
      rcases j.store.create (wall 0) p.entity [("state".toList, draft)] p.lang with ⟨_ | id, s⟩
      · rfl
      · simp only [Journaled.note]
        rcases s.update (wall 1) p.entity [id] fields p.lang with ⟨_ | _, s'⟩
        · rfl
        · exact finish_store wall registry p schema [id] fields ⟨s', _⟩

theorem apply_store (j : Journaled) :
    (apply wall registry p).run.run j.store =
      (((apply wall registry p).run.run j).1, ((apply wall registry p).run.run j).2.store) := by
  have hplan : plan registry p j = plan registry p j.store := rfl
  rw [apply_run, apply_run, hplan]
  rcases plan registry p j.store with _ | ⟨schema, plan⟩
  · rfl
  · exact execute_store wall registry p schema plan j

end Update

namespace Journaled

theorem run_store (event : Event) (j : Journaled) : (event.run j).store = event.run j.store := by
  cases event with
  | call k => rw [Event.run, run_eq_note, note_store, Event.run]
  | update wall registry p c =>
      rw [Event.run, Event.run, Update.run_store, Update.run_store, Update.apply_store]
  | clone now p c =>
      rw [Event.run, Event.run, Clone.run_store, Clone.run_store, run_eq_note, note_store]

/-- **Keeping a journal changes nothing.** -/
theorem runAll_store (events : List Event) (j : Journaled) :
    (Event.runAll events j).store = Event.runAll events j.store := by
  induction events generalizing j with
  | nil => rfl
  | cons event events ih =>
      show (Event.runAll events (event.run j)).store = Event.runAll events (event.run j.store)
      rw [ih, run_store]

end Journaled

end HttpExchange
