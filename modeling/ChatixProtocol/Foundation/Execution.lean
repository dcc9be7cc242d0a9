import Mathlib.Data.List.Basic
import Mathlib.Data.List.Nodup
import Mathlib.Order.Lattice

/-! # Runs of a transition system

A system is a step function from a state and an event to the next state. A run
is a list of events taken in order. Invariants and relations established for one
step hold over every run.
-/

namespace ChatixProtocol.Execution

variable {State Event : Type*}

/-- The state reached by taking the events in order. -/
def run (step : State → Event → State) (start : State) (events : List Event) : State :=
  events.foldl step start

@[simp] theorem run_nil (step : State → Event → State) (start : State) :
    run step start [] = start := rfl

@[simp] theorem run_cons (step : State → Event → State) (start : State) (event : Event)
    (events : List Event) :
    run step start (event :: events) = run step (step start event) events := rfl

theorem run_append (step : State → Event → State) (start : State)
    (before after : List Event) :
    run step start (before ++ after) = run step (run step start before) after :=
  List.foldl_append

/-- What one step preserves, a run preserves. -/
theorem run_invariant {step : State → Event → State} (invariant : State → Prop)
    (preserved : ∀ state event, invariant state → invariant (step state event))
    {start : State} (holds : invariant start) (events : List Event) :
    invariant (run step start events) := by
  induction events generalizing start with
  | nil => exact holds
  | cons event events induction => exact induction (preserved start event holds)

/-- Only the events of the run need to preserve an invariant of the run. -/
theorem run_invariant_of_mem {step : State → Event → State} (invariant : State → Prop)
    {start : State} {events : List Event}
    (preserved : ∀ state, ∀ event ∈ events, invariant state → invariant (step state event))
    (holds : invariant start) : invariant (run step start events) := by
  induction events generalizing start with
  | nil => exact holds
  | cons event events induction =>
      refine induction (fun state later member => ?_) (preserved start event (by simp) holds)
      exact preserved state later (List.mem_cons_of_mem _ member)

/-- What an event brings about and no step takes away holds after a run that began with it
or has such an event. -/
theorem run_iff {step : State → Event → State} (holds : State → Prop) (causes : Event → Prop)
    (steps : ∀ state event, holds (step state event) ↔ holds state ∨ causes event)
    (start : State) (events : List Event) :
    holds (run step start events) ↔ holds start ∨ ∃ event ∈ events, causes event := by
  induction events generalizing start with
  | nil => simp
  | cons event events induction =>
      rw [run_cons, induction, steps, List.exists_mem_cons_iff, or_assoc]

/-- A preorder that every step follows relates the two ends of a run. -/
theorem run_relates {step : State → Event → State} (relates : State → State → Prop)
    (reflexive : ∀ state, relates state state)
    (transitive : ∀ first second third, relates first second → relates second third →
      relates first third)
    (follows : ∀ state event, relates state (step state event))
    (start : State) (events : List Event) :
    relates start (run step start events) := by
  induction events generalizing start with
  | nil => exact reflexive start
  | cons event events induction =>
      exact transitive _ _ _ (follows start event) (induction (step start event))

/-! ## Histories with increasing keys

Messages carry keys that only ever grow. Two histories of that kind need only be
compared as sets: if every entry of one occurs in the other, it is a
subsequence of it. -/

section Histories

variable {α κ : Type*} [LinearOrder κ]

/-- The keys of a history grow strictly. -/
def Increasing (key : α → κ) (history : List α) : Prop :=
  history.Pairwise fun earlier later => key earlier < key later

theorem Increasing.concat {key : α → κ} {history : List α}
    (increasing : Increasing key history) {entry : α}
    (newer : ∀ earlier ∈ history, key earlier < key entry) :
    Increasing key (history ++ [entry]) :=
  List.pairwise_append.mpr ⟨increasing, List.pairwise_singleton _ _, by simpa using newer⟩

theorem increasing_map_iff {β : Type*} {key : β → κ} {entry : α → β} {history : List α} :
    Increasing key (history.map entry) ↔ Increasing (fun source => key (entry source)) history :=
  List.pairwise_map

theorem Increasing.keys_nodup {key : α → κ} {history : List α}
    (increasing : Increasing key history) : (history.map key).Nodup :=
  List.pairwise_map.mpr (increasing.imp fun smaller => smaller.ne)

theorem Increasing.nodup {key : α → κ} {history : List α}
    (increasing : Increasing key history) : history.Nodup :=
  List.Nodup.of_map key increasing.keys_nodup

/-- Keys grow with the position, so a contained history is a subsequence. -/
theorem Increasing.sublist {key : α → κ} {part whole : List α}
    (partIncreasing : Increasing key part) (wholeIncreasing : Increasing key whole)
    (contained : part ⊆ whole) : part.Sublist whole := by
  induction whole generalizing part with
  | nil => rw [List.subset_nil.mp contained]
  | cons head tail induction =>
      have tailIncreasing : Increasing key tail := (List.pairwise_cons.mp wholeIncreasing).2
      have headSmallest := (List.pairwise_cons.mp wholeIncreasing).1
      cases part with
      | nil => exact List.nil_sublist _
      | cons first rest =>
          have firstSmallest := (List.pairwise_cons.mp partIncreasing).1
          have restIncreasing : Increasing key rest := (List.pairwise_cons.mp partIncreasing).2
          -- An entry above the smallest key of `part` cannot be the head of `whole`.
          have restInTail : key head ≤ key first → rest ⊆ tail := by
            intro above entry member
            have different : entry ≠ head := by
              intro same
              subst same
              exact absurd (firstSmallest _ member) (not_lt.mpr above)
            exact (List.mem_cons.mp (contained (List.mem_cons_of_mem _ member))).resolve_left
              different
          rcases List.mem_cons.mp (contained List.mem_cons_self) with rfl | inTail
          · exact (induction restIncreasing tailIncreasing (restInTail le_rfl)).cons_cons _
          · have above := headSmallest _ inTail
            refine (induction partIncreasing tailIncreasing ?_).cons _
            intro entry member
            rcases List.mem_cons.mp member with rfl | inRest
            · exact inTail
            · exact restInTail above.le inRest

end Histories

end ChatixProtocol.Execution
