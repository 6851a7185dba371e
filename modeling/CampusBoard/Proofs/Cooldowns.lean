import CampusBoard.Cooldown
import CampusBoard.Proofs.Histories
import Mathlib.Tactic.Common

/-!
# The last start of a cool-down decides

A cool-down holds for as long as it was last started for, unless it was released since. Earlier
starts no longer count, also where they were for longer.

## Design

A history is what happened to a cool-down, the time that passed included. A cool-down itself does
not know the time, so a history leads from a cool-down and a clock to a cool-down and a clock. What
it leaves is read off the history with `Since`: the last start is one after which there was no other
and no release. The clock may stand anywhere at first, and nothing here depends on its unit.

Moments are natural numbers without a bound, so each cool-down has a moment at which it lifts. The
clock of a running program ends somewhere: there a start whose moment lies beyond the end makes the
program panic, and such starts are left out of consideration.

## Main definitions

* `CampusBoard.Cooldown.Event`: what happens to a cool-down.
* `CampusBoard.TimedCooldown`: a cool-down with the clock, and what a history makes of it.
* `CampusBoard.Cooldown.HoldsUntil`: the moment up to which the last start of a history counts.

## Main results

* `CampusBoard.TimedCooldown.lifts_after_eq_some_iff`: a cool-down lifts when its last start ends.
* `CampusBoard.TimedCooldown.after_engage`: what comes before a start leaves no trace.
* `CampusBoard.TimedCooldown.last_start_decides`: whether a cool-down holds, and for how long.
-/

set_option autoImplicit false

namespace CampusBoard

namespace Cooldown

/-! ## Readings -/

variable (now : Nat) (c : Cooldown)

/-- A cool-down holds as long as there is time left. -/
lemma isActive_iff_remaining_ne_zero : c.isActive now = true ↔ c.remaining now ≠ 0 := by
  unfold isActive remaining
  cases c.lifts with
  | none => simp
  | some moment => simp [Nat.sub_eq_zero_iff_le]

/-- The time that passes is taken from what is left. -/
lemma remaining_add (time : Nat) :
    c.remaining (now + time) = c.remaining now - min time (c.remaining now) := by
  unfold remaining
  cases c.lifts with
  | none => simp
  | some moment =>
    change moment - (now + time) = moment - now - min time (moment - now)
    omega

/-! ## Histories -/

/-- What happens to a cool-down. -/
inductive Event
  /-- It is started for a duration. -/
  | engage (duration : Nat)
  /-- It is released. -/
  | release
  /-- Time passes. -/
  | wait (time : Nat)
  deriving DecidableEq, Repr

/-- The time that passes in an event. -/
def Event.time : Event → Nat
  | .engage _ | .release => 0
  | .wait time => time

/-- Whether an event starts the cool-down. -/
def Event.Starts (e : Event) : Prop :=
  ∃ duration, e = .engage duration

/-- The time that passes in a history. -/
def elapsed : List Event → Nat
  | [] => 0
  | e :: rest => e.time + elapsed rest

/-- The last event of a history takes its time after that of the others. -/
lemma elapsed_concat (history : List Event) (e : Event) :
    elapsed (history ++ [e]) = elapsed history + e.time := by
  induction history with
  | nil => exact Nat.add_comm e.time 0
  | cons earlier history ih => rw [List.cons_append, elapsed, elapsed, ih, Nat.add_assoc]

/-- The last start of a history comes after its last release, and is for a duration that ends at
`moment`. The clock stood at `first` before the history. -/
def HoldsUntil (first moment : Nat) : List Event → Prop :=
  Since
    (fun before e => ∃ duration, e = .engage duration ∧ first + elapsed before + duration = moment)
    (fun e => e.Starts ∨ e = .release)

variable {first moment : Nat} {history : List Event}

/-- Nothing has been started at first. -/
lemma not_holdsUntil_nil : ¬HoldsUntil first moment [] :=
  not_since_nil _ _

/-- A start takes the place of all earlier ones. -/
lemma holdsUntil_concat_engage (duration : Nat) :
    HoldsUntil first moment (history ++ [.engage duration]) ↔
      first + elapsed history + duration = moment := by
  rw [HoldsUntil, since_concat]
  simp [Event.Starts]

/-- After a release there is no start that counts. -/
lemma not_holdsUntil_concat_release : ¬HoldsUntil first moment (history ++ [.release]) := by
  rw [HoldsUntil, since_concat]
  simp

/-- Time that passes changes nothing about the last start. -/
lemma holdsUntil_concat_wait (time : Nat) :
    HoldsUntil first moment (history ++ [.wait time]) ↔ HoldsUntil first moment history := by
  rw [HoldsUntil, since_concat]
  simp [Event.Starts]

/-- A start after which there was no other is the last one, if any counts. -/
lemma HoldsUntil.eq_of_last {before later : List Event} {duration : Nat}
    (h : HoldsUntil first moment (before ++ .engage duration :: later))
    (hlater : ∀ e ∈ later, ¬e.Starts) : moment = first + elapsed before + duration := by
  induction later using List.reverseRecOn with
  | nil => exact ((holdsUntil_concat_engage duration).mp h).symm
  | append_singleton later e ih =>
    rw [← List.cons_append, ← List.append_assoc] at h
    cases e with
    | engage other => exact absurd ⟨other, rfl⟩ (hlater (.engage other) (by simp))
    | release => exact absurd h not_holdsUntil_concat_release
    | wait time =>
      refine ih ((holdsUntil_concat_wait time).mp h) fun e he => ?_
      exact hlater e (List.mem_append_left _ he)

end Cooldown

/-! ## Runs -/

/-- A cool-down and the clock. -/
structure TimedCooldown where
  /-- The moment. -/
  now : Nat
  /-- The cool-down. -/
  cooldown : Cooldown
  deriving DecidableEq, Repr

namespace TimedCooldown

open Cooldown (Event elapsed elapsed_concat HoldsUntil)

/-- A cool-down that was not started yet. -/
def fresh (first : Nat) : TimedCooldown :=
  ⟨first, .idle⟩

/-- The cool-down and the clock after an event. -/
def next (t : TimedCooldown) : Event → TimedCooldown
  | .engage duration => ⟨t.now, t.cooldown.engage t.now duration⟩
  | .release => ⟨t.now, t.cooldown.release⟩
  | .wait time => ⟨t.now + time, t.cooldown⟩

/-- The cool-down and the clock at the end of a history. -/
def after (t : TimedCooldown) (history : List Event) : TimedCooldown :=
  history.foldl next t

/-- Whether the cool-down holds. -/
def isActive (t : TimedCooldown) : Bool :=
  t.cooldown.isActive t.now

/-- The time that is left. -/
def remaining (t : TimedCooldown) : Nat :=
  t.cooldown.remaining t.now

variable (first : Nat) (history : List Event)

/-- The last event of a history comes after the others. -/
lemma after_concat (t : TimedCooldown) (e : Event) :
    t.after (history ++ [e]) = (t.after history).next e := by
  simp [after]

/-- The clock moves on by the time that passes. -/
lemma now_after : ((fresh first).after history).now = first + elapsed history := by
  induction history using List.reverseRecOn with
  | nil => rfl
  | append_singleton history e ih =>
    rw [after_concat, elapsed_concat, ← Nat.add_assoc, ← ih]
    cases e <;> rfl

/-- **What comes before a start leaves no trace** but the time that has passed. -/
theorem after_engage (before : List Event) (duration : Nat) (later : List Event) :
    (fresh first).after (before ++ .engage duration :: later) =
      (fresh (first + elapsed before)).after (.engage duration :: later) := by
  rw [← now_after]
  unfold after
  rw [List.foldl_append]
  rfl

/-- **A cool-down lifts when its last start ends**, and it does not hold where no start counts.

**Proof sketch.** Induction on the history from its end, by what the last event does to the
cool-down and to the last start that counts. -/
theorem lifts_after_eq_some_iff (moment : Nat) :
    ((fresh first).after history).cooldown.lifts = some moment ↔
      HoldsUntil first moment history := by
  induction history using List.reverseRecOn with
  | nil => exact iff_of_false (by simp [after, fresh, Cooldown.idle]) Cooldown.not_holdsUntil_nil
  | append_singleton history e ih =>
    rw [after_concat]
    cases e with
    | engage duration =>
      rw [Cooldown.holdsUntil_concat_engage, ← now_after]
      exact Option.some_inj
    | release =>
      exact iff_of_false (by simp [next, Cooldown.release, Cooldown.idle])
        Cooldown.not_holdsUntil_concat_release
    | wait time =>
      rw [Cooldown.holdsUntil_concat_wait]
      exact ih

/-- A cool-down holds up to the end of its last start. -/
lemma isActive_after_iff :
    ((fresh first).after history).isActive = true ↔
      ∃ moment, HoldsUntil first moment history ∧ first + elapsed history < moment := by
  rw [isActive, Cooldown.isActive_eq_true_iff, now_after]
  simp only [lifts_after_eq_some_iff]

/-- What is left of the last start is what is left of the cool-down. -/
lemma remaining_after {moment : Nat} (h : HoldsUntil first moment history) :
    ((fresh first).after history).remaining = moment - (first + elapsed history) := by
  rw [remaining, Cooldown.remaining, (lifts_after_eq_some_iff first history moment).mpr h,
    now_after]

/-- **The last start decides.** Whatever happens to a cool-down, in whatever order, and wherever the
clock stands at first:

* it holds if and only if it was started, was not released since its last start, and the clock
  stands before the end of that start;
* what is left is the time up to then, and nothing while it does not hold, so that it holds just
  while something is left;
* what came before a start does not matter any more, so that a cool-down ends with its last start,
  also if an earlier one was for longer;
* the time that passes is taken from what is left, up to nothing. -/
theorem last_start_decides (first : Nat) (history : List Event) :
    let now := first + elapsed history
    let t := (fresh first).after history
    t.now = now ∧
    (t.isActive = true ↔ ∃ moment, HoldsUntil first moment history ∧ now < moment) ∧
    (∀ moment, HoldsUntil first moment history → now < moment → now + t.remaining = moment) ∧
    ((¬∃ moment, HoldsUntil first moment history ∧ now < moment) → t.remaining = 0) ∧
    (t.isActive = true ↔ t.remaining ≠ 0) ∧
    (∀ before duration later, history = before ++ .engage duration :: later →
      t = (fresh (first + elapsed before)).after (.engage duration :: later) ∧
        ((∀ e ∈ later, ¬e.Starts) → t.isActive = true → now < first + elapsed before + duration)) ∧
    ∀ time, ((fresh first).after (history ++ [.wait time])).remaining =
      t.remaining - min time t.remaining := by
  intro now t
  have hactive : t.isActive = true ↔ ∃ moment, HoldsUntil first moment history ∧ now < moment :=
    isActive_after_iff first history
  have hleft : t.isActive = true ↔ t.remaining ≠ 0 :=
    Cooldown.isActive_iff_remaining_ne_zero t.now t.cooldown
  refine ⟨now_after first history, hactive, ?_, ?_, hleft, ?_, ?_⟩
  · intro moment hmoment hnow
    have hremaining : t.remaining = moment - now := remaining_after first history hmoment
    omega
  · intro hnone
    by_contra hsome
    exact hnone (hactive.mp (hleft.mpr hsome))
  · intro before duration later hsplit
    refine ⟨(congrArg (fresh first).after hsplit).trans (after_engage ..), ?_⟩
    intro hlater hholds
    obtain ⟨moment, hmoment, hnow⟩ := hactive.mp hholds
    rw [hsplit] at hmoment
    rwa [hmoment.eq_of_last hlater] at hnow
  · intro time
    rw [after_concat]
    exact Cooldown.remaining_add t.now t.cooldown time

/-- A cool-down is started for ten seconds, and soon after that for ten milliseconds. -/
def shorterLast : List Event :=
  [.engage 10000, .wait 4, .engage 10, .wait 6]

/-- The shorter start counts: it has four milliseconds left, and nothing is left after five. -/
theorem last_start_decides_shorterLast :
    HoldsUntil 0 14 shorterLast ∧ elapsed shorterLast < 14 ∧
      ((fresh 0).after shorterLast).isActive = true ∧
      ((fresh 0).after shorterLast).remaining = 4 ∧
      ((fresh 0).after shorterLast).now < 4 + 10 ∧
      ((fresh 0).after (shorterLast ++ [.wait 5])).remaining = 0 := by
  have hlast : HoldsUntil 0 14 shorterLast :=
    ⟨[.engage 10000, .wait 4], .engage 10, [.wait 6], rfl, ⟨10, rfl, rfl⟩, by simp [Event.Starts]⟩
  have hnow : 0 + elapsed shorterLast < 14 := by decide
  obtain ⟨hclock, hactive, hleft, -, -, hends, hwait⟩ := last_start_decides 0 shorterLast
  have hholds : ((fresh 0).after shorterLast).isActive = true := hactive.mpr ⟨14, hlast, hnow⟩
  have hremaining : ((fresh 0).after shorterLast).remaining = 4 := by
    have hmoment := hleft 14 hlast hnow
    have helapsed : elapsed shorterLast = 10 := rfl
    omega
  obtain ⟨-, hbound⟩ := hends [.engage 10000, .wait 4] 10 [.wait 6] rfl
  refine ⟨hlast, by decide, hholds, hremaining, ?_, ?_⟩
  · rw [hclock]
    exact hbound (by simp [Event.Starts]) hholds
  · rw [hwait 5, hremaining]
    rfl

end TimedCooldown

end CampusBoard
