import Mathlib.Data.List.Basic

/-! # One-permit notification

A notification object with at most one stored permit. `notifyOne` hands the
notification to the longest waiting task, or stores the permit when nobody waits.
A task that was handed a notification and gives up waiting passes it on.
-/

namespace SignalPurple

structure Notify (Task : Type) where
  permit : Bool := false
  waiting : List Task := []
  assigned : List Task := []
  deriving DecidableEq

namespace Notify

variable {Task : Type} [DecidableEq Task]

def notifyOne (notify : Notify Task) : Notify Task :=
  match notify.waiting with
  | [] => { notify with permit := true }
  | task :: rest =>
      { notify with waiting := rest, assigned := notify.assigned ++ [task] }

def await (notify : Notify Task) (task : Task) : Notify Task × Bool :=
  if notify.permit then ({ notify with permit := false }, true)
  else ({ notify with waiting := notify.waiting ++ [task] }, false)

def resume (notify : Notify Task) (task : Task) : Option (Notify Task) :=
  if task ∈ notify.assigned then
    some { notify with assigned := notify.assigned.erase task }
  else none

def cancel (notify : Notify Task) (task : Task) : Option (Notify Task) :=
  if task ∈ notify.assigned then
    some (notifyOne { notify with assigned := notify.assigned.erase task })
  else if task ∈ notify.waiting then
    some { notify with waiting := notify.waiting.erase task }
  else none

/-- A permit is stored, or a task already holds a notification. -/
def Available (notify : Notify Task) : Prop :=
  notify.permit = true ∨ notify.assigned ≠ []

omit [DecidableEq Task] in
theorem available_notifyOne (notify : Notify Task) : notify.notifyOne.Available := by
  unfold notifyOne
  split
  · exact Or.inl rfl
  · exact Or.inr (by simp)

omit [DecidableEq Task] in
/-- Waiting takes a notification away only by serving the task with it. -/
theorem Available.await {notify : Notify Task} (available : notify.Available) (task : Task) :
    (notify.await task).2 = true ∨ (notify.await task).1.Available := by
  unfold Notify.await
  split
  · exact Or.inl rfl
  · exact Or.inr available

theorem Available.cancel {notify next : Notify Task} {task : Task}
    (available : notify.Available) (cancelled : notify.cancel task = some next) :
    next.Available := by
  unfold Notify.cancel at cancelled
  split at cancelled
  · cases cancelled
    exact available_notifyOne _
  · split at cancelled
    · cases cancelled
      exact available
    · cases cancelled

end Notify

end SignalPurple
