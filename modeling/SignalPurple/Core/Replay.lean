import SignalPurple.Core.Projection

/-! # The replay queue

Contents that wait to be projected. Content with a group context is set apart until the
account's groups are known, in the order it came.
-/

namespace SignalPurple

structure MessageReplayQueue where
  ready : List Content := []
  waitingForGroups : List Content := []
  deriving DecidableEq

namespace MessageReplayQueue

def push (queue : MessageReplayQueue) (content : Content) (groupsAuthoritative : Bool) :
    MessageReplayQueue :=
  if contentHasGroupContext content.body && !groupsAuthoritative then
    { queue with waitingForGroups := queue.waitingForGroups ++ [content] }
  else { queue with ready := queue.ready ++ [content] }

/-- Both queues are cleared before the messages are pushed in order. -/
def replace (_queue : MessageReplayQueue) (messages : List Content)
    (groupsAuthoritative : Bool) : MessageReplayQueue :=
  messages.foldl (fun queue content => queue.push content groupsAuthoritative) {}

def activateGroups (queue : MessageReplayQueue) : MessageReplayQueue where
  ready := queue.ready ++ queue.waitingForGroups
  waitingForGroups := []

def popReady (queue : MessageReplayQueue) : Option (Content × MessageReplayQueue) :=
  match queue.ready with
  | [] => none
  | content :: ready => some (content, { queue with ready })

def canAcceptLiveMessage (queue : MessageReplayQueue) : Bool :=
  decide (queue.ready.length + queue.waitingForGroups.length < maxPendingMessageProjections)

/-- No content that is ready needs to know the account's groups. -/
def FreeOfGroups (queue : MessageReplayQueue) : Prop :=
  ∀ content ∈ queue.ready, contentHasGroupContext content.body = false

theorem ready_eq_nil_of_popReady {queue : MessageReplayQueue} (empty : queue.popReady = none) :
    queue.ready = [] := by
  unfold popReady at empty
  split at empty
  next nothing =>
    exact nothing
  next => cases empty

theorem ready_of_popReady {queue rest : MessageReplayQueue} {content : Content}
    (popped : queue.popReady = some (content, rest)) :
    queue.ready = content :: rest.ready := by
  unfold popReady at popped
  split at popped
  next => cases popped
  next head tail ready =>
    cases popped
    exact ready

namespace FreeOfGroups

variable {queue : MessageReplayQueue}

theorem push (free : FreeOfGroups queue) (content : Content) :
    FreeOfGroups (queue.push content false) := by
  unfold MessageReplayQueue.push
  split
  next => exact free
  next direct =>
    intro other member
    rcases List.mem_append.mp member with before | new
    · exact free other before
    · have same : other = content := by simpa using new
      simpa [same] using direct

theorem replace (queue : MessageReplayQueue) (messages : List Content) :
    FreeOfGroups (queue.replace messages false) := by
  suffices pushed : ∀ start : MessageReplayQueue, FreeOfGroups start →
      FreeOfGroups (messages.foldl (fun queue content => queue.push content false) start) by
    exact pushed {} (by simp [FreeOfGroups])
  induction messages with
  | nil => exact fun _ free => free
  | cons content messages induction =>
      intro start free
      exact induction _ (free.push content)

theorem popReady {rest : MessageReplayQueue} {content : Content} (free : FreeOfGroups queue)
    (popped : queue.popReady = some (content, rest)) : FreeOfGroups rest := by
  intro other member
  apply free other
  rw [ready_of_popReady popped]
  exact List.mem_cons_of_mem _ member

end FreeOfGroups

end MessageReplayQueue

end SignalPurple
