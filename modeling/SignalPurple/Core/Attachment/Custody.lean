import SignalPurple.Core.Attachment.Worker

/-! # Where the permits are

A permit travels through the channel, the deferred queue, a task and its completion. While
the worker serves, the map of running attachments lists exactly the tasks that hold a
permit, so a request that is taken from the queue never displaces another in the map.
-/

namespace SignalPurple

/-- Everything that holds a permit, the map, and the ids that the table lists. -/
structure Places where
  waiting : List SendAttachment
  running : List AttachmentTask
  /-- The tasks that returned, whether they were joined or not. -/
  completed : List AttachmentCompletion
  aborted : List AttachmentPermit
  aborts : AList fun _ : UInt64 => AttachmentControl
  Listed : UInt64 → Prop

def AttachmentWorker.places (worker : AttachmentWorker) : Places where
  waiting := worker.channel ++ worker.deferred
  running := worker.running
  completed := worker.returned ++ worker.phase.collected
  aborted := worker.aborted
  aborts := worker.aborts
  Listed := (· ∈ worker.core.attachments.state.requests)

namespace Places

def holders (places : Places) : List AttachmentPermit :=
  places.waiting.map (·.permit) ++ places.running.map (·.permit) ++
    places.completed.map (·.permit) ++ places.aborted

/-- The map has the control of the permit under its request. -/
def Filed (places : Places) (requestId : UInt64) (permit : AttachmentPermit) : Prop :=
  permit.requestId = requestId ∧ places.aborts.lookup requestId = some permit.control

/-- The permit is dropped, and the table forgets its request. -/
def Unlisted (places : Places) (permit : AttachmentPermit) (requestId : UInt64) : Prop :=
  requestId ≠ permit.requestId ∧ places.Listed requestId

/-- One completion is reported and its permit dropped; the others are left. -/
def finished (places : Places) (completion : AttachmentCompletion)
    (completed : List AttachmentCompletion) : Places :=
  { places with
    completed
    aborts := places.aborts.erase completion.requestId
    Listed := places.Unlisted completion.permit }

end Places

/-- Every permit belongs to one holder and is listed in the table; what a task holds is in
the map. -/
structure Custody (places : Places) : Prop where
  named : ∀ attachment ∈ places.waiting, attachment.permit.requestId = attachment.requestId
  once : (places.holders.map (·.requestId)).Nodup
  listed : ∀ permit ∈ places.holders, places.Listed permit.requestId
  running : ∀ task ∈ places.running, places.Filed task.requestId task.permit
  completed : ∀ completion ∈ places.completed,
    places.Filed completion.requestId completion.permit

namespace Custody

variable {places next : Places} {permit : AttachmentPermit}

theorem listed_of_perm (custody : Custody places) (moved : next.holders.Perm places.holders)
    (same : next.Listed = places.Listed) :
    (next.holders.map (·.requestId)).Nodup ∧
      ∀ permit ∈ next.holders, next.Listed permit.requestId := by
  refine ⟨(moved.map _).nodup_iff.mpr custody.once, ?_⟩
  intro permit member
  rw [same]
  exact custody.listed permit (moved.mem_iff.mp member)

theorem listed_of_drop (custody : Custody places)
    (moved : places.holders.Perm (permit :: next.holders))
    (listed : next.Listed = places.Unlisted permit) :
    (next.holders.map (·.requestId)).Nodup ∧
      ∀ other ∈ next.holders, next.Listed other.requestId := by
  have nodup := (moved.map (·.requestId)).nodup_iff.mp custody.once
  rw [List.map_cons, List.nodup_cons] at nodup
  refine ⟨nodup.2, ?_⟩
  intro other member
  rw [listed]
  constructor
  · intro same
    exact nodup.1 (List.mem_map.mpr ⟨other, member, same⟩)
  · exact custody.listed other (moved.mem_iff.mpr (List.mem_cons_of_mem _ member))

theorem apart_of_perm (custody : Custody places) {rest : List AttachmentPermit}
    (split : places.holders.Perm (permit :: rest)) {other : AttachmentPermit}
    (member : other ∈ rest) : other.requestId ≠ permit.requestId := by
  have nodup := (split.map (·.requestId)).nodup_iff.mp custody.once
  rw [List.map_cons, List.nodup_cons] at nodup
  intro same
  exact nodup.1 (List.mem_map.mpr ⟨other, member, same⟩)

theorem reorder (custody : Custody places) {waiting : List SendAttachment}
    {completed : List AttachmentCompletion} (waits : waiting.Perm places.waiting)
    (returns : completed.Perm places.completed) :
    Custody { places with waiting, completed } := by
  have moved : Places.holders { places with waiting, completed } |>.Perm places.holders :=
    (((waits.map _).append_right _).append (returns.map _)).append_right _
  have listed := custody.listed_of_perm moved rfl
  exact {
    named := fun attachment member => custody.named attachment (waits.mem_iff.mp member)
    once := listed.1
    listed := listed.2
    running := custody.running
    completed := fun completion member =>
      custody.completed completion (returns.mem_iff.mp member) }

theorem enter (custody : Custody places) {attachment : SendAttachment}
    (named : attachment.permit.requestId = attachment.requestId)
    (fresh : ¬places.Listed attachment.requestId) :
    Custody { places with
      waiting := attachment :: places.waiting
      Listed := fun requestId =>
        requestId = attachment.requestId ∨ places.Listed requestId } where
  named other member := by
    rcases List.mem_cons.mp member with rfl | earlier
    · exact named
    · exact custody.named other earlier
  once := by
    refine List.nodup_cons.mpr ⟨?_, custody.once⟩
    intro member
    obtain ⟨permit, held, same⟩ := List.mem_map.mp member
    have listed : places.Listed attachment.requestId :=
      same.trans named ▸ custody.listed permit held
    exact fresh listed
  listed permit member := by
    rcases List.mem_cons.mp member with rfl | earlier
    · exact .inl named
    · exact .inr (custody.listed permit earlier)
  running := custody.running
  completed := custody.completed

theorem discard (custody : Custody places) {attachment : SendAttachment}
    {waiting : List SendAttachment}
    (split : places.waiting.Perm (attachment :: waiting)) :
    Custody { places with waiting, Listed := places.Unlisted attachment.permit } := by
  have moved : places.holders.Perm (attachment.permit ::
      Places.holders { places with waiting, Listed := places.Unlisted attachment.permit }) :=
    (((split.map (·.permit)).append_right _).append_right _).append_right _
  have listed := custody.listed_of_drop moved rfl
  exact {
    named := fun other member =>
      custody.named other (split.mem_iff.mpr (List.mem_cons_of_mem _ member))
    once := listed.1
    listed := listed.2
    running := custody.running
    completed := custody.completed }

theorem start (custody : Custody places) {attachment : SendAttachment}
    {waiting : List SendAttachment} (split : places.waiting.Perm (attachment :: waiting))
    (free : attachment.requestId ∉ places.aborts) :
    Custody { places with
      waiting
      running := places.running ++
        [{ requestId := attachment.requestId, permit := attachment.permit }]
      aborts := places.aborts.insert attachment.requestId attachment.permit.control } := by
  have moved : Places.holders { places with
      waiting
      running := places.running ++
        [{ requestId := attachment.requestId, permit := attachment.permit }]
      aborts := places.aborts.insert attachment.requestId attachment.permit.control } |>.Perm
        places.holders := by
    rw [List.perm_iff_count]
    intro permit
    have counted := (split.map (·.permit)).count_eq permit
    simp only [Places.holders, List.count_append, List.map_append, List.map_cons, List.map_nil,
      List.count_cons, List.count_nil] at counted ⊢
    omega
  have listed := custody.listed_of_perm moved rfl
  have kept : ∀ requestId permit, places.Filed requestId permit →
      (places.aborts.insert attachment.requestId attachment.permit.control).lookup requestId =
        some permit.control := by
    intro requestId permit filed
    have apart : requestId ≠ attachment.requestId := by
      rintro rfl
      apply free
      rw [← AList.lookup_isSome, filed.2]
      rfl
    rw [AList.lookup_insert_ne apart]
    exact filed.2
  exact {
    named := fun other member =>
      custody.named other (split.mem_iff.mpr (List.mem_cons_of_mem _ member))
    once := listed.1
    listed := listed.2
    running := by
      intro task member
      rcases List.mem_append.mp member with earlier | new
      · have filed := custody.running task earlier
        exact ⟨filed.1, kept _ _ filed⟩
      · rw [List.mem_singleton.mp new]
        exact ⟨custody.named attachment (split.mem_iff.mpr List.mem_cons_self),
          AList.lookup_insert _⟩
    completed := fun completion member =>
      have filed := custody.completed completion member
      ⟨filed.1, kept _ _ filed⟩ }

theorem taskReturned (custody : Custody places) {task : AttachmentTask}
    {running : List AttachmentTask} (split : places.running.Perm (task :: running))
    (result : AttachmentTaskResult) :
    Custody { places with
      running
      completed := { requestId := task.requestId, result, permit := task.permit } ::
        places.completed } := by
  have moved : Places.holders { places with
      running
      completed := { requestId := task.requestId, result, permit := task.permit } ::
        places.completed } |>.Perm places.holders := by
    rw [List.perm_iff_count]
    intro permit
    have counted := (split.map (·.permit)).count_eq permit
    simp only [Places.holders, List.count_append, List.map_cons, List.count_cons] at counted ⊢
    omega
  have listed := custody.listed_of_perm moved rfl
  have returning := custody.running task (split.mem_iff.mpr List.mem_cons_self)
  exact {
    named := custody.named
    once := listed.1
    listed := listed.2
    running := fun other member =>
      custody.running other (split.mem_iff.mpr (List.mem_cons_of_mem _ member))
    completed := by
      intro completion member
      rcases List.mem_cons.mp member with rfl | earlier
      · exact returning
      · exact custody.completed completion earlier }

theorem lookup_erase (custody : Custody places) {permit other : AttachmentPermit}
    {rest : List AttachmentPermit} {requestId : UInt64}
    (split : places.holders.Perm (permit :: rest)) (held : other ∈ rest)
    (filed : places.Filed requestId other) :
    (places.aborts.erase permit.requestId).lookup requestId = some other.control := by
  have apart : requestId ≠ permit.requestId := by
    rw [← filed.1]
    exact custody.apart_of_perm split held
  rw [AList.lookup_erase_ne apart]
  exact filed.2

theorem holders_completed {completion : AttachmentCompletion}
    {completed : List AttachmentCompletion}
    (split : places.completed.Perm (completion :: completed)) :
    places.holders.Perm (completion.permit :: Places.holders { places with completed }) := by
  rw [List.perm_iff_count]
  intro permit
  have counted := (split.map (·.permit)).count_eq permit
  simp only [Places.holders, List.count_append, List.map_cons, List.count_cons] at counted ⊢
  omega

theorem lose (custody : Custody places) {completion : AttachmentCompletion}
    {completed : List AttachmentCompletion}
    (split : places.completed.Perm (completion :: completed)) :
    Custody { places with completed, Listed := places.Unlisted completion.permit } := by
  have moved : places.holders.Perm (completion.permit :: Places.holders
      { places with completed, Listed := places.Unlisted completion.permit }) :=
    holders_completed split
  have listed := custody.listed_of_drop moved rfl
  exact {
    named := custody.named
    once := listed.1
    listed := listed.2
    running := custody.running
    completed := fun other member =>
      custody.completed other (split.mem_iff.mpr (List.mem_cons_of_mem _ member)) }

theorem finish (custody : Custody places) {completion : AttachmentCompletion}
    {completed : List AttachmentCompletion}
    (split : places.completed.Perm (completion :: completed)) :
    Custody (places.finished completion completed) := by
  have lost := custody.lose split
  have filed := custody.completed completion (split.mem_iff.mpr List.mem_cons_self)
  have held := holders_completed split
  rw [Places.finished, ← filed.1]
  exact {
    named := lost.named
    once := lost.once
    listed := lost.listed
    running := by
      intro task member
      have filed := custody.running task member
      refine ⟨filed.1, custody.lookup_erase held ?_ filed⟩
      simp only [Places.holders, List.mem_append]
      exact .inl (.inl (.inr (List.mem_map_of_mem member)))
    completed := by
      intro other member
      have filed := lost.completed other member
      refine ⟨filed.1, custody.lookup_erase held ?_ filed⟩
      simp only [Places.holders, List.mem_append]
      exact .inl (.inr (List.mem_map_of_mem member)) }

theorem abort (custody : Custody places) :
    Custody { places with
      running := []
      aborted := places.aborted ++ places.running.map (·.permit) } := by
  have moved : Places.holders { places with
      running := []
      aborted := places.aborted ++ places.running.map (·.permit) } |>.Perm
        places.holders := by
    rw [List.perm_iff_count]
    intro permit
    simp only [Places.holders, List.count_append, List.map_nil, List.count_nil]
    omega
  have listed := custody.listed_of_perm moved rfl
  exact {
    named := custody.named
    once := listed.1
    listed := listed.2
    running := by simp
    completed := custody.completed }

theorem reap (custody : Custody places) {aborted : List AttachmentPermit}
    (split : places.aborted.Perm (permit :: aborted)) :
    Custody { places with aborted, Listed := places.Unlisted permit } := by
  have moved : places.holders.Perm (permit ::
      Places.holders { places with aborted, Listed := places.Unlisted permit }) := by
    rw [List.perm_iff_count]
    intro other
    have counted := split.count_eq other
    simp only [Places.holders, List.count_append, List.count_cons] at counted ⊢
    omega
  have listed := custody.listed_of_drop moved rfl
  exact {
    named := custody.named
    once := listed.1
    listed := listed.2
    running := custody.running
    completed := custody.completed }

theorem interrupt (custody : Custody places) (idle : places.running = [])
    (drained : places.completed = []) (requestId : UInt64) :
    Custody { places with aborts := places.aborts.erase requestId } where
  named := custody.named
  once := custody.once
  listed := custody.listed
  running := by simp [idle]
  completed := by simp [drained]

end Custody

end SignalPurple
