import Mathlib.Data.List.Nodup
import Mathlib.Data.List.Perm.Basic

/-! # Tickets that are answered once

A ticket is issued, stays open for a while and is then closed: by a report, or silently if
it was waived. The lists say which tickets were issued and reported so far and which are
open now; where an open ticket is kept does not matter, so the open ones count up to
permutation.
-/

namespace SignalPurple

variable {Ticket : Type}

structure Balanced (opened issued reported : List Ticket) (Waived : Ticket → Prop) : Prop where
  openedOnce : opened.Nodup
  issuedOnce : issued.Nodup
  reportedOnce : reported.Nodup
  unreported : ∀ ticket ∈ opened, ticket ∉ reported
  openedIssued : ∀ ticket ∈ opened, ticket ∈ issued
  reportedIssued : ∀ ticket ∈ reported, ticket ∈ issued
  settled : ∀ ticket ∈ issued, ticket ∈ opened ∨ ticket ∈ reported ∨ Waived ticket

namespace Balanced

variable {opened opened' issued reported : List Ticket} {Waived Waived' : Ticket → Prop}
  {ticket : Ticket}

theorem empty : Balanced [] [] [] Waived where
  openedOnce := List.nodup_nil
  issuedOnce := List.nodup_nil
  reportedOnce := List.nodup_nil
  unreported := by simp
  openedIssued := by simp
  reportedIssued := by simp
  settled := by simp

theorem reorder (balanced : Balanced opened issued reported Waived)
    (moved : opened.Perm opened') : Balanced opened' issued reported Waived where
  openedOnce := moved.nodup_iff.mp balanced.openedOnce
  issuedOnce := balanced.issuedOnce
  reportedOnce := balanced.reportedOnce
  unreported ticket member := balanced.unreported ticket (moved.mem_iff.mpr member)
  openedIssued ticket member := balanced.openedIssued ticket (moved.mem_iff.mpr member)
  reportedIssued := balanced.reportedIssued
  settled ticket member := by
    rw [← moved.mem_iff]
    exact balanced.settled ticket member

theorem weaken (balanced : Balanced opened issued reported Waived)
    (more : ∀ ticket ∈ issued, Waived ticket → Waived' ticket) :
    Balanced opened issued reported Waived' where
  openedOnce := balanced.openedOnce
  issuedOnce := balanced.issuedOnce
  reportedOnce := balanced.reportedOnce
  unreported := balanced.unreported
  openedIssued := balanced.openedIssued
  reportedIssued := balanced.reportedIssued
  settled ticket member := by
    rcases balanced.settled ticket member with kept | answered | waived
    · exact .inl kept
    · exact .inr (.inl answered)
    · exact .inr (.inr (more ticket member waived))

theorem issue (balanced : Balanced opened issued reported Waived) (fresh : ticket ∉ issued) :
    Balanced (ticket :: opened) (issued ++ [ticket]) reported Waived where
  openedOnce := List.nodup_cons.mpr
    ⟨fun member => fresh (balanced.openedIssued ticket member), balanced.openedOnce⟩
  issuedOnce := by
    rw [List.nodup_append_comm]
    exact List.nodup_cons.mpr ⟨fresh, balanced.issuedOnce⟩
  reportedOnce := balanced.reportedOnce
  unreported other member := by
    rcases List.mem_cons.mp member with rfl | earlier
    · exact fun answered => fresh (balanced.reportedIssued _ answered)
    · exact balanced.unreported other earlier
  openedIssued other member := by
    rcases List.mem_cons.mp member with rfl | earlier
    · simp
    · exact List.mem_append_left _ (balanced.openedIssued other earlier)
  reportedIssued other member := List.mem_append_left _ (balanced.reportedIssued other member)
  settled other member := by
    rcases List.mem_append.mp member with earlier | new
    · rcases balanced.settled other earlier with kept | closed
      · exact .inl (List.mem_cons_of_mem _ kept)
      · exact .inr closed
    · rw [List.mem_singleton.mp new]
      exact .inl List.mem_cons_self

theorem report (balanced : Balanced (ticket :: opened) issued reported Waived) :
    Balanced opened issued (reported ++ [ticket]) Waived where
  openedOnce := (List.nodup_cons.mp balanced.openedOnce).2
  issuedOnce := balanced.issuedOnce
  reportedOnce := by
    rw [List.nodup_append_comm]
    exact List.nodup_cons.mpr
      ⟨balanced.unreported ticket List.mem_cons_self, balanced.reportedOnce⟩
  unreported other member answered := by
    rcases List.mem_append.mp answered with earlier | now
    · exact balanced.unreported other (List.mem_cons_of_mem _ member) earlier
    · rw [List.mem_singleton.mp now] at member
      exact (List.nodup_cons.mp balanced.openedOnce).1 member
  openedIssued other member := balanced.openedIssued other (List.mem_cons_of_mem _ member)
  reportedIssued other member := by
    rcases List.mem_append.mp member with earlier | now
    · exact balanced.reportedIssued other earlier
    · rw [List.mem_singleton.mp now]
      exact balanced.openedIssued ticket List.mem_cons_self
  settled other member := by
    rcases balanced.settled other member with kept | answered | waived
    · rcases List.mem_cons.mp kept with rfl | later
      · exact .inr (.inl (by simp))
      · exact .inl later
    · exact .inr (.inl (List.mem_append_left _ answered))
    · exact .inr (.inr waived)

theorem close (balanced : Balanced (ticket :: opened) issued reported Waived)
    (waived : Waived ticket) : Balanced opened issued reported Waived where
  openedOnce := (List.nodup_cons.mp balanced.openedOnce).2
  issuedOnce := balanced.issuedOnce
  reportedOnce := balanced.reportedOnce
  unreported other member := balanced.unreported other (List.mem_cons_of_mem _ member)
  openedIssued other member := balanced.openedIssued other (List.mem_cons_of_mem _ member)
  reportedIssued := balanced.reportedIssued
  settled other member := by
    rcases balanced.settled other member with kept | closed
    · rcases List.mem_cons.mp kept with rfl | later
      · exact .inr (.inr waived)
      · exact .inl later
    · exact .inr closed

/-- Once closed, a ticket that was not waived has its report. -/
theorem reported_of_closed (balanced : Balanced opened issued reported Waived)
    (known : ticket ∈ issued) (closed : ticket ∉ opened) (kept : ¬Waived ticket) :
    ticket ∈ reported := by
  rcases balanced.settled ticket known with stillOpen | answered | waived
  · exact absurd stillOpen closed
  · exact answered
  · exact absurd waived kept

end Balanced

end SignalPurple
