import Mathlib.Data.Finset.Basic
import Mathlib.Data.List.Perm.Basic

/-! # Walks over a hash table

A walk over a hash table visits every entry once, in an order that is not known. It is valid
as long as the table only changes through the walk itself.
-/

namespace SignalPurple

structure TableOrder (Entry : Type) where
  list : List Entry → List Entry
  perm : ∀ entries, (list entries).Perm entries

namespace TableOrder

variable {Entry : Type}

def asAdded : TableOrder Entry where
  list := id
  perm := List.Perm.refl

@[simp] theorem mem_list (order : TableOrder Entry) {entries : List Entry} {entry : Entry} :
    entry ∈ order.list entries ↔ entry ∈ entries :=
  (order.perm entries).mem_iff

theorem nodup_map_list {Key : Type} (order : TableOrder Entry) {entries : List Entry}
    {key : Entry → Key} (distinct : (entries.map key).Nodup) :
    ((order.list entries).map key).Nodup :=
  ((order.perm entries).map key).nodup_iff.mpr distinct

end TableOrder

/-- A walk whose visits may change the table behind its back. After such a change there is no
further valid entry. -/
def iterateTable {State Key Entry : Type} [DecidableEq Key] (table : State → Finset Key)
    (visit : State → Key → State × List Entry) : List Key → State → State × List Entry
  | [], state => (state, [])
  | key :: later, state =>
      let visited := visit state key
      if table visited.1 = table state then
        let rest := iterateTable table visit later visited.1
        (rest.1, visited.2 ++ rest.2)
      else visited

end SignalPurple
