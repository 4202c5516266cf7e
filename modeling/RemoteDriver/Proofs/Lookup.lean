/-!
# Look-ups by name

Tables of members with names, and of entries with keys, are lists of pairs in which the first pair
of a name counts.  What is found stands in the table, and where no name stands twice the order of
the table does not matter.
-/

namespace RemoteDriver

variable {κ α : Type} [BEq κ] {table table' : List (κ × α)} {key : κ} {value : α}

/-- What has been found is found in a longer table. -/
theorem lookup_of_prefix (grows : table <+: table') (found : table.lookup key = some value) :
    table'.lookup key = some value := by
  obtain ⟨more, rfl⟩ := grows
  rw [List.lookup_append, found]
  rfl

variable [LawfulBEq κ]

/-- What is found stands in the table. -/
theorem mem_of_lookup (found : table.lookup key = some value) : (key, value) ∈ table := by
  obtain ⟨before, after, rfl, -⟩ := List.lookup_eq_some_iff.mp found
  simp

/-- Something is found exactly under the keys that there are. -/
theorem isSome_lookup_iff : (table.lookup key).isSome = true ↔ key ∈ table.map (·.1) := by
  rw [List.lookup_isSome_iff, List.mem_map]
  exact exists_congr fun entry => and_congr_right fun _ => beq_iff_eq.trans eq_comm

/-- Where no key stands twice, a value is found by its key. -/
theorem lookup_of_mem (keys : (table.map (·.1)).Nodup) {entry : κ × α} (member : entry ∈ table) :
    table.lookup entry.1 = some entry.2 := by
  induction table with
  | nil => cases member
  | cons first rest ih =>
    rw [List.map_cons, List.nodup_cons] at keys
    rcases List.mem_cons.mp member with rfl | member
    · exact List.lookup_cons_self
    · have other : (entry.1 == first.1) = false :=
        beq_false_of_ne fun same => keys.1 (same ▸ List.mem_map_of_mem member)
      rw [List.lookup_cons, other, ih keys.2 member]

/-- Where no key stands twice, the order of the table does not matter. -/
theorem lookup_perm (perm : table.Perm table') (keys : (table.map (·.1)).Nodup) (key : κ) :
    table.lookup key = table'.lookup key := by
  have keys' : (table'.map (·.1)).Nodup := (perm.map _).nodup_iff.mp keys
  ext value
  exact ⟨fun found => lookup_of_mem keys' (perm.mem_iff.mp (mem_of_lookup found)),
    fun found => lookup_of_mem keys (perm.mem_iff.mpr (mem_of_lookup found))⟩

end RemoteDriver
