import CommandConsole.Command.Table

/-!
# What a table finds

The index of a table is built from the front and never overwritten.

* `getElem?_indexOf`: it has the first position of every name that occurs, and no other name;
* `CommandTable.find?_eq`: so a table finds the first of its specifications that has the name.
-/

namespace CommandConsole.CommandTable

/-- Going on with an index keeps the names it has; of the others it takes the first position. -/
theorem getElem?_foldl_indexOne (specs : List CommandSpec) (k : Nat) (index : Std.HashMap String Nat)
    (name : String) :
    ((specs.zipIdx k).foldl indexOne index)[name]?
      = index[name]?.or ((specs.findIdx? fun s => s.name == name).map (· + k)) := by
  induction specs generalizing k index with
  | nil => simp
  | cons s specs ih =>
    have later : ((specs.findIdx? fun s => s.name == name).map (· + (k + 1)))
        = ((specs.findIdx? fun s => s.name == name).map (· + 1)).map (· + k) := by
      rw [Option.map_map]
      congr 1
      funext i
      exact (Nat.add_right_comm i 1 k).symm
    rw [List.zipIdx_cons, List.foldl_cons, ih, List.findIdx?_cons, later]
    by_cases hname : s.name = name
    · -- the name is `s`'s: it stands at `k` unless the index has it already
      simp only [hname, beq_self_eq_true, if_true, Option.map_some, Nat.zero_add]
      cases hindex : index[name]? with
      | none =>
        have habsent : index.contains name = false := by
          rw [Std.HashMap.contains_eq_isSome_getElem?, hindex]
          rfl
        simp [indexOne, hname, habsent]
      | some i =>
        have hthere : index.contains name = true := by
          rw [Std.HashMap.contains_eq_isSome_getElem?, hindex]
          rfl
        simp [indexOne, hname, hthere, hindex]
    · have hsame : (indexOne index (s, k))[name]? = index[name]? := by
        unfold indexOne
        split
        · rfl
        · rw [Std.HashMap.getElem?_insert, if_neg (by simpa using hname)]
      simp [hname, hsame]

/-- **The index has the first position of every name that occurs**, and no other name. -/
theorem getElem?_indexOf (specs : List CommandSpec) (name : String) :
    (indexOf specs)[name]? = specs.findIdx? fun s => s.name == name := by
  rw [indexOf, getElem?_foldl_indexOne]
  simp

/-- **A table finds the first of its specifications that has the name.** -/
theorem find?_eq (t : CommandTable) (name : String) :
    t.find? name = t.specs.find? fun s => s.name == name := by
  rw [find?, t.index_eq, getElem?_indexOf, List.find?_eq_bind_findIdx?_getElem?]

end CommandConsole.CommandTable
