import CommandConsole.Json.Record
import CommandConsole.Proofs.Json.Reading

/-!
# Written records are read back

An object that gives known fields, each once and each with a value that passes its check, is read as
a record of these fields. What a reader then asks of the record is found there.

* `Record.ofTree_toTree`, `Record.read_toTree`: the object is read as the record of its fields, and
  a reader of records takes from it what it takes from that record.
-/

namespace CommandConsole.Json

namespace Record

/-- Known fields that were not found before are taken over one after the other. -/
theorem named_append {known : Fields} {found : List (String × Tree)} {fs : List (String × Json)}
    (hnodup : (found.map Prod.fst ++ fs.map Prod.fst).Nodup)
    (hchecked : ∀ f ∈ fs, ∃ check, known.lookup f.1 = some check ∧ check f.2.toTree = .ok ()) :
    named known found (fs.map fun f => (some f.1, f.2.toTree))
      = .ok (found ++ fs.map fun f => (f.1, f.2.toTree)) := by
  induction fs generalizing found with
  | nil => rw [List.map_nil, named, List.map_nil, List.append_nil]
  | cons f fs ih =>
    obtain ⟨⟨check, hknown, hcheck⟩, hmore⟩ := List.forall_mem_cons.1 hchecked
    have hfresh : found.lookup f.1 = none := by
      refine List.lookup_eq_none_iff.2 fun g hg => ?_
      have hne := (List.nodup_append.1 hnodup).2.2 g.1 (List.mem_map_of_mem hg) f.1 (by simp)
      simpa using hne.symm
    have hnodup' : ((found ++ [(f.1, f.2.toTree)]).map Prod.fst ++ fs.map Prod.fst).Nodup := by
      simpa using hnodup
    rw [List.map_cons, named]
    simp only [hknown, hfresh, hcheck, Option.isSome_none, Bool.false_eq_true, if_false]
    rw [ih hnodup' hmore, List.append_assoc, List.singleton_append, List.map_cons]

/-- **An object of known fields is read as the record of these fields.** -/
theorem ofTree_toTree {known : Fields} {fs : List (String × Json)}
    (hnodup : (fs.map Prod.fst).Nodup)
    (hchecked : ∀ f ∈ fs, ∃ check, known.lookup f.1 = some check ∧ check f.2.toTree = .ok ()) :
    ofTree known (Json.object fs).toTree
      = .ok { found := fs.map fun f => (f.1, f.2.toTree), positional := false } := by
  have hnamed : named known [] (fs.map fun f => (some f.1, f.2.toTree))
      = .ok ([] ++ fs.map fun f => (f.1, f.2.toTree)) := named_append hnodup hchecked
  rw [toTree_object, ofTree, hnamed]
  rfl

/-- A reader of records takes from an object what it takes from the record of its fields. -/
theorem read_toTree {α : Type} {known : Fields} {fs : List (String × Json)}
    {take : Record → Except Fault α} {a : α} (hnodup : (fs.map Prod.fst).Nodup)
    (hchecked : ∀ f ∈ fs, ∃ check, known.lookup f.1 = some check ∧ check f.2.toTree = .ok ())
    (htake : take { found := fs.map fun f => (f.1, f.2.toTree), positional := false } = .ok a) :
    (ofTree known (Json.object fs).toTree >>= take) = .ok a := by
  rw [ofTree_toTree hnodup hchecked]
  exact htake

end Record

end CommandConsole.Json
