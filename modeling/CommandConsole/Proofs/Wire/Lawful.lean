import CommandConsole.Proofs.Json.Record
import CommandConsole.Settings
import CommandConsole.Wire.Session

/-!
# Wire types whose values come back

A wire type is lawful when its reader takes every value back from the tree of its JSON form. Lists,
optional values and records of lawful types are read by the same few steps, so each type has to show
only that its fields have the names and the checks that its reader knows.

* `LawfulWire`: the law, with an instance for every type of the console.
* `Outcome.readerWithin_toTree`: an outcome comes back wherever three arrays and objects fit inside
  each other.
-/

namespace CommandConsole

open Json (Tree Record)

/-- The reader takes every value back. -/
class LawfulWire (α : Type) [Wire α] : Prop where
  reader_toJson : ∀ a : α, (Wire.reader : Json.Reader α) (Wire.toJson a).toTree = .ok a

namespace Wire

variable {α : Type} [Wire α] [LawfulWire α]

@[simp] theorem reader_toJson (a : α) : (reader : Json.Reader α) (toJson a).toTree = .ok a :=
  LawfulWire.reader_toJson a

@[simp] theorem check_toJson (a : α) : check α (toJson a).toTree = .ok () := by
  rw [check, Json.Reader.check, reader_toJson]
  rfl

theorem mapM_reader (as : List α) :
    (as.map fun a => (toJson a).toTree).mapM (reader : Json.Reader α) = .ok as := by
  induction as with
  | nil => rfl
  | cons a as ih =>
    rw [List.map_cons, List.mapM_cons, reader_toJson, ih]
    rfl

end Wire

/-! ## 1. Single values -/

instance : LawfulWire String := ⟨fun _ => rfl⟩

instance : LawfulWire Bool := ⟨fun _ => rfl⟩

instance {α : Type} [Wire α] [LawfulWire α] : LawfulWire (List α) where
  reader_toJson as := by
    change Json.Reader.list Wire.reader (Json.array (as.map Wire.toJson)).toTree = .ok as
    rw [Json.toTree_array, List.map_map]
    exact Wire.mapM_reader as

/-- A number within its bound is read back. -/
theorem Json.Reader.natural_toTree {n max : Nat} (h : n ≤ max) :
    Json.Reader.natural max (Json.number n).toTree = .ok n := by
  simp [Json.toTree, Json.Reader.natural, Json.Numeral.natural?_ofNatural, h]

instance : LawfulWire UInt32 where
  reader_toJson n := by
    have h : n.toNat ≤ 4294967295 := Nat.le_of_lt_succ n.toNat_lt
    change (Json.Reader.natural 4294967295 (Json.number n.toNat).toTree).map UInt32.ofNat = .ok n
    rw [Json.Reader.natural_toTree h, Except.map, UInt32.ofNat_toNat]

instance : LawfulWire UInt64 where
  reader_toJson n := by
    have h : n.toNat ≤ 18446744073709551615 := Nat.le_of_lt_succ n.toNat_lt
    change (Json.Reader.natural 18446744073709551615 (Json.number n.toNat).toTree).map UInt64.ofNat
      = .ok n
    rw [Json.Reader.natural_toTree h, Except.map, UInt64.ofNat_toNat]

instance : LawfulWire Category := ⟨fun c => by cases c <;> rfl⟩

instance : LawfulWire Consent := ⟨fun c => by cases c <;> rfl⟩

instance : LawfulWire Panel := ⟨fun p => by cases p <;> rfl⟩

/-- Strings are fields of many records. -/
@[simp] theorem Wire.check_string (s : String) : check String (Json.string s).toTree = .ok () := rfl

@[simp] theorem Wire.check_bool (b : Bool) : check Bool (Json.bool b).toTree = .ok () := rfl

@[simp] theorem Json.Reader.text_string (s : String) :
    Json.Reader.text (Json.string s).toTree = .ok s := rfl

@[simp] theorem Json.Reader.bool_bool (b : Bool) :
    Json.Reader.bool (Json.bool b).toTree = .ok b := rfl

/-! ## 2. Records -/

instance : LawfulWire HelpEntry where
  reader_toJson _ := Record.read_toTree (by simp) (by simp [List.lookup_cons])
    (by simp [Record.get]; rfl)

instance : LawfulWire DocLink where
  reader_toJson _ := Record.read_toTree (by simp) (by simp [List.lookup_cons])
    (by simp [Record.get, List.lookup_cons]; rfl)

instance : LawfulWire HelpCatalog where
  reader_toJson _ := Record.read_toTree (by simp [HelpCatalog.jsonFields])
    (by simp [HelpCatalog.jsonFields, List.lookup_cons])
    (by simp [HelpCatalog.jsonFields, Record.get, List.lookup_cons]; rfl)

instance : LawfulWire Challenge where
  reader_toJson _ := Record.read_toTree (by simp) (by simp [List.lookup_cons])
    (by simp [Record.get, List.lookup_cons]; rfl)

instance : LawfulWire ChallengeView where
  reader_toJson _ := Record.read_toTree (by simp) (by simp [List.lookup_cons])
    (by simp [Record.get, List.lookup_cons]; rfl)

/-! ### Fields that may be missing -/

/-- A value that is not written as null is read back where null is allowed. -/
theorem Wire.orNull_toJson {α : Type} [Wire α] [LawfulWire α] {a : α}
    (h : (Wire.toJson a).toTree ≠ .null) :
    Json.Reader.orNull (reader : Json.Reader α) (toJson a).toTree = .ok (some a) := by
  rw [Json.Reader.orNull, reader_toJson]
  · rfl
  · exact h

/-- A choice that may be missing is read back from its null or its word. -/
@[simp] theorem Consent.read_orNull (c : Option Consent) :
    Json.Reader.orNull (Wire.reader : Json.Reader Consent) (Wire.orNull c).toTree = .ok c := by
  cases c with
  | none => rfl
  | some c => exact Wire.orNull_toJson (by cases c <;> exact Json.Tree.noConfusion)

@[simp] theorem Consent.check_orNull (c : Option Consent) :
    Wire.checkOrNull Consent (Wire.orNull c).toTree = .ok () := by
  rw [Wire.checkOrNull, Json.Reader.check, Consent.read_orNull]
  rfl

instance : LawfulWire SessionStatus where
  reader_toJson _ := Record.read_toTree (by simp) (by simp [List.lookup_cons])
    (by simp [Record.get, Record.getOrNull, List.lookup_cons]; rfl)

instance : LawfulWire LoginAnswer where
  reader_toJson _ := Record.read_toTree (by simp) (by simp [List.lookup_cons])
    (by simp [Record.get, List.lookup_cons]; rfl)

/-- What may be left out is read back where it is there, and missed where it is not. -/
instance : LawfulWire CaptchaAnswer where
  reader_toJson a := by
    have herror (e : String) := Wire.orNull_toJson (a := e) Json.Tree.noConfusion
    have hnext (v : ChallengeView) := Wire.orNull_toJson (a := v) Json.Tree.noConfusion
    obtain ⟨valid, error, next⟩ := a
    refine Record.read_toTree ?_ ?_ ?_
    · cases error <;> cases next <;> simp [optionalField]
    · cases error <;> cases next <;>
        simp [optionalField, List.lookup_cons, Wire.checkOrNull, Json.Reader.check, herror, hnext,
          Except.map]
    · cases error <;> cases next <;>
        simp [optionalField, Record.get, Record.getOrNull, List.lookup_cons, hnext] <;> rfl

instance : LawfulWire PanelAnswer where
  reader_toJson _ := Record.read_toTree (by simp) (by simp [List.lookup_cons])
    (by simp [Record.get])

/-! ## 3. Settings -/

instance : LawfulWire CaptchaSettings where
  reader_toJson _ := Record.read_toTree (by simp) (by simp [List.lookup_cons])
    (by simp [Record.getOr, List.lookup_cons]; rfl)

instance : LawfulWire SessionSettings where
  reader_toJson _ := Record.read_toTree (by simp) (by simp [List.lookup_cons])
    (by simp [Record.getOr])

instance : LawfulWire Settings where
  reader_toJson _ := Record.read_toTree (by simp) (by simp [List.lookup_cons])
    (by simp [Record.getOr, List.lookup_cons]; rfl)

/-! ## 4. Outcomes -/

namespace Outcome

/-- The fields of an outcome beside its category. -/
def bodyFields : Outcome → List (String × Json)
  | .success m | .error m | .warning m => [("message", .string m)]
  | .help h => h.jsonFields

/-- An outcome is one flat object, the category first. -/
theorem toJson_eq (o : Outcome) :
    toJson o = .object (("category", .string o.category.name) :: o.bodyFields) := by
  cases o <;> rfl

theorem category_not_mem (o : Outcome) : ∀ f ∈ o.bodyFields, f.1 ≠ "category" := by
  cases o <;> simp [bodyFields, HelpCatalog.jsonFields]

theorem categoryReader_name (c : Category) :
    categoryReader (Json.string c.name).toTree = .ok c := by
  cases c <;> rfl

theorem messageReader_toTree (m : String) :
    messageReader (Json.object [("message", .string m)]).toTree = .ok m :=
  Record.read_toTree (by simp) (by simp [List.lookup_cons]) (by simp [Record.get])

/-- Under its category, an outcome is read back from its other fields. -/
theorem bodyReader_toTree (o : Outcome) :
    bodyReader o.category (Json.object o.bodyFields).toTree = .ok o := by
  cases o with
  | success m | error m | warning m =>
    change (messageReader (Json.object [("message", .string m)]).toTree).map _ = _
    rw [messageReader_toTree]
    rfl
  | help h =>
    have hread : (Wire.reader : Json.Reader HelpCatalog) (Json.object h.jsonFields).toTree = .ok h :=
      Wire.reader_toJson h
    change Except.map Outcome.help (Wire.reader (Json.object h.jsonFields).toTree) = _
    rw [hread]
    rfl

/-- The entries of a catalog fit where one object does. -/
theorem allFit_entries (room : Nat) (es : List HelpEntry) :
    Tree.allFit (room + 1) ((es.map Wire.toJson).map Json.toTree) = true := by
  induction es with
  | nil => rfl
  | cons e es ih =>
    have hentry : (Wire.toJson e).toTree.fits (room + 1) = true := by
      simp [Wire.toJson, Json.toTree_object, Json.toTree, Tree.fits, Tree.fieldsFit]
    rw [List.map_cons, List.map_cons, Tree.allFit, hentry, ih]
    rfl

/-- The catalog holds its entries in a list, so an outcome is at most three deep. -/
theorem fits_toTree (o : Outcome) (room : Nat) : (toJson o).toTree.fits (room + 3) = true := by
  cases o with
  | success m | error m | warning m =>
    simp [toJson, messageJson, Json.toTree_object, Json.toTree, Tree.fits, Tree.fieldsFit]
  | help h =>
    have hentries : (Wire.toJson h.entries).toTree.fits (room + 2) = true := by
      change (Json.array (h.entries.map Wire.toJson)).toTree.fits (room + 2) = true
      rw [Json.toTree_array, Tree.fits]
      exact allFit_entries room h.entries
    have hlink : (Wire.toJson h.link).toTree.fits (room + 2) = true := by
      simp [Wire.toJson, Json.toTree_object, Json.toTree, Tree.fits, Tree.fieldsFit]
    simp [toJson, HelpCatalog.jsonFields, Json.toTree_object, Json.toTree, Tree.fits,
      Tree.fieldsFit, hentries, hlink]

/-- **An outcome comes back** wherever three arrays and objects fit inside each other: its category
    is found among its fields, and the other fields are read under it. -/
theorem readerWithin_toTree (o : Outcome) (room : Nat) :
    readerWithin (room + 3) (toJson o).toTree = .ok o := by
  have hfits := o.fits_toTree room
  have hbody := o.bodyReader_toTree
  rw [toJson_eq] at hfits ⊢
  rw [Json.toTree_object] at hfits hbody ⊢
  rw [List.map_cons] at hfits ⊢
  generalize hfs : o.bodyFields.map (fun f => (some f.1, f.2.toTree)) = fs at hfits hbody ⊢
  have hother : ∀ f ∈ fs, (f.1 == some "category") = false := by
    intro f hf
    rw [← hfs] at hf
    obtain ⟨g, hg, rfl⟩ := List.mem_map.1 hf
    simpa using o.category_not_mem g hg
  have htag : fs.filter (fun f => f.1 == some "category") = [] := by
    rw [List.filter_eq_nil_iff]
    intro f hf
    rw [hother f hf]
    exact Bool.false_ne_true
  have hrest : fs.filter (fun f => !(f.1 == some "category")) = fs := by
    rw [List.filter_eq_self]
    intro f hf
    rw [hother f hf]
    rfl
  simp only [readerWithin, hfits, List.filter_cons, htag, hrest, beq_self_eq_true, Bool.not_true,
    if_true, Bool.false_eq_true, if_false, categoryReader_name]
  exact hbody

end Outcome

instance : LawfulWire Outcome := ⟨fun o => o.readerWithin_toTree 124⟩

instance : LawfulWire RunAnswer where
  reader_toJson a := by
    have hread : Outcome.readerWithin (Json.maxDepth - 1) (Wire.toJson a.outcome).toTree
        = .ok a.outcome := a.outcome.readerWithin_toTree 123
    have hcheck : Json.Reader.check (Outcome.readerWithin (Json.maxDepth - 1))
        (Wire.toJson a.outcome).toTree = .ok () := by
      rw [Json.Reader.check, hread]
      rfl
    exact Record.read_toTree (by simp) (by simp [List.lookup_cons, hcheck])
      (by simp [Record.get, List.lookup_cons, hread]; rfl)

end CommandConsole
