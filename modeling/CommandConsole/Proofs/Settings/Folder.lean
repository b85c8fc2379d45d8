import CommandConsole.Settings.Folder
import Mathlib.Data.List.Infix
import Mathlib.Tactic.Common

/-!
# What is written to a path is found there

Writing follows the names of a path as finding does, but makes the folders that are missing. So the
way that was made is the way that is found again, through names that stay and names that go up.

* `Made`: a place that writing came through. It stays a folder, whatever files come and go
  (`Made.isFolder`), and so do the folders above it (`Made.of_prefix`).
* `follow_of_makeWay`: the way that was made leads to the same place.
* `find_of_write`: the bytes are found at the path they were written to.
* `write_iff_takes`: whether a path takes bytes does not depend on them.
-/

namespace CommandConsole.Folder

variable {f g h : Folder} {place place' ns : List String} {path name : String}
variable {bytes : List UInt8}

/-! ## 1. Folders that were made -/

/-- Writing came through a place: it is the outermost folder, or on the way to one that was made. -/
def Made (f : Folder) (place : List String) : Prop :=
  place = [] ∨ ∃ made ∈ f.folders, place <+: made

theorem Made.isFolder (hplace : f.Made place) : f.isFolder place = true := by
  rcases hplace with rfl | ⟨made, hmade, hinit⟩
  · rfl
  · have hany : f.folders.any (fun made => place.isPrefixOf made) = true :=
      List.any_eq_true.2 ⟨made, hmade, List.isPrefixOf_iff_prefix.2 hinit⟩
    rw [Folder.isFolder, hany, Bool.or_true, Bool.true_or]

theorem Made.of_prefix (hplace : f.Made place) (hinit : place' <+: place) : f.Made place' := by
  rcases hplace with rfl | ⟨made, hmade, hplace⟩
  · exact .inl (List.prefix_nil.1 hinit)
  · exact .inr ⟨made, hmade, hinit.trans hplace⟩

theorem Made.mono (hplace : f.Made place) (hsub : f.folders ⊆ g.folders) : g.Made place := by
  rcases hplace with rfl | ⟨made, hmade, hinit⟩
  · exact .inl rfl
  · exact .inr ⟨made, hsub hmade, hinit⟩

/-! ## 2. Ways -/

/-- Making a way touches no file and keeps the folders. -/
theorem makeWay_keeps (f : Folder) (place ns : List String) :
    (f.makeWay place ns).2.files = f.files ∧ f.folders ⊆ (f.makeWay place ns).2.folders := by
  induction ns generalizing f place with
  | nil => exact ⟨rfl, List.Subset.refl _⟩
  | cons n ns ih =>
    rw [makeWay]
    split_ifs
    · exact ih f place
    · exact ih f place.dropLast
    · exact ⟨rfl, List.Subset.refl _⟩
    · obtain ⟨hfiles, hfolders⟩ :=
        ih { f with folders := (place ++ [n]) :: f.folders } (place ++ [n])
      exact ⟨hfiles, List.Subset.trans (List.subset_cons_self _ _) hfolders⟩

/-- A way that was made ends at a place that was made, and leads there wherever its folders are. -/
theorem follow_of_makeWay (hplace : f.Made place) (hway : f.makeWay place ns = (some place', g)) :
    g.Made place' ∧ ∀ h : Folder, g.folders ⊆ h.folders → h.follow place ns = some place' := by
  induction ns generalizing f place with
  | nil =>
    cases hway
    exact ⟨hplace, fun _ _ => rfl⟩
  | cons n ns ih =>
    have hkept := (makeWay_keeps f place (n :: ns)).2
    rw [hway] at hkept
    have there {h : Folder} (hh : g.folders ⊆ h.folders) : h.isFolder place = true :=
      (hplace.mono (List.Subset.trans hkept hh)).isFolder
    rw [makeWay] at hway
    split_ifs at hway with hidle hup hname
    · obtain ⟨hmade, hfollow⟩ := ih hplace hway
      refine ⟨hmade, fun h hh => ?_⟩
      simp [follow, there hh, hidle, hfollow h hh]
    · obtain ⟨hmade, hfollow⟩ := ih (hplace.of_prefix (List.dropLast_prefix place)) hway
      refine ⟨hmade, fun h hh => ?_⟩
      simp [follow, there hh, hidle, hup, hfollow h hh]
    · cases hway
    · obtain ⟨hmade, hfollow⟩ := ih (.inr ⟨place ++ [n], .head _, List.prefix_rfl⟩) hway
      refine ⟨hmade, fun h hh => ?_⟩
      simp [follow, there hh, hidle, hup, hfollow h hh]

theorem follow_append (f : Folder) (place ns ms : List String) :
    f.follow place (ns ++ ms) = (f.follow place ns).bind fun place => f.follow place ms := by
  induction ns generalizing place with
  | nil => rfl
  | cons n ns ih =>
    rw [List.cons_append, follow, follow]
    split_ifs
    · rfl
    · exact ih place
    · exact ih place.dropLast
    · exact ih (place ++ [n])

/-! ## 3. Writing -/

/-- The name of a file leads on. -/
theorem not_isIdle_of_isFileName (h : isFileName name = true) :
    isIdle name = false ∧ (name == "..") = false := by
  simp only [isFileName, Bool.and_eq_true, Bool.not_eq_true', bne_iff_ne] at h
  exact ⟨h.1.1.1, by simpa using h.1.1.2⟩

/-- A path whose last name is a file name leads through all the others. -/
theorem names_eq_append (hlast : (names path).getLast? = some name)
    (hname : isFileName name = true) : names path = parentNames path ++ [name] := by
  obtain ⟨ns, hns⟩ := List.getLast?_eq_some_iff.1 hlast
  have hidle := (not_isIdle_of_isFileName hname).1
  simp [parentNames, hns, hidle]

theorem follow_fileName (hplace : f.isFolder place = true) (hname : isFileName name = true) :
    f.follow place [name] = some (place ++ [name]) := by
  obtain ⟨hidle, hup⟩ := not_isIdle_of_isFileName hname
  simp [follow, hplace, hidle, hup]

/-- A path leads to a name in a place where a file can be, and `g` is the folder once the way there
    is made. -/
structure Leads (f : Folder) (path : String) (place : List String) (name : String) (g : Folder) :
    Prop where
  plain : '\x00' ∉ path.toList
  way : f.makeWay [] (parentNames path) = (some place, g)
  last : (names path).getLast? = some name
  fileName : isFileName name = true
  free : g.isFolder (place ++ [name]) = false

/-- A file can be written to a path. -/
def Takes (f : Folder) (path : String) : Prop := ∃ place name g, f.Leads path place name g

/-- Writing adds one file to the folder in which the way was made. -/
theorem Leads.write (hleads : f.Leads path place name g) (bytes : List UInt8) :
    f.write path bytes = (true, g.withFile (place ++ [name]) bytes) := by
  simp [Folder.write, hleads.plain, hleads.way, hleads.last, hleads.fileName, hleads.free]

/-- Writing succeeds only so. -/
theorem exists_leads_of_write (hwrite : f.write path bytes = (true, h)) :
    ∃ place name g, f.Leads path place name g ∧ h = g.withFile (place ++ [name]) bytes := by
  unfold write at hwrite
  split_ifs at hwrite with hplain
  · cases hwrite
  split at hwrite
  · rename_i place g name hway hlast
    split_ifs at hwrite with hfree
    · cases hwrite
    obtain ⟨hname, hfolder⟩ : isFileName name = true ∧ g.isFolder (place ++ [name]) = false := by
      simpa using hfree
    have hleads : f.Leads path place name g :=
      ⟨by simpa using hplain, hway, hlast, hname, hfolder⟩
    exact ⟨place, name, g, hleads, (Prod.mk.inj hwrite).2.symm⟩
  · cases hwrite

/-- Whether a path takes bytes does not depend on them. -/
theorem write_iff_takes (f : Folder) (path : String) (bytes : List UInt8) :
    (f.write path bytes).1 = true ↔ f.Takes path := by
  constructor
  · intro hwrite
    obtain ⟨place, name, g, hleads, -⟩ := exists_leads_of_write (Prod.ext hwrite rfl)
    exact ⟨place, name, g, hleads⟩
  · rintro ⟨place, name, g, hleads⟩
    rw [hleads.write]

/-- **What was written to a path is found there.** -/
theorem find_of_write (hwrite : f.write path bytes = (true, h)) : h.find path = .file bytes := by
  obtain ⟨place, name, g, hleads, rfl⟩ := exists_leads_of_write hwrite
  have hnames := names_eq_append hleads.last hleads.fileName
  obtain ⟨hmade, hfollow⟩ := follow_of_makeWay (.inl rfl) hleads.way
  have hplace : (g.withFile (place ++ [name]) bytes).isFolder place = true :=
    Made.isFolder (f := g.withFile (place ++ [name]) bytes) hmade
  have hfound : (g.withFile (place ++ [name]) bytes).follow [] (names path)
      = some (place ++ [name]) := by
    have hway := hfollow (g.withFile (place ++ [name]) bytes) (List.Subset.refl _)
    rw [hnames, follow_append, hway, Option.bind_some, follow_fileName hplace hleads.fileName]
  have hfile : (g.withFile (place ++ [name]) bytes).file? (place ++ [name]) = some bytes := by
    rw [file?, withFile, List.lookup_cons, beq_self_eq_true]
  rw [find, hfound]
  simp only [hfile]

theorem file?_withFile_of_ne (hne : place' ≠ place) :
    (f.withFile place bytes).file? place' = f.file? place' := by
  have hfilter (es : List (List String × List UInt8)) :
      (es.filter fun e => e.1 != place).lookup place' = es.lookup place' := by
    induction es with
    | nil => rfl
    | cons e es ih =>
      by_cases he : e.1 = place
      · have hkey : (place' == e.1) = false := by simpa [he] using hne
        rw [List.filter_cons_of_neg (by simp [he]), ih, List.lookup_cons, hkey]
      · rw [List.filter_cons_of_pos (by simp [he]), List.lookup_cons, List.lookup_cons, ih]
  have hkey : (place' == place) = false := by simpa using hne
  rw [file?, withFile, List.lookup_cons, hkey]
  exact hfilter f.files

/-- Writing to a path touches no other file. -/
theorem file?_of_write (hwrite : f.write path bytes = (true, h)) :
    ∃ target, h.file? target = some bytes
      ∧ ∀ place, place ≠ target → h.file? place = f.file? place := by
  obtain ⟨place, name, g, hleads, rfl⟩ := exists_leads_of_write hwrite
  have hfiles : g.files = f.files := by
    have hkept := (makeWay_keeps f [] (parentNames path)).1
    rwa [hleads.way] at hkept
  refine ⟨place ++ [name], ?_, fun place' hne => ?_⟩
  · rw [file?, withFile, List.lookup_cons, beq_self_eq_true]
  · rw [file?_withFile_of_ne hne, file?, hfiles, file?]

/-! ## 4. Paths that take a file -/

/-- Through names of files where no file stands, a way can be made. It adds the folders on it. -/
theorem exists_makeWay (f : Folder) (place : List String) (hnames : ∀ n ∈ ns, isFileName n = true)
    (hfree : ∀ ms, ms <+: ns → f.file? (place ++ ms) = none) :
    ∃ g, f.makeWay place ns = (some (place ++ ns), g) ∧ g.files = f.files
      ∧ ∀ made ∈ g.folders, made ∈ f.folders ∨ made <+: place ++ ns := by
  induction ns generalizing f place with
  | nil => exact ⟨f, by simp [makeWay], rfl, fun made hmade => .inl hmade⟩
  | cons n ns ih =>
    have hname := hnames n (.head ns)
    obtain ⟨hidle, hup⟩ := not_isIdle_of_isFileName hname
    have hnone : f.file? (place ++ [n]) = none := hfree [n] ⟨ns, rfl⟩
    have hstep : f.makeWay place (n :: ns)
        = ({ f with folders := (place ++ [n]) :: f.folders } : Folder).makeWay (place ++ [n]) ns := by
      simp [makeWay, hidle, hup, hname, hnone]
    obtain ⟨g, hway, hfiles, hfolders⟩ :=
      ih { f with folders := (place ++ [n]) :: f.folders } (place ++ [n])
        (fun m hm => hnames m (.tail n hm)) fun ms hms => by
          have hfile := hfree (n :: ms) ((List.cons_prefix_cons).2 ⟨rfl, hms⟩)
          simpa [file?] using hfile
    rw [List.append_assoc, List.singleton_append] at hway hfolders
    refine ⟨g, hstep.trans hway, hfiles, fun made hmade => ?_⟩
    rcases hfolders made hmade with hhere | hinit
    · rcases List.mem_cons.1 hhere with rfl | hold
      · exact .inr ((List.prefix_append_right_inj place).2 ⟨ns, rfl⟩)
      · exact .inl hold
    · exact .inr hinit

/-- **A path of file names takes a file** where no file stands in its way and no folder at its
    end. -/
theorem Takes.of_names (hplain : '\x00' ∉ path.toList) (hpath : names path = ns ++ [name])
    (hnames : ∀ n ∈ names path, isFileName n = true)
    (hway : ∀ ms, ms <+: ns → f.file? ms = none) (hfree : f.isFolder (names path) = false) :
    f.Takes path := by
  rw [hpath] at hnames hfree
  have hlast : (names path).getLast? = some name := by rw [hpath, List.getLast?_concat]
  have hname : isFileName name = true := hnames name (by simp)
  have hparents : parentNames path = ns := by
    have happend := names_eq_append hlast hname
    rw [hpath] at happend
    exact (List.append_cancel_right happend).symm
  obtain ⟨g, hmake, hfiles, hfolders⟩ := exists_makeWay f []
    (fun n hn => hnames n (List.mem_append_left _ hn)) hway
  rw [List.nil_append] at hmake hfolders
  refine ⟨ns, name, g, hplain, hparents ▸ hmake, hlast, hname, ?_⟩
  rw [isFolder, Bool.or_eq_false_iff, Bool.or_eq_false_iff] at hfree ⊢
  obtain ⟨⟨-, hfolder⟩, hfile⟩ := hfree
  refine ⟨⟨by simp, ?_⟩, by rw [hfiles]; exact hfile⟩
  rw [List.any_eq_false] at hfolder ⊢
  intro made hmade
  rcases hfolders made hmade with hold | hnew
  · exact hfolder made hold
  · -- a folder on the way is not long enough to be at its end
    intro hinit
    have hlength := (List.isPrefixOf_iff_prefix.1 hinit).length_le.trans hnew.length_le
    rw [List.length_append, List.length_singleton] at hlength
    omega

end CommandConsole.Folder
