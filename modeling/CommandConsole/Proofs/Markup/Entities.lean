import CommandConsole.Markup
import CommandConsole.Proofs.Text.Digits

/-!
# Entities undone

What escaping has written is read back by putting the five characters in the place of their entities,
from the left and once.

* `mem_escapeChars`: an escaped text has no character that could begin or end a tag or a value;
* `exists_of_ampersand`: its ampersands stand where special characters of the text stood;
* `escapeChars_eq_self_iff`: only a text without special characters is left as it is;
* `unescapeChars_escapeChars`: undoing the entities gives the text back, whatever follows it, also when
  the text itself looks like an entity;
* `escape_invertible`: all of it for every text.
-/

namespace CommandConsole.Markup

/-! ## 1. The five entities -/

/-- The text with the character in the place of each of the five entities. -/
def unescapeChars : List Char → List Char
  | '&' :: 'a' :: 'm' :: 'p' :: ';' :: cs => '&' :: unescapeChars cs
  | '&' :: 'l' :: 't' :: ';' :: cs => '<' :: unescapeChars cs
  | '&' :: 'g' :: 't' :: ';' :: cs => '>' :: unescapeChars cs
  | '&' :: 'q' :: 'u' :: 'o' :: 't' :: ';' :: cs => '"' :: unescapeChars cs
  | '&' :: '#' :: '3' :: '9' :: ';' :: cs => '\'' :: unescapeChars cs
  | c :: cs => c :: unescapeChars cs
  | [] => []

/-- `unescapeChars` on strings. -/
def unescape (s : String) : String := String.ofList (unescapeChars s.toList)

/-- The characters that are written as entities. -/
def specials : List Char := ['&', '<', '>', '"', '\'']

/-- The special characters with their entities. -/
def entities : List (Char × String) :=
  [('&', "&amp;"), ('<', "&lt;"), ('>', "&gt;"), ('"', "&quot;"), ('\'', "&#39;")]

/-- The entities are what the special characters are written as. -/
theorem map_entities :
    entities.map (fun e => (e.1, e.2.toList)) = specials.map fun c => (c, escapeChar c) := rfl

theorem exists_entity {c : Char} (h : c ∈ specials) :
    ∃ e ∈ entities, e.1 = c ∧ escapeChar c = e.2.toList := by
  have hmem : (c, escapeChar c) ∈ entities.map fun e => (e.1, e.2.toList) := by
    rw [map_entities]
    exact List.mem_map_of_mem h
  obtain ⟨e, he, heq⟩ := List.mem_map.mp hmem
  exact ⟨e, he, congrArg Prod.fst heq, (congrArg Prod.snd heq).symm⟩

theorem escapeChar_of_not_special {c : Char} (h : c ∉ specials) : escapeChar c = [c] := by
  simp only [specials, List.mem_cons, List.not_mem_nil, or_false, not_or] at h
  obtain ⟨hamp, hlt, hgt, hquot, hapos⟩ := h
  rw [escapeChar, if_neg hamp, if_neg hlt, if_neg hgt, if_neg hquot, if_neg hapos]

/-- An entity goes on behind its one ampersand. -/
theorem escapeChar_of_special {c : Char} (h : c ∈ specials) :
    ∃ d name, escapeChar c = '&' :: d :: name ∧ '&' ∉ d :: name := by
  simp only [specials, List.mem_cons, List.not_mem_nil, or_false] at h
  rcases h with rfl | rfl | rfl | rfl | rfl <;> exact ⟨_, _, rfl, by decide⟩

/-! ## 2. What an escaped text is made of -/

theorem mem_escapeChar {c d : Char} (h : c ∈ escapeChar d) :
    c ≠ '<' ∧ c ≠ '>' ∧ c ≠ '"' ∧ c ≠ '\'' := by
  by_cases hd : d ∈ specials
  · have written : (specials.all fun d => (escapeChar d).all fun c =>
        c != '<' && c != '>' && c != '"' && c != '\'') = true := by decide
    have hc := List.all_eq_true.mp (List.all_eq_true.mp written d hd) c h
    simpa only [Bool.and_eq_true, bne_iff_ne, and_assoc] using hc
  · rw [escapeChar_of_not_special hd, List.mem_singleton] at h
    subst h
    simp only [specials, List.mem_cons, List.not_mem_nil, or_false, not_or] at hd
    exact hd.2

/-- **No character of an escaped text can begin or end a tag or a value.** -/
theorem mem_escapeChars {cs : List Char} {c : Char} (h : c ∈ escapeChars cs) :
    c ≠ '<' ∧ c ≠ '>' ∧ c ≠ '"' ∧ c ≠ '\'' := by
  obtain ⟨d, -, hc⟩ := List.mem_flatMap.mp h
  exact mem_escapeChar hc

theorem escape_append (s t : String) : escape (s ++ t) = escape s ++ escape t := by
  simp [escape, escapeChars_append]

/-- Behind its first character nothing that is written for a character is an ampersand. -/
theorem escapeChar_eq_cons (c : Char) : ∃ d ds, escapeChar c = d :: ds ∧ '&' ∉ ds := by
  by_cases hc : c ∈ specials
  · obtain ⟨d, name, hentity, hno⟩ := escapeChar_of_special hc
    exact ⟨'&', d :: name, hentity, hno⟩
  · exact ⟨c, [], escapeChar_of_not_special hc, List.not_mem_nil⟩

/-- **An ampersand of an escaped text begins the entity of a special character**, with the text in
    front of that character written in front of it and the text behind it written behind. -/
theorem exists_of_ampersand {cs front rest : List Char}
    (h : escapeChars cs = front ++ '&' :: rest) :
    ∃ us c vs, cs = us ++ c :: vs ∧ front = escapeChars us ∧ c ∈ specials ∧
      '&' :: rest = escapeChar c ++ escapeChars vs := by
  induction cs generalizing front with
  | nil => simp at h
  | cons c cs ih =>
    rw [escapeChars_cons] at h
    cases front with
    | nil =>
      have hspecial : c ∈ specials := by
        by_contra hc
        rw [escapeChar_of_not_special hc] at h
        exact hc ((List.cons.inj h).1 ▸ List.mem_cons_self)
      exact ⟨[], c, cs, rfl, rfl, hspecial, h.symm⟩
    | cons d front =>
      -- the ampersand stands behind what is written for `c`
      obtain ⟨d', ds, hwritten, hno⟩ := escapeChar_eq_cons c
      rw [hwritten, List.cons_append, List.cons_append, List.cons.injEq] at h
      obtain ⟨m, rfl, hcs⟩ := Text.exists_of_append_eq hno h.2
      obtain ⟨us, c', vs, rfl, rfl, hspecial, hrest⟩ := ih hcs
      refine ⟨c :: us, c', vs, rfl, ?_, hspecial, hrest⟩
      rw [escapeChars_cons, hwritten, h.1, List.cons_append]

/-! ## 3. Texts that are left as they are -/

theorem length_le_escapeChars (cs : List Char) : cs.length ≤ (escapeChars cs).length := by
  induction cs with
  | nil => exact Nat.le_refl 0
  | cons c cs ih =>
    obtain ⟨d, ds, hwritten, -⟩ := escapeChar_eq_cons c
    rw [escapeChars_cons, hwritten, List.cons_append, List.length_cons, List.length_cons,
      List.length_append]
    omega

/-- **Only a text without special characters is left as it is.** -/
theorem escapeChars_eq_self_iff {cs : List Char} :
    escapeChars cs = cs ↔ ∀ c ∈ cs, c ∉ specials := by
  induction cs with
  | nil => simp
  | cons c cs ih =>
    rw [escapeChars_cons, List.forall_mem_cons, ← ih]
    by_cases hc : c ∈ specials
    · -- an entity is longer than its character, and the rest gets no shorter
      obtain ⟨d, name, hentity, -⟩ := escapeChar_of_special hc
      have hrest := length_le_escapeChars cs
      refine iff_of_false (fun heq => ?_) fun h => h.1 hc
      have hlength := congrArg List.length heq
      simp only [hentity, List.length_append, List.length_cons] at hlength
      omega
    · rw [escapeChar_of_not_special hc, List.singleton_append, List.cons.injEq]
      exact and_congr_left fun _ => iff_of_true rfl hc

/-! ## 4. Reading back -/

/-- Any character but the ampersand stands for itself. -/
theorem unescapeChars_cons {c : Char} (h : c ≠ '&') (cs : List Char) :
    unescapeChars (c :: cs) = c :: unescapeChars cs := by
  rw [unescapeChars.eq_def]
  split <;> simp_all

theorem unescapeChars_escapeChar (c : Char) (cs : List Char) :
    unescapeChars (escapeChar c ++ cs) = c :: unescapeChars cs := by
  by_cases hc : c ∈ specials
  · simp only [specials, List.mem_cons, List.not_mem_nil, or_false] at hc
    rcases hc with rfl | rfl | rfl | rfl | rfl <;> rfl
  · rw [escapeChar_of_not_special hc]
    refine unescapeChars_cons (fun heq => hc ?_) cs
    rw [heq]
    exact List.mem_cons_self

/-- **Undoing the entities gives the text back**, and goes on with what follows. -/
theorem unescapeChars_escapeChars (cs ds : List Char) :
    unescapeChars (escapeChars cs ++ ds) = cs ++ unescapeChars ds := by
  induction cs with
  | nil => rfl
  | cons c cs ih =>
    rw [escapeChars_cons, List.append_assoc, unescapeChars_escapeChar, ih, List.cons_append]

@[simp] theorem unescape_escape (s : String) : unescape (escape s) = s := by
  have h := unescapeChars_escapeChars s.toList []
  rw [List.append_nil] at h
  rw [unescape, escape, String.toList_ofList, h, unescapeChars, List.append_nil, String.ofList_toList]

/-- A text that looks like an entity is written so that it still does afterwards. -/
example : escape "&lt;b&gt;" = "&amp;lt;b&amp;gt;" ∧ unescape "&amp;lt;b" = "&lt;b" := by decide

/-! ## 5. Every text -/

/-- **Escaping can be undone and leaves nothing that begins or ends a tag or a value.** In what is
    written for a text, each ampersand begins the entity of a special character of the text, between
    what is written for the parts around it; undoing the entities gives the text back; a text is
    written part by part; and it is left as it is exactly when no character of it is special. -/
theorem escape_invertible (s : String) :
    (∀ c ∈ (escape s).toList, c ≠ '<' ∧ c ≠ '>' ∧ c ≠ '"' ∧ c ≠ '\'') ∧
    (∀ front rest, escape s = front ++ "&" ++ rest →
      ∃ e ∈ entities, ∃ u v, s = u ++ String.singleton e.1 ++ v ∧ front = escape u ∧
        "&" ++ rest = e.2 ++ escape v) ∧
    unescape (escape s) = s ∧
    (∀ t, escape (s ++ t) = escape s ++ escape t) ∧
    (escape s = s ↔ ∀ c ∈ s.toList, c ∉ specials) := by
  have letters : (escape s).toList = escapeChars s.toList := String.toList_ofList
  refine ⟨fun c hc => mem_escapeChars (letters ▸ hc), fun front rest h => ?_, unescape_escape s,
    escape_append s, ?_⟩
  · have hwritten : escapeChars s.toList = front.toList ++ '&' :: rest.toList := by
      rw [← letters, h]
      simp
    obtain ⟨us, c, vs, hs, hfront, hc, hrest⟩ := exists_of_ampersand hwritten
    obtain ⟨e, he, rfl, hentity⟩ := exists_entity hc
    refine ⟨e, he, String.ofList us, String.ofList vs, ?_, ?_, ?_⟩ <;> apply String.toList_inj.mp
    · simp [hs]
    · simp [escape, hfront]
    · simpa [escape, hentity] using hrest
  · rw [← escapeChars_eq_self_iff, ← letters, String.toList_inj]

end CommandConsole.Markup
