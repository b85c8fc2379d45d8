import CommandConsole.Text.Utf8
import Mathlib.Tactic.Common

/-!
# The reader of UTF-8 undoes the writer, and accepts nothing else

The bytes of a text are the bytes of its characters one after the other. The machine that reads them
stands at `start` between two characters, and a lead byte leaves it owing the continuation bytes of
one character.

* `decode_eq_map_some`: there is no damage in bytes exactly if they are those of a text, and then
  its characters are read.
* `strict?_eq_some`: so the reader of texts accepts exactly the bytes of a text and answers that
  text.
-/

namespace CommandConsole.Text.Utf8

/-! ## 1. The bytes of a text -/

/-- The bytes of an array, collected one by one from an index on. -/
theorem toList_loop (bs : ByteArray) (i : Nat) (seen : List UInt8) :
    ByteArray.toList.loop bs i seen = seen.reverse ++ bs.data.toList.drop i := by
  fun_induction ByteArray.toList.loop bs i seen with
  | case1 i seen h ih =>
    have hi : i < bs.data.toList.length := h
    rw [ih, List.reverse_cons, List.append_assoc, List.drop_eq_getElem_cons hi]
    simp only [List.singleton_append, Array.getElem_toList]
    rw [show bs.get! i = bs.data[i] from getElem!_pos bs.data i h]
  | case2 i seen h =>
    rw [List.drop_eq_nil_of_le (Nat.le_of_not_lt h), List.append_nil]

/-- The bytes of a text are those of its characters in turn. -/
theorem encode_eq_flatMap (s : String) : encode s = s.toList.flatMap String.utf8EncodeChar := by
  have h : s.toUTF8.data.toList = s.toList.flatMap String.utf8EncodeChar := by
    rw [String.toUTF8, ← String.utf8Encode_toList, List.utf8Encode, List.data_toByteArray]
  rw [encode, ByteArray.toList, toList_loop, h]
  rfl

/-! ## 2. The bytes of one character -/

/-- A byte that continues a character. -/
def IsTail (b : UInt8) : Prop := 0x80 ≤ b.toNat ∧ b.toNat ≤ 0xbf

/-- These bytes spell a code point, with one, two, three or four bytes. The second byte rules out
    what has a shorter spelling, the surrogates and what lies beyond the last code point. -/
inductive Spells : List UInt8 → Nat → Prop where
  | one {a : UInt8} (h : a.toNat < 0x80) : Spells [a] a.toNat
  | two {a b : UInt8} {v : Nat} (ha : 0xc2 ≤ a.toNat ∧ a.toNat ≤ 0xdf) (hb : IsTail b)
      (hv : v = 64 * (a.toNat - 0xc0) + (b.toNat - 0x80)) : Spells [a, b] v
  | three {a b c : UInt8} {v : Nat} (ha : 0xe0 ≤ a.toNat ∧ a.toNat ≤ 0xef) (hb : IsTail b)
      (hc : IsTail c) (short : a.toNat = 0xe0 → 0xa0 ≤ b.toNat)
      (surrogate : a.toNat = 0xed → b.toNat ≤ 0x9f)
      (hv : v = 64 * (64 * (a.toNat - 0xe0) + (b.toNat - 0x80)) + (c.toNat - 0x80)) :
      Spells [a, b, c] v
  | four {a b c d : UInt8} {v : Nat} (ha : 0xf0 ≤ a.toNat ∧ a.toNat ≤ 0xf4) (hb : IsTail b)
      (hc : IsTail c) (hd : IsTail d) (short : a.toNat = 0xf0 → 0x90 ≤ b.toNat)
      (beyond : a.toNat = 0xf4 → b.toNat ≤ 0x8f)
      (hv : v = 64 * (64 * (64 * (a.toNat - 0xf0) + (b.toNat - 0x80)) + (c.toNat - 0x80))
        + (d.toNat - 0x80)) : Spells [a, b, c, d] v

/-- The code point of a character is none of the surrogates. -/
theorem toNat_valid (c : Char) :
    c.val.toNat < 0xd800 ∨ 0xdfff < c.val.toNat ∧ c.val.toNat < 0x110000 := c.valid

/-- The bytes of a character spell its code point. -/
theorem spells_utf8EncodeChar (c : Char) : Spells (String.utf8EncodeChar c) c.toNat := by
  have hv := toNat_valid c
  change Spells (String.utf8EncodeChar c) c.val.toNat
  unfold String.utf8EncodeChar
  generalize c.val.toNat = v at hv
  -- every byte that is put together from a part of the code point is below 256
  have byte (x : Nat) (h : x < 256) : (UInt8.ofNat x).toNat = x := by
    rw [UInt8.toNat_ofNat', Nat.mod_eq_of_lt h]
  have tail (x : Nat) : (UInt8.ofNat (x % 64 + 128)).toNat = x % 64 + 128 := byte _ (by omega)
  have isTail (x : Nat) : IsTail (UInt8.ofNat (x % 64 + 128)) := by rw [IsTail, tail]; omega
  simp only
  split_ifs with h₁ h₂ h₃
  · have h := Spells.one (a := UInt8.ofNat v) (by rw [byte v (by omega)]; omega)
    rwa [byte v (by omega)] at h
  · have hb := byte (v / 64 % 32 + 192) (by omega)
    refine .two (by rw [hb]; omega) (isTail _) ?_
    rw [hb, tail]; omega
  · have hb := byte (v / 4096 % 16 + 224) (by omega)
    refine .three (by rw [hb]; omega) (isTail _) (isTail _) ?_ ?_ ?_ <;> rw [hb, tail]
    · omega
    · omega
    · rw [tail]; omega
  · have hb := byte (v / 262144 % 8 + 240) (by omega)
    refine .four (by rw [hb]; omega) (isTail _) (isTail _) (isTail _) ?_ ?_ ?_ <;> rw [hb, tail]
    · omega
    · omega
    · rw [tail, tail]; omega

/-- A code point that is spelled is that of a character, and has no other spelling. -/
theorem Spells.exists_char {bs : List UInt8} {v : Nat} (h : Spells bs v) :
    ∃ c : Char, c.toNat = v ∧ String.utf8EncodeChar c = bs := by
  -- the same character whatever the number of bytes; only its bytes are computed case by case
  have assemble (hv : v < 0xd800 ∨ 0xdfff < v ∧ v < 0x110000)
      (hbs : ∀ c : Char, c.val.toNat = v → String.utf8EncodeChar c = bs) :
      ∃ c : Char, c.toNat = v ∧ String.utf8EncodeChar c = bs := by
    have hc : (Char.ofNat v).val.toNat = v := by
      rw [Char.ofNat, dif_pos hv]
      rfl
    exact ⟨Char.ofNat v, hc, hbs _ hc⟩
  have byte (x : Nat) (b : UInt8) (h : x = b.toNat) : UInt8.ofNat x = b := by
    rw [h, UInt8.ofNat_toNat]
  cases h with
  | @one a h =>
    refine assemble (by omega) fun c hc => ?_
    simp only [String.utf8EncodeChar, hc]
    rw [if_pos (by omega), byte _ a rfl]
  | @two a b v ha hb hv =>
    unfold IsTail at hb
    refine assemble (by omega) fun c hc => ?_
    simp only [String.utf8EncodeChar, hc]
    rw [if_neg (by omega), if_pos (by omega), byte _ a (by omega), byte _ b (by omega)]
  | @three a b c v ha hb hc short surrogate hv =>
    unfold IsTail at hb hc
    refine assemble (by omega) fun ch hch => ?_
    simp only [String.utf8EncodeChar, hch]
    rw [if_neg (by omega), if_neg (by omega), if_pos (by omega), byte _ a (by omega),
      byte _ b (by omega), byte _ c (by omega)]
  | @four a b c d v ha hb hc hd short beyond hv =>
    unfold IsTail at hb hc hd
    refine assemble (by omega) fun ch hch => ?_
    simp only [String.utf8EncodeChar, hch]
    rw [if_neg (by omega), if_neg (by omega), if_neg (by omega), byte _ a (by omega),
      byte _ b (by omega), byte _ c (by omega), byte _ d (by omega)]

/-! ## 3. The machine on one character -/

theorem first_of_ascii {b : Nat} (h : b < 0x80) : first b = ([some (Char.ofNat b)], .start) := by
  simp [first, h]

theorem first_of_two {b : Nat} (h : 0xc2 ≤ b ∧ b ≤ 0xdf) :
    first b = ([], .inside 0 0x80 0xbf (b - 0xc0)) := by
  have h' : ¬ b < 0x80 := by omega
  simp [first, h, h']

theorem first_of_three {b : Nat} (h : 0xe0 ≤ b ∧ b ≤ 0xef) :
    first b = ([], .inside 1 (if b = 0xe0 then 0xa0 else 0x80) (if b = 0xed then 0x9f else 0xbf)
      (b - 0xe0)) := by
  have h₁ : ¬ b < 0x80 := by omega
  have h₂ : ¬ b ≤ 0xdf := by omega
  by_cases h₃ : b = 0xe0
  · simp [first, h₃]
  by_cases h₄ : b = 0xed
  · simp [first, h₄]
  have h₅ : 0xe1 ≤ b := by omega
  simp [first, h₁, h₂, h₃, h₄, h₅, h.2]

theorem first_of_four {b : Nat} (h : 0xf0 ≤ b ∧ b ≤ 0xf4) :
    first b = ([], .inside 2 (if b = 0xf0 then 0x90 else 0x80) (if b = 0xf4 then 0x8f else 0xbf)
      (b - 0xf0)) := by
  obtain h | h | h | h | h : b = 0xf0 ∨ b = 0xf1 ∨ b = 0xf2 ∨ b = 0xf3 ∨ b = 0xf4 := by omega
  all_goals subst h; rfl

/-- No other byte begins a character. -/
theorem first_of_other {b : Nat} (h₁ : ¬ b < 0x80) (h₂ : ¬ (0xc2 ≤ b ∧ b ≤ 0xdf))
    (h₃ : ¬ (0xe0 ≤ b ∧ b ≤ 0xef)) (h₄ : ¬ (0xf0 ≤ b ∧ b ≤ 0xf4)) : first b = ([none], .start) := by
  have h₅ : ¬ (0xe1 ≤ b ∧ b ≤ 0xef) := by omega
  have h₆ : ¬ (0xf1 ≤ b ∧ b ≤ 0xf3) := by omega
  have h₇ : b ≠ 0xe0 ∧ b ≠ 0xed ∧ b ≠ 0xf0 ∧ b ≠ 0xf4 := by omega
  simp only [first, h₁, h₂, h₅, h₆, h₇, beq_iff_eq, Bool.and_eq_true, decide_eq_true_eq, if_false]

/-- What was read before stands in front of what is read. -/
theorem decodeFrom_eq_append (s : State) (out : List (Option Char)) (bs : List UInt8) :
    decodeFrom s out bs = out.reverse ++ decodeFrom s [] bs := by
  induction bs generalizing s out with
  | nil => simp [decodeFrom]
  | cons b bs ih =>
    simp only [decodeFrom]
    rw [ih, ih _ ((s.step b.toNat).1 ++ [])]
    simp

theorem decodeFrom_start_cons (out : List (Option Char)) (b : UInt8) (bs : List UInt8) :
    decodeFrom .start out (b :: bs)
      = decodeFrom (first b.toNat).2 ((first b.toNat).1 ++ out) bs := rfl

/-- The last byte that is owed completes the character. -/
theorem decodeFrom_last {lo hi value : Nat} {b : UInt8} (h : lo ≤ b.toNat ∧ b.toNat ≤ hi)
    (out : List (Option Char)) (bs : List UInt8) :
    decodeFrom (.inside 0 lo hi value) out (b :: bs)
      = decodeFrom .start (some (Char.ofNat (64 * value + (b.toNat - 0x80))) :: out) bs := by
  simp [decodeFrom, State.step, h]

/-- Any other byte that is owed makes one less. -/
theorem decodeFrom_more {owed lo hi value : Nat} {b : UInt8} (h : lo ≤ b.toNat ∧ b.toNat ≤ hi)
    (out : List (Option Char)) (bs : List UInt8) :
    decodeFrom (.inside (owed + 1) lo hi value) out (b :: bs)
      = decodeFrom (.inside owed 0x80 0xbf (64 * value + (b.toNat - 0x80))) out bs := by
  simp [decodeFrom, State.step, h]

/-- Bytes without damage pay what is owed: there is a next byte, and it is in the range. -/
theorem owed_of_undamaged {owed lo hi value : Nat} {bs : List UInt8}
    (h : none ∉ decodeFrom (.inside owed lo hi value) [] bs) :
    ∃ b rest, bs = b :: rest ∧ lo ≤ b.toNat ∧ b.toNat ≤ hi := by
  cases bs with
  | nil => simp [decodeFrom, State.finish] at h
  | cons b rest =>
    by_cases hb : lo ≤ b.toNat ∧ b.toNat ≤ hi
    · exact ⟨b, rest, rfl, hb⟩
    · simp only [decodeFrom, State.step, Bool.and_eq_true, decide_eq_true_eq, hb, if_false,
        List.append_nil] at h
      rw [decodeFrom_eq_append] at h
      simp at h

/-- The machine reads a spelled code point as its character. -/
theorem Spells.read {bs : List UInt8} {v : Nat} (h : Spells bs v) (rest : List UInt8) :
    decode (bs ++ rest) = some (Char.ofNat v) :: decode rest := by
  have one (c : Option Char) : decodeFrom .start [c] rest = c :: decodeFrom .start [] rest :=
    decodeFrom_eq_append ..
  cases h with
  | one h =>
    simp only [decode, List.singleton_append, decodeFrom_start_cons, first_of_ascii h,
      List.append_nil, one]
  | two ha hb hv =>
    simp only [decode, List.cons_append, List.nil_append, decodeFrom_start_cons, first_of_two ha]
    rw [decodeFrom_last hb, one, hv]
  | three ha hb hc short surrogate hv =>
    simp only [decode, List.cons_append, List.nil_append, decodeFrom_start_cons, first_of_three ha]
    unfold IsTail at hb
    rw [decodeFrom_more (by split_ifs <;> omega), decodeFrom_last hc, one, hv]
  | four ha hb hc hd short beyond hv =>
    simp only [decode, List.cons_append, List.nil_append, decodeFrom_start_cons, first_of_four ha]
    unfold IsTail at hb
    rw [decodeFrom_more (by split_ifs <;> omega), decodeFrom_more hc, decodeFrom_last hd, one, hv]

/-- Bytes without damage begin with a spelled code point. -/
theorem exists_spells_of_undamaged {a : UInt8} {bs : List UInt8} (h : none ∉ decode (a :: bs)) :
    ∃ head rest v, a :: bs = head ++ rest ∧ Spells head v := by
  unfold decode at h
  rw [decodeFrom_start_cons] at h
  by_cases h₁ : a.toNat < 0x80
  · exact ⟨[a], bs, _, rfl, .one h₁⟩
  by_cases h₂ : 0xc2 ≤ a.toNat ∧ a.toNat ≤ 0xdf
  · rw [first_of_two h₂] at h
    obtain ⟨b, rest, rfl, hb⟩ := owed_of_undamaged h
    exact ⟨[a, b], rest, _, rfl, .two h₂ hb rfl⟩
  by_cases h₃ : 0xe0 ≤ a.toNat ∧ a.toNat ≤ 0xef
  · rw [first_of_three h₃] at h
    obtain ⟨b, rest, rfl, hb⟩ := owed_of_undamaged h
    rw [List.append_nil, decodeFrom_more hb] at h
    obtain ⟨c, rest, rfl, hc⟩ := owed_of_undamaged h
    have hb' : IsTail b := by unfold IsTail; split_ifs at hb <;> omega
    exact ⟨[a, b, c], rest, _, rfl, .three h₃ hb' hc (by split_ifs at hb <;> omega)
      (by split_ifs at hb <;> omega) rfl⟩
  by_cases h₄ : 0xf0 ≤ a.toNat ∧ a.toNat ≤ 0xf4
  · rw [first_of_four h₄] at h
    obtain ⟨b, rest, rfl, hb⟩ := owed_of_undamaged h
    rw [List.append_nil, decodeFrom_more hb] at h
    obtain ⟨c, rest, rfl, hc⟩ := owed_of_undamaged h
    rw [decodeFrom_more hc] at h
    obtain ⟨d, rest, rfl, hd⟩ := owed_of_undamaged h
    have hb' : IsTail b := by unfold IsTail; split_ifs at hb <;> omega
    exact ⟨[a, b, c, d], rest, _, rfl, .four h₄ hb' hc hd (by split_ifs at hb <;> omega)
      (by split_ifs at hb <;> omega) rfl⟩
  · rw [first_of_other h₁ h₂ h₃ h₄, decodeFrom_eq_append] at h
    simp at h

/-! ## 4. Texts -/

/-- The bytes of characters are read as these characters. -/
theorem decode_flatMap (cs : List Char) :
    decode (cs.flatMap String.utf8EncodeChar) = cs.map some := by
  induction cs with
  | nil => rfl
  | cons c cs ih =>
    rw [List.flatMap_cons, (spells_utf8EncodeChar c).read, ih, Char.ofNat_toNat, List.map_cons]

/-- **Bytes without damage are those of a text**, whose characters are then read. -/
theorem decode_eq_map_some {bs : List UInt8} {cs : List Char} :
    decode bs = cs.map some ↔ bs = cs.flatMap String.utf8EncodeChar := by
  refine ⟨fun h => ?_, fun h => h ▸ decode_flatMap cs⟩
  -- the recursion goes over the characters that are read; each takes its bytes off the front
  induction cs generalizing bs with
  | nil =>
    cases bs with
    | nil => rfl
    | cons a bs =>
      have whole : none ∉ decode (a :: bs) := by simp [h]
      obtain ⟨head, rest, v, hs, hv⟩ := exists_spells_of_undamaged whole
      rw [hs, hv.read] at h
      cases h
  | cons c cs ih =>
    cases bs with
    | nil => cases h
    | cons a bs =>
      have whole : none ∉ decode (a :: bs) := by simp [h]
      obtain ⟨head, rest, v, hs, hv⟩ := exists_spells_of_undamaged whole
      obtain ⟨c', rfl, rfl⟩ := hv.exists_char
      rw [hs, hv.read, Char.ofNat_toNat, List.map_cons, List.cons.injEq, Option.some.injEq] at h
      rw [hs, List.flatMap_cons, h.1, ih h.2]

theorem mapM_id_eq_some {α : Type} {l : List (Option α)} {xs : List α} :
    l.mapM id = some xs ↔ l = xs.map some := by
  induction l generalizing xs with
  | nil => cases xs <;> simp
  | cons x l ih =>
    cases x with
    | none => cases xs <;> simp
    | some x => cases xs <;> simp [List.mapM_cons, Option.bind_eq_some_iff, ih, and_comm]

/-- **The reader of texts accepts exactly the bytes of a text**, and answers that text. -/
theorem strict?_eq_some {bs : List UInt8} {s : String} : strict? bs = some s ↔ bs = encode s := by
  have h : strict? bs = some s ↔ (decode bs).mapM id = some s.toList := by
    rw [strict?, Option.map_eq_some_iff]
    constructor
    · rintro ⟨cs, hcs, rfl⟩
      rw [hcs, String.toList_ofList]
    · exact fun h => ⟨s.toList, h, String.ofList_toList⟩
  rw [h, mapM_id_eq_some, decode_eq_map_some, encode_eq_flatMap]

@[simp] theorem strict?_encode (s : String) : strict? (encode s) = some s := strict?_eq_some.2 rfl

end CommandConsole.Text.Utf8
