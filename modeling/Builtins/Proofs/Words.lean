import Builtins.Proofs.RoundTrip
import Mathlib

/-!
# Reading the words of a text

The bytes that part tokens are five ASCII characters, and no byte of a character beyond ASCII is one of
them. So the tokens of the bytes of a text are the bytes of its words, wherever the bytes are cut into
chunks, and a word is always text. White space other than the five characters does not part words.

* `wordsBy`: the words between separators of any kind; `Text.words` for the characters of a text.
* `utf8EncodeChar_of_partsWords`, `utf8EncodeChar_of_not_partsWords`: a character has a separator among
  its bytes only if it parts words, and then this is its only byte.
* `runs_eq_words`, `words_utf8`: the runs of the bytes of a text are the bytes of its words.
* `reads_words_of_text`: what reading gives, call by call.
-/
namespace Builtins

/-! ## Words between separators -/

section wordsBy

variable {α β : Type} (p : α → Bool)

/-- What stands between the elements with `p`, unless it is empty. -/
def wordsBy (xs : List α) : List (List α) := (xs.splitOnP p).filter (!·.isEmpty)

variable {p}

theorem wordsBy_cons_of_pos {x : α} (h : p x = true) (xs : List α) :
    wordsBy p (x :: xs) = wordsBy p xs := by
  rw [wordsBy, List.splitOnP_cons_eq_if_modifyHead, if_pos h]
  rfl

/-- A word in front of a list that ends or goes on with a separator. -/
theorem wordsBy_append {word rest : List α} (hne : word ≠ []) (hword : ∀ x ∈ word, p x = false)
    (hrest : rest = [] ∨ ∃ x xs, rest = x :: xs ∧ p x = true) :
    wordsBy p (word ++ rest) = word :: wordsBy p rest := by
  obtain rfl | ⟨x, xs, rfl, hx⟩ := hrest
  · rw [List.append_nil, wordsBy, List.splitOnP_eq_singleton hword]
    simp [wordsBy, hne]
  · rw [wordsBy_cons_of_pos hx, wordsBy, List.splitOnP_append_cons_of_forall_mem hword x hx]
    simp [wordsBy, hne]

/-- Nothing but separators gets lost. -/
theorem flatten_wordsBy (xs : List α) : (wordsBy p xs).flatten = xs.filter (!p ·) := by
  rw [wordsBy, List.flatten_filter_not_isEmpty]
  induction xs with
  | nil => simp
  | cons x xs ih =>
    rw [List.splitOnP_cons_eq_if_modifyHead]
    by_cases hx : p x = true
    · simp [hx, ih]
    · obtain ⟨w, ws, hsplit⟩ := List.exists_cons_of_ne_nil (List.splitOnP_ne_nil p xs)
      rw [hsplit, List.flatten_cons] at ih
      simp [hx, hsplit, ih]

/-- Elements that are no separators go in front of the first piece. -/
theorem splitOnP_append_of_neg {front : List α} (h : ∀ x ∈ front, p x = false) (xs : List α) :
    (front ++ xs).splitOnP p = (xs.splitOnP p).modifyHead (front ++ ·) := by
  obtain ⟨w, ws, hsplit⟩ := List.exists_cons_of_ne_nil (List.splitOnP_ne_nil p xs)
  rw [hsplit, List.modifyHead_cons]
  induction front with
  | nil => simpa using hsplit
  | cons x front ih =>
    have hx : p x = false := h x List.mem_cons_self
    rw [List.cons_append, List.splitOnP_cons_eq_if_modifyHead, hx,
      ih fun y hy => h y (List.mem_cons_of_mem _ hy)]
    simp

/-- An encoding that writes separators as one separator each, and other elements without separators,
encodes word by word. -/
theorem wordsBy_flatMap {q : β → Bool} {encode : α → List β} (hne : ∀ x, encode x ≠ [])
    (hpos : ∀ x, p x = true → ∃ y, encode x = [y] ∧ q y = true)
    (hneg : ∀ x, p x = false → ∀ y ∈ encode x, q y = false) (xs : List α) :
    wordsBy q (xs.flatMap encode) = (wordsBy p xs).map (·.flatMap encode) := by
  have hsplit : (xs.flatMap encode).splitOnP q = (xs.splitOnP p).map (·.flatMap encode) := by
    induction xs with
    | nil => simp
    | cons x xs ih =>
      rw [List.flatMap_cons, List.splitOnP_cons_eq_if_modifyHead]
      by_cases hx : p x = true
      · obtain ⟨y, hy, hq⟩ := hpos x hx
        rw [if_pos hx, hy, List.singleton_append, List.splitOnP_cons_eq_if_modifyHead, if_pos hq, ih]
        simp
      · obtain ⟨w, ws, hw⟩ := List.exists_cons_of_ne_nil (List.splitOnP_ne_nil p xs)
        rw [if_neg hx, splitOnP_append_of_neg (hneg x (by simpa using hx)), ih, hw]
        simp
  have hempty : ∀ w : List α, (w.flatMap encode).isEmpty = w.isEmpty := by
    intro w
    cases w with
    | nil => rfl
    | cons x w => simp [hne x]
  rw [wordsBy, hsplit, wordsBy, List.filter_map]
  simp only [Function.comp_def, hempty]

end wordsBy

/-! ## Words of a text -/

namespace Text

/-- The characters that part words: space, tab, line feed, form feed and carriage return. -/
def partsWords (c : Char) : Bool := c ∈ [' ', '\t', '\n', '\x0c', '\r']

def words (text : String) : List (List Char) := wordsBy partsWords text.toList

theorem utf8EncodeChar_of_partsWords (c : Char) (h : partsWords c = true) :
    ∃ b, String.utf8EncodeChar c = [b] ∧ isSeparator b = true := by
  simp only [partsWords, List.mem_cons, List.not_mem_nil, or_false, decide_eq_true_eq] at h
  obtain rfl | rfl | rfl | rfl | rfl := h
  all_goals exact ⟨_, String.utf8EncodeChar_eq_singleton (by decide), by decide⟩

/-- The bytes of a character beyond ASCII are beyond ASCII too. -/
theorem toNat_of_mem_utf8EncodeChar {b : UInt8} {c : Char} (hb : b ∈ String.utf8EncodeChar c)
    (hlt : b.toNat < 0x80) : c.toNat = b.toNat := by
  have hofNat : ∀ n : Nat, (UInt8.ofNat n).toNat = n % 0x100 := fun _ => rfl
  simp only [String.utf8EncodeChar] at hb
  split at hb
  · rw [List.mem_singleton.1 hb, hofNat]
    exact (Nat.mod_eq_of_lt (show c.val.toNat < 0x100 by omega)).symm
  · -- every byte of a longer form has its highest bit set
    exfalso
    have hhigh : 0x80 ≤ b.toNat := by
      split at hb
      · simp only [List.mem_cons, List.not_mem_nil, or_false] at hb
        obtain rfl | rfl := hb <;> rw [hofNat] <;> omega
      · split at hb
        · simp only [List.mem_cons, List.not_mem_nil, or_false] at hb
          obtain rfl | rfl | rfl := hb <;> rw [hofNat] <;> omega
        · simp only [List.mem_cons, List.not_mem_nil, or_false] at hb
          obtain rfl | rfl | rfl | rfl := hb <;> rw [hofNat] <;> omega
    omega

/-- So a separator among the bytes of a character is that character. -/
theorem utf8EncodeChar_of_not_partsWords (c : Char) (h : partsWords c = false) :
    ∀ b ∈ String.utf8EncodeChar c, isSeparator b = false := by
  intro b hb
  by_contra hsep
  simp only [isSeparator, Bool.not_eq_false, Bool.or_eq_true, beq_iff_eq] at hsep
  have hc : b.toNat < 0x80 → c = Char.ofNat b.toNat := fun hlt => by
    rw [← toNat_of_mem_utf8EncodeChar hb hlt, Char.ofNat_toNat]
  obtain (((rfl | rfl) | rfl) | rfl) | rfl := hsep
  all_goals
    rw [hc (by decide)] at h
    exact absurd h (by decide)

end Text

namespace Source

/-! ## Reading them -/

/-- The runs of any bytes are the words between separators. -/
theorem runs_eq_words (bytes : List UInt8) : (runs bytes).map (·.1) = wordsBy isSeparator bytes := by
  fun_induction runs bytes with
  | case1 => rfl
  | case2 b bs hb ih => rw [ih, wordsBy_cons_of_pos hb]
  | case3 b bs hb ih =>
    have hword : ∀ c ∈ b :: bs.takeWhile (!isSeparator ·), isSeparator c = false := by
      intro c hc
      rcases List.mem_cons.1 hc with rfl | hc
      · simpa using hb
      · exact takeWhile_word hc
    rw [List.map_cons, ih, ← wordsBy_append (List.cons_ne_nil _ _) hword (dropWhile_word bs),
      List.cons_append, List.takeWhile_append_dropWhile]

/-- The words of the bytes of a text are its words in bytes. -/
theorem words_utf8 (text : String) :
    wordsBy isSeparator (utf8 text) = (Text.words text).map fun w => utf8 (String.ofList w) := by
  have hne : ∀ c, String.utf8EncodeChar c ≠ [] := fun c hnil => by
    have hlen := String.length_utf8EncodeChar c
    have hpos := Char.utf8Size_pos c
    rw [hnil, List.length_nil] at hlen
    omega
  simp only [utf8_eq_flatMap, String.toList_ofList]
  exact wordsBy_flatMap hne Text.utf8EncodeChar_of_partsWords Text.utf8EncodeChar_of_not_partsWords _

/-- Reading from a source that holds a text gives its words, one by one, and then the empty text. -/
theorem Delivers.read_text {s : Source} {text : String} (h : s.Delivers (utf8 text)) (k : Nat) :
    (s.after k).token.1 = .ok (String.ofList ((Text.words text)[k]?.getD [])) := by
  have hword : ((runs (utf8 text))[k]?.getD ([], [])).1 =
      utf8 (String.ofList ((Text.words text)[k]?.getD [])) := by
    rw [← Option.getD_map Prod.fst, ← List.getElem?_map, runs_eq_words, words_utf8, List.getElem?_map]
    exact Option.getD_map (fun w => utf8 (String.ofList w)) [] _
  rw [(h.read k).1, hword, decode_utf8]

/-- The bytes of a text are read as its words, wherever they are cut into chunks: no read fails, the
reads give the words one by one, as the characters that they are, and after the last one the empty
text. All characters of the text are in the words, in their order, but the five that part them; so no
other white space parts words. -/
theorem reads_words_of_text (text : String) (chunks : List (List UInt8)) (hne : ∀ c ∈ chunks, c ≠ [])
    (hflat : chunks.flatten = utf8 text) :
    (∀ k, ((ofChunks chunks).after k).token.1 =
        .ok (String.ofList ((Text.words text)[k]?.getD []))) ∧
      (∀ w ∈ Text.words text, w ≠ []) ∧
      (Text.words text).flatten = text.toList.filter (· ∉ [' ', '\t', '\n', '\x0c', '\r']) := by
  refine ⟨fun k => Delivers.read_text ⟨chunks, hne, hflat, rfl⟩ k, fun w hw => ?_, ?_⟩
  · simpa using (List.mem_filter.1 hw).2
  · rw [Text.words, flatten_wordsBy]
    exact List.filter_congr fun c _ => (decide_not (p := c ∈ _)).symm

/-- Two words with a no-break space, a next line, a vertical tab and an ideographic space in them, cut
inside three characters. -/
def cutText : List (List UInt8) :=
  [[0x61, 0xC2], [0xA0, 0xC2], [0x85, 0x0B, 0x20, 0x0C, 0xE3], [0x80, 0x80]]

theorem reads_words_of_text_blanks :
    (∀ c ∈ cutText, c ≠ []) ∧ cutText.flatten = utf8 "a\u00A0\u0085\x0b \x0c\u3000" ∧
      (ofChunks cutText).token.1 = .ok "a\u00A0\u0085\x0b" ∧
      ((ofChunks cutText).after 1).token.1 = .ok "\u3000" ∧
      ((ofChunks cutText).after 2).token.1 = .ok "" := by
  have hflat : cutText.flatten = utf8 "a\u00A0\u0085\x0b \x0c\u3000" := by cbv
  obtain ⟨hread, -⟩ := reads_words_of_text _ cutText (by decide) hflat
  have hwords : Text.words "a\u00A0\u0085\x0b \x0c\u3000" =
      [['a', '\u00A0', '\u0085', '\x0b'], ['\u3000']] := by decide
  rw [hwords] at hread
  exact ⟨by decide, hflat, hread 0, hread 1, hread 2⟩

end Source

end Builtins
