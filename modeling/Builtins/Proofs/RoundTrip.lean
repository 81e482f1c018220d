import Builtins.Session
import Builtins.Proofs.Numerals
import Builtins.Proofs.Scripts
import Builtins.Proofs.Tokens
import Mathlib

/-!
# Printing words and reading them back

Words that are printed one after another can be read back from what was printed: each is a line of
digits, perhaps with a minus sign, so the lines are the tokens, and every token denotes the word that
it was printed for.

* `run_printAll`: what printing words puts into a sink.
* `absorb_line`: a line without separators in it is a token.
* `runAll_reads`: reading tokens as words, from a source that holds such lines.
* `printed_words_read_back`: both together, for any way to cut the bytes into chunks.
-/
namespace Builtins

/-! ## Numerals as bytes -/

theorem utf8_eq_flatMap (text : String) : utf8 text = text.toList.flatMap String.utf8EncodeChar := by
  have hbytes : text.toUTF8 = (text.toList.flatMap String.utf8EncodeChar).toByteArray := by
    conv => lhs; rw [← String.ofList_toList (s := text)]
    exact String.toByteArray_ofList
  rw [utf8, hbytes, List.data_toByteArray]

theorem utf8Size_digitChar : ∀ d < 10, d.digitChar.utf8Size = 1 := by decide

theorem isSeparator_digitChar : ∀ d < 10, isSeparator d.digitChar.val.toUInt8 = false := by decide

/-- A character of a numeral is one byte, which is no separator. -/
theorem utf8EncodeChar_numeral {c : Char} (h : c = '-' ∨ ∃ d < 10, c = d.digitChar) :
    ∃ b, String.utf8EncodeChar c = [b] ∧ isSeparator b = false := by
  obtain rfl | ⟨d, hd, rfl⟩ := h
  · exact ⟨_, String.utf8EncodeChar_eq_singleton (by decide), by decide⟩
  · exact ⟨_, String.utf8EncodeChar_eq_singleton (utf8Size_digitChar d hd), isSeparator_digitChar d hd⟩

/-- The text of a word in bytes: at least one, and no separators. -/
theorem utf8_toString (w : Word) :
    utf8 (toString w) ≠ [] ∧ ∀ b ∈ utf8 (toString w), isSeparator b = false := by
  rw [utf8_eq_flatMap]
  constructor
  · obtain ⟨c, cs, hcs⟩ := List.exists_cons_of_ne_nil (Decimal.toString_ne_nil w)
    have hc : c ∈ (toString w).toList := hcs ▸ List.mem_cons_self
    obtain ⟨b, hb, -⟩ := utf8EncodeChar_numeral (Decimal.mem_toString hc)
    rw [hcs, List.flatMap_cons, hb]
    exact List.cons_ne_nil b _
  · intro b hb
    obtain ⟨c, hc, hb⟩ := List.mem_flatMap.1 hb
    obtain ⟨b', hb', hsep⟩ := utf8EncodeChar_numeral (Decimal.mem_toString hc)
    rw [hb', List.mem_singleton] at hb
    rwa [hb]

/-! ## Printing -/

namespace Script

/-- Prints the text that a word is converted to. -/
def sayConverted (w : Word) : Script Unit := do
  .say (← .str (toString w))

/-- Prints words one after another. -/
def printAll (print : Word → Script Unit) : List Word → Script Unit
  | [] => .done ()
  | w :: ws => do
    print w
    printAll print ws

/-- The line of a word. -/
def wordLine (w : Word) : ByteArray := line (toString w)

/-- A way to print a word: it succeeds on a sink without limit and adds the line of the word. -/
def PrintsLine (print : Word → Script Unit) : Prop :=
  ∀ (w : Word) (c : Console) (j : Log.Journal), c.sink.limit = none →
    ∃ k, (print w).run c j = ⟨.ok (), c.put (wordLine w), k⟩

theorem printsLine_sayInt : PrintsLine sayInt := by
  intro w c j h
  refine ⟨j.note (.called "print"), ?_⟩
  simp [sayInt, say, run, Console.print_unlimited h, wordLine]

theorem printsLine_sayConverted : PrintsLine sayConverted := by
  intro w c j h
  refine ⟨(j.noteTimes (.converted "number" "str") 1).note (.called "print"), ?_⟩
  have hstr : (str (toString w)).run c j =
      ⟨.ok (toString w), c, j.noteTimes (.converted "number" "str") 1⟩ := rfl
  rw [sayConverted, run_bind_of_ok hstr]
  simp [say, run, Console.print_unlimited h, wordLine]

theorem run_printAll {print : Word → Script Unit} (hprint : PrintsLine print) (ws : List Word)
    {c : Console} (h : c.sink.limit = none) (j : Log.Journal) :
    ∃ k, (printAll print ws).run c j = ⟨.ok (), c.put (joined (ws.map wordLine)), k⟩ := by
  induction ws generalizing c j with
  | nil => exact ⟨j, by simp [printAll, run, Console.put]⟩
  | cons w ws ih =>
    obtain ⟨k, hw⟩ := hprint w c j h
    obtain ⟨l, hws⟩ := ih (show (c.put (wordLine w)).sink.limit = none from h) k
    refine ⟨l, ?_⟩
    rw [printAll, run_bind_of_ok hw, hws]
    simp [Console.put, ByteArray.append_assoc]

end Script

/-! ## Reading -/

namespace Source

theorem decode_utf8 (text : String) : decode (utf8 text) = .ok text := by
  have hbytes : (utf8 text).toByteArray = text.toUTF8 := by
    apply ByteArray.ext
    simp [utf8]
  have h := decode_spells (utf8 text)
  cases hd : decode (utf8 text) with
  | ok t =>
    rw [hd, Spells, hbytes] at h
    rw [String.toByteArray_inj.1 h]
  | error fault =>
    rw [hd] at h
    exact absurd ⟨text, hbytes.symm⟩ h.2

/-- A line without separators in it is a token, and its line feed is left. -/
theorem absorb_line {word : List UInt8} (hne : word ≠ []) (hw : ∀ b ∈ word, isSeparator b = false)
    (rest : List UInt8) : absorb [] (word ++ 0x0A :: rest) = (word, 0x0A :: rest) := by
  have hfeed : 0x0A :: rest = [] ∨ ∃ s tail, 0x0A :: rest = s :: tail ∧ isSeparator s = true :=
    .inr ⟨0x0A, rest, rfl, rfl⟩
  obtain ⟨htake, hdrop⟩ := span_word hw hfeed
  have hskip : (word ++ 0x0A :: rest).dropWhile isSeparator = word ++ 0x0A :: rest := by
    cases word with
    | nil => exact absurd rfl hne
    | cons b word => simp [hw b List.mem_cons_self]
  simp [absorb, hskip, htake, hdrop]

/-- A line feed in front of a token is skipped. -/
theorem absorb_feed (bytes : List UInt8) : absorb [] (0x0A :: bytes) = absorb [] bytes := by
  rw [absorb_cons]
  rfl

end Source

namespace Action

/-- The lines of words in bytes. -/
def wordLines (ws : List Word) : List UInt8 := (joined (ws.map Script.wordLine)).data.toList

theorem wordLines_cons (w : Word) (ws : List Word) :
    wordLines (w :: ws) = utf8 (toString w) ++ 0x0A :: wordLines ws := by
  simp [wordLines, Script.wordLine, ByteArray.data_append, bytes_line]

/-- Reading one token as a word. -/
theorem run_int {c : Console} {text : String} {w : Word} {s : Source}
    (ht : c.source.token = (.ok text, s)) (hw : Literal.toWord text = .ok w) (j : Log.Journal) :
    ∃ k, Action.int.run c j = ⟨.ok (.word w), { c with source := s }, k⟩ := by
  refine ⟨j.noteTimes (.converted "str" "int") 1, ?_⟩
  have hint : Script.int text = .note (.converted "str" "int") 1 (.done w) := by
    rw [Script.int, hw]
    rfl
  simp only [run, Console.token, ht, hint]
  rfl

/-- From a source that goes on with the lines of words, reading gives the words and then nothing. The
source may still have to skip what stands before the first line. -/
theorem runAll_reads (ws : List Word) {s : Source} {bytes : List UInt8} (hs : s.Delivers bytes)
    (hbytes : Source.absorb [] bytes = Source.absorb [] (wordLines ws)) (sink : Sink)
    (j : Log.Journal) :
    (runAll (List.replicate ws.length .int ++ [.token]) ⟨sink, s⟩ j).1 =
      ws.map (fun w => .ok (.word w)) ++ [.ok (.text "")] := by
  induction ws generalizing s bytes j with
  | nil =>
    have htoken : s.token.1 = .ok "" := by
      rw [hs.token.1, hbytes]
      exact Source.decode_nil
    simp [runAll, run, Console.token, htoken, Except.map]
  | cons w ws ih =>
    obtain ⟨hne, hsep⟩ := utf8_toString w
    rw [wordLines_cons, Source.absorb_line hne hsep] at hbytes
    obtain ⟨htoken, hleft⟩ := hs.token
    rw [hbytes] at htoken hleft
    obtain ⟨k, hint⟩ := run_int (c := ⟨sink, s⟩) (Prod.ext (htoken.trans (Source.decode_utf8 _)) rfl)
      (Literal.toWord_toString w) j
    have hrest := ih hleft (Source.absorb_feed _) k
    simp [List.replicate_succ, runAll, hint, hrest]

end Action

/-- Words that are printed one after another, as they are or converted to text first, are read back
from what was printed, however it is cut into chunks; after the last one there is nothing to read. -/
theorem printed_words_read_back (ws : List Word) (print : Word → Script Unit)
    (hprint : print = Script.sayInt ∨ print = Script.sayConverted) (source : Source)
    (journal : Log.Journal) (chunks : List (List UInt8)) (hne : ∀ c ∈ chunks, c ≠ [])
    (hflat : chunks.flatten =
      ((Script.printAll print ws).run ⟨{}, source⟩ journal).console.sink.contents.data.toList)
    (sink : Sink) (journal' : Log.Journal) :
    ((Script.printAll print ws).run ⟨{}, source⟩ journal).result = .ok () ∧
      (Action.runAll (List.replicate ws.length .int ++ [.token]) ⟨sink, .ofChunks chunks⟩
          journal').1 =
        ws.map (fun w => .ok (.word w)) ++ [.ok (.text "")] := by
  have hline : Script.PrintsLine print := by
    obtain rfl | rfl := hprint
    · exact Script.printsLine_sayInt
    · exact Script.printsLine_sayConverted
  obtain ⟨k, hrun⟩ := Script.run_printAll hline ws (c := ⟨{}, source⟩) rfl journal
  rw [hrun] at hflat ⊢
  have hlines : chunks.flatten = Action.wordLines ws := by
    rw [hflat, Console.put_contents, ByteArray.empty_append]
    rfl
  exact ⟨rfl, Action.runAll_reads ws ⟨chunks, hne, hlines, rfl⟩ rfl sink journal'⟩

/-- The lines of the smallest word, zero and `-7`, cut inside the first numeral and behind the second. -/
def cutLines : List (List UInt8) :=
  [[0x2D, 0x39], [0x32, 0x32, 0x33, 0x33, 0x37, 0x32, 0x30, 0x33, 0x36, 0x38, 0x35, 0x34, 0x37, 0x37,
    0x35, 0x38, 0x30, 0x38, 0x0A, 0x30], [0x0A, 0x2D, 0x37, 0x0A]]

theorem printed_words_read_back_smallest :
    (∀ c ∈ cutLines, c ≠ []) ∧
      cutLines.flatten = ((Script.printAll Script.sayConverted [Int64.minValue, 0, -7]).run
        ⟨{}, ⟨[]⟩⟩ {}).console.sink.contents.data.toList ∧
      (Action.runAll [.int, .int, .int, .token] ⟨{}, .ofChunks cutLines⟩ {}).1 =
        [.ok (.word Int64.minValue), .ok (.word 0), .ok (.word (-7)), .ok (.text "")] := by
  have hflat : cutLines.flatten = ((Script.printAll Script.sayConverted [Int64.minValue, 0, -7]).run
      ⟨{}, ⟨[]⟩⟩ {}).console.sink.contents.data.toList := by cbv
  exact ⟨by decide, hflat, (printed_words_read_back [Int64.minValue, 0, -7] Script.sayConverted
    (.inr rfl) ⟨[]⟩ {} cutLines (by decide) hflat {} {}).2⟩

end Builtins
