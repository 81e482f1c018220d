import Builtins.Proofs.Transcripts
import Builtins.Proofs.Words
import Mathlib

/-!
# Lines read back from a buffer

A print is one write of a text and a line feed. As long as no text has a line feed in it or ends with
a carriage return, the lines of the buffer are the printed texts, one by one, whichever handle on the
buffer they were printed through.

* `Text.lines_terminated`, `lines_of_contents`: from the bytes of printed texts back to the texts.
* `Memory`: buffers and the handles on them; `sink_use` and `sink_useAll` say what becomes of one buffer.
* `Script.Tidy`: a script that prints no line breaks unless it reads some; `unbroken_token`: it never
  reads any. `tidy_script` for the programs.
* `printed_lines_recovered`: what is printed through handles, and what programs print, line by line.
-/
namespace Builtins

/-! ## Texts without line breaks -/

/-- The text has no line feed in it and does not end with a carriage return. -/
def Printable (text : String) : Prop := '\n' ∉ text.toList ∧ text.toList.getLast? ≠ some '\r'

/-- The text has neither line feeds nor carriage returns in it. -/
def Unbroken (text : String) : Prop := '\n' ∉ text.toList ∧ '\r' ∉ text.toList

instance (text : String) : Decidable (Printable text) := inferInstanceAs (Decidable (_ ∧ _))

instance (text : String) : Decidable (Unbroken text) := inferInstanceAs (Decidable (_ ∧ _))

theorem Unbroken.printable {text : String} (h : Unbroken text) : Printable text :=
  ⟨h.1, fun hlast => h.2 (List.mem_of_getLast? hlast)⟩

theorem Unbroken.append {s t : String} (hs : Unbroken s) (ht : Unbroken t) : Unbroken (s ++ t) := by
  simp only [Unbroken, String.toList_append, List.mem_append, not_or]
  exact ⟨⟨hs.1, ht.1⟩, hs.2, ht.2⟩

theorem unbroken_toString (w : Word) : Unbroken (toString w) :=
  ⟨Decimal.not_mem_toString (by decide) (by decide) w,
    Decimal.not_mem_toString (by decide) (by decide) w⟩

namespace Text

theorem ended_reverse {cs : List Char} (h : cs.getLast? ≠ some '\r') : ended cs.reverse = cs := by
  rw [← List.head?_reverse] at h
  unfold ended
  split
  · next cs' hcs => simp [hcs] at h
  · exact List.reverse_reverse cs

theorem linesFrom_append {cs : List Char} (h : '\n' ∉ cs) (acc rest : List Char) :
    linesFrom acc (cs ++ '\n' :: rest) = ended (cs.reverse ++ acc) :: linesFrom [] rest := by
  induction cs generalizing acc with
  | nil => rfl
  | cons c cs ih =>
    obtain ⟨hc, hcs⟩ := not_or.1 (mt List.mem_cons.2 h)
    rw [List.cons_append, linesFrom, ih hcs, List.reverse_cons, List.append_assoc]
    · rfl
    · exact Ne.symm hc

/-- Texts with a line feed behind each. -/
def terminated (texts : List String) : String := String.join (texts.map (· ++ "\n"))

theorem terminated_cons (text : String) (texts : List String) :
    terminated (text :: texts) = text ++ "\n" ++ terminated texts := by
  rw [terminated, List.map_cons, String.join_cons]
  rfl

theorem lines_terminated {texts : List String} (h : ∀ t ∈ texts, Printable t) :
    lines (terminated texts) = texts := by
  induction texts with
  | nil => rfl
  | cons text texts ih =>
    obtain ⟨hfeed, hlast⟩ := h text List.mem_cons_self
    have hchars : (terminated (text :: texts)).toList =
        text.toList ++ '\n' :: (terminated texts).toList := by
      rw [terminated_cons]
      simp
    rw [lines, hchars, linesFrom_append hfeed, List.append_nil, ended_reverse hlast, List.map_cons,
      String.ofList_toList]
    exact congrArg (text :: ·) (ih fun t ht => h t (List.mem_cons_of_mem _ ht))

/-- The bytes of a text are read as that text. -/
theorem lossy_toUTF8 (text : String) : lossy text.toUTF8 = text := by
  have hdecode := Source.decode_utf8 text
  have hbytes : (utf8 text).toByteArray = text.toUTF8 := ByteArray.ext (by simp [utf8])
  rw [Source.decode, hbytes] at hdecode
  unfold lossy
  cases hs : String.fromUTF8? text.toUTF8 with
  | some s =>
    rw [hs] at hdecode
    exact Except.ok.inj hdecode
  | none =>
    rw [hs] at hdecode
    cases hdecode

end Text

theorem joined_lines (texts : List String) :
    joined (texts.map line) = (Text.terminated texts).toUTF8 := by
  induction texts with
  | nil => rfl
  | cons text texts ih =>
    rw [List.map_cons, joined_cons, ih, Text.terminated_cons, String.toUTF8, String.toUTF8,
      String.toByteArray_append]
    rfl

/-- The lines of a sink that holds printed texts. -/
theorem lines_of_contents {s : Sink} {texts : List String}
    (hs : s.contents = joined (texts.map line)) (h : ∀ t ∈ texts, Printable t) :
    Text.lines s.text = texts ∧ s.text = Text.terminated texts := by
  have htext : s.text = Text.terminated texts := by rw [Sink.text, hs, joined_lines, Text.lossy_toUTF8]
  exact ⟨by rw [htext, Text.lines_terminated h], htext⟩

/-! ## Handles on buffers -/

/-- Something done with handles: one is cloned, or a text is printed through one. -/
inductive Use where
  | clone (handle : Nat)
  | print (handle : Nat) (text : String)

/-- Buffers, and for each handle the place of its buffer among them. -/
structure Memory where
  sinks : List Sink
  handles : List Nat

namespace Memory

/-- A clone is a handle on the same buffer; a print is one write to the buffer of its handle. -/
def use (m : Memory) : Use → Memory
  | .clone h => { m with handles := m.handles ++ (m.handles[h]?).toList }
  | .print h text =>
    match m.handles[h]? with
    | none => m
    | some place => { m with sinks := m.sinks.modify place fun s => (s.write (line text)).2 }

def useAll (m : Memory) (uses : List Use) : Memory := uses.foldl use m

/-- What one use prints into the buffer at a place. -/
def printedBy (m : Memory) (place : Nat) : Use → List String
  | .clone _ => []
  | .print h text => if m.handles[h]? = some place then [text] else []

/-- The texts that are printed into the buffer at a place, in the order of the prints. -/
def printed (m : Memory) (place : Nat) : List Use → List String
  | [] => []
  | u :: uses => m.printedBy place u ++ (m.use u).printed place uses

/-- The buffer of a handle. -/
def sink? (m : Memory) (handle : Nat) : Option Sink := do m.sinks[← m.handles[handle]?]?

/-- What a handle shows of its buffer as a whole. -/
def contents (m : Memory) (handle : Nat) : Option String := (m.sink? handle).map Sink.text

/-- What a handle shows of its buffer line by line. -/
def lines (m : Memory) (handle : Nat) : Option (List String) :=
  (m.sink? handle).map fun s => Text.lines s.text

variable {m : Memory} {place : Nat} {s : Sink}

/-- One use adds to a buffer what it prints into it, and nothing else. -/
theorem sink_use (hs : m.sinks[place]? = some s) (hlimit : s.limit = none) (u : Use) :
    (m.use u).sinks[place]? =
      some { s with contents := s.contents ++ joined ((m.printedBy place u).map line) } := by
  cases u with
  | clone h => simpa [use, printedBy] using hs
  | print h text =>
    rw [use, printedBy]
    cases hh : m.handles[h]? with
    | none => simpa using hs
    | some other =>
      simp only [List.getElem?_modify, hs, Option.some.injEq]
      by_cases heq : other = place
      · simp [heq, Sink.write_unlimited hlimit]
      · simp [heq]

theorem sink_useAll (hs : m.sinks[place]? = some s) (hlimit : s.limit = none) (uses : List Use) :
    (m.useAll uses).sinks[place]? =
      some { s with contents := s.contents ++ joined ((m.printed place uses).map line) } := by
  induction uses generalizing m s with
  | nil => simpa [useAll, printed] using hs
  | cons u uses ih =>
    have hrest := ih (sink_use hs hlimit u) hlimit
    rw [ByteArray.append_assoc, ← joined_append, ← List.map_append] at hrest
    exact hrest

/-- What every handle on a buffer shows that was new at first. -/
theorem shows_printed (hnew : m.sinks[place]? = some {}) (uses : List Use)
    (htexts : ∀ t ∈ m.printed place uses, Printable t) {handle : Nat}
    (hhandle : (m.useAll uses).handles[handle]? = some place) :
    (m.useAll uses).lines handle = some (m.printed place uses) ∧
      (m.useAll uses).contents handle = some (Text.terminated (m.printed place uses)) := by
  have hsink : (m.useAll uses).sink? handle =
      some { contents := joined ((m.printed place uses).map line) } := by
    rw [sink?, hhandle]
    simpa using sink_useAll hnew rfl uses
  obtain ⟨hlines, htext⟩ := lines_of_contents (s := { contents := joined _ }) rfl htexts
  rw [lines, contents, hsink, Option.map_some, Option.map_some, hlines, htext]
  exact ⟨rfl, rfl⟩

end Memory

/-! ## What programs print -/

/-- No character of a token is a line break. -/
theorem Source.unbroken_token {s : Source} {text : String} (h : s.token.1 = .ok text) : Unbroken text := by
  obtain ⟨used, -, hused⟩ := s.token_split
  have hbytes : ∀ b ∈ utf8 text, isSeparator b = false := by
    rw [hused text h]
    intro b hb
    simpa using (List.mem_filter.1 hb).2
  have hchars : ∀ c ∈ text.toList, Text.partsWords c = false := by
    intro c hc
    by_contra hparts
    obtain ⟨b, hb, hsep⟩ := Text.utf8EncodeChar_of_partsWords c (by simpa using hparts)
    have hmem : b ∈ utf8 text := by
      rw [utf8_eq_flatMap]
      exact List.mem_flatMap.2 ⟨c, hc, by simp [hb]⟩
    simp [hbytes b hmem] at hsep
  exact ⟨fun hc => absurd (hchars _ hc) (by decide), fun hc => absurd (hchars _ hc) (by decide)⟩

theorem Console.unbroken_ask {c d : Console} {prompt token : String}
    (h : c.ask prompt = (.ok token, d)) : Unbroken token := by
  rcases hp : c.print prompt with ⟨_ | u, e⟩
  · rw [ask_of_print_error hp] at h
    cases h
  · rw [ask_of_print_ok hp] at h
    split at h
    · cases h
    · exact Source.unbroken_token (s := e.source) (congrArg Prod.fst h)

namespace Script

variable {α β : Type}

/-- The texts that a run prints, the first of them first; the prompts belong to them. -/
def prints (s : Script α) (c : Console) : List String :=
  match s with
  | done _ => []
  | fail _ => []
  | note _ _ next => next.prints c
  | print text next =>
    text ::
      match c.print text with
      | (.ok (), c) => (next ()).prints c
      | (.error _, _) => []
  | ask prompt next =>
    prompt ::
      match c.ask prompt with
      | (.ok token, c) => (next token).prints c
      | (.error _, _) => []
  | flush next =>
    match c.flush with
    | .ok () => (next ()).prints c
    | .error _ => []

theorem writes_eq_prints (s : Script α) (c : Console) : s.writes c = (s.prints c).map line := by
  induction s generalizing c with
  | done value => rfl
  | fail fault => rfl
  | note event times next ih => exact ih c
  | print text next ih =>
    rw [writes, prints, List.map_cons]
    rcases c.print text with ⟨_ | u, d⟩
    · rfl
    · exact congrArg _ (ih () d)
  | ask prompt next ih =>
    rw [writes, prints, List.map_cons]
    rcases c.ask prompt with ⟨_ | token, d⟩
    · rfl
    · exact congrArg _ (ih token d)
  | flush next ih =>
    rw [writes, prints]
    cases c.flush with
    | error fault => rfl
    | ok u => exact ih () c

/-- All that the script prints is unbroken, if the tokens that it reads are. -/
def Tidy : Script α → Prop
  | done _ => True
  | fail _ => True
  | note _ _ next => next.Tidy
  | print text next => Unbroken text ∧ (next ()).Tidy
  | ask prompt next => Unbroken prompt ∧ ∀ token, Unbroken token → (next token).Tidy
  | flush next => (next ()).Tidy

theorem Tidy.unbroken {s : Script α} (h : s.Tidy) (c : Console) : ∀ t ∈ s.prints c, Unbroken t := by
  induction s generalizing c with
  | done value => exact fun t ht => by cases ht
  | fail fault => exact fun t ht => by cases ht
  | note event times next ih => exact ih h c
  | print text next ih =>
    rw [prints, List.forall_mem_cons]
    refine ⟨h.1, ?_⟩
    rcases c.print text with ⟨_ | u, d⟩
    · exact fun t ht => by cases ht
    · exact ih () h.2 d
  | ask prompt next ih =>
    rw [prints, List.forall_mem_cons]
    refine ⟨h.1, ?_⟩
    rcases ha : c.ask prompt with ⟨_ | token, d⟩
    · exact fun t ht => by cases ht
    · exact ih token (h.2 token (Console.unbroken_ask ha)) d
  | flush next ih =>
    rw [prints]
    cases c.flush with
    | error fault => exact fun t ht => by cases ht
    | ok u => exact ih () h c

theorem Tidy.bind {s : Script α} {f : α → Script β} (hs : s.Tidy) (hf : ∀ a, (f a).Tidy) :
    (s >>= f).Tidy := by
  show (s.bind f).Tidy
  induction s with
  | done value => exact hf value
  | fail fault => trivial
  | note event times next ih => exact ih hs
  | print text next ih => exact ⟨hs.1, ih () hs.2⟩
  | ask prompt next ih => exact ⟨hs.1, fun token ht => ih token (hs.2 token ht)⟩
  | flush next ih => exact ih () hs

theorem tidy_say {text : String} (h : Unbroken text) : (say text).Tidy := ⟨h, trivial⟩

theorem tidy_sayInt (w : Word) : (sayInt w).Tidy := tidy_say (unbroken_toString w)

theorem tidy_ofExcept (result : Except Fault α) : (ofExcept result).Tidy := by
  cases result <;> trivial

theorem tidy_log (event : Log.Event) : (log event).Tidy := trivial

theorem tidy_add (a b : Word) : (add a b).Tidy := tidy_ofExcept (Arith.add a b)

theorem tidy_mul (a b : Word) : (mul a b).Tidy := tidy_ofExcept (Arith.mul a b)

theorem tidy_int (text : String) : (int text).Tidy := tidy_ofExcept (Literal.toWord text)

/-- What goes on with the text of a number has to be tidy for this text only. -/
theorem tidy_str_bind {text : String} {f : String → Script β} (h : (f text).Tidy) :
    (str text >>= f).Tidy := h

theorem tidy_input_bind {prompt : String} {f : String → Script β} (hprompt : Unbroken prompt)
    (h : ∀ token, Unbroken token → (f token).Tidy) : (input prompt >>= f).Tidy := ⟨hprompt, h⟩

end Script

namespace Program

open Script

theorem tidy_fibonacci (p : Parameters) : (fibonacciScript p).Tidy := by
  refine tidy_str_bind (Tidy.bind (tidy_say ?_) fun _ => Tidy.bind ?_ tidy_sayInt)
  · have hfront : Unbroken "Calculating index " := by decide
    have hback : Unbroken " of fibonacci series..." := by decide
    exact (hfront.append (unbroken_toString p.fibIndex)).append hback
  · unfold Fibonacci.script
    split
    · trivial
    · split <;> trivial

theorem tidy_answer {token : String} (h : Unbroken token) : (answer token).Tidy := by
  have htoken : Unbroken ("Testing input: " ++ token) := Unbroken.append (by decide) h
  refine (tidy_say htoken).bind fun _ => (tidy_int token).bind fun v => (tidy_mul v 100).bind fun w => ?_
  have hproduct : Unbroken ("More testing input: " ++ toString w) :=
    Unbroken.append (by decide) (unbroken_toString w)
  refine tidy_str_bind ((tidy_say hproduct).bind fun _ => ?_)
  exact (tidy_mul 3 4).bind fun w => (tidy_sayInt w).bind fun _ => (tidy_mul 5 6).bind tidy_sayInt

theorem tidy_arithmetic : arithmeticScript.Tidy := by
  have hgreeting : Unbroken "Test imported!" := by decide
  refine (tidy_say hgreeting).bind fun _ => (tidy_add 1 2).bind fun _ => (tidy_mul _ 3).bind fun a =>
    (tidy_add a 4).bind fun b => (tidy_add b b).bind fun c => (tidy_log _).bind fun _ => ?_
  have hanswer : Unbroken ("The answer is... " ++ toString c) :=
    Unbroken.append (by decide) (unbroken_toString c)
  have hprompt : Unbroken "Give me input: " := by decide
  exact tidy_str_bind ((tidy_say hanswer).bind fun _ => tidy_input_bind hprompt fun _ => tidy_answer)

theorem tidy_printValues (c : Range.Cursor) : (printValues c).Tidy := by
  fun_induction printValues c with
  | case1 c w d h ih => exact ⟨unbroken_toString w, ih⟩
  | case2 c d h => trivial

theorem tidy_script (program : Program) (p : Parameters) : (program.script p).Tidy := by
  have hend : (flushed >>= fun _ => log .finished).Tidy := trivial
  have hbody : (program.body p).Tidy := by
    cases program with
    | fibonacci => exact tidy_fibonacci p
    | arithmetic => exact tidy_arithmetic
    | counting => exact tidy_printValues _
    | counterClass =>
      have hcreate : Counter.create.Tidy := (tidy_sayInt 123).bind fun _ => trivial
      have hincrement : ∀ c : Counter, c.increment.Tidy := fun c => (tidy_add c.value 1).bind fun _ => trivial
      exact hcreate.bind fun c => (tidy_sayInt c.value).bind fun _ => (hincrement c).bind fun c =>
        tidy_sayInt c.value
  exact (tidy_log _).bind fun _ => hbody.bind fun _ => hend

/-- The lines of a buffer that a program has run on, after some other texts were printed. -/
theorem lines_run (program : Program) (p : Parameters) {c : Console} (hlimit : c.sink.limit = none)
    {earlier : List String} (hsink : c.sink.contents = joined (earlier.map line))
    (hearlier : ∀ t ∈ earlier, Printable t) (journal : Log.Journal) :
    Text.lines (program.run p c journal).console.sink.text =
      earlier ++ (program.script p).prints c := by
  have hcontents : (program.run p c journal).console.sink.contents =
      joined ((earlier ++ (program.script p).prints c).map line) := by
    rw [List.map_append, joined_append, ← hsink, ← writes_eq_prints]
    exact contents_run _ hlimit _
  refine (lines_of_contents hcontents fun t ht => ?_).1
  rcases List.mem_append.1 ht with ht | ht
  · exact hearlier t ht
  · exact ((tidy_script program p).unbroken c t ht).printable

end Program

/-- Whatever handles on a new buffer are cloned and printed through, each of them shows the printed
texts as its lines, in the order of the prints, and each text with a line feed behind it as its
contents, if no text has a line feed in it or ends with a carriage return. The lines of a buffer that
a program has run on are what was printed before and what the program has printed, whatever it read. -/
theorem printed_lines_recovered (m : Memory) (place : Nat) (uses : List Use)
    (hnew : m.sinks[place]? = some {}) (htexts : ∀ t ∈ m.printed place uses, Printable t) :
    (∀ handle, (m.useAll uses).handles[handle]? = some place →
      (m.useAll uses).lines handle = some (m.printed place uses) ∧
        (m.useAll uses).contents handle = some (Text.terminated (m.printed place uses))) ∧
    ∀ (sink : Sink), (m.useAll uses).sinks[place]? = some sink →
      ∀ (program : Program) (p : Program.Parameters) (source : Source) (journal : Log.Journal),
        Text.lines (program.run p ⟨sink, source⟩ journal).console.sink.text =
          m.printed place uses ++ (program.script p).prints ⟨sink, source⟩ := by
  refine ⟨fun handle hhandle => Memory.shows_printed hnew uses htexts hhandle,
    fun sink hsink program p source journal => ?_⟩
  rw [Memory.sink_useAll hnew rfl, Option.some.injEq] at hsink
  subst hsink
  exact program.lines_run p rfl (by simp) htexts journal

/-- Two clones of a handle, and prints through all three. -/
def turns : List Use :=
  [.clone 0, .print 1 "", .clone 1, .print 2 "a\rb", .print 0 "\u00e9\u3000", .print 2 ""]

theorem printed_lines_recovered_clones :
    let m : Memory := ⟨[{}], [0]⟩
    (∀ t ∈ m.printed 0 turns, Printable t) ∧ (m.useAll turns).handles = [0, 0, 0] ∧
      (m.useAll turns).lines 1 = some ["", "a\rb", "\u00e9\u3000", ""] ∧
      (m.useAll turns).contents 2 = some "\na\rb\n\u00e9\u3000\n\n" := by
  intro m
  have hprinted : m.printed 0 turns = ["", "a\rb", "\u00e9\u3000", ""] := by decide
  have htexts : ∀ t ∈ m.printed 0 turns, Printable t := by
    rw [hprinted]
    decide
  have hhandles : (m.useAll turns).handles = [0, 0, 0] := rfl
  obtain ⟨hshown, -⟩ := printed_lines_recovered m 0 turns rfl htexts
  refine ⟨htexts, hhandles, ?_, ?_⟩
  · rw [← hprinted]
    exact (hshown 1 (by rw [hhandles]; rfl)).1
  · rw [(hshown 2 (by rw [hhandles]; rfl)).2, hprinted]
    decide

end Builtins
