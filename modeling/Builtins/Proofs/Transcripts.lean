import Builtins.Proofs.Interruptions
import Builtins.Proofs.Powers
import Builtins.Proofs.Sessions
import Mathlib

/-!
# Transcripts of programs

On a sink that takes everything, what a script does can be told as a transcript: the lines that it
prints, the tokens that it reads and what it comes to. The transcript of a script that goes on with
another one is put together from theirs.

* `Script.reads`: what the reads of a run come to; `source_run` and `reads_bind`.
* `Transcript`: the relation between a script and what it does; `Transcript.bind` and
  `Transcript.bind_error` put transcripts together.
* `transcript_script`: a whole program has the transcript of its body.
* `arithmetic_determined_by_token`: the transcript of the arithmetic program, for every source.
-/
namespace Builtins

/-! ## Reads -/

namespace Source

theorem after_add (s : Source) (m n : Nat) : s.after (m + n) = (s.after m).after n := by
  induction n with
  | zero => rfl
  | succ n ih => rw [← Nat.add_assoc, after, ih, after]

/-- A read that gives a token uses up the separators in front of it and the token, and nothing else. -/
theorem token_taken {s : Source} {text : String} (h : s.token.1 = .ok text) :
    ∃ blanks, (∀ b ∈ blanks, isSeparator b = true) ∧
      s.bytes = blanks ++ utf8 text ++ s.token.2.bytes := by
  have hresult : (collect [] s.fills).1.bind decode = .ok text := h
  cases hc : (collect [] s.fills).1 with
  | error fault =>
    rw [hc] at hresult
    cases hresult
  | ok word =>
    rw [hc] at hresult
    rw [utf8_of_decode hresult]
    exact collect_taken hc

end Source

namespace Console

/-- What the read of an `ask` comes to, if the prompt gets out. -/
def askReads (c : Console) (prompt : String) : List (Except Fault String) :=
  match c.print prompt with
  | (.error _, _) => []
  | (.ok (), d) =>
    match d.flush with
    | .error _ => []
    | .ok () => [d.token.1]

theorem ask_source {c d : Console} {prompt : String} {result : Except Fault String}
    (h : c.ask prompt = (result, d)) : d.source = c.source.after (c.askReads prompt).length := by
  have hsource : (c.print prompt).2.source = c.source := rfl
  rcases hp : c.print prompt with ⟨_ | u, e⟩ <;> rw [hp] at hsource
  · rw [ask_of_print_error hp] at h
    cases h
    simp only [askReads, hp]
    exact hsource
  · rw [ask_of_print_ok hp] at h
    cases hf : e.flush with
    | error fault =>
      rw [hf] at h
      cases h
      simp only [askReads, hp, hf]
      exact hsource
    | ok u =>
      rw [hf] at h
      cases h
      simp only [askReads, hp, hf]
      exact congrArg (·.token.2) hsource

end Console

namespace Script

variable {α β : Type}

/-- What the reads of a run come to, the first of them first. A read that fails is the last one. -/
def reads (s : Script α) (c : Console) : List (Except Fault String) :=
  match s with
  | done _ => []
  | fail _ => []
  | note _ _ next => next.reads c
  | print text next =>
    match c.print text with
    | (.ok (), c) => (next ()).reads c
    | (.error _, _) => []
  | ask prompt next =>
    c.askReads prompt ++
      match c.ask prompt with
      | (.ok token, c) => (next token).reads c
      | (.error _, _) => []
  | flush next =>
    match c.flush with
    | .ok () => (next ()).reads c
    | .error _ => []

/-- The source after a run is the source after all its reads. -/
theorem source_run (s : Script α) (c : Console) (j : Log.Journal) :
    (s.run c j).console.source = c.source.after (s.reads c).length := by
  induction s generalizing c j with
  | done value => rfl
  | fail fault => rfl
  | note event times next ih => exact ih ..
  | print text next ih =>
    simp only [run, reads]
    have hsource : (c.print text).2.source = c.source := rfl
    rcases hp : c.print text with ⟨_ | u, d⟩ <;> rw [hp] at hsource
    · exact hsource
    · rw [← hsource]
      exact ih ..
  | ask prompt next ih =>
    simp only [run, reads, List.length_append, Source.after_add]
    rcases ha : c.ask prompt with ⟨_ | token, d⟩ <;> rw [← Console.ask_source ha]
    · rfl
    · exact ih ..
  | flush next ih =>
    simp only [run, reads]
    cases c.flush with
    | error fault => rfl
    | ok u => exact ih ..

theorem reads_bind (s : Script α) (f : α → Script β) (c : Console) (j : Log.Journal) :
    (s >>= f).reads c =
      s.reads c ++
        match (s.run c j).result with
        | .ok a => (f a).reads (s.run c j).console
        | .error _ => [] := by
  show (s.bind f).reads c = _
  induction s generalizing c j with
  | done value => rfl
  | fail fault => rfl
  | note event times next ih => exact ih ..
  | print text next ih =>
    simp only [bind, run, reads]
    rcases c.print text with ⟨_ | u, d⟩
    · rfl
    · exact ih ..
  | ask prompt next ih =>
    simp only [bind, run, reads, List.append_assoc]
    rcases c.ask prompt with ⟨_ | token, d⟩
    · rfl
    · exact congrArg _ (ih ..)
  | flush next ih =>
    simp only [bind, run, reads]
    cases c.flush with
    | error fault => rfl
    | ok u => exact ih ..

end Script

/-! ## Transcripts -/

/-- A sink that takes all writes and can be flushed. -/
def Sink.Unbounded (s : Sink) : Prop := s.limit = none ∧ s.flushes = true

namespace Console

/-- The console after some lines have been printed and some tokens read. -/
def after (c : Console) (lines : List String) (reads : Nat) : Console :=
  { c.put (joined (lines.map line)) with source := c.source.after reads }

@[simp] theorem after_nil (c : Console) : c.after [] 0 = c := by
  simp [after, put, Source.after]

theorem after_after (c : Console) (ls ms : List String) (m n : Nat) :
    (c.after ls m).after ms n = c.after (ls ++ ms) (m + n) := by
  simp [after, put, joined_append, ByteArray.append_assoc, Source.after_add]

theorem put_line (c : Console) (text : String) : c.put (line text) = c.after [text] 0 := by
  rw [after, List.map_singleton, joined_cons, joined_nil, ByteArray.append_empty]
  rfl

theorem unbounded_after {c : Console} (h : c.sink.Unbounded) (ls : List String) (n : Nat) :
    (c.after ls n).sink.Unbounded := h

end Console

namespace Script

variable {α β : Type} {c : Console} {s : Script α} {f : α → Script β} {ls ms : List String}
  {rs qs : List (Except Fault String)} {fault : Fault}

/-- On this console the script prints the lines, its reads come to `reads`, and it comes to the
result, whatever has been logged. -/
structure Transcript (c : Console) (s : Script α) (lines : List String)
    (reads : List (Except Fault String)) (result : Except Fault α) : Prop where
  run : ∀ j, ∃ k, s.run c j = ⟨result, c.after lines reads.length, k⟩
  reads_eq : s.reads c = reads

/-- A script that succeeds, and one that goes on from there. -/
theorem Transcript.bind {a : α} {result : Except Fault β} (hs : Transcript c s ls rs (.ok a))
    (hf : Transcript (c.after ls rs.length) (f a) ms qs result) :
    Transcript c (s >>= f) (ls ++ ms) (rs ++ qs) result where
  run j := by
    obtain ⟨k, hk⟩ := hs.run j
    obtain ⟨l, hl⟩ := hf.run k
    refine ⟨l, ?_⟩
    rw [run_bind_of_ok hk, hl, Console.after_after, List.length_append]
  reads_eq := by
    obtain ⟨k, hk⟩ := hs.run {}
    rw [reads_bind s f c {}, hk, hs.reads_eq]
    exact congrArg _ hf.reads_eq

/-- A script that fails is not followed by another one. -/
theorem Transcript.bind_error (hs : Transcript c s ls rs (.error fault)) (f : α → Script β) :
    Transcript c (s >>= f) ls rs (.error fault) where
  run j := by
    obtain ⟨k, hk⟩ := hs.run j
    exact ⟨k, by rw [run_bind, hk]⟩
  reads_eq := by
    obtain ⟨k, hk⟩ := hs.run {}
    rw [reads_bind s f c {}, hk, hs.reads_eq, List.append_nil]

/-! ### Single actions -/

theorem transcript_say (h : c.sink.Unbounded) (text : String) :
    Transcript c (say text) [text] [] (.ok ()) where
  run j := ⟨_, by rw [run_say, Console.print_unlimited h.1, Console.put_line]; rfl⟩
  reads_eq := by rw [say, reads, Console.print_unlimited h.1]; rfl

theorem transcript_input (h : c.sink.Unbounded) (prompt : String) :
    Transcript c (input prompt) [prompt] [c.source.token.1] c.source.token.1 := by
  have hprint := Console.print_unlimited h.1 prompt
  have hflush : (c.put (line prompt)).flush = .ok () := if_pos h.2
  have hask : c.ask prompt = (c.source.token.1, c.after [prompt] 1) := by
    rw [Console.ask_of_print_ok hprint, hflush, Console.put_line]
    rfl
  constructor
  case run => exact fun j => ⟨_, by rw [run_input, hask]; rfl⟩
  case reads_eq =>
    have hreads : c.askReads prompt = [c.source.token.1] := by
      simp only [Console.askReads, hprint, hflush]
      rfl
    rw [input, reads, hreads, hask]
    cases c.source.token.1 <;> rfl

theorem transcript_flushed (h : c.sink.Unbounded) : Transcript c flushed [] [] (.ok ()) := by
  have hflush : c.flush = .ok () := if_pos h.2
  constructor
  case run => exact fun j => ⟨j, by rw [run_flushed, hflush, List.length_nil, Console.after_nil]⟩
  case reads_eq => rw [flushed, reads, hflush]; rfl

/-- A script that only logs and computes. -/
def Silent (s : Script α) (result : Except Fault α) : Prop := ∀ c, Transcript c s [] [] result

theorem silent_log (event : Log.Event) : Silent (log event) (.ok ()) := fun c =>
  ⟨fun _ => ⟨_, by rw [List.length_nil, Console.after_nil]; rfl⟩, rfl⟩

theorem silent_ofExcept (result : Except Fault α) : Silent (ofExcept result) result := fun c =>
  ⟨fun j => ⟨j, by rw [List.length_nil, Console.after_nil, run_ofExcept]⟩, by cases result <;> rfl⟩

theorem Silent.bind {a : α} {result : Except Fault β} (hs : Silent s (.ok a))
    (hf : Transcript c (f a) ms qs result) : Transcript c (s >>= f) ms qs result := by
  rw [← c.after_nil] at hf
  exact (hs c).bind hf

theorem silent_mul (a b : Word) : Silent (mul a b) (Arith.mul a b) := fun _ =>
  (silent_log _).bind (silent_ofExcept _ _)

theorem silent_add (a b : Word) : Silent (add a b) (Arith.add a b) := fun _ =>
  (silent_log _).bind (silent_ofExcept _ _)

theorem silent_int (text : String) : Silent (int text) (Literal.toWord text) := fun _ =>
  (silent_log _).bind (silent_ofExcept _ _)

theorem silent_str (text : String) : Silent (str text) (.ok text) := fun _ =>
  (silent_log _).bind (silent_ofExcept (.ok text) _)

end Script

/-- A literal that is refused is a fault that has the text as given. -/
theorem Literal.toWord_error {t : String} {fault : Fault} (h : Literal.toWord t = .error fault) :
    ∃ reason, fault = .badLiteral t reason := by
  rw [toWord] at h
  split at h
  · cases h
  · next reason _ => exact ⟨reason, (Except.error.inj h).symm⟩

namespace Program

open Script

variable {p : Parameters} {c : Console} {ls : List String} {rs : List (Except Fault String)}

/-- A whole program has the transcript of its body. -/
theorem transcript_script {program : Program} {result : Except Fault Unit} (h : c.sink.Unbounded)
    (hbody : Transcript c (program.body p) ls rs result) :
    Transcript c (program.script p) ls rs result := by
  refine (silent_log _).bind ?_
  cases result with
  | error fault => exact hbody.bind_error _
  | ok u =>
    have hend : Transcript (c.after ls rs.length) (flushed >>= fun _ => log .finished) [] [] (.ok u) :=
      (transcript_flushed (Console.unbounded_after h ls rs.length)).bind (silent_log .finished _)
    have hwhole := hbody.bind (f := fun _ => flushed >>= fun _ => log .finished) hend
    rwa [List.append_nil, List.append_nil] at hwhole

/-! ## The arithmetic program -/

/-- What the arithmetic program does with the token. -/
def answer (token : String) : Script Unit := do
  .say s!"Testing input: {token}"
  let scaled ← .mul (← .int token) 100
  let product ← .str (toString scaled)
  .say s!"More testing input: {product}"
  .sayInt (← .mul 3 4)
  .sayInt (← .mul 5 6)

/-- What it prints before it reads the token. -/
def greeting : List String := ["Test imported!", "The answer is... 26", "Give me input: "]

theorem transcript_arithmetic {ms : List String} {result : Except Fault Unit} (h : c.sink.Unbounded)
    (hrest : Transcript (c.after ["Test imported!", "The answer is... 26"] 0)
      (input "Give me input: " >>= answer) ms rs result) :
    Transcript c arithmeticScript ("Test imported!" :: "The answer is... 26" :: ms) rs result := by
  have h3 : Silent (add 1 2) (.ok 3) := silent_add 1 2
  have h9 : Silent (mul 3 3) (.ok 9) := silent_mul 3 3
  have h13 : Silent (add 9 4) (.ok 13) := silent_add 9 4
  have h26 : Silent (add 13 13) (.ok 26) := silent_add 13 13
  have htext : s!"The answer is... {toString (26 : Word)}" = "The answer is... 26" := by cbv
  refine (transcript_say h "Test imported!").bind (h3.bind (h9.bind (h13.bind (h26.bind
    ((silent_log _).bind ((silent_str _).bind ?_))))))
  rw [htext]
  refine (transcript_say (Console.unbounded_after h _ _) _).bind ?_
  rw [Console.after_after]
  exact hrest

/-- The result of the multiplication by a hundred. -/
theorem mul_hundred (v : Word) :
    (¬ Word.Fits (100 * v.toInt) → Arith.mul v 100 = .error (.overflow .mul)) ∧
      (Word.Fits (100 * v.toInt) → ∃ w : Word, Arith.mul v 100 = .ok w ∧ w.toInt = 100 * v.toInt) := by
  have hproduct : Arith.mul v 100 = Arith.checked .mul (Word.ofInt? (100 * v.toInt)) := by
    rw [Arith.mul, Word.mul?, Int.mul_comm]
    rfl
  rw [hproduct]
  constructor
  · exact fun hfits => Arith.checked_eq_error_iff.2 ⟨hfits, rfl⟩
  · intro hfits
    have hvalue := Int64.toInt_ofInt_of_le hfits.1 hfits.2
    exact ⟨_, Arith.checked_eq_ok_iff.2 hvalue, hvalue⟩

/-- The token is no integer literal. -/
theorem transcript_answer_refused {t : String} {fault : Fault} (h : c.sink.Unbounded)
    (ht : Literal.toWord t = .error fault) :
    Transcript c (answer t) ["Testing input: " ++ t] [] (.error fault) := by
  have hint : Silent (int t) (.error fault) := ht ▸ silent_int t
  exact (transcript_say h _).bind ((hint _).bind_error _)

/-- A hundred times its value is no word. -/
theorem transcript_answer_overflow {t : String} {v : Word} (h : c.sink.Unbounded)
    (ht : Literal.toWord t = .ok v) (hfits : ¬ Word.Fits (100 * v.toInt)) :
    Transcript c (answer t) ["Testing input: " ++ t] [] (.error (.overflow .mul)) := by
  have hint : Silent (int t) (.ok v) := ht ▸ silent_int t
  have hmul : Silent (mul v 100) (.error (.overflow .mul)) := (mul_hundred v).1 hfits ▸ silent_mul v 100
  exact (transcript_say h _).bind (hint.bind ((hmul _).bind_error _))

/-- All goes well. -/
theorem transcript_answer_ok {t : String} {v : Word} (h : c.sink.Unbounded)
    (ht : Literal.toWord t = .ok v) (hfits : Word.Fits (100 * v.toInt)) :
    Transcript c (answer t) ["Testing input: " ++ t,
      "More testing input: " ++ toString (100 * v.toInt), "12", "30"] [] (.ok ()) := by
  obtain ⟨w, hw, hvalue⟩ := (mul_hundred v).2 hfits
  have hint : Silent (int t) (.ok v) := ht ▸ silent_int t
  have hmul : Silent (mul v 100) (.ok w) := hw ▸ silent_mul v 100
  have h12 : Silent (mul 3 4) (.ok 12) := silent_mul 3 4
  have h30 : Silent (mul 5 6) (.ok 30) := silent_mul 5 6
  have ht12 : toString (12 : Word) = "12" := by cbv
  have ht30 : toString (30 : Word) = "30" := by cbv
  have hproduct := Console.unbounded_after h ["Testing input: " ++ t] 0
  have hlast := Console.unbounded_after hproduct ["More testing input: " ++ toString w] 0
  rw [← hvalue, ← ht12, ← ht30]
  refine (transcript_say h _).bind (hint.bind (hmul.bind ((silent_str _).bind ?_)))
  refine (transcript_say hproduct _).bind (h12.bind ?_)
  exact (transcript_say hlast _).bind (h30.bind (transcript_say (Console.unbounded_after hlast _ _) _))

/-! ### Whole runs -/

/-- Printing alone leaves the source as it is. -/
theorem transcript_input_after {read : Except Fault String} (h : c.sink.Unbounded)
    (ht : c.source.token.1 = read) (ls : List String) (prompt : String) :
    Transcript (c.after ls 0) (input prompt) [prompt] [read] read := by
  subst ht
  exact transcript_input (Console.unbounded_after h ls 0) prompt

theorem transcript_of_token_error {fault : Fault} (h : c.sink.Unbounded)
    (ht : c.source.token.1 = .error fault) :
    Transcript c (arithmetic.script p) greeting [.error fault] (.error fault) := by
  have hinput := transcript_input_after h ht ["Test imported!", "The answer is... 26"] "Give me input: "
  exact transcript_script h (transcript_arithmetic h (hinput.bind_error answer))

theorem transcript_of_token {t : String} {more : List String} {result : Except Fault Unit}
    (h : c.sink.Unbounded) (ht : c.source.token.1 = .ok t)
    (hanswer : ∀ d : Console, d.sink.Unbounded → Transcript d (answer t) more [] result) :
    Transcript c (arithmetic.script p) (greeting ++ more) [.ok t] result := by
  have hinput := transcript_input_after h ht ["Test imported!", "The answer is... 26"] "Give me input: "
  exact transcript_script h (transcript_arithmetic h (hinput.bind (hanswer _ h)))

/-- What the first read comes to decides the transcript. -/
theorem exists_transcript (p : Parameters) (read : Except Fault String) :
    ∃ more result, ∀ c : Console, c.sink.Unbounded → c.source.token.1 = read →
      Transcript c (arithmetic.script p) (greeting ++ more) [read] result := by
  cases read with
  | error fault => exact ⟨[], _, fun c h ht => transcript_of_token_error h ht⟩
  | ok t =>
    cases hw : Literal.toWord t with
    | error fault =>
      exact ⟨_, _, fun c h ht => transcript_of_token h ht fun d hd => transcript_answer_refused hd hw⟩
    | ok v =>
      by_cases hfits : Word.Fits (100 * v.toInt)
      · exact ⟨_, _, fun c h ht =>
          transcript_of_token h ht fun d hd => transcript_answer_ok hd hw hfits⟩
      · exact ⟨_, _, fun c h ht =>
          transcript_of_token h ht fun d hd => transcript_answer_overflow hd hw hfits⟩

/-- The run has printed the greeting and `more`, and came to the result. -/
def Ended (c : Console) (o : Outcome Unit) (more : List String) (result : Except Fault Unit) : Prop :=
  o.result = result ∧ o.console.sink =
    { c.sink with contents := c.sink.contents ++ joined ((greeting ++ more).map line) }

theorem ended_of_transcript {more : List String} {result : Except Fault Unit}
    (h : Transcript c (arithmetic.script p) (greeting ++ more) rs result) (j : Log.Journal) :
    Ended c (arithmetic.run p c j) more result := by
  obtain ⟨k, hk⟩ := h.run (j.enter arithmetic.span)
  rw [Program.run, hk]
  exact ⟨rfl, rfl⟩

/-- On a sink that takes everything, the arithmetic program prints its greeting and makes one read,
which decides all the rest. If the read fails, so does the program. Otherwise the program shows the
token and fails if this is no integer literal, or if a hundred times its value is no word; if neither,
it prints the product and two more numbers. What follows the token in the source is left there. -/
theorem arithmetic_determined_by_token (p : Parameters) (c : Console) (journal : Log.Journal)
    (h : c.sink.Unbounded) :
    let o := arithmetic.run p c journal
    (arithmetic.script p).reads c = [c.source.token.1] ∧ o.console.source = c.source.token.2 ∧
      (∀ fault, c.source.token.1 = .error fault → Ended c o [] (.error fault)) ∧
      (∀ t, c.source.token.1 = .ok t →
        (∃ blanks, (∀ b ∈ blanks, isSeparator b = true) ∧
          c.source.bytes = blanks ++ utf8 t ++ o.console.source.bytes) ∧
        (∀ fault, Literal.toWord t = .error fault → (∃ reason, fault = .badLiteral t reason) ∧
          Ended c o ["Testing input: " ++ t] (.error fault)) ∧
        ∀ v, Literal.toWord t = .ok v →
          (¬ Word.Fits (100 * v.toInt) →
            Ended c o ["Testing input: " ++ t] (.error (.overflow .mul))) ∧
          (Word.Fits (100 * v.toInt) →
            Ended c o ["Testing input: " ++ t,
              "More testing input: " ++ toString (100 * v.toInt), "12", "30"] (.ok ()))) ∧
      ∀ d : Console, d.sink = c.sink → d.source.token.1 = c.source.token.1 →
        (arithmetic.run p d journal).result = o.result ∧
          (arithmetic.run p d journal).console.sink = o.console.sink := by
  intro o
  obtain ⟨more, result, htranscript⟩ := exists_transcript p c.source.token.1
  have hreads := (htranscript c h rfl).reads_eq
  have hsource : o.console.source = c.source.token.2 := by
    have hafter := source_run (arithmetic.script p) c (journal.enter arithmetic.span)
    rwa [hreads] at hafter
  refine ⟨hreads, hsource, fun fault ht => ?_, fun t ht => ⟨?_, fun fault hw => ⟨?_, ?_⟩,
    fun v hw => ⟨fun hfits => ?_, fun hfits => ?_⟩⟩, fun d hsink hd => ?_⟩
  · exact ended_of_transcript (transcript_of_token_error h ht) journal
  · rw [hsource]
    exact Source.token_taken ht
  · exact Literal.toWord_error hw
  · exact ended_of_transcript (transcript_of_token h ht fun _ hd => transcript_answer_refused hd hw) journal
  · exact ended_of_transcript
      (transcript_of_token h ht fun _ hd => transcript_answer_overflow hd hw hfits) journal
  · exact ended_of_transcript
      (transcript_of_token h ht fun _ hd => transcript_answer_ok hd hw hfits) journal
  · obtain ⟨hresult, hcontents⟩ := ended_of_transcript (htranscript c h rfl) journal
    obtain ⟨hresult', hcontents'⟩ := ended_of_transcript (htranscript d (hsink ▸ h) hd) journal
    exact ⟨hresult'.trans hresult.symm, by rw [hcontents', hcontents, hsink]⟩

/-- A token that begins with an ideographic space and denotes a number whose product with a hundred is
just too large. -/
def tooLarge : Console :=
  ⟨{}, ⟨[.data [0x0A, 0xE3, 0x80], .data [0x80, 0x39, 0x32, 0x32, 0x33, 0x33, 0x37, 0x32, 0x30, 0x33,
    0x36, 0x38, 0x35, 0x34, 0x37, 0x37, 0x35, 0x39, 0x20, 0x37]]⟩⟩

theorem arithmetic_determined_by_token_too_large :
    tooLarge.sink.Unbounded ∧ tooLarge.source.token.1 = .ok "\u300092233720368547759" ∧
      Ended tooLarge (arithmetic.run {} tooLarge {}) ["Testing input: \u300092233720368547759"]
        (.error (.overflow .mul)) ∧
      (arithmetic.run {} tooLarge {}).console.source.bytes = [0x20, 0x37] := by
  have htoken : tooLarge.source.token.1 = .ok "\u300092233720368547759" := by decide
  obtain ⟨-, hsource, -, hread, -⟩ := arithmetic_determined_by_token {} tooLarge {} ⟨rfl, rfl⟩
  obtain ⟨-, -, hword⟩ := hread _ htoken
  refine ⟨⟨rfl, rfl⟩, htoken, (hword 92233720368547759 (by decide)).1 (by decide), ?_⟩
  rw [hsource]
  decide

end Program

end Builtins
