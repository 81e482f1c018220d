import Builtins.Proofs.Lines
import Mathlib

/-!
# What the log tells of a run

A call of a builtin is logged when it begins, before anything has been written or read. A run can end
at each of its actions, so its last call may have come to nothing. The events of a run are still in
step with what it does: each call of `print` stands for one text that is given to the sink, and each
call of `input` for one prompt, which the call of `print` behind it is for.

* `Script.events`: the events of a run; `journal_run`: a journal gets those that it keeps.
* `Accounts`: events in step with the texts and the prompts of a run; `accounts_events`.
* `Stores`: the texts that the sink has taken, and the one that it has not; `exists_stores`.
* `log_in_step_with_run`: the log of a whole program, with a journal that keeps everything.
-/
namespace Builtins

/-! ## Journals -/

namespace Log

theorem Filter.enables_everything (target : String) (level : Level) :
    everything.enables target level = true := by
  have hdecisive : everything.decisive? target = some (.upTo .trace) := rfl
  rw [enables, hdecisive]
  cases level <;> rfl

namespace Journal

/-- Logs events one after another. -/
def noteAll (j : Journal) (es : List Event) : Journal := es.foldl note j

theorem noteAll_cons (j : Journal) (e : Event) (es : List Event) :
    j.noteAll (e :: es) = (j.note e).noteAll es := rfl

theorem noteAll_append (j : Journal) (es fs : List Event) :
    j.noteAll (es ++ fs) = (j.noteAll es).noteAll fs := List.foldl_append

/-- Logging an event a number of times at once comes to the same as doing it time by time. -/
theorem noteTimes_eq (j : Journal) (e : Event) (times : Nat) :
    j.noteTimes e times = j.noteAll (List.replicate times e) := by
  induction times generalizing j with
  | zero => simp [noteTimes, noteAll]
  | succ times ih =>
    rw [List.replicate_succ, noteAll_cons, ← ih, note, noteTimes, noteTimes, noteTimes]
    by_cases hkeeps : j.keeps e = true
    · have hagain : ∀ entries, keeps { j with entries } e = true := fun _ => hkeeps
      simp [hkeeps, hagain, List.replicate_succ']
    · simp [hkeeps]

theorem keeps_of_everything {j : Journal} (h : j.filter = .everything) (e : Event) : j.keeps e = true := by
  rw [keeps, h, Filter.enables_everything]

/-- A journal that keeps everything has all that is logged, inside the spans that are open. -/
theorem noteAll_of_everything {j : Journal} (h : j.filter = .everything) (es : List Event) :
    j.noteAll es = { j with entries := (es.map (.event · j.spans)).reverse ++ j.entries } := by
  induction es generalizing j with
  | nil => rfl
  | cons e es ih =>
    have hnote : j.note e = { j with entries := .event e j.spans :: j.entries } := by
      rw [note, noteTimes, if_pos (keeps_of_everything h e)]
      rfl
    have hfilter : (j.note e).filter = .everything := by rw [hnote, h]
    rw [noteAll_cons, ih hfilter, hnote]
    simp

end Journal

/-- What a journal has of a span: that it was opened, the events inside it, and that it was closed. -/
def Span.entries (s : Span) (outer : List Span) (es : List Event) : List Entry :=
  .opened s outer :: es.map (.event · (s :: outer)) ++ [.closed s outer]

end Log

namespace Script

variable {α β : Type}

/-! ## The events of a run -/

/-- The events of a run, the first of them first, whether a journal keeps them or not. -/
def events (s : Script α) (c : Console) : List Log.Event :=
  match s with
  | done _ => []
  | fail _ => []
  | note event times next => List.replicate times event ++ next.events c
  | print text next =>
    .called "print" ::
      match c.print text with
      | (.ok (), c) => (next ()).events c
      | (.error _, _) => []
  | ask prompt next =>
    .called "input" :: .called "print" ::
      match c.ask prompt with
      | (.ok token, c) => (next token).events c
      | (.error _, _) => []
  | flush next =>
    match c.flush with
    | .ok () => (next ()).events c
    | .error _ => []

theorem journal_run (s : Script α) (c : Console) (j : Log.Journal) :
    (s.run c j).journal = j.noteAll (s.events c) := by
  induction s generalizing c j with
  | done value => rfl
  | fail fault => rfl
  | note event times next ih => rw [run, events, ih, Log.Journal.noteTimes_eq, Log.Journal.noteAll_append]
  | print text next ih =>
    simp only [run, events, Log.Journal.noteAll_cons]
    rcases c.print text with ⟨_ | u, d⟩
    · rfl
    · exact ih ..
  | ask prompt next ih =>
    simp only [run, events, Log.Journal.noteAll_cons]
    rcases c.ask prompt with ⟨_ | token, d⟩
    · rfl
    · exact ih ..
  | flush next ih =>
    simp only [run, events]
    cases c.flush with
    | error fault => rfl
    | ok u => exact ih ..

theorem events_bind (s : Script α) (f : α → Script β) (c : Console) (j : Log.Journal) :
    (s >>= f).events c =
      s.events c ++
        match (s.run c j).result with
        | .ok a => (f a).events (s.run c j).console
        | .error _ => [] := by
  show (s.bind f).events c = _
  induction s generalizing c j with
  | done value => rfl
  | fail fault => rfl
  | note event times next ih =>
    simp only [bind, run, events, List.append_assoc]
    exact congrArg _ (ih ..)
  | print text next ih =>
    simp only [bind, run, events, List.cons_append]
    rcases c.print text with ⟨_ | u, d⟩
    · rfl
    · exact congrArg _ (ih ..)
  | ask prompt next ih =>
    simp only [bind, run, events, List.cons_append]
    rcases c.ask prompt with ⟨_ | token, d⟩
    · rfl
    · exact congrArg (_ :: _ :: ·) (ih ..)
  | flush next ih =>
    simp only [bind, run, events]
    cases c.flush with
    | error fault => rfl
    | ok u => exact ih ..

/-! ## What a script logs itself -/

/-- Every event that the script logs besides its calls of `print` and `input` is one of `P`. -/
def Logs (P : Log.Event → Prop) : Script α → Prop
  | done _ => True
  | fail _ => True
  | note event _ next => P event ∧ next.Logs P
  | print _ next => (next ()).Logs P
  | ask _ next => ∀ token, (next token).Logs P
  | flush next => (next ()).Logs P

variable {P Q : Log.Event → Prop} {s : Script α} {f : α → Script β}

theorem Logs.mono (h : ∀ e, P e → Q e) (hs : s.Logs P) : s.Logs Q := by
  induction s with
  | done value => trivial
  | fail fault => trivial
  | note event times next ih => exact ⟨h event hs.1, ih hs.2⟩
  | print text next ih => exact ih () hs
  | ask prompt next ih => exact fun token => ih token (hs token)
  | flush next ih => exact ih () hs

theorem Logs.bind (hs : s.Logs P) (hf : ∀ a, (f a).Logs P) : (s >>= f).Logs P := by
  show (s.bind f).Logs P
  induction s with
  | done value => exact hf value
  | fail fault => trivial
  | note event times next ih => exact ⟨hs.1, ih hs.2⟩
  | print text next ih => exact ih () hs
  | ask prompt next ih => exact fun token => ih token (hs token)
  | flush next ih => exact ih () hs

theorem logs_log {event : Log.Event} (h : P event) : (log event).Logs P := ⟨h, trivial⟩

theorem logs_ofExcept (result : Except Fault α) : (ofExcept result).Logs P := by
  cases result <;> trivial

theorem Logs.mem_events (hs : s.Logs P) {c : Console} {e : Log.Event} (he : e ∈ s.events c) :
    P e ∨ e = .called "print" ∨ e = .called "input" := by
  induction s generalizing c with
  | done value => cases he
  | fail fault => cases he
  | note event times next ih =>
    rw [events, List.mem_append] at he
    rcases he with he | he
    · rw [List.eq_of_mem_replicate he]
      exact .inl hs.1
    · exact ih hs.2 he
  | print text next ih =>
    rw [events, List.mem_cons] at he
    rcases he with he | he
    · exact .inr (.inl he)
    · rcases hp : c.print text with ⟨_ | u, d⟩ <;> rw [hp] at he
      · cases he
      · exact ih () hs he
  | ask prompt next ih =>
    rw [events, List.mem_cons, List.mem_cons] at he
    rcases he with he | he | he
    · exact .inr (.inr he)
    · exact .inr (.inl he)
    · rcases ha : c.ask prompt with ⟨_ | token, d⟩ <;> rw [ha] at he
      · cases he
      · exact ih token (hs token) he
  | flush next ih =>
    rw [events] at he
    cases hf : c.flush with
    | error fault => rw [hf] at he; cases he
    | ok u => rw [hf] at he; exact ih () hs he

/-! ## Calls and what they are for -/

/-- The prompts of a run, the first of them first, whether they get out or not. -/
def prompts (s : Script α) (c : Console) : List String :=
  match s with
  | done _ => []
  | fail _ => []
  | note _ _ next => next.prompts c
  | print text next =>
    match c.print text with
    | (.ok (), c) => (next ()).prompts c
    | (.error _, _) => []
  | ask prompt next =>
    prompt ::
      match c.ask prompt with
      | (.ok token, c) => (next token).prompts c
      | (.error _, _) => []
  | flush next =>
    match c.flush with
    | .ok () => (next ()).prompts c
    | .error _ => []

/-- The event is no call of `print` or `input`. -/
def Uncalled (e : Log.Event) : Prop := e ≠ .called "print" ∧ e ≠ .called "input"

instance (e : Log.Event) : Decidable (Uncalled e) := inferInstanceAs (Decidable (_ ∧ _))

/-- The events are in step with texts and prompts: each call of `print` stands for a text, and each
call of `input` for a prompt, which is the text of the call of `print` right behind it. -/
inductive Accounts : List Log.Event → List String → List String → Prop where
  | nil : Accounts [] [] []
  | other {e es ts ps} (he : Uncalled e) (h : Accounts es ts ps) : Accounts (e :: es) ts ps
  | print {es ts ps} (text : String) (h : Accounts es ts ps) :
    Accounts (.called "print" :: es) (text :: ts) ps
  | input {es ts ps} (prompt : String) (h : Accounts es ts ps) :
    Accounts (.called "input" :: .called "print" :: es) (prompt :: ts) (prompt :: ps)

variable {es : List Log.Event} {ts ps : List String}

theorem Accounts.replicate_append {e : Log.Event} (he : Uncalled e) (h : Accounts es ts ps) (n : Nat) :
    Accounts (List.replicate n e ++ es) ts ps := by
  induction n with
  | zero => exact h
  | succ n ih => exact .other he ih

theorem accounts_events (hs : s.Logs Uncalled) (c : Console) :
    Accounts (s.events c) (s.prints c) (s.prompts c) := by
  induction s generalizing c with
  | done value => exact .nil
  | fail fault => exact .nil
  | note event times next ih => exact (ih hs.2 c).replicate_append hs.1 times
  | print text next ih =>
    rw [events, prints, prompts]
    refine .print text ?_
    rcases c.print text with ⟨_ | u, d⟩
    · exact .nil
    · exact ih () hs d
  | ask prompt next ih =>
    rw [events, prints, prompts]
    refine .input prompt ?_
    rcases c.ask prompt with ⟨_ | token, d⟩
    · exact .nil
    · exact ih token (hs token) d
  | flush next ih =>
    rw [events, prints, prompts]
    cases c.flush with
    | error fault => exact .nil
    | ok u => exact ih () hs c

theorem Accounts.count_print (h : Accounts es ts ps) : es.count (.called "print") = ts.length := by
  induction h with
  | nil => rfl
  | other he h ih => rw [List.count_cons_of_ne he.1, ih]
  | print text h ih => rw [List.count_cons_self, ih, List.length_cons]
  | input prompt h ih =>
    rw [List.count_cons_of_ne (by decide), List.count_cons_self, ih, List.length_cons]

theorem Accounts.count_input (h : Accounts es ts ps) : es.count (.called "input") = ps.length := by
  induction h with
  | nil => rfl
  | other he h ih => rw [List.count_cons_of_ne he.2, ih]
  | print text h ih => rw [List.count_cons_of_ne (by decide), ih]
  | input prompt h ih =>
    rw [List.count_cons_self, List.count_cons_of_ne (by decide), ih, List.length_cons]

/-- The call of `print` behind a call of `input` is the one for its prompt: with as many calls of
either kind in front of them, they stand at the places of this prompt and of its text. -/
theorem Accounts.behind_input (h : Accounts es ts ps) {before after : List Log.Event}
    (hes : es = before ++ .called "input" :: after) :
    ∃ prompt rest, after = .called "print" :: rest ∧
      ps[before.count (.called "input")]? = some prompt ∧
      ts[before.count (.called "print")]? = some prompt := by
  induction h generalizing before with
  | nil => simp at hes
  | @other e _ _ _ he h ih =>
    cases before with
    | nil =>
      rw [List.nil_append, List.cons.injEq] at hes
      exact absurd hes.1 he.2
    | cons b before =>
      rw [List.cons_append, List.cons.injEq] at hes
      obtain ⟨rfl, hes⟩ := hes
      rw [List.count_cons_of_ne he.1, List.count_cons_of_ne he.2]
      exact ih hes
  | print text h ih =>
    cases before with
    | nil =>
      rw [List.nil_append, List.cons.injEq] at hes
      exact absurd hes.1 (by decide)
    | cons b before =>
      rw [List.cons_append, List.cons.injEq] at hes
      obtain ⟨rfl, hes⟩ := hes
      rw [List.count_cons_self, List.count_cons_of_ne (by decide)]
      exact ih hes
  | @input es _ _ prompt h ih =>
    -- two events at once, and the second of them is no call of `input`
    match before with
    | [] =>
      rw [List.nil_append, List.cons.injEq] at hes
      exact ⟨prompt, es, hes.2.symm, rfl, rfl⟩
    | [b] =>
      rw [List.cons_append, List.nil_append, List.cons.injEq, List.cons.injEq] at hes
      exact absurd hes.2.1 (by decide)
    | b :: d :: before =>
      rw [List.cons_append, List.cons_append, List.cons.injEq, List.cons.injEq] at hes
      obtain ⟨rfl, rfl, hes⟩ := hes
      rw [List.count_cons_self, List.count_cons_of_ne (by decide), List.count_cons_of_ne (by decide),
        List.count_cons_self]
      exact ih hes

/-! ## What the sink takes -/

/-- Of the texts that a run gives to the sink, `lines` have been stored behind what was there. There
is one more if the sink has `refused` it, and then the run has failed for that. -/
structure Stores (c : Console) (o : Outcome α) (texts lines : List String) (refused : Option String) :
    Prop where
  texts : texts = lines ++ refused.toList
  contents : o.console.sink.contents = c.sink.contents ++ joined (lines.map line)
  failed : ∀ text ∈ refused, o.console.print text = (.error (.io "sink full"), o.console) ∧
    o.result = .error (.io "sink full")

theorem stores_nothing {c : Console} {o : Outcome α} (h : o.console.sink = c.sink) :
    Stores c o [] [] none :=
  ⟨rfl, by simp [h], by simp⟩

/-- A text that the sink takes comes in front of what the run does on the console after it. -/
theorem Stores.cons {c d : Console} {o : Outcome α} {texts lines : List String} {refused : Option String}
    {text : String} (hd : d.sink = (c.put (line text)).sink) (h : Stores d o texts lines refused) :
    Stores c o (text :: texts) (text :: lines) refused where
  texts := by rw [h.texts, List.cons_append]
  contents := by
    rw [h.contents, hd, Console.put_contents, List.map_cons, joined_cons, ByteArray.append_assoc]
  failed := h.failed

theorem exists_stores (s : Script α) (c : Console) (j : Log.Journal) :
    ∃ lines refused, Stores c (s.run c j) (s.prints c) lines refused := by
  induction s generalizing c j with
  | done value => exact ⟨_, _, stores_nothing rfl⟩
  | fail fault => exact ⟨_, _, stores_nothing rfl⟩
  | note event times next ih => exact ih ..
  | print text next ih =>
    simp only [run, prints]
    rcases c.write_cases (line text) with hp | hp <;> rw [← Console.print_eq_write] at hp
    · obtain ⟨lines, refused, h⟩ := ih () (c.put (line text)) (j.note (.called "print"))
      simp only [hp]
      exact ⟨_, _, h.cons rfl⟩
    · simp only [hp]
      exact ⟨[], some text, rfl, by simp, by simpa using hp⟩
  | ask prompt next ih =>
    simp only [run, prints]
    rcases c.write_cases (line prompt) with hp | hp <;> rw [← Console.print_eq_write] at hp
    · -- the prompt is out, and what follows up to the token leaves the sink alone
      rcases ha : c.ask prompt with ⟨fault | token, d⟩
      all_goals
        have hsink : d.sink = (c.put (line prompt)).sink :=
          (Console.ask_sink ha).trans (congrArg (·.2.sink) hp)
      · have hend : Stores d (⟨.error fault, d, (j.note (.called "input")).note (.called "print")⟩ :
            Outcome α) [] [] none := stores_nothing rfl
        exact ⟨_, _, hend.cons hsink⟩
      · obtain ⟨lines, refused, h⟩ := ih token d ((j.note (.called "input")).note (.called "print"))
        exact ⟨_, _, h.cons hsink⟩
    · simp only [Console.ask_of_print_error hp]
      exact ⟨[], some prompt, rfl, by simp, by simpa using hp⟩
  | flush next ih =>
    simp only [run, prints]
    cases c.flush with
    | error fault => exact ⟨_, _, stores_nothing rfl⟩
    | ok u => exact ih ..

end Script

namespace Program

open Script

/-! ## The programs -/

/-- An event that a program can log in the course of its work. -/
def Inner (e : Log.Event) : Prop := Uncalled e ∧ e ≠ .finished

instance (e : Log.Event) : Decidable (Inner e) := inferInstanceAs (Decidable (_ ∧ _))

theorem inner_say (text : String) : (say text).Logs Inner := trivial

theorem inner_sayInt (w : Word) : (sayInt w).Logs Inner := trivial

theorem inner_add (a b : Word) : (add a b).Logs Inner :=
  (logs_log (by decide)).bind fun _ => logs_ofExcept (Arith.add a b)

theorem inner_mul (a b : Word) : (mul a b).Logs Inner :=
  (logs_log (by decide)).bind fun _ => logs_ofExcept (Arith.mul a b)

theorem inner_int (text : String) : (int text).Logs Inner :=
  (logs_log (by decide)).bind fun _ => logs_ofExcept (Literal.toWord text)

theorem inner_str (text : String) : (str text).Logs Inner :=
  (logs_log (by decide)).bind fun _ => trivial

theorem inner_fibonacci (p : Parameters) : (fibonacciScript p).Logs Inner := by
  have hnumber : (Fibonacci.script p.fibIndex).Logs Inner := by
    unfold Fibonacci.script
    split
    · trivial
    · split
      · trivial
      · exact ⟨by decide, trivial⟩
  exact (inner_str _).bind fun _ => (inner_say _).bind fun _ => hnumber.bind inner_sayInt

theorem inner_answer (token : String) : (answer token).Logs Inner := by
  refine (inner_say _).bind fun _ => (inner_int token).bind fun v => (inner_mul v 100).bind fun _ => ?_
  refine (inner_str _).bind fun _ => (inner_say _).bind fun _ => (inner_mul 3 4).bind fun a => ?_
  exact (inner_sayInt a).bind fun _ => (inner_mul 5 6).bind inner_sayInt

theorem inner_arithmetic : arithmeticScript.Logs Inner := by
  have hassigned : ∀ a b c, (log (.assigned a b c)).Logs Inner := fun a b c =>
    logs_log (by simp [Inner, Uncalled])
  have hinput : ∀ prompt, (input prompt).Logs Inner := fun _ _ => trivial
  refine (inner_say _).bind fun _ => (inner_add 1 2).bind fun x => (inner_mul x 3).bind fun a => ?_
  refine (inner_add a 4).bind fun b => (inner_add b b).bind fun c => (hassigned a b c).bind fun _ => ?_
  exact (inner_str _).bind fun _ => (inner_say _).bind fun _ => (hinput _).bind inner_answer

theorem inner_printValues (c : Range.Cursor) : (printValues c).Logs Inner := by
  fun_induction printValues c with
  | case1 c w d h ih => exact ih
  | case2 c d h => trivial

theorem inner_body (program : Program) (p : Parameters) : (program.body p).Logs Inner := by
  cases program with
  | fibonacci => exact inner_fibonacci p
  | arithmetic => exact inner_arithmetic
  | counting =>
    have hranged : (range (Range.upTo p.countTo)).Logs Inner :=
      (logs_log (by simp [Inner, Uncalled])).bind fun _ => trivial
    exact hranged.bind fun r => inner_printValues r.cursor
  | counterClass =>
    have hincrement : ∀ c : Counter, c.increment.Logs Inner := fun c =>
      (inner_add c.value 1).bind fun _ => trivial
    exact (inner_sayInt 123).bind fun _ => (inner_sayInt 0).bind fun _ =>
      (hincrement {}).bind fun c => inner_sayInt c.value

/-! ### Whole runs -/

/-- What a program does after it has logged its start. -/
def work (program : Program) (p : Parameters) : Script Unit := do
  program.body p
  .flushed
  .log .finished

theorem logs_work (program : Program) (p : Parameters) : (program.work p).Logs Uncalled := by
  have hend : (flushed >>= fun _ => log .finished).Logs Uncalled := ⟨by decide, trivial⟩
  exact ((inner_body program p).mono fun _ he => he.1).bind fun _ => hend

/-- A program logs its end if it gets there, after all that its body logs. -/
theorem events_work (program : Program) (p : Parameters) (c : Console) (j : Log.Journal) :
    ∃ last, (program.work p).events c = (program.body p).events c ++ last ∧
      (last = [.finished] ∧ ((program.work p).run c j).result = .ok () ∨
        last = [] ∧ ((program.work p).run c j).result ≠ .ok ()) := by
  rw [work, events_bind _ _ c j, run_bind]
  refine ⟨_, rfl, ?_⟩
  cases (program.body p).run c j with
  | mk result d k =>
    cases result with
    | error fault => exact .inr ⟨rfl, nofun⟩
    | ok u =>
      have hflush : (flushed >>= fun _ => log .finished).events d =
          match d.flush with
          | .ok () => [.finished]
          | .error _ => [] := rfl
      simp only [hflush, run_bind flushed, run_flushed]
      cases d.flush with
      | error fault => exact .inr ⟨rfl, nofun⟩
      | ok u => exact .inl ⟨rfl, rfl⟩

theorem finished_not_mem_body (program : Program) (p : Parameters) (c : Console) :
    .finished ∉ (program.body p).events c := by
  intro hmem
  rcases (inner_body program p).mem_events hmem with h | h | h
  · exact h.2 rfl
  · cases h
  · cases h

/-- The end is logged once at most, behind everything else, and by the runs that succeed. -/
theorem finished_last (program : Program) (p : Parameters) (c : Console) (j : Log.Journal) :
    .finished ∉ ((program.work p).events c).dropLast ∧
      (((program.work p).events c).getLast? = some .finished ↔
        ((program.work p).run c j).result = .ok ()) := by
  have hbody := finished_not_mem_body program p c
  obtain ⟨last, hevents, ⟨rfl, hok⟩ | ⟨rfl, hfail⟩⟩ := events_work program p c j
  · rw [hevents, List.dropLast_concat, List.getLast?_concat]
    exact ⟨hbody, iff_of_true rfl hok⟩
  · rw [hevents, List.append_nil]
    exact ⟨fun hmem => hbody (List.mem_of_mem_dropLast hmem),
      iff_of_false (fun hmem => hbody (List.mem_of_getLast? hmem)) hfail⟩

theorem history_run (program : Program) (p : Parameters) (c : Console) (j : Log.Journal) :
    (program.run p c { j with filter := .everything }).journal.history =
      j.history ++ program.span.entries j.spans ((program.script p).events c) := by
  have henter : Log.Journal.enter { j with filter := .everything } program.span =
      ⟨.everything, program.span :: j.spans, .opened program.span j.spans :: j.entries⟩ := by
    rw [Log.Journal.enter, if_pos (Log.Filter.enables_everything ..)]
  rw [run, henter, journal_run, Log.Journal.noteAll_of_everything rfl, Log.Journal.leave,
    if_pos (Log.Filter.enables_everything ..)]
  simp [Log.Journal.history, Log.Span.entries]

/-- With a journal that keeps everything, a program logs that it opens its span and, inside this span,
that it starts and whatever follows. It logs its end as the last event, and only when it succeeds. The
calls of `print` are as many as the lines that the run has added to the sink, and one more if it has
failed because the sink refused a line. There is one call of `input` for each prompt, and the call of
`print` right behind it is the one for this prompt. -/
theorem log_in_step_with_run (program : Program) (p : Parameters) (c : Console) (j : Log.Journal) :
    let o := program.run p c { j with filter := .everything }
    let texts := (program.script p).prints c
    let prompts := (program.script p).prompts c
    ∃ (events : List Log.Event) (lines : List String) (refused : Option String),
      o.journal.history = j.history ++ program.span.entries j.spans (.started p :: events) ∧
      .finished ∉ events.dropLast ∧ (events.getLast? = some .finished ↔ o.result = .ok ()) ∧
      Stores c o texts lines refused ∧ (∀ l ∈ lines, '\n' ∉ l.toList) ∧
      (c.sink.contents = ByteArray.empty → Text.lines o.console.sink.text = lines) ∧
      events.count (.called "print") = lines.length + (if refused.isSome then 1 else 0) ∧
      events.count (.called "input") = prompts.length ∧
      ∀ before after, events = before ++ .called "input" :: after →
        ∃ prompt rest, after = .called "print" :: rest ∧
          prompts[before.count (.called "input")]? = some prompt ∧
          texts[before.count (.called "print")]? = some prompt := by
  intro o texts prompts
  have haccounts : Accounts ((program.work p).events c) texts prompts :=
    accounts_events (logs_work program p) c
  obtain ⟨lines, refused, hstores⟩ := exists_stores (program.script p) c
    (Log.Journal.enter { j with filter := .everything } program.span)
  have hstored : Stores c o texts lines refused := ⟨hstores.texts, hstores.contents, hstores.failed⟩
  have hunbroken : ∀ l ∈ lines, Unbroken l := by
    intro l hl
    refine (tidy_script program p).unbroken c l ?_
    rw [hstores.texts]
    exact List.mem_append_left _ hl
  obtain ⟨honce, hlast⟩ := finished_last program p c
    ((Log.Journal.enter { j with filter := .everything } program.span).noteTimes (.started p) 1)
  refine ⟨(program.work p).events c, lines, refused, history_run program p c j, honce, hlast, hstored,
    fun l hl => (hunbroken l hl).1, fun hempty => ?_, ?_, haccounts.count_input,
    fun before after => haccounts.behind_input⟩
  · have hcontents := hstored.contents
    rw [hempty, ByteArray.empty_append] at hcontents
    exact (lines_of_contents hcontents fun l hl => (hunbroken l hl).printable).1
  · rw [haccounts.count_print, hstored.texts, List.length_append]
    cases refused <;> rfl

end Program

end Builtins
