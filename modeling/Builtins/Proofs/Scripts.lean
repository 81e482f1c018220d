import Builtins.Program
import Mathlib.Data.List.Basic

/-!
# Running scripts

How a script uses the console that it runs on. A script that is put together from two is run by
running one after the other, and all that a script writes goes through a list of writes, one line
each.

* `run_bind`: running a script that goes on with another one.
* `run_journal`: a run comes to the same whatever has been logged before.
* `Script.writes`: the writes that a run attempts, in their order.
* `sink_run`: a run leaves the sink as these writes leave it; `contents_run` for a sink without limit.
-/
namespace Builtins

/-! ## Writing -/

/-- The bytes of a text and a line feed. -/
def line (text : String) : ByteArray := (text ++ "\n").toUTF8

/-- The bytes of a text. -/
def utf8 (text : String) : List UInt8 := text.toUTF8.data.toList

theorem bytes_line (text : String) : (line text).data.toList = utf8 text ++ [0x0A] := by
  rw [line, String.toUTF8, String.toByteArray_append, ByteArray.data_append, Array.toList_append]
  rfl

/-- Writes put together. -/
def joined (ws : List ByteArray) : ByteArray := ws.foldr (· ++ ·) ByteArray.empty

@[simp] theorem joined_nil : joined [] = ByteArray.empty := rfl

@[simp] theorem joined_cons (w : ByteArray) (ws : List ByteArray) :
    joined (w :: ws) = w ++ joined ws := rfl

theorem joined_append (vs ws : List ByteArray) : joined (vs ++ ws) = joined vs ++ joined ws := by
  induction vs with
  | nil => simp
  | cons v vs ih => rw [List.cons_append, joined_cons, joined_cons, ih, ByteArray.append_assoc]

namespace Sink

/-- A sink after some writes, whether they succeed or fail. -/
def writeAll (s : Sink) (ws : List ByteArray) : Sink := ws.foldl (fun s w => (s.write w).2) s

theorem writeAll_cons (s : Sink) (w : ByteArray) (ws : List ByteArray) :
    s.writeAll (w :: ws) = (s.write w).2.writeAll ws := rfl

/-- A sink without a limit takes everything. -/
theorem write_unlimited {s : Sink} (h : s.limit = none) (bytes : ByteArray) :
    s.write bytes = (.ok (), { s with contents := s.contents ++ bytes }) := by
  simp [write, admits, h]

theorem writeAll_unlimited {s : Sink} (h : s.limit = none) (ws : List ByteArray) :
    s.writeAll ws = { s with contents := s.contents ++ joined ws } := by
  induction ws generalizing s with
  | nil => simp [writeAll]
  | cons w ws ih =>
    have hlimit : (s.write w).2.limit = none := by rw [write_unlimited h, h]
    rw [writeAll_cons, ih hlimit, write_unlimited h, joined_cons, ByteArray.append_assoc]

end Sink

namespace Console

/-- The console with more bytes in its sink. -/
def put (c : Console) (bytes : ByteArray) : Console :=
  { c with sink := { c.sink with contents := c.sink.contents ++ bytes } }

variable {c : Console}

@[simp] theorem put_contents (c : Console) (bytes : ByteArray) :
    (c.put bytes).sink.contents = c.sink.contents ++ bytes := rfl

theorem print_eq_write (c : Console) (text : String) : c.print text = c.write (line text) := rfl

theorem print_unlimited (h : c.sink.limit = none) (text : String) :
    c.print text = (.ok (), c.put (line text)) := by
  rw [print_eq_write, write, Sink.write_unlimited h]
  rfl

theorem ask_of_print_ok {d : Console} {prompt : String} (h : c.print prompt = (.ok (), d)) :
    c.ask prompt =
      match d.flush with
      | .error fault => (.error fault, d)
      | .ok () => d.token := by
  unfold ask
  cases hf : d.flush <;> simp only [h, hf]

theorem ask_of_print_error {d : Console} {prompt : String} {fault : Fault}
    (h : c.print prompt = (.error fault, d)) : c.ask prompt = (.error fault, d) := by
  rw [ask, h]

/-- Asking writes the prompt, whatever becomes of the token. -/
theorem ask_sink {prompt : String} {result : Except Fault String} {d : Console}
    (h : c.ask prompt = (result, d)) : d.sink = (c.sink.write (line prompt)).2 := by
  have hprint : (c.print prompt).2.sink = (c.sink.write (line prompt)).2 := rfl
  rw [← hprint]
  rcases hp : c.print prompt with ⟨_ | u, e⟩
  · rw [ask_of_print_error hp] at h
    cases h
    rfl
  · rw [ask_of_print_ok hp] at h
    split at h <;> cases h <;> rfl

theorem ask_sink_unlimited (hl : c.sink.limit = none) {prompt : String}
    {result : Except Fault String} {d : Console} (h : c.ask prompt = (result, d)) :
    d.sink = (c.put (line prompt)).sink := by
  rw [ask_sink h]
  exact congrArg (·.2.sink) (print_unlimited hl prompt)

end Console

namespace Script

variable {α β : Type}

/-! ## One script after another -/

theorem run_bind (s : Script α) (f : α → Script β) (c : Console) (j : Log.Journal) :
    (s >>= f).run c j =
      match (s.run c j).result with
      | .ok a => (f a).run (s.run c j).console (s.run c j).journal
      | .error fault => ⟨.error fault, (s.run c j).console, (s.run c j).journal⟩ := by
  show (s.bind f).run c j = _
  induction s generalizing c j with
  | done value => rfl
  | fail fault => rfl
  | note event times next ih => exact ih ..
  | print text next ih =>
    simp only [bind, run]
    split
    · exact ih ..
    · rfl
  | ask prompt next ih =>
    simp only [bind, run]
    split
    · exact ih ..
    · rfl
  | flush next ih =>
    simp only [bind, run]
    split
    · exact ih ..
    · rfl

/-- A script that succeeds hands its value on. -/
theorem run_bind_of_ok {s : Script α} {c d : Console} {j k : Log.Journal} {a : α}
    (h : s.run c j = ⟨.ok a, d, k⟩) (f : α → Script β) : (s >>= f).run c j = (f a).run d k := by
  rw [run_bind, h]

/-- A script whose value is only changed runs as it is. -/
theorem run_bind_done (s : Script α) (f : α → β) (c : Console) (j : Log.Journal) :
    (s >>= fun a => .done (f a)).run c j =
      ⟨(s.run c j).result.map f, (s.run c j).console, (s.run c j).journal⟩ := by
  rw [run_bind]
  cases (s.run c j).result <;> rfl

/-! ## Single actions -/

theorem run_say (text : String) (c : Console) (j : Log.Journal) :
    (say text).run c j = ⟨(c.print text).1, (c.print text).2, j.note (.called "print")⟩ := by
  rw [say, run]
  rcases c.print text with ⟨_ | u, d⟩ <;> rfl

theorem run_input (prompt : String) (c : Console) (j : Log.Journal) :
    (input prompt).run c j =
      ⟨(c.ask prompt).1, (c.ask prompt).2, (j.note (.called "input")).note (.called "print")⟩ := by
  rw [input, run]
  rcases c.ask prompt with ⟨_ | token, d⟩ <;> rfl

theorem run_flushed (c : Console) (j : Log.Journal) : flushed.run c j = ⟨c.flush, c, j⟩ := by
  rw [flushed, run]
  cases c.flush <;> rfl

theorem run_ofExcept (result : Except Fault α) (c : Console) (j : Log.Journal) :
    (ofExcept result).run c j = ⟨result, c, j⟩ := by
  cases result <;> rfl

theorem run_int (text : String) (c : Console) (j : Log.Journal) :
    (int text).run c j = ⟨Literal.toWord text, c, j.noteTimes (.converted "str" "int") 1⟩ :=
  run_ofExcept ..

/-! ## The journal -/

/-- What is logged has no influence on a run. -/
theorem run_journal (s : Script α) (c : Console) (j k : Log.Journal) :
    (s.run c j).result = (s.run c k).result ∧ (s.run c j).console = (s.run c k).console := by
  induction s generalizing c j k with
  | done value => exact ⟨rfl, rfl⟩
  | fail fault => exact ⟨rfl, rfl⟩
  | note event times next ih => exact ih ..
  | print text next ih =>
    simp only [run]
    split
    · exact ih ..
    · exact ⟨rfl, rfl⟩
  | ask prompt next ih =>
    simp only [run]
    split
    · exact ih ..
    · exact ⟨rfl, rfl⟩
  | flush next ih =>
    simp only [run]
    split
    · exact ih ..
    · exact ⟨rfl, rfl⟩

/-! ## What a run writes -/

/-- The writes that a run attempts, the first of them first. A write that fails is the last one. -/
def writes (s : Script α) (c : Console) : List ByteArray :=
  match s with
  | done _ => []
  | fail _ => []
  | note _ _ next => next.writes c
  | print text next =>
    line text ::
      match c.print text with
      | (.ok (), c) => (next ()).writes c
      | (.error _, _) => []
  | ask prompt next =>
    line prompt ::
      match c.ask prompt with
      | (.ok token, c) => (next token).writes c
      | (.error _, _) => []
  | flush next =>
    match c.flush with
    | .ok () => (next ()).writes c
    | .error _ => []

/-- The sink after a run is the sink after all the writes that the run attempts. -/
theorem sink_run (s : Script α) (c : Console) (j : Log.Journal) :
    (s.run c j).console.sink = c.sink.writeAll (s.writes c) := by
  induction s generalizing c j with
  | done value => rfl
  | fail fault => rfl
  | note event times next ih => exact ih ..
  | print text next ih =>
    simp only [run, writes, Sink.writeAll_cons]
    rcases hp : c.print text with ⟨_ | u, d⟩
    all_goals
      have hsink : d.sink = (c.sink.write (line text)).2 := congrArg (·.2.sink) hp.symm
      rw [← hsink]
    · rfl
    · exact ih ..
  | ask prompt next ih =>
    simp only [run, writes, Sink.writeAll_cons]
    rcases ha : c.ask prompt with ⟨_ | token, d⟩
    all_goals rw [← Console.ask_sink ha]
    · rfl
    · exact ih ..
  | flush next ih =>
    simp only [run, writes]
    cases c.flush with
    | error fault => rfl
    | ok u => exact ih ..

/-- A run adds to an unlimited sink what it writes. -/
theorem contents_run (s : Script α) {c : Console} (h : c.sink.limit = none) (j : Log.Journal) :
    (s.run c j).console.sink.contents = c.sink.contents ++ joined (s.writes c) := by
  rw [sink_run, Sink.writeAll_unlimited h]

end Script

end Builtins
