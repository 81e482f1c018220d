import Builtins.Session
import Builtins.Proofs.Scripts
import Builtins.Proofs.Tokens
import Mathlib

/-!
# Sessions lose nothing and repeat nothing

A session is a number of actions on one console, of which any may fail. An action comes down to at
most three effects: it writes, it flushes, it reads a token, and an effect that fails is its last
one. What the session leaves can be told from the effects: the sink has what was written with
success, and every byte of the source is unread or was used up by exactly one read.

* `collect_split`: a read takes bytes from the front, and the token has those of them that are no
  separators.
* `Course`: the courses that an action can take.
* `Step.Accounted`: what every step keeps; `accounted_of` and `accounted_steps`.
* `session_accounts_for_bytes`: the same, and what follows for a whole session.
-/
namespace Builtins

/-! ## What a read uses up -/

namespace Source

/-- The induction is on the fills; a failing one takes the token along, but no bytes. -/
theorem collect_split (token : List UInt8) (fills : List Fill) :
    ∃ used, fills.flatMap Fill.bytes = used ++ (collect token fills).2.flatMap Fill.bytes ∧
      ∀ word, (collect token fills).1 = .ok word → word = token ++ used.filter (!isSeparator ·) := by
  induction fills generalizing token with
  | nil => exact ⟨[], rfl, fun word h => by simpa [collect, eq_comm] using h⟩
  | cons fill rest ih =>
    cases fill with
    | failure text => exact ⟨[], rfl, fun word h => by simp [collect] at h⟩
    | data bytes =>
      by_cases hne : bytes = []
      · subst hne
        exact ⟨[], rfl, fun word h => by simpa [collect, eq_comm] using h⟩
      · obtain ⟨used, hbytes, htoken⟩ := absorb_split token bytes
        rw [collect_data hne, List.flatMap_cons, Fill.bytes]
        by_cases hleft : (absorb token bytes).2 = []
        · obtain ⟨more, hrest, hword⟩ := ih (absorb token bytes).1
          rw [if_pos hleft]
          rw [hleft, List.append_nil] at hbytes
          refine ⟨used ++ more, by rw [hrest, List.append_assoc, ← hbytes], fun word h => ?_⟩
          rw [hword word h, htoken, List.filter_append, List.append_assoc]
        · rw [if_neg hleft]
          refine ⟨used, ?_, fun word h => ?_⟩
          · rw [List.flatMap_cons, Fill.bytes, ← List.append_assoc, ← hbytes]
          · rw [← Except.ok.inj h, htoken]

theorem utf8_of_decode {word : List UInt8} {text : String} (h : decode word = .ok text) :
    utf8 text = word := by
  have hspells := decode_spells word
  rw [h] at hspells
  rw [utf8, hspells, List.data_toByteArray]

/-- A read takes bytes from the front. If it gives a token, the token consists of those of them that
are no separators, in their order. -/
theorem token_split (s : Source) :
    ∃ used, s.bytes = used ++ s.token.2.bytes ∧
      ∀ text, s.token.1 = .ok text → utf8 text = used.filter (!isSeparator ·) := by
  obtain ⟨used, hbytes, hword⟩ := collect_split [] s.fills
  refine ⟨used, hbytes, fun text h => ?_⟩
  have hresult : s.token.1 = (collect [] s.fills).1.bind decode := rfl
  rw [hresult] at h
  cases hc : (collect [] s.fills).1 with
  | error fault =>
    rw [hc] at h
    cases h
  | ok word =>
    rw [hc] at h
    rw [utf8_of_decode h, hword word hc, List.nil_append]

end Source

namespace Console

/-! ## What a write and a flush come to -/

theorem write_cases (c : Console) (bytes : ByteArray) :
    c.write bytes = (.ok (), c.put bytes) ∨ c.write bytes = (.error (.io "sink full"), c) := by
  by_cases h : c.sink.admits bytes.size = true
  · exact .inl (by simp [write, Sink.write, h, put])
  · exact .inr (by simp [write, Sink.write, h])

end Console

/-! ## Effects -/

/-- Something that an action does to a console, and what it comes to. -/
inductive Effect where
  | wrote (bytes : ByteArray) (result : Except Fault Unit)
  | flushed (result : Except Fault Unit)
  | read (result : Except Fault String)

namespace Effect

/-- The bytes of a write that succeeded. -/
def stored? : Effect → Option ByteArray
  | wrote bytes (.ok ()) => some bytes
  | _ => none

/-- The token of a read that returned one. -/
def token? : Effect → Option String
  | read (.ok text) => some text
  | _ => none

/-- Why a write or a flush failed. -/
def outputFault? : Effect → Option Fault
  | wrote _ (.error fault) => some fault
  | flushed (.error fault) => some fault
  | _ => none

@[simp] theorem stored?_ok (bytes : ByteArray) : stored? (wrote bytes (.ok ())) = some bytes := rfl

@[simp] theorem stored?_error (bytes : ByteArray) (fault : Fault) :
    stored? (wrote bytes (.error fault)) = none := rfl

@[simp] theorem stored?_flushed (result : Except Fault Unit) : stored? (flushed result) = none := rfl

@[simp] theorem stored?_read (result : Except Fault String) : stored? (read result) = none := rfl

end Effect

namespace Action

/-- The effects of an action in their order. The one that fails is the last. -/
def effects (a : Action) (c : Console) : List Effect :=
  match a with
  | print text => [.wrote (line text) (c.write (line text)).1]
  | input prompt =>
    match c.write (line prompt) with
    | (.error fault, _) => [.wrote (line prompt) (.error fault)]
    | (.ok (), d) =>
      match d.flush with
      | .error fault => [.wrote (line prompt) (.ok ()), .flushed (.error fault)]
      | .ok () => [.wrote (line prompt) (.ok ()), .flushed (.ok ()), .read d.token.1]
  | token => [.read c.token.1]
  | int => [.read c.token.1]
  | flush => [.flushed c.flush]
  | write bytes => [.wrote bytes (c.write bytes).1]
  | clear => []

/-- What an action comes to, told from its last effect. -/
def answer (a : Action) (effects : List Effect) : Except Fault Reply :=
  match effects.getLast? with
  | none => .ok .nothing
  | some (.wrote _ result) => result.map fun _ => .nothing
  | some (.flushed result) => result.map fun _ => .nothing
  | some (.read result) =>
    match a with
    | int => (result.bind Literal.toWord).map .word
    | _ => result.map .text

/-- The bytes that an action has to write. -/
def output? : Action → Option ByteArray
  | print text => some (line text)
  | input prompt => some (line prompt)
  | write bytes => some bytes
  | _ => none

def clears : Action → Bool
  | clear => true
  | _ => false

/-- The courses that an action can take: its effects, and the console that they leave. -/
inductive Course (c : Console) : Action → List Effect → Console → Prop where
  | stored {a bytes} (ha : a.output? = some bytes) :
    Course c a [.wrote bytes (.ok ())] (c.put bytes)
  | refused {a bytes fault} (ha : a.output? = some bytes) :
    Course c a [.wrote bytes (.error fault)] c
  | unflushed {prompt fault} :
    Course c (input prompt) [.wrote (line prompt) (.ok ()), .flushed (.error fault)]
      (c.put (line prompt))
  | asked {prompt result} (hr : c.source.token.1 = result) :
    Course c (input prompt) [.wrote (line prompt) (.ok ()), .flushed (.ok ()), .read result]
      { c.put (line prompt) with source := c.source.token.2 }
  | flushed {result} : Course c flush [.flushed result] c
  | read {a result} (ha : a = token ∨ a = int) (hr : c.source.token.1 = result) :
    Course c a [.read result] { c with source := c.source.token.2 }
  | cleared : Course c clear [] { c with sink := c.sink.clear }

/-- What an action comes to and the course that it takes. -/
theorem run_course (a : Action) (c : Console) (j : Log.Journal) :
    (a.run c j).result = a.answer (a.effects c) ∧ Course c a (a.effects c) (a.run c j).console := by
  cases a with
  | print text =>
    rw [run, Script.run_bind_done, Script.run_say, Console.print_eq_write, effects]
    refine ⟨rfl, ?_⟩
    rcases c.write_cases (line text) with hw | hw <;> rw [hw]
    · exact .stored rfl
    · exact .refused rfl
  | input prompt =>
    rw [run, Script.run_bind_done, Script.run_input, effects]
    rcases c.write_cases (line prompt) with hw | hw
    · rw [Console.ask_of_print_ok hw]
      cases hf : (c.put (line prompt)).flush with
      | ok u =>
        simp only [hw, hf]
        exact ⟨rfl, .asked rfl⟩
      | error fault =>
        simp only [hw, hf]
        exact ⟨rfl, .unflushed⟩
    · rw [Console.ask_of_print_error hw, hw]
      exact ⟨rfl, .refused rfl⟩
  | token => exact ⟨rfl, .read (.inl rfl) rfl⟩
  | int =>
    have htoken : c.token = (c.source.token.1, { c with source := c.source.token.2 }) := rfl
    rw [run, effects, htoken]
    cases ht : c.source.token.1 with
    | error fault => exact ⟨rfl, .read (.inr rfl) ht⟩
    | ok text =>
      simp only [Script.run_bind_done, Script.run_int]
      exact ⟨rfl, .read (.inr rfl) ht⟩
  | flush =>
    rw [run, Script.run_bind_done, Script.run_flushed, effects]
    exact ⟨rfl, .flushed⟩
  | write bytes =>
    rw [run, effects]
    rcases c.write_cases bytes with hw | hw <;> rw [hw]
    · exact ⟨rfl, .stored rfl⟩
    · exact ⟨rfl, .refused rfl⟩
  | clear => exact ⟨rfl, .cleared⟩

/-! ## What a course leaves -/

variable {a : Action} {c d : Console} {es : List Effect}

theorem clears_of_output {bytes : ByteArray} (h : a.output? = some bytes) : a.clears = false := by
  cases a with
  | clear => cases h
  | _ => rfl

theorem Course.contents (h : Course c a es d) :
    d.sink.contents =
      (if a.clears then ByteArray.empty else c.sink.contents) ++ joined (es.filterMap Effect.stored?) := by
  cases h with
  | stored ha => simp [clears_of_output ha]
  | refused ha => simp [clears_of_output ha, List.filterMap_cons]
  | unflushed => simp [clears, List.filterMap_cons]
  | asked => simp [clears, List.filterMap_cons]
  | flushed => simp [clears, List.filterMap_cons]
  | read ha => rcases ha with rfl | rfl <;> simp [clears, List.filterMap_cons]
  | cleared => simp [clears, Sink.clear]

/-- The source is as it was unless the action gets to read; then no write and no flush has failed. -/
theorem Course.source (h : Course c a es d) :
    (d.source = c.source ∧ ∀ result, .read result ∉ es) ∨
      (d.source = c.source.token.2 ∧ (∀ result, .read result ∈ es ↔ result = c.source.token.1) ∧
        ∀ e ∈ es, e.outputFault? = none) := by
  cases h with
  | stored => exact .inl ⟨rfl, by simp⟩
  | refused => exact .inl ⟨rfl, by simp⟩
  | unflushed => exact .inl ⟨rfl, by simp⟩
  | asked hr => exact .inr ⟨rfl, by simp [hr], by simp [Effect.outputFault?]⟩
  | flushed => exact .inl ⟨rfl, by simp⟩
  | read ha hr => exact .inr ⟨rfl, by simp [hr], by simp [Effect.outputFault?]⟩
  | cleared => exact .inl ⟨rfl, by simp⟩

theorem Course.split (h : Course c a es d) :
    ∃ used, c.source.bytes = used ++ d.source.bytes ∧
      ∀ text, .read (.ok text) ∈ es → utf8 text = used.filter (!isSeparator ·) := by
  rcases h.source with ⟨hsource, hread⟩ | ⟨hsource, hread, -⟩
  · exact ⟨[], by rw [hsource, List.nil_append], fun text ht => absurd ht (hread _)⟩
  · obtain ⟨used, hbytes, htoken⟩ := c.source.token_split
    exact ⟨used, by rw [hsource, hbytes], fun text ht => htoken text ((hread _).1 ht).symm⟩

/-- A write or a flush that fails is what the action comes to. -/
theorem Course.answer_of_fault (h : Course c a es d) {e : Effect} (he : e ∈ es) {fault : Fault}
    (hf : e.outputFault? = some fault) : a.answer es = .error fault := by
  cases h with
  | stored => simp_all [Effect.outputFault?]
  | refused => simp_all [Effect.outputFault?, answer, Except.map]
  | unflushed =>
    simp only [List.mem_cons, List.not_mem_nil, or_false] at he
    rcases he with rfl | rfl <;> simp_all [Effect.outputFault?, answer, Except.map]
  | asked =>
    simp only [List.mem_cons, List.not_mem_nil, or_false] at he
    rcases he with rfl | rfl | rfl <;> simp [Effect.outputFault?] at hf
  | @flushed result =>
    obtain rfl := List.mem_singleton.1 he
    cases result with
    | ok u => cases hf
    | error fault' => simp_all [Effect.outputFault?, answer, Except.map]
  | read => simp_all [Effect.outputFault?]
  | cleared => cases he

theorem Course.sink_of_reading (h : Course c a es d) (ha : a = token ∨ a = int) : d.sink = c.sink := by
  rcases ha with rfl | rfl
  all_goals cases h with
    | stored ha => cases ha
    | refused => rfl
    | read => rfl

end Action

/-! ## Steps -/

namespace Session

/-- One step of a session: an action, the console before it, what it came to, and the console after
it. -/
structure Step where
  action : Action
  before : Console
  result : Except Fault Reply
  after : Console

namespace Step

def of (a : Action) (c : Console) (j : Log.Journal) : Step :=
  ⟨a, c, (a.run c j).result, (a.run c j).console⟩

def effects (s : Step) : List Effect := s.action.effects s.before

/-- The writes of the step that succeeded. -/
def stored (s : Step) : List ByteArray := s.effects.filterMap Effect.stored?

/-- The token that the step read, if it got one. -/
def token? (s : Step) : Option String := s.effects.findSome? Effect.token?

/-- The bytes that the step used up, in front of those that it left. -/
def used (s : Step) : List UInt8 :=
  s.before.source.bytes.take (s.before.source.unread - s.after.source.unread)

/-- What holds of every step: it comes to what its effects come to, it uses bytes up from the front,
its successful writes go behind what the sink holds, and its token consists of the bytes used up that
are no separators. If its write or its flush fails, nothing has been read; it reads without a change of
the sink. -/
structure Accounted (s : Step) : Prop where
  answer : s.result = s.action.answer s.effects
  bytes : s.before.source.bytes = s.used ++ s.after.source.bytes
  contents : s.after.sink.contents =
    (if s.action.clears then ByteArray.empty else s.before.sink.contents) ++ joined s.stored
  token : ∀ text, s.token? = some text → utf8 text = s.used.filter (!isSeparator ·)
  failed : ∀ e ∈ s.effects, ∀ fault, e.outputFault? = some fault →
    s.result = .error fault ∧ s.after.source = s.before.source
  untouched : (∀ result, .read result ∉ s.effects) → s.after.source = s.before.source
  reading : s.action = .token ∨ s.action = .int → s.after.sink = s.before.sink

theorem mem_effects_of_token? {s : Step} {text : String} (h : s.token? = some text) :
    .read (.ok text) ∈ s.effects := by
  obtain ⟨e, he, ht⟩ := List.exists_of_findSome?_eq_some h
  cases e with
  | wrote bytes result => cases ht
  | flushed result => cases ht
  | read result =>
    cases result with
    | error fault => cases ht
    | ok t => rwa [← Option.some.inj ht]

theorem accounted_of (a : Action) (c : Console) (j : Log.Journal) : (of a c j).Accounted := by
  obtain ⟨hanswer, hcourse⟩ := a.run_course c j
  obtain ⟨used, hbytes, htoken⟩ := hcourse.split
  have hused : (of a c j).used = used := by
    have hlen : c.source.unread - (a.run c j).console.source.unread = used.length := by
      simp only [Source.unread, hbytes, List.length_append]
      omega
    show c.source.bytes.take (c.source.unread - (a.run c j).console.source.unread) = used
    rw [hlen, hbytes, List.take_left]
  constructor
  case answer => exact hanswer
  case bytes => rw [hused]; exact hbytes
  case contents => exact hcourse.contents
  case token => rw [hused]; exact fun text ht => htoken text (mem_effects_of_token? ht)
  case failed =>
    intro e he fault hf
    refine ⟨hanswer.trans (hcourse.answer_of_fault he hf), ?_⟩
    rcases hcourse.source with ⟨hsource, -⟩ | ⟨-, -, hnone⟩
    · exact hsource
    · rw [hnone e he] at hf
      cases hf
  case untouched =>
    intro hread
    rcases hcourse.source with ⟨hsource, -⟩ | ⟨hsource, hmem, -⟩
    · exact hsource
    · exact absurd ((hmem _).2 rfl) (hread _)
  case reading => exact hcourse.sink_of_reading

end Step

/-! ## Sessions -/

/-- The steps of a session. -/
def steps : List Action → Console → Log.Journal → List Step
  | [], _, _ => []
  | a :: rest, c, j => .of a c j :: steps rest (a.run c j).console (a.run c j).journal

variable (actions : List Action) (a : Action) (c : Console) (j : Log.Journal)

/-- The console after a session. -/
def final : Console := (Action.runAll actions c j).2.1

theorem map_action_steps : (steps actions c j).map (·.action) = actions := by
  induction actions generalizing c j with
  | nil => rfl
  | cons a rest ih => simp [steps, Step.of, ih]

theorem map_result_steps : (steps actions c j).map (·.result) = (Action.runAll actions c j).1 := by
  induction actions generalizing c j with
  | nil => rfl
  | cons a rest ih => simp [steps, Step.of, Action.runAll, ih]

theorem accounted_steps : ∀ s ∈ steps actions c j, s.Accounted := by
  induction actions generalizing c j with
  | nil => simp [steps]
  | cons a rest ih =>
    intro s hs
    rcases List.mem_cons.1 hs with rfl | hs
    · exact Step.accounted_of a c j
    · exact ih _ _ s hs

/-- The bytes of the source are used up step by step, and the rest is left. -/
theorem bytes_steps :
    c.source.bytes = (steps actions c j).flatMap Step.used ++ (final actions c j).source.bytes := by
  induction actions generalizing c j with
  | nil => rfl
  | cons a rest ih =>
    have hstep : c.source.bytes = (Step.of a c j).used ++ (a.run c j).console.source.bytes :=
      (Step.accounted_of a c j).bytes
    rw [hstep, ih (a.run c j).console (a.run c j).journal]
    simp [steps, final, Action.runAll]

theorem runAll_concat :
    (Action.runAll (actions ++ [a]) c j).2 =
      let o := a.run (Action.runAll actions c j).2.1 (Action.runAll actions c j).2.2
      (o.console, o.journal) := by
  induction actions generalizing c j with
  | nil => rfl
  | cons b rest ih => exact ih _ _

theorem steps_concat :
    steps (actions ++ [a]) c j =
      steps actions c j ++ [.of a (Action.runAll actions c j).2.1 (Action.runAll actions c j).2.2] := by
  induction actions generalizing c j with
  | nil => rfl
  | cons b rest ih => simp [steps, Action.runAll, ih]

/-- The steps behind the last one that cleared the sink. -/
def sinceClear (session : List Step) : List Step := session.rtakeWhile (!·.action.clears)

/-- What the sink held before these steps. -/
def cleared (contents : ByteArray) (session : List Step) : ByteArray :=
  if session.any (·.action.clears) then ByteArray.empty else contents

theorem stored_of_clears {s : Step} (h : s.action.clears = true) : s.stored = [] := by
  cases hs : s.action with
  | clear => simp [Step.stored, Step.effects, hs, Action.effects]
  | _ => simp [hs, Action.clears] at h

/-- The induction is on the actions from the end, since the last clearing counts. -/
theorem contents_steps :
    (final actions c j).sink.contents =
      cleared c.sink.contents (steps actions c j) ++
        joined ((sinceClear (steps actions c j)).flatMap Step.stored) := by
  induction actions using List.reverseRecOn with
  | nil => simp [final, Action.runAll, steps, cleared, sinceClear]
  | append_singleton rest a ih =>
    have hfinal : final (rest ++ [a]) c j =
        (a.run (final rest c j) (Action.runAll rest c j).2.2).console :=
      congrArg Prod.fst (runAll_concat rest a c j)
    have hstep : (final (rest ++ [a]) c j).sink.contents =
        (if a.clears then ByteArray.empty else (final rest c j).sink.contents) ++
          joined (Step.of a (final rest c j) (Action.runAll rest c j).2.2).stored := by
      rw [hfinal]
      exact (Step.accounted_of a (final rest c j) (Action.runAll rest c j).2.2).contents
    have hsteps : steps (rest ++ [a]) c j =
        steps rest c j ++ [.of a (final rest c j) (Action.runAll rest c j).2.2] := steps_concat rest a c j
    rw [hstep, hsteps]
    by_cases ha : a.clears = true
    · rw [stored_of_clears (s := .of a (final rest c j) (Action.runAll rest c j).2.2) ha]
      simp [cleared, sinceClear, Step.of, ha]
    · simp [cleared, sinceClear, Step.of, ha, ih, joined_append, ByteArray.append_assoc]

theorem tokens_sublist {session : List Step} (h : ∀ s ∈ session, s.Accounted) :
    ((session.filterMap Step.token?).flatMap utf8).Sublist
      ((session.flatMap Step.used).filter (!isSeparator ·)) := by
  induction session with
  | nil => exact List.nil_sublist _
  | cons s rest ih =>
    have hrest := ih fun t ht => h t (List.mem_cons_of_mem _ ht)
    rw [List.filterMap_cons, List.flatMap_cons, List.filter_append]
    cases ht : s.token? with
    | none => exact hrest.trans (List.sublist_append_right _ _)
    | some text =>
      simp only [List.flatMap_cons]
      rw [(h s List.mem_cons_self).token text ht]
      exact (List.Sublist.refl _).append hrest

/-- Whatever the source delivers, whatever the sink takes and whichever actions fail: every step is
accounted for, the bytes of the source are those that the steps used up, in their order, and then those
that are left, and the sink holds what was written with success since it was cleared last. So the
tokens that were read have no byte in common. As this holds of any actions, it holds after each. -/
theorem session_accounts_for_bytes (actions : List Action) (c : Console) (j : Log.Journal) :
    let session := steps actions c j
    session.map (·.action) = actions ∧ session.map (·.result) = (Action.runAll actions c j).1 ∧
      (∀ s ∈ session, s.Accounted) ∧
      c.source.bytes = session.flatMap Step.used ++ (final actions c j).source.bytes ∧
      (final actions c j).sink.contents =
        cleared c.sink.contents session ++ joined ((sinceClear session).flatMap Step.stored) ∧
      ((session.filterMap Step.token?).flatMap utf8).Sublist
        (c.source.bytes.filter (!isSeparator ·)) := by
  intro session
  have hall : ∀ s ∈ session, s.Accounted := accounted_steps actions c j
  have hbytes := bytes_steps actions c j
  refine ⟨map_action_steps actions c j, map_result_steps actions c j, hall, hbytes,
    contents_steps actions c j, ?_⟩
  rw [hbytes, List.filter_append]
  exact (tokens_sublist hall).trans (List.sublist_append_left _ _)

end Session

end Builtins
