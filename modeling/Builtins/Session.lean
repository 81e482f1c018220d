import Builtins.Script

/-!
# Sessions

Single actions on a console, one after another; an action that fails does not keep the next one from
being carried out.
-/
namespace Builtins

inductive Action where
  | print (text : String)
  | input (prompt : String)
  | token
  /-- Reads a token as an integer literal. -/
  | int
  | flush
  | write (bytes : ByteArray)
  | clear

inductive Reply where
  | nothing
  | text (s : String)
  | word (w : Word)
  deriving DecidableEq, Repr

namespace Action

def run (a : Action) (console : Console) (journal : Log.Journal) : Outcome Reply :=
  match a with
  | print text => (Script.say text >>= fun _ => .done .nothing).run console journal
  | input prompt => (Script.input prompt >>= fun t => .done (.text t)).run console journal
  | token =>
    match console.token with
    | (result, console) => ⟨result.map .text, console, journal⟩
  | int =>
    match console.token with
    | (.ok t, console) => (Script.int t >>= fun w => .done (.word w)).run console journal
    | (.error fault, console) => ⟨.error fault, console, journal⟩
  | flush => (Script.flushed >>= fun _ => .done .nothing).run console journal
  | write bytes =>
    match console.write bytes with
    | (result, console) => ⟨result.map fun _ => .nothing, console, journal⟩
  | clear => ⟨.ok .nothing, { console with sink := console.sink.clear }, journal⟩

/-- Carries out one action after another: what each of them came to, and the console and the journal
at the end. -/
def runAll : List Action → Console → Log.Journal → List (Except Fault Reply) × Console × Log.Journal
  | [], console, journal => ([], console, journal)
  | a :: rest, console, journal =>
    let o := a.run console journal
    let (results, console, journal) := runAll rest o.console o.journal
    (o.result :: results, console, journal)

end Action

end Builtins
