import Builtins.Proofs.Lines
import Builtins.Proofs.Membership
import Mathlib

/-!
# The counting program

Counting walks a range that starts at zero and prints every value that the walk yields. Where it ends
is not decided by the program but by the cursor, with the first pull that fails.

* `yields_upTo`: what a walk from zero yields.
* `printValues_eq`: one turn of the loop of the program.
* `printValues_of_yields`: the whole loop prints all that its cursor yields.
* `counting_prints_numerals`: the output for every bound, and the outputs for two bounds compared.
-/
namespace Builtins

/-! ## Walks from zero -/

namespace Range

theorem value_upTo (stop : Word) (k : Nat) : (upTo stop).value k = k := by
  have hstart : (0 : Word).toInt = 0 := rfl
  have hstep : (1 : Word).toInt = 1 := rfl
  simp [value, upTo, between, build, hstart, hstep]

theorem count_upTo (stop : Word) : (upTo stop).count = stop.toInt.toNat := by
  have hlt : ∀ k, k < (upTo stop).count ↔ (k : Int) < stop.toInt := by
    intro k
    have hpos : 0 < (upTo stop).step.toInt := show 0 < (1 : Word).toInt by decide
    rw [lt_count_iff, value_upTo, Before, if_pos hpos]
    rfl
  -- each of the two is not below itself, so neither is below the other
  have hcount := hlt (upTo stop).count
  have hstop := hlt stop.toInt.toNat
  omega

/-- The texts of the values that a walk from zero yields. -/
theorem yields_upTo (stop : Word) :
    ∃ ws, (upTo stop).cursor.Yields ws ∧
      ws.map toString = (List.range stop.toInt.toNat).map toString := by
  have hat : Cursor.At (upTo stop) 0 (upTo stop).cursor := cursor_at 0 stop (by decide)
  obtain ⟨ws, hws, hvalues⟩ := Cursor.yields_of_at hat
  refine ⟨ws, hws, ?_⟩
  calc ws.map toString
      = (ws.map Int64.toInt).map toString := by
        rw [List.map_map]
        rfl
    _ = ((List.range stop.toInt.toNat).map (upTo stop).value).map toString := by
      rw [hvalues, count_upTo, Nat.sub_zero, List.range_eq_range']
    _ = (List.range stop.toInt.toNat).map toString := by
      rw [List.map_map]
      refine List.map_congr_left fun k _ => ?_
      rw [Function.comp_apply, value_upTo]
      rfl

end Range

namespace Script

variable {c : Console}

theorem silent_range (r : Range) : Silent (range r) (.ok r) := fun _ =>
  (silent_log _).bind (silent_ofExcept (.ok r) _)

theorem transcript_printAll (h : c.sink.Unbounded) (ws : List Word) :
    Transcript c (printAll sayInt ws) (ws.map toString) [] (.ok ()) := by
  induction ws generalizing c with
  | nil => exact silent_ofExcept (.ok ()) c
  | cons w ws ih =>
    have hrest := ih (Console.unbounded_after h [toString w] 0)
    exact (transcript_say h (toString w)).bind hrest

end Script

namespace Program

open Script

/-! ## The program -/

/-- One turn of the loop. -/
theorem printValues_eq (c : Range.Cursor) :
    printValues c =
      match c.next with
      | (some w, d) => .print (toString w) fun _ => printValues d
      | (none, _) => .done () := by
  rw [printValues]
  split
  · next hnext => rw [hnext]
  · next hnext => rw [hnext]

/-- The loop prints what its cursor yields, and ends with the pull that fails. -/
theorem printValues_of_yields {c : Range.Cursor} {ws : List Word} (h : c.Yields ws) :
    printValues c = printAll sayInt ws := by
  induction h with
  | stop h =>
    rw [printValues_eq, h]
    rfl
  | pull h rest ih =>
    rw [printValues_eq, h]
    simp only [ih]
    rfl

/-- The lines of the numbers below a bound. -/
def numerals (bound : Int) : List String := (List.range bound.toNat).map toString

theorem transcript_counting {c : Console} (h : c.sink.Unbounded) (p : Parameters) :
    Transcript c (counting.script p) (numerals p.countTo.toInt) [] (.ok ()) := by
  refine transcript_script h ((silent_range (Range.upTo p.countTo)).bind ?_)
  obtain ⟨ws, hws, htexts⟩ := Range.yields_upTo p.countTo
  rw [printValues_of_yields hws, numerals, ← htexts]
  exact transcript_printAll h ws

theorem run_counting {c : Console} (h : c.sink.Unbounded) (p : Parameters) (j : Log.Journal) :
    (counting.run p c j).result = .ok () ∧
      (counting.run p c j).console = c.put (Text.terminated (numerals p.countTo.toInt)).toUTF8 := by
  obtain ⟨k, hk⟩ := (transcript_counting h p).run (j.enter counting.span)
  rw [Program.run, hk, ← joined_lines]
  exact ⟨rfl, rfl⟩

/-- A larger bound adds lines at the end. -/
theorem numerals_isPrefix {a b : Int} (h : a ≤ b) : numerals a <+: numerals b := by
  obtain ⟨more, hmore⟩ := Nat.exists_eq_add_of_le (Int.toNat_le_toNat h)
  rw [numerals, numerals, hmore, List.range_add, List.map_append]
  exact List.prefix_append _ _

theorem terminated_isPrefix {ls ms : List String} (h : ls <+: ms) :
    (Text.terminated ls).toUTF8.data.toList <+: (Text.terminated ms).toUTF8.data.toList := by
  obtain ⟨rest, rfl⟩ := h
  rw [← joined_lines, ← joined_lines, List.map_append, joined_append, ByteArray.data_append,
    Array.toList_append]
  exact List.prefix_append _ _

/-- On a sink that takes everything, the counting program succeeds and adds the lines of the numbers
from zero to below the bound, in this order, or none if the bound is negative; it reads nothing. What
it writes for a bound is the beginning of what it writes for a larger one. -/
theorem counting_prints_numerals (p : Parameters) (c : Console) (j : Log.Journal)
    (h : c.sink.Unbounded) :
    let o := counting.run p c j
    o.result = .ok () ∧ o.console.source = c.source ∧
      o.console.sink.contents = c.sink.contents ++
        (String.join ((List.range (max p.countTo.toInt 0).toNat).map fun i => toString i ++ "\n")).toUTF8 ∧
      ∀ (q : Parameters) (k : Log.Journal), p.countTo ≤ q.countTo →
        o.console.sink.contents.data.toList <+: (counting.run q c k).console.sink.contents.data.toList := by
  intro o
  obtain ⟨hresult, hconsole⟩ := run_counting h p j
  have hoconsole : o.console = c.put (Text.terminated (numerals p.countTo.toInt)).toUTF8 := hconsole
  have hbound : (max p.countTo.toInt 0).toNat = p.countTo.toInt.toNat := by omega
  refine ⟨hresult, by rw [hoconsole]; rfl, ?_, fun q k hle => ?_⟩
  · rw [hoconsole, Console.put_contents, hbound, Text.terminated, numerals, List.map_map]
    rfl
  · have hpre := terminated_isPrefix (numerals_isPrefix (Int64.le_iff_toInt_le.1 hle))
    rw [hoconsole, (run_counting h q k).2, Console.put_contents, Console.put_contents,
      ByteArray.data_append, ByteArray.data_append, Array.toList_append, Array.toList_append]
    exact (List.prefix_append_right_inj _).2 hpre

/-- Counting to eleven, after something else was written and before something is read. -/
theorem counting_prints_numerals_eleven :
    let c : Console := ⟨{ contents := "n\n".toUTF8 }, ⟨[.data [0x31]]⟩⟩
    c.sink.Unbounded ∧
      (counting.run { countTo := 11 } c {}).console.sink.contents =
        "n\n0\n1\n2\n3\n4\n5\n6\n7\n8\n9\n10\n".toUTF8 ∧
      (counting.run { countTo := Int64.minValue } c {}).console.sink.contents = "n\n".toUTF8 := by
  intro c
  have hc : c.sink.Unbounded := ⟨rfl, rfl⟩
  refine ⟨hc, ?_, ?_⟩
  · rw [(counting_prints_numerals { countTo := 11 } c {} hc).2.2.1]
    decide
  · rw [(counting_prints_numerals { countTo := Int64.minValue } c {} hc).2.2.1]
    decide

end Program

end Builtins
