import Builtins.Proofs.Powers
import Builtins.Proofs.Traces
import Mathlib

/-!
# The double recursion

Computing a Fibonacci number by its two predecessors adds words that have to fit. The guard on the
index is what makes them fit: up to it every sum on the way is a Fibonacci number that is a word. What
the recursion comes to and how often it adds are found together, by one induction.

* `fits_fib_iff`: which Fibonacci numbers are words.
* `recursive_of_lt`, `recursive_of_le`, `recursive_of_between`: the three ways of the recursion.
* `run_recursive`: the number at an index and the calls of `add` that it takes.
* `recursion_exact`: all of it, for every word as the index.
-/
namespace Builtins

theorem Script.run_add (a b : Word) (c : Console) (j : Log.Journal) :
    (add a b).run c j = ⟨Arith.add a b, c, j.noteAll [.called "add"]⟩ :=
  run_ofExcept ..

namespace Fibonacci

/-! ## The numbers -/

/-- The linear computation goes through the same numbers. -/
theorem pair_eq_fib (n : Nat) : pair n = (Nat.fib n, Nat.fib (n + 1)) := by
  induction n with
  | zero => rfl
  | succ n ih => rw [pair, ih, Nat.fib_add_two]

theorem fits_fib_iff (n : Nat) : Word.Fits (Nat.fib n) ↔ n ≤ 92 := by
  have hlast : Nat.fib 92 = 7540113804746346429 := by norm_num
  have hnext : Nat.fib 93 = 12200160415121876738 := by norm_num
  unfold Word.Fits
  constructor
  · intro hfits
    by_contra hn
    have hle := Nat.fib_mono (show 93 ≤ n by omega)
    omega
  · intro hn
    have hle := Nat.fib_mono hn
    omega

/-! ## The recursion -/

variable {index : Word}

theorem recursive_of_lt (h : 92 < index.toInt) : recursive index = .fail (.overflow .fib) := by
  have hlarge : index > lastIndex := Int64.lt_iff_toInt_lt.2 h
  rw [recursive, if_pos hlarge]

theorem not_gt_lastIndex (h : index.toInt ≤ 92) : ¬ index > lastIndex := fun hgt =>
  absurd (Int64.lt_iff_toInt_lt.1 hgt) (Int.not_lt.2 h)

theorem recursive_of_le (h : index.toInt ≤ 1) : recursive index = .done index := by
  have hsmall : index ≤ 1 := Int64.le_iff_toInt_le.2 h
  rw [recursive, if_neg (not_gt_lastIndex (by omega)), dif_pos hsmall]

theorem not_le_one (h : 1 < index.toInt) : ¬ index ≤ 1 := fun hle =>
  absurd (Int64.le_iff_toInt_le.1 hle) (Int.not_le.2 h)

theorem recursive_of_between (h1 : 1 < index.toInt) (h92 : index.toInt ≤ 92) :
    recursive index = (do .add (← recursive (index - 1)) (← recursive (index - 2))) := by
  rw [recursive, if_neg (not_gt_lastIndex h92), dif_neg (not_le_one h1)]

/-- Where the recursion subtracts, the differences are words. -/
theorem toInt_sub (h1 : 1 < index.toInt) :
    (index - 1).toInt = index.toInt - 1 ∧ (index - 2).toInt = index.toInt - 2 :=
  ⟨toInt_sub_of_two_le (not_le_one h1) (.inl rfl), toInt_sub_of_two_le (not_le_one h1) (.inr rfl)⟩

/-- Two numbers in sequence can be added as words if the one after them is a word. -/
theorem add_fib {n : Nat} {a b : Word} (ha : a.toInt = Nat.fib (n + 1)) (hb : b.toInt = Nat.fib n)
    (hn : n + 2 ≤ 92) : ∃ w : Word, w.toInt = Nat.fib (n + 2) ∧ Arith.add a b = .ok w := by
  have hsum : a.toInt + b.toInt = Nat.fib (n + 2) := by
    rw [ha, hb, Nat.fib_add_two]
    push_cast
    ring
  obtain ⟨hlow, hhigh⟩ := (fits_fib_iff (n + 2)).2 hn
  have hw := Int64.toInt_ofInt_of_le hlow hhigh
  refine ⟨_, hw, ?_⟩
  rw [Arith.add, Word.add?, Arith.checked_eq_ok_iff, hsum, hw]

/-- The calls of `add` for a number: one, and those for its two predecessors. -/
theorem calls_add_two (n : Nat) :
    Nat.fib (n + 3) - 1 = (Nat.fib (n + 2) - 1) + (Nat.fib (n + 1) - 1) + 1 := by
  have h1 : 0 < Nat.fib (n + 1) := Nat.fib_pos.2 (by omega)
  have h2 : 0 < Nat.fib (n + 2) := Nat.fib_pos.2 (by omega)
  have h3 : Nat.fib (n + 3) = Nat.fib (n + 1) + Nat.fib (n + 2) := Nat.fib_add_two
  omega

theorem run_recursive {n : Nat} (hn : n ≤ 92) (hindex : index.toInt = n) (c : Console)
    (j : Log.Journal) :
    ∃ w : Word, w.toInt = Nat.fib n ∧
      (recursive index).run c j =
        ⟨.ok w, c, j.noteAll (List.replicate (Nat.fib (n + 1) - 1) (.called "add"))⟩ := by
  induction n using Nat.twoStepInduction generalizing index j with
  | zero =>
    rw [recursive_of_le (by omega)]
    exact ⟨index, hindex, rfl⟩
  | one =>
    rw [recursive_of_le (by omega)]
    exact ⟨index, hindex, rfl⟩
  | more n ih ih' =>
    -- the log goes on from the first predecessor to the second and ends with the call for the sum
    have h1 : 1 < index.toInt := by omega
    obtain ⟨hfirst, hsecond⟩ := toInt_sub h1
    have hn1 : (index - 1).toInt = ((n + 1 : Nat) : Int) := by omega
    have hn2 : (index - 2).toInt = n := by omega
    obtain ⟨a, ha, hruna⟩ := ih' (by omega) hn1 j
    obtain ⟨b, hb, hrunb⟩ := ih (by omega) hn2
      (j.noteAll (List.replicate (Nat.fib (n + 2) - 1) (.called "add")))
    obtain ⟨w, hw, hadd⟩ := add_fib ha hb hn
    refine ⟨w, hw, ?_⟩
    rw [recursive_of_between h1 (by omega), Script.run_bind_of_ok hruna, Script.run_bind_of_ok hrunb,
      Script.run_add, hadd, calls_add_two, List.replicate_add, List.replicate_add,
      Log.Journal.noteAll_append, Log.Journal.noteAll_append]
    rfl

theorem index_cases (index : Word) :
    92 < index.toInt ∨ index.toInt ≤ 1 ∨ ∃ n : Nat, index.toInt = n ∧ 2 ≤ n ∧ n ≤ 92 := by
  by_cases h92 : 92 < index.toInt
  · exact .inl h92
  by_cases h1 : index.toInt ≤ 1
  · exact .inr (.inl h1)
  · exact .inr (.inr ⟨index.toInt.toNat, by omega, by omega, by omega⟩)

/-- Adding up from below has the same result and the same log. -/
theorem run_script_eq (index : Word) (c : Console) (j : Log.Journal) :
    (script index).run c j = (recursive index).run c j := by
  rcases index_cases index with h92 | h1 | ⟨n, hindex, h2, h92⟩
  · rw [recursive_of_lt h92, script, if_pos (show index > lastIndex from Int64.lt_iff_toInt_lt.2 h92)]
  · rw [recursive_of_le h1, script, if_neg (not_gt_lastIndex (by omega)),
      if_pos (show index ≤ 1 from Int64.le_iff_toInt_le.2 h1)]
  · obtain ⟨w, hw, hrun⟩ := run_recursive h92 hindex c j
    have hvalue : Int64.ofNat (Nat.fib n) = w := by
      rw [← Int64.ofInt_eq_ofNat, ← hw, Int64.ofInt_toInt]
    rw [hrun, script, if_neg (not_gt_lastIndex (by omega)), if_neg (not_le_one (by omega)), hindex,
      Int.toNat_natCast, pair_eq_fib, Script.run, Log.Journal.noteTimes_eq, Script.run, hvalue]

theorem result_ne_overflow_add (index : Word) (c : Console) (j : Log.Journal) :
    ((recursive index).run c j).result ≠ .error (.overflow .add) := by
  rcases index_cases index with h92 | h1 | ⟨n, hindex, -, h92⟩
  · rw [recursive_of_lt h92]
    nofun
  · rw [recursive_of_le h1]
    nofun
  · obtain ⟨w, -, hrun⟩ := run_recursive h92 hindex c j
    rw [hrun]
    nofun

/-- The double recursion refuses every index above 92 and gives every index below two back, without an
addition. In between it comes to the Fibonacci number at the index, as the linear computation does; it
calls `add` one time less than the next number says and logs nothing else, and the two indices that it
goes on with are words. No addition overflows. Adding up from below instead cannot be told apart from
it, and 92 is the largest index whose number is a word. -/
theorem recursion_exact (index : Word) (c : Console) (j : Log.Journal) :
    (92 < index.toInt → (recursive index).run c j = ⟨.error (.overflow .fib), c, j⟩) ∧
      (index.toInt ≤ 1 → (recursive index).run c j = ⟨.ok index, c, j⟩) ∧
      (∀ n : Nat, index.toInt = n → 2 ≤ n → n ≤ 92 →
        ∃ w : Word, w.toInt = Nat.fib n ∧ w.toInt = (pair n).1 ∧
          (recursive index).run c j =
            ⟨.ok w, c, j.noteAll (List.replicate (Nat.fib (n + 1) - 1) (.called "add"))⟩ ∧
          (index - 1).toInt = index.toInt - 1 ∧ (index - 2).toInt = index.toInt - 2 ∧
          recursive index = (do .add (← recursive (index - 1)) (← recursive (index - 2)))) ∧
      ((recursive index).run c j).result ≠ .error (.overflow .add) ∧
      (script index).run c j = (recursive index).run c j ∧
      lastIndex.toInt = 92 ∧ ∀ n, Word.Fits (Nat.fib n) ↔ n ≤ 92 := by
  refine ⟨fun h92 => ?_, fun h1 => ?_, fun n hindex h2 h92 => ?_, result_ne_overflow_add index c j,
    run_script_eq index c j, rfl, fits_fib_iff⟩
  · rw [recursive_of_lt h92]
    rfl
  · rw [recursive_of_le h1]
    rfl
  · have h1 : 1 < index.toInt := by omega
    obtain ⟨w, hw, hrun⟩ := run_recursive h92 hindex c j
    obtain ⟨hfirst, hsecond⟩ := toInt_sub h1
    exact ⟨w, hw, by rw [hw, pair_eq_fib], hrun, hfirst, hsecond, recursive_of_between h1 (by omega)⟩

end Fibonacci

end Builtins
