import Mathlib.Algebra.Order.BigOperators.Group.List
import Mathlib.Algebra.Order.Ring.Nat
import ObToolsBuild.Py.Loop
import ObToolsBuild.Pipeline.Naming

/-!
# TestOutput — the counts read from a test binary, and the totals and exit status built on them

`run_tests` and `run_lib_tests` run each binary with `--gtest_brief=1` and scan its output: on a
line with a count `(\d+)\s+test`, `PASSED` sets the passed count and, failing that, `FAILED` the
failed count.  The scan returns the counts of the last such lines, zero where there is none, and
raises only where `int()` refuses a count of more than `maxStrDigits` digits (`testCounts_eq`).
`run_lib_tests` adds up the counts of the tests that build and counts those that do not (`runLibTests_eq`), so
`run-tests.py` exits with status 1 exactly when a test that builds reports a failure
(`runAll_fails_iff`).
-/

namespace ObToolsBuild.Runner

open Py Pipeline

/-! ## 1. One binary's output -/

/-- `re.search(r"(\d+)\s+test", line).group(1)` over the start positions left to right.  From a
start the greedy `\d+` and `\s+` take whole runs, and giving back a character cannot help: `\s`
accepts no digit and `t` no whitespace. -/
def testCountSearch : List Char → Option (List Char)
  | [] => none
  | c :: cs =>
    let ds := (c :: cs).takeWhile isDecimal
    let rest := (c :: cs).drop ds.length
    if ds ≠ [] ∧ rest.head?.any isSpace = true ∧ "test".data.isPrefixOf (rest.dropWhile isSpace) = true
    then some ds else testCountSearch cs

/-- `int(m.group(1))`. -/
def intOf (ds : List Char) : Except String Nat :=
  match intOfDigits? ⟨ds⟩ with
  | some n => pure n
  | none => throw ⟨ds⟩

/-- The loop body on one line of the output: `(passed, failed)`. -/
def countLine (pf : Nat × Nat) (line : String) : Except String (Nat × Nat) :=
  match testCountSearch line.data with
  | none => pure pf
  | some ds =>
    if contains line "PASSED" then (fun n => (n, pf.2)) <$> intOf ds
    else if contains line "FAILED" then (fun n => (pf.1, n)) <$> intOf ds
    else pure pf

/-- The `(passed, failed)` that `run_tests` and `run_lib_tests` read from a binary's output. -/
def testCounts (output : String) : Except String (Nat × Nat) :=
  (splitlines output).foldlM countLine (0, 0)

/-! ## 2. The counts, line by line -/

/-- The digits a line gives the passed count. -/
def passedDigits (line : String) : Option (List Char) :=
  if contains line "PASSED" then testCountSearch line.data else none

/-- The digits a line gives the failed count: `PASSED` on the same line wins. -/
def failedDigits (line : String) : Option (List Char) :=
  if contains line "PASSED" then none
  else if contains line "FAILED" then testCountSearch line.data else none

/-- The value of the last count, zero where there is none. -/
def lastCount (dss : List (List Char)) : Nat :=
  dss.getLast?.elim 0 fun ds => (intOfDigits? ⟨ds⟩).getD 0

/-- The counts of the lines `lines`. -/
def countsOf (lines : List String) : Nat × Nat :=
  (lastCount (lines.filterMap passedDigits), lastCount (lines.filterMap failedDigits))

/-- Where a line makes `int()` raise: a count of more than `maxStrDigits` digits. -/
def countError? (line : String) : Option String :=
  ((passedDigits line <|> failedDigits line).filter fun ds => maxStrDigits < ds.length).map String.mk

theorem testCountSearch_decimal : ∀ {s ds : List Char}, testCountSearch s = some ds →
    ∀ c ∈ ds, isDecimal c = true
  | [], _, h => by simp [testCountSearch] at h
  | c :: cs, ds, h => by
    unfold testCountSearch at h
    dsimp only at h
    split_ifs at h with hm
    · cases h
      intro x hx
      exact List.mem_takeWhile_imp hx
    · exact testCountSearch_decimal h

theorem intOf_digits {ds : List Char} (hd : ∀ c ∈ ds, isDecimal c = true) :
    intOf ds = if maxStrDigits < ds.length then .error ⟨ds⟩ else .ok ((intOfDigits? ⟨ds⟩).getD 0) := by
  have hiff := @intOfDigits?_eq_none_iff ⟨ds⟩ hd
  unfold intOf
  cases h : intOfDigits? ⟨ds⟩ with
  | none =>
    have hl : maxStrDigits < ds.length := hiff.1 h
    simp [throw, throwThe, MonadExceptOf.throw, hl]
  | some n =>
    have : ¬ maxStrDigits < ds.length := fun hlt => by simp [hiff.2 hlt] at h
    simp [this, pure, Except.pure]

theorem lastCount_append_single (dss : List (List Char)) (ds : List Char) :
    lastCount (dss ++ [ds]) = (intOfDigits? ⟨ds⟩).getD 0 := by
  simp [lastCount]

/-- One pass of the body moves the counts of a prefix to those of the prefix and the line. -/
theorem countLine_countsOf (pre : List String) (line : String) :
    countLine (countsOf pre) line = (countError? line).elim (.ok (countsOf (pre ++ [line]))) .error := by
  unfold countLine countsOf countError?
  simp only [List.filterMap_append, List.filterMap_cons, List.filterMap_nil, passedDigits,
    failedDigits]
  cases hs : testCountSearch line.data with
  | none => split_ifs <;> simp [pure, Except.pure]
  | some ds =>
    -- the count is taken or refused on the same line: `PASSED`, else `FAILED`, else neither
    have hd := testCountSearch_decimal hs
    by_cases hp : contains line "PASSED" = true <;> by_cases hf : contains line "FAILED" = true <;>
      by_cases hl : maxStrDigits < ds.length <;>
      simp [hp, hf, hl, intOf_digits hd, lastCount_append_single, Option.filter, Functor.map,
        Except.map, pure, Except.pure]

/-- The scan of a binary's output: the counts of the last `PASSED` and `FAILED` lines with a count,
or the first count `int()` refuses. -/
theorem testCounts_eq (output : String) :
    testCounts output =
      ((splitlines output).findSome? countError?).elim (.ok (countsOf (splitlines output))) .error := by
  have h := foldlM_except_prefix countsOf countError? countLine_countsOf (splitlines output) []
  rwa [show countsOf [] = (0, 0) from rfl, List.nil_append] at h

/- `splitlines` also ends a line at `\r`, and the count of `1 test` is read as well as `2 tests`. -/
example : testCounts "[  PASSED  ] 2 tests.\r\n[  FAILED  ] 1 test, listed below:\n" = .ok (2, 1) :=
  rfl

/-! ## 3. The totals of `run_tests` -/

/-- The loop body of `run_tests` in `run-coverage.py` on one binary's output. -/
def runTestsStep (t : Nat × Nat) (output : String) : Except String (Nat × Nat) :=
  (fun pf => (t.1 + pf.1, t.2 + (pf.1 + pf.2))) <$> testCounts output

/-- `run_tests`: `(total_passed, total_tests)` over the outputs of the test binaries. -/
def runTests (outputs : List String) : Except String (Nat × Nat) :=
  outputs.foldlM runTestsStep (0, 0)

/-! ## 4. The totals of `run_lib_tests` -/

/-- The loop of `run_lib_tests` over its test sources: a test that does not build is skipped, one
that builds adds the counts its binary prints. -/
def libTestStep (builds : BuildUnit → Bool) (output : BuildUnit → String) (t : Nat × Nat × Nat)
    (u : BuildUnit) : Except String (Nat × Nat × Nat) :=
  if builds u then (fun pf => (t.1 + pf.1, t.2.1 + pf.2, t.2.2)) <$> testCounts (output u)
  else pure (t.1, t.2.1, t.2.2 + 1)

/-- `run_lib_tests`: `(total_passed, total_failed, total_skipped)` over the test steps `units`. -/
def runLibTests (builds : BuildUnit → Bool) (output : BuildUnit → String) (units : List BuildUnit) :
    Except String (Nat × Nat × Nat) :=
  units.foldlM (libTestStep builds output) (0, 0, 0)

/-- The end of `main` in `run-tests.py`: the grand totals over the libraries, and whether it
exits with status 1. -/
def runSummary (totals : List (Nat × Nat × Nat)) : (Nat × Nat × Nat) × Bool :=
  let g := totals.foldl (fun g t => (g.1 + t.1, g.2.1 + t.2.1, g.2.2 + t.2.2)) (0, 0, 0)
  (g, decide (0 < g.2.1))

theorem foldlM_libTestStep (builds : BuildUnit → Bool) (output : BuildUnit → String) :
    ∀ (units : List BuildUnit) (p f s : Nat), units.foldlM (libTestStep builds output) (p, f, s) =
      (fun cs => (p + (cs.map Prod.fst).sum, f + (cs.map Prod.snd).sum,
        s + (units.filter (!builds ·)).length)) <$>
        (units.filter builds).mapM fun u => testCounts (output u)
  | [], p, f, s => rfl
  | u :: units, p, f, s => by
    have ih := foldlM_libTestStep builds output units
    rw [List.foldlM_cons]
    by_cases hb : builds u = true
    · -- the test builds: its counts are added
      rw [List.filter_cons_of_pos hb, List.mapM_cons, List.filter_cons_of_neg (by simp [hb])]
      simp only [libTestStep, hb, ↓reduceIte]
      cases testCounts (output u) with
      | error e => rfl
      | ok pf =>
        simp only [Functor.map, Except.map, bind, Except.bind, ih]
        cases (units.filter builds).mapM fun u => testCounts (output u) <;>
          simp [pure, Except.pure, Nat.add_assoc]
    · -- the test is skipped
      rw [List.filter_cons_of_neg hb, List.filter_cons_of_pos (by simpa using hb)]
      simp only [libTestStep, hb, Bool.false_eq_true, ↓reduceIte, pure, Except.pure, bind,
        Except.bind, ih]
      cases (units.filter builds).mapM fun u => testCounts (output u) <;>
        simp [Functor.map, Except.map, Nat.add_assoc, Nat.add_comm 1]

/-- `run_lib_tests` adds up the counts of the tests that build and counts the others as skipped. -/
theorem runLibTests_eq (builds : BuildUnit → Bool) (output : BuildUnit → String)
    (units : List BuildUnit) :
    runLibTests builds output units =
      (fun cs => ((cs.map Prod.fst).sum, (cs.map Prod.snd).sum, (units.filter (!builds ·)).length)) <$>
        (units.filter builds).mapM fun u => testCounts (output u) := by
  simpa using foldlM_libTestStep builds output units 0 0 0

theorem sum_map_pos_iff {α : Type} (l : List α) (v : α → Nat) :
    0 < (l.map v).sum ↔ ∃ a ∈ l, 0 < v a := by
  simp [Nat.pos_iff_ne_zero, List.sum_eq_zero_iff]

/-! ## 5. The exit status of `run-tests.py` -/

/-- A library's run has failures exactly when a test that builds reports some: a skipped test
never adds one. -/
theorem runLibTests_failed_pos_iff {builds : BuildUnit → Bool} {output : BuildUnit → String}
    {units : List BuildUnit} {p f s : Nat} (h : runLibTests builds output units = .ok (p, f, s)) :
    0 < f ↔ ∃ u ∈ units, builds u = true ∧ ∃ pf, testCounts (output u) = .ok pf ∧ 0 < pf.2 := by
  rw [runLibTests, foldlM_libTestStep] at h
  obtain ⟨cs, hm, hcs⟩ := except_map_eq_ok.1 h
  obtain ⟨-, rfl, -⟩ := Prod.mk.inj_iff.1 hcs
  rw [Nat.zero_add, sum_map_pos_iff, exists_mem_of_mapM_eq_ok (fun pf : Nat × Nat => 0 < pf.2) hm]
  simp [and_assoc]

theorem runSummary_foldl (totals : List (Nat × Nat × Nat)) (g : Nat × Nat × Nat) :
    totals.foldl (fun g t => (g.1 + t.1, g.2.1 + t.2.1, g.2.2 + t.2.2)) g =
      (g.1 + (totals.map (·.1)).sum, g.2.1 + (totals.map (·.2.1)).sum,
        g.2.2 + (totals.map (·.2.2)).sum) := by
  induction totals generalizing g with
  | nil => simp
  | cons t totals ih => simp [ih, Nat.add_assoc]

/-- The grand totals are the sums of the libraries' totals, and the run fails exactly when some
library had a failure. -/
theorem runSummary_eq (totals : List (Nat × Nat × Nat)) :
    runSummary totals = (((totals.map (·.1)).sum, (totals.map (·.2.1)).sum,
      (totals.map (·.2.2)).sum), decide (∃ t ∈ totals, 0 < t.2.1)) := by
  simp only [runSummary, runSummary_foldl, Nat.zero_add, Prod.mk.injEq, true_and, decide_eq_decide,
    sum_map_pos_iff]

/-- The loop of `main` in `run-tests.py` over the libraries, then its summary: the grand totals, and
whether it exits with status 1. -/
def runAll (builds : String → BuildUnit → Bool) (output : String → BuildUnit → String)
    (units : String → List BuildUnit) (libs : List String) :
    Except String ((Nat × Nat × Nat) × Bool) :=
  runSummary <$> libs.mapM fun lib => runLibTests (builds lib) (output lib) (units lib)

/-- `run-tests.py` exits with status 1 exactly when some test that builds, in some library,
reports a failed test: a test that does not build never fails the run. -/
theorem runAll_fails_iff {builds : String → BuildUnit → Bool} {output : String → BuildUnit → String}
    {units : String → List BuildUnit} {libs : List String} {g : Nat × Nat × Nat} {fails : Bool}
    (h : runAll builds output units libs = .ok (g, fails)) :
    fails = true ↔ ∃ lib ∈ libs, ∃ u ∈ units lib, builds lib u = true ∧
      ∃ pf, testCounts (output lib u) = .ok pf ∧ 0 < pf.2 := by
  obtain ⟨totals, hm, hs⟩ := except_map_eq_ok.1 h
  rw [runSummary_eq, Prod.mk.inj_iff] at hs
  rw [← hs.2, decide_eq_true_iff, exists_mem_of_mapM_eq_ok (fun t : Nat × Nat × Nat => 0 < t.2.1) hm]
  refine exists_congr fun lib => and_congr_right fun hlib => ⟨?_, fun hfail => ?_⟩
  · rintro ⟨⟨p, f, s⟩, hrun, hf⟩
    exact (runLibTests_failed_pos_iff hrun).1 hf
  · -- `mapM` returned, so the run of every library did
    obtain ⟨⟨p, f, s⟩, hrun⟩ := exists_eq_ok_of_mapM_eq_ok hm lib hlib
    exact ⟨(p, f, s), hrun, (runLibTests_failed_pos_iff hrun).2 hfail⟩

/-- Two libraries, each with a test that reports a failure and one that does not build. -/
theorem runAll_fails_iff_sample :
    runAll (fun _ u => u.source == "test-a.cc")
        (fun _ _ => "[  PASSED  ] 2 tests.\n[  FAILED  ] 1 test, listed below:\n")
        (fun _ => [⟨"test-a.cc", "test-a"⟩, ⟨"test-b.cc", "test-b"⟩]) ["net", "xml"] =
        .ok ((4, 2, 2), true) ∧
      (true = true ↔ ∃ lib ∈ ["net", "xml"],
        ∃ u ∈ [(⟨"test-a.cc", "test-a"⟩ : BuildUnit), ⟨"test-b.cc", "test-b"⟩],
          (u.source == "test-a.cc") = true ∧ ∃ pf, testCounts
            "[  PASSED  ] 2 tests.\n[  FAILED  ] 1 test, listed below:\n" = .ok pf ∧ 0 < pf.2) := by
  refine ⟨?h, runAll_fails_iff ?h⟩
  rfl

end ObToolsBuild.Runner
