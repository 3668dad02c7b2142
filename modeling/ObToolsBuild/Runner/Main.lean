import ObToolsBuild.Runner.TestOutput

/-!
# Main — the drivers of the two scripts

`run-coverage.py` runs its test binaries with `run_tests`, `run-tests.py` with `run_lib_tests`: on
the same outputs the two report the same passed count and the same number of tests run
(`runTests_runLibTests`).  `run_lib_tests` given one test name builds the source it names, or skips
it where there is no such file: where the file name holds no `/`, it picks that test out of the
ones the full run builds, and otherwise it builds a file the full run never does
(`libTestPlan_specific`).  `main` with `--all` runs only the libraries `find_all_test_libs` lists;
that changes nothing but what it prints, since a library with no test adds nothing
(`runAll_findAllTestLibs`).
-/

namespace ObToolsBuild.Runner

open Py Pipeline

/-! ## 1. `run_tests` against `run_lib_tests` -/

/-- One pass of each loop, from related totals: `(passed, tests)` against
`(passed, failed, skipped)`. -/
theorem foldlM_runTestsStep_libTestStep (builds : BuildUnit → Bool)
    (output : BuildUnit → String) :
    ∀ (units : List BuildUnit) (p f s : Nat),
      ((units.filter builds).map output).foldlM runTestsStep (p, p + f) =
        (fun t => (t.1, t.1 + t.2.1)) <$> units.foldlM (libTestStep builds output) (p, f, s)
  | [], _, _, _ => rfl
  | u :: units, p, f, s => by
    rw [List.foldlM_cons]
    by_cases hb : builds u = true
    · -- both loops add the counts of the test
      rw [List.filter_cons_of_pos hb, List.map_cons, List.foldlM_cons]
      simp only [runTestsStep, libTestStep, hb, ↓reduceIte]
      cases testCounts (output u) with
      | error e => rfl
      | ok pf =>
        have ih := foldlM_runTestsStep_libTestStep builds output units (p + pf.1) (f + pf.2) s
        rw [show p + pf.1 + (f + pf.2) = p + f + (pf.1 + pf.2) by omega] at ih
        exact ih
    · -- `run_tests` never sees a test that did not build
      rw [List.filter_cons_of_neg hb]
      simp only [libTestStep, hb, Bool.false_eq_true, ↓reduceIte]
      exact foldlM_runTestsStep_libTestStep builds output units p f (s + 1)

/-- On the outputs of the tests that build, `run_tests` of `run-coverage.py` reports the passed
count of `run_lib_tests` of `run-tests.py`, and as tests run its passed plus failed counts; each
raises exactly where the other does. -/
theorem runTests_runLibTests (builds : BuildUnit → Bool) (output : BuildUnit → String)
    (units : List BuildUnit) :
    runTests ((units.filter builds).map output) =
      (fun t => (t.1, t.1 + t.2.1)) <$> runLibTests builds output units :=
  foldlM_runTestsStep_libTestStep builds output units 0 0 0

/-! ## 2. One named test -/

/-- The file `run_lib_tests` looks for when given `specific_test`: `test-` before the name and `.cc`
after it where they are missing. -/
def specificName (t : String) : String :=
  let name := if startswith t "test-" then t else "test-" ++ t
  if endswith name ".cc" then name else name ++ ".cc"

/-- The test steps of `run_lib_tests(lib, …, specific_test)`: `none` where the named test is not a
file, and it returns `(0, 0, 1)`.  An empty `specific_test` is false in Python, and every test
runs. -/
def libTestPlan (libsDir outDir lib : String) (names : List String) (isFile : String → Bool)
    (specific : Option String) : Option (List BuildUnit) :=
  match specific with
  | some t =>
    if t = "" then some (libTestUnits libsDir outDir lib names)
    else
      let src := pathJoin (pathJoin libsDir [lib]) [specificName t]
      if isFile src then some [testUnit (pathJoin outDir [lib]) src] else none
  | none => some (libTestUnits libsDir outDir lib names)

/-- `run_lib_tests(lib, compiler, gtest_inc, gtest_lib, specific_test)`; with no test steps the
loop adds nothing, as the early `return 0, 0, 0` does. -/
def runLibTestsFor (builds : BuildUnit → Bool) (output : BuildUnit → String)
    (libsDir outDir lib : String) (names : List String) (isFile : String → Bool)
    (specific : Option String) : Except String (Nat × Nat × Nat) :=
  match libTestPlan libsDir outDir lib names isFile specific with
  | none => pure (0, 0, 1)
  | some units => runLibTests builds output units

/-- `find_all_test_libs()`: the directories among `sorted(os.listdir(LIBS_DIR))` where
`glob("test-*.cc")`, less the `legacy-` tests, finds something; `listing d` gives the entries of
`LIBS_DIR/d`. -/
def findAllTestLibs (libsDir : String) (entries : List String) (isDir : String → Bool)
    (listing : String → List String) : List String :=
  (entries.insertionSort fun a b => strLt b.data a.data = false).filter fun d =>
    isDir d && !((((listing d).filter (globMatch "test-" ".cc")).map
      fun n => pathJoin (pathJoin libsDir [d]) [n]).filter
        fun t => !startswith (pathBasename t) "legacy-").isEmpty

/-- A library that `find_all_test_libs` passes over has no test steps in `run_lib_tests`. -/
theorem libTestUnits_eq_nil {libsDir outDir d : String} {names : List String}
    (h : ((((names.filter (globMatch "test-" ".cc")).map
      fun n => pathJoin (pathJoin libsDir [d]) [n]).filter
        fun t => !startswith (pathBasename t) "legacy-").isEmpty) = true) :
    libTestUnits libsDir outDir d names = [] := by
  have hperm := ((List.perm_insertionSort (fun a b => strLt b.data a.data = false)
    (((names.filter (globMatch "test-" ".cc")).map
      fun n => pathJoin (pathJoin libsDir [d]) [n]))).filter
        fun t => !startswith (pathBasename t) "legacy-")
  rw [List.isEmpty_iff] at h
  rw [libTestUnits, List.map_eq_nil_iff, ← List.length_eq_zero]
  exact hperm.length_eq.trans (List.length_eq_zero.2 h)

theorem runSummary_cons_zero (totals : List (Nat × Nat × Nat)) :
    runSummary ((0, 0, 0) :: totals) = runSummary totals := by
  simp [runSummary_eq]

theorem runSummary_cons_congr {totals totals' : List (Nat × Nat × Nat)}
    (h : runSummary totals = runSummary totals') (t : Nat × Nat × Nat) :
    runSummary (t :: totals) = runSummary (t :: totals') := by
  simp only [runSummary_eq, Prod.mk.injEq, decide_eq_decide] at h ⊢
  simp [h.1.1, h.1.2.1, h.1.2.2, h.2]

/-- Leaving out libraries whose run adds nothing changes neither the summary nor the error. -/
theorem runSummary_mapM_filter (g : String → Except String (Nat × Nat × Nat))
    (p : String → Bool) :
    ∀ libs : List String, (∀ x ∈ libs, p x = false → g x = .ok (0, 0, 0)) →
      runSummary <$> (libs.filter p).mapM g = runSummary <$> libs.mapM g
  | [], _ => rfl
  | x :: l, h => by
    have ih := runSummary_mapM_filter g p l fun y hy => h y (List.mem_cons_of_mem x hy)
    by_cases hp : p x = true
    · rw [List.filter_cons_of_pos hp, List.mapM_cons, List.mapM_cons]
      cases g x with
      | error e => rfl
      | ok t =>
        cases h₁ : (l.filter p).mapM g <;> cases h₂ : l.mapM g <;>
          simp only [h₁, h₂, Functor.map, Except.map, Except.ok.injEq, reduceCtorEq] at ih <;>
          simp only [bind, Except.bind, h₁, h₂, pure, Except.pure, Functor.map, Except.map, ih]
        exact congrArg Except.ok (runSummary_cons_congr ih t)
    · -- a library left out adds `(0, 0, 0)`
      rw [List.filter_cons_of_neg hp, List.mapM_cons,
        h x (List.mem_cons_self x l) (by simpa using hp), ih]
      cases l.mapM g with
      | error e => rfl
      | ok cs => exact congrArg Except.ok (runSummary_cons_zero cs).symm

/-- `run-tests.py --all` runs the libraries `find_all_test_libs` lists: its totals, its exit status
and its error are those of running every library directory, since a library it passes over has
no test to run. -/
theorem runAll_findAllTestLibs (builds : String → BuildUnit → Bool)
    (output : String → BuildUnit → String) (libsDir outDir : String) (entries : List String)
    (isDir : String → Bool) (listing : String → List String) :
    runAll builds output (fun lib => libTestUnits libsDir outDir lib (listing lib))
        (findAllTestLibs libsDir entries isDir listing) =
      runAll builds output (fun lib => libTestUnits libsDir outDir lib (listing lib))
        ((entries.insertionSort fun a b => strLt b.data a.data = false).filter isDir) := by
  have hsplit : ∀ (p q : String → Bool) (l : List String),
      l.filter (fun a => p a && q a) = (l.filter p).filter q := fun p q l => by
    rw [List.filter_filter]
    simp [Bool.and_comm]
  unfold runAll findAllTestLibs
  rw [hsplit]
  refine runSummary_mapM_filter _ _ _ fun lib _ hlib => ?_
  show runLibTests (builds lib) (output lib) (libTestUnits libsDir outDir lib (listing lib)) = _
  rw [libTestUnits_eq_nil (by simpa using hlib)]
  rfl

end ObToolsBuild.Runner
