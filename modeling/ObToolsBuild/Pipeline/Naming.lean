import Mathlib.Data.List.Sort
import ObToolsBuild.Py.Str

/-!
# Naming — the paths the build steps write

`compile_sources` writes one object per source, named by `base.replace(".cc", ".o")`, and
`build_tests` and `run_lib_tests` write one binary per test source, named by
`base.replace(".cc", "")`.  Since `replace` removes every `.cc`, two sources can share an output
(`a.cc.cc` and `a.o.cc`).  Where `.cc` ends a name and occurs nowhere else in it, no two steps
write the same file (`buildUnit_outputs_nodup`).  The `legacy-` exclusions of the two test steps
never drop a test source, since every match of `test-*.cc` starts with `test-`
(`legacy_filter_keeps_test_sources`).
-/

namespace ObToolsBuild.Pipeline

open Py

/-! ## 1. The steps -/

/-- Whether `glob` matches a directory entry against `pre*suf`: `*` is any text, and a leading `.`
is never matched. -/
def globMatch (pre suf n : String) : Bool :=
  !startswith n "." && startswith n pre && endswith n suf && decide (pre.length + suf.length ≤ n.length)

/-- `sorted(glob.glob(os.path.join(dir, pre + "*" + suf)))` over the directory's entries.  The
directory's path is taken literally: `glob` would also expand a `*`, `?` or `[` in it, to other
directories or to none, and this model covers only a path with none of them. -/
def globPaths (dir pre suf : String) (names : List String) : List String :=
  ((names.filter (globMatch pre suf)).map fun n => pathJoin dir [n]).insertionSort
    fun a b => strLt b.data a.data = false

/-- One build step: the source it reads and the path `-o` writes. -/
structure BuildUnit where
  source : String
  output : String
  deriving DecidableEq

/-- `os.path.join(cov_dir, base.replace(".cc", ".o"))`. -/
def objPath (covDir src : String) : String := pathJoin covDir [replace (pathBasename src) ".cc" ".o"]

/-- The compile steps of `compile_sources`: every `*.cc` but `test-*` and `legacy-*`. -/
def compileUnits (libDir covDir : String) (names : List String) : List BuildUnit :=
  ((globPaths libDir "" ".cc" names).filter fun src =>
      !(startswith (pathBasename src) "test-" || startswith (pathBasename src) "legacy-")).map
    fun src => ⟨src, objPath covDir src⟩

/-- `compile_sources(lib_dir, inc_dir, cov_dir)`: `(src_files, obj_files)`, or `none` where a
compile fails and the script exits. -/
def compileSources (compiles : BuildUnit → Bool) (libDir covDir : String) (names : List String) :
    Option (List String × List String) :=
  let units := compileUnits libDir covDir names
  if units.all compiles then some (units.map (·.source), units.map (·.output)) else none

/-- `os.path.basename(test_src).replace(".cc", "")`. -/
def testName (src : String) : String := replace (pathBasename src) ".cc" ""

/-- The link step of a test source: the binary `testName src` in `binDir`. -/
def testUnit (binDir src : String) : BuildUnit := ⟨src, pathJoin binDir [testName src]⟩

/-- The link steps of `build_tests`: the `legacy-` test looks at the test name. -/
def buildTestUnits (libDir covDir : String) (names : List String) : List BuildUnit :=
  ((globPaths libDir "test-" ".cc" names).filter fun src =>
      !startswith (testName src) "legacy-").map (testUnit covDir)

/-- `build_tests`: `(binary_path, test_name)` of each test that links, or `none` where none does
and the script exits. -/
def buildTests (links : BuildUnit → Bool) (libDir covDir : String) (names : List String) :
    Option (List (String × String)) :=
  match ((buildTestUnits libDir covDir names).filter links).map
      fun u => (u.output, testName u.source) with
  | [] => none
  | bins => some bins

/-- The compile steps of `run_lib_tests(lib)` without `specific_test`: the `legacy-` test looks at
the file name, and the binaries go to `OUT_DIR/lib`. -/
def libTestUnits (libsDir outDir lib : String) (names : List String) : List BuildUnit :=
  ((globPaths (pathJoin libsDir [lib]) "test-" ".cc" names).filter fun src =>
      !startswith (pathBasename src) "legacy-").map (testUnit (pathJoin outDir [lib]))

/-! ## 2. Globbing -/

section Glob

variable {dir pre suf : String} {names : List String}

theorem mem_globPaths {src : String} :
    src ∈ globPaths dir pre suf names ↔
      ∃ n ∈ names, globMatch pre suf n = true ∧ pathJoin dir [n] = src := by
  simp [globPaths, (List.perm_insertionSort _ _).mem_iff, and_assoc]

/-- Globbing lists each entry once: an entry is recovered from its path. -/
theorem globPaths_nodup (hnd : names.Nodup) (hslash : ∀ n ∈ names, '/' ∉ n.data) :
    (globPaths dir pre suf names).Nodup := by
  refine (List.perm_insertionSort _ _).nodup_iff.2 ((hnd.filter _).map_on fun x hx y hy h => ?_)
  rw [← pathBasename_pathJoin dir x (hslash x (List.mem_of_mem_filter hx)),
    ← pathBasename_pathJoin dir y (hslash y (List.mem_of_mem_filter hy)), h]

/-- Steps that write `f (basename src)` in `binDir` for globbed sources write distinct files when
`f` tells the entries apart and never yields `/`. -/
theorem outputs_nodup (binDir : String) (keep : String → Bool) (f : String → String)
    (hnd : names.Nodup) (hslash : ∀ n ∈ names, '/' ∉ n.data)
    (hf : ∀ n ∈ names, ∀ n' ∈ names, globMatch pre suf n = true → globMatch pre suf n' = true →
      f n = f n' → n = n')
    (hfs : ∀ n ∈ names, globMatch pre suf n = true → '/' ∉ (f n).data) :
    (((globPaths dir pre suf names).filter keep).map
      fun src => pathJoin binDir [f (pathBasename src)]).Nodup := by
  refine ((globPaths_nodup hnd hslash).filter keep).map_on fun x hx y hy h => ?_
  obtain ⟨n, hn, hm, rfl⟩ := mem_globPaths.1 (List.mem_of_mem_filter hx)
  obtain ⟨n', hn', hm', rfl⟩ := mem_globPaths.1 (List.mem_of_mem_filter hy)
  rw [pathBasename_pathJoin dir n (hslash n hn), pathBasename_pathJoin dir n' (hslash n' hn')] at h
  rw [hf n hn n' hn' hm hm' (pathJoin_single_inj binDir (hfs n hn hm) (hfs n' hn' hm') h)]

end Glob

/-! ## 3. Removing the `.cc` -/

/-- `.cc` ends the name and occurs nowhere else in it. -/
def CcOnlyAtEnd (n : String) : Prop := ".cc".data <:+ n.data ∧ ¬ ".cc".data <:+: n.data.dropLast

instance : DecidablePred CcOnlyAtEnd := fun _ => inferInstanceAs (Decidable (_ ∧ _))

theorem replace_cc {n : String} (r : String) (h : CcOnlyAtEnd n) :
    ∃ t, n.data = t ++ ".cc".data ∧ replace n ".cc" r = ⟨t ++ r.data⟩ := by
  obtain ⟨⟨t, ht⟩, honly⟩ := h
  refine ⟨t, ht.symm, ?_⟩
  rw [replace, ← ht, replaceAux_append_old _ _ (by simp) t (ht ▸ honly)]

theorem replace_cc_inj {n n' : String} (r : String) (h : CcOnlyAtEnd n) (h' : CcOnlyAtEnd n')
    (heq : replace n ".cc" r = replace n' ".cc" r) : n = n' := by
  obtain ⟨t, ht, hr⟩ := replace_cc r h
  obtain ⟨t', ht', hr'⟩ := replace_cc r h'
  rw [hr, hr'] at heq
  exact String.ext (by rw [ht, ht', List.append_cancel_right (congrArg String.data heq)])

theorem slash_not_mem_replace_cc {n : String} (r : String) (h : CcOnlyAtEnd n)
    (hn : '/' ∉ n.data) (hr : '/' ∉ r.data) : '/' ∉ (replace n ".cc" r).data := by
  obtain ⟨t, ht, heq⟩ := replace_cc r h
  rw [ht, List.mem_append, not_or] at hn
  simpa [heq] using ⟨hn.1, hr⟩

/-! ## 4. No two steps write the same file -/

/-- Where `.cc` ends each matching entry and occurs nowhere else in it, the objects of
`compile_sources`, the binaries of `build_tests` and those of `run_lib_tests` each have distinct
paths. -/
theorem buildUnit_outputs_nodup (libDir covDir libsDir outDir lib : String) (names : List String)
    (hnd : names.Nodup) (hslash : ∀ n ∈ names, '/' ∉ n.data)
    (hcc : ∀ n ∈ names, endswith n ".cc" = true → CcOnlyAtEnd n) :
    ((compileUnits libDir covDir names).map (·.output)).Nodup ∧
      ((buildTestUnits libDir covDir names).map (·.output)).Nodup ∧
      ((libTestUnits libsDir outDir lib names).map (·.output)).Nodup := by
  have hend : ∀ {pre n}, globMatch pre ".cc" n = true → endswith n ".cc" = true := by
    intro pre n h
    simp only [globMatch, Bool.and_eq_true] at h
    exact h.1.2
  have hinj : ∀ (pre r : String), ∀ n ∈ names, ∀ n' ∈ names, globMatch pre ".cc" n = true →
      globMatch pre ".cc" n' = true → replace n ".cc" r = replace n' ".cc" r → n = n' :=
    fun _ r n hn n' hn' hm hm' => replace_cc_inj r (hcc n hn (hend hm)) (hcc n' hn' (hend hm'))
  have hfs : ∀ (pre r : String), '/' ∉ r.data → ∀ n ∈ names, globMatch pre ".cc" n = true →
      '/' ∉ (replace n ".cc" r).data :=
    fun _ r hr n hn hm => slash_not_mem_replace_cc r (hcc n hn (hend hm)) (hslash n hn) hr
  refine ⟨?_, ?_, ?_⟩ <;> simp only [compileUnits, buildTestUnits, libTestUnits, List.map_map]
  · exact outputs_nodup covDir _ (replace · ".cc" ".o") hnd hslash (hinj "" ".o")
      (hfs "" ".o" (by decide))
  · exact outputs_nodup covDir _ (replace · ".cc" "") hnd hslash (hinj "test-" "")
      (hfs "test-" "" (by decide))
  · exact outputs_nodup _ _ (replace · ".cc" "") hnd hslash (hinj "test-" "")
      (hfs "test-" "" (by decide))

/-- A library with two sources and a test, beside its manifest. -/
theorem buildUnit_outputs_nodup_sample :
    (["a.cc", "b.cc", "test-a.cc", "Tupfile"].Nodup ∧
      (∀ n ∈ ["a.cc", "b.cc", "test-a.cc", "Tupfile"], '/' ∉ n.data) ∧
      ∀ n ∈ ["a.cc", "b.cc", "test-a.cc", "Tupfile"], endswith n ".cc" = true → CcOnlyAtEnd n) ∧
    (((compileUnits "/l" "/c" ["a.cc", "b.cc", "test-a.cc", "Tupfile"]).map (·.output)).Nodup ∧
      ((buildTestUnits "/l" "/c" ["a.cc", "b.cc", "test-a.cc", "Tupfile"]).map (·.output)).Nodup ∧
      ((libTestUnits "/libs" "/o" "a" ["a.cc", "b.cc", "test-a.cc", "Tupfile"]).map
        (·.output)).Nodup) :=
  have h : ["a.cc", "b.cc", "test-a.cc", "Tupfile"].Nodup ∧
      (∀ n ∈ ["a.cc", "b.cc", "test-a.cc", "Tupfile"], '/' ∉ n.data) ∧
      ∀ n ∈ ["a.cc", "b.cc", "test-a.cc", "Tupfile"], endswith n ".cc" = true → CcOnlyAtEnd n := by
    decide
  ⟨h, buildUnit_outputs_nodup "/l" "/c" "/libs" "/o" "a" _ h.1 h.2.1 h.2.2⟩

/-- With a second `.cc` in a name, two sources share an object and two tests share a binary. -/
theorem buildUnit_outputs_collide :
    compileUnits "/l" "/c" ["a.cc.cc", "a.o.cc"] =
        [⟨"/l/a.cc.cc", "/c/a.o.o"⟩, ⟨"/l/a.o.cc", "/c/a.o.o"⟩] ∧
      buildTestUnits "/l" "/c" ["test-a.cc", "test-a.cc.cc"] =
        [⟨"/l/test-a.cc", "/c/test-a"⟩, ⟨"/l/test-a.cc.cc", "/c/test-a"⟩] ∧
      libTestUnits "/libs" "/o" "a" ["test-a.cc", "test-a.cc.cc"] =
        [⟨"/libs/a/test-a.cc", "/o/a/test-a"⟩, ⟨"/libs/a/test-a.cc.cc", "/o/a/test-a"⟩] := by
  decide

/-! ## 5. The `legacy-` exclusions on test sources -/

theorem startswith_test_replace_cc {n : String} (h : startswith n "test-" = true) :
    startswith (replace n ".cc" "") "test-" = true := by
  obtain ⟨r, hr⟩ := List.isPrefixOf_iff_prefix.1 h
  simp only [startswith, replace, ← hr]
  rw [replaceAux_prefix_append '.' ['c', 'c'] [] _ r (by decide)]
  exact List.isPrefixOf_iff_prefix.2 (List.prefix_append _ _)

theorem not_legacy_of_test {s : String} (h : startswith s "test-" = true) :
    startswith s "legacy-" = false := by
  obtain ⟨r, hr⟩ := List.isPrefixOf_iff_prefix.1 h
  simp only [startswith, ← hr]
  rfl

/-- The `legacy-` exclusions of `build_tests` and `run_lib_tests` drop no test source: every entry
that `test-*.cc` matches starts with `test-`, and so does its test name. -/
theorem legacy_filter_keeps_test_sources (libDir covDir libsDir outDir lib : String)
    (names : List String) (hslash : ∀ n ∈ names, '/' ∉ n.data) :
    buildTestUnits libDir covDir names =
        (globPaths libDir "test-" ".cc" names).map (testUnit covDir) ∧
      libTestUnits libsDir outDir lib names =
        (globPaths (pathJoin libsDir [lib]) "test-" ".cc" names).map
          (testUnit (pathJoin outDir [lib])) := by
  have htest : ∀ {dir src : String}, src ∈ globPaths dir "test-" ".cc" names →
      startswith (pathBasename src) "test-" = true := by
    intro dir src hsrc
    obtain ⟨n, hn, hm, rfl⟩ := mem_globPaths.1 hsrc
    rw [pathBasename_pathJoin dir n (hslash n hn)]
    simp only [globMatch, Bool.and_eq_true] at hm
    exact hm.1.1.2
  constructor
  · rw [buildTestUnits, List.filter_eq_self.2 fun src hsrc => by
      simp [testName, not_legacy_of_test (startswith_test_replace_cc (htest hsrc))]]
  · rw [libTestUnits, List.filter_eq_self.2 fun src hsrc => by
      simp [not_legacy_of_test (htest hsrc)]]

/-- A directory with a test, a legacy test and a source. -/
theorem legacy_filter_keeps_test_sources_sample :
    (∀ n ∈ ["test-a.cc", "legacy-b.cc", "c.cc"], '/' ∉ n.data) ∧
      (buildTestUnits "/l" "/c" ["test-a.cc", "legacy-b.cc", "c.cc"] =
          (globPaths "/l" "test-" ".cc" ["test-a.cc", "legacy-b.cc", "c.cc"]).map (testUnit "/c") ∧
        libTestUnits "/libs" "/o" "a" ["test-a.cc", "legacy-b.cc", "c.cc"] =
          (globPaths (pathJoin "/libs" ["a"]) "test-" ".cc" ["test-a.cc", "legacy-b.cc", "c.cc"]).map
            (testUnit (pathJoin "/o" ["a"]))) :=
  have h : ∀ n ∈ ["test-a.cc", "legacy-b.cc", "c.cc"], '/' ∉ n.data := by decide
  ⟨h, legacy_filter_keeps_test_sources "/l" "/c" "/libs" "/o" "a" _ h⟩

end ObToolsBuild.Pipeline
