import Mathlib.Algebra.Order.BigOperators.Group.List
import Mathlib.Algebra.Order.Ring.Nat
import ObToolsBuild.Gcov.Parse
import ObToolsBuild.Pipeline.Naming
import ObToolsBuild.Py.Loop

/-!
# Report — `run_gcov` and `report_coverage`

`run_gcov` runs `gcov` on every compiled source, then reads each listing `base.gcov` back from the
working directory into a `dict` keyed by the source's basename, with `None` where there is no
listing; `parse_gcov_file` raising stops it at that source (`runGcov_eq`).  `report_coverage` walks
the sources again and looks each one up by its basename.  The sources of `compile_sources` come
from one directory, so their basenames differ and no entry of the `dict` overwrites another: each
row of the report is its own source's listing, and the totals add up the rows
(`reportCoverage_runGcov`).
-/

namespace ObToolsBuild.Gcov

open Py Pipeline

/-! ## 1. The `dict` -/

section Dict

variable {α : Type}

/-- `d[k] = v` on a Python `dict`: a key already there keeps its place. -/
def dictSet (d : List (String × α)) (k : String) (v : α) : List (String × α) :=
  if d.any (·.1 == k) then d.map fun e => if e.1 = k then (k, v) else e else d ++ [(k, v)]

/-- `d.get(k)`: `none` where `k` is not a key. -/
def dictGet (d : List (String × α)) (k : String) : Option α := (d.find? (·.1 == k)).map (·.2)

theorem dictGet_dictSet_self (d : List (String × α)) (k : String) (v : α) :
    dictGet (dictSet d k v) k = some v := by
  unfold dictSet dictGet
  split_ifs with h
  · obtain ⟨e, he⟩ := Option.isSome_iff_exists.1 (List.find?_isSome.2 (List.any_eq_true.1 h))
    rw [List.find?_map]
    have hp : ((fun x : String × α => x.1 == k) ∘ fun e => if e.1 = k then (k, v) else e) =
        fun x => x.1 == k := by
      funext x
      by_cases hx : x.1 = k <;> simp [hx]
    have hek : e.1 = k := by simpa using List.find?_some he
    simp [hp, he, hek]
  · have hn : d.find? (·.1 == k) = none :=
      List.find?_eq_none.2 fun e he he' => h (List.any_eq_true.2 ⟨e, he, he'⟩)
    simp [List.find?_append, hn]

theorem dictGet_dictSet_of_ne (d : List (String × α)) {k k' : String} (v : α) (hk : k' ≠ k) :
    dictGet (dictSet d k v) k' = dictGet d k' := by
  unfold dictSet dictGet
  split_ifs
  · rw [List.find?_map]
    have hp : ((fun x : String × α => x.1 == k') ∘ fun e => if e.1 = k then (k, v) else e) =
        fun x => x.1 == k' := by
      funext x
      by_cases hx : x.1 = k <;> simp [hx, Ne.symm hk]
    rw [hp]
    cases he : d.find? (·.1 == k') with
    | none => rfl
    | some e =>
      have hek : e.1 = k' := by simpa using List.find?_some he
      simp [hek, hk]
  · cases he : d.find? (·.1 == k') <;> simp [List.find?_append, he, Ne.symm hk]

end Dict

/-! ## 2. `run_gcov` -/

/-- `(hit, miss, uncovered)`, what `parse_gcov_file` returns. -/
abbrev Coverage := Nat × Nat × List (String × String)

/-- The listing `gcov` writes for `src`, in the working directory: `basename + ".gcov"`. -/
def gcovName (src : String) : String := pathBasename src ++ ".gcov"

/-- The second loop of `run_gcov` on one source; `listing` gives the lines of each file that the
first loop's `gcov` runs leave in the working directory. -/
def runGcovStep (listing : String → Option (List String)) (results : List (String × Option Coverage))
    (src : String) : Except String (List (String × Option Coverage)) :=
  match listing (gcovName src) with
  | some lines => (fun r => dictSet results (pathBasename src) (some r)) <$> parseGcovFile lines
  | none => pure (dictSet results (pathBasename src) none)

/-- `run_gcov(src_files, cov_dir)`: the `results` dict. -/
def runGcov (listing : String → Option (List String)) (srcs : List String) :
    Except String (List (String × Option Coverage)) :=
  srcs.foldlM (runGcovStep listing) []

/-- What `run_gcov` records for `src` where it does not raise. -/
def coverageOf (listing : String → Option (List String)) (src : String) : Option Coverage :=
  (listing (gcovName src)).bind fun lines => (parseGcovFile lines).toOption

/-- The error `parse_gcov_file` raises on `src`'s listing, if it raises. -/
def gcovErrorOf (listing : String → Option (List String)) (src : String) : Option String :=
  (listing (gcovName src)).bind fun lines =>
    match parseGcovFile lines with
    | .error e => some e
    | .ok _ => none

/-- The `dict` once the sources `pre` are read. -/
def resultsOf (listing : String → Option (List String)) (pre : List String) :
    List (String × Option Coverage) :=
  pre.foldl (fun d src => dictSet d (pathBasename src) (coverageOf listing src)) []

theorem runGcovStep_resultsOf (listing : String → Option (List String)) (pre : List String)
    (src : String) : runGcovStep listing (resultsOf listing pre) src =
      (gcovErrorOf listing src).elim (.ok (resultsOf listing (pre ++ [src]))) .error := by
  simp only [runGcovStep, gcovErrorOf, coverageOf, resultsOf, List.foldl_append, List.foldl_cons,
    List.foldl_nil]
  cases listing (gcovName src) with
  | none => rfl
  | some lines =>
    simp only [Option.some_bind]
    cases parseGcovFile lines <;> rfl

/-- `run_gcov` raises at the first source whose listing `parse_gcov_file` rejects, and otherwise
records every source's listing. -/
theorem runGcov_eq (listing : String → Option (List String)) (srcs : List String) :
    runGcov listing srcs =
      (srcs.findSome? (gcovErrorOf listing)).elim (.ok (resultsOf listing srcs)) .error := by
  simpa using foldlM_except_prefix (resultsOf listing) (gcovErrorOf listing)
    (runGcovStep_resultsOf listing) srcs []

/-- A key that no source of `l` has keeps its entry. -/
theorem dictGet_foldl_of_not_mem (listing : String → Option (List String)) (k : String) :
    ∀ (l : List String) (d : List (String × Option Coverage)), k ∉ l.map pathBasename →
      dictGet (l.foldl (fun d src => dictSet d (pathBasename src) (coverageOf listing src)) d) k =
        dictGet d k
  | [], _, _ => rfl
  | src :: l, d, hk => by
    simp only [List.map_cons, List.mem_cons, not_or] at hk
    rw [List.foldl_cons, dictGet_foldl_of_not_mem listing k l _ hk.2,
      dictGet_dictSet_of_ne _ _ hk.1]

/-- Where the sources' basenames differ, each source finds its own listing in the `dict`. -/
theorem dictGet_resultsOf (listing : String → Option (List String)) {srcs : List String}
    (hnd : (srcs.map pathBasename).Nodup) {src : String} (hsrc : src ∈ srcs) :
    dictGet (resultsOf listing srcs) (pathBasename src) = some (coverageOf listing src) := by
  unfold resultsOf
  generalize ([] : List (String × Option Coverage)) = d
  induction srcs generalizing d with
  | nil => simp at hsrc
  | cons s srcs ih =>
    rw [List.map_cons, List.nodup_cons] at hnd
    rw [List.foldl_cons]
    rcases List.mem_cons.1 hsrc with rfl | hsrc
    · rw [dictGet_foldl_of_not_mem listing _ srcs _ hnd.1, dictGet_dictSet_self]
    · exact ih hnd.2 hsrc _

/-! ## 3. `report_coverage` -/

/-- What a source's row shows: `(hit, total)`, or no data where `cov_results.get(base)` is
`None`. -/
def rowData (results : List (String × Option Coverage)) (src : String) : Option (Nat × Nat) :=
  match dictGet results (pathBasename src) with
  | some (some (hit, miss, _)) => some (hit, hit + miss)
  | _ => none

/-- `report_coverage(lib_name, src_files, cov_results)`: the rows it prints, by basename, and
`(grand_hit, grand_total)`. -/
def reportCoverage (srcs : List String) (results : List (String × Option Coverage)) :
    List (String × Option (Nat × Nat)) × Nat × Nat :=
  srcs.foldl (fun acc src =>
      match rowData results src with
      | some (hit, total) => (acc.1 ++ [(pathBasename src, some (hit, total))], acc.2.1 + hit,
          acc.2.2 + total)
      | none => (acc.1 ++ [(pathBasename src, none)], acc.2.1, acc.2.2)) ([], 0, 0)

theorem reportCoverage_foldl (results : List (String × Option Coverage)) :
    ∀ (srcs : List String) (rows : List (String × Option (Nat × Nat))) (h t : Nat),
      srcs.foldl (fun acc src =>
          match rowData results src with
          | some (hit, total) => (acc.1 ++ [(pathBasename src, some (hit, total))], acc.2.1 + hit,
              acc.2.2 + total)
          | none => (acc.1 ++ [(pathBasename src, none)], acc.2.1, acc.2.2)) (rows, h, t) =
        (rows ++ srcs.map (fun src => (pathBasename src, rowData results src)),
          h + (srcs.map fun src => ((rowData results src).map (·.1)).getD 0).sum,
          t + (srcs.map fun src => ((rowData results src).map (·.2)).getD 0).sum)
  | [], _, _, _ => by simp
  | src :: srcs, rows, h, t => by
    rw [List.foldl_cons]
    cases hr : rowData results src <;>
    · simp only [hr]
      rw [reportCoverage_foldl results srcs]
      simp [hr, Nat.add_assoc]

/-- The sources of `compile_sources` have distinct basenames. -/
theorem compileSources_basenames_nodup {compiles : BuildUnit → Bool} {libDir covDir : String}
    {names srcs objs : List String} (hnd : names.Nodup) (hslash : ∀ n ∈ names, '/' ∉ n.data)
    (hc : compileSources compiles libDir covDir names = some (srcs, objs)) :
    (srcs.map pathBasename).Nodup := by
  unfold compileSources at hc
  dsimp only at hc
  split_ifs at hc
  obtain ⟨rfl, -⟩ := Prod.mk.inj_iff.1 (Option.some.inj hc)
  simp only [compileUnits, List.map_map, Function.comp_def, List.map_id']
  refine ((globPaths_nodup hnd hslash).filter _).map_on fun x hx y hy h => ?_
  obtain ⟨n, hn, -, rfl⟩ := mem_globPaths.1 (List.mem_of_mem_filter hx)
  obtain ⟨n', hn', -, rfl⟩ := mem_globPaths.1 (List.mem_of_mem_filter hy)
  rw [pathBasename_pathJoin libDir n (hslash n hn),
    pathBasename_pathJoin libDir n' (hslash n' hn')] at h
  rw [h]

/-- `report_coverage(src_files, run_gcov(src_files))` after `compile_sources`: it raises at the
first source whose listing `parse_gcov_file` rejects; otherwise each source's row is its own
listing's `(hit, hit + miss)`, or no data where `gcov` left none, and the totals add up the rows. -/
theorem reportCoverage_runGcov (compiles : BuildUnit → Bool) (libDir covDir : String)
    (names srcs objs : List String) (listing : String → Option (List String))
    (hnd : names.Nodup) (hslash : ∀ n ∈ names, '/' ∉ n.data)
    (hc : compileSources compiles libDir covDir names = some (srcs, objs)) :
    reportCoverage srcs <$> runGcov listing srcs =
      (srcs.findSome? (gcovErrorOf listing)).elim
        (.ok (srcs.map (fun src => (pathBasename src,
            (coverageOf listing src).map fun c => (c.1, c.1 + c.2.1))),
          (srcs.map fun src => ((coverageOf listing src).map (·.1)).getD 0).sum,
          (srcs.map fun src => ((coverageOf listing src).map fun c => c.1 + c.2.1).getD 0).sum))
        .error := by
  have hrow : ∀ src ∈ srcs, rowData (resultsOf listing srcs) src =
      (coverageOf listing src).map fun c => (c.1, c.1 + c.2.1) := by
    intro src hsrc
    unfold rowData
    rw [dictGet_resultsOf listing (compileSources_basenames_nodup hnd hslash hc) hsrc]
    rcases coverageOf listing src with _ | ⟨hit, miss, u⟩ <;> rfl
  rw [runGcov_eq]
  cases srcs.findSome? (gcovErrorOf listing) with
  | some e => rfl
  | none =>
    show Except.ok (reportCoverage srcs (resultsOf listing srcs)) = Except.ok _
    rw [reportCoverage, reportCoverage_foldl, List.nil_append, Nat.zero_add, Nat.zero_add]
    congr 1
    refine Prod.ext (List.map_congr_left fun src hsrc => by rw [hrow src hsrc])
      (Prod.ext (congrArg List.sum (List.map_congr_left fun src hsrc => ?_))
        (congrArg List.sum (List.map_congr_left fun src hsrc => ?_))) <;>
    · rw [hrow src hsrc]
      cases coverageOf listing src <;> rfl

/-- Two sources and a test, where `gcov` left a listing for one source only. -/
theorem reportCoverage_runGcov_sample :
    ["a.cc", "b.cc", "test-a.cc"].Nodup ∧ (∀ n ∈ ["a.cc", "b.cc", "test-a.cc"], '/' ∉ n.data) ∧
    compileSources (fun _ => true) "/l" "/c" ["a.cc", "b.cc", "test-a.cc"] =
      some (["/l/a.cc", "/l/b.cc"], ["/c/a.o", "/c/b.o"]) ∧
    reportCoverage ["/l/a.cc", "/l/b.cc"] <$>
        runGcov (fun n => if n = "a.cc.gcov" then some ["        1:    1:int x;\n"] else none)
          ["/l/a.cc", "/l/b.cc"] =
      (["/l/a.cc", "/l/b.cc"].findSome? (gcovErrorOf
          fun n => if n = "a.cc.gcov" then some ["        1:    1:int x;\n"] else none)).elim
        (.ok (["/l/a.cc", "/l/b.cc"].map (fun src => (pathBasename src,
            (coverageOf (fun n => if n = "a.cc.gcov" then some ["        1:    1:int x;\n"] else none)
              src).map fun c => (c.1, c.1 + c.2.1))),
          (["/l/a.cc", "/l/b.cc"].map fun src => ((coverageOf
            (fun n => if n = "a.cc.gcov" then some ["        1:    1:int x;\n"] else none)
              src).map (·.1)).getD 0).sum,
          (["/l/a.cc", "/l/b.cc"].map fun src => ((coverageOf
            (fun n => if n = "a.cc.gcov" then some ["        1:    1:int x;\n"] else none)
              src).map fun c => c.1 + c.2.1).getD 0).sum))
        .error := by
  have hnd : ["a.cc", "b.cc", "test-a.cc"].Nodup := by decide
  have hslash : ∀ n ∈ ["a.cc", "b.cc", "test-a.cc"], '/' ∉ n.data := by decide
  have hc : compileSources (fun _ => true) "/l" "/c" ["a.cc", "b.cc", "test-a.cc"] =
      some (["/l/a.cc", "/l/b.cc"], ["/c/a.o", "/c/b.o"]) := by decide
  exact ⟨hnd, hslash, hc, reportCoverage_runGcov _ _ _ _ _ _ _ hnd hslash hc⟩

end ObToolsBuild.Gcov
