import Mathlib.Data.Nat.Defs
import ObToolsBuild.Gcov.Parse

/-!
# Classify — the streaming loop against a declarative classification

`gcovClassify` says, line by line and without any state, what `parse_gcov_file` tallies: the
exclusion flag becomes `InRegion`, a property of the counted lines up to the current one.  The loop
computes exactly this classification whenever it returns (`parseGcovFile_eq_classify`), and it
returns unless some counted line's count passes `isdigit()` but not `int()`: then it raises at the
first such line (`parseGcovFile_eq`).
-/

namespace ObToolsBuild.Gcov

open Py

/-! ## 1. The classification -/

/-- `GCOV_EXCL_STOP` in the source: the line closes a region and is tallied as nothing. -/
def GcovLine.isStop (l : GcovLine) : Bool := contains l.code "GCOV_EXCL_STOP"

/-- `GCOV_EXCL_START` without `GCOV_EXCL_STOP`: the line opens a region. -/
def GcovLine.opens (l : GcovLine) : Bool := contains l.code "GCOV_EXCL_START" && !l.isStop

/-- The count, with `*` removed, is a digit string of positive value. -/
def GcovLine.positiveCount (l : GcovLine) : Bool :=
  isdigit (replace l.count "*" "") && (intOfDigits? (replace l.count "*" "")).any (0 < ·)

/-- A hit: not a stop line, a count other than `-`, `` and `#####`, of positive value. -/
def GcovLine.isHit (l : GcovLine) : Bool :=
  !l.isStop && !(l.count = "-" || l.count = "" || l.count = "#####") && l.positiveCount

/-- A miss unless it lies in a region: `#####`, not a stop line, no `GCOV_EXCL_LINE`. -/
def GcovLine.neverRun (l : GcovLine) : Bool :=
  !l.isStop && l.count = "#####" && !contains l.code "GCOV_EXCL_LINE"

/-- `int()` raises on the line: its count passes the `isdigit` guard but has a digit with no
decimal value, or more digits than `int()` accepts. -/
def GcovLine.raises (l : GcovLine) : Bool :=
  !l.isStop && !(l.count = "-" || l.count = "" || l.count = "#####") &&
    isdigit (replace l.count "*" "") && (intOfDigits? (replace l.count "*" "")).isNone

/-- How a miss is listed among the uncovered lines, if its text is neither empty nor a
comment. -/
def GcovLine.report? (l : GcovLine) : Option (String × String) :=
  if strip l.code ≠ "" ∧ startswith (strip l.code) "//" = false then some (l.lineno, strip l.code)
  else none

theorem GcovLine.append_report? (u : List (String × String)) (l : GcovLine) :
    u ++ l.report?.toList = if strip l.code ≠ "" ∧ startswith (strip l.code) "//" = false
      then u ++ [(l.lineno, strip l.code)] else u := by
  unfold GcovLine.report?
  split_ifs <;> simp

/-- The lines with at least two `:`, the only ones the loop looks at. -/
def countedLines (lines : List String) : List GcovLine := lines.filterMap gcovFields

/-- Counted line `i` lies in a region: some counted line `j ≤ i` opens one, and no counted line
`k` with `j < k ≤ i` is a stop line. -/
def InRegion (ls : List GcovLine) (i : Nat) : Prop :=
  ∃ j ≤ i, ls[j]?.any GcovLine.opens = true ∧
    ∀ k, j + 1 ≤ k → k ≤ i → ls[k]?.all (fun l => !l.isStop) = true

instance (ls : List GcovLine) (i : Nat) : Decidable (InRegion ls i) :=
  inferInstanceAs (Decidable (∃ j, j ≤ i ∧ _))

/-- The misses, with their positions among the counted lines. -/
def missLines (ls : List GcovLine) : List (Nat × GcovLine) :=
  ls.enum.filter fun p => p.2.neverRun && !decide (InRegion ls p.1)

/-- What `parse_gcov_file` should return: the hits, the misses, and the misses worth listing, in
file order. -/
def gcovClassify (lines : List String) : Nat × Nat × List (String × String) :=
  let ls := countedLines lines
  (ls.countP GcovLine.isHit, (missLines ls).length, (missLines ls).filterMap fun p => p.2.report?)

/-! ## 2. Extending the counted lines by one -/

theorem inRegion_congr {ls ls' : List GcovLine} {i : Nat} (h : ∀ k ≤ i, ls[k]? = ls'[k]?) :
    InRegion ls i ↔ InRegion ls' i :=
  exists_congr fun j => and_congr_right fun hj => and_congr (by rw [h j hj])
    (forall_congr' fun k => imp_congr_right fun _ => forall_congr' fun hk => by rw [h k hk])

theorem inRegion_append_of_lt {ls : List GcovLine} {x : GcovLine} {i : Nat}
    (hi : i < ls.length) : InRegion (ls ++ [x]) i ↔ InRegion ls i :=
  inRegion_congr fun k hk => List.getElem?_append_left (by omega)

/-- The flag after a new last line: cleared by a stop line, else set by a start or kept. -/
theorem inRegion_append_last (ls : List GcovLine) (x : GcovLine) :
    InRegion (ls ++ [x]) ls.length ↔
      x.isStop = false ∧ (contains x.code "GCOV_EXCL_START" = true ∨ InRegion ls (ls.length - 1)) := by
  have hlast : (ls ++ [x])[ls.length]? = some x := by simp
  have hpre : ∀ k, k < ls.length → (ls ++ [x])[k]? = ls[k]? :=
    fun k hk => List.getElem?_append_left hk
  constructor
  · rintro ⟨j, hj, hopen, hstop⟩
    rcases Nat.lt_or_ge j ls.length with hj' | hj'
    · -- the region opens before the new line, which does not close it
      refine ⟨by simpa [hlast] using hstop ls.length (by omega) le_rfl,
        .inr ⟨j, by omega, by rwa [← hpre j hj'], fun k hk hk' => ?_⟩⟩
      rw [← hpre k (by omega)]
      exact hstop k hk (by omega)
    · -- the new line opens it
      obtain rfl : j = ls.length := by omega
      simp_all [GcovLine.opens]
  · rintro ⟨hx, hs | ⟨j, hj, hopen, hstop⟩⟩
    · exact ⟨ls.length, le_rfl, by simp [hlast, GcovLine.opens, hs, hx], fun k hk hk' => by omega⟩
    · have hj' : j < ls.length := by
        by_contra h
        simp [List.getElem?_eq_none (by omega : ls.length ≤ j)] at hopen
      refine ⟨j, by omega, by rwa [hpre j hj'], fun k hk hk' => ?_⟩
      rcases Nat.lt_or_ge k ls.length with hk'' | hk''
      · rw [hpre k hk'']
        exact hstop k hk (by omega)
      · obtain rfl : k = ls.length := by omega
        simp [hlast, hx]

theorem missLines_append (ls : List GcovLine) (x : GcovLine) :
    missLines (ls ++ [x]) = missLines ls ++
      if x.neverRun && !decide (InRegion (ls ++ [x]) ls.length) then [(ls.length, x)] else [] := by
  unfold missLines
  rw [List.enum_append, List.filter_append, List.enumFrom_singleton]
  congr 1
  · refine List.filter_congr fun p hp => ?_
    simp only [inRegion_append_of_lt (List.fst_lt_of_mem_enum hp)]
  · by_cases h : x.neverRun && !decide (InRegion (ls ++ [x]) ls.length) <;> simp [h]

/-! ## 3. The loop computes the classification -/

/-- The loop's variables once the counted lines `ls` are processed. -/
def tallyOf (ls : List GcovLine) : GcovTally :=
  ⟨ls.countP GcovLine.isHit, (missLines ls).length, (missLines ls).filterMap (·.2.report?),
    decide (InRegion ls (ls.length - 1))⟩

/-- One pass of the body on a counted line, field by field. -/
theorem lineStep_eq (t : GcovTally) (l : GcovLine) :
    let flag := t.inExclBlock || contains l.code "GCOV_EXCL_START"
    let miss := l.neverRun && !flag
    lineStep t l = if l.raises then .error (replace l.count "*" "") else
      .ok ⟨t.hit + l.isHit.toNat, t.miss + miss.toNat,
        t.uncovered ++ (if miss then l.report?.toList else []), !l.isStop && flag⟩ := by
  intro flag miss
  simp only [lineStep, miss, flag, GcovLine.raises, GcovLine.isHit, GcovLine.neverRun,
    GcovLine.positiveCount, GcovLine.isStop, pure, Except.pure]
  by_cases hP : contains l.code "GCOV_EXCL_STOP" = true
  · -- a stop line closes the region and is tallied as nothing
    simp [hP]
  by_cases hc : l.count = "-" ∨ l.count = ""
  · -- not executable
    rcases hc with hc | hc <;> simp [hP, hc]
  obtain ⟨hc1, hc2⟩ := not_or.1 hc
  by_cases hh : l.count = "#####"
  · -- never executed: a miss unless excluded
    by_cases hx : (t.inExclBlock || contains l.code "GCOV_EXCL_START" ||
      contains l.code "GCOV_EXCL_LINE") = true
    · simp only [Bool.or_eq_true] at hx
      rcases hx with (hx | hx) | hx <;> simp [hP, hh, hx]
    · simp only [Bool.or_eq_true, not_or] at hx
      simp [hP, hh, hx, GcovLine.append_report?]
  by_cases hd : isdigit (replace l.count "*" "") = true
  · cases hn : intOfDigits? (replace l.count "*" "") with
    | none => simp [hP, hc1, hc2, hh, hd, hn, throw, throwThe, MonadExceptOf.throw]
    | some n => by_cases hpos : n > 0 <;> simp [hP, hc1, hc2, hh, hd, hn, hpos]
  · simp [hP, hc1, hc2, hh, hd]

/-- One pass of the body from the variables of `ls`: it raises, or moves to those of
`ls ++ [x]`. -/
theorem lineStep_tallyOf (ls : List GcovLine) (x : GcovLine) :
    lineStep (tallyOf ls) x =
      if x.raises then .error (replace x.count "*" "") else .ok (tallyOf (ls ++ [x])) := by
  have hflag : decide (InRegion (ls ++ [x]) ls.length) =
      (!x.isStop && (decide (InRegion ls (ls.length - 1)) || contains x.code "GCOV_EXCL_START")) := by
    rw [Bool.eq_iff_iff]
    simp [inRegion_append_last, or_comm]
  have hnever : x.isStop = true → x.neverRun = false := fun hx => by
    simp [GcovLine.neverRun, hx]
  rw [lineStep_eq]
  cases hr : x.raises
  case true => rfl
  simp only [Bool.false_eq_true, ↓reduceIte, Except.ok.injEq]
  simp only [tallyOf, List.countP_append, missLines_append, hflag, List.length_append,
    List.length_singleton, Nat.add_sub_cancel, List.filterMap_append]
  have hm : ∀ f, (x.neverRun && !(!x.isStop && f)) = (x.neverRun && !f) := fun f => by
    cases hs : x.isStop <;> cases hn : x.neverRun <;> simp_all
  simp only [hm]
  by_cases hb : (x.neverRun &&
      !(decide (InRegion ls (ls.length - 1)) || contains x.code "GCOV_EXCL_START")) = true <;>
    cases hh : x.isHit <;> simp only [hb, ↓reduceIte, Bool.false_eq_true] <;> simp [hh, hb] <;>
    cases hr : x.report? <;> simp [hr]

theorem tallyOf_nil : tallyOf [] = ⟨0, 0, [], false⟩ := by
  simp [tallyOf, missLines, InRegion]

/-- The string `int()` rejects on the first counted line where it raises. -/
def gcovError? (ls : List GcovLine) : Option String :=
  (ls.find? GcovLine.raises).map fun l => replace l.count "*" ""

theorem gcovError?_append (ls ls' : List GcovLine) :
    gcovError? (ls ++ ls') = (gcovError? ls).or (gcovError? ls') := by
  simp [gcovError?, Option.map_or']

/-- The body on a raw line: a line with fewer than two `:` changes nothing. -/
theorem gcovStep_tallyOf (pre : List String) (line : String) :
    gcovStep (tallyOf (countedLines pre)) line =
      (gcovError? (countedLines [line])).elim (.ok (tallyOf (countedLines (pre ++ [line])))) .error := by
  unfold gcovStep
  cases hf : gcovFields line with
  | none => simp [countedLines, hf, gcovError?, pure, Except.pure]
  | some x =>
    dsimp only
    rw [lineStep_tallyOf]
    cases hr : x.raises <;> simp [countedLines, gcovError?, hf, hr]

/-- The loop from the variables of `pre` over `rest`: it raises at the first counted line of
`rest` where `int()` raises, or reaches the variables of `pre ++ rest`. -/
theorem foldlM_gcovStep (rest pre : List String) :
    rest.foldlM gcovStep (tallyOf (countedLines pre)) =
      (gcovError? (countedLines rest)).elim (.ok (tallyOf (countedLines (pre ++ rest)))) .error := by
  induction rest generalizing pre with
  | nil => simp [countedLines, gcovError?, pure, Except.pure]
  | cons a rest ih =>
    have hsplit : countedLines (a :: rest) = countedLines [a] ++ countedLines rest := by
      rw [countedLines, countedLines, countedLines, ← List.filterMap_append, List.singleton_append]
    rw [List.foldlM_cons, gcovStep_tallyOf, hsplit, gcovError?_append]
    cases ha : gcovError? (countedLines [a]) with
    | some e => rfl
    | none => simpa [bind, Except.bind] using ih (pre ++ [a])

/-- Whenever `parse_gcov_file` returns, it returns the declarative classification. -/
theorem parseGcovFile_eq_classify (lines : List String) (r : Nat × Nat × List (String × String))
    (h : parseGcovFile lines = .ok r) : r = gcovClassify lines := by
  have hrun := foldlM_gcovStep lines []
  rw [countedLines, List.filterMap_nil, tallyOf_nil] at hrun
  simp only [parseGcovFile, hrun, List.nil_append] at h
  cases he : gcovError? (countedLines lines) <;>
    simp [he, bind, Except.bind, pure, Except.pure] at h
  simp [← h, tallyOf, gcovClassify]

/-- The spec's example: one hit, one miss listed as uncovered, a `#####` line inside a region and
a non-executable line. -/
theorem parseGcovFile_spec_example :
    parseGcovFile ["        1:   10:int x;\n", "    #####:   11:assert(false);\n",
        "        -:   12:// GCOV_EXCL_START\n", "    #####:   13:abort();\n",
        "        -:   14:// GCOV_EXCL_STOP\n", "        -:   15:\n"] = .ok (1, 1, [("11", "assert(false);")]) ∧
      (1, 1, [("11", "assert(false);")]) = gcovClassify ["        1:   10:int x;\n",
        "    #####:   11:assert(false);\n", "        -:   12:// GCOV_EXCL_START\n",
        "    #####:   13:abort();\n", "        -:   14:// GCOV_EXCL_STOP\n", "        -:   15:\n"] :=
  ⟨rfl, parseGcovFile_eq_classify _ _ rfl⟩

/-- `parse_gcov_file` raises at the first counted line whose count `int()` rejects, and otherwise
returns the declarative classification. -/
theorem parseGcovFile_eq (lines : List String) :
    parseGcovFile lines = (gcovError? (countedLines lines)).elim (.ok (gcovClassify lines)) .error := by
  have hrun := foldlM_gcovStep lines []
  rw [countedLines, List.filterMap_nil, tallyOf_nil] at hrun
  simp only [parseGcovFile, hrun, List.nil_append]
  cases gcovError? (countedLines lines) <;> rfl

/-- `²` is a digit to `str.isdigit` but has no decimal value: the guard `isdigit()` lets through a
count that `int()` rejects. -/
theorem isDigit_superscript_two : isDigit '²' = true ∧ decimalValue? '²' = none := by decide

end ObToolsBuild.Gcov
