import ObToolsBuild.Py.Str

/-!
# Functions — the per-function report of `report_functions`

`gcov -f` prints, for each function, a `Function '<mangled>'` line followed by a
`Lines executed:NN.NN% of N` line, among other lines.  The loop walks the lines with an index,
taking two lines at a time where the first names a function and the second holds a percentage,
and one line otherwise.  Wherever no function line also holds a percentage, the pairs it takes
are exactly the adjacent (function, percentage) pairs (`reportFunctions_pairs`).
-/

namespace ObToolsBuild.Gcov

open Py

/-! ## 1. The two patterns -/

/-- The group of `Function '(.+)'` on the text after the prefix: `.` stops at a newline, and the
greedy `.+` gives back characters from the longest candidate down until a `'` follows. -/
def quoteGroup (r : List Char) : Option (List Char) :=
  ((List.range r.length).reverse.find? fun j => 0 < j && r[j]? == some '\'').map r.take

/-- `re.match(r"Function '(.+)'", s).group(1)`. -/
def matchFunction (s : String) : Option String :=
  if "Function '".data.isPrefixOf s.data then
    (quoteGroup ((s.data.drop "Function '".length).takeWhile (· ≠ '\n'))).map String.mk
  else none

/-- The class `[\d.]`. -/
def isPctChar (c : Char) : Bool := isDecimal c || c == '.'

/-- `re.search(r"([\d.]+%)", s).group(1)` over the start positions left to right.  `%` is not in
the class, so from a start the greedy `[\d.]+` can only be followed by `%` at its full length. -/
def pctSearch : List Char → Option (List Char)
  | [] => none
  | c :: cs =>
    let run := (c :: cs).takeWhile isPctChar
    if run ≠ [] ∧ ((c :: cs).drop run.length).head? = some '%' then some (run ++ ['%'])
    else pctSearch cs

/-- `re.search(r"([\d.]+%)", s).group(1)`. -/
def searchPercent (s : String) : Option String := (pctSearch s.data).map String.mk

/-! ## 2. The loop -/

mutual

/-- The `while i < len(lines) - 1` loop, on `lines[i:]`: each pair it takes, with the index of its
function line, the mangled name and the percentage. -/
def scanPairs : Nat → List String → List (Nat × String × String)
  | _, [] => []
  | i, f :: tl => scanFrom i f tl

/-- The loop at `i` where `lines[i]` is `f` and `lines[i + 1:]` is the rest. -/
def scanFrom : Nat → String → List String → List (Nat × String × String)
  | _, _, [] => []
  | i, f, c :: rest =>
    match matchFunction f, searchPercent c with
    | some name, some pct => (i, name, pct) :: scanPairs (i + 2) rest
    | _, _ => scanFrom (i + 1) c rest

end

/-- `"_ZN" in mangled and "7ObTools" in mangled`. -/
def isObToolsName (name : String) : Bool := contains name "_ZN" && contains name "7ObTools"

/-- The `(mangled, pct)` of each line `report_functions` prints, before demangling. -/
def reportFunctions (lines : List String) : List (String × String) :=
  (scanPairs 0 lines).filterMap fun p => if isObToolsName p.2.1 then some p.2 else none

/-! ## 3. The pairs taken are the adjacent pairs -/

/-- Lines `i` and `i + 1` as a pair: a function name and the first percentage after it. -/
def pairOf (p : Nat × String × String) : Option (Nat × String × String) :=
  (matchFunction p.2.1).bind fun name => (searchPercent p.2.2).map fun pct => (p.1, name, pct)

/-- Every adjacent pair of lines that is a (function, percentage) pair, numbered from `i`. -/
def adjacentPairs (i : Nat) (lines : List String) : List (Nat × String × String) :=
  ((lines.zip lines.tail).enumFrom i).filterMap pairOf

theorem adjacentPairs_cons_cons (i : Nat) (f c : String) (rest : List String) :
    adjacentPairs i (f :: c :: rest) =
      (pairOf (i, f, c)).toList ++ adjacentPairs (i + 1) (c :: rest) := by
  simp only [adjacentPairs, List.tail_cons, List.zip_cons_cons, List.enumFrom_cons,
    List.filterMap_cons]
  cases pairOf (i, f, c) <;> rfl

/-- A line holding a percentage opens no pair. -/
theorem adjacentPairs_of_percent {i : Nat} {c : String} (rest : List String)
    (hc : matchFunction c = none) : adjacentPairs i (c :: rest) = adjacentPairs (i + 1) rest := by
  cases rest with
  | nil => rfl
  | cons d rest => simp [adjacentPairs_cons_cons, pairOf, hc]

/-- One pass of the loop body, in terms of `pairOf`. -/
theorem scanFrom_cons (i : Nat) (f c : String) (rest : List String) :
    scanFrom i f (c :: rest) = match pairOf (i, f, c) with
      | some q => q :: scanPairs (i + 2) rest
      | none => scanFrom (i + 1) c rest := by
  simp only [scanFrom, pairOf]
  cases matchFunction f <;> cases searchPercent c <;> rfl

/-- The greedy step skips no pair where no function line holds a percentage. -/
theorem scanPairs_eq_adjacentPairs (lines : List String)
    (h : ∀ l ∈ lines, matchFunction l = none ∨ searchPercent l = none) :
    (∀ i f, scanFrom i f lines = adjacentPairs i (f :: lines)) ∧
      ∀ i, scanPairs i lines = adjacentPairs i lines := by
  induction lines with
  | nil => exact ⟨fun i f => rfl, fun i => rfl⟩
  | cons c rest ih =>
    obtain ⟨ihFrom, ihPairs⟩ := ih fun l hl => h l (List.mem_cons_of_mem c hl)
    have hFrom : ∀ i f, scanFrom i f (c :: rest) = adjacentPairs i (f :: c :: rest) := by
      intro i f
      rw [scanFrom_cons, adjacentPairs_cons_cons]
      cases hp : pairOf (i, f, c) with
      | none => simp [ihFrom]
      | some q =>
        -- line `c` holds a percentage, so it opens no pair
        have hc : matchFunction c = none :=
          (h c (List.mem_cons_self c rest)).resolve_right fun h' => by simp [pairOf, h'] at hp
        rw [ihPairs, adjacentPairs_of_percent rest hc]
        rfl
    exact ⟨hFrom, fun i => ihFrom i c⟩

/-- `report_functions` takes exactly the adjacent (function, percentage) pairs, in order and each
once, and prints those of ObTools functions. -/
theorem reportFunctions_pairs (lines : List String)
    (h : ∀ l ∈ lines, matchFunction l = none ∨ searchPercent l = none) :
    scanPairs 0 lines = adjacentPairs 0 lines ∧
      reportFunctions lines =
        ((adjacentPairs 0 lines).filter fun p => isObToolsName p.2.1).map (·.2) := by
  have hscan := (scanPairs_eq_adjacentPairs lines h).2 0
  refine ⟨hscan, ?_⟩
  rw [reportFunctions, hscan, ← List.filterMap_eq_filter, List.map_filterMap]
  congr 1
  funext p
  by_cases hp : isObToolsName p.2.1 <;> simp [hp, Option.guard]


/-- `gcov -f` output for two functions, one of them an ObTools method. -/
theorem reportFunctions_pairs_sample :
    (∀ l ∈ ["Function '_ZN7ObTools1fEv'", "Lines executed:75.00% of 4", "Function 'main'",
      "Lines executed:0.00% of 2"], matchFunction l = none ∨ searchPercent l = none) ∧
    (scanPairs 0 ["Function '_ZN7ObTools1fEv'", "Lines executed:75.00% of 4", "Function 'main'",
        "Lines executed:0.00% of 2"] = adjacentPairs 0 ["Function '_ZN7ObTools1fEv'",
        "Lines executed:75.00% of 4", "Function 'main'", "Lines executed:0.00% of 2"] ∧
      reportFunctions ["Function '_ZN7ObTools1fEv'", "Lines executed:75.00% of 4",
        "Function 'main'", "Lines executed:0.00% of 2"] =
        ((adjacentPairs 0 ["Function '_ZN7ObTools1fEv'", "Lines executed:75.00% of 4",
          "Function 'main'", "Lines executed:0.00% of 2"]).filter
          fun p => isObToolsName p.2.1).map (·.2)) :=
  ⟨by decide, reportFunctions_pairs _ (by decide)⟩

/- A function line that holds a percentage is taken as the second line of a pair, and the pair it
opens is skipped. -/
example : scanPairs 0 ["Function 'a'", "Function 'b' 5%", "7%"] = [(0, "a", "5%")] ∧
    adjacentPairs 0 ["Function 'a'", "Function 'b' 5%", "7%"] = [(0, "a", "5%"), (1, "b", "7%")] := by
  decide

end ObToolsBuild.Gcov
