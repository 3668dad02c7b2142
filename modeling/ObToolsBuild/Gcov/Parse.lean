import ObToolsBuild.Py.Str

/-!
# Parse — `parse_gcov_file`

The loop streams the lines of a `.gcov` listing.  A line with at least two `:` is split into its
count, line number and source text; `GCOV_EXCL_START` / `GCOV_EXCL_STOP` in the source set and clear
a flag carried from line to line, and the count decides between a miss (`#####`), a hit (a positive
integer, perhaps with a `*` marker) and neither.  The only way out other than returning is the
`ValueError` of `int()`.
-/

namespace ObToolsBuild.Gcov

open Py

/-- The fields of a line `count:lineno:source`, as the loop strips them. -/
structure GcovLine where
  count : String
  lineno : String
  code : String
  deriving DecidableEq

/-- `parts = line.split(":", 2)`; `none` where `len(parts) < 3`. -/
def gcovFields (line : String) : Option GcovLine :=
  match splitOn ':' 2 line.data with
  | [c, n, code] => some ⟨strip ⟨c⟩, strip ⟨n⟩, rstrip ⟨code⟩⟩
  | _ => none

/-- The loop's variables: the tallies, the uncovered lines and `in_excl_block`. -/
structure GcovTally where
  hit : Nat
  miss : Nat
  uncovered : List (String × String)
  inExclBlock : Bool
  deriving DecidableEq

/-- The loop body on a line that has its three fields; an error carries the string that `int()`
rejected. -/
def lineStep (t : GcovTally) (l : GcovLine) : Except String GcovTally :=
  let inExclBlock := t.inExclBlock || contains l.code "GCOV_EXCL_START"
  if contains l.code "GCOV_EXCL_STOP" then pure { t with inExclBlock := false }
  else
    let t := { t with inExclBlock }
    let excluded := inExclBlock || contains l.code "GCOV_EXCL_LINE"
    if l.count = "-" ∨ l.count = "" then pure t
    else if l.count = "#####" then
      if excluded then pure t
      else
        let stripped := strip l.code
        pure { t with
          miss := t.miss + 1
          uncovered := if stripped ≠ "" ∧ startswith stripped "//" = false
            then t.uncovered ++ [(l.lineno, stripped)] else t.uncovered }
    else if isdigit (replace l.count "*" "") then
      match intOfDigits? (replace l.count "*" "") with
      | none => throw (replace l.count "*" "")
      | some n => pure (if n > 0 then { t with hit := t.hit + 1 } else t)
    else pure t

/-- The loop body on a raw line. -/
def gcovStep (t : GcovTally) (line : String) : Except String GcovTally :=
  match gcovFields line with
  | none => pure t
  | some l => lineStep t l

/-- `parse_gcov_file(gcov_path)` on the lines of the file: `(hit, miss, uncovered_lines)`. -/
def parseGcovFile (lines : List String) : Except String (Nat × Nat × List (String × String)) := do
  let t ← lines.foldlM gcovStep ⟨0, 0, [], false⟩
  pure (t.hit, t.miss, t.uncovered)

end ObToolsBuild.Gcov
