import ObToolsBuild.Py.Str

/-!
# Parse — `parse_tupfile_var`

The assignment is found by `re.search(r"^VAR\s*=(.*?)(?:\n(?!\s)|\Z)", text, re.MULTILINE |
re.DOTALL)`.  Once `^VAR\s*=` matches at a line start the rest of the pattern matches too (`\Z`
is always reachable), so the search stops at the first line start where that head matches, and
group 1 is the shortest body closed by a newline that no whitespace follows, or by the end.
-/

namespace ObToolsBuild.Tupfile

open Py

/-- `^VAR\s*=` at the head of `s`: the text after the `=`.  Backtracking into the greedy `\s*`
cannot help, since `=` is not whitespace. -/
def assignHead (var s : List Char) : Option (List Char) :=
  if var.isPrefixOf s then
    match (s.drop var.length).dropWhile isSpace with
    | '=' :: rest => some rest
    | _ => none
  else none

/-- `(.*?)(?:\n(?!\s)|\Z)` under `re.DOTALL`. -/
def lazyBody : List Char → List Char
  | [] => []
  | c :: cs => if c = '\n' ∧ cs.head?.all (fun d => !isSpace d) then [] else c :: lazyBody cs

/-- `re.search` of the whole pattern: every position in turn, where `^` under `re.MULTILINE`
holds at the start of the text and after each newline (`lineStart`). -/
def searchAssign (var : List Char) (lineStart : Bool) (s : List Char) : Option (List Char) :=
  match (if lineStart then assignHead var s else none), s with
  | some rest, _ => some (lazyBody rest)
  | none, [] => none
  | none, c :: cs => searchAssign var (c == '\n') cs

theorem searchAssign_of_assignHead {var s rest : List Char} (h : assignHead var s = some rest) :
    searchAssign var true s = some (lazyBody rest) := by
  unfold searchAssign
  simp [h]

theorem searchAssign_cons_of_none {var cs : List Char} {b : Bool} {c : Char}
    (h : (if b then assignHead var (c :: cs) else none) = none) :
    searchAssign var b (c :: cs) = searchAssign var (c == '\n') cs := by
  conv_lhs => unfold searchAssign
  rw [h]

/-- `parse_tupfile_var(path, var_name)`, given the text of the file if `os.path.isfile(path)`. -/
def parseTupfileVar (file : Option String) (varName : String) : List String :=
  match file with
  | none => []
  | some text =>
    match searchAssign varName.data true text.data with
    | none => []
    | some body => split (replace ⟨body⟩ "\\\n" " ")

end ObToolsBuild.Tupfile
