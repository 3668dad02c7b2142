import Mathlib.Data.List.Infix
import ObToolsBuild.Py.Unicode

/-!
# Str — the `str` and `os.path` operations the scripts call

A Python `str` is a sequence of code points, so each method is written over `String.data`.  Every
definition follows the CPython algorithm it names: `split()` is `split_whitespace`, `replace` scans
left to right for non-overlapping occurrences, and `os.path` is `posixpath`.
-/

namespace ObToolsBuild.Py

/-! ## 1. Tests -/

/-- `s.startswith(pre)`. -/
def startswith (s pre : String) : Bool := pre.data.isPrefixOf s.data

/-- `s.endswith(suf)`. -/
def endswith (s suf : String) : Bool := suf.data.isSuffixOf s.data

/-- `sub in s`. -/
def contains (s sub : String) : Bool := decide (sub.data <:+: s.data)

/-- `s.isdigit()`: non-empty, and every character a digit. -/
def isdigit (s : String) : Bool := !s.data.isEmpty && s.data.all isDigit

/-- `a < b` on `str`: code points compared left to right, a proper prefix first. -/
def strLt : List Char → List Char → Bool
  | _, [] => false
  | [], _ :: _ => true
  | c :: cs, d :: ds => c.toNat < d.toNat || (c = d && strLt cs ds)

/-! ## 2. Trimming and splitting -/

/-- `s.rstrip()`. -/
def rstrip (s : String) : String := ⟨(s.data.reverse.dropWhile isSpace).reverse⟩

/-- `s.strip()`. -/
def strip (s : String) : String := rstrip ⟨s.data.dropWhile isSpace⟩

/-- CPython's `split_whitespace`; `tok` holds the current token, reversed. -/
def splitWs : List Char → List Char → List (List Char)
  | [], tok => if tok.isEmpty then [] else [tok.reverse]
  | c :: cs, tok =>
    if isSpace c then
      if tok.isEmpty then splitWs cs [] else tok.reverse :: splitWs cs []
    else splitWs cs (c :: tok)

/-- `s.split()`: the maximal runs of non-whitespace characters. -/
def split (s : String) : List String := (splitWs s.data []).map String.mk

/-- The line boundaries of `str.splitlines`. -/
def isLineBreak (c : Char) : Bool :=
  c = '\n' || c = '\r' || c = '\x0b' || c = '\x0c' || c = '\x1c' || c = '\x1d' || c = '\x1e' ||
    c = '\x85' || c = '\u2028' || c = '\u2029'

/-- CPython's `splitlines`; `cur` holds the current line, reversed, and `\r\n` is one boundary. -/
def splitlinesAux : List Char → List Char → List (List Char)
  | [], cur => if cur.isEmpty then [] else [cur.reverse]
  | '\r' :: '\n' :: cs, cur => cur.reverse :: splitlinesAux cs []
  | c :: cs, cur => if isLineBreak c then cur.reverse :: splitlinesAux cs [] else splitlinesAux cs (c :: cur)

/-- `s.splitlines()`. -/
def splitlines (s : String) : List String := (splitlinesAux s.data []).map String.mk

/-- `s.split(sep, maxsplit)` for a one-character separator. -/
def splitOn (sep : Char) : Nat → List Char → List (List Char)
  | 0, s => [s]
  | n + 1, s =>
    match s.span (· ≠ sep) with
    | (pre, []) => [pre]
    | (pre, _ :: rest) => pre :: splitOn sep n rest

/-! ## 3. Replacing -/

/-- `str.replace(old, new)` for a non-empty `old`, as every call in the scripts has: `skip`
counts the characters of an occurrence already replaced. -/
def replaceAux (old new : List Char) : Nat → List Char → List Char
  | _, [] => []
  | skip + 1, _ :: cs => replaceAux old new skip cs
  | 0, c :: cs =>
    if old.isPrefixOf (c :: cs) then new ++ replaceAux old new (old.length - 1) cs
    else c :: replaceAux old new 0 cs

/-- `s.replace(old, new)`. -/
def replace (s old new : String) : String := ⟨replaceAux old.data new.data 0 s.data⟩

theorem replaceAux_skip (old new : List Char) :
    ∀ (k : Nat) (cs : List Char), replaceAux old new k cs = replaceAux old new 0 (cs.drop k)
  | 0, _ => rfl
  | _ + 1, [] => rfl
  | k + 1, _ :: cs => by rw [replaceAux, replaceAux_skip old new k cs]; rfl

/-- An `old` that occurs only at the very end is replaced once, there. -/
theorem replaceAux_append_old (old new : List Char) (hold : old ≠ []) :
    ∀ t : List Char, ¬ old <:+: (t ++ old).dropLast → replaceAux old new 0 (t ++ old) = t ++ new
  | [], _ => by
    obtain ⟨o, os, rfl⟩ := List.exists_cons_of_ne_nil hold
    simp [replaceAux, replaceAux_skip]
  | c :: t, h => by
    have hne : t ++ old ≠ [] := by simp [hold]
    have hlast : (c :: (t ++ old)).dropLast = c :: (t ++ old).dropLast :=
      List.dropLast_cons_of_ne_nil hne
    -- the scan finds no occurrence at `c`: it would end before the last character
    have hnp : ¬ old <+: c :: (t ++ old) := fun hp => h
      (List.prefix_of_prefix_length_le hp (List.dropLast_prefix _) (by simp)).isInfix
    rw [List.cons_append, replaceAux, if_neg (by simpa using hnp),
      replaceAux_append_old old new hold t fun hi => h (hlast ▸ List.infix_cons hi)]
    rfl

/-- A prefix that holds no first character of `old` passes through `replace` unchanged. -/
theorem replaceAux_prefix_append (o : Char) (os new : List Char) :
    ∀ p r : List Char, o ∉ p →
      replaceAux (o :: os) new 0 (p ++ r) = p ++ replaceAux (o :: os) new 0 r
  | [], _, _ => rfl
  | c :: p, r, h => by
    rw [List.mem_cons, not_or] at h
    rw [List.cons_append, replaceAux, if_neg (by simp [List.isPrefixOf, h.1]),
      replaceAux_prefix_append o os new p r h.2]
    rfl

/-! ## 4. `int()` on a string of digits -/

/-- `sys.int_info.default_max_str_digits`: longer decimal strings make `int()` raise. -/
def maxStrDigits : Nat := 4300

/-- `int(s)` where `s.isdigit()` holds: the value, or `none` where CPython raises `ValueError`
(a digit with no decimal value, or more than `maxStrDigits` digits). -/
def intOfDigits? (s : String) : Option Nat :=
  if s.length ≤ maxStrDigits then
    s.data.foldlM (fun n c => (decimalValue? c).map fun d => 10 * n + d) 0
  else none

theorem foldlM_decimal_isSome {cs : List Char} (hd : ∀ c ∈ cs, isDecimal c = true) (n : Nat) :
    (cs.foldlM (fun n c => (decimalValue? c).map fun d => 10 * n + d) n).isSome := by
  induction cs generalizing n with
  | nil => rfl
  | cons c cs ih =>
    obtain ⟨d, hc⟩ := Option.isSome_iff_exists.1 (hd c (List.mem_cons_self c cs))
    simpa [hc] using ih (fun x hx => hd x (List.mem_cons_of_mem c hx)) (10 * n + d)

/-- On decimal digits `int()` raises only past `maxStrDigits`. -/
theorem intOfDigits?_eq_none_iff {s : String} (hd : ∀ c ∈ s.data, isDecimal c = true) :
    intOfDigits? s = none ↔ maxStrDigits < s.length := by
  unfold intOfDigits?
  split_ifs with h
  · simpa [Nat.not_lt.2 h, ← Option.isSome_iff_ne_none] using foldlM_decimal_isSome hd 0
  · simpa using h

/-! ## 5. `posixpath` -/

/-- `os.path.join(a, *p)`. -/
def pathJoin (a : String) : List String → String
  | [] => a
  | b :: bs =>
    pathJoin (if startswith b "/" then b
      else if a = "" || endswith a "/" then a ++ b else a ++ "/" ++ b) bs

/-- `os.path.basename(p)`: what follows the last `/`. -/
def pathBasename (p : String) : String := ⟨(p.data.reverse.takeWhile (· ≠ '/')).reverse⟩

theorem startswith_slash_of_not_mem {x : String} (hx : '/' ∉ x.data) : startswith x "/" = false := by
  unfold startswith
  cases h : x.data with
  | nil => rfl
  | cons d _ => simp_all [List.isPrefixOf]

/-- Joining one relative component: the directory, a separator unless it has one, then the
component. -/
theorem pathJoin_relative (a x : String) (hx : startswith x "/" = false) :
    pathJoin a [x] = (if a = "" || endswith a "/" then a else a ++ "/") ++ x := by
  simp only [pathJoin, hx, Bool.false_eq_true, ↓reduceIte]
  split_ifs <;> simp [String.append_assoc]

theorem pathJoin_single (a x : String) (hx : '/' ∉ x.data) :
    pathJoin a [x] = (if a = "" || endswith a "/" then a else a ++ "/") ++ x :=
  pathJoin_relative a x (startswith_slash_of_not_mem hx)

/-- Under one directory, distinct relative components give distinct paths. -/
theorem pathJoin_relative_inj (a : String) {x y : String} (hx : startswith x "/" = false)
    (hy : startswith y "/" = false) (h : pathJoin a [x] = pathJoin a [y]) : x = y := by
  rw [pathJoin_relative a x hx, pathJoin_relative a y hy, String.ext_iff, String.data_append,
    String.data_append] at h
  exact String.ext (List.append_cancel_left h)

theorem pathJoin_single_inj (a : String) {x y : String} (hx : '/' ∉ x.data) (hy : '/' ∉ y.data)
    (h : pathJoin a [x] = pathJoin a [y]) : x = y :=
  pathJoin_relative_inj a (startswith_slash_of_not_mem hx) (startswith_slash_of_not_mem hy) h

/-- The separator `pathJoin` puts before a component ends its prefix. -/
theorem takeWhile_reverse_sep (a : String) :
    ((if a = "" || endswith a "/" then a else a ++ "/").data.reverse.takeWhile (· ≠ '/')) = [] := by
  split_ifs with h
  · rcases Bool.or_eq_true _ _ ▸ h with h | h
    · simp at h
      simp [h]
    · obtain ⟨t, ht⟩ := (List.isSuffixOf_iff_suffix.1 h)
      simp [← ht]
  · simp

theorem pathBasename_pathJoin (a n : String) (hn : '/' ∉ n.data) :
    pathBasename (pathJoin a [n]) = n := by
  have hall : ∀ c ∈ n.data.reverse, decide (c ≠ '/') = true := by
    intro c hc
    simp only [ne_eq, decide_eq_true_eq]
    rintro rfl
    exact hn (List.mem_reverse.1 hc)
  rw [pathBasename, pathJoin_single a n hn, String.data_append, List.reverse_append,
    List.takeWhile_append_of_pos hall, takeWhile_reverse_sep]
  simp

end ObToolsBuild.Py
