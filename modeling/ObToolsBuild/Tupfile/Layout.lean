import ObToolsBuild.Tupfile.Parse

/-!
# Layout — an assignment parses the same however its tokens are laid out

A manifest writes `V = t₁ t₂ …` on one line or breaks it with ` \` and a newline followed by an
indented line.  Every such layout parses to the same tokens (`parseTupfileVar_layout`): the search
skips the lines before the assignment, the lazy body runs over each continuation (its newline is
followed by the indent) and stops at the first unindented line, the continuations become blanks,
and `split()` sees only the tokens.

The backslash plays no part in where the value ends: it runs up to the first newline that no
whitespace follows (`parseTupfileVar_value`), so an indented line after the assignment, such as an
indented comment, is read as more of the value.
-/

namespace ObToolsBuild.Tupfile

open Py

/-! ## 1. The laid-out assignment -/

/-- Whitespace other than a newline: what stands between the tokens of one line.  The text
`f.read()` returns has had its line ends translated to `\n`, so a `\r` never reaches the body; the
one it admits here only adds inputs. -/
def IsBlank (c : Char) : Prop := isSpace c = true ∧ c ≠ '\n'

instance : DecidablePred IsBlank := fun _ => inferInstanceAs (Decidable (_ ∧ _))

/-- The tokens of one line, each with the blanks after it; those after the last are not written. -/
def joinGroup : List (List Char × List Char) → List Char
  | [] => []
  | (t, s) :: g => t ++ if g.isEmpty then [] else s ++ joinGroup g

/-- The continuation lines: ` \` and a newline, then each line's indent and tokens. -/
def continuations (ls : List (List Char × List (List Char × List Char))) : List Char :=
  ls.flatMap fun l => ' ' :: '\\' :: '\n' :: (l.1 ++ joinGroup l.2)

theorem continuations_cons (l : List Char × List (List Char × List Char))
    (ls : List (List Char × List (List Char × List Char))) :
    continuations (l :: ls) = ' ' :: '\\' :: '\n' :: (l.1 ++ joinGroup l.2 ++ continuations ls) := by
  simp [continuations]

/-- The text `P`, then `V w0 = w1` and the first line's tokens, the continuation lines, and `Q`. -/
def layout (P V w0 w1 : List Char) (g : List (List Char × List Char))
    (ls : List (List Char × List (List Char × List Char))) (Q : List Char) : List Char :=
  P ++ V ++ w0 ++ '=' :: (w1 ++ joinGroup g ++ continuations ls ++ Q)

/-- The tokens of the assignment, in order. -/
def layoutTokens (g : List (List Char × List Char))
    (ls : List (List Char × List (List Char × List Char))) : List (List Char) :=
  g.map Prod.fst ++ ls.flatMap fun l => l.2.map Prod.fst

/-- Well-formed lines: tokens are non-empty and hold no whitespace, separators and indents are
non-empty blanks. -/
def GoodGroup (g : List (List Char × List Char)) : Prop :=
  ∀ p ∈ g, (p.1 ≠ [] ∧ ∀ c ∈ p.1, isSpace c = false) ∧ p.2 ≠ [] ∧ ∀ c ∈ p.2, IsBlank c

instance : DecidablePred GoodGroup := fun _ => inferInstanceAs (Decidable (∀ _ ∈ _, _))

/-! ## 2. `split()` -/

theorem splitWs_token_append {t : List Char} (ht : ∀ c ∈ t, isSpace c = false) (r acc : List Char) :
    splitWs (t ++ r) acc = splitWs r (t.reverse ++ acc) := by
  induction t generalizing acc with
  | nil => rfl
  | cons c t ih =>
    simp only [List.mem_cons, forall_eq_or_imp] at ht
    simp [splitWs, ht.1, ih ht.2]

theorem splitWs_blank_append {w : List Char} (hw : ∀ c ∈ w, isSpace c = true) (r : List Char) :
    splitWs (w ++ r) [] = splitWs r [] := by
  induction w with
  | nil => rfl
  | cons c w ih =>
    simp only [List.mem_cons, forall_eq_or_imp] at hw
    simp [splitWs, hw.1, ih hw.2]

/-- A token ends where the text ends or whitespace starts. -/
theorem splitWs_token {t : List Char} (ht : t ≠ [] ∧ ∀ c ∈ t, isSpace c = false) {r : List Char}
    (hr : r.head?.all isSpace = true) : splitWs (t ++ r) [] = t :: splitWs r [] := by
  rw [splitWs_token_append ht.2, List.append_nil]
  cases r with
  | nil => simp [splitWs, ht.1]
  | cons c r => simp_all [splitWs]

theorem splitWs_joinGroup {g : List (List Char × List Char)} (hg : GoodGroup g) {r : List Char}
    (hr : r.head?.all isSpace = true) : splitWs (joinGroup g ++ r) [] = g.map Prod.fst ++ splitWs r [] := by
  induction g with
  | nil => rfl
  | cons p g ih =>
    rcases p with ⟨t, s⟩
    have hts := hg (t, s) (List.mem_cons_self _ _)
    rw [joinGroup]
    cases hge : g.isEmpty
    · -- blanks, then the next token
      have hs : ∀ x ∈ s, isSpace x = true := fun x hx => (hts.2.2 x hx).1
      have hhead : (s ++ (joinGroup g ++ r)).head?.all isSpace = true := by
        obtain ⟨c, s', rfl⟩ := List.exists_cons_of_ne_nil hts.2.1
        simpa using hs c (List.mem_cons_self _ _)
      simp only [Bool.false_eq_true, ↓reduceIte, List.append_assoc, List.map_cons, List.cons_append]
      rw [splitWs_token hts.1 hhead, splitWs_blank_append hs,
        ih fun q hq => hg q (List.mem_cons_of_mem _ hq)]
    · -- the last token of the line
      obtain rfl := List.isEmpty_iff.1 hge
      simpa using splitWs_token hts.1 hr

/-- The continuation lines once each ` \` and newline has become two blanks. -/
theorem splitWs_replaced {ls : List (List Char × List (List Char × List Char))}
    (hls : ∀ l ∈ ls, (∀ c ∈ l.1, IsBlank c) ∧ GoodGroup l.2) :
    splitWs (ls.flatMap fun l => ' ' :: ' ' :: (l.1 ++ joinGroup l.2)) [] =
      ls.flatMap fun l => l.2.map Prod.fst := by
  induction ls with
  | nil => rfl
  | cons l ls ih =>
    have hl := hls l (List.mem_cons_self _ _)
    have hr : (ls.flatMap fun l => ' ' :: ' ' :: (l.1 ++ joinGroup l.2)).head?.all isSpace = true := by
      cases ls <;> simp
    rw [List.flatMap_cons, List.flatMap_cons, ← List.cons_append, ← List.cons_append, List.append_assoc,
      splitWs_blank_append (by simpa using fun c hc => (hl.1 c hc).1), splitWs_joinGroup hl.2 hr,
      ih fun l' hl' => hls l' (List.mem_cons_of_mem _ hl')]

/-! ## 3. Removing the continuations -/

/-- No `\` and newline starts inside a text without newlines before a text not opening with one. -/
theorem replaceAux_plain_append (new : List Char) {x : List Char} (hx : '\n' ∉ x) {y : List Char}
    (hy : y.head? ≠ some '\n') :
    replaceAux ['\\', '\n'] new 0 (x ++ y) = x ++ replaceAux ['\\', '\n'] new 0 y := by
  induction x with
  | nil => rfl
  | cons c x ih =>
    have hnext : (x ++ y).head? ≠ some '\n' := by
      cases x with
      | nil => simpa using hy
      | cons d x =>
        simp only [List.cons_append, List.head?_cons, ne_eq, Option.some.injEq]
        rintro rfl
        exact hx (List.mem_cons_of_mem c (List.mem_cons_self _ x))
    rw [List.cons_append, replaceAux, if_neg, ih (fun h => hx (List.mem_cons_of_mem c h))]
    · rfl
    · cases hxy : x ++ y with
      | nil => simp [List.isPrefixOf]
      | cons e _ =>
        have he : e ≠ '\n' := by simpa [hxy] using hnext
        simp [List.isPrefixOf, Ne.symm he]

theorem replaceAux_continuation (new z : List Char) :
    replaceAux ['\\', '\n'] new 0 (' ' :: '\\' :: '\n' :: z) =
      ' ' :: (new ++ replaceAux ['\\', '\n'] new 0 z) := by
  simp [replaceAux, List.isPrefixOf]

/-- A line's tokens and blanks hold no newline. -/
theorem newline_not_mem_joinGroup {g : List (List Char × List Char)} (hg : GoodGroup g) :
    '\n' ∉ joinGroup g := by
  induction g with
  | nil => simp [joinGroup]
  | cons p g ih =>
    have hp := hg p (List.mem_cons_self _ _)
    have ht : '\n' ∉ p.1 := fun h => by simpa using hp.1.2 _ h
    have hs : '\n' ∉ p.2 := fun h => (hp.2.2 _ h).2 rfl
    have hj := ih fun q hq => hg q (List.mem_cons_of_mem _ hq)
    rcases p with ⟨t, s⟩
    simp only [joinGroup, List.mem_append]
    split_ifs <;> simp_all

theorem replaceAux_continuations {ls : List (List Char × List (List Char × List Char))}
    (hls : ∀ l ∈ ls, (∀ c ∈ l.1, IsBlank c) ∧ GoodGroup l.2) :
    replaceAux ['\\', '\n'] [' '] 0 (continuations ls) =
      ls.flatMap fun l => ' ' :: ' ' :: (l.1 ++ joinGroup l.2) := by
  induction ls with
  | nil => rfl
  | cons l ls ih =>
    have hl := hls l (List.mem_cons_self _ _)
    have hx : '\n' ∉ l.1 ++ joinGroup l.2 := by
      simpa using ⟨fun h => (hl.1 _ h).2 rfl, newline_not_mem_joinGroup hl.2⟩
    have hy : (continuations ls).head? ≠ some '\n' := by cases ls <;> simp [continuations]
    rw [continuations_cons, replaceAux_continuation, replaceAux_plain_append _ hx hy,
      ih fun l' hl' => hls l' (List.mem_cons_of_mem _ hl')]
    simp

/-! ## 4. The lazy body -/

theorem lazyBody_cons_of_ne {c : Char} (hc : c ≠ '\n') (cs : List Char) :
    lazyBody (c :: cs) = c :: lazyBody cs := by
  simp [lazyBody, hc]

theorem lazyBody_plain_append {x : List Char} (hx : '\n' ∉ x) (y : List Char) :
    lazyBody (x ++ y) = x ++ lazyBody y := by
  induction x with
  | nil => rfl
  | cons c x ih =>
    rw [List.cons_append, lazyBody_cons_of_ne (fun h => hx (h ▸ List.mem_cons_self c x)),
      ih (fun h => hx (List.mem_cons_of_mem c h)), List.cons_append]

/-- The newline of a continuation is followed by its indent, so the body runs on. -/
theorem lazyBody_continuations {ls : List (List Char × List (List Char × List Char))}
    (hls : ∀ l ∈ ls, (l.1 ≠ [] ∧ ∀ c ∈ l.1, IsBlank c) ∧ GoodGroup l.2) (Q : List Char) :
    lazyBody (continuations ls ++ Q) = continuations ls ++ lazyBody Q := by
  induction ls with
  | nil => rfl
  | cons l ls ih =>
    have hl := hls l (List.mem_cons_self _ _)
    obtain ⟨d, ind, hd⟩ := List.exists_cons_of_ne_nil hl.1.1
    have hdb := hl.1.2 d (hd ▸ List.mem_cons_self d ind)
    have hx : '\n' ∉ l.1 ++ joinGroup l.2 := by
      simpa using ⟨fun h => (hl.1.2 _ h).2 rfl, newline_not_mem_joinGroup hl.2⟩
    have hnl : lazyBody ('\n' :: (l.1 ++ joinGroup l.2 ++ (continuations ls ++ Q))) =
        '\n' :: lazyBody (l.1 ++ joinGroup l.2 ++ (continuations ls ++ Q)) := by
      simp [lazyBody, hd, hdb.1]
    rw [continuations_cons, List.cons_append, List.cons_append, List.cons_append, List.append_assoc,
      lazyBody_cons_of_ne (by decide), lazyBody_cons_of_ne (by decide), hnl,
      lazyBody_plain_append hx, ih fun l' hl' => hls l' (List.mem_cons_of_mem _ hl')]
    simp

/-- `Q` closes the body: the end of the text, or a newline and then no whitespace. -/
theorem lazyBody_closing {Q : List Char}
    (hQ : Q = [] ∨ ∃ Q', Q = '\n' :: Q' ∧ Q'.head?.all (fun d => !isSpace d) = true) :
    lazyBody Q = [] := by
  rcases hQ with rfl | ⟨Q', rfl, hQ'⟩
  · rfl
  · simp [lazyBody, hQ']

/-! ## 5. The search -/

theorem assignHead_eq_none_iff {var s : List Char} :
    assignHead var s = none ↔ (var <+: s → ((s.drop var.length).dropWhile isSpace).head? ≠ some '=') := by
  unfold assignHead
  by_cases hp : var <+: s
  · simp only [List.isPrefixOf_iff_prefix.2 hp, ↓reduceIte, hp, true_implies]
    cases (s.drop var.length).dropWhile isSpace with
    | nil => simp
    | cons e r => by_cases he : e = '=' <;> simp [he]
  · simp [hp]

/-- `^V\s*=` at the last line start of `s` cannot reach past its final newline into a text that
opens with neither whitespace nor `=`. -/
theorem assignHead_append_none {var s R : List Char} (hvar : ∀ c ∈ var, isSpace c = false)
    (hs : s.getLast? = some '\n') (hR : R.head?.all (fun r => !isSpace r && r != '=') = true)
    (h : assignHead var s = none) : assignHead var (s ++ R) = none := by
  rw [assignHead_eq_none_iff] at h ⊢
  intro hp
  -- `var` holds no newline, so it is a prefix of `s` itself
  have hlen : var.length < s.length := by
    by_contra hle
    have hsv := List.prefix_of_prefix_length_le (List.prefix_append s R) hp (by omega)
    have hmem : '\n' ∈ var := hsv.subset (List.mem_of_getLast?_eq_some hs)
    simpa using hvar _ hmem
  have hrest := h (List.prefix_of_prefix_length_le hp (List.prefix_append s R) hlen.le)
  rw [List.drop_append_of_le_length hlen.le, List.dropWhile_append]
  split
  · cases R with
    | nil => simp
    | cons r R => simp_all
  · rename_i hne
    obtain ⟨c, cs, hc⟩ := List.exists_cons_of_ne_nil fun h => hne (List.isEmpty_iff.2 h)
    simp_all

/-- The search walks over a prefix at none of whose line starts, but the last, the head matches. -/
theorem searchAssign_append {var R : List Char} : ∀ {P : List Char} {b : Bool},
    (b = true → P ≠ [] → assignHead var (P ++ R) = none) →
    (∀ k, k + 1 < P.length → P[k]? = some '\n' → assignHead var (P.drop (k + 1) ++ R) = none) →
    searchAssign var b (P ++ R) = searchAssign var (P.getLast?.elim b (· == '\n')) R
  | [], _, _, _ => rfl
  | c :: P, b, hb, hk => by
    have hnone : (if b then assignHead var (c :: P ++ R) else none) = none := by
      cases b
      · rfl
      · exact hb rfl (List.cons_ne_nil c P)
    have hP : (c == '\n') = true → P ≠ [] → assignHead var (P ++ R) = none := fun hc hne =>
      hk 0 (by simpa [List.length_pos] using hne) (by simpa using hc)
    rw [List.cons_append, @searchAssign_cons_of_none var (P ++ R) b c hnone,
      searchAssign_append hP fun k hk' hkc => hk (k + 1) (by simpa using hk') (by simpa using hkc)]
    cases P <;> simp [List.getLast?_cons]

/-- The head matches at the assignment's own line start. -/
theorem assignHead_assignment {V w0 : List Char} (hw0 : ∀ c ∈ w0, isSpace c = true) (rest : List Char) :
    assignHead V (V ++ w0 ++ '=' :: rest) = some rest := by
  simp [assignHead, List.dropWhile_append_of_pos hw0]

/-- Every line start of `P` but the one after it: the head does not match there. -/
theorem searchAssign_layout {P V w0 rest : List Char} (hV : V ≠ [] ∧ ∀ c ∈ V, isSpace c = false ∧ c ≠ '=')
    (hw0 : ∀ c ∈ w0, isSpace c = true) (hP : P = [] ∨ P.getLast? = some '\n')
    (hPV : ∀ j < P.length, (j = 0 ∨ P[j - 1]? = some '\n') → assignHead V (P.drop j) = none) :
    searchAssign V true (P ++ (V ++ w0 ++ '=' :: rest)) = some (lazyBody rest) := by
  have hR : (V ++ w0 ++ '=' :: rest).head?.all (fun r => !isSpace r && r != '=') = true := by
    obtain ⟨v, V', rfl⟩ := List.exists_cons_of_ne_nil hV.1
    simpa using hV.2 v (List.mem_cons_self v V')
  have hVs : ∀ c ∈ V, isSpace c = false := fun c hc => (hV.2 c hc).1
  -- a non-empty suffix of `P` still ends in its final newline
  have hlast : ∀ j < P.length, (P.drop j).getLast? = some '\n' := by
    intro j hj
    rcases hP with rfl | hP
    · simp at hj
    · rw [← List.take_append_drop j P, List.getLast?_append] at hP
      cases hd : (P.drop j).getLast? with
      | none => simp [List.getLast?_eq_none_iff] at hd; omega
      | some x => simpa [hd] using hP
  have hskip := @searchAssign_append V (V ++ w0 ++ '=' :: rest) P true
    (fun _ hne => by
      simpa using assignHead_append_none hVs (hlast 0 (List.length_pos.2 hne)) hR
        (by simpa using hPV 0 (List.length_pos.2 hne) (.inl rfl)))
    (fun k hk hkc => assignHead_append_none hVs (hlast (k + 1) hk) hR
      (hPV (k + 1) hk (.inr (by simpa using hkc))))
  have hflag : P.getLast?.elim true (· == '\n') = true := by
    rcases hP with rfl | hP <;> simp_all
  rw [hskip, hflag, searchAssign_of_assignHead (assignHead_assignment hw0 rest)]

/-- The body the search returns, without its continuations, splits into the tokens. -/
theorem splitWs_body {w1 Q : List Char} {g : List (List Char × List Char)}
    {ls : List (List Char × List (List Char × List Char))} (hw1 : ∀ c ∈ w1, IsBlank c)
    (hg : GoodGroup g) (hls : ∀ l ∈ ls, (l.1 ≠ [] ∧ ∀ c ∈ l.1, IsBlank c) ∧ GoodGroup l.2)
    (hQ : Q = [] ∨ ∃ Q', Q = '\n' :: Q' ∧ Q'.head?.all (fun d => !isSpace d) = true) :
    splitWs (replaceAux ['\\', '\n'] [' '] 0 (lazyBody (w1 ++ (joinGroup g ++ (continuations ls ++ Q)))))
      [] = layoutTokens g ls := by
  have hx : '\n' ∉ w1 ++ joinGroup g := by
    simpa using ⟨fun h => (hw1 _ h).2 rfl, newline_not_mem_joinGroup hg⟩
  have hls' : ∀ l ∈ ls, (∀ c ∈ l.1, IsBlank c) ∧ GoodGroup l.2 :=
    fun l hl => ⟨(hls l hl).1.2, (hls l hl).2⟩
  have hy : (continuations ls).head? ≠ some '\n' := by cases ls <;> simp [continuations]
  have hr : (ls.flatMap fun l => ' ' :: ' ' :: (l.1 ++ joinGroup l.2)).head?.all isSpace = true := by
    cases ls <;> simp
  rw [← List.append_assoc, lazyBody_plain_append hx, lazyBody_continuations hls, lazyBody_closing hQ,
    List.append_nil, replaceAux_plain_append _ hx hy, replaceAux_continuations hls', List.append_assoc,
    splitWs_blank_append (fun c hc => (hw1 c hc).1), splitWs_joinGroup hg hr, splitWs_replaced hls']
  rfl

/-! ## 6. Every layout parses to its tokens -/

/-- However the tokens of `V` are spread over continuation lines, `parse_tupfile_var` returns them,
as it does for the one-line form. -/
theorem parseTupfileVar_layout (P V w0 w1 Q : List Char) (g : List (List Char × List Char))
    (ls : List (List Char × List (List Char × List Char)))
    (hV : V ≠ [] ∧ ∀ c ∈ V, isSpace c = false ∧ c ≠ '=')
    (hw : (∀ c ∈ w0, IsBlank c) ∧ ∀ c ∈ w1, IsBlank c)
    (hg : GoodGroup g) (hls : ∀ l ∈ ls, (l.1 ≠ [] ∧ ∀ c ∈ l.1, IsBlank c) ∧ GoodGroup l.2)
    (hP : P = [] ∨ P.getLast? = some '\n')
    (hPV : ∀ j < P.length, (j = 0 ∨ P[j - 1]? = some '\n') → assignHead V (P.drop j) = none)
    (hQ : Q = [] ∨ ∃ Q', Q = '\n' :: Q' ∧ Q'.head?.all (fun d => !isSpace d) = true) :
    parseTupfileVar (some ⟨layout P V w0 w1 g ls Q⟩) ⟨V⟩ = (layoutTokens g ls).map String.mk ∧
      parseTupfileVar (some ⟨layout P V w0 w1 ((layoutTokens g ls).map (·, [' '])) [] Q⟩) ⟨V⟩ =
        (layoutTokens g ls).map String.mk := by
  have hw0 : ∀ c ∈ w0, isSpace c = true := fun c hc => (hw.1 c hc).1
  -- every layout of the same text parses alike
  have hparse : ∀ (g' : List (List Char × List Char))
      (ls' : List (List Char × List (List Char × List Char))), GoodGroup g' →
      (∀ l ∈ ls', (l.1 ≠ [] ∧ ∀ c ∈ l.1, IsBlank c) ∧ GoodGroup l.2) →
      parseTupfileVar (some ⟨layout P V w0 w1 g' ls' Q⟩) ⟨V⟩ =
        (layoutTokens g' ls').map String.mk := by
    intro g' ls' hg' hls'
    simp only [parseTupfileVar, layout, List.append_assoc, List.cons_append]
    rw [← List.append_assoc V w0, searchAssign_layout hV hw0 hP hPV]
    simp only [split, replace]
    rw [splitWs_body hw.2 hg' hls' hQ]
  refine ⟨hparse g ls hg hls, ?_⟩
  have hone : layoutTokens ((layoutTokens g ls).map (·, [' '])) [] = layoutTokens g ls := by
    simp [layoutTokens, Function.comp_def]
  rw [hparse _ [] ?_ (by simp), hone]
  -- the one-line form separates the tokens by single blanks
  intro p hp
  obtain ⟨t, ht, rfl⟩ := List.mem_map.1 hp
  refine ⟨?_, by simp, by simp [IsBlank]⟩
  simp only [layoutTokens, List.mem_append, List.mem_map, List.mem_flatMap] at ht
  rcases ht with ⟨q, hq, rfl⟩ | ⟨l, hl, q, hq, rfl⟩
  · exact (hg q hq).1
  · exact ((hls l hl).2 q hq).1

/-- `DEPENDS` over two lines, after a `LINUX-DEPENDS` line and before a `TYPE` line. -/
theorem parseTupfileVar_layout_sample :
    ("DEPENDS".data ≠ [] ∧ ∀ c ∈ "DEPENDS".data, isSpace c = false ∧ c ≠ '=') ∧
    ((∀ c ∈ " ".data, IsBlank c) ∧ ∀ c ∈ " ".data, IsBlank c) ∧
    GoodGroup [("ot-a".data, " ".data)] ∧
    (∀ l ∈ [("  ".data, [("ot-b".data, " ".data), ("ext-z".data, " ".data)])],
      (l.1 ≠ [] ∧ ∀ c ∈ l.1, IsBlank c) ∧ GoodGroup l.2) ∧
    ("LINUX-DEPENDS = ot-x\n".data = [] ∨ "LINUX-DEPENDS = ot-x\n".data.getLast? = some '\n') ∧
    (∀ j < "LINUX-DEPENDS = ot-x\n".data.length,
      (j = 0 ∨ "LINUX-DEPENDS = ot-x\n".data[j - 1]? = some '\n') →
        assignHead "DEPENDS".data ("LINUX-DEPENDS = ot-x\n".data.drop j) = none) ∧
    ("\nTYPE = lib".data = [] ∨ ∃ Q', "\nTYPE = lib".data = '\n' :: Q' ∧
      Q'.head?.all (fun d => !isSpace d) = true) ∧
    (parseTupfileVar (some ⟨layout "LINUX-DEPENDS = ot-x\n".data "DEPENDS".data " ".data " ".data
        [("ot-a".data, " ".data)] [("  ".data, [("ot-b".data, " ".data), ("ext-z".data, " ".data)])]
        "\nTYPE = lib".data⟩) ⟨"DEPENDS".data⟩ =
      (layoutTokens [("ot-a".data, " ".data)]
        [("  ".data, [("ot-b".data, " ".data), ("ext-z".data, " ".data)])]).map String.mk ∧
    parseTupfileVar (some ⟨layout "LINUX-DEPENDS = ot-x\n".data "DEPENDS".data " ".data " ".data
        ((layoutTokens [("ot-a".data, " ".data)]
          [("  ".data, [("ot-b".data, " ".data), ("ext-z".data, " ".data)])]).map (·, [' '])) []
        "\nTYPE = lib".data⟩) ⟨"DEPENDS".data⟩ =
      (layoutTokens [("ot-a".data, " ".data)]
        [("  ".data, [("ot-b".data, " ".data), ("ext-z".data, " ".data)])]).map String.mk) := by
  have hV : "DEPENDS".data ≠ [] ∧ ∀ c ∈ "DEPENDS".data, isSpace c = false ∧ c ≠ '=' := by decide
  have hw : (∀ c ∈ " ".data, IsBlank c) ∧ ∀ c ∈ " ".data, IsBlank c := by decide
  have hg : GoodGroup [("ot-a".data, " ".data)] := by decide
  have hls : ∀ l ∈ [("  ".data, [("ot-b".data, " ".data), ("ext-z".data, " ".data)])],
      (l.1 ≠ [] ∧ ∀ c ∈ l.1, IsBlank c) ∧ GoodGroup l.2 := by decide
  have hP : "LINUX-DEPENDS = ot-x\n".data = [] ∨
      "LINUX-DEPENDS = ot-x\n".data.getLast? = some '\n' := by decide
  have hPV : ∀ j < "LINUX-DEPENDS = ot-x\n".data.length,
      (j = 0 ∨ "LINUX-DEPENDS = ot-x\n".data[j - 1]? = some '\n') →
        assignHead "DEPENDS".data ("LINUX-DEPENDS = ot-x\n".data.drop j) = none := by decide
  have hQ : "\nTYPE = lib".data = [] ∨ ∃ Q', "\nTYPE = lib".data = '\n' :: Q' ∧
      Q'.head?.all (fun d => !isSpace d) = true := .inr ⟨_, rfl, by decide⟩
  exact ⟨hV, hw, hg, hls, hP, hPV, hQ, parseTupfileVar_layout _ _ _ _ _ _ _ hV hw hg hls hP hPV hQ⟩

example : parseTupfileVar (some "TYPE = lib\nDEPENDS = ot-a \\\n  ot-b ext-z\nX=1\n") "DEPENDS"
    = ["ot-a", "ot-b", "ext-z"] := by decide

/-! ## 7. Where the value ends -/

/-- The body runs over every newline that whitespace follows. -/
theorem lazyBody_runs_on {Q : List Char} : ∀ B : List Char,
    (∀ i < B.length, B[i]? = some '\n' → ((B ++ Q)[i + 1]?).any isSpace = true) →
      lazyBody (B ++ Q) = B ++ lazyBody Q
  | [], _ => rfl
  | c :: B, hB => by
    have hc : ¬ (c = '\n' ∧ (B ++ Q).head?.all (fun d => !isSpace d) = true) := by
      rintro ⟨rfl, hh⟩
      have h0 := hB 0 (by simp) (by simp)
      cases hBQ : B ++ Q <;> simp_all
    -- the rest of the body keeps the hypothesis, one position on
    have hB' : ∀ i < B.length, B[i]? = some '\n' → ((B ++ Q)[i + 1]?).any isSpace = true :=
      fun i hi hic => by simpa using hB (i + 1) (by simpa using hi) (by simpa using hic)
    rw [List.cons_append, lazyBody, if_neg hc, lazyBody_runs_on B hB']
    rfl

/-- The value of `V` is the text from its `=` up to the first newline that no whitespace follows,
or the end: its tokens, once each backslash-newline is a blank, are what `parse_tupfile_var`
returns, whether its lines end in a backslash or not. -/
theorem parseTupfileVar_value (P V w0 B Q : List Char)
    (hV : V ≠ [] ∧ ∀ c ∈ V, isSpace c = false ∧ c ≠ '=') (hw0 : ∀ c ∈ w0, isSpace c = true)
    (hP : P = [] ∨ P.getLast? = some '\n')
    (hPV : ∀ j < P.length, (j = 0 ∨ P[j - 1]? = some '\n') → assignHead V (P.drop j) = none)
    (hB : ∀ i < B.length, B[i]? = some '\n' → ((B ++ Q)[i + 1]?).any isSpace = true)
    (hQ : Q = [] ∨ ∃ Q', Q = '\n' :: Q' ∧ Q'.head?.all (fun d => !isSpace d) = true) :
    parseTupfileVar (some ⟨P ++ (V ++ w0 ++ '=' :: (B ++ Q))⟩) ⟨V⟩ = split (replace ⟨B⟩ "\\\n" " ") := by
  simp only [parseTupfileVar]
  rw [searchAssign_layout hV hw0 hP hPV, lazyBody_runs_on B hB, lazyBody_closing hQ,
    List.append_nil]

/-- An indented comment after `DEPENDS` is read as two more dependencies. -/
theorem parseTupfileVar_value_indented_comment :
    ("DEPENDS".data ≠ [] ∧ ∀ c ∈ "DEPENDS".data, isSpace c = false ∧ c ≠ '=') ∧
    (∀ c ∈ " ".data, isSpace c = true) ∧
    ("TYPE = lib\n".data = [] ∨ "TYPE = lib\n".data.getLast? = some '\n') ∧
    (∀ j < "TYPE = lib\n".data.length, (j = 0 ∨ "TYPE = lib\n".data[j - 1]? = some '\n') →
      assignHead "DEPENDS".data ("TYPE = lib\n".data.drop j) = none) ∧
    (∀ i < " ot-a\n  # comment".data.length, " ot-a\n  # comment".data[i]? = some '\n' →
      ((" ot-a\n  # comment".data ++ "\nX = 1\n".data)[i + 1]?).any isSpace = true) ∧
    ("\nX = 1\n".data = [] ∨ ∃ Q', "\nX = 1\n".data = '\n' :: Q' ∧
      Q'.head?.all (fun d => !isSpace d) = true) ∧
    parseTupfileVar (some ⟨"TYPE = lib\n".data ++ ("DEPENDS".data ++ " ".data ++
        '=' :: (" ot-a\n  # comment".data ++ "\nX = 1\n".data))⟩) ⟨"DEPENDS".data⟩ =
      split (replace ⟨" ot-a\n  # comment".data⟩ "\\\n" " ") ∧
    split (replace ⟨" ot-a\n  # comment".data⟩ "\\\n" " ") = ["ot-a", "#", "comment"] := by
  have hV : "DEPENDS".data ≠ [] ∧ ∀ c ∈ "DEPENDS".data, isSpace c = false ∧ c ≠ '=' := by decide
  have hw0 : ∀ c ∈ " ".data, isSpace c = true := by decide
  have hP : "TYPE = lib\n".data = [] ∨ "TYPE = lib\n".data.getLast? = some '\n' := by decide
  have hPV : ∀ j < "TYPE = lib\n".data.length, (j = 0 ∨ "TYPE = lib\n".data[j - 1]? = some '\n') →
      assignHead "DEPENDS".data ("TYPE = lib\n".data.drop j) = none := by decide
  have hB : ∀ i < " ot-a\n  # comment".data.length, " ot-a\n  # comment".data[i]? = some '\n' →
      ((" ot-a\n  # comment".data ++ "\nX = 1\n".data)[i + 1]?).any isSpace = true := by decide
  have hQ : "\nX = 1\n".data = [] ∨ ∃ Q', "\nX = 1\n".data = '\n' :: Q' ∧
      Q'.head?.all (fun d => !isSpace d) = true := .inr ⟨_, rfl, by decide⟩
  exact ⟨hV, hw0, hP, hPV, hB, hQ, parseTupfileVar_value _ _ _ _ _ hV hw0 hP hPV hB hQ, by decide⟩

end ObToolsBuild.Tupfile
