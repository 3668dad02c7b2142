import ObToolsBuild.Resolve.Spec

/-!
# Correct — what `resolve_deps(lib)` returns

From the state the top-level call returns (`resolveDepsRun_spec`): the libraries visited are
exactly those reachable from `lib`, each once; the archives listed are exactly those of the
libraries reachable by at least one edge, each once, deepest first wherever no cycle intervenes.
The top-level library's own archive is listed exactly when it lies on a cycle.
-/

namespace ObToolsBuild.Resolve

open Relation

variable {m : Manifests} {bd root : String}

/-- Once nothing is running, everything reachable from the root is visited and finished. -/
theorem finished_of_reach_root {c : Closure} (hstk : StackInv m bd [] c)
    (hroot : root ∈ c.visited) {x : String} (hx : ReflTransGen (Dep m) root x) :
    x ∈ c.visited ∧ Finished m bd c x :=
  finished_of_reach hstk hroot (fun _ _ h => by simp at h) x hx

/-- Once nothing is running, every library reachable by an edge is listed. -/
theorem mem_linkLibs_of_transGen {c : Closure} (hstk : StackInv m bd [] c)
    (hroot : root ∈ c.visited) {b : String} (hb : isLibType m b = true)
    (hrb : TransGen (Dep m) root b) : artifact bd b ∈ c.linkLibs := by
  obtain ⟨z, hz, hzb⟩ := TransGen.tail'_iff.1 hrb
  exact ((finished_of_reach_root hstk hroot hz).2 b hzb).2 hb

/-- The archives listed are exactly those of the libraries reachable by an edge. -/
theorem mem_linkLibs_iff {c : Closure} (hinv : Invariant m bd root c)
    (hstk : StackInv m bd [] c) (hroot : root ∈ c.visited) (b : String) :
    artifact bd b ∈ c.linkLibs ↔ isLibType m b = true ∧ TransGen (Dep m) root b := by
  refine ⟨fun h => ?_, fun h => mem_linkLibs_of_transGen hstk hroot h.1 h.2⟩
  obtain ⟨b', he, hl, hr⟩ := hinv.sound _ h
  obtain rfl := artifact_injective bd he
  exact ⟨hl, hr⟩

/-- `resolve_deps(L)` returns a list without duplicates, of archives of libraries reachable from
`L` by at least one edge, listing every such library's archive exactly once. -/
theorem resolveDeps_sound_complete (m : Manifests) (bd L : String) :
    ∃ r, resolveDeps m bd L = some r ∧ r.Nodup ∧
      (∀ a ∈ r, ∃ b, a = artifact bd b ∧ isLibType m b = true ∧ TransGen (Dep m) L b) ∧
      ∀ b, isLibType m b = true → TransGen (Dep m) L b → b ≠ L → r.count (artifact bd b) = 1 := by
  obtain ⟨c, hrun, hinv, hstk, hroot⟩ := resolveDepsRun_spec m bd L
  refine ⟨c.linkLibs, by simp [resolveDeps, hrun], hinv.linkLibs_nodup, hinv.sound,
    fun b hb hLb _ => List.count_eq_one_of_mem hinv.linkLibs_nodup
      (mem_linkLibs_of_transGen hstk hroot hb hLb)⟩

example : resolveDeps [("mathx", "DEPENDS = ot-util ext-zlib\n"), ("util", "TYPE = lib\n")]
    "/b" "mathx" = some ["/b/lib/ot-util.a"] := by decide

/-- Deepest first: below a library from which no cycle is reachable, every library it reaches
is listed earlier. -/
theorem resolveDeps_deepest_first (m : Manifests) (bd L : String) :
    ∃ r, resolveDeps m bd L = some r ∧
      ∀ a b, isLibType m a = true → isLibType m b = true → a ≠ b →
        ReflTransGen (Dep m) a b → (∀ x, ReflTransGen (Dep m) a x → ¬ TransGen (Dep m) x x) →
        artifact bd a ∈ r → artifact bd b ∈ r ∧ r.indexOf (artifact bd b) < r.indexOf (artifact bd a) := by
  obtain ⟨c, hrun, hinv, -, -⟩ := resolveDepsRun_spec m bd L
  refine ⟨c.linkLibs, by simp [resolveDeps, hrun], fun a b _ hb hab hr hacyc ha => ?_⟩
  have hab' : TransGen (Dep m) a b := (hr.cases_head.resolve_left hab).elim
    fun x ⟨hax, hxb⟩ => TransGen.head' hax hxb
  have hlt := hinv.deepestFirst a b ha (hacyc a .refl) hab' hb
  exact ⟨List.indexOf_lt_length.1 (hlt.trans (List.indexOf_lt_length.2 ha)), hlt⟩

/-- `L`'s own archive is in `resolve_deps(L)` exactly when `L` is a library on a dependency
cycle; otherwise `[own_a] + resolve_deps(L)` has no duplicate. -/
theorem resolveDeps_own_artifact (m : Manifests) (bd L : String) :
    ∃ r, resolveDeps m bd L = some r ∧
      (artifact bd L ∈ r ↔ isLibType m L = true ∧ TransGen (Dep m) L L) ∧
      ((artifact bd L :: r).Nodup ↔ ¬ (isLibType m L = true ∧ TransGen (Dep m) L L)) := by
  obtain ⟨c, hrun, hinv, hstk, hroot⟩ := resolveDepsRun_spec m bd L
  have hiff := mem_linkLibs_iff hinv hstk hroot L
  refine ⟨c.linkLibs, by simp [resolveDeps, hrun], hiff, ?_⟩
  rw [List.nodup_cons, ← hiff]
  exact ⟨fun h => h.1, fun h => ⟨h, hinv.linkLibs_nodup⟩⟩

/-- A library that lists itself puts its own archive in `resolve_deps`. -/
theorem resolveDeps_self_dependency :
    resolveDeps [("a", "DEPENDS = ot-a\n")] "/b" "a" = some [artifact "/b" "a"] := by decide

/-- `resolve_deps(L)` returns, and the body past the visited check runs once for each library
reachable from `L`, `L` included, and for no other: `visited` records those runs. -/
theorem resolveDepsRun_visits_reachable_once (m : Manifests) (bd L : String) :
    ∃ c, resolveDepsRun m bd L = some c ∧ c.visited.Nodup ∧
      ∀ x, x ∈ c.visited ↔ ReflTransGen (Dep m) L x := by
  obtain ⟨c, hrun, hinv, hstk, hroot⟩ := resolveDepsRun_spec m bd L
  exact ⟨c, hrun, hinv.visited_nodup, fun x =>
    ⟨hinv.reach x, fun hx => (finished_of_reach_root hstk hroot hx).1⟩⟩

end ObToolsBuild.Resolve
