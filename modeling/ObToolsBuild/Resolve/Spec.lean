import Mathlib.Logic.Relation
import Mathlib.Data.Finset.Card
import ObToolsBuild.Py.Loop
import ObToolsBuild.Resolve.Model

/-!
# Spec — what every call of `resolve_deps` delivers

The walk is a recursion whose calls share one state, so its invariant has to speak about the calls
still running.  `StackInv S c` says that every visited library outside the running calls `S` is
*finished*: all it depends on is visited and, if a library, listed.  A call keeps the invariant, and
once the top-level call returns, with nothing left running, every visited library is finished.

The deepest-first order follows from the same invariant: when `ot-y.a` is first appended, `y`'s own
call (or an earlier one) has returned, and a running call is reachable from `y` only through a cycle
(`settled`).
-/

namespace ObToolsBuild.Resolve

open Py Relation

/-! ## 1. The dependency graph -/

/-- `y` is a library that the loop of `resolve_deps(x, …)` recurses into. -/
def Dep (m : Manifests) (x y : String) : Prop := y ∈ depLibsOf (tupfile m x)

theorem dep_iff {m : Manifests} {x y : String} :
    Dep m x y ↔ ∃ dep ∈ tupfileDeps m x, startswith dep "ext-" = false ∧ stripOt dep = y := by
  simp [Dep, depLibsOf, tupfileDeps, List.mem_filterMap]

theorem tupfile_mem {m : Manifests} {lib t : String} (h : tupfile m lib = some t) :
    (lib, t) ∈ m := by
  obtain ⟨l₁, l₂, rfl, -⟩ := List.lookup_eq_some_iff.1 h
  simp

/-- Whatever any library depends on lies in `libUniverse`. -/
theorem mem_libUniverse_of_dep {m : Manifests} {x y : String} (root : String) (h : Dep m x y) :
    y ∈ libUniverse m root := by
  unfold Dep at h
  cases ht : tupfile m x with
  | none => simp [ht, depLibsOf, depsOf, Tupfile.parseTupfileVar] at h
  | some t =>
    rw [ht] at h
    exact List.mem_cons_of_mem _ (List.mem_flatMap.2 ⟨(x, t), tupfile_mem ht, h⟩)

theorem mem_libUniverse_of_reach {m : Manifests} {root lib : String}
    (h : ReflTransGen (Dep m) root lib) : lib ∈ libUniverse m root := by
  cases h.cases_tail with
  | inl h => exact h ▸ List.mem_cons_self _ _
  | inr h =>
    obtain ⟨x, -, hx⟩ := h
    exact mem_libUniverse_of_dep root hx

/-! ## 2. Growth of the shared state -/

/-- `c'` extends `c`: nothing visited or listed is ever lost. -/
structure Closure.Le (c c' : Closure) : Prop where
  visited : c.visited ⊆ c'.visited
  linkLibs : c.linkLibs ⊆ c'.linkLibs

theorem Closure.Le.refl (c : Closure) : c.Le c := ⟨fun _ h => h, fun _ h => h⟩

theorem Closure.Le.trans {c₁ c₂ c₃ : Closure} (h₁ : c₁.Le c₂) (h₂ : c₂.Le c₃) : c₁.Le c₃ :=
  ⟨h₁.visited.trans h₂.visited, h₁.linkLibs.trans h₂.linkLibs⟩

theorem Closure.le_visit (c : Closure) (lib : String) : c.Le (c.visit lib) :=
  ⟨fun _ h => List.mem_cons_of_mem _ h, fun _ h => h⟩

theorem Closure.le_addArtifact (m : Manifests) (bd : String) (c : Closure) (y : String) :
    c.Le (c.addArtifact m bd y) :=
  ⟨fun _ h => by simpa using h, fun _ h => Closure.mem_addArtifact_linkLibs.2 (.inl h)⟩

/-- The libraries of `libUniverse m root` not visited yet: every call that gets past the visited
check lowers it. -/
def unvisited (m : Manifests) (root : String) (c : Closure) : Nat :=
  ((libUniverse m root).toFinset \ c.visited.toFinset).card

theorem unvisited_le {m : Manifests} {root : String} {c c' : Closure} (h : c.Le c') :
    unvisited m root c' ≤ unvisited m root c :=
  Finset.card_le_card (Finset.sdiff_subset_sdiff (le_refl _) fun x hx => by
    simpa using h.visited (by simpa using hx))

theorem unvisited_visit_lt {m : Manifests} {root lib : String} {c : Closure}
    (hU : lib ∈ libUniverse m root) (hv : lib ∉ c.visited) :
    unvisited m root (c.visit lib) < unvisited m root c := by
  apply Finset.card_lt_card
  rw [Finset.ssubset_iff_of_subset (Finset.sdiff_subset_sdiff (le_refl _) (by simp))]
  exact ⟨lib, by simp [hU, hv], by simp⟩

/-! ## 3. The invariant -/

section Invariant

variable (m : Manifests) (bd root : String)

/-- `x` is finished in `c`: whatever its loop recurses into is visited and, if a library,
listed. -/
def Finished (c : Closure) (x : String) : Prop :=
  ∀ y, Dep m x y → y ∈ c.visited ∧ (isLibType m y = true → artifact bd y ∈ c.linkLibs)

/-- The calls still running are those for `S`: every other visited library is finished. -/
def StackInv (S : List String) (c : Closure) : Prop :=
  ∀ x ∈ c.visited, x ∉ S → Finished m bd c x

/-- Deepest-first: below a library on no cycle, every library it reaches is listed earlier. -/
def DeepestFirst (l : List String) : Prop :=
  ∀ a b, artifact bd a ∈ l → ¬ TransGen (Dep m) a a → TransGen (Dep m) a b →
    isLibType m b = true → l.indexOf (artifact bd b) < l.indexOf (artifact bd a)

/-- What holds of the shared state at every point of a resolution from `root`. -/
structure Invariant (c : Closure) : Prop where
  reach : ∀ x ∈ c.visited, ReflTransGen (Dep m) root x
  sound : ∀ a ∈ c.linkLibs,
    ∃ b, a = artifact bd b ∧ isLibType m b = true ∧ TransGen (Dep m) root b
  visited_nodup : c.visited.Nodup
  linkLibs_nodup : c.linkLibs.Nodup
  deepestFirst : DeepestFirst m bd c.linkLibs

variable {m bd root}

theorem Finished.mono {c c' : Closure} {x : String} (h : Finished m bd c x) (hle : c.Le c') :
    Finished m bd c' x := fun y hy =>
  ⟨hle.visited (h y hy).1, fun hl => hle.linkLibs ((h y hy).2 hl)⟩

theorem StackInv.mono {S : List String} {c c' : Closure}
    (h : StackInv m bd S c) (hle : c.Le c') (hv : c'.visited = c.visited) :
    StackInv m bd S c' := fun x hx hxS =>
  (h x (hv ▸ hx) hxS).mono hle

theorem Invariant.empty : Invariant m bd root ⟨[], []⟩ :=
  ⟨by simp, by simp, List.nodup_nil, List.nodup_nil, fun _ _ h => by simp at h⟩

theorem Invariant.visit {c : Closure} {lib : String} (h : Invariant m bd root c)
    (hlib : ReflTransGen (Dep m) root lib) (hv : lib ∉ c.visited) :
    Invariant m bd root (c.visit lib) where
  reach x hx := by
    rcases List.mem_cons.1 hx with rfl | hx
    exacts [hlib, h.reach x hx]
  sound := h.sound
  visited_nodup := List.nodup_cons.2 ⟨hv, h.visited_nodup⟩
  linkLibs_nodup := h.linkLibs_nodup
  deepestFirst := h.deepestFirst

/-- Appending `ot-y.a` keeps the order when everything `y` reaches is already listed. -/
theorem DeepestFirst.append {l : List String} {y : String} (h : DeepestFirst m bd l)
    (hnot : artifact bd y ∉ l)
    (hset : ¬ TransGen (Dep m) y y →
      ∀ b, TransGen (Dep m) y b → isLibType m b = true → artifact bd b ∈ l) :
    DeepestFirst m bd (l ++ [artifact bd y]) := by
  intro a b ha hacyc hab hb
  rcases List.mem_append.1 ha with ha | ha
  · have hlt := h a b ha hacyc hab hb
    have hbmem : artifact bd b ∈ l :=
      List.indexOf_lt_length.1 (hlt.trans (List.indexOf_lt_length.2 ha))
    rwa [List.indexOf_append_of_mem ha, List.indexOf_append_of_mem hbmem]
  · obtain rfl := artifact_injective bd (List.mem_singleton.1 ha)
    have hbmem := hset hacyc b hab hb
    rw [List.indexOf_append_of_mem hbmem, List.indexOf_append_of_not_mem hnot]
    simpa using List.indexOf_lt_length.2 hbmem

theorem Invariant.addArtifact {c : Closure} {y : String} (h : Invariant m bd root c)
    (hy : TransGen (Dep m) root y)
    (hset : ¬ TransGen (Dep m) y y →
      ∀ b, TransGen (Dep m) y b → isLibType m b = true → artifact bd b ∈ c.linkLibs) :
    Invariant m bd root (c.addArtifact m bd y) := by
  unfold Closure.addArtifact
  split_ifs with hlib hmem
  · exact h
  · refine ⟨h.reach, fun a ha => ?_, h.visited_nodup, ?_, h.deepestFirst.append hmem hset⟩
    · rcases List.mem_append.1 ha with ha | ha
      · exact h.sound a ha
      · exact ⟨y, List.mem_singleton.1 ha, hlib, hy⟩
    · exact h.linkLibs_nodup.append (List.nodup_singleton _) (by simpa using hmem)
  · exact h

/-- Below a visited library from which no running call is reachable, everything is visited and
finished. -/
theorem finished_of_reach {S : List String} {c : Closure} {y : String}
    (hS : StackInv m bd S c) (hy : y ∈ c.visited)
    (hfree : ∀ z, ReflTransGen (Dep m) y z → z ∉ S) :
    ∀ z, ReflTransGen (Dep m) y z → z ∈ c.visited ∧ Finished m bd c z := by
  intro z hz
  induction hz with
  | refl => exact ⟨hy, hS y hy (hfree y .refl)⟩
  | tail hyz hzw ih =>
    have hw := (ih.2 _ hzw).1
    exact ⟨hw, hS _ hw (hfree _ (hyz.tail hzw))⟩

/-- When the call for `y` has returned inside the calls `S`, which all reach `y`, and `y` is on no
cycle, every library `y` reaches is already listed. -/
theorem settled {S : List String} {c : Closure} {y : String} (hS : StackInv m bd S c)
    (hy : y ∈ c.visited) (hstack : ∀ s ∈ S, TransGen (Dep m) s y)
    (hacyc : ¬ TransGen (Dep m) y y) :
    ∀ b, TransGen (Dep m) y b → isLibType m b = true → artifact bd b ∈ c.linkLibs := by
  have hfree : ∀ z, ReflTransGen (Dep m) y z → z ∉ S := fun z hz hzS =>
    hacyc (TransGen.trans_right hz (hstack z hzS))
  intro b hyb hb
  obtain ⟨z, hyz, hzb⟩ := TransGen.tail'_iff.1 hyb
  exact ((finished_of_reach hS hy hfree z hyz).2 b hzb).2 hb

end Invariant

/-! ## 4. Every call returns, and keeps the invariant -/

section Call

variable (m : Manifests) (bd root : String)

/-- What `resolve_deps(lib, …)` with `fuel` delivers, from a state of a resolution from `root`
in which the calls for `S`, all reaching `lib`, are running: it returns, keeps the invariant,
leaves only `S` unfinished, visits `lib` and loses nothing. -/
def CallSpec (fuel : Nat) : Prop :=
  ∀ lib c S, ReflTransGen (Dep m) root lib → (∀ s ∈ S, TransGen (Dep m) s lib) →
    Invariant m bd root c → StackInv m bd S c → unvisited m root c < fuel →
    ∃ c', resolveDepsFuel m bd fuel lib c = some c' ∧ Invariant m bd root c' ∧
      StackInv m bd S c' ∧ lib ∈ c'.visited ∧ c.Le c'

/-- The loop of `resolve_deps(lib, …)`, started from `c₁`, once the `deps` in `done` are
processed. -/
structure LoopInv (lib : String) (S : List String) (c₁ : Closure) (fuel : Nat)
    (done : List String) (c : Closure) : Prop where
  inv : Invariant m bd root c
  stack : StackInv m bd (lib :: S) c
  le : c₁.Le c
  bound : unvisited m root c < fuel
  done : ∀ dep ∈ done, startswith dep "ext-" = false →
    stripOt dep ∈ c.visited ∧
      (isLibType m (stripOt dep) = true → artifact bd (stripOt dep) ∈ c.linkLibs)

variable {m bd root}

/-- One iteration of the loop keeps `LoopInv`. -/
theorem loopInv_step {lib : String} {S : List String} {c₁ : Closure} {fuel : Nat}
    (hrec : CallSpec m bd root fuel) (hlib : ReflTransGen (Dep m) root lib)
    (hS : ∀ s ∈ S, TransGen (Dep m) s lib) {dep : String} (hdep : dep ∈ tupfileDeps m lib)
    {done : List String} {c : Closure} (h : LoopInv m bd root lib S c₁ fuel done c) :
    ∃ c', depStep m bd (resolveDepsFuel m bd fuel) c dep = some c' ∧
      LoopInv m bd root lib S c₁ fuel (done ++ [dep]) c' := by
  cases hext : startswith dep "ext-"
  · have hd : Dep m lib (stripOt dep) := dep_iff.2 ⟨dep, hdep, hext, rfl⟩
    have hstack : ∀ s ∈ lib :: S, TransGen (Dep m) s (stripOt dep) := by
      intro s hs
      rcases List.mem_cons.1 hs with rfl | hs
      exacts [.single hd, (hS s hs).tail hd]
    obtain ⟨c₂, hrun, hinv, hstk, hmem, hle⟩ :=
      hrec _ c _ (hlib.tail hd) hstack h.inv h.stack h.bound
    have hle' := Closure.le_addArtifact m bd c₂ (stripOt dep)
    refine ⟨_, depStep_of_not_ext hext hrun, hinv.addArtifact (TransGen.tail' hlib hd)
      (settled hstk hmem hstack), hstk.mono hle' (Closure.addArtifact_visited ..),
      h.le.trans (hle.trans hle'),
      lt_of_le_of_lt (unvisited_le (hle.trans hle')) h.bound, ?_⟩
    intro d hd' hdext
    rcases List.mem_append.1 hd' with hd' | hd'
    · have hd'' := h.done d hd' hdext
      exact ⟨(hle.trans hle').visited hd''.1, fun hl => (hle.trans hle').linkLibs (hd''.2 hl)⟩
    · obtain rfl := List.mem_singleton.1 hd'
      exact ⟨by simpa using hmem, fun hl => Closure.mem_addArtifact_linkLibs.2 (.inr ⟨hl, rfl⟩)⟩
  · refine ⟨c, depStep_of_ext c hext, { h with done := fun d hd' hdext => ?_ }⟩
    rcases List.mem_append.1 hd' with hd' | hd'
    · exact h.done d hd' hdext
    · simp_all

/-- Every call with enough fuel returns and delivers `CallSpec`. -/
theorem resolveDepsFuel_spec : ∀ fuel, CallSpec m bd root fuel
  | 0 => fun _ _ _ _ _ _ _ h => absurd h (Nat.not_lt_zero _)
  | fuel + 1 => by
    intro lib c S hlib hS hinv hstk hbound
    by_cases hv : lib ∈ c.visited
    · exact ⟨c, resolveDepsFuel_of_visited fuel hv, hinv, hstk, hv, .refl c⟩
    have hstart : LoopInv m bd root lib S (c.visit lib) fuel [] (c.visit lib) :=
      ⟨hinv.visit hlib hv, fun x hx hxS => (hstk x ((List.mem_cons.1 hx).resolve_left
        fun h => hxS (h ▸ List.mem_cons_self _ _)) fun h => hxS (List.mem_cons_of_mem _ h)).mono
        (c.le_visit lib), .refl _,
        by have := unvisited_visit_lt (mem_libUniverse_of_reach hlib) hv; omega, by simp⟩
    obtain ⟨c', hrun, hloop⟩ := foldlM_option_inv (LoopInv m bd root lib S (c.visit lib) fuel)
      (tupfileDeps m lib) [] (c.visit lib)
      (fun dep hdep _ _ h => loopInv_step (resolveDepsFuel_spec fuel) hlib hS hdep h) hstart
    have hfin : Finished m bd c' lib := fun y hy => by
      obtain ⟨dep, hdep, hext, rfl⟩ := dep_iff.1 hy
      exact hloop.done dep (by simpa using hdep) hext
    refine ⟨c', by rw [resolveDepsFuel_of_not_visited fuel hv]; exact hrun, hloop.inv,
      fun x hx hxS => ?_, hloop.le.visited (List.mem_cons_self _ _),
      (c.le_visit lib).trans hloop.le⟩
    by_cases hx' : x = lib
    · exact hx' ▸ hfin
    · exact hloop.stack x hx (by simp [hx', hxS])

/-- The top-level call returns, with nothing left unfinished. -/
theorem resolveDepsRun_spec (m : Manifests) (bd root : String) :
    ∃ c, resolveDepsRun m bd root = some c ∧ Invariant m bd root c ∧
      StackInv m bd [] c ∧ root ∈ c.visited := by
  have hbound : unvisited m root ⟨[], []⟩ < resolveFuel m root := by
    simp only [unvisited, resolveFuel, List.toFinset_nil, Finset.sdiff_empty]
    have := List.toFinset_card_le (libUniverse m root)
    omega
  obtain ⟨c, hrun, hinv, hstk, hmem, -⟩ := resolveDepsFuel_spec (resolveFuel m root) root
    ⟨[], []⟩ [] .refl (by simp) Invariant.empty (fun _ h => by simp at h) hbound
  exact ⟨c, hrun, hinv, hstk, hmem⟩

end Call

end ObToolsBuild.Resolve
