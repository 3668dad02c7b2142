import ObToolsBuild.Resolve.Spec

/-!
# Frame — `resolve_deps(lib)` reads only the Tupfiles of what `lib` reaches

The walk opens the Tupfile of each library it visits and, for each dependency, the Tupfile that
gives its `TYPE`; every one of them is reachable from `lib`.  So two manifest maps that agree on
the libraries reachable from `lib` resolve it alike (`resolveDeps_frame`): editing, adding or
removing the Tupfile of any other library leaves `lib`'s link line as it is.  The two runs start
with different fuel, and a call that returns keeps its result under more fuel
(`resolveDepsFuel_add`), so both are compared at the larger bound.
-/

namespace ObToolsBuild.Resolve

open Py Relation

/-! ## 1. More fuel -/

theorem depStep_mono {m : Manifests} {bd dep : String}
    {r r' : String → Closure → Option Closure}
    (h : ∀ lib c c', r lib c = some c' → r' lib c = some c') {c c' : Closure}
    (hs : depStep m bd r c dep = some c') : depStep m bd r' c dep = some c' := by
  unfold depStep at hs ⊢
  split_ifs at hs ⊢
  · exact hs
  · obtain ⟨c₂, hc₂, rfl⟩ := Option.map_eq_some'.1 hs
    simp [h _ _ _ hc₂]

/-- A call that returns keeps its result under more fuel. -/
theorem resolveDepsFuel_add (m : Manifests) (bd : String) (k : Nat) :
    ∀ n lib c c', resolveDepsFuel m bd n lib c = some c' →
      resolveDepsFuel m bd (n + k) lib c = some c'
  | 0, _, _, _, h => by simp [resolveDepsFuel] at h
  | n + 1, lib, c, c', h => by
    rw [Nat.add_right_comm]
    by_cases hv : lib ∈ c.visited
    · rwa [resolveDepsFuel_of_visited _ hv] at h ⊢
    · rw [resolveDepsFuel_of_not_visited _ hv] at h ⊢
      exact foldlM_option_mono _ _ _
        (fun _ _ _ _ => depStep_mono (resolveDepsFuel_add m bd k n)) h

/-! ## 2. Manifests that agree on what `L` reaches -/

section Frame

variable {m m' : Manifests} {bd L : String}

/-- Every call for a library reachable from `L` runs alike over `m` and `m'`. -/
theorem resolveDepsFuel_frame
    (hm : ∀ x, ReflTransGen (Dep m) L x → tupfile m x = tupfile m' x) :
    ∀ n lib c, ReflTransGen (Dep m) L lib →
      resolveDepsFuel m bd n lib c = resolveDepsFuel m' bd n lib c
  | 0, _, _, _ => rfl
  | n + 1, lib, c, hlib => by
    have hdeps : tupfileDeps m lib = tupfileDeps m' lib := by simp only [tupfileDeps, hm lib hlib]
    simp only [resolveDepsFuel, ← hdeps]
    split_ifs
    · rfl
    refine foldlM_congr_mem _ _ fun dep hdep c => ?_
    unfold depStep
    split_ifs with hext
    · rfl
    -- the dependency is reachable: its call runs alike, and so does the read of its `TYPE`
    have hy : ReflTransGen (Dep m) L (stripOt dep) :=
      hlib.tail (dep_iff.2 ⟨dep, hdep, by simpa using hext, rfl⟩)
    have htype : isLibType m (stripOt dep) = isLibType m' (stripOt dep) := by
      simp only [isLibType, hm _ hy]
    rw [resolveDepsFuel_frame hm n _ c hy]
    simp only [Closure.addArtifact, htype]

/-- `resolve_deps(L)` is the same over any two manifest maps that give every library reachable
from `L` the same Tupfile, or none in both. -/
theorem resolveDeps_frame (m m' : Manifests) (bd L : String)
    (hm : ∀ x, ReflTransGen (Dep m) L x → tupfile m x = tupfile m' x) :
    resolveDeps m bd L = resolveDeps m' bd L := by
  obtain ⟨c, hc, -⟩ := resolveDepsRun_spec m bd L
  obtain ⟨c', hc', -⟩ := resolveDepsRun_spec m' bd L
  -- the call over `m'` with `m`'s fuel returns what the call over `m` does
  have h : resolveDepsFuel m' bd (resolveFuel m L) L ⟨[], []⟩ = some c := by
    rw [← resolveDepsFuel_frame hm _ _ _ .refl]
    exact hc
  have h₁ := resolveDepsFuel_add m' bd (resolveFuel m' L) _ _ _ _ h
  have h₂ := resolveDepsFuel_add m' bd (resolveFuel m L) _ _ _ _ hc'
  rw [Nat.add_comm, h₁] at h₂
  simp [resolveDeps, hc, hc', Option.some.inj h₂]

end Frame

/-- What `L` reaches lies in any set of libraries that holds `L` and what each of them depends
on. -/
theorem mem_of_reach {m : Manifests} {S : List String} {L x : String} (hL : L ∈ S)
    (hS : ∀ y ∈ S, ∀ z ∈ depLibsOf (tupfile m y), z ∈ S) (h : ReflTransGen (Dep m) L x) :
    x ∈ S := by
  induction h with
  | refl => exact hL
  | tail _ hyz ih => exact hS _ ih _ hyz

/-- Dropping the Tupfile of a library that `app` does not reach leaves `app`'s link line as it
is. -/
theorem resolveDeps_frame_sample :
    (∀ x, ReflTransGen (Dep [("app", "DEPENDS = ot-util\n"), ("util", "TYPE = lib\n"),
        ("tool", "DEPENDS = ot-app ot-util\nTYPE = exe\n")]) "app" x →
      tupfile [("app", "DEPENDS = ot-util\n"), ("util", "TYPE = lib\n"),
        ("tool", "DEPENDS = ot-app ot-util\nTYPE = exe\n")] x =
      tupfile [("app", "DEPENDS = ot-util\n"), ("util", "TYPE = lib\n")] x) ∧
    resolveDeps [("app", "DEPENDS = ot-util\n"), ("util", "TYPE = lib\n"),
        ("tool", "DEPENDS = ot-app ot-util\nTYPE = exe\n")] "/b" "app" =
      resolveDeps [("app", "DEPENDS = ot-util\n"), ("util", "TYPE = lib\n")] "/b" "app" :=
  have hm : ∀ x, ReflTransGen (Dep [("app", "DEPENDS = ot-util\n"), ("util", "TYPE = lib\n"),
      ("tool", "DEPENDS = ot-app ot-util\nTYPE = exe\n")]) "app" x →
      tupfile [("app", "DEPENDS = ot-util\n"), ("util", "TYPE = lib\n"),
        ("tool", "DEPENDS = ot-app ot-util\nTYPE = exe\n")] x =
      tupfile [("app", "DEPENDS = ot-util\n"), ("util", "TYPE = lib\n")] x := fun x hx => by
    have hS : x ∈ ["app", "util"] := mem_of_reach (by decide) (by decide) hx
    simp only [List.mem_cons, List.mem_singleton, List.not_mem_nil, or_false] at hS
    rcases hS with rfl | rfl <;> rfl
  ⟨hm, resolveDeps_frame _ _ "/b" "app" hm⟩

end ObToolsBuild.Resolve
