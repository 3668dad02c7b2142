import ObToolsBuild.Tupfile.Parse

/-!
# Model — `resolve_deps`

`run-tests.py` and `run-coverage.py` carry the same `resolve_deps`: a depth-first walk of the
`DEPENDS` / `LINUX-DEPENDS` graph that threads one `visited` set and one `link_libs` list through
every recursive call, and appends a dependency's archive after recursing into it.  The walk is
modelled with a `fuel` bound on the depth of recursion; `resolveFuel` is always enough
(`resolveDepsRun_isSome`, in `Resolve.Spec`).
-/

namespace ObToolsBuild.Resolve

open Py Tupfile

/-- The Tupfile text of every library directory that has one
(`os.path.isfile(os.path.join(libs_dir, lib, "Tupfile"))`). -/
abbrev Manifests := List (String × String)

/-- The text of `lib`'s Tupfile, if there is one. -/
def tupfile (m : Manifests) (lib : String) : Option String := m.lookup lib

/-- `parse_tupfile_var(tupfile, "DEPENDS") + parse_tupfile_var(tupfile, "LINUX-DEPENDS")`. -/
def depsOf (file : Option String) : List String :=
  parseTupfileVar file "DEPENDS" ++ parseTupfileVar file "LINUX-DEPENDS"

/-- The `deps` that the loop of `resolve_deps(lib, …)` runs over. -/
def tupfileDeps (m : Manifests) (lib : String) : List String := depsOf (tupfile m lib)

/-- `dep_type == "lib"`, where `dep_type = dep_types[0] if dep_types else "lib"`. -/
def isLibType (m : Manifests) (lib : String) : Bool :=
  match parseTupfileVar (tupfile m lib) "TYPE" with
  | [] => true
  | t :: _ => t == "lib"

/-- `dep[3:] if dep.startswith("ot-") else dep`. -/
def stripOt (dep : String) : String := if startswith dep "ot-" then ⟨dep.data.drop 3⟩ else dep

/-- `os.path.join(build_dir, "lib", f"ot-{dep_lib}.a")`. -/
def artifact (buildDir lib : String) : String := pathJoin buildDir ["lib", "ot-" ++ lib ++ ".a"]

/-- What one resolution shares between its recursive calls.  `visited` keeps the order of
`visited.add`, newest first, so it is also the record of every run of the body past the visited
check. -/
structure Closure where
  visited : List String
  linkLibs : List String

/-- `visited.add(lib)`. -/
def Closure.visit (c : Closure) (lib : String) : Closure := { c with visited := lib :: c.visited }

/-- The end of one loop iteration: `link_libs.append(afile)` for a library not yet listed. -/
def Closure.addArtifact (m : Manifests) (buildDir : String) (c : Closure) (depLib : String) :
    Closure :=
  if isLibType m depLib then
    if artifact buildDir depLib ∈ c.linkLibs then c
    else { c with linkLibs := c.linkLibs ++ [artifact buildDir depLib] }
  else c

/-- One iteration of `for dep in deps`, with `resolve` for the recursive call. -/
def depStep (m : Manifests) (buildDir : String) (resolve : String → Closure → Option Closure)
    (c : Closure) (dep : String) : Option Closure :=
  if startswith dep "ext-" then some c
  else (resolve (stripOt dep) c).map fun c' => c'.addArtifact m buildDir (stripOt dep)

/-- `resolve_deps(lib, libs_dir, build_dir, visited, link_libs)`, failing only when `fuel`, a
bound on the depth of recursion, runs out. -/
def resolveDepsFuel (m : Manifests) (buildDir : String) :
    Nat → String → Closure → Option Closure
  | 0, _, _ => none
  | fuel + 1, lib, c =>
    if lib ∈ c.visited then some c
    else (tupfileDeps m lib).foldlM (depStep m buildDir (resolveDepsFuel m buildDir fuel))
      (c.visit lib)

/-- The libraries the loop over a Tupfile's `deps` recurses into. -/
def depLibsOf (file : Option String) : List String :=
  (depsOf file).filterMap fun dep => if startswith dep "ext-" then none else some (stripOt dep)

/-- Every library a resolution from `lib` can reach: `lib`, and what any Tupfile depends on. -/
def libUniverse (m : Manifests) (lib : String) : List String :=
  lib :: m.flatMap fun e => depLibsOf (some e.2)

/-- Enough fuel for a resolution from `lib`. -/
def resolveFuel (m : Manifests) (lib : String) : Nat := (libUniverse m lib).length + 1

/-- The top-level call `resolve_deps(lib, LIBS_DIR, BUILD_DIR)`, from a fresh `visited` and
`link_libs`. -/
def resolveDepsRun (m : Manifests) (buildDir lib : String) : Option Closure :=
  resolveDepsFuel m buildDir (resolveFuel m lib) lib ⟨[], []⟩

/-- The list `resolve_deps(lib, LIBS_DIR, BUILD_DIR)` returns. -/
def resolveDeps (m : Manifests) (buildDir lib : String) : Option (List String) :=
  (resolveDepsRun m buildDir lib).map Closure.linkLibs

/-! ## Unfolding lemmas -/

@[simp] theorem Closure.visit_visited (c : Closure) (lib : String) :
    (c.visit lib).visited = lib :: c.visited := rfl
@[simp] theorem Closure.visit_linkLibs (c : Closure) (lib : String) :
    (c.visit lib).linkLibs = c.linkLibs := rfl

@[simp] theorem Closure.addArtifact_visited (m : Manifests) (buildDir : String) (c : Closure)
    (y : String) : (c.addArtifact m buildDir y).visited = c.visited := by
  unfold Closure.addArtifact; split_ifs <;> rfl

theorem Closure.mem_addArtifact_linkLibs {m : Manifests} {buildDir : String} {c : Closure}
    {y a : String} : a ∈ (c.addArtifact m buildDir y).linkLibs ↔
      a ∈ c.linkLibs ∨ (isLibType m y = true ∧ a = artifact buildDir y) := by
  unfold Closure.addArtifact
  split_ifs with hlib hmem <;> simp_all

theorem resolveDepsFuel_of_visited {m : Manifests} {buildDir lib : String} {c : Closure} (n : Nat)
    (h : lib ∈ c.visited) : resolveDepsFuel m buildDir (n + 1) lib c = some c := by
  simp [resolveDepsFuel, h]

theorem resolveDepsFuel_of_not_visited {m : Manifests} {buildDir lib : String} {c : Closure}
    (n : Nat) (h : lib ∉ c.visited) : resolveDepsFuel m buildDir (n + 1) lib c =
      (tupfileDeps m lib).foldlM (depStep m buildDir (resolveDepsFuel m buildDir n)) (c.visit lib) := by
  simp [resolveDepsFuel, h]

theorem depStep_of_ext {m : Manifests} {buildDir dep : String}
    {resolve : String → Closure → Option Closure} (c : Closure)
    (h : startswith dep "ext-" = true) : depStep m buildDir resolve c dep = some c := by
  simp [depStep, h]

theorem depStep_of_not_ext {m : Manifests} {buildDir dep : String}
    {resolve : String → Closure → Option Closure} {c c' : Closure}
    (h : startswith dep "ext-" = false) (hc : resolve (stripOt dep) c = some c') :
    depStep m buildDir resolve c dep = some (c'.addArtifact m buildDir (stripOt dep)) := by
  simp [depStep, h, hc]

/-! ## Archive names -/

/-- `os.path.join(build_dir, "lib")`, the directory every archive lies in. -/
theorem pathJoin_lib (buildDir : String) : pathJoin buildDir ["lib"] =
    (if buildDir = "" ∨ endswith buildDir "/" = true then buildDir else buildDir ++ "/") ++ "lib" := by
  by_cases h : buildDir = "" ∨ endswith buildDir "/" = true <;>
    simp [pathJoin, startswith, h, String.append_assoc]

theorem artifact_eq (buildDir lib : String) :
    artifact buildDir lib = pathJoin buildDir ["lib"] ++ "/" ++ ("ot-" ++ lib ++ ".a") := by
  have hf : startswith ("ot-" ++ lib ++ ".a") "/" = false := by
    simp [startswith, String.data_append, List.isPrefixOf]
  obtain ⟨P, hP⟩ : ∃ P, pathJoin buildDir ["lib"] = P ++ "lib" := ⟨_, pathJoin_lib buildDir⟩
  have hne : P ++ "lib" ≠ "" := fun h => by
    have := congrArg String.length h
    simp only [String.length_append, show "lib".length = 3 from rfl,
      show "".length = 0 from rfl] at this
    omega
  have hend : endswith (P ++ "lib") "/" = false := by
    simp [endswith, String.data_append, List.isSuffixOf, List.isPrefixOf]
  show pathJoin (pathJoin buildDir ["lib"]) ["ot-" ++ lib ++ ".a"] = _
  rw [hP]
  simp [pathJoin, hf, hne, hend]

/-- Distinct libraries have distinct archives, so `afile not in link_libs` deduplicates by
library. -/
theorem artifact_injective (buildDir : String) : Function.Injective (artifact buildDir) := by
  intro a b h
  rw [artifact_eq, artifact_eq] at h
  have := congrArg String.data h
  simp only [String.data_append, List.append_assoc, List.append_cancel_left_eq,
    List.append_cancel_right_eq] at this
  exact String.ext this

end ObToolsBuild.Resolve
