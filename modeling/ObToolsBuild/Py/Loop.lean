import Mathlib.Data.List.Basic

/-!
# Loop — `for` loops whose body may stop the run

A `for` loop over a list whose body can fail is `List.foldlM`: in `Option` where the failure is
running out of fuel, in `Except` where it is a raised exception.  The lemmas here carry what the
body does on one element to the whole loop.
-/

namespace ObToolsBuild.Py

/-- A loop in `Option` returns and keeps `P` when each pass returns and keeps it. -/
theorem foldlM_option_inv {α β : Type} {f : β → α → Option β} (P : List α → β → Prop) :
    ∀ (rest done : List α) (b : β),
      (∀ a ∈ rest, ∀ done' b, P done' b → ∃ b', f b a = some b' ∧ P (done' ++ [a]) b') →
      P done b → ∃ b', rest.foldlM f b = some b' ∧ P (done ++ rest) b'
  | [], done, b, _, hb => ⟨b, rfl, by simpa using hb⟩
  | a :: rest, done, b, hstep, hb => by
    obtain ⟨b', hfb, hb'⟩ := hstep a (List.mem_cons_self a rest) done b hb
    obtain ⟨b'', hfold, hb''⟩ := foldlM_option_inv P rest (done ++ [a]) b'
      (fun a' ha' => hstep a' (List.mem_cons_of_mem a ha')) hb'
    exact ⟨b'', by simp [hfb, hfold], by simpa using hb''⟩

/-- A loop in `Option` that returns keeps its result when each pass is replaced by one that
returns, with the same state, wherever the old one did. -/
theorem foldlM_option_mono {α β : Type} {f g : β → α → Option β} :
    ∀ (l : List α) (b r : β), (∀ a ∈ l, ∀ b b', f b a = some b' → g b a = some b') →
      l.foldlM f b = some r → l.foldlM g b = some r
  | [], _, _, _, h => h
  | a :: l, b, r, hfg, h => by
    rw [List.foldlM_cons] at h ⊢
    cases hf : f b a with
    | none => simp [hf] at h
    | some b' =>
      rw [hfg a (List.mem_cons_self a l) b b' hf]
      simp only [hf, Option.bind_eq_bind, Option.some_bind] at h ⊢
      exact foldlM_option_mono l b' r (fun a' ha' => hfg a' (List.mem_cons_of_mem a ha')) h

/-- Two loop bodies that agree on the elements of the list run the same loop. -/
theorem foldlM_congr_mem {m : Type → Type} [Monad m] {α β : Type} {f g : β → α → m β} :
    ∀ (l : List α) (b : β), (∀ a ∈ l, ∀ b, f b a = g b a) → l.foldlM f b = l.foldlM g b
  | [], _, _ => rfl
  | a :: l, b, h => by
    simp only [List.foldlM_cons, h a (List.mem_cons_self a l)]
    congr 1
    funext b'
    exact foldlM_congr_mem l b' fun a' ha' => h a' (List.mem_cons_of_mem a ha')

/-- A loop in `Except` whose variables after a prefix are `S prefix`, and whose body raises `e`
exactly on an element `a` with `err a = some e`: it raises at the first such element of what is
left, and otherwise reaches the variables of the whole list. -/
theorem foldlM_except_prefix {α β ε : Type} {f : β → α → Except ε β} (S : List α → β)
    (err : α → Option ε) (hstep : ∀ pre a, f (S pre) a = (err a).elim (.ok (S (pre ++ [a]))) .error) :
    ∀ rest pre : List α, rest.foldlM f (S pre) = (rest.findSome? err).elim (.ok (S (pre ++ rest))) .error
  | [], pre => by simp [pure, Except.pure]
  | a :: rest, pre => by
    rw [List.foldlM_cons, hstep, List.findSome?_cons]
    cases err a with
    | some e => rfl
    | none => simpa [bind, Except.bind] using foldlM_except_prefix S err hstep rest (pre ++ [a])

/-- A map in `Except` returns exactly where its argument does. -/
theorem except_map_eq_ok {α β ε : Type} {f : α → β} {x : Except ε α} {b : β} :
    f <$> x = .ok b ↔ ∃ a, x = .ok a ∧ f a = b := by
  cases x <;> simp [Functor.map, Except.map]

/-- `mapM` in `Except` returns on a list exactly where it returns on the head and on the tail. -/
theorem mapM_cons_eq_ok {α β ε : Type} {f : α → Except ε β} {a : α} {l : List α} {cs : List β} :
    (a :: l).mapM f = .ok cs ↔ ∃ c cs', f a = .ok c ∧ l.mapM f = .ok cs' ∧ cs = c :: cs' := by
  rw [List.mapM_cons]
  cases f a <;> cases l.mapM f <;> simp [bind, Except.bind, pure, Except.pure, eq_comm]

/-- What `mapM` returns in `Except` is what `f` returns on each element. -/
theorem exists_mem_of_mapM_eq_ok {α β ε : Type} {f : α → Except ε β} (P : β → Prop) :
    ∀ {l : List α} {cs : List β}, l.mapM f = .ok cs →
      ((∃ c ∈ cs, P c) ↔ ∃ a ∈ l, ∃ c, f a = .ok c ∧ P c)
  | [], cs, h => by
    cases h
    simp
  | a :: l, cs, h => by
    obtain ⟨c, cs', hc, hl, rfl⟩ := mapM_cons_eq_ok.1 h
    simp [exists_mem_of_mapM_eq_ok P hl, hc]

/-- Where `mapM` returns in `Except`, `f` returns on every element. -/
theorem exists_eq_ok_of_mapM_eq_ok {α β ε : Type} {f : α → Except ε β} :
    ∀ {l : List α} {cs : List β}, l.mapM f = .ok cs → ∀ a ∈ l, ∃ c, f a = .ok c
  | [], _, _, a, ha => absurd ha (List.not_mem_nil a)
  | b :: l, cs, h, a, ha => by
    obtain ⟨c, cs', hc, hl, -⟩ := mapM_cons_eq_ok.1 h
    rcases List.mem_cons.1 ha with rfl | ha
    · exact ⟨c, hc⟩
    · exact exists_eq_ok_of_mapM_eq_ok hl a ha

end ObToolsBuild.Py
