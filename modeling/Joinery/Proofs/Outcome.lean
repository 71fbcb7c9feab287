import Mathlib.Data.List.Forall2

/-!
# Computations that may fail

When a chain of computations in `Except` succeeds, and with which error it fails: one step after
another, the same step for every element of a list, and a fold. `foldlM_invariant` carries what each
step preserves through a whole fold.
-/

namespace Joinery

variable {ε ε' α β γ : Type}

/-! ## One step after another -/

theorem bind_eq_ok_iff {x : Except ε α} {f : α → Except ε β} {b : β} :
    (x >>= f) = .ok b ↔ ∃ a, x = .ok a ∧ f a = .ok b := by
  cases x <;> simp [bind, Except.bind]

theorem bind_eq_error_iff {x : Except ε α} {f : α → Except ε β} {e : ε} :
    (x >>= f) = .error e ↔ x = .error e ∨ ∃ a, x = .ok a ∧ f a = .error e := by
  cases x <;> simp [bind, Except.bind]

theorem bind_congr_ok {x : Except ε α} {f f' : α → Except ε β}
    (h : ∀ a, x = .ok a → f a = f' a) : (x >>= f) = x >>= f' := by
  cases x with
  | error e => rfl
  | ok a => exact h a rfl

theorem exists_eq_ok_iff {x : Except ε α} : (∃ a, x = .ok a) ↔ ∀ e, x ≠ .error e := by
  cases x <;> simp

theorem map_eq_ok_iff {x : Except ε α} {f : α → β} {b : β} :
    x.map f = .ok b ↔ ∃ a, x = .ok a ∧ f a = b := by
  cases x <;> simp [Except.map]

theorem map_eq_error_iff {x : Except ε α} {f : α → β} {e : ε} :
    x.map f = .error e ↔ x = .error e := by
  cases x <;> simp [Except.map]

theorem toOption_eq_some_iff {x : Except ε α} {a : α} : x.toOption = some a ↔ x = .ok a := by
  cases x <;> simp [Except.toOption]

theorem mapError_eq_ok_iff {x : Except ε α} {f : ε → ε'} {a : α} :
    x.mapError f = .ok a ↔ x = .ok a := by
  cases x <;> simp [Except.mapError]

theorem mapError_eq_error_iff {x : Except ε α} {f : ε → ε'} {e : ε'} :
    x.mapError f = .error e ↔ ∃ e₀, x = .error e₀ ∧ f e₀ = e := by
  cases x <;> simp [Except.mapError]

/-! ## Every element of a list -/

theorem mapM_eq_ok_iff {f : α → Except ε β} {l : List α} {r : List β} :
    l.mapM f = .ok r ↔ List.Forall₂ (fun a b => f a = .ok b) l r := by
  induction l generalizing r with
  | nil =>
    rw [List.mapM_nil, List.forall₂_nil_left_iff]
    exact ⟨fun h => (Except.ok.inj h).symm, fun h => h ▸ rfl⟩
  | cons a l ih =>
    rw [List.mapM_cons, bind_eq_ok_iff, List.forall₂_cons_left_iff]
    constructor
    · rintro ⟨b, hb, h⟩
      obtain ⟨bs, hbs, h⟩ := bind_eq_ok_iff.1 h
      exact ⟨b, bs, hb, ih.1 hbs, (Except.ok.inj h).symm⟩
    · rintro ⟨b, bs, hb, hbs, rfl⟩
      exact ⟨b, hb, bind_eq_ok_iff.2 ⟨bs, ih.2 hbs, rfl⟩⟩

theorem mapM_congr_forall₂ {f : α → Except ε β} {l l' : List α}
    (same : List.Forall₂ (fun a b => f a = f b) l l') : l.mapM f = l'.mapM f := by
  induction same with
  | nil => rfl
  | cons first _ ih => rw [List.mapM_cons, List.mapM_cons, first, ih]

theorem exists_getElem?_of_mapM {f : α → Except ε β} {l : List α} {r : List β}
    (h : l.mapM f = .ok r) {i : Nat} {a : α} (ha : l[i]? = some a) :
    ∃ b, r[i]? = some b ∧ f a = .ok b := by
  have pairs := mapM_eq_ok_iff.1 h
  clear h
  induction pairs generalizing i with
  | nil => cases ha
  | cons first _ ih =>
    cases i with
    | zero =>
      obtain rfl := Option.some.inj ha
      exact ⟨_, rfl, first⟩
    | succ i => exact ih ha

theorem exists_of_mem_of_mapM {f : α → Except ε β} {l : List α} {r : List β}
    (h : l.mapM f = .ok r) {a : α} (ha : a ∈ l) : ∃ b ∈ r, f a = .ok b := by
  obtain ⟨i, ha⟩ := List.mem_iff_getElem?.1 ha
  obtain ⟨b, hb, hf⟩ := exists_getElem?_of_mapM h ha
  exact ⟨b, List.mem_of_getElem? hb, hf⟩

theorem exists_of_mem_result {f : α → Except ε β} {l : List α} {r : List β}
    (h : l.mapM f = .ok r) {b : β} (hb : b ∈ r) : ∃ a ∈ l, f a = .ok b := by
  have pairs := mapM_eq_ok_iff.1 h
  induction pairs with
  | nil => cases hb
  | cons hab rest ih =>
    rcases List.mem_cons.1 hb with rfl | hb
    · exact ⟨_, by simp, hab⟩
    · obtain ⟨a, ha, hf⟩ := ih (mapM_eq_ok_iff.2 rest) hb
      exact ⟨a, by simp [ha], hf⟩

theorem exists_mapM_eq_ok {f : α → Except ε β} {l : List α} (h : ∀ a ∈ l, ∃ b, f a = .ok b) :
    ∃ r, l.mapM f = .ok r := by
  induction l with
  | nil => exact ⟨[], rfl⟩
  | cons a l ih =>
    obtain ⟨b, hb⟩ := h a (by simp)
    obtain ⟨bs, hbs⟩ := ih fun a ha => h a (by simp [ha])
    exact ⟨b :: bs, by rw [List.mapM_cons, hb, hbs]; rfl⟩

theorem mapM_append_cons_eq_error {f : α → Except ε β} (before : List α) {after : List α} {a : α}
    {e : ε} (succeed : ∀ b ∈ before, ∃ c, f b = .ok c) (failed : f a = .error e) :
    (before ++ a :: after).mapM f = .error e := by
  induction before with
  | nil => rw [List.nil_append, List.mapM_cons, failed]; rfl
  | cons b before ih =>
    rw [List.forall_mem_cons] at succeed
    obtain ⟨c, first⟩ := succeed.1
    rw [List.cons_append, List.mapM_cons, first, ih succeed.2]
    rfl

/-- The first element that fails decides. -/
theorem mapM_eq_error_iff {f : α → Except ε β} {l : List α} {e : ε} : l.mapM f = .error e ↔
    ∃ before a after, l = before ++ a :: after ∧ (∀ b ∈ before, ∃ c, f b = .ok c) ∧ f a = .error e := by
  constructor
  · intro h
    induction l with
    | nil => cases h
    | cons a l ih =>
      rw [List.mapM_cons] at h
      rcases bind_eq_error_iff.1 h with h | ⟨b, first, h⟩
      · exact ⟨[], a, l, rfl, nofun, h⟩
      · rcases bind_eq_error_iff.1 h with h | ⟨bs, -, h⟩
        · obtain ⟨before, a', after, rfl, succeed, failed⟩ := ih h
          exact ⟨a :: before, a', after, rfl, List.forall_mem_cons.2 ⟨⟨b, first⟩, succeed⟩, failed⟩
        · cases h
  · rintro ⟨before, a, after, rfl, succeed, failed⟩
    exact mapM_append_cons_eq_error before succeed failed

theorem exists_of_mapM_eq_error {f : α → Except ε β} {l : List α} {e : ε}
    (h : l.mapM f = .error e) : ∃ a ∈ l, f a = .error e := by
  obtain ⟨before, a, after, rfl, -, failed⟩ := mapM_eq_error_iff.1 h
  exact ⟨a, by simp, failed⟩

/-! ## Lists from every element of a list -/

theorem mem_flatten_mapM_iff {f : α → Except ε (List β)} {l : List α} {r : List (List β)}
    (h : l.mapM f = .ok r) {b : β} : b ∈ r.flatten ↔ ∃ a ∈ l, ∃ bs, f a = .ok bs ∧ b ∈ bs := by
  rw [List.mem_flatten]
  constructor
  · rintro ⟨bs, mem, found⟩
    obtain ⟨a, ha, read⟩ := exists_of_mem_result h mem
    exact ⟨a, ha, bs, read, found⟩
  · rintro ⟨a, ha, bs, read, found⟩
    obtain ⟨bs', mem, read'⟩ := exists_of_mem_of_mapM h ha
    obtain rfl := Except.ok.inj (read.symm.trans read')
    exact ⟨bs, mem, found⟩

theorem map_flatten_mapM_append {f : α → Except ε (List β)} (l l' : List α) :
    ((l ++ l').mapM f).map List.flatten =
      (l.mapM f).map List.flatten >>= fun r => ((l'.mapM f).map List.flatten).map (r ++ ·) := by
  rw [List.mapM_append]
  cases l.mapM f with
  | error e => rfl
  | ok r =>
    cases l'.mapM f with
    | error e => rfl
    | ok r' => exact congrArg Except.ok List.flatten_append

theorem map_flatten_mapM_singleton (f : α → Except ε (List β)) (a : α) :
    ([a].mapM f).map List.flatten = f a := by
  rw [List.mapM_cons]
  cases f a with
  | error e => rfl
  | ok r => exact congrArg Except.ok List.flatten_singleton

/-- An element may be exchanged for others from which the same comes all in all. -/
theorem map_flatten_mapM_exchange {f : α → Except ε (List β)} {a : α} {l : List α}
    (same : (l.mapM f).map List.flatten = f a) (before after : List α) :
    ((before ++ a :: after).mapM f).map List.flatten =
      ((before ++ l ++ after).mapM f).map List.flatten := by
  rw [← List.singleton_append, ← List.append_assoc]
  simp only [map_flatten_mapM_append, map_flatten_mapM_singleton, same]

theorem map_flatten_mapM_of_ok {f : α → Except ε (List β)} {g : α → β} {l : List α}
    (all : ∀ a ∈ l, f a = .ok [g a]) : (l.mapM f).map List.flatten = .ok (l.map g) := by
  induction l with
  | nil => rfl
  | cons a l ih =>
    rw [List.forall_mem_cons] at all
    rw [← List.singleton_append, map_flatten_mapM_append, map_flatten_mapM_singleton, all.1, ih all.2]
    rfl

/-- Where the same check is made for every element, it decides for all of them. -/
theorem map_flatten_mapM_of_map {f : α → Except ε (List β)} {x : Except ε γ} {g : γ → α → β}
    {l : List α} (ne : l ≠ []) (all : ∀ a ∈ l, f a = x.map fun c => [g c a]) :
    (l.mapM f).map List.flatten = x.map fun c => l.map (g c) := by
  cases x with
  | error e =>
    obtain ⟨a, rest, rfl⟩ := List.exists_cons_of_ne_nil ne
    rw [List.mapM_cons, all a List.mem_cons_self]
    rfl
  | ok c => exact map_flatten_mapM_of_ok all

/-- A fold over what comes from every element can be made element by element. -/
theorem foldlM_map_foldl {f : α → Except ε (List β)} {g : γ → β → γ} (l : List α) (c : γ) :
    l.foldlM (fun c a => (f a).map (·.foldl g c)) c =
      ((l.mapM f).map List.flatten).map (·.foldl g c) := by
  induction l generalizing c with
  | nil => rfl
  | cons a l ih =>
    rw [← List.singleton_append (l := l), map_flatten_mapM_append, map_flatten_mapM_singleton,
      List.singleton_append, List.foldlM_cons]
    cases f a with
    | error e => rfl
    | ok r =>
      refine (ih _).trans ?_
      cases l.mapM f with
      | error e => rfl
      | ok rest => exact congrArg Except.ok (List.foldl_append (f := g)).symm

theorem forM_eq_ok_iff {f : α → Except ε Unit} {l : List α} :
    l.forM f = .ok () ↔ ∀ a ∈ l, f a = .ok () := by
  induction l with
  | nil => simp [pure, Except.pure]
  | cons a l ih =>
    refine bind_eq_ok_iff.trans ?_
    rw [List.forall_mem_cons]
    exact ⟨fun ⟨_, ha, hl⟩ => ⟨ha, ih.1 hl⟩, fun ⟨ha, hl⟩ => ⟨(), ha, ih.2 hl⟩⟩

theorem forM_eq_error_iff {f : α → Except ε Unit} {l : List α} {e : ε} : l.forM f = .error e ↔
    ∃ before a after, l = before ++ a :: after ∧ (∀ b ∈ before, f b = .ok ()) ∧ f a = .error e := by
  constructor
  · intro h
    induction l with
    | nil => cases h
    | cons a l ih =>
      rcases bind_eq_error_iff.1 h with h | ⟨_, first, h⟩
      · exact ⟨[], a, l, rfl, nofun, h⟩
      · obtain ⟨before, a', after, rfl, succeed, failed⟩ := ih h
        exact ⟨a :: before, a', after, rfl, List.forall_mem_cons.2 ⟨first, succeed⟩, failed⟩
  · rintro ⟨before, a, after, rfl, succeed, failed⟩
    induction before with
    | nil => exact bind_eq_error_iff.2 (.inl failed)
    | cons b before ih =>
      rw [List.forall_mem_cons] at succeed
      exact bind_eq_error_iff.2 (.inr ⟨(), succeed.1, ih succeed.2⟩)

/-! ## Folds -/

/-- What every step preserves holds at the end. -/
theorem foldlM_invariant {f : β → α → Except ε β} {P : β → Prop} {l : List α}
    (step : ∀ a ∈ l, ∀ b b', P b → f b a = .ok b' → P b') {b b' : β} (start : P b)
    (h : l.foldlM f b = .ok b') : P b' := by
  induction l generalizing b with
  | nil => exact Except.ok.inj h ▸ start
  | cons a l ih =>
    rw [List.foldlM_cons] at h
    obtain ⟨b₁, h₁, h⟩ := bind_eq_ok_iff.1 h
    exact ih (fun a ha => step a (by simp [ha])) (step a (by simp) b b₁ start h₁) h

/-- A fold fails where a step fails behind others that do not. -/
theorem foldlM_eq_error_iff {f : β → α → Except ε β} {l : List α} {b : β} {e : ε} :
    l.foldlM f b = .error e ↔ ∃ before a after b', l = before ++ a :: after ∧
      before.foldlM f b = .ok b' ∧ f b' a = .error e := by
  constructor
  · intro h
    induction l generalizing b with
    | nil => cases h
    | cons a l ih =>
      rw [List.foldlM_cons] at h
      rcases bind_eq_error_iff.1 h with h | ⟨b₁, first, h⟩
      · exact ⟨[], a, l, b, rfl, rfl, h⟩
      · obtain ⟨before, a', after, b', rfl, done, failed⟩ := ih h
        exact ⟨a :: before, a', after, b', rfl, bind_eq_ok_iff.2 ⟨b₁, first, done⟩, failed⟩
  · rintro ⟨before, a, after, b', rfl, done, failed⟩
    rw [List.foldlM_append]
    refine bind_eq_error_iff.2 (.inr ⟨b', done, ?_⟩)
    rw [List.foldlM_cons]
    exact bind_eq_error_iff.2 (.inl failed)

/-- A fold fails at one of its steps. -/
theorem exists_of_foldlM_eq_error {f : β → α → Except ε β} {l : List α} {b : β} {e : ε}
    (h : l.foldlM f b = .error e) : ∃ a ∈ l, ∃ b', f b' a = .error e := by
  obtain ⟨before, a, after, b', rfl, -, failed⟩ := foldlM_eq_error_iff.1 h
  exact ⟨a, by simp, b', failed⟩

/-! ## Computations without an error -/

theorem mapM_congr {m : Type → Type} [Monad m] [LawfulMonad m] {f g : α → m β} {l : List α}
    (same : ∀ a ∈ l, f a = g a) : l.mapM f = l.mapM g := by
  induction l with
  | nil => rfl
  | cons a l ih =>
    rw [List.forall_mem_cons] at same
    rw [List.mapM_cons, List.mapM_cons, same.1, ih same.2]

theorem isSome_mapM {f : α → Option β} {l : List α} (all : ∀ a ∈ l, (f a).isSome) :
    (l.mapM f).isSome := by
  induction l with
  | nil => rfl
  | cons a l ih =>
    rw [List.forall_mem_cons] at all
    obtain ⟨b, first⟩ := Option.isSome_iff_exists.1 all.1
    obtain ⟨bs, rest⟩ := Option.isSome_iff_exists.1 (ih all.2)
    rw [List.mapM_cons, first, rest]
    rfl

/-- Two lists that go together make one result. -/
theorem exists_mapM_of_forall₂ {f : α → Option γ} {g : β → Option γ} {l : List α} {l' : List β}
    (pairs : List.Forall₂ (fun a b => ∃ c, f a = some c ∧ g b = some c) l l') :
    ∃ cs, l.mapM f = some cs ∧ l'.mapM g = some cs := by
  induction pairs with
  | nil => exact ⟨[], rfl, rfl⟩
  | cons first _ ih =>
    obtain ⟨c, hf, hg⟩ := first
    obtain ⟨cs, hfs, hgs⟩ := ih
    refine ⟨c :: cs, ?_, ?_⟩
    · rw [List.mapM_cons, hf, hfs]
      rfl
    · rw [List.mapM_cons, hg, hgs]
      rfl

theorem mapM_all_iff {f : α → Option Bool} {l : List α} :
    (∃ bs, l.mapM f = some bs ∧ bs.all id = true) ↔ ∀ a ∈ l, f a = some true := by
  induction l with
  | nil => simp
  | cons a l ih =>
    rw [List.forall_mem_cons, ← ih, List.mapM_cons]
    constructor
    · rintro ⟨bs, computed, all⟩
      obtain ⟨b, first, computed⟩ := Option.bind_eq_some_iff.1 computed
      obtain ⟨rest, tail, computed⟩ := Option.bind_eq_some_iff.1 computed
      obtain rfl := Option.some.inj computed
      obtain ⟨rfl, all⟩ := Bool.and_eq_true_iff.1 all
      exact ⟨first, rest, tail, all⟩
    · rintro ⟨first, rest, tail, all⟩
      exact ⟨true :: rest, by rw [first, tail]; rfl, all⟩

end Joinery
