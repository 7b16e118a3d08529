import Mathlib.Data.List.Forall2
import Mathlib.Data.List.Perm.Basic

/-! Computations that may fail: when a step after a step succeeds, and when one step for every item
does. -/
namespace SelectBuilder.Outcome

variable {α β γ ε : Type}

theorem bind_eq_ok {x : Except ε α} {f : α → Except ε β} {b : β} :
    x >>= f = .ok b ↔ ∃ a, x = .ok a ∧ f a = .ok b := by
  cases x with
  | error e => simp [bind, Except.bind]
  | ok a => simp [bind, Except.bind]

theorem map_eq_ok {x : Except ε α} {f : α → β} {b : β} :
    x.map f = .ok b ↔ ∃ a, x = .ok a ∧ f a = b := by
  cases x with
  | error e => simp [Except.map]
  | ok a => simp [Except.map]

theorem mapError_eq_ok {δ : Type} {x : Except ε α} {f : ε → δ} {a : α} :
    x.mapError f = .ok a ↔ x = .ok a := by
  cases x with
  | error e => simp [Except.mapError]
  | ok b => simp [Except.mapError]

theorem mapError_eq_error {δ : Type} {x : Except ε α} {f : ε → δ} {d : δ} :
    x.mapError f = .error d ↔ ∃ e, x = .error e ∧ f e = d := by
  cases x with
  | error e => simp [Except.mapError]
  | ok b => simp [Except.mapError]

theorem isOk_mapError {δ : Type} (x : Except ε α) (f : ε → δ) : (x.mapError f).isOk = x.isOk := by
  cases x <;> rfl

theorem mapM_eq_ok {f : α → Except ε β} {xs : List α} {ys : List β} :
    xs.mapM f = .ok ys ↔ List.Forall₂ (fun x y => f x = .ok y) xs ys := by
  induction xs generalizing ys with
  | nil =>
    rw [List.mapM_nil, List.forall₂_nil_left_iff]
    exact ⟨fun h => (Except.ok.inj h).symm, fun h => h ▸ rfl⟩
  | cons x rest ih =>
    rw [List.mapM_cons, List.forall₂_cons_left_iff, bind_eq_ok]
    constructor
    · rintro ⟨y, hy, h⟩
      obtain ⟨zs, hzs, h⟩ := bind_eq_ok.mp h
      exact ⟨y, zs, hy, ih.mp hzs, (Except.ok.inj h).symm⟩
    · rintro ⟨y, zs, hy, hzs, rfl⟩
      exact ⟨y, hy, bind_eq_ok.mpr ⟨zs, ih.mpr hzs, rfl⟩⟩

theorem exists_of_mem_mapM {f : α → Except ε β} {xs : List α} {ys : List β} (h : xs.mapM f = .ok ys)
    {y : β} (hy : y ∈ ys) : ∃ x ∈ xs, f x = .ok y := by
  induction mapM_eq_ok.mp h with
  | nil => cases hy
  | @cons x z xs zs hx hrest ih =>
    rcases List.mem_cons.mp hy with rfl | hy
    · exact ⟨x, List.mem_cons_self .., hx⟩
    · obtain ⟨w, hw, hwy⟩ := ih (mapM_eq_ok.mpr hrest) hy
      exact ⟨w, List.mem_cons_of_mem x hw, hwy⟩

theorem forall₂_map_of_mapM_eq_ok {f : α → Except ε β} {g : α → γ} {R : β → γ → Prop} {xs : List α}
    {ys : List β} (h : xs.mapM f = .ok ys) (hR : ∀ x ∈ xs, ∀ y, f x = .ok y → R y (g x)) :
    List.Forall₂ R ys (xs.map g) := by
  induction mapM_eq_ok.mp h with
  | nil => exact .nil
  | cons hy hrest ih =>
    obtain ⟨hx, hxs⟩ := List.forall_mem_cons.mp hR
    exact .cons (hx _ hy) (ih (mapM_eq_ok.mpr hrest) hxs)

theorem mapM_congr {f g : α → Except ε β} {xs : List α} (h : ∀ x ∈ xs, f x = g x) :
    xs.mapM f = xs.mapM g := by
  induction xs with
  | nil => rfl
  | cons x rest ih =>
    rw [List.mapM_cons, List.mapM_cons, h x (List.mem_cons_self ..),
      ih fun y hy => h y (List.mem_cons_of_mem x hy)]

theorem mapM_eq_of_forall₂ {R : α → γ → Prop} {f : α → Except ε β} {g : γ → Except ε β}
    {xs : List α} {ys : List γ} (h : List.Forall₂ R xs ys) (hR : ∀ x y, R x y → g y = f x) :
    ys.mapM g = xs.mapM f := by
  induction h with
  | nil => rfl
  | cons hx _ ih => rw [List.mapM_cons, List.mapM_cons, hR _ _ hx, ih]

theorem isOk_map (x : Except ε α) (f : α → β) : (x.map f).isOk = x.isOk := by
  cases x <;> rfl

theorem isOk_iff {x : Except ε α} : x.isOk = true ↔ ∃ a, x = .ok a := by
  cases x with
  | error e => simp [Except.toBool]
  | ok a => simp [Except.toBool]

theorem isOk_eq_false_iff {x : Except ε α} : x.isOk = false ↔ ∃ e, x = .error e := by
  cases x with
  | error e => simp [Except.toBool]
  | ok a => simp [Except.toBool]

theorem toOption_eq_some {x : Except ε α} {a : α} : x.toOption = some a ↔ x = .ok a := by
  cases x with
  | error e => simp [Except.toOption]
  | ok b => simp [Except.toOption]

section Failures

def failure? : Except ε α → Option ε
  | .error e => some e
  | .ok _ => none

theorem failure?_eq_some {x : Except ε α} {e : ε} : failure? x = some e ↔ x = .error e := by
  cases x with
  | error e => simp [failure?]
  | ok a => simp [failure?]

theorem failure?_eq_none {x : Except ε α} : failure? x = none ↔ x.isOk = true := by
  cases x with
  | error e => simp [failure?, Except.toBool]
  | ok a => simp [failure?, Except.toBool]

/-- A computation that fails as one of several does succeeds if all of them do. -/
theorem isOk_eq_all_of_failure? {x : Except ε α} {f : γ → Except ε β} {ys : List γ}
    (h : failure? x = ys.findSome? fun y => failure? (f y)) :
    x.isOk = ys.all fun y => (f y).isOk := by
  rw [Bool.eq_iff_iff, List.all_eq_true, ← failure?_eq_none, h, List.findSome?_eq_none_iff]
  simp only [failure?_eq_none]

/-- If what comes next fails in the same way whatever came before, the first failure decides. -/
theorem failure?_bind {x : Except ε α} {f : α → Except ε β} {next : Option ε}
    (h : ∀ a, failure? (f a) = next) :
    failure? (x >>= f) = (failure? x).or next := by
  cases x with
  | error e => rfl
  | ok a => exact h a

/-- A step that cannot fail does not decide how a computation fails. -/
theorem failure?_bind_pure (x : Except ε α) (f : α → β) :
    failure? (x >>= fun a => pure (f a) : Except ε β) = failure? x := by
  cases x <;> rfl

theorem failure?_map (x : Except ε α) (f : α → β) : failure? (x.map f) = failure? x := by
  cases x <;> rfl

theorem failure?_mapM {f : α → Except ε β} {failsWith : α → Option ε} {xs : List α}
    (h : ∀ x ∈ xs, failure? (f x) = failsWith x) :
    failure? (xs.mapM f) = xs.findSome? failsWith := by
  induction xs with
  | nil => rfl
  | cons x rest ih =>
    obtain ⟨hx, hrest⟩ := List.forall_mem_cons.mp h
    have hnext : ∀ y,
        failure? (rest.mapM f >>= fun ys => pure (y :: ys)) = rest.findSome? failsWith := fun y =>
      (failure?_bind_pure _ _).trans (ih hrest)
    rw [List.mapM_cons, failure?_bind hnext, hx, List.findSome?_cons]
    cases failsWith x <;> rfl

/-- An item fails with an error, and all items in front of it succeed. -/
def FirstFails (f : α → Except ε β) (xs : List α) (e : ε) : Prop :=
  ∃ before x after, xs = before ++ x :: after ∧ f x = .error e ∧ ∀ y ∈ before, (f y).isOk = true

theorem findSome?_eq_some_iff_firstFails {f : α → Except ε β} {xs : List α} {e : ε} :
    (xs.findSome? fun x => failure? (f x)) = some e ↔ FirstFails f xs e := by
  simp only [List.findSome?_eq_some_iff, failure?_eq_some, failure?_eq_none, FirstFails]

theorem mapM_eq_error {f : α → Except ε β} {xs : List α} {e : ε} :
    xs.mapM f = .error e ↔ FirstFails f xs e := by
  rw [← failure?_eq_some, failure?_mapM fun _ _ => rfl, findSome?_eq_some_iff_firstFails]

theorem firstFails_mapError {δ : Type} {f : α → Except ε β} {g : ε → δ} {xs : List α} {d : δ} :
    FirstFails (fun x => (f x).mapError g) xs d ↔ ∃ e, d = g e ∧ FirstFails f xs e := by
  constructor
  · rintro ⟨before, x, after, rfl, hx, hbefore⟩
    obtain ⟨e, he, rfl⟩ := mapError_eq_error.mp hx
    simp only [isOk_mapError] at hbefore
    exact ⟨e, rfl, before, x, after, rfl, he, hbefore⟩
  · rintro ⟨e, rfl, before, x, after, rfl, hx, hbefore⟩
    refine ⟨before, x, after, rfl, mapError_eq_error.mpr ⟨e, hx, rfl⟩, ?_⟩
    simpa only [isOk_mapError] using hbefore

end Failures

/-- Items in another order give the same results in another order. -/
theorem mapM_perm {f : α → Except ε β} {xs ys : List α} (h : xs.Perm ys) {zs : List β}
    (hx : xs.mapM f = .ok zs) :
    ∃ ws, ys.mapM f = .ok ws ∧ zs.Perm ws := by
  obtain ⟨ws, hws, hperm⟩ := List.perm_comp_forall₂ h.symm (mapM_eq_ok.mp hx)
  exact ⟨ws, mapM_eq_ok.mpr hws, hperm.symm⟩

/-- What is seen of a computation in steps is a computation in steps of what is seen. -/
theorem map_foldlM {σ τ : Type} {f : σ → α → Except ε σ} {g : τ → α → Except ε τ} {view : σ → τ}
    (hstep : ∀ s a, (f s a).map view = g (view s) a) (s : σ) (xs : List α) :
    (xs.foldlM f s).map view = xs.foldlM g (view s) := by
  induction xs generalizing s with
  | nil => rfl
  | cons a xs ih =>
    rw [List.foldlM_cons, List.foldlM_cons, ← hstep]
    cases f s a with
    | error e => rfl
    | ok next => exact ih next

end SelectBuilder.Outcome
