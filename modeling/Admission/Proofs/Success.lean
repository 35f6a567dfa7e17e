import Mathlib.Data.List.Forall2
import Mathlib.Data.List.Induction

/-!
Computations that may fail: when a composed one gives a value, which failure a list of them gives,
and which failures there can be at all.
-/

namespace Admission

variable {ε ε' α β σ : Type}

/-- The computation gives a value. -/
def Succeeds (x : Except ε α) : Prop := ∃ a, x = .ok a

@[simp] theorem succeeds_ok (a : α) : Succeeds (.ok a : Except ε α) := ⟨a, rfl⟩

@[simp] theorem not_succeeds_error (e : ε) : ¬ Succeeds (.error e : Except ε α) := by
  intro hgiven
  obtain ⟨a, h⟩ := hgiven
  cases h

theorem not_succeeds_iff {x : Except ε α} : ¬ Succeeds x ↔ ∃ e, x = .error e := by
  cases x <;> simp

instance : ∀ x : Except ε α, Decidable (Succeeds x)
  | .ok a => .isTrue (succeeds_ok a)
  | .error e => .isFalse (not_succeeds_error e)

theorem succeeds_unit {x : Except ε Unit} : Succeeds x ↔ x = .ok () :=
  ⟨fun ⟨_, h⟩ => h, fun h => ⟨(), h⟩⟩

theorem ok_bind (a : α) (f : α → Except ε β) : (Except.ok a >>= f) = f a := rfl

theorem error_bind (e : ε) (f : α → Except ε β) : (Except.error e >>= f) = .error e := rfl

theorem bind_eq_ok {x : Except ε α} {f : α → Except ε β} {b : β} :
    (x >>= f) = .ok b ↔ ∃ a, x = .ok a ∧ f a = .ok b := by
  cases x <;> simp [bind, Except.bind]

theorem bind_congr_of_ok {x : Except ε α} {f g : α → Except ε β}
    (h : ∀ a, x = .ok a → f a = g a) : (x >>= f) = (x >>= g) := by
  cases x with
  | error e => rfl
  | ok a => exact h a rfl

theorem pure_eq_ok {a b : α} : (pure a : Except ε α) = .ok b ↔ a = b := by
  simp [pure, Except.pure]

theorem map_eq_ok {x : Except ε α} {f : α → β} {b : β} :
    x.map f = .ok b ↔ ∃ a, x = .ok a ∧ f a = b := by
  cases x <;> simp [Except.map]

theorem map_eq_error {x : Except ε α} {f : α → β} {e : ε} :
    x.map f = .error e ↔ x = .error e := by
  cases x <;> simp [Except.map]

theorem mapError_eq_ok {x : Except ε α} {f : ε → ε'} {a : α} :
    x.mapError f = .ok a ↔ x = .ok a := by
  cases x <;> simp [Except.mapError]

theorem toOption_map_eq_some {x : Except ε α} {f : α → β} {b : β} :
    x.toOption.map f = some b ↔ ∃ a, x = .ok a ∧ f a = b := by
  cases x <;> simp [Except.toOption]

theorem succeeds_bind {x : Except ε α} {f : α → Except ε β} :
    Succeeds (x >>= f) ↔ ∃ a, x = .ok a ∧ Succeeds (f a) := by
  cases x <;> simp [bind, Except.bind]

/-- Where the second computation succeeds whatever the first gives, only the first counts. -/
theorem succeeds_bind_left {x : Except ε α} {f : α → Except ε β} (h : ∀ a, Succeeds (f a)) :
    Succeeds (x >>= f) ↔ Succeeds x := by
  rw [succeeds_bind]
  exact ⟨fun ⟨a, ha, _⟩ => ⟨a, ha⟩, fun ⟨a, ha⟩ => ⟨a, ha, h a⟩⟩

@[simp] theorem succeeds_pure (a : α) : Succeeds (pure a : Except ε α) := ⟨a, rfl⟩

@[simp] theorem succeeds_map {x : Except ε α} {f : α → β} : Succeeds (x.map f) ↔ Succeeds x := by
  cases x <;> simp [Except.map]

@[simp] theorem succeeds_mapError {x : Except ε α} {f : ε → ε'} :
    Succeeds (x.mapError f) ↔ Succeeds x := by
  cases x <;> simp [Except.mapError]

theorem forM_eq_ok {f : α → Except ε Unit} {xs : List α} :
    xs.forM f = .ok () ↔ ∀ x ∈ xs, f x = .ok () := by
  induction xs with
  | nil => simp [List.forM, pure, Except.pure]
  | cons x xs ih =>
    change (f x >>= fun _ => xs.forM f) = .ok () ↔ _
    rw [bind_eq_ok, List.forall_mem_cons, ih]
    exact ⟨fun ⟨_, hx, hxs⟩ => ⟨hx, hxs⟩, fun ⟨hx, hxs⟩ => ⟨(), hx, hxs⟩⟩

theorem mapM_eq_ok {f : α → Except ε β} {xs : List α} {ys : List β} :
    xs.mapM f = .ok ys ↔ List.Forall₂ (fun x y => f x = .ok y) xs ys := by
  induction xs generalizing ys with
  | nil => cases ys <;> simp [pure, Except.pure]
  | cons x xs ih =>
    simp only [List.mapM_cons, bind_eq_ok, pure_eq_ok, List.forall₂_cons_left_iff, ih]
    constructor
    · intro hgiven
      obtain ⟨y, hy, ys, hys, rfl⟩ := hgiven
      exact ⟨y, ys, hy, hys, rfl⟩
    · intro hgiven
      obtain ⟨y, ys, hy, hys, rfl⟩ := hgiven
      exact ⟨y, hy, ys, hys, rfl⟩

theorem mem_of_mapM_eq_ok {f : α → Except ε β} {xs : List α} {ys : List β}
    (h : xs.mapM f = .ok ys) {y : β} : y ∈ ys ↔ ∃ x ∈ xs, f x = .ok y := by
  rw [mapM_eq_ok] at h
  induction h with
  | nil => simp
  | cons hx _ ih =>
    rw [List.mem_cons, ih, List.exists_mem_cons_iff, hx, Except.ok.injEq]
    exact or_congr_left eq_comm

theorem map_of_mapM_eq_ok {f : α → Except ε β} {xs : List α} {ys : List β} {g : β → σ} {g' : α → σ}
    (hg : ∀ x y, f x = .ok y → g y = g' x) (h : xs.mapM f = .ok ys) : ys.map g = xs.map g' := by
  rw [mapM_eq_ok] at h
  induction h with
  | nil => rfl
  | cons hx _ ih => rw [List.map_cons, List.map_cons, hg _ _ hx, ih]

/-- Where one computation gives what another gives, changed in one way, so it is for lists. -/
theorem mapM_eq_ok_map {f : α → Except ε β} {g : α → Except ε σ} {k : β → σ} {xs : List α}
    {ys : List β} (hg : ∀ x ∈ xs, ∀ y, f x = .ok y → g x = .ok (k y)) (h : xs.mapM f = .ok ys) :
    xs.mapM g = .ok (ys.map k) := by
  rw [mapM_eq_ok] at h ⊢
  induction h with
  | nil => exact .nil
  | cons hx _ ih =>
    rw [List.forall_mem_cons] at hg
    exact .cons (hg.1 _ hx) (ih hg.2)

theorem mapM_congr_left {f g : α → Except ε β} {xs : List α} (h : ∀ x ∈ xs, f x = g x) :
    xs.mapM f = xs.mapM g := by
  induction xs with
  | nil => rfl
  | cons x xs ih =>
    rw [List.forall_mem_cons] at h
    rw [List.mapM_cons, List.mapM_cons, h.1, ih h.2]

theorem succeeds_mapM {f : α → Except ε β} {xs : List α} :
    Succeeds (xs.mapM f) ↔ ∀ x ∈ xs, Succeeds (f x) := by
  induction xs with
  | nil => simp
  | cons x xs ih =>
    rw [List.mapM_cons, succeeds_bind]
    simp only [succeeds_bind_left (fun _ => succeeds_pure _), ih, List.forall_mem_cons]
    exact ⟨fun ⟨y, hy, h⟩ => ⟨⟨y, hy⟩, h⟩, fun ⟨⟨y, hy⟩, h⟩ => ⟨y, hy, h⟩⟩

/-- The first element that fails decides the failure. -/
theorem mapM_append_cons_eq_error {f : α → Except ε β} {front back : List α} {x : α} {e : ε}
    (hfront : ∀ y ∈ front, Succeeds (f y)) (hx : f x = .error e) :
    (front ++ x :: back).mapM f = .error e := by
  obtain ⟨ys, hys⟩ := succeeds_mapM.2 hfront
  rw [List.mapM_append, List.mapM_cons, hys, hx]
  rfl

theorem foldlM_singleton (step : σ → α → Except ε σ) (s : σ) (x : α) :
    [x].foldlM step s = step s x := by
  rw [List.foldlM_cons]
  cases step s x <;> rfl

/-- Where a step accepts the same elements in every state, a fold accepts lists of such elements. -/
theorem succeeds_foldlM {step : σ → α → Except ε σ} {P : α → Prop} {xs : List α}
    (h : ∀ s, ∀ x ∈ xs, (Succeeds (step s x) ↔ P x)) {s : σ} :
    Succeeds (xs.foldlM step s) ↔ ∀ x ∈ xs, P x := by
  induction xs generalizing s with
  | nil => simp
  | cons x xs ih =>
    rw [List.foldlM_cons, succeeds_bind, List.forall_mem_cons, ← h s x List.mem_cons_self]
    simp only [ih fun s y hy => h s y (List.mem_cons_of_mem x hy)]
    exact ⟨fun ⟨t, ht, hxs⟩ => ⟨⟨t, ht⟩, hxs⟩, fun ⟨⟨t, ht⟩, hxs⟩ => ⟨t, ht, hxs⟩⟩

/-- What every step of a fold keeps holds of its result. -/
theorem foldlM_keeps {step : σ → α → Except ε σ} {P : σ → Prop} {xs : List α} {s t : σ}
    (h : ∀ s, ∀ x ∈ xs, ∀ t, P s → step s x = .ok t → P t) (hs : P s)
    (hfold : xs.foldlM step s = .ok t) : P t := by
  induction xs generalizing s with
  | nil =>
    cases hfold
    exact hs
  | cons x xs ih =>
    rw [List.foldlM_cons] at hfold
    obtain ⟨next, hnext, hrest⟩ := bind_eq_ok.1 hfold
    have hkept : P next := h s x List.mem_cons_self next hs hnext
    exact ih (fun u y hy => h u y (List.mem_cons_of_mem x hy)) hkept hrest

/-- What the last step of a kind leaves in a place that no other step touches is there in the end. -/
theorem foldlM_last {step : σ → α → Except ε σ} {p : α → Prop} [DecidablePred p] {g : σ → β}
    {left : α → β} (hself : ∀ s x t, p x → step s x = .ok t → g t = left x)
    (hother : ∀ s x t, ¬ p x → step s x = .ok t → g t = g s) {xs : List α} {s t : σ}
    (h : xs.foldlM step s = .ok t) :
    g t = ((xs.filter p).getLast?.map left).getD (g s) := by
  -- The last step is at the end of the list, so the induction takes it off there.
  induction xs using List.reverseRecOn generalizing t with
  | nil =>
    cases h
    rfl
  | append_singleton xs x ih =>
    rw [List.foldlM_append] at h
    obtain ⟨next, hnext, h⟩ := bind_eq_ok.1 h
    rw [List.foldlM_cons] at h
    obtain ⟨last, hlast, h⟩ := bind_eq_ok.1 h
    cases pure_eq_ok.1 h
    rw [List.filter_append]
    by_cases hx : p x
    · rw [hself next x t hx hlast]
      simp [hx]
    · rw [hother next x t hx hlast, ih hnext]
      simp [hx]

/-- Where it does not depend on the state whether and how a step fails, a fold fails as its steps do,
one after the other. -/
theorem map_foldlM {step : σ → α → Except ε σ} {check : α → Except ε Unit}
    (h : ∀ s x, (step s x).map (fun _ => ()) = check x) {xs : List α} {s : σ} :
    (xs.foldlM step s).map (fun _ => ()) = xs.forM check := by
  induction xs generalizing s with
  | nil => rfl
  | cons x xs ih =>
    change _ = check x >>= fun _ => xs.forM check
    rw [List.foldlM_cons, ← h s x]
    cases step s x with
    | error e => rfl
    | ok t => exact ih

/-- The first element that fails decides the failure. -/
theorem forM_append_cons_eq_error {f : α → Except ε Unit} {front back : List α} {x : α} {e : ε}
    (hfront : ∀ y ∈ front, f y = .ok ()) (hx : f x = .error e) :
    (front ++ x :: back).forM f = .error e := by
  induction front with
  | nil =>
    change f x >>= (fun _ => back.forM f) = _
    rw [hx, error_bind]
  | cons y front ih =>
    rw [List.forall_mem_cons] at hfront
    change f y >>= (fun _ => (front ++ x :: back).forM f) = _
    rw [hfront.1, ok_bind, ih hfront.2]

/-- A list of checks fails at the first element whose check does. -/
theorem forM_eq_error_iff {f : α → Except ε Unit} {xs : List α} {e : ε} : xs.forM f = .error e ↔
    ∃ front x back, xs = front ++ x :: back ∧ (∀ y ∈ front, f y = .ok ()) ∧ f x = .error e := by
  constructor
  · intro h
    induction xs with
    | nil => cases h
    | cons x xs ih =>
      change (f x >>= fun _ => xs.forM f) = .error e at h
      cases hx : f x with
      | error e' =>
        rw [hx] at h
        cases h
        exact ⟨[], x, xs, rfl, List.forall_mem_nil _, hx⟩
      | ok u =>
        rw [hx] at h
        obtain ⟨front, y, back, rfl, hfront, hy⟩ := ih h
        exact ⟨x :: front, y, back, rfl, List.forall_mem_cons.2 ⟨hx, hfront⟩, hy⟩
  · rintro ⟨front, x, back, rfl, hfront, hx⟩
    exact forM_append_cons_eq_error hfront hx

/-- Elements that pass whatever they are can be left out. -/
theorem forM_filter {f : α → Except ε Unit} {p : α → Bool} {xs : List α}
    (h : ∀ x, p x = false → f x = .ok ()) :
    (xs.filter p).forM f = xs.forM f := by
  induction xs with
  | nil => rfl
  | cons x xs ih =>
    change _ = f x >>= fun _ => xs.forM f
    cases hx : p x with
    | false => rw [List.filter_cons_of_neg (by simp [hx]), h x hx, ok_bind, ih]
    | true =>
      rw [List.filter_cons_of_pos hx, ← ih]
      rfl

/-- Whatever failure the computation ends in, it is one of these. -/
def FailsOnly (P : ε → Prop) (x : Except ε α) : Prop := ∀ e, x = .error e → P e

section

variable {P : ε → Prop} {x : Except ε α} {f : α → Except ε β}

@[simp] theorem failsOnly_ok (a : α) : FailsOnly P (.ok a : Except ε α) := by
  intro e h
  cases h

@[simp] theorem failsOnly_pure (a : α) : FailsOnly P (pure a : Except ε α) := failsOnly_ok a

@[simp] theorem failsOnly_error {e : ε} : FailsOnly P (.error e : Except ε α) ↔ P e := by
  constructor
  · exact fun h => h e rfl
  · rintro h _ ⟨⟩
    exact h

theorem FailsOnly.imp {Q : ε → Prop} (h : FailsOnly P x) (hPQ : ∀ e, P e → Q e) : FailsOnly Q x :=
  fun e he => hPQ e (h e he)

theorem FailsOnly.bind (hx : FailsOnly P x) (hf : ∀ a, x = .ok a → FailsOnly P (f a)) :
    FailsOnly P (x >>= f) := by
  cases x with
  | error e => exact failsOnly_error.2 (hx e rfl)
  | ok a => exact hf a rfl

theorem FailsOnly.map {g : α → β} (hx : FailsOnly P x) : FailsOnly P (x.map g) := by
  cases x with
  | error e => exact failsOnly_error.2 (hx e rfl)
  | ok a => exact failsOnly_ok (g a)

theorem FailsOnly.mapError {Q : ε' → Prop} {g : ε → ε'} (hx : FailsOnly (fun e => Q (g e)) x) :
    FailsOnly Q (x.mapError g) := by
  cases x with
  | error e => exact failsOnly_error.2 (hx e rfl)
  | ok a => exact failsOnly_ok a

theorem FailsOnly.mapM {xs : List α} (h : ∀ x ∈ xs, FailsOnly P (f x)) :
    FailsOnly P (xs.mapM f) := by
  induction xs with
  | nil => exact failsOnly_pure _
  | cons x xs ih =>
    rw [List.forall_mem_cons] at h
    rw [List.mapM_cons]
    exact h.1.bind fun _ _ => (ih h.2).bind fun _ _ => failsOnly_pure _

theorem FailsOnly.forM {f : α → Except ε Unit} {xs : List α} (h : ∀ x ∈ xs, FailsOnly P (f x)) :
    FailsOnly P (xs.forM f) := by
  induction xs with
  | nil => exact failsOnly_pure _
  | cons x xs ih =>
    rw [List.forall_mem_cons] at h
    change FailsOnly P (f x >>= fun _ => xs.forM f)
    exact h.1.bind fun _ _ => ih h.2

theorem FailsOnly.foldlM {step : σ → α → Except ε σ} {xs : List α}
    (h : ∀ s, ∀ x ∈ xs, FailsOnly P (step s x)) {s : σ} : FailsOnly P (xs.foldlM step s) := by
  induction xs generalizing s with
  | nil => exact failsOnly_pure _
  | cons x xs ih =>
    rw [List.foldlM_cons]
    refine (h s x List.mem_cons_self).bind fun t _ => ?_
    exact ih fun u y hy => h u y (List.mem_cons_of_mem x hy)

end

end Admission
