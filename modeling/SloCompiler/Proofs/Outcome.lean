import Mathlib.Data.List.Forall2

namespace SloCompiler

variable {ε ε' α β : Type}

theorem isOk_iff {x : Except ε α} : x.isOk = true ↔ ∃ a, x = .ok a := by
  cases x <;> simp [Except.isOk, Except.toBool]

theorem bind_ok {x : Except ε α} {f : α → Except ε β} {b : β} :
    x >>= f = .ok b ↔ ∃ a, x = .ok a ∧ f a = .ok b := by
  cases x with
  | error e => simp [bind, Except.bind]
  | ok a => simp [bind, Except.bind]

theorem map_ok {x : Except ε α} {f : α → β} {b : β} :
    x.map f = .ok b ↔ ∃ a, x = .ok a ∧ f a = b := by
  cases x <;> simp [Except.map]

-- Values can be compared where outcomes cannot.
theorem toOption_some {x : Except ε α} {a : α} : x.toOption = some a ↔ x = .ok a := by
  cases x <;> simp [Except.toOption]

theorem toOption_map {x : Except ε α} {f : α → β} {b : β} :
    x.toOption.map f = some b ↔ ∃ a, x = .ok a ∧ f a = b := by
  cases x <;> simp [Except.toOption]

theorem mapError_ok {x : Except ε α} {f : ε → ε'} {a : α} :
    x.mapError f = .ok a ↔ x = .ok a := by
  cases x <;> simp [Except.mapError]

theorem mapM_ok {f : α → Except ε β} {xs : List α} {ys : List β} :
    xs.mapM f = .ok ys ↔ List.Forall₂ (fun x y => f x = .ok y) xs ys := by
  induction xs generalizing ys with
  | nil => cases ys <;> simp [pure, Except.pure]
  | cons x xs ih =>
    simp only [List.mapM_cons, bind_ok, List.forall₂_cons_left_iff, ← ih, pure, Except.pure,
      Except.ok.injEq]
    constructor
    · rintro ⟨y, first, ys', rest, rfl⟩
      exact ⟨y, ys', first, rest, rfl⟩
    · rintro ⟨y, ys', first, rest, rfl⟩
      exact ⟨y, first, ys', rest, rfl⟩

theorem mapM_exists {f : α → Except ε β} {xs : List α} (each : ∀ x ∈ xs, ∃ y, f x = .ok y) :
    ∃ ys, xs.mapM f = .ok ys := by
  induction xs with
  | nil => exact ⟨[], rfl⟩
  | cons x xs ih =>
    obtain ⟨y, first⟩ := each x List.mem_cons_self
    obtain ⟨ys, rest⟩ := ih fun z member => each z (List.mem_cons_of_mem _ member)
    exact ⟨y :: ys, mapM_ok.mpr (.cons first (mapM_ok.mp rest))⟩

theorem forall₂_left {R : α → β → Prop} {xs : List α} {ys : List β}
    (each : List.Forall₂ R xs ys) {x : α} (member : x ∈ xs) : ∃ y ∈ ys, R x y := by
  induction each with
  | nil => cases member
  | @cons z y xs ys first _ ih =>
    rcases List.mem_cons.mp member with rfl | later
    · exact ⟨y, List.mem_cons_self, first⟩
    · obtain ⟨w, found, made⟩ := ih later
      exact ⟨w, List.mem_cons_of_mem _ found, made⟩

theorem mem_of_mapM {f : α → Except ε β} {xs : List α} {ys : List β}
    (mapped : xs.mapM f = .ok ys) {y : β} (present : y ∈ ys) : ∃ x ∈ xs, f x = .ok y :=
  forall₂_left (mapM_ok.mp mapped).flip present

theorem map_mapM {γ : Type} {f : α → Except ε β} {g : β → γ} {xs : List α} :
    (xs.mapM f).map (List.map g) = xs.mapM fun x => (f x).map g := by
  induction xs with
  | nil => rfl
  | cons x xs ih =>
    rw [List.mapM_cons, List.mapM_cons, ← ih]
    cases f x with
    | error e => rfl
    | ok y => cases xs.mapM f <;> rfl

theorem bind_error {x : Except ε α} {f : α → Except ε β} {e : ε} :
    x >>= f = .error e ↔ x = .error e ∨ ∃ a, x = .ok a ∧ f a = .error e := by
  cases x <;> simp [bind, Except.bind]

theorem map_error {x : Except ε α} {f : α → β} {e : ε} : x.map f = .error e ↔ x = .error e := by
  cases x <;> simp [Except.map]

theorem mapError_error {x : Except ε α} {f : ε → ε'} {e : ε'} :
    x.mapError f = .error e ↔ ∃ cause, x = .error cause ∧ f cause = e := by
  cases x <;> simp [Except.mapError]

theorem mapM_error {f : α → Except ε β} {xs : List α} {e : ε} :
    xs.mapM f = .error e ↔ ∃ before x after, xs = before ++ x :: after ∧
      (∀ y ∈ before, ∃ z, f y = .ok z) ∧ f x = .error e := by
  induction xs with
  | nil => simp [pure, Except.pure]
  | cons x xs ih =>
    rw [List.mapM_cons, bind_error]
    constructor
    · rintro (first | ⟨z, passed, rest⟩)
      · exact ⟨[], x, xs, rfl, List.forall_mem_nil _, first⟩
      · obtain ⟨before, y, after, rfl, each, failed⟩ :=
          ih.mp ((bind_error.mp rest).resolve_right fun ⟨_, _, kept⟩ => by cases kept)
        exact ⟨x :: before, y, after, rfl, List.forall_mem_cons.mpr ⟨⟨z, passed⟩, each⟩, failed⟩
    · rintro ⟨before, y, after, shape, each, failed⟩
      cases before with
      | nil =>
        cases shape
        exact .inl failed
      | cons w before =>
        cases shape
        obtain ⟨⟨z, passed⟩, each⟩ := List.forall_mem_cons.mp each
        exact .inr ⟨z, passed, bind_error.mpr (.inl (ih.mpr ⟨before, y, after, rfl, each, failed⟩))⟩

def FirstError (f : α → Except ε β) (xs : List α) (x : α) (e : ε) : Prop :=
  ∃ before after, xs = before ++ x :: after ∧ (∀ y ∈ before, ∃ z, f y = .ok z) ∧ f x = .error e

theorem mapM_firstError {f : α → Except ε β} {xs : List α} {e : ε} :
    xs.mapM f = .error e ↔ ∃ x, FirstError f xs x e := by
  rw [mapM_error, exists_comm]
  exact exists_congr fun x => Iff.rfl

theorem firstError_exists {f : α → Except ε β} {xs : List α}
    (failing : ∃ x ∈ xs, ¬∃ y, f x = .ok y) : ∃ x e, FirstError f xs x e := by
  cases mapped : xs.mapM f with
  | ok ys =>
    obtain ⟨x, member, failed⟩ := failing
    obtain ⟨y, _, passed⟩ := forall₂_left (mapM_ok.mp mapped) member
    exact absurd ⟨y, passed⟩ failed
  | error e =>
    obtain ⟨x, first⟩ := mapM_firstError.mp mapped
    exact ⟨x, e, first⟩

-- Steps that follow on earlier ones can be taken along with these, if the earlier ones all succeed.
theorem mapM_bind_mapM {γ : Type} {f : α → Except ε β} {g : β → Except ε γ} {xs : List α}
    (each : ∀ x ∈ xs, ∃ y, f x = .ok y) :
    (xs.mapM f >>= fun ys => ys.mapM g) = xs.mapM fun x => f x >>= g := by
  induction xs with
  | nil => rfl
  | cons x xs ih =>
    obtain ⟨⟨y, first⟩, each⟩ := List.forall_mem_cons.mp each
    obtain ⟨ys, rest⟩ := mapM_exists each
    rw [List.mapM_cons, List.mapM_cons, ← ih each, first, rest]
    change (y :: ys).mapM g = _
    rw [List.mapM_cons]
    rfl

end SloCompiler
