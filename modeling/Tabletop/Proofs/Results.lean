import Mathlib.Data.List.Forall2
import Mathlib.Tactic.Common

namespace Tabletop

variable {ε α β : Type} {x : Except ε α} {f : α → Except ε β} {e : ε} {b : β}

lemma bind_eq_ok : x >>= f = .ok b ↔ ∃ a, x = .ok a ∧ f a = .ok b := by
  cases x <;> simp [bind, Except.bind]

lemma bind_eq_error : x >>= f = .error e ↔ x = .error e ∨ ∃ a, x = .ok a ∧ f a = .error e := by
  cases x <;> simp [bind, Except.bind]

lemma mapError_eq_ok {ε' : Type} {y : Except ε β} {g : ε → ε'} :
    y.mapError g = .ok b ↔ y = .ok b := by
  cases y <;> simp [Except.mapError]

lemma exists_of_foldlM_eq_error {g : β → α → Except ε β} {xs : List α}
    (h : xs.foldlM g b = .error e) : ∃ b, ∃ x ∈ xs, g b x = .error e := by
  induction xs generalizing b with
  | nil => cases h
  | cons x xs ih =>
    rw [List.foldlM_cons, bind_eq_error] at h
    rcases h with hx | ⟨b', _, h⟩
    · exact ⟨b, x, by simp, hx⟩
    · obtain ⟨b, y, hy, he⟩ := ih h
      exact ⟨b, y, by simp [hy], he⟩

lemma invariant_of_foldlM_eq_ok {motive : β → Prop} {g : β → α → Except ε β} {xs : List α}
    {b c : β} (hb : motive b)
    (hstep : ∀ b c, ∀ x ∈ xs, motive b → g b x = .ok c → motive c)
    (h : xs.foldlM g b = .ok c) : motive c := by
  induction xs generalizing b with
  | nil =>
    cases h
    exact hb
  | cons x xs ih =>
    rw [List.foldlM_cons, bind_eq_ok] at h
    obtain ⟨b', hx, h⟩ := h
    have hb' : motive b' := hstep b b' x (by simp) hb hx
    exact ih hb' (fun b c y hy => hstep b c y (by simp [hy])) h

lemma exists_of_foldlM_eq_ok {g : β → α → Except ε β} {xs : List α} {b c : β}
    (h : xs.foldlM g b = .ok c) {x : α} (hx : x ∈ xs) : ∃ b c, g b x = .ok c := by
  induction xs generalizing b with
  | nil => cases hx
  | cons y ys ih =>
    rw [List.foldlM_cons, bind_eq_ok] at h
    obtain ⟨b', hb, h⟩ := h
    rcases List.mem_cons.1 hx with rfl | hx
    · exact ⟨b, b', hb⟩
    · exact ih h hx

lemma exists_of_mapM_eq_ok {g : α → Except ε β} {xs : List α} {ys : List β}
    (h : xs.mapM g = .ok ys) {y : β} (hy : y ∈ ys) : ∃ x ∈ xs, g x = .ok y := by
  induction xs generalizing ys with
  | nil =>
    cases h
    cases hy
  | cons x xs ih =>
    rw [List.mapM_cons, bind_eq_ok] at h
    obtain ⟨z, hz, h⟩ := h
    obtain ⟨zs, hzs, h⟩ := bind_eq_ok.1 h
    cases h
    rcases List.mem_cons.1 hy with rfl | hy
    · exact ⟨x, by simp, hz⟩
    · obtain ⟨x', hx', hg⟩ := ih hzs hy
      exact ⟨x', by simp [hx'], hg⟩

lemma length_of_mapM_eq_ok {g : α → Except ε β} {xs : List α} {ys : List β}
    (h : xs.mapM g = .ok ys) : ys.length = xs.length := by
  induction xs generalizing ys with
  | nil =>
    cases h
    rfl
  | cons x xs ih =>
    rw [List.mapM_cons, bind_eq_ok] at h
    obtain ⟨z, _, h⟩ := h
    obtain ⟨zs, hzs, h⟩ := bind_eq_ok.1 h
    cases h
    exact congrArg Nat.succ (ih hzs)

lemma getElem?_of_mapM_eq_ok {g : α → Except ε β} {xs : List α} {ys : List β}
    (h : xs.mapM g = .ok ys) {k : ℕ} {y : β} (hy : ys[k]? = some y) :
    ∃ x, xs[k]? = some x ∧ g x = .ok y := by
  induction xs generalizing ys k with
  | nil =>
    cases h
    cases hy
  | cons x xs ih =>
    rw [List.mapM_cons, bind_eq_ok] at h
    obtain ⟨z, hz, h⟩ := h
    obtain ⟨zs, hzs, h⟩ := bind_eq_ok.1 h
    cases h
    cases k with
    | zero =>
      cases hy
      exact ⟨x, rfl, hz⟩
    | succ k => exact ih hzs hy

lemma exists_mapM_eq_ok {g : α → Except ε β} {xs : List α} (h : ∀ x ∈ xs, ∃ y, g x = .ok y) :
    ∃ ys, xs.mapM g = .ok ys := by
  induction xs with
  | nil => exact ⟨[], rfl⟩
  | cons x xs ih =>
    obtain ⟨⟨y, hy⟩, hxs⟩ := List.forall_mem_cons.1 h
    obtain ⟨ys, hys⟩ := ih hxs
    refine ⟨y :: ys, ?_⟩
    rw [List.mapM_cons, hy, hys]
    rfl

lemma forM_eq_ok {g : α → Except ε Unit} {xs : List α} :
    xs.forM g = .ok () ↔ ∀ x ∈ xs, g x = .ok () := by
  induction xs with
  | nil => simp [pure, Except.pure]
  | cons x xs ih =>
    rw [List.forM, bind_eq_ok, List.forall_mem_cons, ← ih]
    exact ⟨fun ⟨_, hx, hxs⟩ => ⟨hx, hxs⟩, fun ⟨hx, hxs⟩ => ⟨(), hx, hxs⟩⟩

section Monad

variable {m : Type → Type} [Monad m] [LawfulMonad m] {g : α → m β} {write : β → α}

lemma mapM_eq_pure {xs : List α} {ys : List β} (h : List.Forall₂ (fun x y => g x = pure y) xs ys) :
    xs.mapM g = pure ys := by
  induction h with
  | nil => simp
  | cons hx _ ih => simp [hx, ih]

lemma mapM_map_eq_pure {ys : List β} (h : ∀ y ∈ ys, g (write y) = pure y) :
    (ys.map write).mapM g = pure ys :=
  mapM_eq_pure (List.forall₂_map_left_iff.2 (List.forall₂_same.2 h))

end Monad

end Tabletop
