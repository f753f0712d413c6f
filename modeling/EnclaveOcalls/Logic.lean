import EnclaveOcalls.Machine

/-!
# One program logic for the enclave thread

Every property the project proves of a helper or a wrapper has one shape: from every machine
satisfying a precondition, the computation returns in a machine satisfying a postcondition of its
result, faults in one satisfying `F`, or outruns its fuel in one satisfying `D`. `Spec` is that
judgment, and its rules for `return`, sequencing, conditionals, `read` and `<$>` are proved here
once. The program logics of the later files are instances of `Spec`, each fixing what its pre-
and postconditions track; they take these rules as they are, or derive a variant in one line.

This file proves the following.
* The structural rules of `Spec`: `Spec.pure`, `Spec.bind`, `Spec.ite`, `Spec.ite_bind`,
  `Spec.unless`, `Spec.map`, `Spec.read`, `Spec.diverge`, with consequence (`Spec.pre`,
  `Spec.post`) and conjunction (`Spec.and`).
-/

namespace EnclaveOcalls

open OcallM

/-- A run satisfies two postconditions at once. -/
theorem wp_and {env : Env} {m : Machine} {c : OcallM α} {Q₁ Q₂ : α → Machine → Prop}
    {F D : Machine → Prop} (h₁ : wp c env m Q₁ F D) (h₂ : wp c env m Q₂ F D) :
    wp c env m (fun a m' => Q₁ a m' ∧ Q₂ a m') F D := by
  unfold wp at *
  revert h₁ h₂
  cases c env m with
  | ok a m' => exact And.intro
  | fault m' => exact fun h _ => h
  | diverge m' => exact fun h _ => h

/-- From every machine satisfying `P`, `c` returns `a` in a machine satisfying `Q a`, faults in
one satisfying `F`, or outruns its fuel in one satisfying `D`. -/
def Spec (env : Env) (P : Machine → Prop) (c : OcallM α) (Q : α → Machine → Prop)
    (F D : Machine → Prop) : Prop :=
  ∀ m, P m → wp c env m Q F D

section Spec

variable {env : Env} {P P' : Machine → Prop} {F D : Machine → Prop}

theorem Spec.run {c : OcallM α} {Q Q' : α → Machine → Prop} {m : Machine}
    (h : Spec env P c Q F D) (hm : P m) (k : ∀ a m', Q a m' → Q' a m') : wp c env m Q' F D :=
  wp_post (h m hm) k

theorem Spec.pre {c : OcallM α} {Q : α → Machine → Prop} (h : ∀ m, P m → P' m)
    (t : Spec env P' c Q F D) : Spec env P c Q F D :=
  fun m hm => t m (h m hm)

theorem Spec.post {c : OcallM α} {Q Q' : α → Machine → Prop} (t : Spec env P c Q F D)
    (h : ∀ a m, Q a m → Q' a m) : Spec env P c Q' F D :=
  fun _ hm => t.run hm h

/-- A precondition's pure part may be assumed. -/
theorem Spec.assume {R : Prop} {c : OcallM α} {Q : α → Machine → Prop}
    (h : R → Spec env P c Q F D) : Spec env (fun m => P m ∧ R) c Q F D :=
  fun m hm => h hm.2 m hm.1

theorem Spec.and {c : OcallM α} {Q₁ Q₂ : α → Machine → Prop} (h₁ : Spec env P c Q₁ F D)
    (h₂ : Spec env P c Q₂ F D) : Spec env P c (fun a m => Q₁ a m ∧ Q₂ a m) F D :=
  fun m hm => wp_and (h₁ m hm) (h₂ m hm)

theorem Spec.pure {a : α} {Q : α → Machine → Prop} (h : ∀ m, P m → Q a m) :
    Spec env P (Pure.pure a) Q F D := h

theorem Spec.bind {x : OcallM β} {f : β → OcallM α} {R : β → Machine → Prop}
    {Q : α → Machine → Prop} (hx : Spec env P x R F D) (hf : ∀ b, Spec env (R b) (f b) Q F D) :
    Spec env P (x >>= f) Q F D :=
  fun _ hm => (wp_bind x f).2 (hx.run hm fun b m' h => hf b m' h)

theorem Spec.pure_bind {a : β} {f : β → OcallM α} {Q : α → Machine → Prop}
    (h : Spec env P (f a) Q F D) : Spec env P (Pure.pure a >>= f) Q F D :=
  fun m hm => (wp_bind _ f).2 (h m hm)

theorem Spec.ite {b : Prop} [Decidable b] {x y : OcallM α} {Q : α → Machine → Prop}
    (hx : b → Spec env P x Q F D) (hy : ¬b → Spec env P y Q F D) :
    Spec env P (if b then x else y) Q F D :=
  fun m hm => wp_ite_of (fun h => hx h m hm) (fun h => hy h m hm)

/-- A conditional whose two branches go on to the same join point `k`. -/
theorem Spec.ite_bind {b : Prop} [Decidable b] {x y : OcallM β} {k : β → OcallM α}
    {R : β → Machine → Prop} {Q : α → Machine → Prop} (hx : b → Spec env P x R F D)
    (hy : ¬b → Spec env P y R F D) (hk : ∀ a, Spec env (R a) (k a) Q F D) :
    Spec env P (if b then x >>= k else y >>= k) Q F D :=
  .ite (fun h => (hx h).bind hk) fun h => (hy h).bind hk

/-- `if (b) { ...; return v; }` and the code after it. -/
theorem Spec.unless {b : Prop} [Decidable b] {x : OcallM α} {k : PUnit → OcallM α}
    {Q : α → Machine → Prop} (hx : Spec env P x Q F D) (hk : ¬b → Spec env P (k ()) Q F D) :
    Spec env P (if b then x else Pure.pure () >>= k) Q F D :=
  .ite (fun _ => hx) fun h => .pure_bind (hk h)

theorem Spec.map {x : OcallM β} {f : β → α} {Q : α → Machine → Prop}
    (h : Spec env P x (fun b => Q (f b)) F D) : Spec env P (f <$> x) Q F D :=
  fun m hm => (wp_map x f).2 (h m hm)

theorem Spec.read {f : Env → OcallM α} {Q : α → Machine → Prop} (h : Spec env P (f env) Q F D) :
    Spec env P (OcallM.read >>= f) Q F D :=
  fun m hm => (wp_bind _ f).2 (h m hm)

/-- A loop that the host keeps going past the fuel stops where it is. -/
theorem Spec.diverge {Q : α → Machine → Prop} (h : ∀ m, P m → D m) :
    Spec env P (diverge : OcallM α) Q F D := h

end Spec

end EnclaveOcalls
