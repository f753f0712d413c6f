import EnclaveOcalls.Api

/-!
# No untrusted-stack allocation is used after a reset

`sgx_reset_ustack` frees every allocation of the thread's untrusted stack at once, and so do
`ocall_mmap_untrusted` and `ocall_munmap_untrusted`, which reset the stack themselves. A pointer
into the untrusted stack is live from its allocation to the next reset; every host pointer the
model carries records the generation it was allocated in (`HostPtr.gen`), and every event the
generation it happened in.

An event *uses* the host pointers it reads, writes or hands to the host (`Event.ptrs`); making an
allocation is not a use. The log stays fresh (`FreshSince`) while every event added to it uses
only pointers live in its generation. The main results:

* `ocall_uses_live_allocations`: every wrapper, on every path and whatever the host does, adds to
  the log only entries that use live pointers;
* `ocall_resets_ustack`: every wrapper but `ocall_resume_thread` and `ocall_clone_thread` returns
  with the untrusted-stack pointer back at the thread's saved top.

Both rest on instances of `Spec`. `Stays g c P` says that `c`, run in generation `g`, uses only
pointers live in `g`, does not reset, and returns a value satisfying `P`; `RestoresIn g c` says
that `c` keeps the log fresh and returns with the untrusted stack at its top; `KeepsTop` says that
`c` keeps the log fresh, and the stack at its top if it was. Each helper of `enclave_ocalls.c` has
one such lemma, and each wrapper's proof follows its code, one lemma per call.
-/

namespace EnclaveOcalls

open OcallM

/-! ## Uses of host pointers -/

/-- The host pointers a value stored into host memory holds. -/
@[simp] def Val.ptrs : Val → List HostPtr
  | .ptr p => [p]
  | .int _ | .code _ | .bytes _ _ => []

/-- The host pointers an event reads, writes or hands to the host. -/
@[simp] def Event.ptrs : Event → List HostPtr
  | .store ms _ v => ms :: v.ptrs
  | .load p _ | .storeBytes p _ _ | .loadBytes p _ | .ocall _ p | .enqueue p | .cas p _ _ => [p]
  | .alloc _ _ | .reset | .write _ _ | .malloc _ _ | .free _ => []

/-- `p` may be used in generation `g`: it is not on the untrusted stack, or it was allocated in
`g`, after the last reset. -/
def HostPtr.LiveIn (p : HostPtr) (g : Nat) : Prop := p.gen = none ∨ p.gen = some g

instance (p : HostPtr) (g : Nat) : Decidable (p.LiveIn g) :=
  inferInstanceAs (Decidable (_ ∨ _))

@[simp] theorem HostPtr.liveIn_mk {a g : Nat} {o : Option Nat} :
    HostPtr.LiveIn ⟨a, o⟩ g ↔ o = none ∨ o = some g := Iff.rfl

@[simp] theorem HostPtr.null_liveIn (g : Nat) : HostPtr.null.LiveIn g := .inl rfl

@[simp] theorem HostPtr.offset_liveIn {p : HostPtr} {off g : Nat} :
    (p.offset off).LiveIn g ↔ p.LiveIn g := Iff.rfl

/-- An entry uses only pointers live in its generation. -/
def Entry.Fresh (e : Entry) : Prop := ∀ p ∈ e.ev.ptrs, p.LiveIn e.gen

instance (e : Entry) : Decidable e.Fresh :=
  inferInstanceAs (Decidable (∀ p ∈ e.ev.ptrs, p.LiveIn e.gen))

/-- The log `l` is `l₀` with entries added, each of which uses only live pointers. -/
def FreshSince (l₀ l : List Entry) : Prop := ∃ new, l = new ++ l₀ ∧ ∀ e ∈ new, e.Fresh

theorem FreshSince.refl (l : List Entry) : FreshSince l l := ⟨[], rfl, by simp⟩

theorem FreshSince.cons {l₀ l : List Entry} {e : Entry} (h : FreshSince l₀ l) (he : e.Fresh) :
    FreshSince l₀ (e :: l) := by
  obtain ⟨new, rfl, hn⟩ := h
  exact ⟨e :: new, rfl, by simpa [he] using hn⟩

/-- A machine in generation `g` whose log is fresh since `l₀`. -/
structure Machine.At (l₀ : List Entry) (g : Nat) (m : Machine) : Prop where
  gen : m.gen = g
  fresh : FreshSince l₀ m.log

theorem Machine.At.push {l₀ : List Entry} {g : Nat} {m : Machine} {e : Event} (hm : m.At l₀ g)
    (he : ∀ p ∈ e.ptrs, p.LiveIn g) : (m.push e).At l₀ g :=
  ⟨hm.gen, hm.fresh.cons (by simpa [Entry.Fresh, hm.gen] using he)⟩

theorem Machine.At.push_of_nil {l₀ : List Entry} {g : Nat} {m : Machine} {e : Event}
    (hm : m.At l₀ g) (he : e.ptrs = []) : (m.push e).At l₀ g :=
  hm.push (by rw [he]; exact fun _ h => absurd h (List.not_mem_nil _))

/-! ## Runs within one generation -/

section Stays

variable {env : Env} {l₀ : List Entry} {g : Nat}

/-- Run in generation `g` from a log fresh since `l₀`, `c` uses only pointers live in `g`, does
not reset the untrusted stack, and returns a value satisfying `P`. -/
def Stays (env : Env) (l₀ : List Entry) (g : Nat) (c : OcallM α) (P : α → Prop) : Prop :=
  Spec env (·.At l₀ g) c (fun a m' => m'.At l₀ g ∧ P a) (FreshSince l₀ ·.log)
    (FreshSince l₀ ·.log)

theorem Stays.run {c : OcallM α} {P : α → Prop} {m : Machine} {Q : α → Machine → Prop}
    (h : Stays env l₀ g c P) (hm : m.At l₀ g) (k : ∀ a m', m'.At l₀ g → P a → Q a m') :
    wp c env m Q (FreshSince l₀ ·.log) (FreshSince l₀ ·.log) :=
  Spec.run h hm fun a m' h' => k a m' h'.1 h'.2

theorem Stays.pure {a : α} {P : α → Prop} (h : P a) : Stays env l₀ g (pure a) P :=
  Spec.pure fun _ hm => ⟨hm, h⟩

theorem Stays.ret {a : α} : Stays env l₀ g (Pure.pure a) fun _ => True := .pure trivial

theorem Stays.bind {x : OcallM β} {f : β → OcallM α} {P : β → Prop} {R : α → Prop}
    (hx : Stays env l₀ g x P) (hf : ∀ b, P b → Stays env l₀ g (f b) R) :
    Stays env l₀ g (x >>= f) R :=
  Spec.bind hx fun b => .assume (hf b)

theorem Stays.ite {b : Prop} [Decidable b] {x y : OcallM α} {P : α → Prop}
    (hx : b → Stays env l₀ g x P) (hy : ¬b → Stays env l₀ g y P) :
    Stays env l₀ g (if b then x else y) P :=
  Spec.ite hx hy

theorem Stays.pure_bind {a : β} {f : β → OcallM α} {R : α → Prop}
    (h : Stays env l₀ g (f a) R) : Stays env l₀ g (Pure.pure a >>= f) R :=
  Spec.pure_bind h

/-- A conditional whose two branches go on to the same join point `k`. -/
theorem Stays.ite_bind {b : Prop} [Decidable b] {x y : OcallM β} {k : β → OcallM α}
    {P : β → Prop} {R : α → Prop} (hx : b → Stays env l₀ g x P) (hy : ¬b → Stays env l₀ g y P)
    (hk : ∀ a, P a → Stays env l₀ g (k a) R) :
    Stays env l₀ g (if b then x >>= k else y >>= k) R :=
  .ite (fun h => (hx h).bind hk) (fun h => (hy h).bind hk)

theorem Stays.map {x : OcallM β} {f : β → α} {P : β → Prop} {R : α → Prop}
    (h : Stays env l₀ g x P) (hf : ∀ b, P b → R (f b)) : Stays env l₀ g (f <$> x) R :=
  Spec.map (Spec.post h fun b _ h' => ⟨h'.1, hf b h'.2⟩)

theorem Stays.map_true {x : OcallM β} {f : β → α} {P : β → Prop} (h : Stays env l₀ g x P) :
    Stays env l₀ g (f <$> x) fun _ => True :=
  h.map fun _ _ => trivial

theorem Stays.read {f : Env → OcallM α} {P : α → Prop} (h : Stays env l₀ g (f env) P) :
    Stays env l₀ g (OcallM.read >>= f) P :=
  Spec.read h

/-- Sequencing after a step whose result the rest does not need to know anything about. -/
theorem Stays.seq {x : OcallM β} {f : β → OcallM α} {R : α → Prop}
    (hx : Stays env l₀ g x fun _ => True) (hf : ∀ b, Stays env l₀ g (f b) R) :
    Stays env l₀ g (x >>= f) R :=
  hx.bind fun b _ => hf b

/-- `if (b) return v;` in a helper that does not reset the untrusted stack. -/
theorem Stays.unless {b : Prop} [Decidable b] {v : α} {k : PUnit → OcallM α}
    (hk : ¬b → Stays env l₀ g (k ()) fun _ => True) :
    Stays env l₀ g (if b then Pure.pure v else Pure.pure () >>= k) fun _ => True :=
  .ite (fun _ => .ret) fun h => .pure_bind (hk h)

/-! ### The helpers -/

theorem writeMem_stays (dst n : Nat) (data : Nat → UInt8) :
    Stays env l₀ g (writeMem dst n data) fun _ => True := fun m hm => by
  simp only [wp_writeMem]
  split_ifs
  · exact hm.fresh
  · exact ⟨⟨hm.gen, (hm.push_of_nil (e := .write dst n) rfl).fresh⟩, trivial⟩

theorem readMem_stays (src n : Nat) : Stays env l₀ g (readMem src n) fun _ => True := fun m hm => by
  simp only [wp_readMem]
  split_ifs
  · exact hm.fresh
  · exact ⟨hm, trivial⟩

theorem cStrlen_stays (p : Nat) : Stays env l₀ g (cStrlen p) fun _ => True := fun m hm => by
  simp only [wp_cStrlen]
  split_ifs
  · exact hm.fresh
  · exact ⟨hm, trivial⟩

theorem storeField_stays {ms : HostPtr} {v : Val} (f : Field) (hms : ms.LiveIn g)
    (hv : ∀ p ∈ v.ptrs, p.LiveIn g) : Stays env l₀ g (storeField ms f v) fun _ => True :=
  fun m hm => by
    simp only [wp_storeField]
    split_ifs
    · exact hm.fresh
    · exact ⟨hm.push (by simpa using ⟨hms, hv⟩), trivial⟩

theorem copyToField_stays {ms : HostPtr} (f : Field) (src n : Nat) (hms : ms.LiveIn g) :
    Stays env l₀ g (copyToField ms f src n) fun _ => True := fun m hm => by
  simp only [wp_copyToField]
  split_ifs
  · exact hm.fresh
  · exact ⟨hm.push (by simpa using hms), trivial⟩

theorem loadField_stays {ms : HostPtr} (f : Field) (hms : ms.LiveIn g) :
    Stays env l₀ g (loadField ms f) fun _ => True := fun m hm => by
  simp only [wp_loadField]
  split_ifs
  · exact hm.fresh
  · exact ⟨hm.push (by simpa using hms), trivial⟩

theorem loadU32_stays {ms : HostPtr} (f : Field) (hms : ms.LiveIn g) :
    Stays env l₀ g (loadU32 ms f) fun _ => True :=
  (loadField_stays f hms).map_true

theorem loadU64_stays {ms : HostPtr} (f : Field) (hms : ms.LiveIn g) :
    Stays env l₀ g (loadU64 ms f) fun _ => True :=
  (loadField_stays f hms).map_true

theorem loadI32_stays {ms : HostPtr} (f : Field) (hms : ms.LiveIn g) :
    Stays env l₀ g (loadI32 ms f) fun _ => True := by
  unfold loadI32
  exact ((loadField_stays f hms).seq fun _ => .ret).map_true

theorem loadFieldBytes_stays {ms : HostPtr} (f : Field) (hms : ms.LiveIn g) :
    Stays env l₀ g (loadFieldBytes ms f) fun _ => True := fun m hm => by
  simp only [wp_loadFieldBytes]
  split_ifs
  · exact hm.fresh
  · exact ⟨hm.push (by simpa using hms), trivial⟩

theorem copyToHost_stays {dst : HostPtr} (src n : Nat) (hdst : dst.LiveIn g) :
    Stays env l₀ g (copyToHost dst src n) fun _ => True := fun m hm => by
  simp only [wp_copyToHost]
  split_ifs
  · exact hm.fresh
  · exact ⟨hm.push (by simpa using hdst), trivial⟩

theorem sgxOcall_stays {ms : HostPtr} (code : OcallCode) (hms : ms.LiveIn g) :
    Stays env l₀ g (sgxOcall code ms) fun _ => True :=
  fun _ hm => ⟨hm.push (by simpa using hms), trivial⟩

theorem spinlockCmpxchg_stays {req : HostPtr} (expected desired : Int) (hreq : req.LiveIn g) :
    Stays env l₀ g (spinlockCmpxchg req expected desired) fun _ => True := fun m hm => by
  have hm' := hm.push (e := .cas (req.offset env.layout.lockOffset) expected desired)
    (by simpa using hreq)
  simp only [wp_spinlockCmpxchg]
  split_ifs <;> exact ⟨hm', trivial⟩

theorem rpcEnqueue_stays {req : HostPtr} (hreq : req.LiveIn g) :
    Stays env l₀ g (rpcEnqueue req) (·.LiveIn g) := fun _ hm => by
  simp only [wp_rpcEnqueue]
  exact ⟨hm.push (by simpa using hreq), by split_ifs <;> simp [hreq]⟩

/-- Every untrusted-stack allocation is live in the generation it is made in. -/
theorem sgxAllocOnUstackAligned_stays (size alignment : Nat) :
    Stays env l₀ g (sgxAllocOnUstackAligned size alignment) (·.LiveIn g) := fun m hm => by
  simp only [wp_sgxAllocOnUstackAligned]
  split_ifs
  · exact ⟨⟨hm.gen, hm.fresh.cons (by simp [Entry.Fresh])⟩, by simp [hm.gen]⟩
  · exact ⟨hm, by simp⟩

theorem sgxAllocOnUstack_stays (size : Nat) :
    Stays env l₀ g (sgxAllocOnUstack size) (·.LiveIn g) :=
  sgxAllocOnUstackAligned_stays size 1

theorem sgxCopyToUstack_stays (ptr size : Nat) :
    Stays env l₀ g (sgxCopyToUstack ptr size) (·.LiveIn g) := by
  unfold sgxCopyToUstack
  refine .read (.ite (fun _ => .pure (by simp)) fun _ => .pure_bind <|
    (sgxAllocOnUstack_stays size).bind fun p hp => ?_)
  exact .ite_bind (fun _ => (copyToHost_stays ptr size hp)) (fun _ => .ret)
    fun _ _ => .pure hp

theorem queryBytes_stays {src : HostPtr} (n : Nat) (hsrc : src.LiveIn g) :
    Stays env l₀ g (queryBytes (.loadBytes src n)) fun _ => True :=
  fun _ hm => ⟨hm.push (by simpa using hsrc), trivial⟩

theorem sgxCopyToEnclave_stays {uptr : HostPtr} (ptr maxsize usize : Nat) (huptr : uptr.LiveIn g) :
    Stays env l₀ g (sgxCopyToEnclave ptr maxsize uptr usize) fun _ => True := by
  unfold sgxCopyToEnclave
  exact .read (.ite (fun _ => (queryBytes_stays usize huptr).bind fun data _ =>
    (writeMem_stays ptr usize data).bind fun _ _ => .ret) fun _ => .ret)

theorem sgxCopyPtrToEnclave_stays (ptr uptr size : Nat) :
    Stays env l₀ g (sgxCopyPtrToEnclave ptr uptr size) fun _ => True := by
  unfold sgxCopyPtrToEnclave
  exact .read (.ite (fun _ => (writeMem_stays _ _ _).bind fun _ _ => .ret)
    fun _ => .ret)

theorem storeFields_stays {ms : HostPtr} (fields : List (Field × Int)) (hms : ms.LiveIn g) :
    Stays env l₀ g (storeFields ms fields) fun _ => True := by
  induction fields with
  | nil => exact .ret
  | cons fv rest ih => exact (storeField_stays fv.1 hms (by simp)).bind fun _ _ => ih

theorem allocMs_stays (code : OcallCode) : Stays env l₀ g (allocMs code) (·.LiveIn g) :=
  .read (sgxAllocOnUstackAligned_stays _ _)

theorem cPathLen_stays (path : Nat) : Stays env l₀ g (cPathLen path) fun _ => True :=
  .ite (fun _ => .ret) fun _ => (cStrlen_stays path).bind fun _ _ => .ret

theorem copyWordsOut_stays {ms : HostPtr} (f : Nat → Field) (dst n : Nat) (hms : ms.LiveIn g) :
    Stays env l₀ g (copyWordsOut ms f dst n) fun _ => True := by
  unfold copyWordsOut
  induction List.range n with
  | nil => exact .ret
  | cons i is ih =>
    simp only [List.forM]
    exact ((loadU32_stays (f i) hms).seq fun _ => writeMem_stays _ _ _).seq fun _ => ih

/-! ### `sgx_exitless_ocall` -/

theorem spinlockLockTimeout_stays {req : HostPtr} (n : Nat) (hreq : req.LiveIn g) :
    Stays env l₀ g (spinlockLockTimeout req n) fun _ => True := by
  induction n with
  | zero => exact .ret
  | succ n ih =>
    exact (spinlockCmpxchg_stays _ _ hreq).seq fun r => .ite (fun _ => .ret) fun _ => ih

theorem futexWaitLoop_stays {req ms : HostPtr} (n : Nat) (c : Int) (hreq : req.LiveIn g)
    (hms : ms.LiveIn g) : Stays env l₀ g (futexWaitLoop req ms n c) fun _ => True := by
  induction n generalizing c with
  | zero => exact fun _ hm => hm.fresh
  | succ n ih =>
    unfold futexWaitLoop
    refine (Stays.ite (fun _ => .ret) fun _ =>
      (spinlockCmpxchg_stays _ _ hreq).map_true).seq fun wait => ?_
    refine (Stays.ite (fun _ => (storeField_stays _ hms (by simp)).seq fun _ =>
      (sgxOcall_stays _ hms).seq fun _ => .ret) fun _ => .ret).seq
      fun stop => .unless fun _ => ?_
    exact (spinlockCmpxchg_stays _ _ hreq).seq fun r => .unless fun _ => ih _

theorem exitlessWait_stays {req : HostPtr} (hreq : req.LiveIn g) :
    Stays env l₀ g (exitlessWait req) fun _ => True := by
  unfold exitlessWait
  refine .read ((spinlockLockTimeout_stays _ hreq).seq fun timedout => ?_)
  refine .ite (fun _ => (spinlockCmpxchg_stays _ _ hreq).seq fun r =>
    .ite (fun _ => ?_) fun _ => .pure_bind (loadI32_stays _ hreq))
    fun _ => .pure_bind (loadI32_stays _ hreq)
  refine (sgxAllocOnUstackAligned_stays _ _).bind fun fms hfms => ?_
  refine (storeField_stays _ hfms (by simpa using hreq)).seq fun _ =>
    (storeField_stays _ hfms (by simp)).seq fun _ => (storeField_stays _ hfms (by simp)).seq
    fun _ => (futexWaitLoop_stays _ _ hreq hfms).seq fun o => ?_
  cases o
  · exact .pure_bind (loadI32_stays _ hreq)
  · exact .ret

/-- `sgx_exitless_ocall` uses its request descriptor and futex arguments only in the generation
it allocates them in, and resets nothing. -/
theorem sgxExitlessOcall_stays {ms : HostPtr} (code : OcallCode) (hms : ms.LiveIn g) :
    Stays env l₀ g (sgxExitlessOcall code ms) fun _ => True := by
  unfold sgxExitlessOcall
  refine .read (.ite (fun _ => (sgxOcall_stays code hms).seq fun _ => .ret) fun _ => ?_)
  refine .pure_bind ((sgxAllocOnUstackAligned_stays _ _).bind fun req hreq => ?_)
  refine (storeField_stays _ hreq (by simp)).seq fun _ =>
    (storeField_stays _ hreq (by simpa using hms)).seq fun _ =>
    (storeField_stays _ hreq (by simp)).seq fun _ => (storeField_stays _ hreq (by simp)).seq
    fun _ => (rpcEnqueue_stays hreq).bind fun req' hreq' => ?_
  exact .ite (fun _ => (sgxOcall_stays code hms).seq fun _ => .ret) fun _ =>
    .pure_bind (exitlessWait_stays hreq')

end Stays

/-! ## Runs that restore the untrusted stack -/

section Restores

variable {env : Env} {l₀ : List Entry} {g : Nat}

/-- Run in generation `g` from a log fresh since `l₀`, `c` keeps the log fresh since `l₀` and
returns with the untrusted stack at the thread's saved top. -/
def RestoresIn (env : Env) (l₀ : List Entry) (g : Nat) (c : OcallM α) : Prop :=
  Spec env (·.At l₀ g) c (fun _ m' => FreshSince l₀ m'.log ∧ m'.ustack = env.ustackTop)
    (FreshSince l₀ ·.log) (FreshSince l₀ ·.log)

/-- `c` restores the untrusted stack whatever generation it starts in. -/
def Restores (env : Env) (l₀ : List Entry) (c : OcallM α) : Prop := ∀ g, RestoresIn env l₀ g c

/-- The log is fresh since `l₀`, and the untrusted stack is at its top if `t` holds. -/
def TopIf (env : Env) (l₀ : List Entry) (t : Prop) (m : Machine) : Prop :=
  FreshSince l₀ m.log ∧ (t → m.ustack = env.ustackTop)

/-- From a log fresh since `l₀`, `c` keeps the log fresh since `l₀`, and returns with the
untrusted stack at its top if it started there. -/
def KeepsTop (env : Env) (l₀ : List Entry) (c : OcallM α) : Prop :=
  ∀ t, Spec env (TopIf env l₀ t) c (fun _ => TopIf env l₀ t) (FreshSince l₀ ·.log)
    (FreshSince l₀ ·.log)

theorem RestoresIn.bind {x : OcallM β} {f : β → OcallM α} {P : β → Prop}
    (hx : Stays env l₀ g x P) (hf : ∀ b, P b → RestoresIn env l₀ g (f b)) :
    RestoresIn env l₀ g (x >>= f) :=
  Spec.bind hx fun b => .assume (hf b)

theorem RestoresIn.seq {x : OcallM β} {f : β → OcallM α} (hx : Stays env l₀ g x fun _ => True)
    (hf : ∀ b, RestoresIn env l₀ g (f b)) : RestoresIn env l₀ g (x >>= f) :=
  .bind hx fun b _ => hf b

theorem RestoresIn.ite {b : Prop} [Decidable b] {x y : OcallM α}
    (hx : b → RestoresIn env l₀ g x) (hy : ¬b → RestoresIn env l₀ g y) :
    RestoresIn env l₀ g (if b then x else y) :=
  Spec.ite hx hy

theorem RestoresIn.pure_bind {a : β} {f : β → OcallM α} (h : RestoresIn env l₀ g (f a)) :
    RestoresIn env l₀ g (Pure.pure a >>= f) :=
  Spec.pure_bind h

theorem RestoresIn.read {f : Env → OcallM α} (h : RestoresIn env l₀ g (f env)) :
    RestoresIn env l₀ g (OcallM.read >>= f) :=
  Spec.read h

/-- A conditional whose two branches go on to the same join point `k`. -/
theorem RestoresIn.ite_bind {b : Prop} [Decidable b] {x y : OcallM β} {k : β → OcallM α}
    {P : β → Prop} (hx : b → Stays env l₀ g x P) (hy : ¬b → Stays env l₀ g y P)
    (hk : ∀ a, P a → RestoresIn env l₀ g (k a)) :
    RestoresIn env l₀ g (if b then x >>= k else y >>= k) :=
  .ite (fun h => .bind (hx h) hk) (fun h => .bind (hy h) hk)

theorem Restores.keepsTop {c : OcallM α} (h : Restores env l₀ c) : KeepsTop env l₀ c :=
  fun _ m hm => (h m.gen).run ⟨rfl, hm.1⟩ fun _ _ h' => ⟨h'.1, fun _ => h'.2⟩

/-- `sgx_reset_ustack()`: the stack is back at its top, whatever was allocated before. -/
theorem RestoresIn.reset {k : Unit → OcallM α} (hk : KeepsTop env l₀ (k ())) :
    RestoresIn env l₀ g (sgxResetUstack >>= k) := fun m hm => by
  rw [wp_bind, wp_sgxResetUstack]
  exact (hk True).run ⟨hm.fresh.cons (by simp [Entry.Fresh]), fun _ => rfl⟩
    fun _ _ h => ⟨h.1, h.2 trivial⟩

/-- A call that restores the untrusted stack, then code that keeps it at its top. -/
theorem RestoresIn.after {x : OcallM β} {f : β → OcallM α} (hx : Restores env l₀ x)
    (hf : ∀ b, KeepsTop env l₀ (f b)) : RestoresIn env l₀ g (x >>= f) :=
  Spec.bind (hx g) fun b => Spec.pre (fun _ h => ⟨h.1, fun _ => h.2⟩) ((hf b True).post
    fun _ _ h => ⟨h.1, h.2 trivial⟩)

theorem KeepsTop.pure {a : α} : KeepsTop env l₀ (Pure.pure a) := fun _ => Spec.pure fun _ => id

theorem KeepsTop.bind {x : OcallM β} {f : β → OcallM α} (hx : KeepsTop env l₀ x)
    (hf : ∀ b, KeepsTop env l₀ (f b)) : KeepsTop env l₀ (x >>= f) :=
  fun t => Spec.bind (hx t) fun b => hf b t

theorem KeepsTop.ite {b : Prop} [Decidable b] {x y : OcallM α} (hx : b → KeepsTop env l₀ x)
    (hy : ¬b → KeepsTop env l₀ y) : KeepsTop env l₀ (if b then x else y) :=
  fun t => Spec.ite (fun h => hx h t) fun h => hy h t

theorem KeepsTop.pure_bind {a : β} {f : β → OcallM α} (h : KeepsTop env l₀ (f a)) :
    KeepsTop env l₀ (Pure.pure a >>= f) :=
  fun t => Spec.pure_bind (h t)

theorem KeepsTop.read {f : Env → OcallM α} (h : KeepsTop env l₀ (f env)) :
    KeepsTop env l₀ (OcallM.read >>= f) :=
  fun t => Spec.read (h t)

/-! The helpers that leave the untrusted stack where it is. -/

theorem writeMem_keepsTop (dst n : Nat) (data : Nat → UInt8) :
    KeepsTop env l₀ (writeMem dst n data) := fun _ _ hm => by
  rw [wp_writeMem]
  split_ifs
  · exact hm.1
  · exact ⟨hm.1.cons (by simp [Entry.Fresh]), hm.2⟩

theorem readMem_keepsTop (src n : Nat) : KeepsTop env l₀ (readMem src n) := fun _ _ hm => by
  rw [wp_readMem]
  split_ifs
  · exact hm.1
  · exact hm

theorem malloc_keepsTop (size : Nat) : KeepsTop env l₀ (malloc size) :=
  fun _ _ hm => ⟨hm.1.cons (by simp [Entry.Fresh]), hm.2⟩

theorem free_keepsTop (p : Nat) : KeepsTop env l₀ (free p) :=
  fun _ _ hm => ⟨hm.1.cons (by simp [Entry.Fresh]), hm.2⟩

theorem sgxCopyToEnclave_keepsTop {uptr : HostPtr} (ptr maxsize usize : Nat)
    (huptr : uptr.gen = none) : KeepsTop env l₀ (sgxCopyToEnclave ptr maxsize uptr usize) := by
  unfold sgxCopyToEnclave
  refine .read (.ite (fun _ => .bind (fun _ _ hm => ⟨hm.1.cons ?_, hm.2⟩) fun data =>
    .bind (writeMem_keepsTop ptr usize data) fun _ => .pure) fun _ => .pure)
  simp [Entry.Fresh, HostPtr.LiveIn, huptr]

/-- `sgx_reset_ustack(); return v;` -/
theorem RestoresIn.resetReturn {v : α} :
    RestoresIn env l₀ g (sgxResetUstack >>= fun _ => Pure.pure v) :=
  .reset .pure

/-- `if (b) { sgx_reset_ustack(); return v; }` -/
theorem RestoresIn.unless {b : Prop} [Decidable b] {v : α} {k : PUnit → OcallM α}
    (hk : ¬b → RestoresIn env l₀ g (k ())) :
    RestoresIn env l₀ g
      (if b then sgxResetUstack >>= (fun _ => Pure.pure v) else Pure.pure () >>= k) :=
  .ite (fun _ => .resetReturn) fun h => .pure_bind (hk h)

/-! ### The untrusted heap -/

theorem ocallMmapUntrusted_restores (fd : Int) (offset size prot mem : Nat) :
    Restores env l₀ (ocallMmapUntrusted fd offset size prot mem) := fun _ => by
  unfold ocallMmapUntrusted
  refine .read (.bind (sgxAllocOnUstackAligned_stays _ _) fun ms hms => .unless fun _ => ?_)
  refine .seq (storeField_stays _ hms (by simp)) fun _ =>
    .seq (storeField_stays _ hms (by simp)) fun _ => .seq (storeField_stays _ hms (by simp))
    fun _ => .seq (storeField_stays _ hms (by simp)) fun _ =>
    .seq (sgxExitlessOcall_stays _ hms) fun retval => ?_
  exact .ite (fun _ => .seq (loadU64_stays _ hms) fun _ => .seq (sgxCopyPtrToEnclave_stays _ _ _)
    fun _ => .unless fun _ => .resetReturn) fun _ => .pure_bind .resetReturn

theorem ocallMunmapUntrusted_restores (mem size : Nat) :
    Restores env l₀ (ocallMunmapUntrusted mem size) := fun _ => by
  unfold ocallMunmapUntrusted
  refine .read (.unless fun _ => .bind (sgxAllocOnUstackAligned_stays _ _) fun ms hms =>
    .unless fun _ => ?_)
  exact .seq (storeField_stays _ hms (by simp)) fun _ => .seq (storeField_stays _ hms (by simp))
    fun _ => .seq (sgxExitlessOcall_stays _ hms) fun _ => .resetReturn

/-! ### The shapes of `EnclaveOcalls.Files` -/

theorem scalarOcall_restores (code : OcallCode) (fields : List (Field × Int)) :
    Restores env l₀ (scalarOcall code fields) := fun _ => by
  unfold scalarOcall
  exact .bind (allocMs_stays code) fun ms hms => .unless fun _ =>
    .seq (storeFields_stays fields hms) fun _ => .seq (sgxExitlessOcall_stays code hms)
    fun _ => .resetReturn

theorem outputOcall_restores (code : OcallCode) (fields : List (Field × Int))
    (copyOut : HostPtr → OcallM Unit)
    (hc : ∀ g ms, ms.LiveIn g → Stays env l₀ g (copyOut ms) fun _ => True) :
    Restores env l₀ (outputOcall code fields copyOut) := fun _ => by
  unfold outputOcall
  exact .bind (allocMs_stays code) fun ms hms => .unless fun _ =>
    .seq (storeFields_stays fields hms) fun _ => .seq (sgxExitlessOcall_stays code hms)
    fun _ => .ite_bind (fun _ => hc _ _ hms) (fun _ => .ret) fun _ _ => .resetReturn

theorem pathOcall_restores (code : OcallCode) (fields : List (Field × Int)) (pathname : Nat) :
    Restores env l₀ (pathOcall code fields pathname) := fun _ => by
  unfold pathOcall
  exact .seq (cPathLen_stays _) fun _ => .bind (allocMs_stays code) fun ms hms => .unless fun _ =>
    .seq (storeFields_stays fields hms) fun _ => .bind (sgxCopyToUstack_stays _ _) fun _ hp =>
    .seq (storeField_stays _ hms (by simpa using hp)) fun _ => .unless fun _ =>
    .seq (sgxExitlessOcall_stays code hms) fun _ => .resetReturn

/-! ### The file OCALLs -/

theorem ocallCpuid_restores (leaf subleaf values : Nat) :
    Restores env l₀ (ocallCpuid leaf subleaf values) :=
  outputOcall_restores _ _ _ fun _ _ hms => copyWordsOut_stays _ _ _ hms

theorem ocallOpen_restores (pathname : Nat) (flags : Int) (mode : Nat) :
    Restores env l₀ (ocallOpen pathname flags mode) :=
  pathOcall_restores _ _ _

theorem ocallClose_restores (fd : Int) : Restores env l₀ (ocallClose fd) :=
  scalarOcall_restores _ _

theorem readBody_stays (fd : Int) (buf count obuf : Nat) :
    Stays env l₀ g (readBody fd buf count obuf) fun _ => True := by
  unfold readBody
  refine (allocMs_stays _).bind fun ms hms => .unless fun _ => ?_
  refine .seq (storeField_stays _ hms (by simp)) fun _ => .seq (storeField_stays _ hms (by simp))
    fun _ => .ite_bind (fun _ => .pure (by simp)) (fun _ => sgxAllocOnUstack_stays _)
    fun msBuf hb => .seq (storeField_stays _ hms (by simpa using hb)) fun _ => .unless fun _ => ?_
  exact .seq (sgxExitlessOcall_stays _ hms) fun _ => .ite (fun _ => .seq (loadU64_stays _ hms)
    fun _ => .seq (sgxCopyToEnclave_stays _ _ _ (by simp)) fun _ => .unless fun _ => .ret)
    fun _ => .pure_bind .ret

/-- `ocall_read` maps its heap buffer before its first untrusted-stack allocation, and unmaps it
after its last use of one: the reset before `ocall_munmap_untrusted` is the last. -/
theorem ocallRead_restores (fd : Int) (buf count : Nat) :
    Restores env l₀ (ocallRead fd buf count) := fun g => by
  unfold ocallRead
  refine .read (.seq (writeMem_stays _ _ _) fun _ => ?_)
  lift_lets
  intro rest
  have hrest : Restores env l₀ (rest ()) := fun _ =>
    .seq (readMem_stays _ _) fun _ => .seq (readBody_stays _ _ _ _) fun _ => .reset <|
      .ite (fun _ => .bind (ocallMunmapUntrusted_restores _ _).keepsTop fun _ => .pure_bind .pure)
        fun _ => .pure_bind .pure
  exact .ite (fun _ => .after (ocallMmapUntrusted_restores _ _ _ _ _) fun _ =>
    .ite (fun _ => .pure) fun _ => .pure_bind hrest.keepsTop) fun _ => .pure_bind (hrest g)

theorem writeBody_stays (fd : Int) (buf count obuf : Nat) :
    Stays env l₀ g (writeBody fd buf count obuf) fun _ => True := by
  unfold writeBody
  refine (allocMs_stays _).bind fun ms hms => .unless fun _ => ?_
  exact .seq (storeField_stays _ hms (by simp)) fun _ => .seq (storeField_stays _ hms (by simp))
    fun _ => .ite_bind (fun _ => .pure (by simp)) (fun _ => sgxCopyToUstack_stays _ _)
    fun msBuf hb => .seq (storeField_stays _ hms (by simpa using hb)) fun _ => .unless fun _ =>
    sgxExitlessOcall_stays _ hms

/-- `ocall_write` returns `-EPERM` for a straddling buffer before it touches the untrusted stack,
so it restores the stack only from its top. -/
theorem ocallWrite_keepsTop (fd : Int) (buf count : Nat) :
    KeepsTop env l₀ (ocallWrite fd buf count) := by
  unfold ocallWrite
  refine .read (.bind (writeMem_keepsTop _ _ _) fun _ => ?_)
  lift_lets
  intro rest copyIn
  have hrest : Restores env l₀ (rest ()) := fun _ =>
    .seq (readMem_stays _ _) fun _ => .seq (writeBody_stays _ _ _ _) fun _ => .reset <|
      .ite (fun _ => .bind (ocallMunmapUntrusted_restores _ _).keepsTop fun _ => .pure_bind .pure)
        fun _ => .pure_bind .pure
  have hcopy : Restores env l₀ (copyIn ()) := fun g =>
    .seq (readMem_stays _ _) fun _ => .seq (copyToHost_stays _ _ (by simp)) fun _ => hrest g
  exact .ite (fun _ => .bind (writeMem_keepsTop _ _ _) fun _ => hrest.keepsTop) fun _ =>
    .ite (fun _ => .ite (fun _ => .bind (ocallMmapUntrusted_restores _ _ _ _ _).keepsTop fun _ =>
      .ite (fun _ => .pure) fun _ => .pure_bind hcopy.keepsTop)
    fun _ => .pure_bind hrest.keepsTop) fun _ => .pure

theorem ocallFstat_restores (fd : Int) (buf : Nat) : Restores env l₀ (ocallFstat fd buf) :=
  outputOcall_restores _ _ _ fun _ _ hms =>
    .read (.seq (loadFieldBytes_stays _ hms) fun _ => writeMem_stays _ _ _)

theorem ocallFionread_restores (fd : Int) : Restores env l₀ (ocallFionread fd) :=
  scalarOcall_restores _ _

theorem ocallFsetnonblock_restores (fd nonblocking : Int) :
    Restores env l₀ (ocallFsetnonblock fd nonblocking) :=
  scalarOcall_restores _ _

theorem ocallFchmod_restores (fd : Int) (mode : Nat) : Restores env l₀ (ocallFchmod fd mode) :=
  scalarOcall_restores _ _

theorem ocallFsync_restores (fd : Int) : Restores env l₀ (ocallFsync fd) :=
  scalarOcall_restores _ _

theorem ocallFtruncate_restores (fd : Int) (length : Nat) :
    Restores env l₀ (ocallFtruncate fd length) :=
  scalarOcall_restores _ _

theorem ocallLseek_restores (fd : Int) (offset : Nat) (whence : Int) :
    Restores env l₀ (ocallLseek fd offset whence) :=
  scalarOcall_restores _ _

theorem ocallMkdir_restores (pathname mode : Nat) : Restores env l₀ (ocallMkdir pathname mode) :=
  pathOcall_restores _ _ _

theorem ocallGetdents_restores (fd : Int) (dirp size : Nat) :
    Restores env l₀ (ocallGetdents fd dirp size) := fun _ => by
  unfold ocallGetdents
  refine .bind (allocMs_stays _) fun ms hms => .unless fun _ =>
    .seq (storeField_stays _ hms (by simp)) fun _ =>
    .seq (storeField_stays _ hms (by simp)) fun _ => .bind (sgxAllocOnUstack_stays _)
    fun _ hd => .seq (storeField_stays _ hms (by simpa using hd)) fun _ => .unless fun _ => ?_
  exact .seq (sgxExitlessOcall_stays _ hms) fun _ => .ite (fun _ => .seq (loadU64_stays _ hms)
    fun _ => .seq (sgxCopyToEnclave_stays _ _ _ (by simp)) fun _ => .unless fun _ => .resetReturn)
    fun _ => .pure_bind .resetReturn

theorem ocallRename_restores (oldpath newpath : Nat) :
    Restores env l₀ (ocallRename oldpath newpath) := fun _ => by
  unfold ocallRename
  exact .seq (cPathLen_stays _) fun _ => .seq (cPathLen_stays _) fun _ => .bind (allocMs_stays _)
    fun ms hms => .unless fun _ => .bind (sgxCopyToUstack_stays _ _) fun _ ho =>
    .seq (storeField_stays _ hms (by simpa using ho)) fun _ => .bind (sgxCopyToUstack_stays _ _)
    fun _ hn => .seq (storeField_stays _ hms (by simpa using hn)) fun _ => .unless fun _ =>
    .seq (sgxExitlessOcall_stays _ hms) fun _ => .resetReturn

theorem ocallDelete_restores (pathname : Nat) : Restores env l₀ (ocallDelete pathname) :=
  pathOcall_restores _ _ _

/-! ### The socket OCALLs -/

theorem copySockoptOut_stays {ms : HostPtr} (sockopt : Nat) (hms : ms.LiveIn g) :
    Stays env l₀ g (copySockoptOut ms sockopt) fun _ => True := by
  unfold copySockoptOut
  exact .read (.ite (fun _ => .seq (loadFieldBytes_stays _ hms) fun _ => writeMem_stays _ _ _)
    fun _ => .ret)

theorem addrOcall_restores (code : OcallCode) (fields : List (Field × Int))
    (addr addrlen sockopt : Nat) : Restores env l₀ (addrOcall code fields addr addrlen sockopt) :=
    fun g => by
  unfold addrOcall
  refine .ite_bind (fun _ => readMem_stays _ _) (fun _ => .ret) fun len _ => ?_
  refine .bind (allocMs_stays code) fun ms hms => .unless fun _ => .seq (storeFields_stays _ hms)
    fun _ => .seq (storeField_stays _ hms (by simp)) fun _ =>
    .ite_bind (fun _ => sgxCopyToUstack_stays _ _) (fun _ => .pure (by simp)) fun a ha =>
    .seq (storeField_stays _ hms (by simpa using ha)) fun _ => .unless fun _ =>
    .seq (sgxExitlessOcall_stays code hms) fun retval => ?_
  lift_lets
  intro done sockoptOut
  have hsockopt : RestoresIn env l₀ g (sockoptOut ()) :=
    .seq (copySockoptOut_stays _ hms) fun _ => .resetReturn
  exact .ite (fun _ => .ite (fun _ => .seq (loadU64_stays _ hms) fun _ => .seq (loadU32_stays _ hms)
    fun _ => .seq (sgxCopyToEnclave_stays _ _ _ (by simp)) fun _ => .unless fun _ =>
    .seq (writeMem_stays _ _ _) fun _ => hsockopt) fun _ => .pure_bind hsockopt)
    fun _ => .pure_bind .resetReturn

theorem ocallSocketpair_restores (domain type protocol : Int) (sockfds : Nat) :
    Restores env l₀ (ocallSocketpair domain type protocol sockfds) :=
  outputOcall_restores _ _ _ fun _ _ hms => copyWordsOut_stays _ _ _ hms

theorem ocallListen_restores (domain type protocol : Int) (addr addrlen sockopt : Nat) :
    Restores env l₀ (ocallListen domain type protocol addr addrlen sockopt) :=
  addrOcall_restores _ _ _ _ _

theorem ocallAccept_restores (sockfd : Int) (addr addrlen sockopt : Nat) :
    Restores env l₀ (ocallAccept sockfd addr addrlen sockopt) :=
  addrOcall_restores _ _ _ _ _

theorem ocallConnect_restores (domain type protocol : Int)
    (addr addrlen bindAddr bindAddrlen sockopt : Nat) :
    Restores env l₀ (ocallConnect domain type protocol addr addrlen bindAddr bindAddrlen sockopt) :=
    fun g => by
  unfold ocallConnect
  refine .ite_bind (fun _ => readMem_stays _ _) (fun _ => .ret) fun bindLen _ => ?_
  refine .bind (allocMs_stays _) fun ms hms => .unless fun _ => .seq (storeFields_stays _ hms)
    fun _ => .ite_bind (fun _ => sgxCopyToUstack_stays _ _) (fun _ => .pure (by simp)) fun a ha =>
    .seq (storeField_stays _ hms (by simpa using ha)) fun _ =>
    .ite_bind (fun _ => sgxCopyToUstack_stays _ _) (fun _ => .pure (by simp)) fun b hb =>
    .seq (storeField_stays _ hms (by simpa using hb)) fun _ => .unless fun _ =>
    .seq (sgxExitlessOcall_stays _ hms) fun retval => ?_
  lift_lets
  intro done sockoptOut
  have hsockopt : RestoresIn env l₀ g (sockoptOut ()) :=
    .seq (copySockoptOut_stays _ hms) fun _ => .resetReturn
  exact .ite (fun _ => .ite (fun _ => .seq (loadU64_stays _ hms) fun _ => .seq (loadU32_stays _ hms)
    fun _ => .seq (sgxCopyToEnclave_stays _ _ _ (by simp)) fun _ => .unless fun _ =>
    .seq (writeMem_stays _ _ _) fun _ => hsockopt) fun _ => .pure_bind hsockopt)
    fun _ => .pure_bind .resetReturn

theorem recvBody_stays (sockfd : Int)
    (buf count addr addrlenptr control controllenptr addrlen controllen obuf : Nat) :
    Stays env l₀ g
      (recvBody sockfd buf count addr addrlenptr control controllenptr addrlen controllen obuf)
      fun _ => True := by
  unfold recvBody
  refine (allocMs_stays _).bind fun ms hms => .unless fun _ => .seq (storeFields_stays _ hms)
    fun _ => .ite_bind (fun _ => sgxAllocOnUstack_stays _) (fun _ => .pure (by simp)) fun a ha =>
    .seq (storeField_stays _ hms (by simpa using ha)) fun _ =>
    .seq (storeField_stays _ hms (by simp)) fun _ =>
    .ite_bind (fun _ => sgxAllocOnUstack_stays _) (fun _ => .pure (by simp)) fun c hc =>
    .seq (storeField_stays _ hms (by simpa using hc)) fun _ =>
    .ite_bind (fun _ => .pure (by simp)) (fun _ => sgxAllocOnUstack_stays _) fun b hb =>
    .seq (storeField_stays _ hms (by simpa using hb)) fun _ => .unless fun _ =>
    .seq (sgxExitlessOcall_stays _ hms) fun retval => ?_
  lift_lets
  intro done bufIn controlOut
  have hbuf : Stays env l₀ g (bufIn ()) fun _ => True :=
    .ite (fun _ => .seq (loadU64_stays _ hms) fun _ => .seq (sgxCopyToEnclave_stays _ _ _ (by simp))
      fun _ => .unless fun _ => .ret) fun _ => .pure_bind .ret
  have hcontrol : Stays env l₀ g (controlOut ()) fun _ => True :=
    .ite (fun _ => .seq (loadU64_stays _ hms) fun _ => .seq (loadU64_stays _ hms) fun _ =>
      .seq (sgxCopyToEnclave_stays _ _ _ (by simp)) fun _ => .unless fun _ =>
      .seq (writeMem_stays _ _ _) fun _ => hbuf) fun _ => .pure_bind hbuf
  exact .ite (fun _ => .ite (fun _ => .seq (loadU64_stays _ hms) fun _ => .seq (loadU32_stays _ hms)
    fun _ => .seq (sgxCopyToEnclave_stays _ _ _ (by simp)) fun _ => .unless fun _ =>
    .seq (writeMem_stays _ _ _) fun _ => hcontrol) fun _ => .pure_bind hcontrol)
    fun _ => .pure_bind .ret

theorem ocallRecv_restores (sockfd : Int) (buf count addr addrlenptr control controllenptr : Nat) :
    Restores env l₀ (ocallRecv sockfd buf count addr addrlenptr control controllenptr) :=
    fun g => by
  unfold ocallRecv
  refine .read (.seq (writeMem_stays _ _ _) fun _ => ?_)
  refine .ite_bind (fun _ => readMem_stays _ _) (fun _ => .ret) fun addrlen _ => ?_
  refine .ite_bind (fun _ => readMem_stays _ _) (fun _ => .ret) fun controllen _ => ?_
  beta_reduce
  lift_lets
  intro rest
  have hrest : Restores env l₀ (rest ()) := fun _ =>
    .seq (readMem_stays _ _) fun _ => .seq (recvBody_stays _ _ _ _ _ _ _ _ _ _) fun _ => .reset <|
      .ite (fun _ => .bind (ocallMunmapUntrusted_restores _ _).keepsTop fun _ => .pure_bind .pure)
        fun _ => .pure_bind .pure
  exact .ite (fun _ => .after (ocallMmapUntrusted_restores _ _ _ _ _) fun _ =>
    .ite (fun _ => .pure) fun _ => .pure_bind hrest.keepsTop) fun _ => .pure_bind (hrest g)

theorem sendBody_stays (sockfd : Int) (buf count addr addrlen control controllen obuf : Nat) :
    Stays env l₀ g (sendBody sockfd buf count addr addrlen control controllen obuf)
      fun _ => True := by
  unfold sendBody
  exact (allocMs_stays _).bind fun ms hms => .unless fun _ => .seq (storeFields_stays _ hms)
    fun _ => .ite_bind (fun _ => sgxCopyToUstack_stays _ _) (fun _ => .pure (by simp)) fun a ha =>
    .seq (storeField_stays _ hms (by simpa using ha)) fun _ =>
    .seq (storeField_stays _ hms (by simp)) fun _ =>
    .ite_bind (fun _ => sgxCopyToUstack_stays _ _) (fun _ => .pure (by simp)) fun c hc =>
    .seq (storeField_stays _ hms (by simpa using hc)) fun _ =>
    .ite_bind (fun _ => .pure (by simp)) (fun _ => sgxCopyToUstack_stays _ _) fun b hb =>
    .seq (storeField_stays _ hms (by simpa using hb)) fun _ => .unless fun _ =>
    sgxExitlessOcall_stays _ hms

/-- Like `ocall_write`, `ocall_send` returns `-EPERM` for a straddling buffer before it touches
the untrusted stack. -/
theorem ocallSend_keepsTop (sockfd : Int) (buf count addr addrlen control controllen : Nat) :
    KeepsTop env l₀ (ocallSend sockfd buf count addr addrlen control controllen) := by
  unfold ocallSend
  refine .read (.bind (writeMem_keepsTop _ _ _) fun _ => ?_)
  lift_lets
  intro rest copyIn
  have hrest : Restores env l₀ (rest ()) := fun _ =>
    .seq (readMem_stays _ _) fun _ => .seq (sendBody_stays _ _ _ _ _ _ _ _) fun _ => .reset <|
      .ite (fun _ => .bind (ocallMunmapUntrusted_restores _ _).keepsTop fun _ => .pure_bind .pure)
        fun _ => .pure_bind .pure
  have hcopy : Restores env l₀ (copyIn ()) := fun g =>
    .seq (readMem_stays _ _) fun _ => .seq (copyToHost_stays _ _ (by simp)) fun _ => hrest g
  exact .ite (fun _ => .bind (writeMem_keepsTop _ _ _) fun _ => hrest.keepsTop) fun _ =>
    .ite (fun _ => .ite (fun _ => .bind (ocallMmapUntrusted_restores _ _ _ _ _).keepsTop fun _ =>
      .ite (fun _ => .pure) fun _ => .pure_bind hcopy.keepsTop)
    fun _ => .pure_bind hrest.keepsTop) fun _ => .pure

theorem ocallSetsockopt_restores (sockfd level optname : Int) (optval optlen : Nat) :
    Restores env l₀ (ocallSetsockopt sockfd level optname optval optlen) := fun g => by
  unfold ocallSetsockopt
  refine .bind (allocMs_stays _) fun ms hms => .unless fun _ => .seq (storeFields_stays _ hms)
    fun _ => .seq (storeField_stays _ hms (by simp)) fun _ => ?_
  lift_lets
  intro dispatch
  have hdispatch : RestoresIn env l₀ g (dispatch ()) :=
    .seq (sgxExitlessOcall_stays _ hms) fun _ => .resetReturn
  exact .ite (fun _ => .seq (storeField_stays _ hms (by simp)) fun _ =>
    .bind (sgxCopyToUstack_stays _ _) fun _ hv => .seq (storeField_stays _ hms (by simpa using hv))
    fun _ => .unless fun _ => hdispatch) fun _ => .pure_bind hdispatch

theorem ocallShutdown_restores (sockfd how : Int) : Restores env l₀ (ocallShutdown sockfd how) :=
  scalarOcall_restores _ _

/-! ### Processes, time, polling and the rest -/

theorem copyArgs_stays {ms : HostPtr} (args : Nat) (is : List Nat) (hms : ms.LiveIn g) :
    Stays env l₀ g (copyArgs ms args is) fun _ => True := by
  induction is with
  | nil => exact .ret
  | cons i is ih =>
    unfold copyArgs
    exact .seq (readMem_stays _ _) fun _ => .seq (cPathLen_stays _) fun _ =>
      .ite_bind (fun _ => sgxCopyToUstack_stays _ _) (fun _ => .pure (by simp)) fun _ hp =>
      .seq (storeField_stays _ hms (by simpa using hp)) fun _ => .unless fun _ => ih

theorem ocallCreateProcess_restores (uri : Nat) (nargs : Int) (args procfds pid : Nat) :
    Restores env l₀ (ocallCreateProcess uri nargs args procfds pid) := fun _ => by
  unfold ocallCreateProcess
  refine .read (.seq (cPathLen_stays _) fun _ => .bind (sgxAllocOnUstackAligned_stays _ _)
    fun ms hms => .unless fun _ => ?_)
  refine .ite_bind (fun _ => sgxCopyToUstack_stays _ _) (fun _ => .pure (by simp)) fun _ hu =>
    .seq (storeField_stays _ hms (by simpa using hu)) fun _ => .unless fun _ =>
    .seq (storeField_stays _ hms (by simp)) fun _ => .seq (copyArgs_stays _ _ hms) fun _ =>
    .unless fun _ => .seq (sgxExitlessOcall_stays _ hms) fun _ => ?_
  exact .ite (fun _ => .ite (fun _ => .seq (loadU32_stays _ hms) fun _ =>
    .seq (writeMem_stays _ _ _) fun _ => .seq (copyWordsOut_stays _ _ _ hms) fun _ => .resetReturn)
    fun _ => .pure_bind (.seq (copyWordsOut_stays _ _ _ hms) fun _ => .resetReturn))
    fun _ => .pure_bind .resetReturn

theorem ocallFutex_restores (futex : Nat) (op val timeoutUs : Int) :
    Restores env l₀ (ocallFutex futex op val timeoutUs) := fun _ => by
  unfold ocallFutex
  exact .read (.unless fun _ => .bind (allocMs_stays _) fun ms hms => .unless fun _ =>
    .seq (storeField_stays _ hms (by simp)) fun _ => .seq (storeFields_stays _ hms) fun _ =>
    .seq (sgxExitlessOcall_stays _ hms) fun _ => .resetReturn)

theorem gettimeLoop_stays {ms : HostPtr} (n : Nat) (hms : ms.LiveIn g) :
    Stays env l₀ g (gettimeLoop ms n) fun _ => True := by
  induction n with
  | zero => exact fun _ hm => hm.fresh
  | succ n ih => exact .seq (sgxExitlessOcall_stays _ hms) fun _ => .ite (fun _ => ih) fun _ => .ret

theorem ocallGettime_restores (microsec : Nat) : Restores env l₀ (ocallGettime microsec) :=
    fun _ => by
  unfold ocallGettime
  exact .read (.bind (allocMs_stays _) fun ms hms => .unless fun _ =>
    .seq (gettimeLoop_stays _ hms) fun _ => .ite (fun _ => .seq (loadU64_stays _ hms) fun _ =>
      .seq (writeMem_stays _ _ _) fun _ => .resetReturn) fun _ => .pure_bind .resetReturn)

theorem ocallSleep_restores (microsec : Nat) : Restores env l₀ (ocallSleep microsec) := fun _ => by
  unfold ocallSleep
  refine .bind (allocMs_stays _) fun ms hms => .unless fun _ =>
    .ite_bind (fun _ => readMem_stays _ _) (fun _ => .ret) fun _ _ =>
    .seq (storeField_stays _ hms (by simp)) fun _ => .seq (sgxOcall_stays _ hms) fun _ => ?_
  exact .ite (fun _ => .ite (fun _ => .seq (writeMem_stays _ _ _) fun _ => .resetReturn)
    fun _ => .ite (fun _ => .seq (loadU64_stays _ hms) fun _ => .seq (writeMem_stays _ _ _)
      fun _ => .resetReturn) fun _ => .pure_bind .resetReturn) fun _ => .pure_bind .resetReturn

theorem ocallPoll_restores (fds : Nat) (nfds timeoutUs : Int) :
    Restores env l₀ (ocallPoll fds nfds timeoutUs) := fun _ => by
  unfold ocallPoll
  exact .bind (allocMs_stays _) fun ms hms => .unless fun _ => .seq (storeFields_stays _ hms)
    fun _ => .bind (sgxCopyToUstack_stays _ _) fun _ hf =>
    .seq (storeField_stays _ hms (by simpa using hf)) fun _ => .unless fun _ =>
    .seq (sgxExitlessOcall_stays _ hms) fun _ => .ite (fun _ => .seq (loadU64_stays _ hms) fun _ =>
      .seq (sgxCopyToEnclave_stays _ _ _ (by simp)) fun _ => .unless fun _ => .resetReturn)
      fun _ => .pure_bind .resetReturn

theorem ocallLoadDebug_restores (command : Nat) : Restores env l₀ (ocallLoadDebug command) :=
    fun _ => by
  unfold ocallLoadDebug
  exact .seq (cStrlen_stays _) fun _ => .bind (sgxCopyToUstack_stays _ _) fun _ hms =>
    .unless fun _ => .seq (sgxExitlessOcall_stays _ hms) fun _ => .resetReturn

theorem ocallEventfd_restores (initval : Nat) (flags : Int) :
    Restores env l₀ (ocallEventfd initval flags) :=
  scalarOcall_restores _ _

/-! ### `ocall_get_attestation` -/

/-- A blob block reads the host's struct in enclave memory and unmaps the host blob, which
resets the untrusted stack once more; it uses no untrusted-stack allocation. -/
theorem copyBlobIn_keepsTop (attestation : Nat) (f fLen : AttField) (nul : Bool) :
    KeepsTop env l₀ (copyBlobIn attestation f fLen nul) := by
  unfold copyBlobIn
  refine .read (.bind (readMem_keepsTop _ _) fun _ => .ite (fun _ => .pure) fun _ => .pure_bind ?_)
  refine .bind (readMem_keepsTop _ _) fun _ => .bind (malloc_keepsTop _) fun _ =>
    .bind (readMem_keepsTop _ _) fun _ => .bind (sgxCopyToEnclave_keepsTop _ _ _ rfl) fun _ =>
    .bind (readMem_keepsTop _ _) fun _ => .bind (ocallMunmapUntrusted_restores _ _).keepsTop
    fun _ => ?_
  exact .ite (fun _ => .bind (writeMem_keepsTop _ _ _) fun _ => .bind (writeMem_keepsTop _ _ _)
    fun _ => .pure) fun _ => .pure_bind (.bind (writeMem_keepsTop _ _ _) fun _ => .pure)

theorem freeBlob_keepsTop (attestation : Nat) (f : AttField) :
    KeepsTop env l₀ (freeBlob attestation f) := by
  unfold freeBlob
  exact .read (.bind (readMem_keepsTop _ _) fun _ => .ite (fun _ => free_keepsTop _) fun _ => .pure)

/-- `ocall_get_attestation` resets the untrusted stack before it unmaps the host's blobs. -/
theorem ocallGetAttestation_restores (spid subkey : Nat) (linkable : Bool)
    (report nonce attestation : Nat) :
    Restores env l₀ (ocallGetAttestation spid subkey linkable report nonce attestation) :=
    fun _ => by
  unfold ocallGetAttestation
  refine .read (.bind (allocMs_stays _) fun ms hms => .unless fun _ =>
    .seq (copyToField_stays _ _ _ hms) fun _ => .seq (cStrlen_stays _) fun _ =>
    .bind (sgxCopyToUstack_stays _ _) fun _ hsk =>
    .seq (storeField_stays _ hms (by simpa using hsk)) fun _ =>
    .seq (copyToField_stays _ _ _ hms) fun _ => .seq (copyToField_stays _ _ _ hms) fun _ =>
    .seq (storeField_stays _ hms (by simp)) fun _ => .seq (sgxExitlessOcall_stays _ hms) fun _ =>
    .unless fun _ => .seq (sgxCopyToEnclave_stays _ _ _ (by simpa using hms)) fun _ =>
    .unless fun _ => .reset ?_)
  refine .bind (copyBlobIn_keepsTop _ _ _ _) fun _ => .bind (copyBlobIn_keepsTop _ _ _ _) fun _ =>
    .bind (copyBlobIn_keepsTop _ _ _ _) fun _ => .bind (copyBlobIn_keepsTop _ _ _ _) fun _ => ?_
  exact .ite (fun _ => .bind (freeBlob_keepsTop _ _) fun _ => .bind (freeBlob_keepsTop _ _) fun _ =>
    .bind (freeBlob_keepsTop _ _) fun _ => .bind (freeBlob_keepsTop _ _) fun _ => .pure)
    fun _ => .pure_bind .pure

/-! ### The wrappers that do not restore the untrusted stack -/

theorem ocallResumeThread_stays (tcs : Nat) :
    Stays env l₀ g (ocallResumeThread tcs) fun _ => True :=
  sgxExitlessOcall_stays _ (by simp)

theorem ocallCloneThread_stays : Stays env l₀ g ocallCloneThread fun _ => True :=
  sgxExitlessOcall_stays _ (by simp)

theorem exitLoop_stays {ms : HostPtr} (n : Nat) (hms : ms.LiveIn g) :
    Stays env l₀ g (exitLoop ms n) fun _ => True := by
  induction n with
  | zero => exact fun _ hm => hm.fresh
  | succ n ih => exact .seq (sgxOcall_stays _ hms) fun _ => ih

theorem ocallExit_stays (exitcode isExitgroup : Int) :
    Stays env l₀ g (ocallExit exitcode isExitgroup) fun _ => True := by
  unfold ocallExit
  exact .read (.bind (sgxAllocOnUstackAligned_stays _ _) fun _ hms =>
    .seq (storeField_stays _ hms (by simp)) fun _ => .seq (storeField_stays _ hms (by simp))
    fun _ => exitLoop_stays _ hms)

end Restores

/-! ## Every wrapper -/

/-- The wrappers that return with their request descriptor still allocated on the untrusted
stack: `ocall_resume_thread` and `ocall_clone_thread` call `sgx_exitless_ocall` and never
`sgx_reset_ustack`. -/
def Call.keepsRequest : Call → Bool
  | .resumeThread _ | .cloneThread => true
  | _ => false

section Calls

variable {env : Env} {l₀ : List Entry}

/-- Every wrapper but the two that keep their request restores the untrusted stack when it
starts at its top. `ocall_exit` never returns. -/
theorem Call.run_keepsTop (c : Call) (hc : c.keepsRequest = false) : KeepsTop env l₀ c.run := by
  cases c with
  | exit exitcode isExitgroup =>
    exact fun _ => Spec.map fun m hm =>
      (ocallExit_stays exitcode isExitgroup).run ⟨rfl, hm.1⟩ fun e _ _ _ => e.elim
  | mmapUntrusted => exact (ocallMmapUntrusted_restores _ _ _ _ _).keepsTop
  | munmapUntrusted => exact (ocallMunmapUntrusted_restores _ _).keepsTop
  | cpuid => exact (ocallCpuid_restores _ _ _).keepsTop
  | «open» => exact (ocallOpen_restores _ _ _).keepsTop
  | close => exact (ocallClose_restores _).keepsTop
  | read => exact (ocallRead_restores _ _ _).keepsTop
  | write => exact ocallWrite_keepsTop _ _ _
  | fstat => exact (ocallFstat_restores _ _).keepsTop
  | fionread => exact (ocallFionread_restores _).keepsTop
  | fsetnonblock => exact (ocallFsetnonblock_restores _ _).keepsTop
  | fchmod => exact (ocallFchmod_restores _ _).keepsTop
  | fsync => exact (ocallFsync_restores _).keepsTop
  | ftruncate => exact (ocallFtruncate_restores _ _).keepsTop
  | lseek => exact (ocallLseek_restores _ _ _).keepsTop
  | mkdir => exact (ocallMkdir_restores _ _).keepsTop
  | getdents => exact (ocallGetdents_restores _ _ _).keepsTop
  | resumeThread | cloneThread => simp [Call.keepsRequest] at hc
  | createProcess => exact (ocallCreateProcess_restores _ _ _ _ _).keepsTop
  | futex => exact (ocallFutex_restores _ _ _ _).keepsTop
  | socketpair => exact (ocallSocketpair_restores _ _ _ _).keepsTop
  | listen => exact (ocallListen_restores _ _ _ _ _ _).keepsTop
  | accept => exact (ocallAccept_restores _ _ _ _).keepsTop
  | connect => exact (ocallConnect_restores _ _ _ _ _ _ _ _).keepsTop
  | recv => exact (ocallRecv_restores _ _ _ _ _ _ _).keepsTop
  | send => exact ocallSend_keepsTop _ _ _ _ _ _ _
  | setsockopt => exact (ocallSetsockopt_restores _ _ _ _ _).keepsTop
  | shutdown => exact (ocallShutdown_restores _ _).keepsTop
  | gettime => exact (ocallGettime_restores _).keepsTop
  | sleep => exact (ocallSleep_restores _).keepsTop
  | poll => exact (ocallPoll_restores _ _ _).keepsTop
  | rename => exact (ocallRename_restores _ _).keepsTop
  | delete => exact (ocallDelete_restores _).keepsTop
  | loadDebug => exact (ocallLoadDebug_restores _).keepsTop
  | getAttestation => exact (ocallGetAttestation_restores _ _ _ _ _ _).keepsTop
  | eventfd => exact (ocallEventfd_restores _ _).keepsTop

/-- Every wrapper keeps the log fresh. -/
theorem Call.run_fresh (c : Call) (m : Machine) (hf : FreshSince l₀ m.log) :
    wp c.run env m (fun _ m' => FreshSince l₀ m'.log) (FreshSince l₀ ·.log)
      (FreshSince l₀ ·.log) := by
  cases hc : c.keepsRequest
  · exact (c.run_keepsTop hc False).run ⟨hf, False.elim⟩ fun _ _ h => h.1
  · cases c <;> simp only [Call.keepsRequest, Bool.false_eq_true] at hc
    · exact (ocallResumeThread_stays _).run ⟨rfl, hf⟩ fun _ _ hm _ => hm.fresh
    · exact ocallCloneThread_stays.run ⟨rfl, hf⟩ fun _ _ hm _ => hm.fresh

end Calls

/-- No wrapper uses an untrusted-stack allocation after a reset: on every path, whatever the
host answers, every event a wrapper adds to the log reads, writes or hands to the host only
pointers that are not on the untrusted stack or were allocated after the last reset before the
event, `sgx_reset_ustack` or the reset inside a nested `ocall_mmap_untrusted` or
`ocall_munmap_untrusted`. -/
theorem ocall_uses_live_allocations (c : Call) (env : Env) (m : Machine) :
    wp c.run env m (fun _ m' => FreshSince m.log m'.log) (FreshSince m.log ·.log)
      (FreshSince m.log ·.log) :=
  c.run_fresh m (.refl _)

/-- Every wrapper but `ocall_resume_thread` and `ocall_clone_thread`, entered with the untrusted
stack at the thread's saved top, returns with it there. -/
theorem ocall_resets_ustack (c : Call) (hc : c.keepsRequest = false) (env : Env) (m : Machine)
    (hu : m.ustack = env.ustackTop) :
    wp c.run env m (fun _ m' => m'.ustack = env.ustackTop) (fun _ => True) (fun _ => True) :=
  wp_mono ((c.run_keepsTop hc : KeepsTop env m.log c.run) True m ⟨.refl _, fun _ => hu⟩)
    (fun _ _ h => h.2 trivial) (fun _ _ => trivial) (fun _ _ => trivial)

/-- `ocall_close` in the sample environment, with the RPC queue on, returns at the top of the
untrusted stack. -/
theorem close_returns_at_ustack_top :
    wp (Call.close 0).run (sampleEnv promptHost true true)
      (sampleMachine (sampleEnv promptHost true true) 0)
      (fun _ m' => m'.ustack = 2 ^ 21) (fun _ => True) (fun _ => True) :=
  ocall_resets_ustack (.close 0) rfl _ _ rfl

end EnclaveOcalls
