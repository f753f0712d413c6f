import EnclaveOcalls.Lengths

/-!
# What the host reads of a buffer, and what the enclave reads back

`ocall_write` and `ocall_send` hand the host `count` bytes of the caller's buffer `buf` along one
of three paths: a buffer outside the enclave is passed as it is; a small one is copied onto the
untrusted stack; a large one is copied into a host region from `ocall_mmap_untrusted`.
`ocall_read` and `ocall_recv` go the other way: once the OCALL returns `r > 0`, the wrapper copies
`r` bytes from wherever `ms->ms_buf` then points back into `buf`.

Main result: `ocall_buffers_marshal_exactly`. On every path and whatever the host does, every
dispatch of the OCALL hands the host, at a non-NULL `ms->ms_buf`, `buf[0, count)` as `buf` was
when the wrapper was called; and a positive result `r` leaves in `buf[0, r)` the bytes the host
answered for `ms->ms_buf` of the struct the call dispatched, and the rest of `buf` untouched. This
holds for callers whose `buf` overlaps neither the wrapper's local `obuf` nor, for `ocall_recv`,
its other output objects: the run after `ocall_recv` in `EnclaveOcalls.Sockets` rewrites a byte
of `buf` beyond `r` through `addrlenptr`.

The log shows a dispatch as the exit `sgx_ocall(code, ms)` or as the `rpc_enqueue` of a request
whose `ocall_index` and `buffer` the enclave set to `code` and `ms` (`dispatchOf`). The steps in
between (`sgx_exitless_ocall`, `ocall_mmap_untrusted`, `ocall_munmap_untrusted`) are covered by
`Calm`, the instance of `Spec` for a computation that writes enclave memory only in a given region,
copies no bytes into host memory, stores into no field `ms_buf` and dispatches only the OCALLs it
is allowed to; `Triple` is the instance that tracks a pre- and a postcondition.
-/

namespace EnclaveOcalls

open OcallM

/-! ## Calm computations -/

/-- An event that copies no bytes into host memory and stores into no field `ms_buf`: the host
finds the buffer of a pending OCALL as it was before. -/
def Event.Calm : Event → Prop
  | .storeBytes _ _ _ => False
  | .store _ f _ => (f == .msBuf) = false
  | _ => True

/-- The argument struct that the event `e`, on top of the log `l`, hands the host for an OCALL
`code`: that of an exit for `code`, or the `buffer` of a request for `code` that `rpc_enqueue`
queues. -/
def dispatchOf (code : OcallCode) : Event → List Entry → Option HostPtr
  | .ocall c ms, _ => if c = code then some ms else none
  | .enqueue req, l =>
    match storedVal req .ocallIndex l, storedVal req .buffer l with
    | some (.code c), some (.ptr ms) => if c = code then some ms else none
    | _, _ => none
  | _, _ => none

@[simp] theorem dispatchOf_ocall {code c : OcallCode} {ms p : HostPtr} {l : List Entry} :
    dispatchOf code (.ocall c ms) l = some p ↔ c = code ∧ ms = p := by
  simp [dispatchOf]

/-- The request `sgx_exitless_ocall` fills before `rpc_enqueue` (lines 70–73), its OCALL index,
argument struct and lock, is a dispatch of that struct for that OCALL. -/
theorem dispatchOf_request {m : Machine} {req ms : HostPtr} {code c : OcallCode} {v₁ v₂ : Val} :
    dispatchOf c (.enqueue req) ((((m.push (.store req .ocallIndex (.code code))).push
      (.store req .buffer (.ptr ms))).push (.store req .lock v₁)).push (.store req .lock v₂)).log =
      if code = c then some ms else none := by
  have h₁ : (Field.lock == Field.ocallIndex) = false := rfl
  have h₂ : (Field.buffer == Field.ocallIndex) = false := rfl
  have h₃ : (Field.lock == Field.buffer) = false := rfl
  have h₄ : (Field.ocallIndex == Field.ocallIndex) = true := rfl
  have h₅ : (Field.buffer == Field.buffer) = true := rfl
  simp [Machine.push, dispatchOf, storedVal, h₁, h₂, h₃, h₄, h₅]

/-- The machine after `sgx_exitless_ocall` fills the request `req` for `ms` and `code` and
enqueues it (lines 70–74). -/
def Machine.request (m : Machine) (req ms : HostPtr) (code : OcallCode) : Machine :=
  ((((m.push (.store req .ocallIndex (.code code))).push (.store req .buffer (.ptr ms))).push
    (.store req .lock (.int spinlockUnlocked))).push
    (.store req .lock (.int spinlockLockedNoWaiters))).push (.enqueue req)

/-- Filling the request `req` and enqueuing it: a fault through a NULL `req`, or the queue's
answer, NULL or `req`, from `m.request req ms code`. -/
theorem wp_request {env : Env} {m : Machine} {F D' : Machine → Prop} {Q : α → Machine → Prop}
    {code : OcallCode} {req ms : HostPtr} {k : HostPtr → OcallM α} :
    wp (storeField req .ocallIndex (.code code) >>= fun _ => storeField req .buffer (.ptr ms) >>=
      fun _ => spinlockInit req >>= fun _ => spinlockLock req >>= fun _ => rpcEnqueue req >>= k)
      env m Q F D' ↔
    if req.addr = 0 then F m
    else wp (k (if env.host.word (m.request req ms code).log = 0 then .null else req)) env
      (m.request req ms code) Q F D' := by
  by_cases h : req.addr = 0 <;>
    simp [h, spinlockInit, spinlockLock, Machine.request]

/-- The log grew from `l₀` to `l` by calm events only, whose OCALL dispatches `D` allows: an entry
that hands the host the argument struct `ms` of an OCALL `code` needs `D code ms`. -/
inductive CalmSince (D : OcallCode → HostPtr → Prop) (l₀ : List Entry) : List Entry → Prop
  | refl : CalmSince D l₀ l₀
  | cons {l : List Entry} (e : Entry) : CalmSince D l₀ l → e.ev.Calm →
      (∀ code ms, dispatchOf code e.ev l = some ms → D code ms) → CalmSince D l₀ (e :: l)

section CalmSince

variable {D : OcallCode → HostPtr → Prop} {l₀ l₁ l₂ : List Entry}

theorem CalmSince.trans (h₁ : CalmSince D l₀ l₁) (h₂ : CalmSince D l₁ l₂) : CalmSince D l₀ l₂ := by
  induction h₂ with
  | refl => exact h₁
  | cons e _ he hd ih => exact .cons e ih he hd

theorem CalmSince.suffix (h : CalmSince D l₀ l₁) : l₀ <:+ l₁ := by
  induction h with
  | refl => exact List.suffix_refl _
  | cons e _ _ _ ih => exact ih.trans (List.suffix_cons e _)

end CalmSince

/-- Enclave memory outside `W` is as in `m₀`, and the log grew from that of `m₀` by calm events
whose dispatches `D` allows. -/
def CalmFrom (W : Nat → Prop) (D : OcallCode → HostPtr → Prop) (m₀ m : Machine) : Prop :=
  (∀ a, ¬W a → m.mem a = m₀.mem a) ∧ CalmSince D m₀.log m.log

/-- A step that logs one calm event, whose dispatches `D` allows, and writes nothing. -/
theorem CalmFrom.push {W : Nat → Prop} {D : OcallCode → HostPtr → Prop} {m₀ m : Machine}
    {e : Event} (h : CalmFrom W D m₀ m) (he : e.Calm)
    (hd : ∀ code ms, dispatchOf code e m.log = some ms → D code ms) : CalmFrom W D m₀ (m.push e) :=
  ⟨h.1, h.2.cons _ he hd⟩

/-- A store into a field other than `ms_buf` dispatches nothing. -/
theorem CalmFrom.store {W : Nat → Prop} {D : OcallCode → HostPtr → Prop} {m₀ m : Machine}
    {ms : HostPtr} {f : Field} {v : Val} (h : CalmFrom W D m₀ m) (hf : (f == .msBuf) = false) :
    CalmFrom W D m₀ (m.push (.store ms f v)) :=
  h.push hf fun _ _ => Option.noConfusion

section Calm

variable {env : Env} {W : Nat → Prop} {D : OcallCode → HostPtr → Prop}

/-- `c` writes enclave memory only at addresses in `W`, logs only calm events, and dispatches
only the OCALLs that `D` allows: the instance of `Spec` that keeps `CalmFrom W D m₀` for every
`m₀`. -/
def Calm (env : Env) (W : Nat → Prop) (D : OcallCode → HostPtr → Prop) (c : OcallM α) : Prop :=
  ∀ m₀, Spec env (CalmFrom W D m₀) c (fun _ => CalmFrom W D m₀) (fun _ => True) (fun _ => True)

theorem Calm.run {c : OcallM α} {m : Machine} {Q : α → Machine → Prop} (h : Calm env W D c)
    (k : ∀ a m', (∀ x, ¬W x → m'.mem x = m.mem x) → CalmSince D m.log m'.log → Q a m') :
    wp c env m Q (fun _ => True) (fun _ => True) :=
  Spec.run (h m) ⟨fun _ _ => rfl, .refl⟩ fun a m' h' => k a m' h'.1 h'.2

theorem Calm.pure {a : α} : Calm env W D (Pure.pure a) := fun _ => Spec.pure fun _ => id

theorem Calm.bind {x : OcallM β} {f : β → OcallM α} (hx : Calm env W D x)
    (hf : ∀ b, Calm env W D (f b)) : Calm env W D (x >>= f) :=
  fun m₀ => Spec.bind (hx m₀) fun b => hf b m₀

theorem Calm.ite {b : Prop} [Decidable b] {x y : OcallM α} (hx : b → Calm env W D x)
    (hy : ¬b → Calm env W D y) : Calm env W D (if b then x else y) :=
  fun m₀ => Spec.ite (fun h => hx h m₀) fun h => hy h m₀

theorem Calm.map {x : OcallM β} {f : β → α} (h : Calm env W D x) : Calm env W D (f <$> x) :=
  fun m₀ => Spec.map (h m₀)

theorem Calm.read {f : Env → OcallM α} (h : Calm env W D (f env)) :
    Calm env W D (OcallM.read >>= f) :=
  fun m₀ => Spec.read (h m₀)

/-! ### The helpers -/

theorem storeField_calm {ms : HostPtr} {f : Field} {v : Val} (hf : (f == .msBuf) = false) :
    Calm env W D (storeField ms f v) := fun _ m hm => by
  rw [wp_storeField]
  split_ifs
  exact hm.store hf

theorem loadField_calm (ms : HostPtr) (f : Field) : Calm env W D (loadField ms f) :=
  fun _ m hm => by
  rw [wp_loadField]
  split_ifs
  exact hm.push trivial fun _ _ => Option.noConfusion

theorem loadU64_calm (ms : HostPtr) (f : Field) : Calm env W D (loadU64 ms f) :=
  (loadField_calm ms f).map

theorem loadU32_calm (ms : HostPtr) (f : Field) : Calm env W D (loadU32 ms f) :=
  (loadField_calm ms f).map

theorem loadI32_calm (ms : HostPtr) (f : Field) : Calm env W D (loadI32 ms f) :=
  ((loadField_calm ms f).bind fun _ => .pure).map

/-- An exit dispatches its argument struct. -/
theorem sgxOcall_calm (code : OcallCode) (ms : HostPtr) (hD : D code ms) :
    Calm env W D (sgxOcall code ms) := fun _ _ hm =>
  hm.push trivial fun _ _ h => by
    obtain ⟨rfl, rfl⟩ := dispatchOf_ocall.1 h
    exact hD

theorem spinlockCmpxchg_calm (req : HostPtr) (expected desired : Int) :
    Calm env W D (spinlockCmpxchg req expected desired) := fun _ m hm => by
  rw [wp_spinlockCmpxchg]
  split_ifs <;> exact hm.push trivial fun _ _ => Option.noConfusion

theorem sgxAllocOnUstackAligned_calm (size alignment : Nat) :
    Calm env W D (sgxAllocOnUstackAligned size alignment) := fun _ m hm => by
  rw [wp_sgxAllocOnUstackAligned]
  split_ifs
  · exact ⟨hm.1, hm.2.cons _ trivial fun _ _ => Option.noConfusion⟩
  · exact hm

theorem sgxAllocOnUstack_calm (size : Nat) : Calm env W D (sgxAllocOnUstack size) :=
  sgxAllocOnUstackAligned_calm size 1

theorem allocMs_calm (code : OcallCode) : Calm env W D (allocMs code) :=
  .read (sgxAllocOnUstackAligned_calm _ _)

theorem storeFields_calm (ms : HostPtr) (fields : List (Field × Int))
    (hf : ∀ fv ∈ fields, (fv.1 == .msBuf) = false) : Calm env W D (storeFields ms fields) := by
  induction fields with
  | nil => exact .pure
  | cons fv rest ih =>
    exact (storeField_calm (hf fv (.head _))).bind fun _ => ih fun fv' h => hf fv' (.tail _ h)

theorem sgxResetUstack_calm : Calm env W D sgxResetUstack :=
  fun _ _ hm => ⟨hm.1, hm.2.cons _ trivial fun _ _ => Option.noConfusion⟩

theorem writeMem_calm {dst n : Nat} {data : Nat → UInt8} (hW : ∀ a, dst ≤ a → a < dst + n → W a) :
    Calm env W D (writeMem dst n data) := fun _ m hm => by
  rw [wp_writeMem]
  split_ifs
  exact ⟨fun a ha =>
    (Mem.copy_outside (by by_contra h; exact ha (hW a (by omega) (by omega)))).trans (hm.1 a ha),
    hm.2.cons _ trivial fun _ _ => Option.noConfusion⟩

theorem queryBytes_calm (src : HostPtr) (n : Nat) :
    Calm env W D (queryBytes (.loadBytes src n)) :=
  fun _ _ hm => hm.push trivial fun _ _ => Option.noConfusion

/-- `sgx_copy_to_enclave` writes at most `maxsize` bytes at `ptr`. -/
theorem sgxCopyToEnclave_calm {ptr maxsize : Nat} (uptr : HostPtr) (usize : Nat)
    (hW : ∀ a, ptr ≤ a → a < ptr + maxsize → W a) :
    Calm env W D (sgxCopyToEnclave ptr maxsize uptr usize) := by
  unfold sgxCopyToEnclave
  refine .read (.ite (fun h => ?_) fun _ => .pure)
  exact (queryBytes_calm uptr usize).bind fun _ =>
    (writeMem_calm fun a h₁ h₂ => hW a h₁ (by omega)).bind fun _ => .pure

theorem sgxCopyPtrToEnclave_calm {ptr : Nat} (uptr size : Nat)
    (hW : ∀ a, ptr ≤ a → a < ptr + 8 → W a) :
    Calm env W D (sgxCopyPtrToEnclave ptr uptr size) := by
  unfold sgxCopyPtrToEnclave
  exact .read (.ite (fun _ => (writeMem_calm hW).bind fun _ => .pure) fun _ => .pure)

/-! ### `sgx_exitless_ocall` and the untrusted heap -/

theorem spinlockLockTimeout_calm (req : HostPtr) (n : Nat) :
    Calm env W D (spinlockLockTimeout req n) := by
  induction n with
  | zero => exact .pure
  | succ n ih => exact (spinlockCmpxchg_calm _ _ _).bind fun _ => .ite (fun _ => .pure) fun _ => ih

theorem futexWaitLoop_calm (req ms : HostPtr) (n : Nat) (c : Int) (hF : D .futex ms) :
    Calm env W D (futexWaitLoop req ms n c) := by
  induction n generalizing c with
  | zero => exact fun _ _ _ => trivial
  | succ n ih =>
    unfold futexWaitLoop
    refine (Calm.ite (fun _ => .pure) fun _ => (spinlockCmpxchg_calm _ _ _).map).bind fun _ => ?_
    refine (Calm.ite (fun _ => (storeField_calm (by rfl)).bind fun _ =>
      (sgxOcall_calm _ _ hF).bind fun _ => .pure) fun _ => .pure).bind fun _ =>
      .ite (fun _ => .pure) fun _ => ?_
    exact Calm.pure.bind fun _ => (spinlockCmpxchg_calm _ _ _).bind fun _ =>
      .ite (fun _ => .pure) fun _ => Calm.pure.bind fun _ => ih _

theorem exitlessWait_calm (req : HostPtr) (hF : ∀ p, D .futex p) :
    Calm env W D (exitlessWait req) := by
  unfold exitlessWait
  refine .read ((spinlockLockTimeout_calm _ _).bind fun _ => .ite (fun _ => ?_)
    fun _ => Calm.pure.bind fun _ => loadI32_calm _ _)
  refine (spinlockCmpxchg_calm _ _ _).bind fun _ => .ite (fun _ => ?_)
    fun _ => Calm.pure.bind fun _ => loadI32_calm _ _
  refine (sgxAllocOnUstackAligned_calm _ _).bind fun _ => (storeField_calm (by rfl)).bind fun _ =>
    (storeField_calm (by rfl)).bind fun _ => (storeField_calm (by rfl)).bind fun _ =>
    (futexWaitLoop_calm _ _ _ _ (hF _)).bind fun o => ?_
  cases o
  · exact Calm.pure.bind fun _ => loadI32_calm _ _
  · exact .pure

/-- Filling a request descriptor for `ms` and enqueuing it (lines 70–74) dispatches `ms` for
`code`. -/
theorem request_calm {code : OcallCode} {req ms : HostPtr} {k : HostPtr → OcallM α}
    (hD : D code ms) (hk : ∀ r, Calm env W D (k r)) :
    Calm env W D (storeField req .ocallIndex (.code code) >>= fun _ =>
      storeField req .buffer (.ptr ms) >>= fun _ => spinlockInit req >>= fun _ =>
      spinlockLock req >>= fun _ => rpcEnqueue req >>= k) := fun m₀ m hm => by
  rw [wp_request]
  by_cases hreq : req.addr = 0
  · rw [if_pos hreq]
    trivial
  rw [if_neg hreq]
  refine hk _ m₀ _ (((((hm.store (by rfl)).store (by rfl)).store (by rfl)).store (by rfl)).push
    (by trivial) fun c p h => ?_)
  rw [dispatchOf_request] at h
  split_ifs at h with hc
  cases h
  exact hc ▸ hD

/-- `sgx_exitless_ocall(code, ms)` dispatches only `ms` for `code`, and the futex waits of its
RPC path. -/
theorem sgxExitlessOcall_calm (code : OcallCode) (ms : HostPtr) (hD : D code ms)
    (hF : ∀ p, D .futex p) : Calm env W D (sgxExitlessOcall code ms) := by
  unfold sgxExitlessOcall
  refine .read (.ite (fun _ => (sgxOcall_calm _ _ hD).bind fun _ => .pure) fun _ => ?_)
  refine Calm.pure.bind fun _ => (sgxAllocOnUstackAligned_calm _ _).bind fun _ =>
    request_calm hD fun _ => ?_
  exact .ite (fun _ => (sgxOcall_calm _ _ hD).bind fun _ => .pure) fun _ =>
    Calm.pure.bind fun _ => exitlessWait_calm _ hF

/-- `ocall_mmap_untrusted` writes enclave memory only at `*mem`. -/
theorem ocallMmapUntrusted_calm (fd : Int) (offset size prot : Nat) {mem : Nat}
    (hW : ∀ a, mem ≤ a → a < mem + 8 → W a) (hD : ∀ p, D .mmapUntrusted p)
    (hF : ∀ p, D .futex p) : Calm env W D (ocallMmapUntrusted fd offset size prot mem) := by
  unfold ocallMmapUntrusted
  have reset_ret {v : Int} : Calm env W D (sgxResetUstack >>= fun _ => Pure.pure v) :=
    sgxResetUstack_calm.bind fun _ => .pure
  refine .read ((sgxAllocOnUstackAligned_calm _ _).bind fun _ =>
    .ite (fun _ => reset_ret) fun _ => Calm.pure.bind fun _ => ?_)
  refine (storeField_calm (by rfl)).bind fun _ => (storeField_calm (by rfl)).bind fun _ =>
    (storeField_calm (by rfl)).bind fun _ => (storeField_calm (by rfl)).bind fun _ =>
    (sgxExitlessOcall_calm _ _ (hD _) hF).bind fun _ => ?_
  exact .ite (fun _ => (loadU64_calm _ _).bind fun _ => (sgxCopyPtrToEnclave_calm _ _ hW).bind
    fun _ => .ite (fun _ => reset_ret) fun _ => Calm.pure.bind fun _ => reset_ret)
    fun _ => Calm.pure.bind fun _ => reset_ret

theorem ocallMunmapUntrusted_calm (mem size : Nat) (hD : ∀ p, D .munmapUntrusted p)
    (hF : ∀ p, D .futex p) : Calm env W D (ocallMunmapUntrusted mem size) := by
  unfold ocallMunmapUntrusted
  have reset_ret {v : Int} : Calm env W D (sgxResetUstack >>= fun _ => Pure.pure v) :=
    sgxResetUstack_calm.bind fun _ => .pure
  refine .read (.ite (fun _ => reset_ret) fun _ => Calm.pure.bind fun _ => ?_)
  exact (sgxAllocOnUstackAligned_calm _ _).bind fun _ =>
    .ite (fun _ => reset_ret) fun _ => Calm.pure.bind fun _ =>
    (storeField_calm (by rfl)).bind fun _ => (storeField_calm (by rfl)).bind fun _ =>
    (sgxExitlessOcall_calm _ _ (hD _) hF).bind fun _ => reset_ret

end Calm

/-! ## Triples -/

section Triple

variable {env : Env} {P : Machine → Prop}

/-- From every machine satisfying `P`, `c` returns, if it returns, a value `a` in a machine
satisfying `Q a`: the instance of `Spec` that says nothing of faults and exhausted fuel. -/
def Triple (env : Env) (P : Machine → Prop) (c : OcallM α) (Q : α → Machine → Prop) : Prop :=
  Spec env P c Q (fun _ => True) (fun _ => True)

theorem Triple.bind {x : OcallM β} {f : β → OcallM α} {R : β → Machine → Prop}
    {Q : α → Machine → Prop} (hx : Triple env P x R) (hf : ∀ b, Triple env (R b) (f b) Q) :
    Triple env P (x >>= f) Q :=
  Spec.bind hx hf

theorem Triple.ite {b : Prop} [Decidable b] {x y : OcallM α} {Q : α → Machine → Prop}
    (hx : b → Triple env P x Q) (hy : ¬b → Triple env P y Q) :
    Triple env P (if b then x else y) Q :=
  Spec.ite hx hy

theorem Triple.pure {a : α} {Q : α → Machine → Prop} (h : ∀ m, P m → Q a m) :
    Triple env P (Pure.pure a) Q := Spec.pure h

theorem Triple.pure_bind {a : β} {f : β → OcallM α} {Q : α → Machine → Prop}
    (h : Triple env P (f a) Q) : Triple env P (Pure.pure a >>= f) Q :=
  Spec.pure_bind h

/-- A conditional whose two branches go on to the same join point `k`. -/
theorem Triple.ite_bind {b : Prop} [Decidable b] {x y : OcallM β} {k : β → OcallM α}
    {R : β → Machine → Prop} {Q : α → Machine → Prop} (hx : b → Triple env P x R)
    (hy : ¬b → Triple env P y R) (hk : ∀ a, Triple env (R a) (k a) Q) :
    Triple env P (if b then x >>= k else y >>= k) Q :=
  Spec.ite_bind hx hy hk

theorem Triple.read {f : Env → OcallM α} {Q : α → Machine → Prop} (h : Triple env P (f env) Q) :
    Triple env P (OcallM.read >>= f) Q :=
  Spec.read h

/-- A fact about the values so far, moved from the precondition into the context. -/
theorem Triple.assume {R : Prop} {c : OcallM α} {Q : α → Machine → Prop}
    (h : R → Triple env P c Q) : Triple env (fun m => P m ∧ R) c Q :=
  Spec.assume h

/-- A calm step keeps every precondition that calm growth outside `W` keeps. -/
theorem Triple.calm {W : Nat → Prop} {D : OcallCode → HostPtr → Prop} {c : OcallM α}
    (hc : Calm env W D c)
    (hP : ∀ m m', P m → (∀ a, ¬W a → m'.mem a = m.mem a) → CalmSince D m.log m'.log → P m') :
    Triple env P c fun _ => P :=
  fun m hm => hc.run fun _ m' hw hl => hP m m' hm hw hl

/-- What `EnclaveOcalls.Lengths` proves of the results of `c`, added to the postcondition. -/
theorem Triple.returns {c : OcallM α} {Q : α → Machine → Prop} {R : α → Prop}
    (h : Triple env P c Q) (hr : Returns env c R) : Triple env P c fun a m => Q a m ∧ R a :=
  Spec.and h (Spec.pre (fun _ _ => trivial) hr)

/-- Consequence: strengthen the precondition. -/
theorem Triple.pre {P' : Machine → Prop} {c : OcallM α} {Q : α → Machine → Prop}
    (h : ∀ m, P m → P' m) (t : Triple env P' c Q) : Triple env P c Q :=
  Spec.pre h t

theorem readMem_triple (src n : Nat) : Triple env P (readMem src n) fun _ => P := fun m hm => by
  rw [wp_readMem]
  split_ifs
  exact hm

/-- `readMem` returns the bytes at `src`. -/
theorem readMem_value (src n : Nat) :
    Triple env P (readMem src n) fun v m => P m ∧ v = m.mem.load src n := fun m hm => by
  rw [wp_readMem]
  split_ifs
  exact ⟨hm, rfl⟩

/-- `sgx_reset_ustack()` and, for a heap buffer, `ocall_munmap_untrusted` at the end of a
wrapper, for an invariant `I` that calm steps writing no enclave memory keep. -/
theorem Triple.release {D : OcallCode → HostPtr → Prop} {I : Machine → Prop}
    {Q : Int → Machine → Prop} {b : Prop} [Decidable b] {obuf size : Nat} {retval : Int}
    (hI : ∀ m m', I m → (∀ a, ¬False → m'.mem a = m.mem a) → CalmSince D m.log m'.log → I m')
    (hD : ∀ p, D .munmapUntrusted p) (hF : ∀ p, D .futex p) (hQ : ∀ m, I m → Q retval m) :
    Triple env I (sgxResetUstack >>= fun _ => if b then ocallMunmapUntrusted obuf size >>= fun _ =>
      Pure.pure retval else Pure.pure () >>= fun _ => Pure.pure retval) Q :=
  (Triple.calm sgxResetUstack_calm hI).bind fun _ => .ite (fun _ =>
    (Triple.calm (ocallMunmapUntrusted_calm _ _ hD hF) hI).bind fun _ => .pure hQ)
    fun _ => .pure_bind (.pure hQ)

end Triple

/-! ## What the enclave reads back -/

/-- The log right after the enclave read `r` bytes at the address the host gave for `ms->ms_buf`:
the read of `ms->ms_buf`, then the read of the bytes, both in generation `g`, on top of `l`. -/
def bufRead (env : Env) (g : Nat) (ms : HostPtr) (r : Nat) (l : List Entry) : List Entry :=
  ⟨g, .loadBytes ⟨env.host.word (⟨g, .load ms .msBuf⟩ :: l) % addrSpace, none⟩ r⟩ ::
    ⟨g, .load ms .msBuf⟩ :: l

/-- The log grew from `l₀` to `l` by, among others, an entry that dispatches `ms` for the OCALL
`code`. -/
def Dispatched (code : OcallCode) (ms : HostPtr) (l₀ l : List Entry) : Prop :=
  ∃ e l₁, e :: l₁ <:+ l ∧ l₀ <:+ l₁ ∧ dispatchOf code e.ev l₁ = some ms

section Dispatched

variable {code : OcallCode} {ms : HostPtr} {l₀ l l' : List Entry}

theorem Dispatched.grow (h : Dispatched code ms l₀ l) (hl : l <:+ l') :
    Dispatched code ms l₀ l' := by
  obtain ⟨e, l₁, h₁, h₂, h₃⟩ := h
  exact ⟨e, l₁, h₁.trans hl, h₂, h₃⟩

theorem Dispatched.since (h : Dispatched code ms l₀ l) (hl : l' <:+ l₀) :
    Dispatched code ms l' l := by
  obtain ⟨e, l₁, h₁, h₂, h₃⟩ := h
  exact ⟨e, l₁, h₁, hl.trans h₂, h₃⟩

end Dispatched

/-- `buf[0, r)` of `mem` holds the bytes the host answered to a read of `r` bytes at
`ms->ms_buf`, a read that the log `l` made after dispatching `ms` for the OCALL `code` since
`l₀`. -/
def Filled (env : Env) (code : OcallCode) (buf r : Nat) (mem : Mem) (l₀ l : List Entry) : Prop :=
  ∃ g ms l₁, Dispatched code ms l₀ l₁ ∧ bufRead env g ms r l₁ <:+ l ∧
    ∀ i < r, mem (buf + i) = env.host.bytes (bufRead env g ms r l₁) i

section Filled

variable {env : Env} {code : OcallCode} {buf r : Nat} {mem mem' : Mem} {l₀ l l' : List Entry}

theorem Filled.grow (h : Filled env code buf r mem l₀ l) (hl : l <:+ l')
    (hmem : ∀ i < r, mem' (buf + i) = mem (buf + i)) : Filled env code buf r mem' l₀ l' := by
  obtain ⟨g, ms, l₁, hd, hs, hb⟩ := h
  exact ⟨g, ms, l₁, hd, hs.trans hl, fun i hi => (hmem i hi).trans (hb i hi)⟩

theorem Filled.since (h : Filled env code buf r mem l₀ l) (hl : l' <:+ l₀) :
    Filled env code buf r mem l' l := by
  obtain ⟨g, ms, l₁, hd, hs, hb⟩ := h
  exact ⟨g, ms, l₁, hd.since hl, hs, hb⟩

end Filled

/-- `m'` extends the log of `m` and holds the same enclave memory outside `W`. -/
def Grown (W : Nat → Prop) (m m' : Machine) : Prop :=
  m.log <:+ m'.log ∧ ∀ a, ¬W a → m'.mem a = m.mem a

/-- What the copy-back of `ms->ms_buf` into `buf` leaves, from `m₀` on: a positive result `r`
was read into `buf[0, r)` after the OCALL `code` was dispatched, and enclave memory outside `W`
and outside `buf[0, r)` is as in `m₀`. -/
def Fills (env : Env) (W : Nat → Prop) (code : OcallCode) (buf : Nat) (m₀ : Machine) (r : Int)
    (m' : Machine) : Prop :=
  m₀.log <:+ m'.log ∧ (0 < r → Filled env code buf r.toNat m'.mem m₀.log m'.log) ∧
    ∀ a, ¬W a → (0 < r → a < buf ∨ buf + r.toNat ≤ a) → m'.mem a = m₀.mem a

section Fills

variable {env : Env} {W : Nat → Prop} {m₀ : Machine} {buf : Nat} {code : OcallCode}

theorem Grown.start : Grown W m₀ m₀ := ⟨List.suffix_refl _, fun _ _ => rfl⟩

theorem Grown.push {m : Machine} (h : Grown W m₀ m) (e : Event) : Grown W m₀ (m.push e) :=
  ⟨h.1.trans (List.suffix_cons _ _), h.2⟩

theorem Grown.fills {m : Machine} {r : Int} (h : Grown W m₀ m) (hr : r ≤ 0) :
    Fills env W code buf m₀ r m :=
  ⟨h.1, fun h' => absurd h' (by omega), fun a ha _ => h.2 a ha⟩

/-- A calm step that writes only inside `W` keeps `Grown W m₀`. -/
theorem Grown.calm_in {W' : Nat → Prop} {c : OcallM α} (hc : Calm env W' ⊤ c)
    (hW : ∀ a, W' a → W a) : Triple env (Grown W m₀) c fun _ => Grown W m₀ :=
  .calm hc fun _ _ h hw hl =>
    ⟨h.1.trans hl.suffix, fun a ha => (hw a fun h' => ha (hW a h')).trans (h.2 a ha)⟩

/-- A calm step that writes no enclave memory keeps `Grown W m₀`. -/
theorem Grown.triple {c : OcallM α} (hc : Calm env (fun _ => False) ⊤ c) :
    Triple env (Grown W m₀) c fun _ => Grown W m₀ :=
  Grown.calm_in hc fun _ h => h.elim

theorem sgxExitlessOcall_grown (code : OcallCode) (ms : HostPtr) :
    Triple env (Grown W m₀) (sgxExitlessOcall code ms) fun _ => Grown W m₀ :=
  Grown.triple (sgxExitlessOcall_calm code ms trivial fun _ => trivial)

theorem ocallMunmapUntrusted_grown (mem size : Nat) :
    Triple env (Grown W m₀) (ocallMunmapUntrusted mem size) fun _ => Grown W m₀ :=
  Grown.triple (ocallMunmapUntrusted_calm mem size (fun _ => trivial) fun _ => trivial)

/-- A calm step that writes only inside `W` keeps `Grown W m₀` and a dispatch since `m₀`. -/
theorem Grown.calm_dispatched {W' : Nat → Prop} {ms : HostPtr} {c : OcallM α}
    (hc : Calm env W' ⊤ c) (hW : ∀ a, W' a → W a) :
    Triple env (fun m => Grown W m₀ m ∧ Dispatched code ms m₀.log m.log) c
      fun _ m => Grown W m₀ m ∧ Dispatched code ms m₀.log m.log :=
  .calm hc fun _ _ h hw hl => ⟨⟨h.1.1.trans hl.suffix,
    fun a ha => (hw a fun h' => ha (hW a h')).trans (h.1.2 a ha)⟩, h.2.grow hl.suffix⟩

/-- Every run of `sgx_exitless_ocall(code, ms)` that returns has dispatched `ms` for `code`: by an
exit, or by enqueuing a request whose `buffer` is `ms`. -/
theorem sgxExitlessOcall_dispatched (ms : HostPtr) :
    Triple env (Grown W m₀) (sgxExitlessOcall code ms)
      fun _ m => Grown W m₀ m ∧ Dispatched code ms m₀.log m.log := by
  have exit : Triple env (Grown W m₀) (sgxOcall code ms)
      fun _ m => Grown W m₀ m ∧ Dispatched code ms m₀.log m.log :=
    fun m hm => ⟨hm.push _, _, _, List.suffix_refl _, hm.1, by simp⟩
  unfold sgxExitlessOcall
  refine .read (.ite (fun _ => exit.bind fun _ => .pure fun _ => id) fun _ => .pure_bind ?_)
  refine (Grown.triple (sgxAllocOnUstackAligned_calm _ _)).bind fun req m hm => ?_
  rw [wp_request]
  by_cases hreq : req.addr = 0
  · rw [if_pos hreq]
    trivial
  rw [if_neg hreq]
  have h₄ : Grown W m₀ ((((m.push (.store req .ocallIndex (.code code))).push
      (.store req .buffer (.ptr ms))).push (.store req .lock (.int spinlockUnlocked))).push
      (.store req .lock (.int spinlockLockedNoWaiters))) :=
    (((hm.push _).push _).push _).push _
  exact (Triple.ite (fun _ => (Grown.calm_dispatched (sgxOcall_calm _ _ trivial)
    fun _ => False.elim).bind fun _ => .pure fun _ => id) fun _ => .pure_bind
    (Grown.calm_dispatched (exitlessWait_calm _ fun _ => trivial) fun _ => False.elim)) _
    ⟨h₄.push _, _, _, List.suffix_refl _, h₄.1, by rw [dispatchOf_request, if_pos rfl]⟩

theorem storeField_grown (ms : HostPtr) (f : Field) (v : Val) :
    Triple env (Grown W m₀) (storeField ms f v) fun _ => Grown W m₀ := fun m hm => by
  rw [wp_storeField]
  split_ifs
  exact hm.push _

theorem storeFields_grown (ms : HostPtr) (fields : List (Field × Int)) :
    Triple env (Grown W m₀) (storeFields ms fields) fun _ => Grown W m₀ := by
  induction fields with
  | nil => exact .pure fun _ h => h
  | cons fv rest ih => exact (storeField_grown _ _ _).bind fun _ => ih

theorem toU64_pos {r : Int} (hr : IsInt r) (hpos : 0 < r) : toU64 r = r.toNat := by
  have := toU64_of_isInt hr hpos.le
  omega

/-- `src = ms->ms_buf; copied = sgx_copy_to_enclave(buf, count, src, retval)` for a positive `int`
`retval`, before the rest `k copied`: a refused copy writes nothing, and one that succeeds fills
`buf[0, retval)` with the host's bytes. -/
theorem copyIn_fills {ms : HostPtr} {count : Nat} {retval : Int} {k : Nat → OcallM Int}
    (hr : IsInt retval) (hpos : 0 < retval)
    (hk₀ : Triple env (Grown W m₀) (k 0) (Fills env W code buf m₀))
    (hk : Triple env (Fills env W code buf m₀ retval) (k (toU64 retval))
      (Fills env W code buf m₀)) :
    Triple env (fun m => Grown W m₀ m ∧ Dispatched code ms m₀.log m.log)
      (loadU64 ms .msBuf >>= fun src => sgxCopyToEnclave buf count ⟨src, none⟩ (toU64 retval) >>= k)
      (Fills env W code buf m₀) := fun m hm => by
  rw [wp_bind, wp_loadU64]
  split_ifs
  rw [wp_bind]
  unfold sgxCopyToEnclave
  simp only [wp_bind, wp_read, wp_ite, wp_queryBytes, wp_writeMem, wp_pure]
  split_ifs with hok hbuf
  · have hn := toU64_pos hr hpos
    refine hk _ ⟨hm.1.1.trans (List.suffix_append [_, _, _] _), fun _ => ?_, fun a ha hout => ?_⟩
    · rw [← hn]
      refine ⟨m.gen, ms, m.log, hm.2, by simp [bufRead], fun i hi => ?_⟩
      simp [Mem.copy_inside (Nat.le_add_right buf i) (Nat.add_lt_add_left hi buf), bufRead]
    · rw [← hn] at hout
      simp only [Mem.copy_outside (hout hpos), Machine.push_mem]
      exact hm.1.2 a ha
  · exact hk₀ _ (hm.1.push _)

/-- The rest `if (copied == 0) return -EPERM; return retval;` of a copy-back. -/
theorem copyIn_checked {ms : HostPtr} {count : Nat} {retval : Int} (hr : IsInt retval) :
    Triple env (fun m => Grown W m₀ m ∧ Dispatched code ms m₀.log m.log)
      (if retval > 0 then
        loadU64 ms .msBuf >>= fun src => sgxCopyToEnclave buf count ⟨src, none⟩ (toU64 retval) >>=
          fun copied => if copied = 0 then Pure.pure (-EPERM) else Pure.pure () >>= fun _ =>
            Pure.pure retval
      else Pure.pure () >>= fun _ => Pure.pure retval)
      (Fills env W code buf m₀) :=
  .ite (fun hpos => copyIn_fills hr hpos (.ite (fun _ => .pure fun _ h => h.fills (by decide))
    fun h => absurd rfl h) (.ite (fun h => absurd h (by rw [toU64_pos hr hpos]; omega))
    fun _ => .pure_bind (.pure fun _ h => h)))
    fun hpos => .pure_bind (.pure fun _ h => h.1.fills (not_lt.1 hpos))

/-- `ocall_read`'s body writes enclave memory only where it copies the host's bytes back. -/
theorem readBody_fills (fd : Int) (count obuf : Nat) :
    Triple env (Grown W m₀) (readBody fd buf count obuf) (Fills env W .read buf m₀) := by
  unfold readBody
  refine (Grown.triple (allocMs_calm _)).bind fun ms =>
    .ite (fun _ => .pure fun _ h => h.fills (by decide)) fun _ => .pure_bind ?_
  refine (Grown.triple (storeField_calm (by rfl))).bind fun _ =>
    (Grown.triple (storeField_calm (by rfl))).bind fun _ =>
    .ite_bind (fun _ => .pure fun _ h => h) (fun _ => Grown.triple (sgxAllocOnUstack_calm _))
    fun msBuf => (storeField_grown _ _ _).bind fun _ =>
    .ite (fun _ => .pure fun _ h => h.fills (by decide)) fun _ => .pure_bind ?_
  exact ((sgxExitlessOcall_dispatched _).returns (sgxExitlessOcall_isInt _ _)).bind
    fun _ => .assume copyIn_checked

/-- The enclave memory `ocall_recv` writes besides `buf`: `addr[0, addrlen)`, `*addrlenptr`,
`control[0, controllen)` and `*controllenptr`. -/
def recvOut (addr addrlenptr control controllenptr addrlen controllen a : Nat) : Prop :=
  addr ≤ a ∧ a < addr + addrlen ∨ addrlenptr ≤ a ∧ a < addrlenptr + 4 ∨
    control ≤ a ∧ a < control + controllen ∨ controllenptr ≤ a ∧ a < controllenptr + 8

theorem recvOut_mono {addr addrlenptr control controllenptr addrlen controllen A C a : Nat}
    (hA : addrlen ≤ A) (hC : controllen ≤ C) :
    recvOut addr addrlenptr control controllenptr addrlen controllen a →
      recvOut addr addrlenptr control controllenptr A C a := by
  unfold recvOut
  omega

/-- `ocall_recv`'s body writes enclave memory only in the caller's output objects. -/
theorem recvBody_fills (sockfd : Int)
    (count addr addrlenptr control controllenptr addrlen controllen obuf : Nat)
    (hW : ∀ a, recvOut addr addrlenptr control controllenptr addrlen controllen a → W a) :
    Triple env (Grown W m₀)
      (recvBody sockfd buf count addr addrlenptr control controllenptr addrlen controllen obuf)
      (Fills env W .recv buf m₀) := by
  unfold recvBody
  refine (Grown.triple (allocMs_calm _)).bind fun ms =>
    .ite (fun _ => .pure fun _ h => h.fills (by decide)) fun _ => .pure_bind ?_
  refine (storeFields_grown _ _).bind fun _ =>
    .ite_bind (fun _ => Grown.triple (sgxAllocOnUstack_calm _)) (fun _ => .pure fun _ h => h)
    fun _ => (storeField_grown _ _ _).bind fun _ => (storeField_grown _ _ _).bind fun _ =>
    .ite_bind (fun _ => Grown.triple (sgxAllocOnUstack_calm _)) (fun _ => .pure fun _ h => h)
    fun _ => (storeField_grown _ _ _).bind fun _ =>
    .ite_bind (fun _ => .pure fun _ h => h) (fun _ => Grown.triple (sgxAllocOnUstack_calm _))
    fun _ => (storeField_grown _ _ _).bind fun _ =>
    .ite (fun _ => .pure fun _ h => h.fills (by decide)) fun _ => .pure_bind ?_
  refine ((sgxExitlessOcall_dispatched ms).returns (sgxExitlessOcall_isInt _ _)).bind
    fun retval => .assume fun hr => ?_
  lift_lets
  intro done bufIn controlOut
  have hbuf : Triple env (fun m => Grown W m₀ m ∧ Dispatched .recv ms m₀.log m.log) (bufIn ())
      (Fills env W .recv buf m₀) := copyIn_checked hr
  have hcontrol : Triple env (fun m => Grown W m₀ m ∧ Dispatched .recv ms m₀.log m.log)
      (controlOut ()) (Fills env W .recv buf m₀) :=
    .ite (fun _ => (Grown.calm_dispatched (loadU64_calm _ _) fun _ => False.elim).bind fun _ =>
      (Grown.calm_dispatched (loadU64_calm _ _) fun _ => False.elim).bind fun _ =>
      (Grown.calm_dispatched (sgxCopyToEnclave_calm _ _ fun _ h₁ h₂ => ⟨h₁, h₂⟩)
        fun _ h => hW _ (.inr (.inr (.inl h)))).bind fun _ =>
      .ite (fun _ => .pure fun _ h => h.1.fills (by decide)) fun _ => .pure_bind
      ((Grown.calm_dispatched (writeMem_calm fun _ h₁ h₂ => ⟨h₁, h₂⟩)
        fun _ h => hW _ (.inr (.inr (.inr h)))).bind fun _ => hbuf)) fun _ => .pure_bind hbuf
  exact .ite (fun _ => .ite (fun _ =>
    (Grown.calm_dispatched (loadU64_calm _ _) fun _ => False.elim).bind fun _ =>
    (Grown.calm_dispatched (loadU32_calm _ _) fun _ => False.elim).bind fun _ =>
    (Grown.calm_dispatched (sgxCopyToEnclave_calm _ _ fun _ h₁ h₂ => ⟨h₁, h₂⟩)
      fun _ h => hW _ (.inl h)).bind
    fun _ => .ite (fun _ => .pure fun _ h => h.1.fills (by decide)) fun _ => .pure_bind
    ((Grown.calm_dispatched (writeMem_calm fun _ h₁ h₂ => ⟨h₁, h₂⟩)
      fun _ h => hW _ (.inr (.inl h))).bind fun _ => hcontrol)) fun _ => .pure_bind hcontrol)
    fun hneg => .pure_bind (.pure fun _ h => h.1.fills (by omega))

end Fills

/-! ## `ocall_read` and `ocall_recv` -/

/-- The byte ranges `[a, a + n)` and `[b, b + k)` share no byte. -/
def Apart (a n b k : Nat) : Prop := n = 0 ∨ k = 0 ∨ a + n ≤ b ∨ b + k ≤ a

/-- What a positive result `r` of `ocall_read` or `ocall_recv` (the OCALL `code`) promises of the
caller's `buf[0, count)`, against the machine `m₀` the call started from: `buf[0, r)` holds the
bytes the host answered for `ms->ms_buf` of the argument struct the call dispatched, and the rest
of `buf` is as it was. -/
def ReadsBack (env : Env) (code : OcallCode) (buf count : Nat) (m₀ : Machine) (r : Int)
    (m' : Machine) : Prop :=
  0 < r → Filled env code buf r.toNat m'.mem m₀.log m'.log ∧
    ∀ i, r.toNat ≤ i → i < count → m'.mem (buf + i) = m₀.mem (buf + i)

/-- A byte of a range apart from `[a, a + n)` lies outside it. -/
theorem Apart.outside {a n b k x : Nat} (h : Apart a n b k) (hx : b ≤ x ∧ x < b + k) :
    x < a ∨ a + n ≤ x := by
  unfold Apart at h
  omega

/-- No byte of `[a, a + n)` lies in a range apart from it. -/
theorem Apart.not_mem {a n b k i : Nat} (h : Apart a n b k) (hi : i < n) :
    ¬(b ≤ a + i ∧ a + i < b + k) := by
  unfold Apart at h
  omega

section ReadsBack

variable {env : Env} {code : OcallCode} {buf count : Nat} {m₀ : Machine}

theorem ReadsBack.calm {r : Int} {m m' : Machine} (h : ReadsBack env code buf count m₀ r m)
    (hw : ∀ a, ¬False → m'.mem a = m.mem a) (hl : CalmSince ⊤ m.log m'.log) :
    ReadsBack env code buf count m₀ r m' := fun hpos =>
  ⟨(h hpos).1.grow hl.suffix fun _ _ => hw _ id,
    fun i h₁ h₂ => (hw _ id).trans ((h hpos).2 i h₁ h₂)⟩

/-- A copy-back that leaves `buf` out of the other regions `W` it writes, after a start that kept
`buf` as in `m₀`. -/
theorem Fills.readsBack {W : Nat → Prop} {r : Int} {m₁ m₂ : Machine}
    (hW : ∀ i < count, ¬W (buf + i)) (h₁ : Grown (fun a => a < buf ∨ buf + count ≤ a) m₀ m₁)
    (h₂ : Fills env W code buf m₁ r m₂) : ReadsBack env code buf count m₀ r m₂ := fun hpos =>
  ⟨(h₂.2.1 hpos).since h₁.1, fun i h h' =>
    (h₂.2.2 _ (hW i h') fun _ => .inr (by omega)).trans (h₁.2 _ (by omega))⟩

/-- `ocall_read` keeps the rest of a caller's buffer that its local `obuf` does not overlap. -/
theorem ocallRead_reads_back (fd : Int) (buf count : Nat) (hslot : Apart buf count env.localSlot 8)
    (m₀ : Machine) :
    wp (ocallRead fd buf count) env m₀ (ReadsBack env .read buf count m₀) (fun _ => True)
      (fun _ => True) := by
  have hW : ∀ a, env.localSlot ≤ a ∧ a < env.localSlot + 8 → a < buf ∨ buf + count ≤ a :=
    fun _ => hslot.outside
  refine (?_ : Triple env (Grown (fun a => a < buf ∨ buf + count ≤ a) m₀) _ _) m₀ .start
  unfold ocallRead
  refine .read ((Grown.calm_in (writeMem_calm fun a h₁ h₂ => ⟨h₁, h₂⟩) hW).bind fun _ => ?_)
  lift_lets
  intro rest
  have hrest : Triple env (Grown (fun a => a < buf ∨ buf + count ≤ a) m₀) (rest ())
      (ReadsBack env .read buf count m₀) :=
    (readMem_triple _ _).bind fun obuf => Triple.bind (fun m₁ h₁ =>
      wp_post (readBody_fills (W := fun _ => False) fd count obuf m₁ .start) fun _ _ h₂ =>
        h₂.readsBack (fun _ _ => id) h₁) fun _ =>
      .release (fun _ _ => ReadsBack.calm) (fun _ => trivial) (fun _ => trivial) fun _ => id
  exact .ite (fun _ => (Grown.calm_in (ocallMmapUntrusted_calm _ _ _ _ (fun a h₁ h₂ => ⟨h₁, h₂⟩)
    (fun _ => trivial) fun _ => trivial) hW).bind fun _ =>
    .ite (fun h => .pure fun _ _ h' => absurd h'.le (nonneg_not_isErr h))
    fun _ => .pure_bind hrest) fun _ => .pure_bind hrest

/-- The `*addrlenptr` (`n = 4`) or `*controllenptr` (`n = 8`) that `ocall_recv` reads from `mem`,
`0` for a NULL pointer. -/
def lenAt (mem : Mem) (p n : Nat) : Nat := if p ≠ 0 then mem.load p n else 0

/-- The caller's `buf[0, count)` overlaps neither the wrapper's local `obuf` nor the other
objects `ocall_recv` writes, at the lengths the caller passes in `mem`: `addr[0, *addrlenptr)`,
`*addrlenptr`, `control[0, *controllenptr)` and `*controllenptr`. -/
structure RecvApart (env : Env) (mem : Mem)
    (buf count addr addrlenptr control controllenptr : Nat) : Prop where
  slot : Apart buf count env.localSlot 8
  addr : Apart buf count addr (lenAt mem addrlenptr 4)
  addrlenptr : Apart buf count addrlenptr 4
  control : Apart buf count control (lenAt mem controllenptr 8)
  controllenptr : Apart buf count controllenptr 8

/-- No byte of such a `buf` lies in the objects `ocall_recv` writes besides it. -/
theorem RecvApart.not_recvOut {mem : Mem} {buf count addr addrlenptr control controllenptr : Nat}
    (h : RecvApart env mem buf count addr addrlenptr control controllenptr) {i : Nat}
    (hi : i < count) : ¬recvOut addr addrlenptr control controllenptr (lenAt mem addrlenptr 4)
      (lenAt mem controllenptr 8) (buf + i) := by
  rintro (hr | hr | hr | hr)
  exacts [h.addr.not_mem hi hr, h.addrlenptr.not_mem hi hr, h.control.not_mem hi hr,
    h.controllenptr.not_mem hi hr]

/-- A length `ocall_recv` reads after zeroing its local `obuf` is at most the one the caller
passed: zeroing bytes can only lower a little-endian value. -/
theorem readMem_le_lenAt {P : Machine → Prop} {m₀ : Machine} {p n : Nat}
    (hP : ∀ m, P m → m.mem = m₀.mem.copy env.localSlot 8 (leBytes 0)) (hp : p ≠ 0) :
    Triple env P (readMem p n) fun v m => P m ∧ v ≤ lenAt m₀.mem p n := fun m hm => by
  rw [wp_readMem, if_neg hp, lenAt, if_pos hp, hP m hm]
  exact ⟨hm, Mem.load_copy_zero_le _ _ _ _ _⟩

/-- `ocall_recv` keeps the rest of a caller's buffer that overlaps none of its other objects. -/
theorem ocallRecv_reads_back (sockfd : Int) (buf count addr addrlenptr control controllenptr : Nat)
    (m₀ : Machine) (h : RecvApart env m₀.mem buf count addr addrlenptr control controllenptr) :
    wp (ocallRecv sockfd buf count addr addrlenptr control controllenptr) env m₀
      (ReadsBack env .recv buf count m₀) (fun _ => True) (fun _ => True) := by
  have hW : ∀ a, env.localSlot ≤ a ∧ a < env.localSlot + 8 → a < buf ∨ buf + count ≤ a :=
    fun _ => h.slot.outside
  -- the wrapper zeroes its local `obuf`, which can only lower the lengths it then reads
  let Zeroed (m : Machine) : Prop :=
    m₀.log <:+ m.log ∧ m.mem = m₀.mem.copy env.localSlot 8 (leBytes 0)
  have hgrown : ∀ m, Zeroed m → Grown (fun a => a < buf ∨ buf + count ≤ a) m₀ m :=
    fun m hm => ⟨hm.1, fun a ha => by rw [hm.2, Mem.copy_outside (by have := hW a; omega)]⟩
  refine (?_ : Triple env (· = m₀) _ _) m₀ rfl
  unfold ocallRecv
  refine .read (Triple.bind (R := fun _ => Zeroed) (fun m hm => by
    subst hm
    rw [wp_writeMem]
    split_ifs
    exact ⟨List.suffix_cons _ _, rfl⟩) fun _ => ?_)
  refine .ite_bind (readMem_le_lenAt fun _ hm => hm.2)
    (fun _ => .pure fun _ hm => ⟨hm, Nat.zero_le _⟩) fun addrlen =>
    .ite_bind (readMem_le_lenAt fun _ hm => hm.1.2) (fun _ => .pure fun _ hm => ⟨hm, Nat.zero_le _⟩)
    fun controllen => .assume fun hC => .assume fun hA => .pre hgrown ?_
  beta_reduce
  lift_lets
  intro rest
  have hrest : Triple env (Grown (fun a => a < buf ∨ buf + count ≤ a) m₀) (rest ())
      (ReadsBack env .recv buf count m₀) :=
    (readMem_triple _ _).bind fun obuf => Triple.bind (fun m₁ h₁ =>
      wp_post (recvBody_fills sockfd count addr addrlenptr control controllenptr addrlen controllen
        obuf (fun _ => recvOut_mono hA hC) m₁ .start) fun _ _ h₂ =>
        h₂.readsBack (fun _ => h.not_recvOut) h₁)
      fun _ => .release (fun _ _ => ReadsBack.calm) (fun _ => trivial) (fun _ => trivial)
        fun _ => id
  exact .ite (fun _ => (Grown.calm_in (ocallMmapUntrusted_calm _ _ _ _ (fun a h₁ h₂ => ⟨h₁, h₂⟩)
    (fun _ => trivial) fun _ => trivial) hW).bind fun _ =>
    .ite (fun h => .pure fun _ _ h' => absurd h'.le (nonneg_not_isErr h))
    fun _ => .pure_bind hrest) fun _ => .pure_bind hrest

end ReadsBack

/-! ## What the host reads of `ocall_write`'s and `ocall_send`'s buffer -/

/-- The data of the newest copy the log `l` made into host memory at `p`, with its length. -/
def copiedTo (p : HostPtr) : List Entry → Option (Nat × (Nat → UInt8))
  | [] => none
  | ⟨_, .storeBytes q n d⟩ :: l => if q = p then some (n, d) else copiedTo p l
  | _ :: l => copiedTo p l

/-- The host, reading `count` bytes at `p` when the log is `l`, finds `buf[0, count)` of `mem`:
`p` is `buf` itself, which the enclave checked to lie outside it, or the enclave's newest copy into
`p` is of those bytes. -/
def Carries (env : Env) (buf count : Nat) (mem : Mem) (p : HostPtr) (l : List Entry) : Prop :=
  p = ⟨buf, none⟩ ∧ sgxIsCompletelyOutsideEnclave env.enclave buf count = true ∨
    ∃ d, copiedTo p l = some (count, d) ∧ ∀ i < count, d i = mem (buf + i)

/-- With the log at `l`, the argument struct `ms` holds in `ms->ms_buf` a non-NULL pointer at
whose `count` bytes the host finds `buf[0, count)` of `mem`. -/
def Delivers (env : Env) (buf count : Nat) (mem : Mem) (ms : HostPtr) (l : List Entry) : Prop :=
  ∃ p, storedVal ms .msBuf l = some (.ptr p) ∧ p.addr ≠ 0 ∧ Carries env buf count mem p l

/-- At every dispatch of the OCALL `code` that the log makes after `l₀`, the argument struct and
the log before the dispatch satisfy `Ok`. -/
inductive DispatchedSince (code : OcallCode) (Ok : HostPtr → List Entry → Prop)
    (l₀ : List Entry) : List Entry → Prop
  | refl : DispatchedSince code Ok l₀ l₀
  | cons {l : List Entry} (e : Entry) : DispatchedSince code Ok l₀ l →
      (∀ ms, dispatchOf code e.ev l = some ms → Ok ms l) → DispatchedSince code Ok l₀ (e :: l)

/-- An entry that dispatches no OCALL `code` keeps `DispatchedSince`. -/
theorem DispatchedSince.quiet {code : OcallCode} {Ok : HostPtr → List Entry → Prop}
    {l₀ l : List Entry} (h : DispatchedSince code Ok l₀ l) {e : Entry}
    (he : dispatchOf code e.ev l = none) : DispatchedSince code Ok l₀ (e :: l) :=
  .cons e h fun _ hd => Option.noConfusion (he.symm.trans hd)

/-- An entry that copies nothing into host memory at `p`. -/
def Entry.Spares (p : HostPtr) (e : Entry) : Prop := ∀ n d, e.ev ≠ .storeBytes p n d

section Marshals

variable {env : Env} {buf count : Nat} {mem : Mem} {D : OcallCode → HostPtr → Prop}

theorem Event.Calm.spares {e : Entry} (h : e.ev.Calm) (p : HostPtr) : e.Spares p :=
  fun n d he => by rw [he] at h; exact h

theorem copiedTo_cons {p : HostPtr} {e : Entry} {l : List Entry} (he : e.Spares p) :
    copiedTo p (e :: l) = copiedTo p l := by
  obtain ⟨g, ev⟩ := e
  cases ev with
  | storeBytes q n d =>
    have hq : q ≠ p := fun h => he n d (by rw [h])
    simp [copiedTo, hq]
  | _ => rfl

/-- A calm entry stores into no field `ms_buf`. -/
theorem storedVal_cons_calm {ms : HostPtr} {e : Entry} {l : List Entry} (he : e.ev.Calm) :
    storedVal ms .msBuf (e :: l) = storedVal ms .msBuf l := by
  obtain ⟨g, ev⟩ := e
  cases ev with
  | store ms' f v =>
    have hf : (f == .msBuf) = false := he
    simp [storedVal, hf]
  | _ => rfl

theorem Carries.cons {p : HostPtr} {e : Entry} {l : List Entry} (h : Carries env buf count mem p l)
    (he : e.Spares p) : Carries env buf count mem p (e :: l) := by
  rw [Carries, copiedTo_cons he]
  exact h

theorem Carries.calm {p : HostPtr} {l l' : List Entry} (h : Carries env buf count mem p l)
    (hl : CalmSince D l l') : Carries env buf count mem p l' := by
  induction hl with
  | refl => exact h
  | cons e _ he _ ih => exact ih.cons (he.spares p)

theorem Delivers.calm {ms : HostPtr} {l l' : List Entry} (h : Delivers env buf count mem ms l)
    (hl : CalmSince D l l') : Delivers env buf count mem ms l' := by
  induction hl with
  | refl => exact h
  | cons e _ he _ ih =>
    obtain ⟨p, hs, hp, hc⟩ := ih
    exact ⟨p, (storedVal_cons_calm he).trans hs, hp, hc.cons (he.spares p)⟩

/-- A calm growth keeps every dispatch so far, and its own dispatches of the OCALL `code` are of
argument structs that `Ok` holds of at every point of it. -/
theorem DispatchedSince.calm {code : OcallCode} {Ok : HostPtr → List Entry → Prop}
    {l₀ l l' : List Entry} (h : DispatchedSince code Ok l₀ l) (hl : CalmSince D l l')
    (hOk : ∀ ms l₁, D code ms → CalmSince D l l₁ → Ok ms l₁) : DispatchedSince code Ok l₀ l' := by
  induction hl with
  | refl => exact h
  | cons e hl' _ hd ih => exact .cons e ih fun ms hms => hOk ms _ (hd code ms hms) hl'

end Marshals

/-- `sgx_copy_to_ustack(ptr, size)`: NULL with the log as it was, or a block `p` of the untrusted
stack with the log grown by its allocation and by a copy of `size` bytes at `ptr` into it. -/
theorem sgxCopyToUstack_cases {env : Env} (ptr size : Nat) (m : Machine) :
    wp (sgxCopyToUstack ptr size) env m (fun p m' => m'.mem = m.mem ∧
      (p = .null ∧ m'.log = m.log ∨ ∃ g, p.gen = some g ∧
        m'.log = [⟨g, .storeBytes p size (m.mem.slice ptr)⟩, ⟨g, .alloc p size⟩] ++ m.log))
      (fun _ => True) (fun _ => True) := by
  unfold sgxCopyToUstack sgxAllocOnUstack
  simp only [wp_bind, wp_read, wp_ite, wp_pure, wp_sgxAllocOnUstackAligned, wp_copyToHost]
  by_cases hin : sgxIsCompletelyWithinEnclave env.enclave ptr size = false
  · rw [if_pos hin]
    simp
  rw [if_neg hin]
  by_cases halloc : size ≤ m.ustack ∧ env.ustackBottom ≤ (m.ustack - size) / 1 * 1
  · have ha := env.alloc_ne_zero halloc.2
    rw [if_pos halloc, if_pos ha, if_neg ha]
    simp
  · rw [if_neg halloc, if_neg (by simp [HostPtr.null])]
    simp

/-- The log since `m₀` delivers `buf[0, count)`, as `m₀` held it, at every dispatch of the OCALL
`code`, and `buf` still holds those bytes. -/
def Sent (env : Env) (code : OcallCode) (buf count : Nat) (m₀ m : Machine) : Prop :=
  DispatchedSince code (Delivers env buf count m₀.mem) m₀.log m.log ∧
    ∀ i < count, m.mem (buf + i) = m₀.mem (buf + i)

/-- The local `obuf`, when not NULL, carries `buf[0, count)` as `m₀` held it. -/
def Pending (env : Env) (buf count : Nat) (m₀ : Machine) (obuf : Nat) (m : Machine) : Prop :=
  obuf ≠ 0 → Carries env buf count m₀.mem ⟨obuf, none⟩ m.log

section Sent

variable {env : Env} {code : OcallCode} {buf count : Nat} {m₀ : Machine}

theorem Sent.start : Sent env code buf count m₀ m₀ := ⟨.refl, fun _ _ => rfl⟩

/-- A calm step that writes no byte of `buf` and dispatches no OCALL `code` keeps `Sent`. -/
theorem Sent.calm {W : Nat → Prop} {D : OcallCode → HostPtr → Prop} {m m' : Machine}
    (hW : ∀ i < count, ¬W (buf + i)) (hD : ∀ p, ¬D code p) (h : Sent env code buf count m₀ m)
    (hw : ∀ a, ¬W a → m'.mem a = m.mem a) (hl : CalmSince D m.log m'.log) :
    Sent env code buf count m₀ m' :=
  ⟨h.1.calm hl fun p _ hp _ => absurd hp (hD p), fun i hi => (hw _ (hW i hi)).trans (h.2 i hi)⟩

/-- A calm step that writes no enclave memory and dispatches no OCALL `code`, with the pending
`obuf`. -/
theorem Sent.triple {obuf : Nat} {c : OcallM α}
    (hc : Calm env (fun _ => False) (fun c _ => c ≠ code) c) :
    Triple env (fun m => Sent env code buf count m₀ m ∧ Pending env buf count m₀ obuf m) c
      fun _ m => Sent env code buf count m₀ m ∧ Pending env buf count m₀ obuf m :=
  .calm hc fun _ _ h hw hl =>
    ⟨Sent.calm (fun _ _ => id) (fun _ h => h rfl) h.1 hw hl, fun ho => (h.2 ho).calm hl⟩

/-- A copy onto the untrusted stack keeps the pending `obuf`, a pointer of no stack generation. -/
theorem sgxCopyToUstack_sent {obuf : Nat} (ptr size : Nat) :
    Triple env (fun m => Sent env code buf count m₀ m ∧ Pending env buf count m₀ obuf m)
      (sgxCopyToUstack ptr size)
      fun _ m => Sent env code buf count m₀ m ∧ Pending env buf count m₀ obuf m :=
  fun m hm => wp_post (sgxCopyToUstack_cases ptr size m) fun p m' ⟨hmem, hlog⟩ => by
    obtain ⟨-, hl⟩ | ⟨g, hg, hl⟩ := hlog
    · exact ⟨⟨hl ▸ hm.1.1, hmem ▸ hm.1.2⟩, fun ho => hl ▸ hm.2 ho⟩
    · have hspare : ∀ e ∈ [(⟨g, .storeBytes p size (m.mem.slice ptr)⟩ : Entry),
          ⟨g, .alloc p size⟩], e.Spares ⟨obuf, none⟩ := by
        simp only [List.mem_cons, List.mem_singleton, List.not_mem_nil, or_false]
        rintro e (rfl | rfl) n d he
        · cases he
          simp at hg
        · cases he
      refine ⟨⟨hl ▸ (hm.1.1.quiet (by rfl)).quiet (by rfl), hmem ▸ hm.1.2⟩, fun ho => ?_⟩
      rw [hl]
      exact ((hm.2 ho).cons (hspare _ (.tail _ (.head _)))).cons (hspare _ (.head _))

/-- The copy of `buf` onto the untrusted stack carries `buf[0, count)`. -/
theorem sgxCopyToUstack_carries :
    Triple env (Sent env code buf count m₀) (sgxCopyToUstack buf count)
      fun p m => Sent env code buf count m₀ m ∧
        (p.addr ≠ 0 → Carries env buf count m₀.mem p m.log) :=
  fun m hm => wp_post (sgxCopyToUstack_cases buf count m) fun p m' ⟨hmem, hlog⟩ => by
    obtain ⟨rfl, hl⟩ | ⟨g, hg, hl⟩ := hlog
    · exact ⟨⟨hl ▸ hm.1, hmem ▸ hm.2⟩, fun h => absurd rfl h⟩
    · refine ⟨⟨hl ▸ (hm.1.quiet (by rfl)).quiet (by rfl), hmem ▸ hm.2⟩,
        fun _ => .inr ⟨m.mem.slice buf, ?_, hm.2⟩⟩
      simp [hl, copiedTo]

/-- `ms->ms_buf = p` for a pointer `p` that, when not NULL, carries `buf[0, count)`: `ms` delivers
it from then on. -/
theorem storeField_msBuf_sent {ms p : HostPtr} :
    Triple env (fun m => Sent env code buf count m₀ m ∧
        (p.addr ≠ 0 → Carries env buf count m₀.mem p m.log))
      (storeField ms .msBuf (.ptr p)) fun _ m => Sent env code buf count m₀ m ∧
        (p.addr ≠ 0 → Delivers env buf count m₀.mem ms m.log) := fun m hm => by
  rw [wp_storeField]
  split_ifs
  have hf : (Field.msBuf == Field.msBuf) = true := rfl
  exact ⟨⟨hm.1.1.quiet rfl, hm.1.2⟩,
    fun hp => ⟨p, by simp [Machine.push, storedVal, hf], hp, (hm.2 hp).cons nofun⟩⟩

/-- `sgx_exitless_ocall(code, ms)` for an argument struct that delivers `buf[0, count)`: every
dispatch it makes of the OCALL `code` is of `ms`. -/
theorem sgxExitlessOcall_sent {ms : HostPtr} (hcode : code ≠ .futex) :
    Triple env (fun m => Sent env code buf count m₀ m ∧ Delivers env buf count m₀.mem ms m.log)
      (sgxExitlessOcall code ms) fun _ => Sent env code buf count m₀ :=
  Spec.post (Triple.calm (sgxExitlessOcall_calm (W := fun _ => False)
    (D := fun c p => c = code ∧ p = ms ∨ c = .futex) code ms (.inl ⟨rfl, rfl⟩) fun _ => .inr rfl)
    fun _ _ h hw hl => ⟨⟨h.1.1.calm hl fun p _ hp hl₁ => by
      obtain ⟨-, rfl⟩ | hf := hp
      · exact h.2.calm hl₁
      · exact absurd hf hcode, fun i hi => (hw _ id).trans (h.1.2 i hi)⟩, h.2.calm hl⟩)
    fun _ _ h => h.1

/-- `obuf = v` into the wrapper's local, which `buf` does not overlap. -/
theorem writeMem_slot_sent (hslot : Apart buf count env.localSlot 8) (v : Nat) :
    Triple env (Sent env code buf count m₀) (writeMem env.localSlot 8 (leBytes v))
      fun _ m => Sent env code buf count m₀ m ∧ m.mem.load env.localSlot 8 = v % 256 ^ 8 :=
  fun m hm => by
  rw [wp_writeMem]
  split_ifs
  exact ⟨⟨hm.1.quiet rfl, fun i hi => (Mem.copy_outside (by
    have := hslot.not_mem hi; omega)).trans (hm.2 i hi)⟩, Mem.load_copy_leBytes _ _ _ _⟩

/-- What the wrapper reads back from `obuf` when not NULL carries `buf[0, count)`. -/
def SlotSent (env : Env) (code : OcallCode) (buf count : Nat) (m₀ m : Machine) : Prop :=
  Sent env code buf count m₀ m ∧ Pending env buf count m₀ (m.mem.load env.localSlot 8) m

theorem SlotSent.zero {m : Machine}
    (h : Sent env code buf count m₀ m ∧ m.mem.load env.localSlot 8 = 0 % 256 ^ 8) :
    SlotSent env code buf count m₀ m :=
  ⟨h.1, fun h0 => absurd h.2 h0⟩

/-- On the pass-through path `obuf = buf`, which the wrapper checked to lie outside the enclave:
such an address is below `2 ^ 64`, or it is `2 ^ 64` with `count = 0`, which `obuf` holds as
NULL. -/
theorem SlotSent.outside {m : Machine} (hout : sgxIsCompletelyOutsideEnclave env.enclave buf count)
    (h : Sent env code buf count m₀ m ∧ m.mem.load env.localSlot 8 = buf % 256 ^ 8) :
    SlotSent env code buf count m₀ m := by
  refine ⟨h.1, fun h0 => .inl ⟨?_, hout⟩⟩
  have hb := ((Enclave.outside_iff _ _ _).1 hout).1
  rw [h.2] at h0 ⊢
  unfold addrSpace at hb
  rw [Nat.mod_eq_of_lt (by omega)]

/-- `copy_to_host(obuf, buf, count)` into the mapping the wrapper just read back from `obuf`. -/
theorem copyToHost_slot_sent {obuf : Nat} :
    Triple env (fun m => Sent env code buf count m₀ m ∧ obuf = m.mem.load env.localSlot 8)
      (copyToHost ⟨obuf, none⟩ buf count) fun _ => SlotSent env code buf count m₀ :=
  fun m hm => by
  rw [wp_copyToHost]
  split_ifs
  refine ⟨⟨hm.1.1.quiet rfl, hm.1.2⟩, fun _ => .inr ⟨m.mem.slice buf, ?_, hm.1.2⟩⟩
  simp [← hm.2, copiedTo]

/-- The tail of a body after `ms->ms_buf = msBuf`: a check `b` that fails on a NULL `msBuf`,
`return -EPERM` if it holds, and the dispatch. -/
theorem dispatch_sent {ms msBuf : HostPtr} {b : Prop} [Decidable b] (hb : ¬b → msBuf.addr ≠ 0)
    (hcode : code ≠ .futex) :
    Triple env (fun m => Sent env code buf count m₀ m ∧
        (msBuf.addr ≠ 0 → Delivers env buf count m₀.mem ms m.log))
      (if b then Pure.pure (-EPERM) else Pure.pure () >>= fun _ => sgxExitlessOcall code ms)
      fun _ => Sent env code buf count m₀ :=
  .ite (fun _ => .pure fun _ h => h.1) fun h =>
    .pure_bind ((sgxExitlessOcall_sent hcode).pre fun _ hm => ⟨hm.1, hm.2 (hb h)⟩)

/-- `ocall_write`'s body: the pointer it stores into `ms->ms_buf`, when not NULL, carries
`buf[0, count)`, and it dispatches only after checking that the pointer is not NULL. -/
theorem writeBody_sent (fd : Int) (obuf : Nat) :
    Triple env (fun m => Sent env .write buf count m₀ m ∧ Pending env buf count m₀ obuf m)
      (writeBody fd buf count obuf) fun _ => Sent env .write buf count m₀ := by
  unfold writeBody
  refine (Sent.triple (allocMs_calm _)).bind fun _ =>
    .ite (fun _ => .pure fun _ h => h.1) fun _ => .pure_bind ?_
  exact (Sent.triple (storeField_calm (by rfl))).bind fun _ =>
    (Sent.triple (storeField_calm (by rfl))).bind fun _ =>
    .ite_bind (fun h => .pure fun _ hm => ⟨hm.1, fun _ => hm.2 h⟩)
      (fun _ => sgxCopyToUstack_carries.pre fun _ hm => hm.1) fun _ =>
    storeField_msBuf_sent.bind fun _ => dispatch_sent id (show OcallCode.write ≠ .futex by decide)

/-- `ocall_write` hands the host `buf[0, count)` at every dispatch of `OCALL_WRITE`, on each of
its three paths, for a caller's buffer that its local `obuf` does not overlap. -/
theorem ocallWrite_sent (fd : Int) (buf count : Nat) (hslot : Apart buf count env.localSlot 8)
    (m₀ : Machine) :
    wp (ocallWrite fd buf count) env m₀
      (fun _ m' => DispatchedSince .write (Delivers env buf count m₀.mem) m₀.log m'.log)
      (fun _ => True) (fun _ => True) := by
  have hW : ∀ i < count, ¬(env.localSlot ≤ buf + i ∧ buf + i < env.localSlot + 8) :=
    fun _ => hslot.not_mem
  refine wp_post ((?_ : Triple env (Sent env .write buf count m₀) _
    fun _ => Sent env .write buf count m₀) m₀ .start) fun _ _ h => h.1
  unfold ocallWrite
  refine .read ((writeMem_slot_sent hslot 0).bind fun _ => ?_)
  lift_lets
  intro rest copyIn
  have hrest : Triple env (SlotSent env .write buf count m₀) (rest ())
      fun _ => Sent env .write buf count m₀ :=
    (readMem_value _ _).bind fun obuf => ((writeBody_sent fd obuf).pre fun _ hm =>
      ⟨hm.1.1, hm.2 ▸ hm.1.2⟩).bind fun _ => .release (D := fun c _ => c ≠ .write)
      (fun _ _ => Sent.calm (fun _ _ => id) fun _ h => h rfl) (fun _ => nofun) (fun _ => nofun)
      fun _ => id
  have hcopy : Triple env (Sent env .write buf count m₀) (copyIn ())
      fun _ => Sent env .write buf count m₀ :=
    (readMem_value _ _).bind fun _ => copyToHost_slot_sent.bind fun _ => hrest
  exact .ite (fun hout => ((writeMem_slot_sent hslot buf).pre fun _ h => h.1).bind fun _ =>
    hrest.pre fun _ => SlotSent.outside hout)
    fun _ => .ite (fun _ => .ite (fun _ => ((Triple.calm (ocallMmapUntrusted_calm
      (W := fun a => env.localSlot ≤ a ∧ a < env.localSlot + 8)
      (D := fun c _ => c ≠ .write) _ _ _ _ (fun a h₁ h₂ => ⟨h₁, h₂⟩) (fun _ => nofun)
      fun _ => nofun) fun _ _ => Sent.calm hW fun _ h => h rfl).pre fun _ h => h.1).bind fun _ =>
      .ite (fun _ => .pure fun _ h => h) fun _ => .pure_bind hcopy)
      fun _ => .pure_bind (hrest.pre fun _ => SlotSent.zero)) fun _ => .pure fun _ h => h.1

/-- `ocall_send`'s body: its copies of `addr` and `control` go to fresh untrusted-stack blocks,
the pointer it stores into `ms->ms_buf`, when not NULL, carries `buf[0, count)`, and it
dispatches only after checking that the pointer is not NULL. -/
theorem sendBody_sent (sockfd : Int) (addr addrlen control controllen obuf : Nat) :
    Triple env (fun m => Sent env .send buf count m₀ m ∧ Pending env buf count m₀ obuf m)
      (sendBody sockfd buf count addr addrlen control controllen obuf)
      fun _ => Sent env .send buf count m₀ := by
  unfold sendBody
  refine (Sent.triple (allocMs_calm _)).bind fun _ =>
    .ite (fun _ => .pure fun _ h => h.1) fun _ => .pure_bind ?_
  have hfields : ∀ fv ∈
      [(Field.msSockfd, sockfd), (.msCount, (count : Int)), (.msAddrlen, addrlen)],
      (fv.1 == .msBuf) = false := by
    simp only [List.mem_cons, List.mem_singleton, List.not_mem_nil, or_false]
    rintro fv (rfl | rfl | rfl) <;> rfl
  exact (Sent.triple (storeFields_calm _ _ hfields)).bind fun _ =>
    .ite_bind (fun _ => sgxCopyToUstack_sent _ _) (fun _ => .pure fun _ h => h) fun _ =>
    (Sent.triple (storeField_calm (by rfl))).bind fun _ =>
    (Sent.triple (storeField_calm (by rfl))).bind fun _ =>
    .ite_bind (fun _ => sgxCopyToUstack_sent _ _) (fun _ => .pure fun _ h => h) fun _ =>
    (Sent.triple (storeField_calm (by rfl))).bind fun _ =>
    .ite_bind (fun h => .pure fun _ hm => ⟨hm.1, fun _ => hm.2 h⟩)
      (fun _ => sgxCopyToUstack_carries.pre fun _ hm => hm.1) fun _ =>
    storeField_msBuf_sent.bind fun _ => dispatch_sent (fun h h0 => h (.inl h0))
      (show OcallCode.send ≠ .futex by decide)

/-- `ocall_send` hands the host `buf[0, count)` at every dispatch of `OCALL_SEND`, on each of its
three paths, for a caller's buffer that its local `obuf` does not overlap. -/
theorem ocallSend_sent (sockfd : Int) (buf count addr addrlen control controllen : Nat)
    (hslot : Apart buf count env.localSlot 8) (m₀ : Machine) :
    wp (ocallSend sockfd buf count addr addrlen control controllen) env m₀
      (fun _ m' => DispatchedSince .send (Delivers env buf count m₀.mem) m₀.log m'.log)
      (fun _ => True) (fun _ => True) := by
  have hW : ∀ i < count, ¬(env.localSlot ≤ buf + i ∧ buf + i < env.localSlot + 8) :=
    fun _ => hslot.not_mem
  refine wp_post ((?_ : Triple env (Sent env .send buf count m₀) _
    fun _ => Sent env .send buf count m₀) m₀ .start) fun _ _ h => h.1
  unfold ocallSend
  refine .read ((writeMem_slot_sent hslot 0).bind fun _ => ?_)
  lift_lets
  intro rest copyIn
  have hrest : Triple env (SlotSent env .send buf count m₀) (rest ())
      fun _ => Sent env .send buf count m₀ :=
    (readMem_value _ _).bind fun obuf => ((sendBody_sent sockfd addr addrlen control controllen
      obuf).pre fun _ hm => ⟨hm.1.1, hm.2 ▸ hm.1.2⟩).bind fun _ =>
      .release (D := fun c _ => c ≠ .send) (fun _ _ => Sent.calm (fun _ _ => id) fun _ h => h rfl)
        (fun _ => nofun) (fun _ => nofun) fun _ => id
  have hcopy : Triple env (Sent env .send buf count m₀) (copyIn ())
      fun _ => Sent env .send buf count m₀ :=
    (readMem_value _ _).bind fun _ => copyToHost_slot_sent.bind fun _ => hrest
  exact .ite (fun hout => ((writeMem_slot_sent hslot buf).pre fun _ h => h.1).bind fun _ =>
    hrest.pre fun _ => SlotSent.outside hout)
    fun _ => .ite (fun _ => .ite (fun _ => ((Triple.calm (ocallMmapUntrusted_calm
      (W := fun a => env.localSlot ≤ a ∧ a < env.localSlot + 8)
      (D := fun c _ => c ≠ .send) _ _ _ _ (fun a h₁ h₂ => ⟨h₁, h₂⟩) (fun _ => nofun)
      fun _ => nofun) fun _ _ => Sent.calm hW fun _ h => h rfl).pre fun _ h => h.1).bind fun _ =>
      .ite (fun _ => .pure fun _ h => h) fun _ => .pure_bind hcopy)
      fun _ => .pure_bind (hrest.pre fun _ => SlotSent.zero)) fun _ => .pure fun _ h => h.1

end Sent

/-! ## The buffers of the four data OCALLs -/

/-- On every path and whatever the host does: at every dispatch of `OCALL_WRITE` and `OCALL_SEND`,
`ms->ms_buf` holds a non-NULL pointer at which the host finds `buf[0, count)` as the caller passed
it, `buf` itself after the wrapper checked that it lies outside the enclave, or a buffer whose
newest copy before the dispatch is of those bytes; and a positive result `r` of `ocall_read` and
`ocall_recv` leaves in `buf[0, r)` the bytes the host answered for `ms->ms_buf[0, r)` of the
argument struct the call dispatched, and the rest of `buf[0, count)` as it was. The caller's `buf`
overlaps neither the wrapper's local `obuf` nor, for `ocall_recv`, the other objects it writes. -/
theorem ocall_buffers_marshal_exactly (env : Env) :
    (∀ fd buf count, Apart buf count env.localSlot 8 → ∀ m,
      wp (ocallWrite fd buf count) env m
        (fun _ m' => DispatchedSince .write (Delivers env buf count m.mem) m.log m'.log)
        (fun _ => True) (fun _ => True)) ∧
    (∀ sockfd buf count addr addrlen control controllen, Apart buf count env.localSlot 8 → ∀ m,
      wp (ocallSend sockfd buf count addr addrlen control controllen) env m
        (fun _ m' => DispatchedSince .send (Delivers env buf count m.mem) m.log m'.log)
        (fun _ => True) (fun _ => True)) ∧
    (∀ fd buf count, Apart buf count env.localSlot 8 → ∀ m,
      wp (ocallRead fd buf count) env m (ReadsBack env .read buf count m) (fun _ => True)
        (fun _ => True)) ∧
    (∀ sockfd buf count addr addrlenptr control controllenptr m,
      RecvApart env m.mem buf count addr addrlenptr control controllenptr →
      wp (ocallRecv sockfd buf count addr addrlenptr control controllenptr) env m
        (ReadsBack env .recv buf count m) (fun _ => True) (fun _ => True)) :=
  ⟨fun fd buf count h m => ocallWrite_sent fd buf count h m,
    fun sockfd buf count addr addrlen control controllen h m =>
      ocallSend_sent sockfd buf count addr addrlen control controllen h m,
    fun fd buf count h m => ocallRead_reads_back fd buf count h m,
    fun sockfd buf count addr addrlenptr control controllenptr m h =>
      ocallRecv_reads_back sockfd buf count addr addrlenptr control controllenptr m h⟩

/-- A caller's 16-byte buffer two pages above the local `obuf`, once written and once received
into with a peer address and length at the next page. -/
theorem write_recv_marshal_exactly :
    Apart (2 ^ 32 + 8192) 16 (sampleEnv promptHost false true).localSlot 8 ∧
    RecvApart (sampleEnv promptHost false true) 0 (2 ^ 32 + 8192) 16 (2 ^ 32 + 12288)
      (2 ^ 32 + 12544) 0 0 ∧
    wp (ocallWrite 0 (2 ^ 32 + 8192) 16) (sampleEnv promptHost false true)
      (sampleMachine (sampleEnv promptHost false true) 0)
      (fun _ m' => DispatchedSince .write (Delivers (sampleEnv promptHost false true)
        (2 ^ 32 + 8192) 16 0) [] m'.log) (fun _ => True) (fun _ => True) ∧
    wp (ocallRecv 0 (2 ^ 32 + 8192) 16 (2 ^ 32 + 12288) (2 ^ 32 + 12544) 0 0)
      (sampleEnv promptHost false true) (sampleMachine (sampleEnv promptHost false true) 0)
      (ReadsBack (sampleEnv promptHost false true) .recv (2 ^ 32 + 8192) 16
        (sampleMachine (sampleEnv promptHost false true) 0)) (fun _ => True) (fun _ => True) := by
  have hslot : Apart (2 ^ 32 + 8192) 16 (sampleEnv promptHost false true).localSlot 8 := by
    norm_num [Apart, sampleEnv]
  have hrecv : RecvApart (sampleEnv promptHost false true) 0 (2 ^ 32 + 8192) 16 (2 ^ 32 + 12288)
      (2 ^ 32 + 12544) 0 0 :=
    ⟨hslot, .inr (.inl rfl), by norm_num [Apart], .inr (.inl rfl), by norm_num [Apart]⟩
  exact ⟨hslot, hrecv, (ocall_buffers_marshal_exactly _).1 0 _ 16 hslot _,
    (ocall_buffers_marshal_exactly _).2.2.2 0 _ 16 _ _ 0 0 _ hrecv⟩

end EnclaveOcalls
