import EnclaveOcalls.Api

/-!
# Invariants of the thread's state that every helper keeps

What a helper does to the thread's own state (its enclave memory, its untrusted-stack pointer,
its generation and its log) is made of few kinds of step: it logs an event, writes enclave
memory, allocates on the untrusted stack, or resets it. An invariant of the thread's state that
survives each kind of step (`Invariant`) survives every helper of `enclave_ocalls.c`. `Keeps` is
the instance of `Spec` whose pre- and postconditions are that invariant, on every way a run ends.

This file proves the following.
* Each helper of `enclave_ocalls.c`, `sgx_exitless_ocall` with its spin and futex loops among
  them, keeps every `Invariant` (`sgxExitlessOcall_keeps` and the others).

The stores that write a string's copy into an argument struct are the only plain-looking steps
kept apart (`Event.Plain`): `EnclaveOcalls.Strings` follows them, and no helper makes one.
-/

namespace EnclaveOcalls

open OcallM

/-- The fields of the argument structs that take a string. -/
def Field.IsStr : Field → Bool
  | .msPathname | .msOldpath | .msNewpath | .msUri | .msArgs _ | .msSubkey => true
  | _ => false

/-- An event that neither allocates on the untrusted stack nor resets it, and stores no pointer
into a string field. -/
def Event.Plain : Event → Prop
  | .alloc _ _ | .reset => False
  | .store _ f (.ptr _) => f.IsStr = false
  | _ => True

/-- From every machine satisfying `I`, `c` ends in a machine satisfying `I`, whether it
returns, faults or runs out of fuel. -/
def Keeps (env : Env) (I : Machine → Prop) (c : OcallM α) : Prop :=
  Spec env I c (fun _ => I) I I

/-- What an invariant of the thread's state has to survive: a plain event, any write of enclave
memory, an allocation on the untrusted stack and its reset. -/
structure Invariant (env : Env) (I : Machine → Prop) : Prop where
  push : ∀ m e, Event.Plain e → I m → I (m.push e)
  mem : ∀ m (mem : Mem), I m → I { m with mem := mem }
  alloc : ∀ size alignment, Keeps env I (sgxAllocOnUstackAligned size alignment)
  reset : Keeps env I sgxResetUstack

/-! ## The logic -/

section Logic

variable {env : Env} {I : Machine → Prop}

theorem Keeps.run {c : OcallM α} {m : Machine} {Q : α → Machine → Prop} (h : Keeps env I c)
    (hm : I m) (k : ∀ a m', I m' → Q a m') : wp c env m Q I I :=
  Spec.run h hm k

theorem Keeps.pure {a : α} : Keeps env I (Pure.pure a) := Spec.pure fun _ hm => hm

theorem Keeps.bind {x : OcallM β} {f : β → OcallM α} (hx : Keeps env I x)
    (hf : ∀ b, Keeps env I (f b)) : Keeps env I (x >>= f) :=
  Spec.bind hx hf

theorem Keeps.ite {b : Prop} [Decidable b] {x y : OcallM α} (hx : b → Keeps env I x)
    (hy : ¬b → Keeps env I y) : Keeps env I (if b then x else y) :=
  Spec.ite hx hy

theorem Keeps.pure_bind {a : β} {f : β → OcallM α} (h : Keeps env I (f a)) :
    Keeps env I (Pure.pure a >>= f) :=
  Spec.pure_bind h

theorem Keeps.ite_bind {b : Prop} [Decidable b] {x y : OcallM β} {k : β → OcallM α}
    (hx : b → Keeps env I x) (hy : ¬b → Keeps env I y) (hk : ∀ a, Keeps env I (k a)) :
    Keeps env I (if b then x >>= k else y >>= k) :=
  Spec.ite_bind hx hy hk

theorem Keeps.unless {b : Prop} [Decidable b] {x : OcallM α} {k : PUnit → OcallM α}
    (hx : Keeps env I x) (hk : ¬b → Keeps env I (k ())) :
    Keeps env I (if b then x else Pure.pure () >>= k) :=
  Spec.unless hx hk

theorem Keeps.map {x : OcallM β} {f : β → α} (h : Keeps env I x) : Keeps env I (f <$> x) :=
  Spec.map h

theorem Keeps.read {f : Env → OcallM α} (h : Keeps env I (f env)) :
    Keeps env I (OcallM.read >>= f) :=
  Spec.read h

theorem Keeps.diverge : Keeps env I (diverge : OcallM α) := Spec.diverge fun _ hm => hm

theorem storeField_keeps {ms : HostPtr} {f : Field} {v : Val}
    (hv : ∀ m, I m → I (m.push (.store ms f v))) : Keeps env I (storeField ms f v) :=
  fun m hm => by
    rw [wp_storeField]
    split_ifs
    · exact hm
    · exact hv m hm

theorem readMem_keeps (src n : Nat) : Keeps env I (readMem src n) := fun m hm => by
  rw [wp_readMem]
  split_ifs <;> exact hm

theorem cStrlen_keeps (p : Nat) : Keeps env I (cStrlen p) := fun m hm => by
  rw [wp_cStrlen]
  split_ifs <;> exact hm

theorem cPathLen_keeps (p : Nat) : Keeps env I (cPathLen p) :=
  .ite (fun _ => .pure) fun _ => (cStrlen_keeps p).bind fun _ => .pure

end Logic

/-! ## The helpers -/

section Helpers

variable {env : Env} {I : Machine → Prop} (hI : Invariant env I)
include hI

theorem storeField_plain {ms : HostPtr} {f : Field} {v : Val} (hv : (Event.store ms f v).Plain) :
    Keeps env I (storeField ms f v) :=
  storeField_keeps fun m => hI.push m _ hv

theorem writeMem_keeps (dst n : Nat) (data : Nat → UInt8) : Keeps env I (writeMem dst n data) :=
  fun m hm => by
    rw [wp_writeMem]
    split_ifs
    · exact hm
    · exact hI.mem _ _ (hI.push _ _ trivial hm)

theorem malloc_keeps (size : Nat) : Keeps env I (malloc size) :=
  fun _ hm => hI.push _ _ trivial hm

theorem free_keeps (p : Nat) : Keeps env I (free p) := fun _ hm => hI.push _ _ trivial hm

theorem copyToField_keeps (ms : HostPtr) (f : Field) (src n : Nat) :
    Keeps env I (copyToField ms f src n) := fun m hm => by
  rw [wp_copyToField]
  split_ifs
  · exact hm
  · exact hI.push _ _ trivial hm

theorem loadField_keeps (ms : HostPtr) (f : Field) : Keeps env I (loadField ms f) :=
  fun m hm => by
    rw [wp_loadField]
    split_ifs
    · exact hm
    · exact hI.push _ _ trivial hm

theorem loadFieldBytes_keeps (ms : HostPtr) (f : Field) : Keeps env I (loadFieldBytes ms f) :=
  fun m hm => by
    rw [wp_loadFieldBytes]
    split_ifs
    · exact hm
    · exact hI.push _ _ trivial hm

theorem loadU32_keeps (ms : HostPtr) (f : Field) : Keeps env I (loadU32 ms f) :=
  (loadField_keeps hI ms f).map

theorem loadU64_keeps (ms : HostPtr) (f : Field) : Keeps env I (loadU64 ms f) :=
  (loadField_keeps hI ms f).map

theorem loadI32_keeps (ms : HostPtr) (f : Field) : Keeps env I (loadI32 ms f) :=
  ((loadField_keeps hI ms f).bind fun _ => .pure).map

theorem copyToHost_keeps (dst : HostPtr) (src n : Nat) : Keeps env I (copyToHost dst src n) :=
  fun m hm => by
    rw [wp_copyToHost]
    split_ifs
    · exact hm
    · exact hI.push _ _ trivial hm

theorem sgxAllocOnUstack_keeps (size : Nat) : Keeps env I (sgxAllocOnUstack size) :=
  hI.alloc size 1

theorem allocMs_keeps (code : OcallCode) : Keeps env I (allocMs code) := .read (hI.alloc _ _)

theorem storeFields_keeps (ms : HostPtr) (fields : List (Field × Int)) :
    Keeps env I (storeFields ms fields) := by
  induction fields with
  | nil => exact .pure
  | cons fv rest ih =>
    exact (storeField_plain hI (f := fv.1) (v := .int fv.2) (by trivial)).bind fun _ => ih

/-- `sgx_reset_ustack(); return v;` -/
theorem Keeps.resetReturn {v : α} : Keeps env I (sgxResetUstack >>= fun _ => Pure.pure v) :=
  hI.reset.bind fun _ => .pure

theorem sgxCopyToUstack_keeps (ptr size : Nat) : Keeps env I (sgxCopyToUstack ptr size) := by
  unfold sgxCopyToUstack
  exact .read (.ite (fun _ => .pure) fun _ => .pure_bind ((sgxAllocOnUstack_keeps hI _).bind
    fun _ => .ite_bind (fun _ => copyToHost_keeps hI _ _ _) (fun _ => .pure) fun _ => .pure))

theorem queryBytes_keeps (src : HostPtr) (n : Nat) : Keeps env I (queryBytes (.loadBytes src n)) :=
  fun _ hm => hI.push _ _ trivial hm

theorem sgxCopyToEnclave_keeps (ptr maxsize : Nat) (uptr : HostPtr) (usize : Nat) :
    Keeps env I (sgxCopyToEnclave ptr maxsize uptr usize) := by
  unfold sgxCopyToEnclave
  exact .read (.ite (fun _ => (queryBytes_keeps hI _ _).bind fun _ =>
    (writeMem_keeps hI _ _ _).bind fun _ => .pure) fun _ => .pure)

theorem sgxCopyPtrToEnclave_keeps (ptr uptr size : Nat) :
    Keeps env I (sgxCopyPtrToEnclave ptr uptr size) := by
  unfold sgxCopyPtrToEnclave
  exact .read (.ite (fun _ => (writeMem_keeps hI _ _ _).bind fun _ => .pure) fun _ => .pure)

/-! ### `sgx_exitless_ocall` -/

theorem sgxOcall_keeps (code : OcallCode) (ms : HostPtr) : Keeps env I (sgxOcall code ms) :=
  fun _ hm => hI.push _ _ trivial hm

theorem spinlockCmpxchg_keeps (req : HostPtr) (expected desired : Int) :
    Keeps env I (spinlockCmpxchg req expected desired) := fun m hm => by
  rw [wp_spinlockCmpxchg]
  split_ifs <;> exact hI.push _ _ trivial hm

theorem rpcEnqueue_keeps (req : HostPtr) : Keeps env I (rpcEnqueue req) :=
  fun _ hm => (wp_rpcEnqueue req).2 (hI.push _ _ trivial hm)

theorem spinlockLockTimeout_keeps (req : HostPtr) (n : Nat) :
    Keeps env I (spinlockLockTimeout req n) := by
  induction n with
  | zero => exact .pure
  | succ n ih =>
    exact (spinlockCmpxchg_keeps hI _ _ _).bind fun _ => .ite (fun _ => .pure) fun _ => ih

theorem futexWaitLoop_keeps (req ms : HostPtr) (n : Nat) (c : Int) :
    Keeps env I (futexWaitLoop req ms n c) := by
  induction n generalizing c with
  | zero => exact .diverge
  | succ n ih =>
    unfold futexWaitLoop
    refine (Keeps.ite (fun _ => .pure) fun _ => (spinlockCmpxchg_keeps hI _ _ _).map).bind
      fun _ => ?_
    refine (Keeps.ite (fun _ => (storeField_plain hI (by trivial)).bind fun _ =>
      (sgxOcall_keeps hI _ _).bind fun _ => .pure) fun _ => .pure).bind fun _ =>
      .ite (fun _ => .pure) fun _ => ?_
    exact .pure_bind ((spinlockCmpxchg_keeps hI _ _ _).bind fun _ =>
      .ite (fun _ => .pure) fun _ => .pure_bind (ih _))

theorem exitlessWait_keeps (req : HostPtr) : Keeps env I (exitlessWait req) := by
  unfold exitlessWait
  refine .read ((spinlockLockTimeout_keeps hI _ _).bind fun _ => .ite (fun _ => ?_)
    fun _ => .pure_bind (loadI32_keeps hI _ _))
  refine (spinlockCmpxchg_keeps hI _ _ _).bind fun _ => .ite (fun _ => ?_)
    fun _ => .pure_bind (loadI32_keeps hI _ _)
  refine (hI.alloc _ _).bind fun _ => (storeField_plain hI (by trivial)).bind fun _ =>
    (storeField_plain hI (by trivial)).bind fun _ => (storeField_plain hI (by trivial)).bind
    fun _ => (futexWaitLoop_keeps hI _ _ _ _).bind fun o => ?_
  cases o
  · exact .pure_bind (loadI32_keeps hI _ _)
  · exact .pure

theorem sgxExitlessOcall_keeps (code : OcallCode) (ms : HostPtr) :
    Keeps env I (sgxExitlessOcall code ms) := by
  unfold sgxExitlessOcall
  refine .read (.ite (fun _ => (sgxOcall_keeps hI _ _).bind fun _ => .pure) fun _ => ?_)
  refine .pure_bind ((hI.alloc _ _).bind fun _ => (storeField_plain hI (by trivial)).bind fun _ =>
    (storeField_plain hI (by trivial)).bind fun _ => (storeField_plain hI (by trivial)).bind
    fun _ => (storeField_plain hI (by trivial)).bind fun _ =>
    (rpcEnqueue_keeps hI _).bind fun _ => ?_)
  exact .ite (fun _ => (sgxOcall_keeps hI _ _).bind fun _ => .pure) fun _ =>
    .pure_bind (exitlessWait_keeps hI _)

/-! ### The untrusted heap, copies out and the attestation blobs -/

theorem ocallMmapUntrusted_keeps (fd : Int) (offset size prot mem : Nat) :
    Keeps env I (ocallMmapUntrusted fd offset size prot mem) := by
  unfold ocallMmapUntrusted
  refine .read ((hI.alloc _ _).bind fun _ => .unless (.resetReturn hI) fun _ => ?_)
  refine (storeField_plain hI (by trivial)).bind fun _ => (storeField_plain hI (by trivial)).bind
    fun _ => (storeField_plain hI (by trivial)).bind fun _ =>
    (storeField_plain hI (by trivial)).bind fun _ =>
    (sgxExitlessOcall_keeps hI _ _).bind fun _ => ?_
  exact .ite (fun _ => (loadU64_keeps hI _ _).bind fun _ =>
    (sgxCopyPtrToEnclave_keeps hI _ _ _).bind fun _ => .unless (.resetReturn hI) fun _ =>
    .resetReturn hI) fun _ => .pure_bind (.resetReturn hI)

theorem ocallMunmapUntrusted_keeps (mem size : Nat) :
    Keeps env I (ocallMunmapUntrusted mem size) := by
  unfold ocallMunmapUntrusted
  refine .read (.unless (.resetReturn hI) fun _ => (hI.alloc _ _).bind fun _ =>
    .unless (.resetReturn hI) fun _ => ?_)
  exact (storeField_plain hI (by trivial)).bind fun _ => (storeField_plain hI (by trivial)).bind
    fun _ => (sgxExitlessOcall_keeps hI _ _).bind fun _ => .resetReturn hI

theorem copyWordsOut_keeps (ms : HostPtr) (f : Nat → Field) (dst n : Nat) :
    Keeps env I (copyWordsOut ms f dst n) := by
  unfold copyWordsOut
  induction List.range n with
  | nil => exact .pure
  | cons i is ih =>
    exact ((loadU32_keeps hI _ _).bind fun _ => writeMem_keeps hI _ _ _).bind fun _ => ih

theorem copyBlobIn_keeps (attestation : Nat) (f fLen : AttField) (nul : Bool) :
    Keeps env I (copyBlobIn attestation f fLen nul) := by
  unfold copyBlobIn
  refine .read ((readMem_keeps _ _).bind fun _ => .ite (fun _ => .pure) fun _ => .pure_bind ?_)
  exact (readMem_keeps _ _).bind fun _ => (malloc_keeps hI _).bind fun _ =>
    (readMem_keeps _ _).bind fun _ => (sgxCopyToEnclave_keeps hI _ _ _ _).bind fun _ =>
    (readMem_keeps _ _).bind fun _ => (ocallMunmapUntrusted_keeps hI _ _).bind fun _ =>
    .ite_bind (fun _ => writeMem_keeps hI _ _ _) (fun _ => .pure) fun _ =>
    (writeMem_keeps hI _ _ _).bind fun _ => .pure

theorem freeBlob_keeps (attestation : Nat) (f : AttField) :
    Keeps env I (freeBlob attestation f) := by
  unfold freeBlob
  exact .read ((readMem_keeps _ _).bind fun _ => .ite (fun _ => free_keeps hI _) fun _ => .pure)

/-- `sgx_reset_ustack()` and, for a heap buffer, `ocall_munmap_untrusted` at the end of a
wrapper with a heap fallback. -/
theorem Keeps.release {b : Prop} [Decidable b] {obuf size : Nat} {retval : Int} :
    Keeps env I (sgxResetUstack >>= fun _ => if b then ocallMunmapUntrusted obuf size >>= fun _ =>
      Pure.pure retval else Pure.pure () >>= fun _ => Pure.pure retval) :=
  hI.reset.bind fun _ => .unless ((ocallMunmapUntrusted_keeps hI _ _).bind fun _ => .pure)
    fun _ => .pure

theorem exitLoop_keeps (ms : HostPtr) (n : Nat) : Keeps env I (exitLoop ms n) := by
  induction n with
  | zero => exact .diverge
  | succ n ih => exact (sgxOcall_keeps hI _ _).bind fun _ => ih

theorem gettimeLoop_keeps (ms : HostPtr) (n : Nat) : Keeps env I (gettimeLoop ms n) := by
  induction n with
  | zero => exact .diverge
  | succ n ih =>
    exact (sgxExitlessOcall_keeps hI _ _).bind fun _ => .ite (fun _ => ih) fun _ => .pure

theorem copySockoptOut_keeps (ms : HostPtr) (sockopt : Nat) :
    Keeps env I (copySockoptOut ms sockopt) := by
  unfold copySockoptOut
  exact .read (.ite (fun _ => (loadFieldBytes_keeps hI _ _).bind fun _ => writeMem_keeps hI _ _ _)
    fun _ => .pure)

end Helpers

end EnclaveOcalls
