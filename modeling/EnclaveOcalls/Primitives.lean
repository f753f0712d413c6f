import EnclaveOcalls.Logic

/-!
# The helpers the OCALL wrappers call

`enclave_ocalls.c` calls helpers it does not define: the untrusted-stack allocator
(`sgx_alloc_on_ustack*`, `sgx_copy_to_ustack`, `sgx_reset_ustack`), the boundary copies
(`sgx_copy_to_enclave`, `sgx_copy_ptr_to_enclave`), the enclave exit `sgx_ocall`, the lock of
`spinlock.h` and the queue of `rpcqueue.h`. Their files are not among the repository's files,
so each is modelled from the spec (§4.1 to §4.4, §6), and each gets one `wp_*` lemma saying
what it does, so that no later proof unfolds it.
-/

namespace EnclaveOcalls

open OcallM

/-- Modelled from the spec: `SPINLOCK_UNLOCKED`. -/
def spinlockUnlocked : Int := 0
/-- Modelled from the spec: `SPINLOCK_LOCKED_NO_WAITERS`. -/
def spinlockLockedNoWaiters : Int := 1
/-- Modelled from the spec: `SPINLOCK_LOCKED_WITH_WAITERS`. -/
def spinlockLockedWithWaiters : Int := 2

/-! ## Enclave-side memory -/

/-- A write of `n` bytes at `dst` through an enclave pointer. A write at NULL faults. -/
def writeMem (dst n : Nat) (data : Nat → UInt8) : OcallM Unit := fun _ m =>
  if dst = 0 then .fault m else .ok () { m.push (.write dst n) with mem := m.mem.copy dst n data }

/-- A little-endian read of `n` bytes at `src` through an enclave pointer. NULL faults. -/
def readMem (src n : Nat) : OcallM Nat := fun _ m =>
  if src = 0 then .fault m else .ok (m.mem.load src n) m

/-- `strlen(p)` on enclave memory. NULL faults. -/
def cStrlen (p : Nat) : OcallM Nat := fun _ m =>
  if p = 0 then .fault m else .ok (strlen m.mem p) m

/-- `malloc(size)` of the enclave heap. -/
def malloc (size : Nat) : OcallM Nat := fun env m =>
  .ok (env.malloc m.log size) (m.push (.malloc size (env.malloc m.log size)))

/-- `free(p)`. -/
def free (p : Nat) : OcallM Unit := emit (.free p)

/-! ## Host memory -/

/-- `ms->f = v` for a host struct. A NULL struct pointer faults. -/
def storeField (ms : HostPtr) (f : Field) (v : Val) : OcallM Unit := fun _ m =>
  if ms.addr = 0 then .fault m else .ok () (m.push (.store ms f v))

/-- `memcpy(&ms->f, src, n)`: `n` enclave bytes into a field of a host struct. A NULL struct or
source faults. -/
def copyToField (ms : HostPtr) (f : Field) (src n : Nat) : OcallM Unit := fun _ m =>
  if ms.addr = 0 ∨ src = 0 then .fault m
  else .ok () (m.push (.store ms f (.bytes n (m.mem.slice src))))

/-- A read of the host word `ms->f`: whatever the host left there. A NULL struct pointer
faults. -/
def loadField (ms : HostPtr) (f : Field) : OcallM Nat := fun env m =>
  if ms.addr = 0 then .fault m else query (.load ms f) env m

/-- A read of a struct-valued field `ms->f`: its bytes, whatever the host left there. -/
def loadFieldBytes (ms : HostPtr) (f : Field) : OcallM (Nat → UInt8) := fun env m =>
  if ms.addr = 0 then .fault m else queryBytes (.load ms f) env m

/-- A read of an `unsigned int` field. -/
def loadU32 (ms : HostPtr) (f : Field) : OcallM Nat := (· % 2 ^ 32) <$> loadField ms f

/-- A read of a `uint64_t`, `size_t` or pointer field. -/
def loadU64 (ms : HostPtr) (f : Field) : OcallM Nat := (· % addrSpace) <$> loadField ms f

/-- A read of an `int` field. -/
def loadI32 (ms : HostPtr) (f : Field) : OcallM Int := (toI32 ·) <$> loadField ms f

/-- `memcpy(dst, src, n)` from enclave memory into host memory. -/
def copyToHost (dst : HostPtr) (src n : Nat) : OcallM Unit := fun _ m =>
  if dst.addr = 0 then .fault m else .ok () (m.push (.storeBytes dst n (m.mem.slice src)))

/-! ## The untrusted stack -/

/-- Modelled from the spec: `sgx_alloc_on_ustack_aligned(size, alignment)` (`alloc_aligned`):
move the thread's untrusted-stack pointer down by `size` bytes and align it down; NULL, with
the pointer unchanged, if the remaining untrusted-stack space is insufficient. -/
def sgxAllocOnUstackAligned (size alignment : Nat) : OcallM HostPtr := fun env m =>
  if size ≤ m.ustack ∧ env.ustackBottom ≤ (m.ustack - size) / alignment * alignment then
    .ok ⟨(m.ustack - size) / alignment * alignment, some m.gen⟩
      ({ m with ustack := (m.ustack - size) / alignment * alignment }.push
        (.alloc ⟨(m.ustack - size) / alignment * alignment, some m.gen⟩ size))
  else .ok .null m

/-- Modelled from the spec: `sgx_alloc_on_ustack(size)` (`alloc`), with no alignment. -/
def sgxAllocOnUstack (size : Nat) : OcallM HostPtr := sgxAllocOnUstackAligned size 1

/-- Modelled from the spec: `sgx_copy_to_ustack(ptr, size)` (`copy_in_from_enclave`, the
checked copy to the host of §4.1): NULL unless `[ptr, ptr + size)` lies entirely inside the
enclave and the untrusted stack has room; otherwise the new copy on the untrusted stack. -/
def sgxCopyToUstack (ptr size : Nat) : OcallM HostPtr := do
  let env ← read
  if sgxIsCompletelyWithinEnclave env.enclave ptr size = false then return .null
  let uptr ← sgxAllocOnUstack size
  if uptr.addr ≠ 0 then copyToHost uptr ptr size
  return uptr

/-- Modelled from the spec: `sgx_reset_ustack()` (`reset`): the untrusted-stack pointer goes
back to the thread's saved top, which frees every allocation; a new generation starts. -/
def sgxResetUstack : OcallM Unit := fun env m =>
  .ok () { m.push .reset with ustack := env.ustackTop, gen := m.gen + 1 }

/-! ## Boundary copies -/

/-- Modelled from the spec: `sgx_copy_to_enclave(ptr, maxsize, uptr, usize)`
(`copy_to_enclave`): copy the `usize` host bytes at `uptr` to the enclave at `ptr` and return
`usize`; return `0` and copy nothing unless `usize ≤ maxsize`, `[ptr, ptr + usize)` is entirely
inside and `[uptr, uptr + usize)` entirely outside the enclave. -/
def sgxCopyToEnclave (ptr maxsize : Nat) (uptr : HostPtr) (usize : Nat) : OcallM Nat := do
  let env ← read
  if usize ≤ maxsize ∧ sgxIsCompletelyWithinEnclave env.enclave ptr usize = true ∧
      sgxIsCompletelyOutsideEnclave env.enclave uptr.addr usize = true then
    let data ← queryBytes (.loadBytes uptr usize)
    writeMem ptr usize data
    return usize
  else return 0

/-- Modelled from the spec: `sgx_copy_ptr_to_enclave(ptr, uptr, size)` (`copy_ptr_to_enclave`):
store the host pointer `uptr` into the enclave variable `*ptr` only after checking that
`[uptr, uptr + size)` lies entirely outside the enclave. -/
def sgxCopyPtrToEnclave (ptr uptr size : Nat) : OcallM Bool := do
  let env ← read
  if sgxIsCompletelyOutsideEnclave env.enclave uptr size = true then
    writeMem ptr 8 (leBytes uptr)
    return true
  else return false

/-! ## Leaving the enclave -/

/-- Modelled from the spec: `sgx_ocall(code, ms)` (`ocall`), the direct enclave-exit
primitive: the host serves the OCALL and returns an `int`. -/
def sgxOcall (code : OcallCode) (ms : HostPtr) : OcallM Int :=
  toI32 <$> query (.ocall code ms)

/-- Modelled from the spec: `rpc_enqueue(g_rpc_queue, req)`. The queue lives in host memory;
it returns `req` when it takes the request and NULL when it is full. -/
def rpcEnqueue (req : HostPtr) : OcallM HostPtr := do
  let w ← query (.enqueue req)
  return if w = 0 then .null else req

/-- Modelled from the spec: `spinlock_cmpxchg(&req->lock, &expected, desired)`, an atomic
compare-and-swap on the lock word of a request in host memory. The host answers the word's old
value; the swap happens iff it equals `expected`. Returns whether it did and the value
`expected` holds afterwards (the old value on failure). -/
def spinlockCmpxchg (req : HostPtr) (expected desired : Int) : OcallM (Bool × Int) := do
  let env ← read
  let old ← toI32 <$> query (.cas (req.offset env.layout.lockOffset) expected desired)
  return if old = expected then (true, expected) else (false, old)

/-- Modelled from the spec: `spinlock_lock_timeout(&req->lock, iterations)`: up to `iterations`
attempts to take the lock by a CAS from UNLOCKED to LOCKED_NO_WAITERS; `false` as soon as one
succeeds, `true` (timed out) when the last fails. -/
def spinlockLockTimeout (req : HostPtr) : Nat → OcallM Bool
  | 0 => return true
  | n + 1 => do
    let r ← spinlockCmpxchg req spinlockUnlocked spinlockLockedNoWaiters
    if r.1 then return false else spinlockLockTimeout req n

/-! ## What each helper does -/

section Wp

variable {env : Env} {m : Machine} {F D : Machine → Prop}

@[simp] theorem wp_writeMem {Q : Unit → Machine → Prop} (dst n : Nat) (data : Nat → UInt8) :
    wp (writeMem dst n data) env m Q F D ↔
      if dst = 0 then F m
      else Q () { m.push (.write dst n) with mem := m.mem.copy dst n data } := by
  by_cases h : dst = 0 <;> simp [writeMem, wp, h]

@[simp] theorem wp_readMem {Q : Nat → Machine → Prop} (src n : Nat) :
    wp (readMem src n) env m Q F D ↔ if src = 0 then F m else Q (m.mem.load src n) m := by
  by_cases h : src = 0 <;> simp [readMem, wp, h]

@[simp] theorem wp_cStrlen {Q : Nat → Machine → Prop} (p : Nat) :
    wp (cStrlen p) env m Q F D ↔ if p = 0 then F m else Q (strlen m.mem p) m := by
  by_cases h : p = 0 <;> simp [cStrlen, wp, h]

@[simp] theorem wp_malloc {Q : Nat → Machine → Prop} (size : Nat) :
    wp (malloc size) env m Q F D ↔
      Q (env.malloc m.log size) (m.push (.malloc size (env.malloc m.log size))) := Iff.rfl

@[simp] theorem wp_free {Q : Unit → Machine → Prop} (p : Nat) :
    wp (free p) env m Q F D ↔ Q () (m.push (.free p)) := Iff.rfl

@[simp] theorem wp_storeField {Q : Unit → Machine → Prop} (ms : HostPtr) (f : Field) (v : Val) :
    wp (storeField ms f v) env m Q F D ↔
      if ms.addr = 0 then F m else Q () (m.push (.store ms f v)) := by
  by_cases h : ms.addr = 0 <;> simp [storeField, wp, h]

@[simp] theorem wp_copyToField {Q : Unit → Machine → Prop} (ms : HostPtr) (f : Field)
    (src n : Nat) :
    wp (copyToField ms f src n) env m Q F D ↔
      if ms.addr = 0 ∨ src = 0 then F m
      else Q () (m.push (.store ms f (.bytes n (m.mem.slice src)))) := by
  unfold copyToField wp
  split_ifs <;> rfl

@[simp] theorem wp_loadField {Q : Nat → Machine → Prop} (ms : HostPtr) (f : Field) :
    wp (loadField ms f) env m Q F D ↔
      if ms.addr = 0 then F m
      else Q (env.host.word (m.push (.load ms f)).log) (m.push (.load ms f)) := by
  by_cases h : ms.addr = 0 <;> simp [loadField, wp, query, h]

@[simp] theorem wp_loadU32 {Q : Nat → Machine → Prop} (ms : HostPtr) (f : Field) :
    wp (loadU32 ms f) env m Q F D ↔
      if ms.addr = 0 then F m
      else Q (env.host.word (m.push (.load ms f)).log % 2 ^ 32) (m.push (.load ms f)) := by
  simp [loadU32]

@[simp] theorem wp_loadU64 {Q : Nat → Machine → Prop} (ms : HostPtr) (f : Field) :
    wp (loadU64 ms f) env m Q F D ↔
      if ms.addr = 0 then F m
      else Q (env.host.word (m.push (.load ms f)).log % addrSpace) (m.push (.load ms f)) := by
  simp [loadU64]

@[simp] theorem wp_loadI32 {Q : Int → Machine → Prop} (ms : HostPtr) (f : Field) :
    wp (loadI32 ms f) env m Q F D ↔
      if ms.addr = 0 then F m
      else Q (toI32 (env.host.word (m.push (.load ms f)).log)) (m.push (.load ms f)) := by
  simp [loadI32]

@[simp] theorem wp_loadFieldBytes {Q : (Nat → UInt8) → Machine → Prop} (ms : HostPtr)
    (f : Field) :
    wp (loadFieldBytes ms f) env m Q F D ↔
      if ms.addr = 0 then F m
      else Q (env.host.bytes (m.push (.load ms f)).log) (m.push (.load ms f)) := by
  by_cases h : ms.addr = 0 <;> simp [loadFieldBytes, wp, queryBytes, h]

@[simp] theorem wp_copyToHost {Q : Unit → Machine → Prop} (dst : HostPtr) (src n : Nat) :
    wp (copyToHost dst src n) env m Q F D ↔
      if dst.addr = 0 then F m else Q () (m.push (.storeBytes dst n (m.mem.slice src))) := by
  by_cases h : dst.addr = 0 <;> simp [copyToHost, wp, h]

@[simp] theorem wp_sgxAllocOnUstackAligned {Q : HostPtr → Machine → Prop} (size a : Nat) :
    wp (sgxAllocOnUstackAligned size a) env m Q F D ↔
      if size ≤ m.ustack ∧ env.ustackBottom ≤ (m.ustack - size) / a * a then
        Q ⟨(m.ustack - size) / a * a, some m.gen⟩
          ({ m with ustack := (m.ustack - size) / a * a }.push
            (.alloc ⟨(m.ustack - size) / a * a, some m.gen⟩ size))
      else Q .null m := by
  simp only [sgxAllocOnUstackAligned, wp]
  split_ifs <;> rfl

/-- An untrusted-stack allocation that succeeded is not NULL: it lies at or above the stack's
end. -/
theorem Env.alloc_ne_zero (env : Env) {a : Nat} (h : env.ustackBottom ≤ a) : a ≠ 0 :=
  Nat.pos_iff_ne_zero.1 (lt_of_lt_of_le env.bottom_pos h)

@[simp] theorem wp_sgxResetUstack {Q : Unit → Machine → Prop} :
    wp sgxResetUstack env m Q F D ↔
      Q () { m.push .reset with ustack := env.ustackTop, gen := m.gen + 1 } := Iff.rfl

@[simp] theorem wp_sgxOcall {Q : Int → Machine → Prop} (code : OcallCode) (ms : HostPtr) :
    wp (sgxOcall code ms) env m Q F D ↔
      Q (toI32 (env.host.word (m.push (.ocall code ms)).log)) (m.push (.ocall code ms)) := Iff.rfl

@[simp] theorem wp_spinlockCmpxchg {Q : Bool × Int → Machine → Prop} (req : HostPtr)
    (expected desired : Int) :
    wp (spinlockCmpxchg req expected desired) env m Q F D ↔
      if toI32 (env.host.word
          (m.push (.cas (req.offset env.layout.lockOffset) expected desired)).log) = expected
      then Q (true, expected) (m.push (.cas (req.offset env.layout.lockOffset) expected desired))
      else Q (false, toI32 (env.host.word
          (m.push (.cas (req.offset env.layout.lockOffset) expected desired)).log))
        (m.push (.cas (req.offset env.layout.lockOffset) expected desired)) := by
  simp only [spinlockCmpxchg, wp_bind, wp_read, wp_map, wp_query, wp_pure]
  split_ifs <;> rfl

@[simp] theorem wp_rpcEnqueue {Q : HostPtr → Machine → Prop} (req : HostPtr) :
    wp (rpcEnqueue req) env m Q F D ↔
      Q (if env.host.word (m.push (.enqueue req)).log = 0 then .null else req)
        (m.push (.enqueue req)) := by
  simp [rpcEnqueue]

end Wp

end EnclaveOcalls
