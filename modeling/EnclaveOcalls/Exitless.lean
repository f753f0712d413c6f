import EnclaveOcalls.Primitives

/-!
# `sgx_exitless_ocall`, `ocall_exit` and the untrusted heap

Every wrapper dispatches through `sgx_exitless_ocall` (lines 29–104). With no RPC queue it exits
the enclave (`sgx_ocall`). Otherwise it builds a request descriptor on the untrusted stack,
takes the request's lock, enqueues it, and waits for an RPC worker to release the lock: first
by spinning, then by the futex loop of *Futexes Are Tricky* (Mutex 2), each futex wait an
enclave exit. As seen from the enclave thread, every lock word, every futex result and the
request's result are whatever the host left in host memory; the protocol the honest worker
follows is the subject of `EnclaveOcalls.Lock`.

`ocall_mmap_untrusted` and `ocall_munmap_untrusted` are the wrappers the large-buffer paths of
the other wrappers call, so they are defined here too.
-/

namespace EnclaveOcalls

open OcallM

/-- `spinlock_init(&req->lock)`. -/
def spinlockInit (req : HostPtr) : OcallM Unit := storeField req .lock (.int spinlockUnlocked)

/-- Modelled from the spec: `spinlock_lock(&req->lock)` right after `spinlock_init`: the CAS to
LOCKED_NO_WAITERS, which "always succeeds (sole owner)". -/
def spinlockLock (req : HostPtr) : OcallM Unit :=
  storeField req .lock (.int spinlockLockedNoWaiters)

/-- The `do { ... } while (!spinlock_cmpxchg(&req->lock, &c, SPINLOCK_LOCKED_WITH_WAITERS))`
loop of `sgx_exitless_ocall` (lines 81–96), entered with `c` the lock value the failed CAS
saw and `ms` the futex arguments. `some r` is the loop's `return r`; `none` is its exit with the
lock taken. The host can keep the loop going forever, so it runs on fuel. -/
def futexWaitLoop (req ms : HostPtr) : Nat → Int → OcallM (Option Int)
  | 0, _ => diverge
  | fuel + 1, c => do
    let wait ← (if c = spinlockLockedWithWaiters then pure true
      else Prod.fst <$> spinlockCmpxchg req c spinlockLockedWithWaiters)
    let stop ← (if wait then do
        storeField ms .msVal (.int spinlockLockedWithWaiters)
        let ret ← sgxOcall .futex ms
        pure (decide (ret < 0 ∧ ret ≠ -EAGAIN))
      else pure false)
    if stop then return some (-EPERM)
    let r ← spinlockCmpxchg req spinlockUnlocked spinlockLockedWithWaiters
    if r.1 then return none
    futexWaitLoop req ms fuel r.2

/-- The wait of `sgx_exitless_ocall` for the RPC worker to finish the enqueued request `req`
(lines 56–103): spin on the request's lock, on a timeout fall back to the futex loop, then read
the result. -/
def exitlessWait (req : HostPtr) : OcallM Int := do
  let env ← read
  let timedout ← spinlockLockTimeout req env.spinTimeout
  if timedout then
    let r ← spinlockCmpxchg req spinlockUnlocked spinlockLockedNoWaiters
    if !r.1 then
      let fms ← sgxAllocOnUstackAligned (env.layout.msSize .futex) (env.layout.msAlign .futex)
      storeField fms .msFutex (.ptr (req.offset env.layout.lockOffset))
      storeField fms .msOp (.int futexWaitPrivate)
      storeField fms .msTimeoutUs (.int (-1))
      if let some ret ← futexWaitLoop req fms env.fuel r.2 then return ret
  loadI32 req .result

/-- `sgx_exitless_ocall(code, ms)`. -/
def sgxExitlessOcall (code : OcallCode) (ms : HostPtr) : OcallM Int := do
  let env ← read
  if !env.rpcQueue then return ← sgxOcall code ms
  let req ← sgxAllocOnUstackAligned env.layout.reqSize env.layout.reqAlign
  storeField req .ocallIndex (.code code)
  storeField req .buffer (.ptr ms)
  spinlockInit req
  spinlockLock req
  let req ← rpcEnqueue req
  if req.addr = 0 then return ← sgxOcall code ms
  exitlessWait req

/-- A host whose RPC queue takes every request and whose worker has finished it before the
enclave first looks: the first CAS on the request's lock finds it UNLOCKED, and every other word
the host answers is `0`. -/
def promptHost : Host := ⟨fun | ⟨_, .enqueue _⟩ :: _ => 1 | _ => 0, fun _ _ => 0⟩

/-- The `while (true) sgx_ocall(OCALL_EXIT, ms);` loop of `ocall_exit`, on fuel: it never
returns. -/
def exitLoop (ms : HostPtr) : Nat → OcallM Empty
  | 0 => diverge
  | n + 1 => do
    let _ ← sgxOcall .exit ms
    exitLoop ms n

/-- `ocall_exit(exitcode, is_exitgroup)`: `noreturn`, so its result type is empty. -/
def ocallExit (exitcode isExitgroup : Int) : OcallM Empty := do
  let env ← read
  let ms ← sgxAllocOnUstackAligned (env.layout.msSize .exit) (env.layout.msAlign .exit)
  storeField ms .msExitcode (.int exitcode)
  storeField ms .msIsExitgroup (.int isExitgroup)
  exitLoop ms env.fuel

/-- `ocall_mmap_untrusted(fd, offset, size, prot, mem)`. -/
def ocallMmapUntrusted (fd : Int) (offset size prot mem : Nat) : OcallM Int := do
  let env ← read
  let ms ← sgxAllocOnUstackAligned (env.layout.msSize .mmapUntrusted)
    (env.layout.msAlign .mmapUntrusted)
  if ms.addr = 0 then
    sgxResetUstack
    return -EPERM
  storeField ms .msFd (.int fd)
  storeField ms .msOffset (.int offset)
  storeField ms .msSize (.int size)
  storeField ms .msProt (.int prot)
  let retval ← sgxExitlessOcall .mmapUntrusted ms
  if retval = 0 then
    let msMem ← loadU64 ms .msMem
    if !(← sgxCopyPtrToEnclave mem msMem size) then
      sgxResetUstack
      return -EPERM
  sgxResetUstack
  return retval

/-- `ocall_munmap_untrusted(mem, size)`. -/
def ocallMunmapUntrusted (mem size : Nat) : OcallM Int := do
  let env ← read
  if !sgxIsCompletelyOutsideEnclave env.enclave mem size then
    sgxResetUstack
    return -EINVAL
  let ms ← sgxAllocOnUstackAligned (env.layout.msSize .munmapUntrusted)
    (env.layout.msAlign .munmapUntrusted)
  if ms.addr = 0 then
    sgxResetUstack
    return -EPERM
  storeField ms .msMem (.ptr ⟨mem, none⟩)
  storeField ms .msSize (.int size)
  let retval ← sgxExitlessOcall .munmapUntrusted ms
  sgxResetUstack
  return retval

/-- The `(ms_mem, ms_size)` of each `OCALL_MUNMAP_UNTRUSTED` exit in the log `l`, newest first. -/
def unmapped (l : List Entry) : List (Option HostPtr × Option Int) :=
  (exits .munmapUntrusted l).map fun (ms, l) =>
    ((storedVal ms .msMem l).bind Val.asPtr, (storedVal ms .msSize l).bind Val.asInt)

end EnclaveOcalls
