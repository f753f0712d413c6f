import EnclaveOcalls.Sockets

/-!
# Threads, processes, time, polling and the remaining OCALLs

`ocall_resume_thread` and `ocall_clone_thread` are bare `sgx_exitless_ocall`s, with no argument
struct and no `sgx_reset_ustack`. `ocall_gettime` retries on `-EINTR`, as often as the host
answers so, and runs on fuel; `ocall_sleep` exits the enclave directly.
-/

namespace EnclaveOcalls

open OcallM

/-- `ocall_resume_thread(tcs)`. -/
def ocallResumeThread (tcs : Nat) : OcallM Int := sgxExitlessOcall .resumeThread ⟨tcs, none⟩

/-- `ocall_clone_thread()`: the argument is a NULL `dummy`. -/
def ocallCloneThread : OcallM Int := sgxExitlessOcall .cloneThread .null

section
attribute [local semireducible] toI32

/-- With the RPC queue on, `ocall_resume_thread` returns with its request descriptor still
allocated: the untrusted-stack pointer is 64 bytes below the top it started at. -/
theorem ocallResumeThread_leaves_request_on_ustack :
    wp (ocallResumeThread 0) (sampleEnv promptHost true true)
      (sampleMachine (sampleEnv promptHost true true) 0)
      (fun r m' => r = 0 ∧ m'.ustack = 2 ^ 21 - 64) (fun _ => False) (fun _ => False) := by
  decide

end

/-- The loop `for (int i = 0; i < nargs; i++)` of `ocall_create_process` over the indices `is`:
`ms->ms_args[i]` is a copy of the string `args[i]`; `false` at the first one whose copy fails. -/
def copyArgs (ms : HostPtr) (args : Nat) : List Nat → OcallM Bool
  | [] => pure true
  | i :: is => do
    let a ← readMem (args + sizeofPtr * i) sizeofPtr
    let len ← cPathLen a
    let p ← if a ≠ 0 then sgxCopyToUstack a (toU64 len) else pure .null
    storeField ms (.msArgs i) (.ptr p)
    if a ≠ 0 ∧ p.addr = 0 then return false
    copyArgs ms args is

/-- `ocall_create_process(uri, nargs, args, procfds, pid)`. The argument struct ends in the
flexible array `ms_args`, so its size is `sizeof(*ms) + nargs * sizeof(char*)` in `size_t`. -/
def ocallCreateProcess (uri : Nat) (nargs : Int) (args procfds pid : Nat) : OcallM Int := do
  let env ← read
  let ulen ← cPathLen uri
  let ms ← sgxAllocOnUstackAligned
    ((env.layout.msSize .createProcess + toU64 nargs * sizeofPtr % addrSpace) % addrSpace)
    (env.layout.msAlign .createProcess)
  if ms.addr = 0 then
    sgxResetUstack
    return -EPERM
  let u ← if uri ≠ 0 then sgxCopyToUstack uri (toU64 ulen) else pure .null
  storeField ms .msUri (.ptr u)
  if uri ≠ 0 ∧ u.addr = 0 then
    sgxResetUstack
    return -EPERM
  storeField ms .msNargs (.int nargs)
  if !(← copyArgs ms args (List.range nargs.toNat)) then
    sgxResetUstack
    return -EPERM
  let retval ← sgxExitlessOcall .createProcess ms
  if retval = 0 then
    if pid ≠ 0 then
      let v ← loadU32 ms .msPid
      writeMem pid sizeofInt (leBytes v)
    copyWordsOut ms .msProcFds procfds 3
  sgxResetUstack
  return retval

/-- `ocall_futex(futex, op, val, timeout_us)`. -/
def ocallFutex (futex : Nat) (op val timeoutUs : Int) : OcallM Int := do
  let env ← read
  if !sgxIsCompletelyOutsideEnclave env.enclave futex sizeofInt then
    sgxResetUstack
    return -EINVAL
  let ms ← allocMs .futex
  if ms.addr = 0 then
    sgxResetUstack
    return -EPERM
  storeField ms .msFutex (.ptr ⟨futex, none⟩)
  storeFields ms [(.msOp, op), (.msVal, val), (.msTimeoutUs, timeoutUs)]
  let retval ← sgxExitlessOcall .futex ms
  sgxResetUstack
  return retval

/-- The `do { ... } while (retval == -EINTR)` loop of `ocall_gettime`, on fuel: the host can
answer `-EINTR` forever. -/
def gettimeLoop (ms : HostPtr) : Nat → OcallM Int
  | 0 => diverge
  | n + 1 => do
    let retval ← sgxExitlessOcall .gettime ms
    if retval = -EINTR then gettimeLoop ms n else return retval

/-- `ocall_gettime(microsec)`. -/
def ocallGettime (microsec : Nat) : OcallM Int := do
  let env ← read
  let ms ← allocMs .gettime
  if ms.addr = 0 then
    sgxResetUstack
    return -EPERM
  let retval ← gettimeLoop ms env.fuel
  if retval = 0 then
    let v ← loadU64 ms .msMicrosec
    writeMem microsec 8 (leBytes v)
  sgxResetUstack
  return retval

/-- `ocall_sleep(microsec)`: a direct `sgx_ocall`, never exitless. -/
def ocallSleep (microsec : Nat) : OcallM Int := do
  let ms ← allocMs .sleep
  if ms.addr = 0 then
    sgxResetUstack
    return -EPERM
  let t ← if microsec ≠ 0 then readMem microsec 8 else pure 0
  storeField ms .msMicrosec (.int t)
  let retval ← sgxOcall .sleep ms
  if microsec ≠ 0 then
    if retval = 0 then
      writeMem microsec 8 (leBytes 0)
    else if retval = -EINTR then
      let v ← loadU64 ms .msMicrosec
      writeMem microsec 8 (leBytes v)
  sgxResetUstack
  return retval

/-- `unsigned int nfds_bytes = nfds * sizeof(struct pollfd);`: the product in `size_t`, then
truncated to `unsigned int`. -/
def pollBytes (nfds : Int) : Nat := toU64 nfds * sizeofPollfd % addrSpace % 2 ^ 32

/-- `ocall_poll(fds, nfds, timeout_us)`. -/
def ocallPoll (fds : Nat) (nfds timeoutUs : Int) : OcallM Int := do
  let nfdsBytes := pollBytes nfds
  let ms ← allocMs .poll
  if ms.addr = 0 then
    sgxResetUstack
    return -EPERM
  storeFields ms [(.msNfds, nfds), (.msTimeoutUs, timeoutUs)]
  let f ← sgxCopyToUstack fds nfdsBytes
  storeField ms .msFds (.ptr f)
  if f.addr = 0 then
    sgxResetUstack
    return -EPERM
  let retval ← sgxExitlessOcall .poll ms
  if retval ≥ 0 then
    let src ← loadU64 ms .msFds
    let copied ← sgxCopyToEnclave fds nfdsBytes ⟨src, none⟩ nfdsBytes
    if copied = 0 then
      sgxResetUstack
      return -EPERM
  sgxResetUstack
  return retval

section
attribute [local semireducible] toI32 toU64

/-- With `nfds = 2 ^ 29` the product `nfds * sizeof(struct pollfd)` is `2 ^ 32`, which
`unsigned int nfds_bytes` wraps to `0`: `ocall_poll` dispatches the OCALL with `ms_nfds`
announcing `2 ^ 29` descriptors and `ms_fds` pointing to an untrusted-stack copy of none. -/
theorem ocallPoll_announces_unmarshalled_fds :
    wp (ocallPoll (2 ^ 32) (2 ^ 29) 0) (sampleEnv promptHost false true)
      (sampleMachine (sampleEnv promptHost false true) 0)
      (fun _ m' => bufferLengths .poll .msFds .msNfds m'.log = [(some (2 ^ 29), some 0)])
      (fun _ => False) (fun _ => False) := by
  decide

end

/-- `ocall_load_debug(command)`: `strlen(command)` with no NULL check, and the copied string
itself is the OCALL's argument. -/
def ocallLoadDebug (command : Nat) : OcallM Int := do
  let n ← cStrlen command
  let ms ← sgxCopyToUstack command (toU64 (toI32 (n + 1)))
  if ms.addr = 0 then
    sgxResetUstack
    return -EPERM
  let retval ← sgxExitlessOcall .loadDebug ms
  sgxResetUstack
  return retval

/-- `ocall_eventfd(initval, flags)`. -/
def ocallEventfd (initval : Nat) (flags : Int) : OcallM Int :=
  scalarOcall .eventfd [(.msInitval, initval), (.msFlags, flags)]

end EnclaveOcalls
