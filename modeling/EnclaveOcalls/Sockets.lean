import EnclaveOcalls.Files

/-!
# The socket OCALLs

`ocall_listen` and `ocall_accept` differ only in the scalars they store first; both are
`addrOcall`. `ocall_recv` and `ocall_send` have the heap fallback of `ocall_read` and
`ocall_write`, sized by the sum of the three buffer lengths computed in C's own types; their
code up to `out:` is `recvBody` and `sendBody`.
-/

namespace EnclaveOcalls

open OcallM

/-- `*sockopt = ms->ms_sockopt` when `sockopt` is not NULL. -/
def copySockoptOut (ms : HostPtr) (sockopt : Nat) : OcallM Unit := do
  let env ← read
  if sockopt ≠ 0 then
    let v ← loadFieldBytes ms .msSockopt
    writeMem sockopt env.layout.sockoptSize v

/-- `ocall_listen` and `ocall_accept`: store `fields`, then the address buffer `addr` of
`*addrlen` bytes (copied in and, on success, out again), then `*sockopt`. -/
def addrOcall (code : OcallCode) (fields : List (Field × Int)) (addr addrlen sockopt : Nat) :
    OcallM Int := do
  let len ← if addrlen ≠ 0 then readMem addrlen 4 else pure 0
  let ms ← allocMs code
  if ms.addr = 0 then
    sgxResetUstack
    return -EPERM
  storeFields ms fields
  storeField ms .msAddrlen (.int len)
  let a ← if addr ≠ 0 ∧ len ≠ 0 then sgxCopyToUstack addr len else pure .null
  storeField ms .msAddr (.ptr a)
  if addr ≠ 0 ∧ len ≠ 0 ∧ a.addr = 0 then
    sgxResetUstack
    return -EPERM
  let retval ← sgxExitlessOcall code ms
  if retval ≥ 0 then
    if addr ≠ 0 ∧ len ≠ 0 then
      let src ← loadU64 ms .msAddr
      let n ← loadU32 ms .msAddrlen
      let copied := (← sgxCopyToEnclave addr len ⟨src, none⟩ n) % 2 ^ 32
      if copied = 0 then
        sgxResetUstack
        return -EPERM
      writeMem addrlen 4 (leBytes copied)
    copySockoptOut ms sockopt
  sgxResetUstack
  return retval

/-- `ocall_socketpair(domain, type, protocol, sockfds)`. -/
def ocallSocketpair (domain type protocol : Int) (sockfds : Nat) : OcallM Int :=
  outputOcall .socketpair [(.msDomain, domain), (.msType, type), (.msProtocol, protocol)]
    fun ms => copyWordsOut ms .msSockfds sockfds 2

/-- `ocall_listen(domain, type, protocol, addr, addrlen, sockopt)`. -/
def ocallListen (domain type protocol : Int) (addr addrlen sockopt : Nat) : OcallM Int :=
  addrOcall .listen [(.msDomain, domain), (.msType, type), (.msProtocol, protocol)]
    addr addrlen sockopt

/-- `ocall_accept(sockfd, addr, addrlen, sockopt)`. -/
def ocallAccept (sockfd : Int) (addr addrlen sockopt : Nat) : OcallM Int :=
  addrOcall .accept [(.msSockfd, sockfd)] addr addrlen sockopt

/-- The first byte of the latest copy of enclave bytes into host memory. -/
def lastCopiedByte : List Entry → Nat
  | [] => 0
  | ⟨_, .storeBytes _ _ data⟩ :: _ => (data 0).toNat
  | _ :: rest => lastCopiedByte rest

/-- A host that answers every OCALL with the first byte the enclave last copied into host
memory, and whose `accept` leaves a one-byte peer address in host memory at `2 ^ 40`. -/
def echoHost : Host := ⟨fun
  | ⟨_, .ocall _ _⟩ :: rest => lastCopiedByte rest
  | ⟨_, .load _ .msAddr⟩ :: _ => 2 ^ 40
  | ⟨_, .load _ .msAddrlen⟩ :: _ => 1
  | _ => 0, fun _ _ => 0⟩

/-- Enclave memory with `*addrlen = 16` at `2 ^ 32` and the byte `b` first in the 16-byte
buffer `addr` at `2 ^ 32 + 8192`. -/
def acceptMem (b : UInt8) : Mem := fun a =>
  if a = 2 ^ 32 + 8192 then b else if a = 2 ^ 32 then 16 else 0

section
attribute [local semireducible] toI32

/-- `ocall_accept` copies its output buffer `addr` to the host (`sgx_copy_to_ustack`, where
`ocall_recv` only allocates): two runs whose enclave memories differ only in `addr[0]` return
that byte under a host that echoes it. -/
theorem ocallAccept_sends_addr_contents :
    (∀ a, a ≠ 2 ^ 32 + 8192 → acceptMem 0 a = acceptMem 0x5A a) ∧
    wp (ocallAccept 0 (2 ^ 32 + 8192) (2 ^ 32) 0) (sampleEnv echoHost false true)
      (sampleMachine (sampleEnv echoHost false true) (acceptMem 0))
      (fun r _ => r = 0) (fun _ => False) (fun _ => False) ∧
    wp (ocallAccept 0 (2 ^ 32 + 8192) (2 ^ 32) 0) (sampleEnv echoHost false true)
      (sampleMachine (sampleEnv echoHost false true) (acceptMem 0x5A))
      (fun r _ => r = 0x5A) (fun _ => False) (fun _ => False) :=
  ⟨fun _ h => by simp only [acceptMem, if_neg h], by decide, by decide⟩

end

/-- `ocall_connect(domain, type, protocol, addr, addrlen, bind_addr, bind_addrlen, sockopt)`. -/
def ocallConnect (domain type protocol : Int) (addr addrlen bindAddr bindAddrlen sockopt : Nat) :
    OcallM Int := do
  let bindLen ← if bindAddrlen ≠ 0 then readMem bindAddrlen 4 else pure 0
  let ms ← allocMs .connect
  if ms.addr = 0 then
    sgxResetUstack
    return -EPERM
  storeFields ms [(.msDomain, domain), (.msType, type), (.msProtocol, protocol),
    (.msAddrlen, addrlen), (.msBindAddrlen, bindLen)]
  let a ← if addr ≠ 0 then sgxCopyToUstack addr addrlen else pure .null
  storeField ms .msAddr (.ptr a)
  let b ← if bindAddr ≠ 0 then sgxCopyToUstack bindAddr bindLen else pure .null
  storeField ms .msBindAddr (.ptr b)
  if (addr ≠ 0 ∧ a.addr = 0) ∨ (bindAddr ≠ 0 ∧ b.addr = 0) then
    sgxResetUstack
    return -EPERM
  let retval ← sgxExitlessOcall .connect ms
  if retval ≥ 0 then
    if bindAddr ≠ 0 ∧ bindLen ≠ 0 then
      let src ← loadU64 ms .msBindAddr
      let n ← loadU32 ms .msBindAddrlen
      let copied := (← sgxCopyToEnclave bindAddr bindLen ⟨src, none⟩ n) % 2 ^ 32
      if copied = 0 then
        sgxResetUstack
        return -EPERM
      writeMem bindAddrlen 4 (leBytes copied)
    copySockoptOut ms sockopt
  sgxResetUstack
  return retval

/-- `count + addrlen + controllen` as C computes it: the first sum in `unsigned int`, the second
in `uint64_t`. -/
def ioTotal (count addrlen controllen : Nat) : Nat :=
  ((count + addrlen) % 2 ^ 32 + controllen) % addrSpace

/-- `ocall_recv` from the allocation of the argument struct to `out:`. -/
def recvBody (sockfd : Int) (buf count addr addrlenptr control controllenptr addrlen controllen
    obuf : Nat) : OcallM Int := do
  let ms ← allocMs .recv
  if ms.addr = 0 then return -EPERM
  storeFields ms [(.msSockfd, sockfd), (.msCount, count), (.msAddrlen, addrlen)]
  let a ← if addr ≠ 0 then sgxAllocOnUstack addrlen else pure .null
  storeField ms .msAddr (.ptr a)
  storeField ms .msControllen (.int controllen)
  let c ← if control ≠ 0 then sgxAllocOnUstack controllen else pure .null
  storeField ms .msControl (.ptr c)
  let msBuf ← if obuf ≠ 0 then pure ⟨obuf, none⟩ else sgxAllocOnUstack count
  storeField ms .msBuf (.ptr msBuf)
  if msBuf.addr = 0 ∨ (addr ≠ 0 ∧ a.addr = 0) then return -EPERM
  let retval ← sgxExitlessOcall .recv ms
  if retval ≥ 0 then
    if addr ≠ 0 ∧ addrlen ≠ 0 then
      let src ← loadU64 ms .msAddr
      let n ← loadU32 ms .msAddrlen
      let copied := (← sgxCopyToEnclave addr addrlen ⟨src, none⟩ n) % 2 ^ 32
      if copied = 0 then return -EPERM
      writeMem addrlenptr 4 (leBytes copied)
    if control ≠ 0 ∧ controllen ≠ 0 then
      let src ← loadU64 ms .msControl
      let n ← loadU64 ms .msControllen
      let copied := (← sgxCopyToEnclave control controllen ⟨src, none⟩ n) % 2 ^ 32
      if copied = 0 then return -EPERM
      writeMem controllenptr 8 (leBytes copied)
    if retval > 0 then
      let src ← loadU64 ms .msBuf
      let copied ← sgxCopyToEnclave buf count ⟨src, none⟩ (toU64 retval)
      if copied = 0 then return -EPERM
  return retval

/-- `ocall_recv(sockfd, buf, count, addr, addrlenptr, control, controllenptr)`. -/
def ocallRecv (sockfd : Int) (buf count addr addrlenptr control controllenptr : Nat) :
    OcallM Int := do
  let env ← read
  writeMem env.localSlot 8 (leBytes 0)
  let addrlen ← if addrlenptr ≠ 0 then readMem addrlenptr 4 else pure 0
  let controllen ← if controllenptr ≠ 0 then readMem controllenptr 8 else pure 0
  if ioTotal count addrlen controllen > maxUntrustedStackBuf then
    let retval ← ocallMmapUntrusted (-1) 0 (allocAlignup env.allocAlign count) protReadWrite
      env.localSlot
    if isErr retval then return retval
  let obuf ← readMem env.localSlot 8
  let retval ← recvBody sockfd buf count addr addrlenptr control controllenptr addrlen
    controllen obuf
  sgxResetUstack
  if obuf ≠ 0 then
    let _ ← ocallMunmapUntrusted obuf (allocAlignup env.allocAlign count)
  return retval

/-- A host that maps the heap-fallback buffer at `2 ^ 40`, answers every OCALL with `0` and
leaves a control message of `2 ^ 32 + 1` bytes, each `7`, at `2 ^ 35`. -/
def longControlHost : Host := ⟨fun
  | ⟨_, .load _ .msMem⟩ :: _ => 2 ^ 40
  | ⟨_, .load _ .msControl⟩ :: _ => 2 ^ 35
  | ⟨_, .load _ .msControllen⟩ :: _ => 2 ^ 32 + 1
  | _ => 0, fun _ _ => 7⟩

/-- Enclave memory with `*controllenptr = 2 ^ 32 + 1` at `3 * 2 ^ 32`. -/
def longControlMem : Mem := fun a =>
  if 3 * 2 ^ 32 ≤ a ∧ a < 3 * 2 ^ 32 + 8 then leBytes (2 ^ 32 + 1) (a - 3 * 2 ^ 32) else 0

section
attribute [local semireducible] toI32

/-- `ocall_recv` stores the `uint64_t` result of `sgx_copy_to_enclave` into the `unsigned int`
`copied`: with a control buffer of `2 ^ 32 + 1` bytes at `2 ^ 32 + 8192` it copies all of them
and reports `*controllenptr = 1`. -/
theorem ocallRecv_truncates_controllen :
    wp (ocallRecv 0 0 0 0 0 (2 ^ 32 + 8192) (3 * 2 ^ 32)) (sampleEnv longControlHost false true)
      (sampleMachine (sampleEnv longControlHost false true) longControlMem)
      (fun r m' => r = 0 ∧ m'.mem.load (3 * 2 ^ 32) 8 = 1 ∧ m'.mem (2 ^ 33 + 8192) = 7)
      (fun _ => False) (fun _ => False) := by
  decide

end

/-- A host that answers the `recv` OCALL with `4`, leaves a 2-byte peer address at `2 ^ 40` and
the received data at `2 ^ 41`, each byte `7`, and answers every other word with `0`. -/
def peerAddrHost : Host := ⟨fun
  | ⟨_, .ocall .recv _⟩ :: _ => 4
  | ⟨_, .load _ .msAddr⟩ :: _ => 2 ^ 40
  | ⟨_, .load _ .msAddrlen⟩ :: _ => 2
  | ⟨_, .load _ .msBuf⟩ :: _ => 2 ^ 41
  | _ => 0, fun _ _ => 7⟩

section
attribute [local semireducible] toI32 toU64

/-- A caller whose `addrlenptr` points into `buf[8, 12)`, with `*addrlenptr = 4`: `ocall_recv`
returns `4` and writes `*addrlenptr = 2`, a byte of `buf` beyond the `4` received. -/
theorem ocallRecv_rewrites_buf_through_addrlenptr :
    wp (ocallRecv 0 (2 ^ 32 + 8192) 16 (2 ^ 32 + 12288) (2 ^ 32 + 8200) 0 0)
      (sampleEnv peerAddrHost false true)
      (sampleMachine (sampleEnv peerAddrHost false true)
        fun a => if a = 2 ^ 32 + 8200 then 4 else 0)
      (fun r m' => r = 4 ∧ m'.mem (2 ^ 32 + 8200) = 2) (fun _ => False) (fun _ => False) := by
  decide

end

/-- `ocall_send` from the allocation of the argument struct to `out:`. -/
def sendBody (sockfd : Int) (buf count addr addrlen control controllen obuf : Nat) :
    OcallM Int := do
  let ms ← allocMs .send
  if ms.addr = 0 then return -EPERM
  storeFields ms [(.msSockfd, sockfd), (.msCount, count), (.msAddrlen, addrlen)]
  let a ← if addr ≠ 0 then sgxCopyToUstack addr addrlen else pure .null
  storeField ms .msAddr (.ptr a)
  storeField ms .msControllen (.int controllen)
  let c ← if control ≠ 0 then sgxCopyToUstack control controllen else pure .null
  storeField ms .msControl (.ptr c)
  let msBuf ← if obuf ≠ 0 then pure ⟨obuf, none⟩ else sgxCopyToUstack buf count
  storeField ms .msBuf (.ptr msBuf)
  if msBuf.addr = 0 ∨ (addr ≠ 0 ∧ a.addr = 0) then return -EPERM
  sgxExitlessOcall .send ms

/-- `ocall_send(sockfd, buf, count, addr, addrlen, control, controllen)`. -/
def ocallSend (sockfd : Int) (buf count addr addrlen control controllen : Nat) :
    OcallM Int := do
  let env ← read
  writeMem env.localSlot 8 (leBytes 0)
  if sgxIsCompletelyOutsideEnclave env.enclave buf count then
    writeMem env.localSlot 8 (leBytes buf)
  else if sgxIsCompletelyWithinEnclave env.enclave buf count then
    if ioTotal count addrlen controllen > maxUntrustedStackBuf then
      let retval ← ocallMmapUntrusted (-1) 0 (allocAlignup env.allocAlign count) protReadWrite
        env.localSlot
      if isErr retval then return retval
      let obuf ← readMem env.localSlot 8
      copyToHost ⟨obuf, none⟩ buf count
  else
    return -EPERM
  let obuf ← readMem env.localSlot 8
  let retval ← sendBody sockfd buf count addr addrlen control controllen obuf
  sgxResetUstack
  if obuf ≠ 0 ∧ obuf ≠ buf then
    let _ ← ocallMunmapUntrusted obuf (allocAlignup env.allocAlign count)
  return retval

/-- A host that answers the `send` OCALL with `42` and every other word with `0`. -/
def sendMarkHost : Host := ⟨fun | ⟨_, .ocall .send _⟩ :: _ => 42 | _ => 0, fun _ _ => 0⟩

section
attribute [local semireducible] toI32

/-- `ocall_send` with a 4-byte control buffer straddling the enclave's top dispatches the OCALL:
`sgx_copy_to_ustack` refuses the buffer and the wrapper stores the NULL it returned as
`ms_control` without checking it. -/
theorem ocallSend_dispatches_straddling_control :
    Straddles sampleEnclave (2 ^ 34 - 2) 4 ∧
    wp (ocallSend 0 (2 ^ 32) 4 0 0 (2 ^ 34 - 2) 4) (sampleEnv sendMarkHost false true)
      (sampleMachine (sampleEnv sendMarkHost false true) 0)
      (fun r _ => r = 42) (fun _ => False) (fun _ => False) :=
  ⟨⟨by decide, by decide⟩, by decide⟩

end

/-- `ocall_setsockopt(sockfd, level, optname, optval, optlen)`. -/
def ocallSetsockopt (sockfd level optname : Int) (optval optlen : Nat) : OcallM Int := do
  let ms ← allocMs .setsockopt
  if ms.addr = 0 then
    sgxResetUstack
    return -EPERM
  storeFields ms [(.msSockfd, sockfd), (.msLevel, level), (.msOptname, optname), (.msOptlen, 0)]
  storeField ms .msOptval (.ptr .null)
  if optval ≠ 0 ∧ optlen > 0 then
    storeField ms .msOptlen (.int optlen)
    let v ← sgxCopyToUstack optval optlen
    storeField ms .msOptval (.ptr v)
    if v.addr = 0 then
      sgxResetUstack
      return -EPERM
  let retval ← sgxExitlessOcall .setsockopt ms
  sgxResetUstack
  return retval

/-- `ocall_shutdown(sockfd, how)`. -/
def ocallShutdown (sockfd how : Int) : OcallM Int :=
  scalarOcall .shutdown [(.msSockfd, sockfd), (.msHow, how)]

end EnclaveOcalls
