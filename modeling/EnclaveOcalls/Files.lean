import EnclaveOcalls.Exitless

/-!
# The file OCALLs

The wrappers of `enclave_ocalls.c` for files, in the file's order. Most of them are one of three
shapes, each a definition with parameters here, and each wrapper is that definition applied to
its own OCALL code and fields:

* `scalarOcall`: allocate the argument struct, store scalar fields, dispatch, reset
  (`ocall_close`, `ocall_fionread`, `ocall_fsetnonblock`, `ocall_fchmod`, `ocall_fsync`,
  `ocall_ftruncate`, `ocall_lseek`, and `ocall_shutdown` and `ocall_eventfd` later);
* `outputOcall`: the same, and on a zero result copy fixed-size output from the struct into the
  caller's object (`ocall_cpuid`, `ocall_fstat`, `ocall_socketpair`);
* `pathOcall`: the same with one path string copied to the untrusted stack (`ocall_open`,
  `ocall_mkdir`, `ocall_delete`).

`ocall_read` and `ocall_write` fall back to the untrusted heap for a buffer above
`MAX_UNTRUSTED_STACK_BUF`; their code between the fallback and the label `out:` is a definition
of its own (`readBody`, `writeBody`) whose every `goto out` is a `return`.
-/

namespace EnclaveOcalls

open OcallM

/-! ## The three shapes -/

/-- `ms->f = v` for each scalar field in order. -/
def storeFields (ms : HostPtr) : List (Field × Int) → OcallM Unit
  | [] => pure ()
  | (f, v) :: rest => do
    storeField ms f (.int v)
    storeFields ms rest

/-- `sgx_alloc_on_ustack_aligned(sizeof(*ms), alignof(*ms))` for the argument struct of `code`. -/
def allocMs (code : OcallCode) : OcallM HostPtr := do
  let env ← read
  sgxAllocOnUstackAligned (env.layout.msSize code) (env.layout.msAlign code)

/-- A wrapper that marshals only scalars. -/
def scalarOcall (code : OcallCode) (fields : List (Field × Int)) : OcallM Int := do
  let ms ← allocMs code
  if ms.addr = 0 then
    sgxResetUstack
    return -EPERM
  storeFields ms fields
  let retval ← sgxExitlessOcall code ms
  sgxResetUstack
  return retval

/-- `dst[i] = ms->f[i]` for `i < n`, each element a 4-byte word. -/
def copyWordsOut (ms : HostPtr) (f : Nat → Field) (dst n : Nat) : OcallM Unit :=
  (List.range n).forM fun i => do
    let v ← loadU32 ms (f i)
    writeMem (dst + sizeofInt * i) sizeofInt (leBytes v)

/-- A wrapper that marshals scalars and, when the OCALL returns `0`, copies fixed-size output
out of the argument struct with `copyOut`. -/
def outputOcall (code : OcallCode) (fields : List (Field × Int))
    (copyOut : HostPtr → OcallM Unit) : OcallM Int := do
  let ms ← allocMs code
  if ms.addr = 0 then
    sgxResetUstack
    return -EPERM
  storeFields ms fields
  let retval ← sgxExitlessOcall code ms
  if retval = 0 then copyOut ms
  sgxResetUstack
  return retval

/-- `int len = path ? strlen(path) + 1 : 0;` -/
def cPathLen (path : Nat) : OcallM Int :=
  if path = 0 then pure 0 else do
    let n ← cStrlen path
    return toI32 (n + 1)

/-- A wrapper that marshals scalars and the path string at `pathname`. -/
def pathOcall (code : OcallCode) (fields : List (Field × Int)) (pathname : Nat) :
    OcallM Int := do
  let len ← cPathLen pathname
  let ms ← allocMs code
  if ms.addr = 0 then
    sgxResetUstack
    return -EPERM
  storeFields ms fields
  let path ← sgxCopyToUstack pathname (toU64 len)
  storeField ms .msPathname (.ptr path)
  if path.addr = 0 then
    sgxResetUstack
    return -EPERM
  let retval ← sgxExitlessOcall code ms
  sgxResetUstack
  return retval

/-! ## The wrappers -/

/-- `ocall_cpuid(leaf, subleaf, values)`. -/
def ocallCpuid (leaf subleaf values : Nat) : OcallM Int :=
  outputOcall .cpuid [(.msLeaf, leaf), (.msSubleaf, subleaf)]
    fun ms => copyWordsOut ms .msValues values 4

/-- `ocall_open(pathname, flags, mode)`. -/
def ocallOpen (pathname : Nat) (flags : Int) (mode : Nat) : OcallM Int :=
  pathOcall .open [(.msFlags, flags), (.msMode, mode)] pathname

/-- `ocall_close(fd)`. -/
def ocallClose (fd : Int) : OcallM Int := scalarOcall .close [(.msFd, fd)]

/-- With the RPC queue on and untrusted-stack room for the argument struct only, `ocall_close`
faults: `sgx_exitless_ocall` does not check the allocation of its request descriptor and stores
`req->ocall_index` through NULL. -/
theorem ocallClose_stores_through_null_request :
    wp (ocallClose 0) (sampleEnv promptHost true false)
      (sampleMachine (sampleEnv promptHost true false) 0)
      (fun _ _ => False) (fun m' => m'.ustack = 2 ^ 21 - 64) (fun _ => False) := by decide

/-- `ocall_read` from the allocation of the argument struct to `out:`. -/
def readBody (fd : Int) (buf count obuf : Nat) : OcallM Int := do
  let ms ← allocMs .read
  if ms.addr = 0 then return -EPERM
  storeField ms .msFd (.int fd)
  storeField ms .msCount (.int count)
  let msBuf ← if obuf ≠ 0 then pure ⟨obuf, none⟩ else sgxAllocOnUstack count
  storeField ms .msBuf (.ptr msBuf)
  if msBuf.addr = 0 then return -EPERM
  let retval ← sgxExitlessOcall .read ms
  if retval > 0 then
    let src ← loadU64 ms .msBuf
    let copied ← sgxCopyToEnclave buf count ⟨src, none⟩ (toU64 retval)
    if copied = 0 then return -EPERM
  return retval

/-- `ocall_read(fd, buf, count)`. -/
def ocallRead (fd : Int) (buf count : Nat) : OcallM Int := do
  let env ← read
  writeMem env.localSlot 8 (leBytes 0)
  if count > maxUntrustedStackBuf then
    let retval ← ocallMmapUntrusted (-1) 0 (allocAlignup env.allocAlign count) protReadWrite
      env.localSlot
    if isErr retval then return retval
  let obuf ← readMem env.localSlot 8
  let retval ← readBody fd buf count obuf
  sgxResetUstack
  if obuf ≠ 0 then
    let _ ← ocallMunmapUntrusted obuf (allocAlignup env.allocAlign count)
  return retval

section
attribute [local semireducible] toI32

/-- The host maps the bulk buffer of a read of `2 ^ 19 + 1` bytes at NULL: the mapping OCALL
returns `0`, and `sgx_copy_ptr_to_enclave` accepts `ms_mem = NULL`, whose region lies outside the
enclave. `ocall_read` takes the NULL `obuf` for no mapping: it puts the buffer on the untrusted
stack, above `MAX_UNTRUSTED_STACK_BUF`, and never calls `ocall_munmap_untrusted`. -/
theorem ocallRead_never_unmaps_null_mapping :
    wp (ocallRead 0 (2 ^ 32) (2 ^ 19 + 1)) (sampleEnv promptHost false true)
      (sampleMachine (sampleEnv promptHost false true) 0)
      (fun r m' => r = 0 ∧ (exits .mmapUntrusted m'.log).length = 1 ∧ unmapped m'.log = [] ∧
        bufferLengths .read .msBuf .msCount m'.log = [(some (2 ^ 19 + 1), some (2 ^ 19 + 1))])
      (fun _ => False) (fun _ => False) := by
  decide

end

/-- `ocall_write` from the allocation of the argument struct to `out:`. -/
def writeBody (fd : Int) (buf count obuf : Nat) : OcallM Int := do
  let ms ← allocMs .write
  if ms.addr = 0 then return -EPERM
  storeField ms .msFd (.int fd)
  storeField ms .msCount (.int count)
  let msBuf ← if obuf ≠ 0 then pure ⟨obuf, none⟩ else sgxCopyToUstack buf count
  storeField ms .msBuf (.ptr msBuf)
  if msBuf.addr = 0 then return -EPERM
  sgxExitlessOcall .write ms

/-- `ocall_write(fd, buf, count)`. -/
def ocallWrite (fd : Int) (buf count : Nat) : OcallM Int := do
  let env ← read
  writeMem env.localSlot 8 (leBytes 0)
  if sgxIsCompletelyOutsideEnclave env.enclave buf count then
    writeMem env.localSlot 8 (leBytes buf)
  else if sgxIsCompletelyWithinEnclave env.enclave buf count then
    if count > maxUntrustedStackBuf then
      let retval ← ocallMmapUntrusted (-1) 0 (allocAlignup env.allocAlign count) protReadWrite
        env.localSlot
      if isErr retval then return retval
      let obuf ← readMem env.localSlot 8
      copyToHost ⟨obuf, none⟩ buf count
  else
    return -EPERM
  let obuf ← readMem env.localSlot 8
  let retval ← writeBody fd buf count obuf
  sgxResetUstack
  if obuf ≠ 0 ∧ obuf ≠ buf then
    let _ ← ocallMunmapUntrusted obuf (allocAlignup env.allocAlign count)
  return retval

/-- `ocall_fstat(fd, buf)`. -/
def ocallFstat (fd : Int) (buf : Nat) : OcallM Int :=
  outputOcall .fstat [(.msFd, fd)] fun ms => do
    let env ← read
    let stat ← loadFieldBytes ms .msStat
    writeMem buf env.layout.statSize stat

/-- `ocall_fionread(fd)`. -/
def ocallFionread (fd : Int) : OcallM Int := scalarOcall .fionread [(.msFd, fd)]

/-- `ocall_fsetnonblock(fd, nonblocking)`. -/
def ocallFsetnonblock (fd nonblocking : Int) : OcallM Int :=
  scalarOcall .fsetnonblock [(.msFd, fd), (.msNonblocking, nonblocking)]

/-- `ocall_fchmod(fd, mode)`. -/
def ocallFchmod (fd : Int) (mode : Nat) : OcallM Int :=
  scalarOcall .fchmod [(.msFd, fd), (.msMode, mode)]

/-- `ocall_fsync(fd)`. -/
def ocallFsync (fd : Int) : OcallM Int := scalarOcall .fsync [(.msFd, fd)]

/-- `ocall_ftruncate(fd, length)`. -/
def ocallFtruncate (fd : Int) (length : Nat) : OcallM Int :=
  scalarOcall .ftruncate [(.msFd, fd), (.msLength, length)]

/-- `ocall_lseek(fd, offset, whence)`. -/
def ocallLseek (fd : Int) (offset : Nat) (whence : Int) : OcallM Int :=
  scalarOcall .lseek [(.msFd, fd), (.msOffset, offset), (.msWhence, whence)]

/-- `ocall_mkdir(pathname, mode)`. -/
def ocallMkdir (pathname mode : Nat) : OcallM Int :=
  pathOcall .mkdir [(.msMode, mode)] pathname

/-- `ocall_getdents(fd, dirp, size)`. -/
def ocallGetdents (fd : Int) (dirp size : Nat) : OcallM Int := do
  let ms ← allocMs .getdents
  if ms.addr = 0 then
    sgxResetUstack
    return -EPERM
  storeField ms .msFd (.int fd)
  storeField ms .msSize (.int size)
  let d ← sgxAllocOnUstack size
  storeField ms .msDirp (.ptr d)
  if d.addr = 0 then
    sgxResetUstack
    return -EPERM
  let retval ← sgxExitlessOcall .getdents ms
  if retval > 0 then
    let src ← loadU64 ms .msDirp
    let copied ← sgxCopyToEnclave dirp size ⟨src, none⟩ (toU64 retval)
    if copied = 0 then
      sgxResetUstack
      return -EPERM
  sgxResetUstack
  return retval

/-- `ocall_rename(oldpath, newpath)`. -/
def ocallRename (oldpath newpath : Nat) : OcallM Int := do
  let oldlen ← cPathLen oldpath
  let newlen ← cPathLen newpath
  let ms ← allocMs .rename
  if ms.addr = 0 then
    sgxResetUstack
    return -EPERM
  let o ← sgxCopyToUstack oldpath (toU64 oldlen)
  storeField ms .msOldpath (.ptr o)
  let n ← sgxCopyToUstack newpath (toU64 newlen)
  storeField ms .msNewpath (.ptr n)
  if o.addr = 0 ∨ n.addr = 0 then
    sgxResetUstack
    return -EPERM
  let retval ← sgxExitlessOcall .rename ms
  sgxResetUstack
  return retval

/-- `ocall_delete(pathname)`. -/
def ocallDelete (pathname : Nat) : OcallM Int := pathOcall .delete [] pathname

end EnclaveOcalls
