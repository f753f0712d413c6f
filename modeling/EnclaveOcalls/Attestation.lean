import EnclaveOcalls.Process

/-!
# `ocall_get_attestation`

The host returns an `sgx_attestation_t` whose four blobs (quote, IAS report, IAS signature, IAS
certificate chain) are host buffers. After copying the struct into `*attestation` the wrapper
resets the untrusted stack and, for each non-NULL blob, copies it into a fresh `malloc`ed
enclave buffer, unmaps the host blob and points the field at the copy. The four blocks differ
only in their fields and in whether the copy is a string (one more byte and a NUL at index
`len`); they are one definition, `copyBlobIn`. The header that lays out `sgx_attestation_t` is
not in the repository: the offsets of its fields are `Layout.attOffset`, each an 8-byte pointer or
`size_t`.
-/

namespace EnclaveOcalls

open OcallM

/-- One blob block of `ocall_get_attestation` for the pointer field `f` and its length field
`fLen`, with `nul` for the string blobs:
```
if (attestation->f) {
    size_t len = attestation->fLen;
    T* p = malloc(nul ? len + 1 : len);
    if (!sgx_copy_to_enclave(p, len, attestation->f, len)) retval = -EACCES;
    ocall_munmap_untrusted(attestation->f, ALLOC_ALIGNUP(len));
    if (nul) p[len] = 0;
    attestation->f = p;
}
```
The result says whether the copy failed. -/
def copyBlobIn (attestation : Nat) (f fLen : AttField) (nul : Bool) : OcallM Bool := do
  let env ← read
  let field := attestation + env.layout.attOffset f
  let blob ← readMem field sizeofPtr
  if blob = 0 then return false
  let len ← readMem (attestation + env.layout.attOffset fLen) 8
  let p ← malloc (if nul then (len + 1) % addrSpace else len)
  let src ← readMem field sizeofPtr
  let copied ← sgxCopyToEnclave p len ⟨src, none⟩ len
  let blob ← readMem field sizeofPtr
  let _ ← ocallMunmapUntrusted blob (allocAlignup env.allocAlign len)
  if nul then writeMem ((p + len) % addrSpace) 1 (leBytes 0)
  writeMem field sizeofPtr (leBytes p)
  return copied = 0

/-- `if (attestation->f) free(attestation->f);` -/
def freeBlob (attestation : Nat) (f : AttField) : OcallM Unit := do
  let env ← read
  let p ← readMem (attestation + env.layout.attOffset f) sizeofPtr
  if p ≠ 0 then free p

/-- `ocall_get_attestation(spid, subkey, linkable, report, nonce, attestation)`. -/
def ocallGetAttestation (spid subkey : Nat) (linkable : Bool) (report nonce attestation : Nat) :
    OcallM Int := do
  let env ← read
  let ms ← allocMs .getAttestation
  if ms.addr = 0 then
    sgxResetUstack
    return -EPERM
  copyToField ms .msSpid spid env.layout.spidSize
  let n ← cStrlen subkey
  let sk ← sgxCopyToUstack subkey ((n + 1) % addrSpace)
  storeField ms .msSubkey (.ptr sk)
  copyToField ms .msReport report env.layout.reportSize
  copyToField ms .msNonce nonce env.layout.nonceSize
  storeField ms .msLinkable (.int (if linkable then 1 else 0))
  let retval ← sgxExitlessOcall .getAttestation ms
  if retval < 0 then
    sgxResetUstack
    return retval
  let copied ← sgxCopyToEnclave attestation env.layout.attestationSize
    (ms.offset env.layout.attestationOffset) env.layout.attestationSize
  if copied = 0 then
    sgxResetUstack
    return -EACCES
  sgxResetUstack
  let quoteFailed ← copyBlobIn attestation .quote .quoteLen false
  let reportFailed ← copyBlobIn attestation .iasReport .iasReportLen true
  let sigFailed ← copyBlobIn attestation .iasSig .iasSigLen false
  let certsFailed ← copyBlobIn attestation .iasCerts .iasCertsLen true
  let retval := if quoteFailed ∨ reportFailed ∨ sigFailed ∨ certsFailed then -EACCES else retval
  if retval < 0 then
    freeBlob attestation .quote
    freeBlob attestation .iasReport
    freeBlob attestation .iasSig
    freeBlob attestation .iasCerts
  return retval

/-- A host that answers every OCALL with `0` and returns an `sgx_attestation_t` whose only blob
is an IAS report of `2 ^ 33` bytes at `2 ^ 40`. -/
def longReportHost : Host := ⟨fun _ => 0, fun _ i =>
  if 16 ≤ i ∧ i < 24 then leBytes (2 ^ 40) (i - 16)
  else if 24 ≤ i ∧ i < 32 then leBytes (2 ^ 33) (i - 24) else 0⟩

section
attribute [local semireducible] toI32

/-- With the enclave heap exhausted, `ocall_get_attestation` writes the NUL of
`ias_report[len] = 0` through the NULL that `malloc(len + 1)` returned, at the host-chosen
`len = 2 ^ 33`: an enclave byte outside `*attestation` at `2 ^ 32 + 8192` and outside every
buffer the wrapper allocated. -/
theorem ocallGetAttestation_writes_nul_at_report_len :
    wp (ocallGetAttestation (2 ^ 32) (2 ^ 32) false (2 ^ 32) (2 ^ 32) (2 ^ 32 + 8192))
      (sampleEnv longReportHost false true)
      (sampleMachine (sampleEnv longReportHost false true) fun a => if a = 2 ^ 33 then 0xFF else 0)
      (fun r m' => r = -EACCES ∧ m'.mem (2 ^ 33) = 0) (fun _ => False) (fun _ => False) := by
  decide

/-- A host that answers every OCALL with `0` and returns an `sgx_attestation_t` with two blobs: an
IAS report at `2 ^ 40` whose length is the address of `attestation->ias_sig` when
`attestation = 2 ^ 32 + 8192`, and an 8-byte IAS signature at `2 ^ 41 + 0xAB`. -/
def sigClobberHost : Host := ⟨fun _ => 0, fun _ i =>
  if 16 ≤ i ∧ i < 24 then leBytes (2 ^ 40) (i - 16)
  else if 24 ≤ i ∧ i < 32 then leBytes (2 ^ 32 + 8192 + 32) (i - 24)
  else if 32 ≤ i ∧ i < 40 then leBytes (2 ^ 41 + 0xAB) (i - 32)
  else if 40 ≤ i ∧ i < 48 then leBytes 8 (i - 40) else 0⟩

/-- With the enclave heap exhausted, the NUL of `ias_report[len] = 0` lands on the low byte of
`attestation->ias_sig`. The wrapper then reads back `2 ^ 41` for the signature blob and unmaps
that: the blob `2 ^ 41 + 0xAB` the host returned is never passed to `ocall_munmap_untrusted`. -/
theorem ocallGetAttestation_unmaps_clobbered_sig :
    wp (ocallGetAttestation (2 ^ 32) (2 ^ 32) false (2 ^ 32) (2 ^ 32) (2 ^ 32 + 8192))
      (sampleEnv sigClobberHost false true) (sampleMachine (sampleEnv sigClobberHost false true) 0)
      (fun r m' => r = -EACCES ∧ unmapped m'.log =
        [(some ⟨2 ^ 41, none⟩, some 4096), (some ⟨2 ^ 40, none⟩, some (2 ^ 32 + 12288))])
      (fun _ => False) (fun _ => False) := by
  decide

end

end EnclaveOcalls
