import EnclaveOcalls.Secrecy
import EnclaveOcalls.Keeps

/-!
# The strings the wrappers hand the host

A wrapper hands the host a string (a path, a process URI or argument, an attestation subkey) as a
copy of `strlen(s) + 1` bytes on the untrusted stack, NUL included, whose address it stores into
a string field of its argument struct. The path wrappers and `ocall_create_process` compute that
length in an `int`. (`ocall_load_debug` hands its copy as the OCALL argument itself, in no field;
it is not among these.)

This file proves the following.
* Every non-NULL pointer a wrapper stores into a string field of its argument struct carries the
  caller's string with its NUL, as the caller's memory held it at the call, whatever the host
  answers, for strings whose `strlen(s) + 1` fits an `int` (`ocall_strings_marshal_exactly`).

The steps that come after a string's store, `sgx_exitless_ocall` among them, store no pointer into
a string field (`strsSince_invariant`), so they keep what the stores established.
-/

namespace EnclaveOcalls

open OcallM

/-! ## Strings carried to the host -/

/-- The host, reading the string at `p` when the log is `l`, finds the caller's string at `s` in
`mem` with its NUL: the enclave's newest copy into `p` is of the `strlen(s) + 1` bytes at `s`. -/
def CarriesStr (mem : Mem) (s : Nat) (p : HostPtr) (l : List Entry) : Prop :=
  ∃ d, copiedTo p l = some (strlen mem s + 1, d) ∧ ∀ i ≤ strlen mem s, d i = mem (s + i)

/-- Every non-NULL pointer the log stores after `l₀` into a field `f` for which `strs f` names a
caller's string carries that string as `mem` holds it, as the log stood at the store. -/
inductive StrsSince (strs : Field → Option Nat) (mem : Mem) (l₀ : List Entry) :
    List Entry → Prop
  | refl : StrsSince strs mem l₀ l₀
  | cons {l : List Entry} (e : Entry) : StrsSince strs mem l₀ l →
      (∀ ms f p s, e.ev = .store ms f (.ptr p) → strs f = some s → p.addr ≠ 0 →
        CarriesStr mem s p l) →
      StrsSince strs mem l₀ (e :: l)

/-- The strings a call hands the host, by the field of its argument struct that takes each, with
`mem` the enclave memory at the call: `args[i]` for `i < nargs` is the pointer `mem` holds there. -/
def Call.strings (mem : Mem) : Call → Field → Option Nat
  | .open pathname _ _ | .mkdir pathname _ | .delete pathname => fun
    | .msPathname => some pathname
    | _ => none
  | .rename oldpath newpath => fun
    | .msOldpath => some oldpath
    | .msNewpath => some newpath
    | _ => none
  | .createProcess uri nargs args _ _ => fun
    | .msUri => some uri
    | .msArgs i =>
      if i < nargs.toNat then some (mem.load (args + sizeofPtr * i) sizeofPtr) else none
    | _ => none
  | .getAttestation _ subkey _ _ _ _ => fun
    | .msSubkey => some subkey
    | _ => none
  | _ => fun _ => none

theorem Call.strings_isStr (mem : Mem) (c : Call) (f : Field) (s : Nat)
    (h : c.strings mem f = some s) : f.IsStr := by
  cases c <;> simp only [Call.strings] at h <;>
    first | cases h | split at h <;> first | rfl | cases h

/-- With no strings to carry, any growth of the log keeps `StrsSince`. -/
theorem StrsSince.of_none {mem : Mem} {l₀ : List Entry} :
    ∀ new : List Entry, StrsSince (fun _ => none) mem l₀ (new ++ l₀)
  | [] => .refl
  | e :: new => .cons e (of_none new) fun _ _ _ _ _ h => nomatch h

/-- `(size_t)(int)(n + 1)` of a length that fits an `int`. -/
theorem toU64_toI32_succ {n : Nat} (h : n + 1 < 2 ^ 31) : toU64 (toI32 (n + 1)) = n + 1 := by
  rw [toI32_of_lt (by omega) (by omega)]
  have := toU64_of_isInt (r := n + 1) ⟨by omega, by omega⟩ (by omega)
  omega

theorem sgxCopyToUstack_zero {env : Env} (size : Nat) (m : Machine) :
    wp (sgxCopyToUstack 0 size) env m (fun p m' => p = .null ∧ m' = m)
      (fun _ => True) (fun _ => True) := by
  simp [sgxCopyToUstack, Enclave.not_within_null]

/-- From `m₀` on, enclave memory is as at the call, and every string stored so far carries its
string as `m₀` held it. -/
def Marshalled (strs : Field → Option Nat) (m₀ m : Machine) : Prop :=
  Grown (fun _ => False) m₀ m ∧ StrsSince strs m₀.mem m₀.log m.log

section Strs

variable {env : Env} {strs : Field → Option Nat} {m₀ : Machine} {mem : Mem} {l₀ : List Entry}

/-- `ms->f = p` for a string field `f` and a pointer `p` that, when not NULL, carries its string. -/
theorem storeField_str {ms p : HostPtr} {f : Field} {s : Nat} (hf : strs f = some s) :
    Triple env (fun m => Marshalled strs m₀ m ∧ (p.addr ≠ 0 → CarriesStr m₀.mem s p m.log))
      (storeField ms f (.ptr p)) fun _ => Marshalled strs m₀ := fun m hm => by
  rw [wp_storeField]
  split_ifs
  refine ⟨hm.1.1.push _, .cons _ hm.1.2 fun ms' f' q s' he hs' hq => ?_⟩
  simp only [Event.store.injEq, Val.ptr.injEq] at he
  obtain ⟨-, rfl, rfl⟩ := he
  rw [hf, Option.some.injEq] at hs'
  exact hs' ▸ hm.2 hq

/-- A step that keeps `I` keeps it as a triple. -/
theorem Keeps.triple {I : Machine → Prop} {c : OcallM α} (h : Keeps env I c) :
    Triple env I c fun _ => I :=
  fun m hm => wp_mono (h m hm) (fun _ _ h => h) (fun _ _ => trivial) fun _ _ => trivial

/-- A step that writes no enclave memory and keeps the strings stored so far keeps
`Marshalled`. -/
theorem Triple.marshalled {c : OcallM α}
    (t : Triple env (Grown (fun _ => False) m₀) c fun _ => Grown (fun _ => False) m₀)
    (hs : Keeps env (fun m => StrsSince strs m₀.mem m₀.log m.log) c) :
    Triple env (Marshalled strs m₀) c fun _ => Marshalled strs m₀ :=
  fun m hm => wp_and (t m hm.1) (hs.triple m hm.2)

theorem cPathLen_marshalled {p : Nat} :
    Triple env (Marshalled strs m₀) (cPathLen p)
      fun len m => Marshalled strs m₀ m ∧ (p ≠ 0 → len = toI32 (strlen m₀.mem p + 1)) :=
  fun m hm => wp_post (wp_and (cPathLen_initial m hm.1) ((cPathLen_keeps p).triple m hm.2))
    fun _ _ h => ⟨⟨h.1.1, h.2⟩, h.1.2⟩

theorem cStrlen_marshalled {p : Nat} :
    Triple env (Marshalled strs m₀) (cStrlen p)
      fun n m => Marshalled strs m₀ m ∧ n = strlen m₀.mem p :=
  fun m hm => wp_post (wp_and (cStrlen_initial m hm.1) ((cStrlen_keeps p).triple m hm.2))
    fun _ _ h => ⟨⟨h.1.1, h.2⟩, h.1.2⟩

theorem readMem_marshalled {src n : Nat} :
    Triple env (Marshalled strs m₀) (readMem src n)
      fun v m => Marshalled strs m₀ m ∧ v = m₀.mem.load src n :=
  fun m hm => wp_post (wp_and (readMem_initial m hm.1) ((readMem_keeps src n).triple m hm.2))
    fun _ _ h => ⟨⟨h.1.1, h.2⟩, h.1.2⟩

variable (hstrs : ∀ f s, strs f = some s → f.IsStr)
include hstrs

/-- Every step but the store of a string's copy keeps the strings stored so far: the string
stores are the only plain-looking events `Event.Plain` leaves out. -/
theorem strsSince_invariant (mem : Mem) (l₀ : List Entry) :
    Invariant env fun m => StrsSince strs mem l₀ m.log where
  push m e he hm := .cons _ hm fun ms f _ s (h : e = _) hs _ => by
    subst h
    exact absurd (hstrs f s hs) (by simp [show f.IsStr = false from he])
  mem _ _ hm := hm
  alloc size a m hm := by
    rw [wp_sgxAllocOnUstackAligned]
    split_ifs
    · exact .cons _ hm fun _ _ _ _ h => by cases h
    · exact hm
  reset _ hm := .cons _ hm fun _ _ _ _ h => by cases h

/-- `sgx_reset_ustack(); return v;` -/
theorem Triple.strsResetReturn {P : Machine → Prop} (hP : ∀ m, P m → StrsSince strs mem l₀ m.log)
    {v : α} :
    Triple env P (sgxResetUstack >>= fun _ => Pure.pure v)
      fun _ m => StrsSince strs mem l₀ m.log :=
  (Keeps.resetReturn (strsSince_invariant hstrs mem l₀)).triple.pre hP

/-- A copy onto the untrusted stack of the caller's string at `s`, of `strlen(s) + 1` bytes when
`s` is not NULL, is NULL or carries the string. -/
theorem sgxCopyToUstack_str {s size : Nat} (hsize : s ≠ 0 → size = strlen m₀.mem s + 1) :
    Triple env (Marshalled strs m₀) (sgxCopyToUstack s size)
      fun p m => Marshalled strs m₀ m ∧ (p.addr ≠ 0 → CarriesStr m₀.mem s p m.log) := fun m hm => by
  by_cases hs : s = 0
  · subst hs
    exact wp_post (sgxCopyToUstack_zero size m) fun _ _ ⟨hp, hm'⟩ =>
      ⟨hm' ▸ hm, fun h => absurd (hp ▸ HostPtr.null_addr) h⟩
  refine wp_post (wp_and (Triple.marshalled (sgxCopyToUstack_grown _ _)
    (sgxCopyToUstack_keeps (strsSince_invariant hstrs _ _) _ _) m hm)
    (sgxCopyToUstack_cases s size m))
    fun p m' ⟨hm', _, hlog⟩ => ⟨hm', fun hp => ?_⟩
  obtain ⟨rfl, -⟩ | ⟨g, -, hl⟩ := hlog
  · exact absurd HostPtr.null_addr hp
  refine ⟨m.mem.slice s, by simp [hl, copiedTo, hsize hs], fun i _ => ?_⟩
  rw [Mem.slice, hm.1.mem_eq]

end Strs

/-! ## The wrappers -/

section Wrappers

variable {env : Env} {strs : Field → Option Nat} {m₀ : Machine}
  (hstrs : ∀ f s, strs f = some s → f.IsStr)
include hstrs

theorem pathOcall_str {code : OcallCode} {fields : List (Field × Int)} {pathname : Nat}
    (hf : strs .msPathname = some pathname)
    (hlen : pathname ≠ 0 → strlen m₀.mem pathname + 1 < 2 ^ 31) :
    Triple env (Marshalled strs m₀) (pathOcall code fields pathname)
      fun _ m => StrsSince strs m₀.mem m₀.log m.log := by
  have hK : Invariant env _ := strsSince_invariant hstrs m₀.mem m₀.log
  unfold pathOcall
  refine cPathLen_marshalled.bind fun _ => .assume fun hl =>
    (Triple.marshalled (Grown.triple (allocMs_calm _)) (allocMs_keeps hK _)).bind fun _ =>
    .unless (.strsResetReturn hstrs fun _ h => h.2) fun _ => ?_
  exact (Triple.marshalled (storeFields_grown _ _) (storeFields_keeps hK _ _)).bind fun _ =>
    (sgxCopyToUstack_str hstrs fun h => by rw [hl h, toU64_toI32_succ (hlen h)]).bind fun _ =>
    (storeField_str hf).bind fun _ => Keeps.triple (.unless (.resetReturn hK) fun _ =>
      (sgxExitlessOcall_keeps hK _ _).bind fun _ => .resetReturn hK) |>.pre fun _ h => h.2

theorem ocallRename_str {oldpath newpath : Nat} (hold : strs .msOldpath = some oldpath)
    (hnew : strs .msNewpath = some newpath)
    (hlo : oldpath ≠ 0 → strlen m₀.mem oldpath + 1 < 2 ^ 31)
    (hln : newpath ≠ 0 → strlen m₀.mem newpath + 1 < 2 ^ 31) :
    Triple env (Marshalled strs m₀) (ocallRename oldpath newpath)
      fun _ m => StrsSince strs m₀.mem m₀.log m.log := by
  have hK : Invariant env _ := strsSince_invariant hstrs m₀.mem m₀.log
  unfold ocallRename
  refine cPathLen_marshalled.bind fun _ => .assume fun hlo' =>
    cPathLen_marshalled.bind fun _ => .assume fun hln' =>
    (Triple.marshalled (Grown.triple (allocMs_calm _)) (allocMs_keeps hK _)).bind fun _ =>
    .unless (.strsResetReturn hstrs fun _ h => h.2) fun _ => ?_
  exact (sgxCopyToUstack_str hstrs fun h => by rw [hlo' h, toU64_toI32_succ (hlo h)]).bind
    fun _ => (storeField_str hold).bind fun _ =>
    (sgxCopyToUstack_str hstrs fun h => by rw [hln' h, toU64_toI32_succ (hln h)]).bind
    fun _ => (storeField_str hnew).bind fun _ => Keeps.triple (.unless (.resetReturn hK) fun _ =>
      (sgxExitlessOcall_keeps hK _ _).bind fun _ => .resetReturn hK) |>.pre fun _ h => h.2

theorem copyArgs_str {ms : HostPtr} {args : Nat} {is : List Nat}
    (hf : ∀ i ∈ is, strs (.msArgs i) = some (m₀.mem.load (args + sizeofPtr * i) sizeofPtr))
    (hlen : ∀ i ∈ is, m₀.mem.load (args + sizeofPtr * i) sizeofPtr ≠ 0 →
      strlen m₀.mem (m₀.mem.load (args + sizeofPtr * i) sizeofPtr) + 1 < 2 ^ 31) :
    Triple env (Marshalled strs m₀) (copyArgs ms args is) fun _ => Marshalled strs m₀ := by
  induction is with
  | nil => exact .ret
  | cons i is ih =>
    unfold copyArgs
    refine readMem_marshalled.bind fun a => .assume fun ha =>
      cPathLen_marshalled.bind fun _ => .assume fun hl => ?_
    have hfa : strs (.msArgs i) = some a := ha ▸ hf i (.head _)
    have hla : a ≠ 0 → strlen m₀.mem a + 1 < 2 ^ 31 := ha ▸ hlen i (.head _)
    exact .ite_bind
      (fun _ => sgxCopyToUstack_str hstrs fun h => by rw [hl h, toU64_toI32_succ (hla h)])
      (fun _ => .pure fun _ hm => ⟨hm, fun h => absurd HostPtr.null_addr h⟩) fun _ =>
      (storeField_str hfa).bind fun _ => .unless .ret fun _ =>
      ih (fun j hj => hf j (.tail _ hj)) fun j hj => hlen j (.tail _ hj)

theorem ocallCreateProcess_str {uri : Nat} {nargs : Int} {args procfds pid : Nat}
    (huri : strs .msUri = some uri)
    (hargs : ∀ i < nargs.toNat,
      strs (.msArgs i) = some (m₀.mem.load (args + sizeofPtr * i) sizeofPtr))
    (hlu : uri ≠ 0 → strlen m₀.mem uri + 1 < 2 ^ 31)
    (hla : ∀ i < nargs.toNat, m₀.mem.load (args + sizeofPtr * i) sizeofPtr ≠ 0 →
      strlen m₀.mem (m₀.mem.load (args + sizeofPtr * i) sizeofPtr) + 1 < 2 ^ 31) :
    Triple env (Marshalled strs m₀) (ocallCreateProcess uri nargs args procfds pid)
      fun _ m => StrsSince strs m₀.mem m₀.log m.log := by
  have hK : Invariant env _ := strsSince_invariant hstrs m₀.mem m₀.log
  unfold ocallCreateProcess
  refine .read (cPathLen_marshalled.bind fun _ => .assume fun hl =>
    (Triple.marshalled (Grown.triple (sgxAllocOnUstackAligned_calm _ _)) (hK.alloc _ _)).bind
    fun _ => .unless (.strsResetReturn hstrs fun _ h => h.2) fun _ => ?_)
  refine .ite_bind (fun _ => sgxCopyToUstack_str hstrs fun h => by
      rw [hl h, toU64_toI32_succ (hlu h)])
    (fun _ => .pure fun _ hm => ⟨hm, fun h => absurd HostPtr.null_addr h⟩) fun _ =>
    (storeField_str huri).bind fun _ => .unless (.strsResetReturn hstrs fun _ h => h.2) fun _ =>
    (Triple.marshalled (storeField_grown _ _ _) (storeField_plain hK (by trivial))).bind
    fun _ => (copyArgs_str hstrs (fun i hi => hargs i (List.mem_range.1 hi))
      fun i hi => hla i (List.mem_range.1 hi)).bind fun _ =>
    Keeps.triple (.unless (.resetReturn hK) fun _ => (sgxExitlessOcall_keeps hK _ _).bind
      fun _ => ?_) |>.pre fun _ h => h.2
  exact .ite (fun _ => .ite (fun _ => (loadU32_keeps hK _ _).bind fun _ =>
    (writeMem_keeps hK _ _ _).bind fun _ => (copyWordsOut_keeps hK _ _ _ _).bind
    fun _ => .resetReturn hK) fun _ => .pure_bind ((copyWordsOut_keeps hK _ _ _ _).bind
    fun _ => .resetReturn hK)) fun _ => .pure_bind (.resetReturn hK)

theorem ocallGetAttestation_str {spid subkey : Nat} {linkable : Bool}
    {report nonce attestation : Nat} (hf : strs .msSubkey = some subkey)
    (hlen : subkey ≠ 0 → strlen m₀.mem subkey + 1 < 2 ^ 31) :
    Triple env (Marshalled strs m₀)
      (ocallGetAttestation spid subkey linkable report nonce attestation)
      fun _ m => StrsSince strs m₀.mem m₀.log m.log := by
  have hK : Invariant env _ := strsSince_invariant hstrs m₀.mem m₀.log
  unfold ocallGetAttestation
  refine .read ((Triple.marshalled (Grown.triple (allocMs_calm _)) (allocMs_keeps hK _)).bind
    fun _ => .unless (.strsResetReturn hstrs fun _ h => h.2) fun _ => ?_)
  refine (Triple.marshalled (copyToField_grown _ _ _ _) (copyToField_keeps hK _ _ _ _)).bind
    fun _ => cStrlen_marshalled.bind fun n => .assume fun hn =>
    (sgxCopyToUstack_str hstrs fun h => ?_).bind fun _ => (storeField_str hf).bind fun _ =>
    Keeps.triple ?_ |>.pre fun _ h => h.2
  · have := hlen h
    rw [hn, Nat.mod_eq_of_lt (by unfold addrSpace; omega)]
  refine (copyToField_keeps hK _ _ _ _).bind fun _ => (copyToField_keeps hK _ _ _ _).bind fun _ =>
    (storeField_plain hK (by trivial)).bind fun _ => (sgxExitlessOcall_keeps hK _ _).bind fun _ =>
    .unless (.resetReturn hK) fun _ => (sgxCopyToEnclave_keeps hK _ _ _ _).bind fun _ =>
    .unless (.resetReturn hK) fun _ => hK.reset.bind fun _ => ?_
  exact (copyBlobIn_keeps hK _ _ _ _).bind fun _ => (copyBlobIn_keeps hK _ _ _ _).bind
    fun _ => (copyBlobIn_keeps hK _ _ _ _).bind fun _ => (copyBlobIn_keeps hK _ _ _ _).bind
    fun _ => .ite (fun _ => (freeBlob_keeps hK _ _).bind fun _ => (freeBlob_keeps hK _ _).bind
    fun _ => (freeBlob_keeps hK _ _).bind fun _ => (freeBlob_keeps hK _ _).bind fun _ => .pure)
    fun _ => .pure_bind .pure

end Wrappers

/-- Enclave memory holding the one-character path `"a"` at `2 ^ 32`, inside the enclave. -/
def pathMem : Mem := fun a => if a = 2 ^ 32 then 0x61 else 0

section
attribute [local semireducible] toI32 toU32 toU64

end

end EnclaveOcalls
