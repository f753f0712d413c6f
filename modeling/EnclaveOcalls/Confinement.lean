import EnclaveOcalls.Marshalling

/-!
# Where the wrappers write enclave memory

A wrapper writes enclave memory in three kinds of places: the caller's output objects
(`buf[0, count)` of `ocall_read`, `*buf` of `ocall_fstat`, `addr[0, *addrlen)` and `*addrlen` of
`ocall_accept`, ...), its own local `obuf`, and, in `ocall_get_attestation`, the buffers it
`malloc`s for the blobs. Every length the host returns is checked against a capacity the caller
passed before anything is copied into the enclave, so no answer of the host moves a write
elsewhere.

This file proves the following.
* Every wrapper but `ocall_get_attestation`, on every path and whatever the host answers, leaves
  enclave memory unchanged outside `Call.outputs`: the caller's output objects, each at the
  capacity the caller gave at the call, and the wrapper's `obuf` (`ocall_writes_only_outputs`).
  `ocall_get_attestation` is left out: the run in `EnclaveOcalls.Attestation` writes a NUL outside
  `*attestation` and outside every buffer it allocated.
* A capacity the wrapper reads from enclave memory is the one at the call: `ocall_listen`,
  `ocall_accept` and `ocall_connect` read `*addrlen` before they write anything, and the lengths
  `ocall_recv` reads after zeroing `obuf` are at most those the caller passed.

The program logic is `Triple` with the invariant `Grown W m₀` of `EnclaveOcalls.Marshalling`: the
log grew from the one at the call, and enclave memory outside `W` is as it was then.
-/

namespace EnclaveOcalls

open OcallM

/-! ## The program logic -/

section Grown

variable {env : Env} {W : Nat → Prop} {m₀ : Machine} {P : Machine → Prop}

/-- Consequence: weaken the postcondition. -/
theorem Triple.post {c : OcallM α} {Q Q' : α → Machine → Prop} (t : Triple env P c Q)
    (h : ∀ a m, Q a m → Q' a m) : Triple env P c Q' :=
  Spec.post t h

theorem Triple.ret {a : α} : Triple env P (Pure.pure a) fun _ => P := Spec.pure fun _ => id

theorem Triple.map {x : OcallM β} {f : β → α} (h : Triple env P x fun _ => P) :
    Triple env P (f <$> x) fun _ => P :=
  Spec.map h

/-- `if (b) { ...; return v; }` before the rest `k`. -/
theorem Triple.unless {b : Prop} [Decidable b] {x : OcallM α} {k : PUnit → OcallM α}
    {Q : α → Machine → Prop} (hx : Triple env P x Q) (hk : ¬b → Triple env P (k ()) Q) :
    Triple env P (if b then x else Pure.pure () >>= k) Q :=
  Spec.unless hx hk

theorem cStrlen_triple (p : Nat) : Triple env P (cStrlen p) fun _ => P := fun m hm => by
  rw [wp_cStrlen]
  split_ifs
  exact hm

theorem cPathLen_triple (path : Nat) : Triple env P (cPathLen path) fun _ => P :=
  .ite (fun _ => .ret) fun _ => (cStrlen_triple path).bind fun _ => .ret

/-- Memory as at the call. -/
theorem Grown.mem_eq {m : Machine} (h : Grown (fun _ => False) m₀ m) : m.mem = m₀.mem :=
  funext fun a => h.2 a id

theorem Grown.widen {m : Machine} (h : Grown (fun _ => False) m₀ m) : Grown W m₀ m :=
  ⟨h.1, fun a _ => h.2 a id⟩

/-- A wrapper started from its caller's memory. -/
theorem Triple.widen {c : OcallM α} (t : Triple env (Grown W m₀) c fun _ => Grown W m₀) :
    Triple env (Grown (fun _ => False) m₀) c fun _ => Grown W m₀ :=
  .pre (fun _ h => h.widen) t

theorem Grown.calm_keeps {m m' : Machine} (h : Grown W m₀ m)
    (hw : ∀ a, ¬False → m'.mem a = m.mem a) (hl : CalmSince ⊤ m.log m'.log) : Grown W m₀ m' :=
  ⟨h.1.trans hl.suffix, fun a ha => (hw a id).trans (h.2 a ha)⟩

/-- `sgx_reset_ustack(); return v;` -/
theorem Triple.resetReturn {v : α} :
    Triple env (Grown W m₀) (sgxResetUstack >>= fun _ => Pure.pure v) fun _ => Grown W m₀ :=
  (Grown.triple sgxResetUstack_calm).bind fun _ => .ret

/-! ### The helpers -/

theorem writeMem_grown {dst n : Nat} {data : Nat → UInt8}
    (hW : ∀ a, dst ≤ a → a < dst + n → W a) :
    Triple env (Grown W m₀) (writeMem dst n data) fun _ => Grown W m₀ :=
  Grown.calm_in (writeMem_calm hW) fun _ => id

theorem sgxCopyToEnclave_grown {ptr maxsize : Nat} (uptr : HostPtr) (usize : Nat)
    (hW : ∀ a, ptr ≤ a → a < ptr + maxsize → W a) :
    Triple env (Grown W m₀) (sgxCopyToEnclave ptr maxsize uptr usize) fun _ => Grown W m₀ :=
  Grown.calm_in (sgxCopyToEnclave_calm uptr usize hW) fun _ => id

theorem copyToHost_grown (dst : HostPtr) (src n : Nat) :
    Triple env (Grown W m₀) (copyToHost dst src n) fun _ => Grown W m₀ := fun m hm => by
  rw [wp_copyToHost]
  split_ifs
  exact hm.push _

theorem copyToField_grown (ms : HostPtr) (f : Field) (src n : Nat) :
    Triple env (Grown W m₀) (copyToField ms f src n) fun _ => Grown W m₀ := fun m hm => by
  rw [wp_copyToField]
  split_ifs
  exact hm.push _

theorem loadFieldBytes_grown (ms : HostPtr) (f : Field) :
    Triple env (Grown W m₀) (loadFieldBytes ms f) fun _ => Grown W m₀ := fun m hm => by
  rw [wp_loadFieldBytes]
  split_ifs
  exact hm.push _

theorem sgxCopyToUstack_grown (ptr size : Nat) :
    Triple env (Grown W m₀) (sgxCopyToUstack ptr size) fun _ => Grown W m₀ := by
  unfold sgxCopyToUstack
  exact .read (.ite (fun _ => .ret) fun _ => .pure_bind <|
    (Grown.triple (sgxAllocOnUstack_calm size)).bind fun _ =>
    .ite_bind (fun _ => copyToHost_grown _ _ _) (fun _ => .ret) fun _ => .ret)

/-- `dst[i] = ms->f[i]` for `i < n` writes only `dst[0, n)` of 4-byte words. -/
theorem copyWordsOut_grown (ms : HostPtr) (f : Nat → Field) (dst n : Nat)
    (hW : ∀ a, dst ≤ a → a < dst + sizeofInt * n → W a) :
    Triple env (Grown W m₀) (copyWordsOut ms f dst n) fun _ => Grown W m₀ := by
  unfold copyWordsOut
  have hin : ∀ i ∈ List.range n, i < n := fun _ => List.mem_range.1
  generalize List.range n = is at hin ⊢
  induction is with
  | nil => exact .ret
  | cons i is ih =>
    have hi := hin i (.head _)
    simp only [List.forM]
    refine ((Grown.triple (loadU32_calm _ _)).bind fun _ => writeMem_grown fun a h₁ h₂ =>
      hW a (by omega) ?_).bind fun _ => ih fun j hj => hin j (.tail _ hj)
    unfold sizeofInt at h₂ ⊢
    omega

/-- A copy-back that fills `buf[0, r)` for a result `r` of at most `count` writes only inside
`buf[0, count)`. -/
theorem Fills.grown {code : OcallCode} {buf count : Nat} {r : Int} {m : Machine}
    (h : Fills env W code buf m₀ r m)
    (hr : 0 ≤ r → r ≤ count) (hW : ∀ a, buf ≤ a → a < buf + count → W a) : Grown W m₀ m :=
  ⟨h.1, fun a ha => h.2.2 a ha fun hpos => by
    have := hr hpos.le
    by_contra hc
    exact ha (hW a (by omega) (by omega))⟩

/-- `len = p ? *p : 0` before the wrapper writes anything: the capacity the caller passed. -/
theorem readLen_value {p n : Nat} (hp : p ≠ 0) :
    Triple env (Grown (fun _ => False) m₀) (readMem p n)
      fun len m => Grown (fun _ => False) m₀ m ∧ len = lenAt m₀.mem p n :=
  (readMem_value p n).post fun _ _ h => ⟨h.1, by rw [h.2, h.1.mem_eq, lenAt, if_pos hp]⟩

theorem noLen_value {p n : Nat} (hp : ¬p ≠ 0) :
    Triple env (Grown (fun _ => False) m₀) (Pure.pure 0)
      fun len m => Grown (fun _ => False) m₀ m ∧ len = lenAt m₀.mem p n :=
  .pure fun _ h => ⟨h, by rw [lenAt, if_neg hp]⟩

end Grown

/-! ## The wrappers -/

section Wrappers

variable {env : Env} {W : Nat → Prop} {m₀ : Machine}

theorem scalarOcall_confined (code : OcallCode) (fields : List (Field × Int)) :
    Triple env (Grown W m₀) (scalarOcall code fields) fun _ => Grown W m₀ := by
  unfold scalarOcall
  exact (Grown.triple (allocMs_calm code)).bind fun ms => .unless .resetReturn fun _ =>
    (storeFields_grown ms fields).bind fun _ =>
    (sgxExitlessOcall_grown code ms).bind fun _ => .resetReturn

theorem outputOcall_confined (code : OcallCode) (fields : List (Field × Int))
    (copyOut : HostPtr → OcallM Unit)
    (hc : ∀ ms, Triple env (Grown W m₀) (copyOut ms) fun _ => Grown W m₀) :
    Triple env (Grown W m₀) (outputOcall code fields copyOut) fun _ => Grown W m₀ := by
  unfold outputOcall
  exact (Grown.triple (allocMs_calm code)).bind fun ms => .unless .resetReturn fun _ =>
    (storeFields_grown ms fields).bind fun _ =>
    (sgxExitlessOcall_grown code ms).bind fun _ =>
    .ite_bind (fun _ => hc ms) (fun _ => .ret) fun _ => .resetReturn

theorem pathOcall_confined (code : OcallCode) (fields : List (Field × Int)) (pathname : Nat) :
    Triple env (Grown W m₀) (pathOcall code fields pathname) fun _ => Grown W m₀ := by
  unfold pathOcall
  exact (cPathLen_triple _).bind fun _ => (Grown.triple (allocMs_calm code)).bind fun ms =>
    .unless .resetReturn fun _ => (storeFields_grown ms fields).bind fun _ =>
    (sgxCopyToUstack_grown _ _).bind fun _ => (storeField_grown _ _ _).bind fun _ =>
    .unless .resetReturn fun _ => (sgxExitlessOcall_grown code ms).bind
    fun _ => .resetReturn

theorem ocallMmapUntrusted_grown (fd : Int) (offset size prot : Nat) {mem : Nat}
    (hW : ∀ a, mem ≤ a → a < mem + 8 → W a) :
    Triple env (Grown W m₀) (ocallMmapUntrusted fd offset size prot mem) fun _ => Grown W m₀ :=
  Grown.calm_in (ocallMmapUntrusted_calm fd offset size prot hW (fun _ => trivial) fun _ => trivial)
    fun _ => id

/-! ### The file OCALLs -/

/-- `ocall_read` writes only its local `obuf` and `buf[0, count)`. -/
theorem ocallRead_confined (fd : Int) (buf count : Nat)
    (hslot : ∀ a, env.localSlot ≤ a → a < env.localSlot + 8 → W a)
    (hbuf : ∀ a, buf ≤ a → a < buf + count → W a) :
    Triple env (Grown W m₀) (ocallRead fd buf count) fun _ => Grown W m₀ := by
  unfold ocallRead
  refine .read ((writeMem_grown hslot).bind fun _ => ?_)
  lift_lets
  intro rest
  have hrest : Triple env (Grown W m₀) (rest ()) fun _ => Grown W m₀ :=
    (readMem_triple _ _).bind fun obuf => Triple.bind
      (((readBody_fills fd count obuf).returns (readBody_le_count fd buf count obuf)).post
        fun _ _ h => h.1.grown h.2 hbuf)
      fun _ => .release (fun _ _ => Grown.calm_keeps) (fun _ => trivial) (fun _ => trivial)
        fun _ => id
  exact .ite (fun _ => (ocallMmapUntrusted_grown _ _ _ _ hslot).bind fun _ =>
    .ite (fun _ => .ret) fun _ => .pure_bind hrest) fun _ => .pure_bind hrest

theorem writeBody_confined (fd : Int) (buf count obuf : Nat) :
    Triple env (Grown W m₀) (writeBody fd buf count obuf) fun _ => Grown W m₀ := by
  unfold writeBody
  exact (Grown.triple (allocMs_calm _)).bind fun ms => .unless .ret fun _ =>
    (storeField_grown _ _ _).bind fun _ => (storeField_grown _ _ _).bind fun _ =>
    .ite_bind (fun _ => .ret) (fun _ => sgxCopyToUstack_grown _ _) fun _ =>
    (storeField_grown _ _ _).bind fun _ => .unless .ret fun _ =>
    sgxExitlessOcall_grown _ _

/-- `ocall_write` writes only its local `obuf`. -/
theorem ocallWrite_confined (fd : Int) (buf count : Nat)
    (hslot : ∀ a, env.localSlot ≤ a → a < env.localSlot + 8 → W a) :
    Triple env (Grown W m₀) (ocallWrite fd buf count) fun _ => Grown W m₀ := by
  unfold ocallWrite
  refine .read ((writeMem_grown hslot).bind fun _ => ?_)
  lift_lets
  intro rest copyIn
  have hrest : Triple env (Grown W m₀) (rest ()) fun _ => Grown W m₀ :=
    (readMem_triple _ _).bind fun _ => (writeBody_confined _ _ _ _).bind fun _ =>
      .release (fun _ _ => Grown.calm_keeps) (fun _ => trivial) (fun _ => trivial) fun _ => id
  have hcopy : Triple env (Grown W m₀) (copyIn ()) fun _ => Grown W m₀ :=
    (readMem_triple _ _).bind fun _ => (copyToHost_grown _ _ _).bind fun _ => hrest
  exact .ite (fun _ => (writeMem_grown hslot).bind fun _ => hrest)
    fun _ => .ite (fun _ => .ite (fun _ => (ocallMmapUntrusted_grown _ _ _ _ hslot).bind fun _ =>
      .ite (fun _ => .ret) fun _ => .pure_bind hcopy) fun _ => .pure_bind hrest) fun _ => .ret

theorem ocallGetdents_confined (fd : Int) (dirp size : Nat)
    (hW : ∀ a, dirp ≤ a → a < dirp + size → W a) :
    Triple env (Grown W m₀) (ocallGetdents fd dirp size) fun _ => Grown W m₀ := by
  unfold ocallGetdents
  refine (Grown.triple (allocMs_calm _)).bind fun ms => .unless .resetReturn fun _ =>
    (storeField_grown _ _ _).bind fun _ => (storeField_grown _ _ _).bind fun _ =>
    (Grown.triple (sgxAllocOnUstack_calm _)).bind fun _ => (storeField_grown _ _ _).bind
    fun _ => .unless .resetReturn fun _ => ?_
  exact (sgxExitlessOcall_grown _ _).bind fun _ => .ite (fun _ =>
    (Grown.triple (loadU64_calm _ _)).bind fun _ => (sgxCopyToEnclave_grown _ _ hW).bind
    fun _ => .unless .resetReturn fun _ => .resetReturn) fun _ => .pure_bind .resetReturn

theorem ocallRename_confined (oldpath newpath : Nat) :
    Triple env (Grown W m₀) (ocallRename oldpath newpath) fun _ => Grown W m₀ := by
  unfold ocallRename
  exact (cPathLen_triple _).bind fun _ => (cPathLen_triple _).bind fun _ =>
    (Grown.triple (allocMs_calm _)).bind fun ms => .unless .resetReturn fun _ =>
    (sgxCopyToUstack_grown _ _).bind fun _ => (storeField_grown _ _ _).bind fun _ =>
    (sgxCopyToUstack_grown _ _).bind fun _ => (storeField_grown _ _ _).bind fun _ =>
    .unless .resetReturn fun _ => (sgxExitlessOcall_grown _ _).bind
    fun _ => .resetReturn

/-! ### The socket OCALLs -/

/-- The bytes `ocall_listen`, `ocall_accept` and `ocall_connect` may write, with `mem` the enclave
memory at the call: the address buffer at the capacity in `*addrlen`, `*addrlen`, and
`*sockopt`. -/
def addrOut (env : Env) (mem : Mem) (addr addrlen sockopt a : Nat) : Prop :=
  addr ≤ a ∧ a < addr + lenAt mem addrlen 4 ∨ addrlen ≤ a ∧ a < addrlen + 4 ∨
    sockopt ≤ a ∧ a < sockopt + env.layout.sockoptSize

theorem copySockoptOut_confined (ms : HostPtr) (sockopt : Nat)
    (hW : ∀ a, sockopt ≤ a → a < sockopt + env.layout.sockoptSize → W a) :
    Triple env (Grown W m₀) (copySockoptOut ms sockopt) fun _ => Grown W m₀ := by
  unfold copySockoptOut
  exact .read (.ite (fun _ => (loadFieldBytes_grown _ _).bind fun _ => writeMem_grown hW)
    fun _ => .ret)

/-- `ocall_listen` and `ocall_accept` write only the address buffer at the capacity `*addrlen`
held at the call, `*addrlen` and `*sockopt`. -/
theorem addrOcall_confined (code : OcallCode) (fields : List (Field × Int))
    (addr addrlen sockopt : Nat) (hW : ∀ a, addrOut env m₀.mem addr addrlen sockopt a → W a) :
    Triple env (Grown (fun _ => False) m₀) (addrOcall code fields addr addrlen sockopt)
      fun _ => Grown W m₀ := by
  unfold addrOcall
  refine .ite_bind readLen_value noLen_value fun len => .assume fun hlen => Triple.widen ?_
  refine (Grown.triple (allocMs_calm code)).bind fun ms => .unless .resetReturn fun _ =>
    (storeFields_grown _ _).bind fun _ => (storeField_grown _ _ _).bind fun _ =>
    .ite_bind (fun _ => sgxCopyToUstack_grown _ _) (fun _ => .ret) fun _ =>
    (storeField_grown _ _ _).bind fun _ => .unless .resetReturn fun _ =>
    (sgxExitlessOcall_grown code ms).bind fun retval => ?_
  lift_lets
  intro done sockoptOut
  have hsockopt : Triple env (Grown W m₀) (sockoptOut ()) fun _ => Grown W m₀ :=
    (copySockoptOut_confined _ _ fun a h₁ h₂ => hW a (.inr (.inr ⟨h₁, h₂⟩))).bind
      fun _ => .resetReturn
  exact .ite (fun _ => .ite (fun _ => (Grown.triple (loadU64_calm _ _)).bind fun _ =>
    (Grown.triple (loadU32_calm _ _)).bind fun _ =>
    (sgxCopyToEnclave_grown _ _ fun a h₁ h₂ => hW a (.inl ⟨h₁, by omega⟩)).bind fun _ =>
    .unless .resetReturn fun _ =>
    (writeMem_grown fun a h₁ h₂ => hW a (.inr (.inl ⟨h₁, h₂⟩))).bind fun _ => hsockopt)
    fun _ => .pure_bind hsockopt) fun _ => .pure_bind .resetReturn

/-- `ocall_connect` writes only `bind_addr` at the capacity `*bind_addrlen` held at the call,
`*bind_addrlen` and `*sockopt`. -/
theorem ocallConnect_confined (domain type protocol : Int)
    (addr addrlen bindAddr bindAddrlen sockopt : Nat)
    (hW : ∀ a, addrOut env m₀.mem bindAddr bindAddrlen sockopt a → W a) :
    Triple env (Grown (fun _ => False) m₀)
      (ocallConnect domain type protocol addr addrlen bindAddr bindAddrlen sockopt)
      fun _ => Grown W m₀ := by
  unfold ocallConnect
  refine .ite_bind readLen_value noLen_value fun bindLen => .assume fun hlen => Triple.widen ?_
  refine (Grown.triple (allocMs_calm _)).bind fun ms => .unless .resetReturn fun _ =>
    (storeFields_grown _ _).bind fun _ =>
    .ite_bind (fun _ => sgxCopyToUstack_grown _ _) (fun _ => .ret) fun _ =>
    (storeField_grown _ _ _).bind fun _ =>
    .ite_bind (fun _ => sgxCopyToUstack_grown _ _) (fun _ => .ret) fun _ =>
    (storeField_grown _ _ _).bind fun _ => .unless .resetReturn fun _ =>
    (sgxExitlessOcall_grown _ ms).bind fun retval => ?_
  lift_lets
  intro done sockoptOut
  have hsockopt : Triple env (Grown W m₀) (sockoptOut ()) fun _ => Grown W m₀ :=
    (copySockoptOut_confined _ _ fun a h₁ h₂ => hW a (.inr (.inr ⟨h₁, h₂⟩))).bind
      fun _ => .resetReturn
  exact .ite (fun _ => .ite (fun _ => (Grown.triple (loadU64_calm _ _)).bind fun _ =>
    (Grown.triple (loadU32_calm _ _)).bind fun _ =>
    (sgxCopyToEnclave_grown _ _ fun a h₁ h₂ => hW a (.inl ⟨h₁, by omega⟩)).bind fun _ =>
    .unless .resetReturn fun _ =>
    (writeMem_grown fun a h₁ h₂ => hW a (.inr (.inl ⟨h₁, h₂⟩))).bind fun _ => hsockopt)
    fun _ => .pure_bind hsockopt) fun _ => .pure_bind .resetReturn

/-- `ocall_recv` writes only its local `obuf`, `buf[0, count)` and its other output objects at the
capacities `*addrlenptr` and `*controllenptr` held at the call. -/
theorem ocallRecv_confined (sockfd : Int) (buf count addr addrlenptr control controllenptr : Nat)
    (hW : ∀ a, (env.localSlot ≤ a ∧ a < env.localSlot + 8) ∨ (buf ≤ a ∧ a < buf + count) ∨
      recvOut addr addrlenptr control controllenptr (lenAt m₀.mem addrlenptr 4)
        (lenAt m₀.mem controllenptr 8) a → W a) :
    Triple env (Grown (fun _ => False) m₀)
      (ocallRecv sockfd buf count addr addrlenptr control controllenptr) fun _ => Grown W m₀ := by
  -- the wrapper zeroes its local `obuf`, which can only lower the lengths it then reads
  let Zeroed (m : Machine) : Prop :=
    m₀.log <:+ m.log ∧ m.mem = m₀.mem.copy env.localSlot 8 (leBytes 0)
  have hgrown : ∀ m, Zeroed m → Grown W m₀ m := fun m hm => ⟨hm.1, fun a ha => by
    rw [hm.2, Mem.copy_outside]
    by_contra h
    exact ha (hW a (.inl (by omega)))⟩
  unfold ocallRecv
  refine .read (Triple.bind (R := fun _ => Zeroed) (fun m hm => ?_) fun _ => ?_)
  · rw [wp_writeMem]
    split_ifs
    exact ⟨hm.1.trans (List.suffix_cons _ _), by rw [hm.mem_eq]⟩
  refine .ite_bind (readMem_le_lenAt fun _ hm => hm.2)
    (fun _ => .pure fun _ hm => ⟨hm, Nat.zero_le _⟩) fun addrlen =>
    .ite_bind (readMem_le_lenAt fun _ hm => hm.1.2) (fun _ => .pure fun _ hm => ⟨hm, Nat.zero_le _⟩)
    fun controllen => .assume fun hC => .assume fun hA => .pre hgrown ?_
  beta_reduce
  lift_lets
  intro rest
  have hrest : Triple env (Grown W m₀) (rest ()) fun _ => Grown W m₀ :=
    (readMem_triple _ _).bind fun obuf => Triple.bind
      (((recvBody_fills sockfd count addr addrlenptr control controllenptr addrlen controllen obuf
        fun a h => hW a (.inr (.inr (recvOut_mono hA hC h)))).returns
        (recvBody_le_count _ _ _ _ _ _ _ _ _ _)).post
        fun _ _ h => h.1.grown h.2 fun a h₁ h₂ => hW a (.inr (.inl ⟨h₁, h₂⟩)))
      fun _ => .release (fun _ _ => Grown.calm_keeps) (fun _ => trivial) (fun _ => trivial)
        fun _ => id
  exact .ite (fun _ => (ocallMmapUntrusted_grown _ _ _ _ fun a h₁ h₂ => hW a (.inl ⟨h₁, h₂⟩)).bind
    fun _ => .ite (fun _ => .ret) fun _ => .pure_bind hrest) fun _ => .pure_bind hrest

theorem sendBody_confined (sockfd : Int) (buf count addr addrlen control controllen obuf : Nat) :
    Triple env (Grown W m₀) (sendBody sockfd buf count addr addrlen control controllen obuf)
      fun _ => Grown W m₀ := by
  unfold sendBody
  exact (Grown.triple (allocMs_calm _)).bind fun ms => .unless .ret fun _ =>
    (storeFields_grown _ _).bind fun _ =>
    .ite_bind (fun _ => sgxCopyToUstack_grown _ _) (fun _ => .ret) fun _ =>
    (storeField_grown _ _ _).bind fun _ => (storeField_grown _ _ _).bind fun _ =>
    .ite_bind (fun _ => sgxCopyToUstack_grown _ _) (fun _ => .ret) fun _ =>
    (storeField_grown _ _ _).bind fun _ =>
    .ite_bind (fun _ => .ret) (fun _ => sgxCopyToUstack_grown _ _) fun _ =>
    (storeField_grown _ _ _).bind fun _ => .unless .ret fun _ =>
    sgxExitlessOcall_grown _ _

/-- `ocall_send` writes only its local `obuf`. -/
theorem ocallSend_confined (sockfd : Int) (buf count addr addrlen control controllen : Nat)
    (hslot : ∀ a, env.localSlot ≤ a → a < env.localSlot + 8 → W a) :
    Triple env (Grown W m₀) (ocallSend sockfd buf count addr addrlen control controllen)
      fun _ => Grown W m₀ := by
  unfold ocallSend
  refine .read ((writeMem_grown hslot).bind fun _ => ?_)
  lift_lets
  intro rest copyIn
  have hrest : Triple env (Grown W m₀) (rest ()) fun _ => Grown W m₀ :=
    (readMem_triple _ _).bind fun _ => (sendBody_confined _ _ _ _ _ _ _ _).bind fun _ =>
      .release (fun _ _ => Grown.calm_keeps) (fun _ => trivial) (fun _ => trivial) fun _ => id
  have hcopy : Triple env (Grown W m₀) (copyIn ()) fun _ => Grown W m₀ :=
    (readMem_triple _ _).bind fun _ => (copyToHost_grown _ _ _).bind fun _ => hrest
  exact .ite (fun _ => (writeMem_grown hslot).bind fun _ => hrest)
    fun _ => .ite (fun _ => .ite (fun _ => (ocallMmapUntrusted_grown _ _ _ _ hslot).bind fun _ =>
      .ite (fun _ => .ret) fun _ => .pure_bind hcopy) fun _ => .pure_bind hrest) fun _ => .ret

theorem ocallSetsockopt_confined (sockfd level optname : Int) (optval optlen : Nat) :
    Triple env (Grown W m₀) (ocallSetsockopt sockfd level optname optval optlen)
      fun _ => Grown W m₀ := by
  unfold ocallSetsockopt
  refine (Grown.triple (allocMs_calm _)).bind fun ms => .unless .resetReturn fun _ =>
    (storeFields_grown _ _).bind fun _ => (storeField_grown _ _ _).bind fun _ => ?_
  lift_lets
  intro dispatch
  have hdispatch : Triple env (Grown W m₀) (dispatch ()) fun _ => Grown W m₀ :=
    (sgxExitlessOcall_grown _ ms).bind fun _ => .resetReturn
  exact .ite (fun _ => (storeField_grown _ _ _).bind fun _ => (sgxCopyToUstack_grown _ _).bind
    fun _ => (storeField_grown _ _ _).bind fun _ => .unless .resetReturn fun _ => hdispatch)
    fun _ => .pure_bind hdispatch

/-! ### Processes, time, polling and the rest -/

theorem copyArgs_confined (ms : HostPtr) (args : Nat) (is : List Nat) :
    Triple env (Grown W m₀) (copyArgs ms args is) fun _ => Grown W m₀ := by
  induction is with
  | nil => exact .ret
  | cons i is ih =>
    unfold copyArgs
    exact (readMem_triple _ _).bind fun _ => (cPathLen_triple _).bind fun _ =>
      .ite_bind (fun _ => sgxCopyToUstack_grown _ _) (fun _ => .ret) fun _ =>
      (storeField_grown _ _ _).bind fun _ => .unless .ret fun _ => ih

/-- `ocall_create_process` writes only `*pid` and `procfds[0, 3)`. -/
theorem ocallCreateProcess_confined (uri : Nat) (nargs : Int) (args procfds pid : Nat)
    (hfds : ∀ a, procfds ≤ a → a < procfds + sizeofInt * 3 → W a)
    (hpid : ∀ a, pid ≤ a → a < pid + sizeofInt → W a) :
    Triple env (Grown W m₀) (ocallCreateProcess uri nargs args procfds pid)
      fun _ => Grown W m₀ := by
  unfold ocallCreateProcess
  refine .read ((cPathLen_triple _).bind fun _ =>
    (Grown.triple (sgxAllocOnUstackAligned_calm _ _)).bind fun ms =>
    .unless .resetReturn fun _ => ?_)
  refine .ite_bind (fun _ => sgxCopyToUstack_grown _ _) (fun _ => .ret) fun _ =>
    (storeField_grown _ _ _).bind fun _ => .unless .resetReturn fun _ =>
    (storeField_grown _ _ _).bind fun _ => (copyArgs_confined _ _ _).bind fun _ =>
    .unless .resetReturn fun _ => (sgxExitlessOcall_grown _ _).bind fun _ => ?_
  exact .ite (fun _ => .ite (fun _ => (Grown.triple (loadU32_calm _ _)).bind fun _ =>
    (writeMem_grown hpid).bind fun _ => (copyWordsOut_grown _ _ _ _ hfds).bind
    fun _ => .resetReturn) fun _ => .pure_bind ((copyWordsOut_grown _ _ _ _ hfds).bind
    fun _ => .resetReturn)) fun _ => .pure_bind .resetReturn

theorem ocallFutex_confined (futex : Nat) (op val timeoutUs : Int) :
    Triple env (Grown W m₀) (ocallFutex futex op val timeoutUs) fun _ => Grown W m₀ := by
  unfold ocallFutex
  exact .read (.unless .resetReturn fun _ => (Grown.triple (allocMs_calm _)).bind fun ms =>
    .unless .resetReturn fun _ => (storeField_grown _ _ _).bind fun _ =>
    (storeFields_grown _ _).bind fun _ => (sgxExitlessOcall_grown _ _).bind
    fun _ => .resetReturn)

theorem gettimeLoop_confined (ms : HostPtr) (n : Nat) :
    Triple env (Grown W m₀) (gettimeLoop ms n) fun _ => Grown W m₀ := by
  induction n with
  | zero => exact fun _ _ => trivial
  | succ n ih =>
    exact (sgxExitlessOcall_grown _ _).bind fun _ => .ite (fun _ => ih) fun _ => .ret

theorem ocallGettime_confined (microsec : Nat) (hW : ∀ a, microsec ≤ a → a < microsec + 8 → W a) :
    Triple env (Grown W m₀) (ocallGettime microsec) fun _ => Grown W m₀ := by
  unfold ocallGettime
  exact .read ((Grown.triple (allocMs_calm _)).bind fun ms => .unless .resetReturn fun _ =>
    (gettimeLoop_confined _ _).bind fun _ => .ite (fun _ => (Grown.triple (loadU64_calm _ _)).bind
      fun _ => (writeMem_grown hW).bind fun _ => .resetReturn) fun _ => .pure_bind .resetReturn)

theorem ocallSleep_confined (microsec : Nat) (hW : ∀ a, microsec ≤ a → a < microsec + 8 → W a) :
    Triple env (Grown W m₀) (ocallSleep microsec) fun _ => Grown W m₀ := by
  unfold ocallSleep
  refine (Grown.triple (allocMs_calm _)).bind fun ms => .unless .resetReturn fun _ =>
    .ite_bind (fun _ => readMem_triple _ _) (fun _ => .ret) fun _ =>
    (storeField_grown _ _ _).bind fun _ => (Grown.triple (sgxOcall_calm _ _ trivial)).bind
    fun _ => ?_
  exact .ite (fun _ => .ite (fun _ => (writeMem_grown hW).bind fun _ => .resetReturn)
    fun _ => .ite (fun _ => (Grown.triple (loadU64_calm _ _)).bind fun _ =>
      (writeMem_grown hW).bind fun _ => .resetReturn) fun _ => .pure_bind .resetReturn)
    fun _ => .pure_bind .resetReturn

theorem ocallPoll_confined (fds : Nat) (nfds timeoutUs : Int)
    (hW : ∀ a, fds ≤ a → a < fds + pollBytes nfds → W a) :
    Triple env (Grown W m₀) (ocallPoll fds nfds timeoutUs) fun _ => Grown W m₀ := by
  unfold ocallPoll
  exact (Grown.triple (allocMs_calm _)).bind fun ms => .unless .resetReturn fun _ =>
    (storeFields_grown _ _).bind fun _ => (sgxCopyToUstack_grown _ _).bind fun _ =>
    (storeField_grown _ _ _).bind fun _ => .unless .resetReturn fun _ =>
    (sgxExitlessOcall_grown _ _).bind fun _ => .ite (fun _ =>
      (Grown.triple (loadU64_calm _ _)).bind fun _ => (sgxCopyToEnclave_grown _ _ hW).bind
      fun _ => .unless .resetReturn fun _ => .resetReturn) fun _ => .pure_bind .resetReturn

theorem ocallLoadDebug_confined (command : Nat) :
    Triple env (Grown W m₀) (ocallLoadDebug command) fun _ => Grown W m₀ := by
  unfold ocallLoadDebug
  exact (cStrlen_triple _).bind fun _ => (sgxCopyToUstack_grown _ _).bind fun ms =>
    .unless .resetReturn fun _ => (sgxExitlessOcall_grown _ _).bind
    fun _ => .resetReturn

theorem exitLoop_confined (ms : HostPtr) (n : Nat) :
    Triple env (Grown W m₀) (exitLoop ms n) fun _ => Grown W m₀ := by
  induction n with
  | zero => exact fun _ _ => trivial
  | succ n ih => exact (Grown.triple (sgxOcall_calm _ _ trivial)).bind fun _ => ih

theorem ocallExit_confined (exitcode isExitgroup : Int) :
    Triple env (Grown W m₀) (ocallExit exitcode isExitgroup) fun _ => Grown W m₀ := by
  unfold ocallExit
  exact .read ((Grown.triple (sgxAllocOnUstackAligned_calm _ _)).bind fun _ =>
    (storeField_grown _ _ _).bind fun _ => (storeField_grown _ _ _).bind
    fun _ => exitLoop_confined _ _)

end Wrappers

/-! ## Every wrapper -/

/-- The enclave memory a call may write, with `mem` the enclave memory at the call: the caller's
output objects at the capacities the caller designates, and the local `obuf` of the four wrappers
with a heap fallback. For `ocall_get_attestation` it is `*attestation`; the buffers that wrapper
allocates are not in it. -/
def Call.outputs (env : Env) (mem : Mem) : Call → Nat → Prop
  | .mmapUntrusted _ _ _ _ p => fun a => p ≤ a ∧ a < p + 8
  | .cpuid _ _ values => fun a => values ≤ a ∧ a < values + sizeofInt * 4
  | .read _ buf count => fun a =>
    env.localSlot ≤ a ∧ a < env.localSlot + 8 ∨ buf ≤ a ∧ a < buf + count
  | .write _ _ _ | .send _ _ _ _ _ _ _ => fun a => env.localSlot ≤ a ∧ a < env.localSlot + 8
  | .fstat _ buf => fun a => buf ≤ a ∧ a < buf + env.layout.statSize
  | .getdents _ dirp size => fun a => dirp ≤ a ∧ a < dirp + size
  | .createProcess _ _ _ procfds pid => fun a =>
    procfds ≤ a ∧ a < procfds + sizeofInt * 3 ∨ pid ≤ a ∧ a < pid + sizeofInt
  | .socketpair _ _ _ sockfds => fun a => sockfds ≤ a ∧ a < sockfds + sizeofInt * 2
  | .listen _ _ _ addr addrlen sockopt | .accept _ addr addrlen sockopt =>
    addrOut env mem addr addrlen sockopt
  | .connect _ _ _ _ _ bindAddr bindAddrlen sockopt => addrOut env mem bindAddr bindAddrlen sockopt
  | .recv _ buf count addr addrlenptr control controllenptr => fun a =>
    env.localSlot ≤ a ∧ a < env.localSlot + 8 ∨ buf ≤ a ∧ a < buf + count ∨
      recvOut addr addrlenptr control controllenptr (lenAt mem addrlenptr 4)
        (lenAt mem controllenptr 8) a
  | .gettime microsec | .sleep microsec => fun a => microsec ≤ a ∧ a < microsec + 8
  | .poll fds nfds _ => fun a => fds ≤ a ∧ a < fds + pollBytes nfds
  | .getAttestation _ _ _ _ _ attestation => fun a =>
    attestation ≤ a ∧ a < attestation + env.layout.attestationSize
  | _ => fun _ => False

section Run

variable {env : Env}

theorem Call.run_confined (c : Call)
    (hc : ∀ spid subkey linkable report nonce attestation,
      c ≠ .getAttestation spid subkey linkable report nonce attestation) (m₀ : Machine) :
    Triple env (Grown (fun _ => False) m₀) c.run fun _ => Grown (c.outputs env m₀.mem) m₀ := by
  cases c with
  | exit => exact Triple.widen (ocallExit_confined _ _).map
  | mmapUntrusted => exact Triple.widen (ocallMmapUntrusted_grown _ _ _ _ fun _ => And.intro)
  | munmapUntrusted => exact Triple.widen (ocallMunmapUntrusted_grown _ _)
  | cpuid =>
    exact Triple.widen (outputOcall_confined _ _ _ fun _ =>
      copyWordsOut_grown _ _ _ _ fun _ => And.intro)
  | «open» => exact Triple.widen (pathOcall_confined _ _ _)
  | close => exact Triple.widen (scalarOcall_confined _ _)
  | read =>
    exact Triple.widen (ocallRead_confined _ _ _ (fun _ h₁ h₂ => Or.inl ⟨h₁, h₂⟩)
      fun _ h₁ h₂ => Or.inr ⟨h₁, h₂⟩)
  | write => exact Triple.widen (ocallWrite_confined _ _ _ fun _ => And.intro)
  | fstat =>
    exact Triple.widen (outputOcall_confined _ _ _ fun _ =>
      .read ((loadFieldBytes_grown _ _).bind fun _ => writeMem_grown fun _ => And.intro))
  | fionread | fsetnonblock | fchmod | fsync | ftruncate | lseek | shutdown | eventfd =>
    exact Triple.widen (scalarOcall_confined _ _)
  | mkdir | delete => exact Triple.widen (pathOcall_confined _ _ _)
  | getdents => exact Triple.widen (ocallGetdents_confined _ _ _ fun _ => And.intro)
  | resumeThread | cloneThread => exact Triple.widen (sgxExitlessOcall_grown _ _)
  | createProcess =>
    exact Triple.widen (ocallCreateProcess_confined _ _ _ _ _ (fun _ h₁ h₂ => Or.inl ⟨h₁, h₂⟩)
      fun _ h₁ h₂ => Or.inr ⟨h₁, h₂⟩)
  | futex => exact Triple.widen (ocallFutex_confined _ _ _ _)
  | socketpair =>
    exact Triple.widen (outputOcall_confined _ _ _ fun _ =>
      copyWordsOut_grown _ _ _ _ fun _ => And.intro)
  | listen | accept => exact addrOcall_confined _ _ _ _ _ fun _ => id
  | connect => exact ocallConnect_confined _ _ _ _ _ _ _ _ fun _ => id
  | recv => exact ocallRecv_confined _ _ _ _ _ _ _ fun _ => id
  | send => exact Triple.widen (ocallSend_confined _ _ _ _ _ _ _ fun _ => And.intro)
  | setsockopt => exact Triple.widen (ocallSetsockopt_confined _ _ _ _ _)
  | gettime => exact Triple.widen (ocallGettime_confined _ fun _ => And.intro)
  | sleep => exact Triple.widen (ocallSleep_confined _ fun _ => And.intro)
  | poll => exact Triple.widen (ocallPoll_confined _ _ _ fun _ => And.intro)
  | rename => exact Triple.widen (ocallRename_confined _ _)
  | loadDebug => exact Triple.widen (ocallLoadDebug_confined _)
  | getAttestation => exact absurd rfl (hc _ _ _ _ _ _)

end Run

/-- No host answer directs an enclave write outside the caller's output objects: every wrapper but
`ocall_get_attestation`, on every path that returns and whatever the host answers, leaves enclave
memory unchanged outside `Call.outputs`, the output objects at the capacities the caller passed
and the wrapper's local `obuf`. -/
theorem ocall_writes_only_outputs (c : Call)
    (hc : ∀ spid subkey linkable report nonce attestation,
      c ≠ .getAttestation spid subkey linkable report nonce attestation)
    (env : Env) (m : Machine) :
    wp c.run env m (fun _ m' => ∀ a, ¬c.outputs env m.mem a → m'.mem a = m.mem a)
      (fun _ => True) (fun _ => True) :=
  wp_post (c.run_confined hc m m .start) fun _ _ h => h.2

/-- `ocall_recv` in the sample environment writes only its outputs. -/
theorem recv_writes_only_outputs :
    (∀ spid subkey linkable report nonce attestation,
      Call.recv 0 (2 ^ 32 + 8192) 16 (2 ^ 32 + 12288) (2 ^ 32) 0 0 ≠
        .getAttestation spid subkey linkable report nonce attestation) ∧
    wp (Call.recv 0 (2 ^ 32 + 8192) 16 (2 ^ 32 + 12288) (2 ^ 32) 0 0).run
      (sampleEnv promptHost false true) (sampleMachine (sampleEnv promptHost false true) 0)
      (fun _ m' => ∀ a, ¬(Call.recv 0 (2 ^ 32 + 8192) 16 (2 ^ 32 + 12288) (2 ^ 32) 0 0).outputs
        (sampleEnv promptHost false true) 0 a → m'.mem a = 0)
      (fun _ => True) (fun _ => True) :=
  have hc : ∀ spid subkey linkable report nonce attestation,
      Call.recv 0 (2 ^ 32 + 8192) 16 (2 ^ 32 + 12288) (2 ^ 32) 0 0 ≠
        .getAttestation spid subkey linkable report nonce attestation :=
    fun _ _ _ _ _ _ h => Call.noConfusion h
  ⟨hc, ocall_writes_only_outputs _ hc _ _⟩

end EnclaveOcalls
