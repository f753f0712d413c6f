import EnclaveOcalls.Lifetime

/-!
# No enclave address is handed to the host

The host reads every pointer the enclave stores into host memory: the pointer fields of the
argument structs, `req->buffer` of the request descriptor, `ms_futex` of the futex arguments, and
the request `rpc_enqueue` puts in the queue; it also receives the argument struct of every exit.
Each of them must be NULL or lie outside the enclave ("No enclave-resident pointer is ever stored
into a host struct"). The model knows where each came from:

* an untrusted-stack allocation, which lies in the thread's untrusted stack, outside the enclave;
* a host region the enclave checked with `sgx_is_completely_outside_enclave`: a caller's buffer,
  or the buffer of `ocall_mmap_untrusted` that `sgx_copy_ptr_to_enclave` accepted and the wrapper
  reads back from its local `obuf`.

`HostPtr.Outside` names these. A checked region is checked with a length, and a check of the
wrong length (or of none) says nothing about the region the host is told of, so `Outside` carries
the lengths the field may have been checked with, and `Call.hostRegions` gives them for each
wrapper: `sizeof(int)` for `ms_futex`, `count` for a caller's buffer in `ms_buf`, the size of the
mapping for a mapped `ms_buf` and for the `ms_mem` that `ocall_munmap_untrusted` is given. The
main result, `ocall_hands_only_outside_pointers`, says that every wrapper but
`ocall_resume_thread` hands the host only such pointers, on every path and whatever the host does.
Its program logic, `Hands`, is the instance of `Spec` that tracks the handed pointers, the
untrusted-stack pointer staying within the stack, and a predicate on enclave memory, which the
four wrappers with a heap fallback need for the pointer they read back from `obuf`.
-/

namespace EnclaveOcalls

open OcallM

/-! ## Pointers outside the enclave -/

/-- The pointers an event hands to the host: one stored into host memory, the request that
`rpc_enqueue` puts in the queue, and the argument struct of an exit. -/
@[simp] def Event.handed : Event → List HostPtr
  | .store _ _ v => v.ptrs
  | .enqueue p | .ocall _ p => [p]
  | .alloc _ _ | .reset | .load _ _ | .storeBytes _ _ _ | .loadBytes _ _ | .cas _ _ _
  | .write _ _ | .malloc _ _ | .free _ => []

/-- Where a pointer the enclave hands to the host may point: NULL, into the thread's untrusted
stack, which lies outside the enclave as a whole, or at a host region that the enclave checked
with `sgx_is_completely_outside_enclave` for a length `r` allows. -/
inductive HostPtr.Outside (env : Env) (r : Nat → Prop) : HostPtr → Prop
  | null : HostPtr.null.Outside env r
  | ustack {a g : Nat} : env.ustackBottom ≤ a → a ≤ env.ustackTop →
      HostPtr.Outside env r ⟨a, some g⟩
  | checked {a n : Nat} : r n → sgxIsCompletelyOutsideEnclave env.enclave a n = true →
      HostPtr.Outside env r ⟨a, none⟩

/-- `p` is NULL or starts an untrusted-stack block with room for `n` bytes below the stack's top,
as `sgx_alloc_on_ustack_aligned` returns. -/
def HostPtr.Block (env : Env) (n : Nat) (p : HostPtr) : Prop :=
  p = .null ∨ ∃ g, p.gen = some g ∧ env.ustackBottom ≤ p.addr ∧ p.addr + n ≤ env.ustackTop

section Outside

variable {env : Env} {r : Nat → Prop}

/-- A field at offset `k ≤ n` of a non-NULL block lies in the untrusted stack. -/
theorem HostPtr.Block.offset {n : Nat} {p : HostPtr} (h : p.Block env n) (hp : p.addr ≠ 0)
    {k : Nat} (hk : k ≤ n) : (p.offset k).Outside env r := by
  obtain rfl | ⟨g, hg, lo, hi⟩ := h
  · exact absurd rfl hp
  · obtain ⟨a, gen⟩ := p
    cases hg
    show HostPtr.Outside env r ⟨a + k, some g⟩
    exact .ustack (by simp only at lo; omega) (by simp only at hi; omega)

@[simp] theorem HostPtr.null_outside : HostPtr.null.Outside env r := .null

/-- A pointer outside the enclave for the lengths `r` is so for every weaker `r'`; one that is
outside for no length at all is NULL or on the untrusted stack. -/
theorem HostPtr.Outside.mono {r' : Nat → Prop} {p : HostPtr} (h : p.Outside env r)
    (hr : ∀ n, r n → r' n) : p.Outside env r' := by
  cases h with
  | null => exact .null
  | ustack lo hi => exact .ustack lo hi
  | checked hn hc => exact .checked (hr _ hn) hc

theorem HostPtr.Block.outside {n : Nat} {p : HostPtr} (h : p.Block env n) : p.Outside env r := by
  obtain rfl | ⟨g, hg, lo, hi⟩ := h
  · exact .null
  · obtain ⟨a, gen⟩ := p
    cases hg
    exact .ustack lo (by simp only at hi; omega)

/-- The wrapper's local `obuf` holds NULL or the address of a host region the enclave checked for
a length `r` allows. -/
def SlotOutside (env : Env) (r : Nat → Prop) (mem : Mem) : Prop :=
  HostPtr.Outside env r ⟨mem.load env.localSlot 8, none⟩

/-- Storing into `obuf` an address whose region the enclave checked: only its low 64 bits are
stored, and a checked region ends within the address space. -/
theorem slotOutside_copy {mem : Mem} {a n : Nat} (hr : r n)
    (h : sgxIsCompletelyOutsideEnclave env.enclave a n = true) :
    SlotOutside env r (mem.copy env.localSlot 8 (leBytes a)) := by
  have hle : a ≤ 2 ^ 64 := by
    simp only [sgxIsCompletelyOutsideEnclave, addrSpace, Bool.and_eq_true,
      decide_eq_true_eq] at h
    omega
  rw [SlotOutside, Mem.load_copy_leBytes]
  rcases hle.lt_or_eq with hlt | rfl
  · rw [Nat.mod_eq_of_lt (by norm_num at hlt ⊢; omega)]
    exact .checked hr h
  · exact .null

/-- `obuf = NULL`. -/
theorem slotOutside_null {mem : Mem} :
    SlotOutside env r (mem.copy env.localSlot 8 (leBytes 0)) := by
  rw [SlotOutside, Mem.load_copy_leBytes, Nat.zero_mod]
  exact .null

end Outside

/-- The lengths for which a host region that the event hands over may have been checked: for a
pointer stored into field `f`, those `rs f` allows. The request and the argument struct of an
exit are never checked host regions. -/
@[simp] def Event.region (rs : Field → Nat → Prop) : Event → Nat → Prop
  | .store _ f _ => rs f
  | .alloc _ _ | .reset | .load _ _ | .storeBytes _ _ _ | .loadBytes _ _ | .ocall _ _
  | .enqueue _ | .cas _ _ _ | .write _ _ | .malloc _ _ | .free _ => fun _ => False

/-- Every pointer the entries added to `l₀` hand to the host lies outside the enclave, a checked
host region with a length that `rs` allows for the field it goes into. -/
def HandedSince (env : Env) (rs : Field → Nat → Prop) (l₀ l : List Entry) : Prop :=
  ∃ new, l = new ++ l₀ ∧ ∀ e ∈ new, ∀ p ∈ e.ev.handed, p.Outside env (e.ev.region rs)

section Handed

variable {env : Env} {rs : Field → Nat → Prop} {l₀ : List Entry}

theorem HandedSince.refl (l : List Entry) : HandedSince env rs l l :=
  ⟨[], rfl, fun _ h => absurd h (List.not_mem_nil _)⟩

theorem HandedSince.cons {l : List Entry} {e : Entry} (h : HandedSince env rs l₀ l)
    (he : ∀ p ∈ e.ev.handed, p.Outside env (e.ev.region rs)) : HandedSince env rs l₀ (e :: l) := by
  obtain ⟨new, rfl, hn⟩ := h
  exact ⟨e :: new, rfl, fun e' he' => (List.mem_cons.1 he').elim (· ▸ he) (hn e')⟩

/-- A machine whose untrusted-stack pointer lies within the stack, and whose log has handed the
host only pointers outside the enclave since `l₀`. -/
structure Machine.Sealed (env : Env) (rs : Field → Nat → Prop) (l₀ : List Entry) (m : Machine) :
    Prop where
  ustack : m.ustack ≤ env.ustackTop
  handed : HandedSince env rs l₀ m.log

theorem Machine.Sealed.push {m : Machine} {e : Event} (hm : m.Sealed env rs l₀)
    (he : ∀ p ∈ e.handed, p.Outside env (e.region rs)) : (m.push e).Sealed env rs l₀ :=
  ⟨hm.ustack, hm.handed.cons he⟩

end Handed

/-! ## The program logic -/

/-- From a sealed machine whose memory satisfies `R`, `c` hands the host only pointers outside
the enclave, keeps the untrusted-stack pointer within the stack, and returns a value satisfying
`P` with memory satisfying `R'`. -/
def Hands (env : Env) (rs : Field → Nat → Prop) (l₀ : List Entry) (R : Mem → Prop)
    (c : OcallM α) (P : α → Prop) (R' : Mem → Prop) : Prop :=
  Spec env (fun m => m.Sealed env rs l₀ ∧ R m.mem) c
    (fun a m' => m'.Sealed env rs l₀ ∧ R' m'.mem ∧ P a) (HandedSince env rs l₀ ·.log)
    (HandedSince env rs l₀ ·.log)

section Hands

variable {env : Env} {rs : Field → Nat → Prop} {l₀ : List Entry} {R R₁ R₂ : Mem → Prop}

theorem Hands.run {c : OcallM α} {P : α → Prop} {m : Machine} {Q : α → Machine → Prop}
    (h : Hands env rs l₀ R c P R₁) (hm : m.Sealed env rs l₀) (hR : R m.mem)
    (k : ∀ a m', m'.Sealed env rs l₀ → R₁ m'.mem → P a → Q a m') :
    wp c env m Q (HandedSince env rs l₀ ·.log) (HandedSince env rs l₀ ·.log) :=
  Spec.run h ⟨hm, hR⟩ fun a m' h' => k a m' h'.1 h'.2.1 h'.2.2

theorem Hands.post {c : OcallM α} {P : α → Prop} (h : Hands env rs l₀ R c P R₁)
    (hR : ∀ mem, R₁ mem → R₂ mem) : Hands env rs l₀ R c P R₂ :=
  Spec.post h fun _ _ h' => ⟨h'.1, hR _ h'.2.1, h'.2.2⟩

theorem Hands.imp {c : OcallM α} {P Q : α → Prop} (h : Hands env rs l₀ R c P R₁)
    (hP : ∀ a, P a → Q a) : Hands env rs l₀ R c Q R₁ :=
  Spec.post h fun a _ h' => ⟨h'.1, h'.2.1, hP a h'.2.2⟩

theorem Hands.pure {a : α} {P : α → Prop} (h : P a) : Hands env rs l₀ R (Pure.pure a) P R :=
  Spec.pure fun _ hm => ⟨hm.1, hm.2, h⟩

theorem Hands.ret {a : α} : Hands env rs l₀ R (Pure.pure a) (fun _ => True) R := .pure trivial

theorem Hands.bind {x : OcallM β} {f : β → OcallM α} {P : β → Prop} {Q : α → Prop}
    (hx : Hands env rs l₀ R x P R₁) (hf : ∀ b, P b → Hands env rs l₀ R₁ (f b) Q R₂) :
    Hands env rs l₀ R (x >>= f) Q R₂ :=
  Spec.bind hx fun b m h => hf b h.2.2 m ⟨h.1, h.2.1⟩

/-- Sequencing after a step whose result the rest does not need to know anything about. -/
theorem Hands.seq {x : OcallM β} {f : β → OcallM α} {Q : α → Prop}
    (hx : Hands env rs l₀ R x (fun _ => True) R₁) (hf : ∀ b, Hands env rs l₀ R₁ (f b) Q R₂) :
    Hands env rs l₀ R (x >>= f) Q R₂ :=
  hx.bind fun b _ => hf b

theorem Hands.ite {b : Prop} [Decidable b] {x y : OcallM α} {P : α → Prop}
    (hx : b → Hands env rs l₀ R x P R₁) (hy : ¬b → Hands env rs l₀ R y P R₁) :
    Hands env rs l₀ R (if b then x else y) P R₁ :=
  Spec.ite hx hy

theorem Hands.pure_bind {a : β} {f : β → OcallM α} {P : α → Prop}
    (h : Hands env rs l₀ R (f a) P R₁) : Hands env rs l₀ R (Pure.pure a >>= f) P R₁ :=
  Spec.pure_bind h

/-- A conditional whose two branches go on to the same join point `k`. -/
theorem Hands.ite_bind {b : Prop} [Decidable b] {x y : OcallM β} {k : β → OcallM α}
    {P : β → Prop} {Q : α → Prop} (hx : b → Hands env rs l₀ R x P R₁)
    (hy : ¬b → Hands env rs l₀ R y P R₁) (hk : ∀ a, P a → Hands env rs l₀ R₁ (k a) Q R₂) :
    Hands env rs l₀ R (if b then x >>= k else y >>= k) Q R₂ :=
  .ite (fun h => (hx h).bind hk) (fun h => (hy h).bind hk)

theorem Hands.map {x : OcallM β} {f : β → α} {P : β → Prop} {Q : α → Prop}
    (h : Hands env rs l₀ R x P R₁) (hf : ∀ b, P b → Q (f b)) :
    Hands env rs l₀ R (f <$> x) Q R₁ :=
  Spec.map (Spec.post h fun b _ h' => ⟨h'.1, h'.2.1, hf b h'.2.2⟩)

theorem Hands.read {f : Env → OcallM α} {P : α → Prop} (h : Hands env rs l₀ R (f env) P R₁) :
    Hands env rs l₀ R (OcallM.read >>= f) P R₁ :=
  Spec.read h

/-- `if (b) { ...; return v; }` before the rest `k`. -/
theorem Hands.unless {b : Prop} [Decidable b] {x : OcallM α} {k : PUnit → OcallM α}
    (hx : Hands env rs l₀ R x (fun _ => True) R₁)
    (hk : ¬b → Hands env rs l₀ R (k ()) (fun _ => True) R₁) :
    Hands env rs l₀ R (if b then x else Pure.pure () >>= k) (fun _ => True) R₁ :=
  .ite (fun _ => hx) fun h => .pure_bind (hk h)

/-! ### The helpers -/

theorem writeMem_hands {dst n : Nat} {data : Nat → UInt8}
    (h : ∀ mem, R mem → R₁ (mem.copy dst n data)) :
    Hands env rs l₀ R (writeMem dst n data) (fun _ => True) R₁ := fun m ⟨hm, hR⟩ => by
  rw [wp_writeMem]
  split_ifs
  · exact hm.handed
  · exact ⟨⟨hm.ustack, hm.handed.cons (by simp)⟩, h _ hR, trivial⟩

theorem writeMem_hands_top {dst n : Nat} {data : Nat → UInt8} :
    Hands env rs l₀ ⊤ (writeMem dst n data) (fun _ => True) ⊤ :=
  writeMem_hands fun _ _ => trivial

theorem readMem_hands (src n : Nat) : Hands env rs l₀ R (readMem src n) (fun _ => True) R :=
  fun m ⟨hm, hR⟩ => by
  rw [wp_readMem]
  split_ifs
  · exact hm.handed
  · exact ⟨hm, hR, trivial⟩

/-- What a wrapper reads back from its local `obuf` is NULL or a host region it checked. -/
theorem readMem_slot {r : Nat → Prop} :
    Hands env rs l₀ (SlotOutside env r) (readMem env.localSlot 8)
      (fun v => HostPtr.Outside env r ⟨v, none⟩) ⊤ := fun m ⟨hm, hR⟩ => by
  rw [wp_readMem]
  split_ifs
  · exact hm.handed
  · exact ⟨hm, trivial, hR⟩

theorem cStrlen_hands (p : Nat) : Hands env rs l₀ R (cStrlen p) (fun _ => True) R :=
  fun m ⟨hm, hR⟩ => by
    rw [wp_cStrlen]
    split_ifs
    · exact hm.handed
    · exact ⟨hm, hR, trivial⟩

theorem malloc_hands (size : Nat) : Hands env rs l₀ R (malloc size) (fun _ => True) R :=
  fun _ ⟨hm, hR⟩ => ⟨hm.push (by simp), hR, trivial⟩

theorem free_hands (p : Nat) : Hands env rs l₀ R (free p) (fun _ => True) R :=
  fun _ ⟨hm, hR⟩ => ⟨hm.push (by simp), hR, trivial⟩

theorem storeField_hands {ms : HostPtr} {v : Val} (f : Field)
    (hv : ∀ p ∈ v.ptrs, p.Outside env (rs f)) :
    Hands env rs l₀ R (storeField ms f v) (fun _ => True) R := fun m ⟨hm, hR⟩ => by
  rw [wp_storeField]
  split_ifs
  · exact hm.handed
  · exact ⟨hm.push (by simpa using hv), hR, trivial⟩

/-- `ms->f = p` for a pointer outside the enclave for the lengths field `f` is checked with. -/
theorem storePtr_hands {ms p : HostPtr} (f : Field) (hp : p.Outside env (rs f)) :
    Hands env rs l₀ R (storeField ms f (.ptr p)) (fun _ => True) R :=
  storeField_hands f (by simpa using hp)

theorem copyToField_hands (ms : HostPtr) (f : Field) (src n : Nat) :
    Hands env rs l₀ R (copyToField ms f src n) (fun _ => True) R := fun m ⟨hm, hR⟩ => by
  rw [wp_copyToField]
  split_ifs
  · exact hm.handed
  · exact ⟨hm.push (by simp), hR, trivial⟩

theorem loadField_hands (ms : HostPtr) (f : Field) :
    Hands env rs l₀ R (loadField ms f) (fun _ => True) R := fun m ⟨hm, hR⟩ => by
  rw [wp_loadField]
  split_ifs
  · exact hm.handed
  · exact ⟨hm.push (by simp), hR, trivial⟩

theorem loadU32_hands (ms : HostPtr) (f : Field) :
    Hands env rs l₀ R (loadU32 ms f) (fun _ => True) R :=
  (loadField_hands ms f).map fun _ _ => trivial

theorem loadU64_hands (ms : HostPtr) (f : Field) :
    Hands env rs l₀ R (loadU64 ms f) (fun _ => True) R :=
  (loadField_hands ms f).map fun _ _ => trivial

theorem loadI32_hands (ms : HostPtr) (f : Field) :
    Hands env rs l₀ R (loadI32 ms f) (fun _ => True) R := by
  unfold loadI32
  exact ((loadField_hands ms f).seq fun _ => .ret).map fun _ _ => trivial

theorem loadFieldBytes_hands (ms : HostPtr) (f : Field) :
    Hands env rs l₀ R (loadFieldBytes ms f) (fun _ => True) R := fun m ⟨hm, hR⟩ => by
  rw [wp_loadFieldBytes]
  split_ifs
  · exact hm.handed
  · exact ⟨hm.push (by simp), hR, trivial⟩

theorem copyToHost_hands (dst : HostPtr) (src n : Nat) :
    Hands env rs l₀ R (copyToHost dst src n) (fun _ => True) R := fun m ⟨hm, hR⟩ => by
  rw [wp_copyToHost]
  split_ifs
  · exact hm.handed
  · exact ⟨hm.push (by simp), hR, trivial⟩

theorem sgxOcall_hands {ms : HostPtr} (code : OcallCode) (hms : ms.Outside env fun _ => False) :
    Hands env rs l₀ R (sgxOcall code ms) (fun _ => True) R :=
  fun _ ⟨hm, hR⟩ => ⟨hm.push (by simpa using hms), hR, trivial⟩

theorem spinlockCmpxchg_hands (req : HostPtr) (expected desired : Int) :
    Hands env rs l₀ R (spinlockCmpxchg req expected desired) (fun _ => True) R :=
  fun m ⟨hm, hR⟩ => by
    have hm' := hm.push (e := .cas (req.offset env.layout.lockOffset) expected desired) (by simp)
    rw [wp_spinlockCmpxchg]
    split_ifs <;> exact ⟨hm', hR, trivial⟩

theorem rpcEnqueue_hands {req : HostPtr} (hreq : req.Outside env fun _ => False) :
    Hands env rs l₀ R (rpcEnqueue req) (fun r => r = .null ∨ r = req) R := fun _ ⟨hm, hR⟩ => by
  rw [wp_rpcEnqueue]
  exact ⟨hm.push (by simpa using hreq), hR, by split_ifs <;> simp⟩

/-- An untrusted-stack allocation lies in the stack, below the untrusted-stack pointer. -/
theorem sgxAllocOnUstackAligned_hands (size alignment : Nat) :
    Hands env rs l₀ R (sgxAllocOnUstackAligned size alignment) (·.Block env size) R :=
    fun m ⟨hm, hR⟩ => by
  rw [wp_sgxAllocOnUstackAligned]
  split_ifs with h
  · have hle := Nat.div_mul_le_self (m.ustack - size) alignment
    have htop := hm.ustack
    exact ⟨⟨by dsimp only [Machine.push]; omega, hm.handed.cons (by simp)⟩, hR,
      .inr ⟨m.gen, rfl, h.2, by dsimp only; omega⟩⟩
  · exact ⟨hm, hR, .inl rfl⟩

theorem sgxAllocOnUstack_hands (size : Nat) {r : Nat → Prop} :
    Hands env rs l₀ R (sgxAllocOnUstack size) (·.Outside env r) R :=
  (sgxAllocOnUstackAligned_hands size 1).imp fun _ hp => hp.outside

theorem sgxResetUstack_hands : Hands env rs l₀ R sgxResetUstack (fun _ => True) R :=
  fun m ⟨hm, hR⟩ => ⟨⟨le_rfl, hm.handed.cons (by simp)⟩, hR, trivial⟩

/-- `sgx_reset_ustack(); return v;` -/
theorem Hands.resetReturn {v : α} :
    Hands env rs l₀ R (sgxResetUstack >>= fun _ => Pure.pure v) (fun _ => True) R :=
  sgxResetUstack_hands.seq fun _ => .ret

theorem sgxCopyToUstack_hands (ptr size : Nat) {r : Nat → Prop} :
    Hands env rs l₀ R (sgxCopyToUstack ptr size) (·.Outside env r) R := by
  unfold sgxCopyToUstack
  refine .read (.ite (fun _ => .pure .null) fun _ => .pure_bind <|
    (sgxAllocOnUstack_hands size (r := r)).bind fun p hp => ?_)
  exact .ite_bind (fun _ => copyToHost_hands _ _ _) (fun _ => .ret) fun _ _ => .pure hp

theorem queryBytes_hands (src : HostPtr) (n : Nat) :
    Hands env rs l₀ R (queryBytes (.loadBytes src n)) (fun _ => True) R :=
  fun _ ⟨hm, hR⟩ => ⟨hm.push (by simp), hR, trivial⟩

theorem sgxCopyToEnclave_hands (ptr maxsize : Nat) (uptr : HostPtr) (usize : Nat) :
    Hands env rs l₀ ⊤ (sgxCopyToEnclave ptr maxsize uptr usize) (fun _ => True) ⊤ := by
  unfold sgxCopyToEnclave
  exact .read (.ite (fun _ => (queryBytes_hands uptr usize).seq fun data =>
    writeMem_hands_top.seq fun _ => .ret) fun _ => .ret)

/-- `sgx_copy_ptr_to_enclave` stores into `*ptr` only an address whose region it checked. -/
theorem sgxCopyPtrToEnclave_hands (ptr uptr size : Nat)
    (hR : sgxIsCompletelyOutsideEnclave env.enclave uptr size = true →
      ∀ mem, R mem → R (mem.copy ptr 8 (leBytes uptr))) :
    Hands env rs l₀ R (sgxCopyPtrToEnclave ptr uptr size) (fun _ => True) R := by
  unfold sgxCopyPtrToEnclave
  exact .read (.ite (fun h => (writeMem_hands (hR h)).seq fun _ => .ret) fun _ => .ret)

theorem storeFields_hands (ms : HostPtr) (fields : List (Field × Int)) :
    Hands env rs l₀ R (storeFields ms fields) (fun _ => True) R := by
  induction fields with
  | nil => exact .ret
  | cons fv rest ih => exact (storeField_hands fv.1 (by simp)).seq fun _ => ih

theorem allocMs_hands (code : OcallCode) :
    Hands env rs l₀ R (allocMs code) (·.Outside env fun _ => False) R :=
  .read ((sgxAllocOnUstackAligned_hands _ _).imp fun _ hp => hp.outside)

theorem cPathLen_hands (path : Nat) : Hands env rs l₀ R (cPathLen path) (fun _ => True) R :=
  .ite (fun _ => .ret) fun _ => (cStrlen_hands path).seq fun _ => .ret

theorem copyWordsOut_hands (ms : HostPtr) (f : Nat → Field) (dst n : Nat) :
    Hands env rs l₀ ⊤ (copyWordsOut ms f dst n) (fun _ => True) ⊤ := by
  unfold copyWordsOut
  induction List.range n with
  | nil => exact .ret
  | cons i is ih =>
    simp only [List.forM]
    exact ((loadU32_hands _ _).seq fun _ => writeMem_hands_top).seq fun _ => ih

/-! ### `sgx_exitless_ocall` -/

theorem spinlockLockTimeout_hands (req : HostPtr) (n : Nat) :
    Hands env rs l₀ R (spinlockLockTimeout req n) (fun _ => True) R := by
  induction n with
  | zero => exact .ret
  | succ n ih => exact (spinlockCmpxchg_hands _ _ _).seq fun r => .ite (fun _ => .ret) fun _ => ih

theorem futexWaitLoop_hands {req ms : HostPtr} (n : Nat) (c : Int)
    (hms : ms.Outside env fun _ => False) :
    Hands env rs l₀ R (futexWaitLoop req ms n c) (fun _ => True) R := by
  induction n generalizing c with
  | zero => exact fun _ hm => hm.1.handed
  | succ n ih =>
    unfold futexWaitLoop
    refine (Hands.ite (fun _ => .ret) fun _ =>
      (spinlockCmpxchg_hands _ _ _).map fun _ _ => trivial).seq fun wait => ?_
    refine (Hands.ite (fun _ => (storeField_hands _ (by simp)).seq fun _ =>
      (sgxOcall_hands _ hms).seq fun _ => .ret) fun _ => .ret).seq
      fun stop => .unless .ret fun _ => ?_
    exact (spinlockCmpxchg_hands _ _ _).seq fun r => .unless .ret fun _ => ih _

/-- The futex arguments point at the request's lock word, inside the request descriptor. -/
theorem exitlessWait_hands {req : HostPtr}
    (hlock : (req.offset env.layout.lockOffset).Outside env (rs .msFutex)) :
    Hands env rs l₀ R (exitlessWait req) (fun _ => True) R := by
  unfold exitlessWait
  refine .read ((spinlockLockTimeout_hands _ _).seq fun timedout => ?_)
  refine .ite (fun _ => (spinlockCmpxchg_hands _ _ _).seq fun r =>
    .ite (fun _ => ?_) fun _ => .pure_bind (loadI32_hands _ _))
    fun _ => .pure_bind (loadI32_hands _ _)
  refine (sgxAllocOnUstackAligned_hands _ _).bind fun fms hfms => ?_
  refine (storePtr_hands _ hlock).seq fun _ =>
    (storeField_hands _ (by simp)).seq fun _ => (storeField_hands _ (by simp)).seq
    fun _ => (futexWaitLoop_hands _ _ hfms.outside).seq fun o => ?_
  cases o
  · exact .pure_bind (loadI32_hands _ _)
  · exact .ret

/-- `sgx_exitless_ocall` hands the host its argument struct and a request descriptor on the
untrusted stack. -/
theorem sgxExitlessOcall_hands {ms : HostPtr} (code : OcallCode)
    (hms : ms.Outside env fun _ => False) :
    Hands env rs l₀ R (sgxExitlessOcall code ms) (fun _ => True) R := by
  unfold sgxExitlessOcall
  refine .read (.ite (fun _ => (sgxOcall_hands code hms).seq fun _ => .ret) fun _ => ?_)
  refine .pure_bind ((sgxAllocOnUstackAligned_hands _ _).bind fun req hreq => ?_)
  refine (storeField_hands _ (by simp)).seq fun _ =>
    (storePtr_hands _ (hms.mono fun _ => False.elim)).seq
    fun _ => (storeField_hands _ (by simp)).seq fun _ => (storeField_hands _ (by simp)).seq
    fun _ => (rpcEnqueue_hands hreq.outside).bind fun req' hreq' => ?_
  refine .ite (fun _ => (sgxOcall_hands code hms).seq fun _ => .ret) fun h =>
    .pure_bind (exitlessWait_hands ?_)
  obtain rfl | rfl := hreq'
  · exact absurd rfl h
  · exact hreq.offset h (le_trans (Nat.le_add_right _ _) env.layout.lock_in_req)

/-! ### The untrusted heap -/

/-- `ocall_mmap_untrusted` writes enclave memory only at `*mem`, and only an address whose region
it checked. -/
theorem ocallMmapUntrusted_hands (fd : Int) (offset size prot mem : Nat)
    (hR : ∀ a, sgxIsCompletelyOutsideEnclave env.enclave a size = true →
      ∀ m, R m → R (m.copy mem 8 (leBytes a))) :
    Hands env rs l₀ R (ocallMmapUntrusted fd offset size prot mem) (fun _ => True) R := by
  unfold ocallMmapUntrusted
  refine .read ((sgxAllocOnUstackAligned_hands _ _).bind fun ms hms =>
    .unless .resetReturn fun _ => ?_)
  refine (storeField_hands _ (by simp)).seq fun _ => (storeField_hands _ (by simp)).seq
    fun _ => (storeField_hands _ (by simp)).seq fun _ => (storeField_hands _ (by simp)).seq
    fun _ => (sgxExitlessOcall_hands _ hms.outside).seq fun retval => ?_
  exact .ite (fun _ => (loadU64_hands _ _).bind fun msMem _ =>
    (sgxCopyPtrToEnclave_hands _ _ _ (hR msMem)).seq fun _ => .unless .resetReturn fun _ =>
    .resetReturn) fun _ => .pure_bind .resetReturn

/-- `ocall_munmap_untrusted` hands the host `mem` only after checking its region of `size`
bytes. -/
theorem ocallMunmapUntrusted_hands (mem size : Nat) (hr : rs .msMem size) :
    Hands env rs l₀ R (ocallMunmapUntrusted mem size) (fun _ => True) R := by
  unfold ocallMunmapUntrusted
  refine .read (.ite (fun _ => .resetReturn) fun h => .pure_bind ?_)
  have hmem : HostPtr.Outside env (rs .msMem) ⟨mem, none⟩ := .checked hr (by simpa using h)
  refine (sgxAllocOnUstackAligned_hands _ _).bind fun ms hms => .unless .resetReturn fun _ => ?_
  exact (storePtr_hands _ hmem).seq fun _ => (storeField_hands _ (by simp)).seq
    fun _ => (sgxExitlessOcall_hands _ hms.outside).seq fun _ => .resetReturn

end Hands

/-! ## The wrappers -/

section Wrappers

variable {env : Env} {rs : Field → Nat → Prop} {l₀ : List Entry}

/-! ### The shapes of `EnclaveOcalls.Files` -/

theorem scalarOcall_hands (code : OcallCode) (fields : List (Field × Int)) :
    Hands env rs l₀ ⊤ (scalarOcall code fields) (fun _ => True) ⊤ := by
  unfold scalarOcall
  exact (allocMs_hands code).bind fun ms hms => .unless .resetReturn fun _ =>
    (storeFields_hands ms fields).seq fun _ => (sgxExitlessOcall_hands code hms).seq
    fun _ => .resetReturn

theorem outputOcall_hands (code : OcallCode) (fields : List (Field × Int))
    (copyOut : HostPtr → OcallM Unit)
    (hc : ∀ ms, Hands env rs l₀ ⊤ (copyOut ms) (fun _ => True) ⊤) :
    Hands env rs l₀ ⊤ (outputOcall code fields copyOut) (fun _ => True) ⊤ := by
  unfold outputOcall
  exact (allocMs_hands code).bind fun ms hms => .unless .resetReturn fun _ =>
    (storeFields_hands ms fields).seq fun _ => (sgxExitlessOcall_hands code hms).seq
    fun _ => .ite_bind (fun _ => hc ms) (fun _ => .ret) fun _ _ => .resetReturn

theorem pathOcall_hands (code : OcallCode) (fields : List (Field × Int)) (pathname : Nat) :
    Hands env rs l₀ ⊤ (pathOcall code fields pathname) (fun _ => True) ⊤ := by
  unfold pathOcall
  exact (cPathLen_hands _).seq fun _ => (allocMs_hands code).bind fun ms hms =>
    .unless .resetReturn fun _ => (storeFields_hands ms fields).seq fun _ =>
    (sgxCopyToUstack_hands _ _).bind fun _ hp => (storePtr_hands _ hp).seq
    fun _ => .unless .resetReturn fun _ => (sgxExitlessOcall_hands code hms).seq
    fun _ => .resetReturn

/-! ### The file OCALLs -/

theorem readBody_hands (fd : Int) (buf count obuf : Nat)
    (hobuf : HostPtr.Outside env (rs .msBuf) ⟨obuf, none⟩) :
    Hands env rs l₀ ⊤ (readBody fd buf count obuf) (fun _ => True) ⊤ := by
  unfold readBody
  refine (allocMs_hands _).bind fun ms hms => .unless .ret fun _ => ?_
  refine (storeField_hands _ (by simp)).seq fun _ => (storeField_hands _ (by simp)).seq
    fun _ => .ite_bind (fun _ => .pure hobuf) (fun _ => sgxAllocOnUstack_hands _)
    fun msBuf hb => (storePtr_hands _ hb).seq fun _ => .unless .ret fun _ => ?_
  exact (sgxExitlessOcall_hands _ hms).seq fun _ => .ite (fun _ => (loadU64_hands _ _).seq
    fun _ => (sgxCopyToEnclave_hands _ _ _ _).seq fun _ => .unless .ret fun _ => .ret)
    fun _ => .pure_bind .ret

/-- `ocall_read` hands the host the buffer it reads back from `obuf`: NULL, or the mapping of
`ALLOC_ALIGNUP(count)` bytes that `sgx_copy_ptr_to_enclave` checked. -/
theorem ocallRead_hands (fd : Int) (buf count : Nat)
    (hbuf : rs .msBuf (allocAlignup env.allocAlign count))
    (hmem : rs .msMem (allocAlignup env.allocAlign count)) :
    Hands env rs l₀ ⊤ (ocallRead fd buf count) (fun _ => True) ⊤ := by
  unfold ocallRead
  refine .read ((writeMem_hands fun _ _ => slotOutside_null (r := rs .msBuf)).seq fun _ => ?_)
  lift_lets
  intro rest
  have hrest : Hands env rs l₀ (SlotOutside env (rs .msBuf)) (rest ()) (fun _ => True) ⊤ :=
    readMem_slot.bind fun _ hobuf => (readBody_hands _ _ _ _ hobuf).seq fun _ =>
      sgxResetUstack_hands.seq fun _ => .ite (fun _ => (ocallMunmapUntrusted_hands _ _ hmem).seq
        fun _ => .ret) fun _ => .pure_bind .ret
  exact .ite (fun _ => (ocallMmapUntrusted_hands _ _ _ _ _ fun _ h _ _ =>
    slotOutside_copy hbuf h).seq
    fun _ => .ite (fun _ => Hands.ret.post fun _ _ => trivial) fun _ => .pure_bind hrest)
    fun _ => .pure_bind hrest

theorem writeBody_hands (fd : Int) (buf count obuf : Nat)
    (hobuf : HostPtr.Outside env (rs .msBuf) ⟨obuf, none⟩) :
    Hands env rs l₀ ⊤ (writeBody fd buf count obuf) (fun _ => True) ⊤ := by
  unfold writeBody
  refine (allocMs_hands _).bind fun ms hms => .unless .ret fun _ => ?_
  exact (storeField_hands _ (by simp)).seq fun _ => (storeField_hands _ (by simp)).seq
    fun _ => .ite_bind (fun _ => .pure hobuf) (fun _ => sgxCopyToUstack_hands _ _)
    fun msBuf hb => (storePtr_hands _ hb).seq fun _ => .unless .ret fun _ =>
    sgxExitlessOcall_hands _ hms

/-- `ocall_write` passes a caller's buffer through only after checking that its `count` bytes
lie outside the enclave. -/
theorem ocallWrite_hands (fd : Int) (buf count : Nat) (hcount : rs .msBuf count)
    (hbuf : rs .msBuf (allocAlignup env.allocAlign count))
    (hmem : rs .msMem (allocAlignup env.allocAlign count)) :
    Hands env rs l₀ ⊤ (ocallWrite fd buf count) (fun _ => True) ⊤ := by
  unfold ocallWrite
  refine .read ((writeMem_hands fun _ _ => slotOutside_null (r := rs .msBuf)).seq fun _ => ?_)
  lift_lets
  intro rest copyIn
  have hrest : Hands env rs l₀ (SlotOutside env (rs .msBuf)) (rest ()) (fun _ => True) ⊤ :=
    readMem_slot.bind fun _ hobuf => (writeBody_hands _ _ _ _ hobuf).seq fun _ =>
      sgxResetUstack_hands.seq fun _ => .ite (fun _ => (ocallMunmapUntrusted_hands _ _ hmem).seq
        fun _ => .ret) fun _ => .pure_bind .ret
  have hcopy : Hands env rs l₀ (SlotOutside env (rs .msBuf)) (copyIn ()) (fun _ => True) ⊤ :=
    (readMem_hands _ _).seq fun _ => (copyToHost_hands _ _ _).seq fun _ => hrest
  exact .ite (fun h => (writeMem_hands fun _ _ => slotOutside_copy hcount h).seq fun _ => hrest)
    fun _ => .ite (fun _ => .ite (fun _ => (ocallMmapUntrusted_hands _ _ _ _ _
      fun _ h _ _ => slotOutside_copy hbuf h).seq fun _ =>
      .ite (fun _ => Hands.ret.post fun _ _ => trivial) fun _ => .pure_bind hcopy)
      fun _ => .pure_bind hrest) fun _ => Hands.ret.post fun _ _ => trivial

theorem ocallFstat_hands (fd : Int) (buf : Nat) :
    Hands env rs l₀ ⊤ (ocallFstat fd buf) (fun _ => True) ⊤ :=
  outputOcall_hands _ _ _ fun _ =>
    .read ((loadFieldBytes_hands _ _).seq fun _ => writeMem_hands_top)

theorem ocallGetdents_hands (fd : Int) (dirp size : Nat) :
    Hands env rs l₀ ⊤ (ocallGetdents fd dirp size) (fun _ => True) ⊤ := by
  unfold ocallGetdents
  refine (allocMs_hands _).bind fun ms hms => .unless .resetReturn fun _ =>
    (storeField_hands _ (by simp)).seq fun _ => (storeField_hands _ (by simp)).seq fun _ =>
    (sgxAllocOnUstack_hands _).bind fun _ hd => (storePtr_hands _ hd).seq
    fun _ => .unless .resetReturn fun _ => ?_
  exact (sgxExitlessOcall_hands _ hms).seq fun _ => .ite (fun _ => (loadU64_hands _ _).seq
    fun _ => (sgxCopyToEnclave_hands _ _ _ _).seq fun _ => .unless .resetReturn fun _ =>
    .resetReturn) fun _ => .pure_bind .resetReturn

theorem ocallRename_hands (oldpath newpath : Nat) :
    Hands env rs l₀ ⊤ (ocallRename oldpath newpath) (fun _ => True) ⊤ := by
  unfold ocallRename
  exact (cPathLen_hands _).seq fun _ => (cPathLen_hands _).seq fun _ => (allocMs_hands _).bind
    fun ms hms => .unless .resetReturn fun _ => (sgxCopyToUstack_hands _ _).bind fun _ ho =>
    (storePtr_hands _ ho).seq fun _ => (sgxCopyToUstack_hands _ _).bind
    fun _ hn => (storePtr_hands _ hn).seq fun _ => .unless .resetReturn
    fun _ => (sgxExitlessOcall_hands _ hms).seq fun _ => .resetReturn

/-! ### The socket OCALLs -/

theorem copySockoptOut_hands (ms : HostPtr) (sockopt : Nat) :
    Hands env rs l₀ ⊤ (copySockoptOut ms sockopt) (fun _ => True) ⊤ := by
  unfold copySockoptOut
  exact .read (.ite (fun _ => (loadFieldBytes_hands _ _).seq fun _ =>
    writeMem_hands_top) fun _ => .ret)

theorem addrOcall_hands (code : OcallCode) (fields : List (Field × Int))
    (addr addrlen sockopt : Nat) :
    Hands env rs l₀ ⊤ (addrOcall code fields addr addrlen sockopt) (fun _ => True) ⊤ := by
  unfold addrOcall
  refine .ite_bind (fun _ => readMem_hands _ _) (fun _ => .ret) fun len _ => ?_
  refine (allocMs_hands code).bind fun ms hms => .unless .resetReturn fun _ =>
    (storeFields_hands _ _).seq fun _ => (storeField_hands _ (by simp)).seq fun _ =>
    .ite_bind (fun _ => sgxCopyToUstack_hands _ _) (fun _ => .pure .null) fun a ha =>
    (storePtr_hands _ ha).seq fun _ => .unless .resetReturn fun _ =>
    (sgxExitlessOcall_hands code hms).seq fun retval => ?_
  lift_lets
  intro done sockoptOut
  have hsockopt : Hands env rs l₀ ⊤ (sockoptOut ()) (fun _ => True) ⊤ :=
    (copySockoptOut_hands _ _).seq fun _ => .resetReturn
  exact .ite (fun _ => .ite (fun _ => (loadU64_hands _ _).seq fun _ => (loadU32_hands _ _).seq
    fun _ => (sgxCopyToEnclave_hands _ _ _ _).seq fun _ => .unless .resetReturn fun _ =>
    writeMem_hands_top.seq fun _ => hsockopt) fun _ => .pure_bind hsockopt)
    fun _ => .pure_bind .resetReturn

theorem ocallConnect_hands (domain type protocol : Int)
    (addr addrlen bindAddr bindAddrlen sockopt : Nat) :
    Hands env rs l₀ ⊤ (ocallConnect domain type protocol addr addrlen bindAddr bindAddrlen sockopt)
      (fun _ => True) ⊤ := by
  unfold ocallConnect
  refine .ite_bind (fun _ => readMem_hands _ _) (fun _ => .ret) fun bindLen _ => ?_
  refine (allocMs_hands _).bind fun ms hms => .unless .resetReturn fun _ =>
    (storeFields_hands _ _).seq fun _ =>
    .ite_bind (fun _ => sgxCopyToUstack_hands _ _) (fun _ => .pure .null) fun a ha =>
    (storePtr_hands _ ha).seq fun _ =>
    .ite_bind (fun _ => sgxCopyToUstack_hands _ _) (fun _ => .pure .null) fun b hb =>
    (storePtr_hands _ hb).seq fun _ => .unless .resetReturn fun _ =>
    (sgxExitlessOcall_hands _ hms).seq fun retval => ?_
  lift_lets
  intro done sockoptOut
  have hsockopt : Hands env rs l₀ ⊤ (sockoptOut ()) (fun _ => True) ⊤ :=
    (copySockoptOut_hands _ _).seq fun _ => .resetReturn
  exact .ite (fun _ => .ite (fun _ => (loadU64_hands _ _).seq fun _ => (loadU32_hands _ _).seq
    fun _ => (sgxCopyToEnclave_hands _ _ _ _).seq fun _ => .unless .resetReturn fun _ =>
    writeMem_hands_top.seq fun _ => hsockopt) fun _ => .pure_bind hsockopt)
    fun _ => .pure_bind .resetReturn

theorem recvBody_hands (sockfd : Int)
    (buf count addr addrlenptr control controllenptr addrlen controllen obuf : Nat)
    (hobuf : HostPtr.Outside env (rs .msBuf) ⟨obuf, none⟩) :
    Hands env rs l₀ ⊤
      (recvBody sockfd buf count addr addrlenptr control controllenptr addrlen controllen obuf)
      (fun _ => True) ⊤ := by
  unfold recvBody
  refine (allocMs_hands _).bind fun ms hms => .unless .ret fun _ => (storeFields_hands _ _).seq
    fun _ => .ite_bind (fun _ => sgxAllocOnUstack_hands _) (fun _ => .pure .null) fun a ha =>
    (storePtr_hands _ ha).seq fun _ => (storeField_hands _ (by simp)).seq
    fun _ => .ite_bind (fun _ => sgxAllocOnUstack_hands _) (fun _ => .pure .null) fun c hc =>
    (storePtr_hands _ hc).seq fun _ =>
    .ite_bind (fun _ => .pure hobuf) (fun _ => sgxAllocOnUstack_hands _) fun b hb =>
    (storePtr_hands _ hb).seq fun _ => .unless .ret fun _ =>
    (sgxExitlessOcall_hands _ hms).seq fun retval => ?_
  lift_lets
  intro done bufIn controlOut
  have hbuf : Hands env rs l₀ ⊤ (bufIn ()) (fun _ => True) ⊤ :=
    .ite (fun _ => (loadU64_hands _ _).seq fun _ => (sgxCopyToEnclave_hands _ _ _ _).seq
      fun _ => .unless .ret fun _ => .ret) fun _ => .pure_bind .ret
  have hcontrol : Hands env rs l₀ ⊤ (controlOut ()) (fun _ => True) ⊤ :=
    .ite (fun _ => (loadU64_hands _ _).seq fun _ => (loadU64_hands _ _).seq fun _ =>
      (sgxCopyToEnclave_hands _ _ _ _).seq fun _ => .unless .ret fun _ =>
      writeMem_hands_top.seq fun _ => hbuf) fun _ => .pure_bind hbuf
  exact .ite (fun _ => .ite (fun _ => (loadU64_hands _ _).seq fun _ => (loadU32_hands _ _).seq
    fun _ => (sgxCopyToEnclave_hands _ _ _ _).seq fun _ => .unless .ret fun _ =>
    writeMem_hands_top.seq fun _ => hcontrol) fun _ => .pure_bind hcontrol)
    fun _ => .pure_bind .ret

theorem ocallRecv_hands (sockfd : Int) (buf count addr addrlenptr control controllenptr : Nat)
    (hbuf : rs .msBuf (allocAlignup env.allocAlign count))
    (hmem : rs .msMem (allocAlignup env.allocAlign count)) :
    Hands env rs l₀ ⊤ (ocallRecv sockfd buf count addr addrlenptr control controllenptr)
      (fun _ => True) ⊤ := by
  unfold ocallRecv
  refine .read ((writeMem_hands fun _ _ => slotOutside_null (r := rs .msBuf)).seq fun _ => ?_)
  refine .ite_bind (fun _ => readMem_hands _ _) (fun _ => .ret) fun addrlen _ => ?_
  refine .ite_bind (fun _ => readMem_hands _ _) (fun _ => .ret) fun controllen _ => ?_
  beta_reduce
  lift_lets
  intro rest
  have hrest : Hands env rs l₀ (SlotOutside env (rs .msBuf)) (rest ()) (fun _ => True) ⊤ :=
    readMem_slot.bind fun _ hobuf => (recvBody_hands _ _ _ _ _ _ _ _ _ _ hobuf).seq fun _ =>
      sgxResetUstack_hands.seq fun _ => .ite (fun _ => (ocallMunmapUntrusted_hands _ _ hmem).seq
        fun _ => .ret) fun _ => .pure_bind .ret
  exact .ite (fun _ => (ocallMmapUntrusted_hands _ _ _ _ _ fun _ h _ _ =>
    slotOutside_copy hbuf h).seq
    fun _ => .ite (fun _ => Hands.ret.post fun _ _ => trivial) fun _ => .pure_bind hrest)
    fun _ => .pure_bind hrest

theorem sendBody_hands (sockfd : Int) (buf count addr addrlen control controllen obuf : Nat)
    (hobuf : HostPtr.Outside env (rs .msBuf) ⟨obuf, none⟩) :
    Hands env rs l₀ ⊤ (sendBody sockfd buf count addr addrlen control controllen obuf)
      (fun _ => True) ⊤ := by
  unfold sendBody
  exact (allocMs_hands _).bind fun ms hms => .unless .ret fun _ => (storeFields_hands _ _).seq
    fun _ => .ite_bind (fun _ => sgxCopyToUstack_hands _ _) (fun _ => .pure .null) fun a ha =>
    (storePtr_hands _ ha).seq fun _ => (storeField_hands _ (by simp)).seq
    fun _ => .ite_bind (fun _ => sgxCopyToUstack_hands _ _) (fun _ => .pure .null) fun c hc =>
    (storePtr_hands _ hc).seq fun _ =>
    .ite_bind (fun _ => .pure hobuf) (fun _ => sgxCopyToUstack_hands _ _) fun b hb =>
    (storePtr_hands _ hb).seq fun _ => .unless .ret fun _ =>
    sgxExitlessOcall_hands _ hms

theorem ocallSend_hands (sockfd : Int) (buf count addr addrlen control controllen : Nat)
    (hcount : rs .msBuf count) (hbuf : rs .msBuf (allocAlignup env.allocAlign count))
    (hmem : rs .msMem (allocAlignup env.allocAlign count)) :
    Hands env rs l₀ ⊤ (ocallSend sockfd buf count addr addrlen control controllen)
      (fun _ => True) ⊤ := by
  unfold ocallSend
  refine .read ((writeMem_hands fun _ _ => slotOutside_null (r := rs .msBuf)).seq fun _ => ?_)
  lift_lets
  intro rest copyIn
  have hrest : Hands env rs l₀ (SlotOutside env (rs .msBuf)) (rest ()) (fun _ => True) ⊤ :=
    readMem_slot.bind fun _ hobuf => (sendBody_hands _ _ _ _ _ _ _ _ hobuf).seq fun _ =>
      sgxResetUstack_hands.seq fun _ => .ite (fun _ => (ocallMunmapUntrusted_hands _ _ hmem).seq
        fun _ => .ret) fun _ => .pure_bind .ret
  have hcopy : Hands env rs l₀ (SlotOutside env (rs .msBuf)) (copyIn ()) (fun _ => True) ⊤ :=
    (readMem_hands _ _).seq fun _ => (copyToHost_hands _ _ _).seq fun _ => hrest
  exact .ite (fun h => (writeMem_hands fun _ _ => slotOutside_copy hcount h).seq fun _ => hrest)
    fun _ => .ite (fun _ => .ite (fun _ => (ocallMmapUntrusted_hands _ _ _ _ _
      fun _ h _ _ => slotOutside_copy hbuf h).seq fun _ =>
      .ite (fun _ => Hands.ret.post fun _ _ => trivial) fun _ => .pure_bind hcopy)
      fun _ => .pure_bind hrest) fun _ => Hands.ret.post fun _ _ => trivial

theorem ocallSetsockopt_hands (sockfd level optname : Int) (optval optlen : Nat) :
    Hands env rs l₀ ⊤ (ocallSetsockopt sockfd level optname optval optlen) (fun _ => True) ⊤ := by
  unfold ocallSetsockopt
  refine (allocMs_hands _).bind fun ms hms => .unless .resetReturn fun _ =>
    (storeFields_hands _ _).seq fun _ => (storeField_hands _ (by simp)).seq fun _ => ?_
  lift_lets
  intro dispatch
  have hdispatch : Hands env rs l₀ ⊤ (dispatch ()) (fun _ => True) ⊤ :=
    (sgxExitlessOcall_hands _ hms).seq fun _ => .resetReturn
  exact .ite (fun _ => (storeField_hands _ (by simp)).seq fun _ =>
    (sgxCopyToUstack_hands _ _).bind fun _ hv => (storePtr_hands _ hv).seq
    fun _ => .unless .resetReturn fun _ => hdispatch) fun _ => .pure_bind hdispatch

/-! ### Processes, time, polling and the rest -/

theorem copyArgs_hands (ms : HostPtr) (args : Nat) (is : List Nat) :
    Hands env rs l₀ ⊤ (copyArgs ms args is) (fun _ => True) ⊤ := by
  induction is with
  | nil => exact .ret
  | cons i is ih =>
    unfold copyArgs
    exact (readMem_hands _ _).seq fun _ => (cPathLen_hands _).seq fun _ =>
      .ite_bind (fun _ => sgxCopyToUstack_hands _ _) (fun _ => .pure .null) fun _ hp =>
      (storePtr_hands _ hp).seq fun _ => .unless .ret fun _ => ih

theorem ocallCreateProcess_hands (uri : Nat) (nargs : Int) (args procfds pid : Nat) :
    Hands env rs l₀ ⊤ (ocallCreateProcess uri nargs args procfds pid) (fun _ => True) ⊤ := by
  unfold ocallCreateProcess
  refine .read ((cPathLen_hands _).seq fun _ => (sgxAllocOnUstackAligned_hands _ _).bind
    fun ms hms => .unless .resetReturn fun _ => ?_)
  refine .ite_bind (fun _ => sgxCopyToUstack_hands _ _) (fun _ => .pure .null) fun _ hu =>
    (storePtr_hands _ hu).seq fun _ => .unless .resetReturn fun _ =>
    (storeField_hands _ (by simp)).seq fun _ => (copyArgs_hands _ _ _).seq fun _ =>
    .unless .resetReturn fun _ => (sgxExitlessOcall_hands _ hms.outside).seq fun _ => ?_
  exact .ite (fun _ => .ite (fun _ => (loadU32_hands _ _).seq fun _ =>
    writeMem_hands_top.seq fun _ => (copyWordsOut_hands _ _ _ _).seq
    fun _ => .resetReturn) fun _ => .pure_bind ((copyWordsOut_hands _ _ _ _).seq
    fun _ => .resetReturn)) fun _ => .pure_bind .resetReturn

/-- `ocall_futex` hands the host the futex word only after checking that its `sizeof(int)` bytes
lie outside the enclave. -/
theorem ocallFutex_hands (futex : Nat) (op val timeoutUs : Int) (hr : rs .msFutex sizeofInt) :
    Hands env rs l₀ ⊤ (ocallFutex futex op val timeoutUs) (fun _ => True) ⊤ := by
  unfold ocallFutex
  refine .read (.unless .resetReturn fun h => ?_)
  have hf : HostPtr.Outside env (rs .msFutex) ⟨futex, none⟩ := .checked hr (by simpa using h)
  exact (allocMs_hands _).bind fun ms hms => .unless .resetReturn fun _ =>
    (storePtr_hands _ hf).seq fun _ => (storeFields_hands _ _).seq fun _ =>
    (sgxExitlessOcall_hands _ hms).seq fun _ => .resetReturn

theorem gettimeLoop_hands {ms : HostPtr} (n : Nat) (hms : ms.Outside env fun _ => False) :
    Hands env rs l₀ ⊤ (gettimeLoop ms n) (fun _ => True) ⊤ := by
  induction n with
  | zero => exact fun _ hm => hm.1.handed
  | succ n ih => exact (sgxExitlessOcall_hands _ hms).seq fun _ => .ite (fun _ => ih) fun _ => .ret

theorem ocallGettime_hands (microsec : Nat) :
    Hands env rs l₀ ⊤ (ocallGettime microsec) (fun _ => True) ⊤ := by
  unfold ocallGettime
  exact .read ((allocMs_hands _).bind fun ms hms => .unless .resetReturn fun _ =>
    (gettimeLoop_hands _ hms).seq fun _ => .ite (fun _ => (loadU64_hands _ _).seq fun _ =>
      writeMem_hands_top.seq fun _ => .resetReturn)
      fun _ => .pure_bind .resetReturn)

theorem ocallSleep_hands (microsec : Nat) :
    Hands env rs l₀ ⊤ (ocallSleep microsec) (fun _ => True) ⊤ := by
  unfold ocallSleep
  refine (allocMs_hands _).bind fun ms hms => .unless .resetReturn fun _ =>
    .ite_bind (fun _ => readMem_hands _ _) (fun _ => .ret) fun _ _ =>
    (storeField_hands _ (by simp)).seq fun _ => (sgxOcall_hands _ hms).seq fun _ => ?_
  exact .ite (fun _ => .ite (fun _ => writeMem_hands_top.seq fun _ =>
    .resetReturn) fun _ => .ite (fun _ => (loadU64_hands _ _).seq fun _ =>
      writeMem_hands_top.seq fun _ => .resetReturn)
      fun _ => .pure_bind .resetReturn) fun _ => .pure_bind .resetReturn

theorem ocallPoll_hands (fds : Nat) (nfds timeoutUs : Int) :
    Hands env rs l₀ ⊤ (ocallPoll fds nfds timeoutUs) (fun _ => True) ⊤ := by
  unfold ocallPoll
  exact (allocMs_hands _).bind fun ms hms => .unless .resetReturn fun _ =>
    (storeFields_hands _ _).seq fun _ => (sgxCopyToUstack_hands _ _).bind fun _ hf =>
    (storePtr_hands _ hf).seq fun _ => .unless .resetReturn fun _ =>
    (sgxExitlessOcall_hands _ hms).seq fun _ => .ite (fun _ => (loadU64_hands _ _).seq fun _ =>
      (sgxCopyToEnclave_hands _ _ _ _).seq fun _ => .unless .resetReturn fun _ => .resetReturn)
      fun _ => .pure_bind .resetReturn

theorem ocallLoadDebug_hands (command : Nat) :
    Hands env rs l₀ ⊤ (ocallLoadDebug command) (fun _ => True) ⊤ := by
  unfold ocallLoadDebug
  exact (cStrlen_hands _).seq fun _ => (sgxCopyToUstack_hands _ _).bind fun _ hms =>
    .unless .resetReturn fun _ => (sgxExitlessOcall_hands _ hms).seq fun _ => .resetReturn

theorem copyBlobIn_hands (attestation : Nat) (f fLen : AttField) (nul : Bool)
    (hr : ∀ len, rs .msMem (allocAlignup env.allocAlign len)) :
    Hands env rs l₀ ⊤ (copyBlobIn attestation f fLen nul) (fun _ => True) ⊤ := by
  unfold copyBlobIn
  refine .read ((readMem_hands _ _).seq fun _ => .ite (fun _ => .ret) fun _ => .pure_bind ?_)
  refine (readMem_hands _ _).seq fun _ => (malloc_hands _).seq fun _ =>
    (readMem_hands _ _).seq fun _ => (sgxCopyToEnclave_hands _ _ _ _).seq fun _ =>
    (readMem_hands _ _).seq fun _ => (ocallMunmapUntrusted_hands _ _ (hr _)).seq fun _ => ?_
  exact .ite (fun _ => writeMem_hands_top.seq fun _ =>
    writeMem_hands_top.seq fun _ => .ret)
    fun _ => .pure_bind (writeMem_hands_top.seq fun _ => .ret)

theorem freeBlob_hands (attestation : Nat) (f : AttField) :
    Hands env rs l₀ ⊤ (freeBlob attestation f) (fun _ => True) ⊤ := by
  unfold freeBlob
  exact .read ((readMem_hands _ _).seq fun _ => .ite (fun _ => free_hands _) fun _ => .ret)

theorem ocallGetAttestation_hands (spid subkey : Nat) (linkable : Bool)
    (report nonce attestation : Nat) (hr : ∀ len, rs .msMem (allocAlignup env.allocAlign len)) :
    Hands env rs l₀ ⊤ (ocallGetAttestation spid subkey linkable report nonce attestation)
      (fun _ => True) ⊤ := by
  unfold ocallGetAttestation
  refine .read ((allocMs_hands _).bind fun ms hms => .unless .resetReturn fun _ =>
    (copyToField_hands _ _ _ _).seq fun _ => (cStrlen_hands _).seq fun _ =>
    (sgxCopyToUstack_hands _ _).bind fun _ hsk => (storePtr_hands _ hsk).seq
    fun _ => (copyToField_hands _ _ _ _).seq fun _ => (copyToField_hands _ _ _ _).seq fun _ =>
    (storeField_hands _ (by simp)).seq fun _ => (sgxExitlessOcall_hands _ hms).seq fun _ =>
    .unless .resetReturn fun _ => (sgxCopyToEnclave_hands _ _ _ _).seq fun _ =>
    .unless .resetReturn fun _ => sgxResetUstack_hands.seq fun _ => ?_)
  refine (copyBlobIn_hands _ _ _ _ hr).seq fun _ => (copyBlobIn_hands _ _ _ _ hr).seq fun _ =>
    (copyBlobIn_hands _ _ _ _ hr).seq fun _ => (copyBlobIn_hands _ _ _ _ hr).seq fun _ => ?_
  exact .ite (fun _ => (freeBlob_hands _ _).seq fun _ => (freeBlob_hands _ _).seq fun _ =>
    (freeBlob_hands _ _).seq fun _ => (freeBlob_hands _ _).seq fun _ => .ret)
    fun _ => .pure_bind .ret

theorem exitLoop_hands {ms : HostPtr} (n : Nat) (hms : ms.Outside env fun _ => False) :
    Hands env rs l₀ ⊤ (exitLoop ms n) (fun _ => True) ⊤ := by
  induction n with
  | zero => exact fun _ hm => hm.1.handed
  | succ n ih => exact (sgxOcall_hands _ hms).seq fun _ => ih

theorem ocallExit_hands (exitcode isExitgroup : Int) :
    Hands env rs l₀ ⊤ (ocallExit exitcode isExitgroup) (fun _ => True) ⊤ := by
  unfold ocallExit
  exact .read ((sgxAllocOnUstackAligned_hands _ _).bind fun _ hms =>
    (storeField_hands _ (by simp)).seq fun _ => (storeField_hands _ (by simp)).seq
    fun _ => exitLoop_hands _ hms.outside)

end Wrappers

/-- The lengths for which a wrapper checks, with `sgx_is_completely_outside_enclave`, a host region
whose address it stores into field `f`: those its argument struct announces. `ms_futex` holds a
futex word of `sizeof(int)` bytes, and `ms_mem` the region of `size` bytes to unmap. A caller's
buffer in `ms_buf` has the `count` bytes of `ms_count`. A mapping in `ms_buf`, and the `ms_mem`
that unmaps it, have the `ALLOC_ALIGNUP(count)` bytes that `ocall_mmap_untrusted` was asked for;
the blobs of `ocall_get_attestation` are unmapped with `ALLOC_ALIGNUP(len)` for the length `len`
the host reported. No other field holds a checked host region. -/
def Call.hostRegions (env : Env) : Call → Field → Nat → Prop
  | .munmapUntrusted _ size => fun f n => f = .msMem ∧ n = size
  | .futex .. => fun f n => f = .msFutex ∧ n = sizeofInt
  | .read _ _ count | .recv _ _ count .. => fun f n =>
    (f = .msBuf ∨ f = .msMem) ∧ n = allocAlignup env.allocAlign count
  | .write _ _ count | .send _ _ count .. => fun f n =>
    f = .msBuf ∧ n = count ∨ (f = .msBuf ∨ f = .msMem) ∧ n = allocAlignup env.allocAlign count
  | .getAttestation .. => fun f n => f = .msMem ∧ ∃ len, n = allocAlignup env.allocAlign len
  | _ => fun _ _ => False

section Calls

variable {env : Env} {l₀ : List Entry}

/-- Every wrapper but `ocall_resume_thread`, whose argument is the TCS address the host created,
hands the host only pointers outside the enclave, each checked host region for the length its
field announces. -/
theorem Call.run_hands (c : Call) (hc : ∀ tcs, c ≠ .resumeThread tcs) :
    Hands env (c.hostRegions env) l₀ ⊤ c.run (fun _ => True) ⊤ := by
  cases c with
  | exit => exact (ocallExit_hands _ _).map fun e _ => e.elim
  | mmapUntrusted => exact ocallMmapUntrusted_hands _ _ _ _ _ fun _ _ _ _ => trivial
  | munmapUntrusted => exact ocallMunmapUntrusted_hands _ _ ⟨rfl, rfl⟩
  | cpuid => exact outputOcall_hands _ _ _ fun _ => copyWordsOut_hands _ _ _ _
  | «open» => exact pathOcall_hands _ _ _
  | close => exact scalarOcall_hands _ _
  | read => exact ocallRead_hands _ _ _ ⟨.inl rfl, rfl⟩ ⟨.inr rfl, rfl⟩
  | write =>
    exact ocallWrite_hands _ _ _ (Or.inl ⟨rfl, rfl⟩) (Or.inr ⟨.inl rfl, rfl⟩)
      (Or.inr ⟨.inr rfl, rfl⟩)
  | fstat => exact ocallFstat_hands _ _
  | fionread => exact scalarOcall_hands _ _
  | fsetnonblock => exact scalarOcall_hands _ _
  | fchmod => exact scalarOcall_hands _ _
  | fsync => exact scalarOcall_hands _ _
  | ftruncate => exact scalarOcall_hands _ _
  | lseek => exact scalarOcall_hands _ _
  | mkdir => exact pathOcall_hands _ _ _
  | getdents => exact ocallGetdents_hands _ _ _
  | resumeThread tcs => exact absurd rfl (hc tcs)
  | cloneThread => exact sgxExitlessOcall_hands _ .null
  | createProcess => exact ocallCreateProcess_hands _ _ _ _ _
  | futex => exact ocallFutex_hands _ _ _ _ ⟨rfl, rfl⟩
  | socketpair => exact outputOcall_hands _ _ _ fun _ => copyWordsOut_hands _ _ _ _
  | listen => exact addrOcall_hands _ _ _ _ _
  | accept => exact addrOcall_hands _ _ _ _ _
  | connect => exact ocallConnect_hands _ _ _ _ _ _ _ _
  | recv => exact ocallRecv_hands _ _ _ _ _ _ _ ⟨.inl rfl, rfl⟩ ⟨.inr rfl, rfl⟩
  | send =>
    exact ocallSend_hands _ _ _ _ _ _ _ (Or.inl ⟨rfl, rfl⟩) (Or.inr ⟨.inl rfl, rfl⟩)
      (Or.inr ⟨.inr rfl, rfl⟩)
  | setsockopt => exact ocallSetsockopt_hands _ _ _ _ _
  | shutdown => exact scalarOcall_hands _ _
  | gettime => exact ocallGettime_hands _
  | sleep => exact ocallSleep_hands _
  | poll => exact ocallPoll_hands _ _ _
  | rename => exact ocallRename_hands _ _
  | delete => exact pathOcall_hands _ _ _
  | loadDebug => exact ocallLoadDebug_hands _
  | getAttestation => exact ocallGetAttestation_hands _ _ _ _ _ _ fun len => ⟨rfl, len, rfl⟩
  | eventfd => exact scalarOcall_hands _ _

end Calls

/-- No enclave address is handed to the host: every wrapper but `ocall_resume_thread`, entered
with the untrusted-stack pointer within the stack, on every path and whatever the host answers,
stores into host memory, enqueues and passes to an exit only pointers that are NULL, on the
untrusted stack, or at a host region it checked to lie outside the enclave for the length the
field announces (`Call.hostRegions`); and it leaves the untrusted-stack pointer within the
stack. -/
theorem ocall_hands_only_outside_pointers (c : Call) (hc : ∀ tcs, c ≠ .resumeThread tcs)
    (env : Env) (m : Machine) (hu : m.ustack ≤ env.ustackTop) :
    wp c.run env m
      (fun _ m' => m'.ustack ≤ env.ustackTop ∧ HandedSince env (c.hostRegions env) m.log m'.log)
      (HandedSince env (c.hostRegions env) m.log ·.log)
      (HandedSince env (c.hostRegions env) m.log ·.log) :=
  (c.run_hands hc).run ⟨hu, .refl m.log⟩ trivial fun _ _ hm' _ _ => ⟨hm'.ustack, hm'.handed⟩

/-- `ocall_futex` on a futex word at `4096`, below the enclave, from the top of the untrusted
stack, with the RPC queue on: the word is a checked host region. -/
theorem futex_hands_only_outside_pointers :
    let env := sampleEnv promptHost true true
    wp (Call.futex 4096 0 0 0).run env (sampleMachine env 0)
      (fun _ m' => m'.ustack ≤ 2 ^ 21 ∧
        HandedSince env ((Call.futex 4096 0 0 0).hostRegions env) [] m'.log)
      (HandedSince env ((Call.futex 4096 0 0 0).hostRegions env) [] ·.log)
      (HandedSince env ((Call.futex 4096 0 0 0).hostRegions env) [] ·.log) :=
  ocall_hands_only_outside_pointers (.futex 4096 0 0 0) (fun _ h => Call.noConfusion h) _ _ le_rfl

end EnclaveOcalls
