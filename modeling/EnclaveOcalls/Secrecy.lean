import EnclaveOcalls.Confinement

/-!
# What the host learns of enclave memory

The host sees everything the enclave thread does, in the log: every field stored into an argument
struct, every untrusted-stack allocation, every OCALL and every enclave write. Of a copy of enclave
bytes into host memory it sees the bytes copied. Enclave memory reaches the log only through the
bytes a wrapper copies out and the words it reads to marshal them, so a wrapper shows the host
nothing of enclave memory but these inputs, whatever the host answers.

This file proves the following.
* `Secret env P A c`: two runs of `c` from machines the host cannot tell apart (`LowEq`), whose
  enclave memories agree on `A`, end alike: both return the same value, both fault or both outrun
  their fuel, in machines the host cannot tell apart whose memories still agree on `A`. It has
  rules for sequencing and branching, and one lemma per helper: a read of enclave memory needs the
  bytes it reads in `A`, and every write of a wrapper writes the same bytes in both runs.
* For every wrapper and every argument, two runs whose enclave memories agree on the wrapper's
  inputs `Call.inputs` end alike (`ocall_reveals_only_inputs`). The inputs are the strings, buffers
  and length words the wrapper copies out, at their extent in the caller's memory. `ocall_accept`
  copies out the buffer `addr` it is given for the peer's address; `ocall_recv` copies out none of
  its buffers. Both runs face the same host, one that sees of a copy only the bytes copied
  (`Env.Blind`).
* The same holds of a thread's calls one after another (`ocalls_reveal_only_inputs`), with the
  inputs of each call taken as the memory holds them when that call starts: what an earlier call
  wrote there came from the host, alike in both runs.
-/

namespace EnclaveOcalls

open OcallM

/-! ## What the host sees -/

/-- The first `n` bytes of `data`, then zeros: what a copy of `n` bytes shows. -/
def maskBytes (n : Nat) (data : Nat → UInt8) : Nat → UInt8 := fun i => if i < n then data i else 0

/-- A stored value as the host sees it: of bytes copied from the enclave, the `n` copied. -/
def Val.view : Val → Val
  | .bytes n data => .bytes n (maskBytes n data)
  | v => v

/-- An event as the host sees it. -/
def Event.view : Event → Event
  | .store ms f v => .store ms f v.view
  | .storeBytes dst n data => .storeBytes dst n (maskBytes n data)
  | e => e

/-- The log as the host sees it. -/
def viewLog (l : List Entry) : List Entry := l.map fun e => ⟨e.gen, e.ev.view⟩

@[simp] theorem viewLog_cons (g : Nat) (e : Event) (l : List Entry) :
    viewLog (⟨g, e⟩ :: l) = ⟨g, e.view⟩ :: viewLog l := rfl

/-- The host sees of a copy of enclave bytes only the bytes copied, and so does the enclave heap
in its choice of addresses: the model's log keeps the source of a copy whole, where host memory
receives `n` bytes of it. -/
structure Env.Blind (env : Env) : Prop where
  word : ∀ l, env.host.word (viewLog l) = env.host.word l
  bytes : ∀ l, env.host.bytes (viewLog l) = env.host.bytes l
  malloc : ∀ l, env.malloc (viewLog l) = env.malloc l

/-- Two machines the host cannot tell apart (the same untrusted-stack pointer and generation, logs
it sees as the same) whose enclave memories agree on `A`. -/
structure LowEq (A : Nat → Prop) (m₁ m₂ : Machine) : Prop where
  ustack : m₁.ustack = m₂.ustack
  gen : m₁.gen = m₂.gen
  log : viewLog m₁.log = viewLog m₂.log
  mem : ∀ a, A a → m₁.mem a = m₂.mem a

/-- Two runs that ended alike: both returned the same value, both faulted or both outran their
fuel, in machines `LowEq A`. -/
def Outcome.Alike (A : Nat → Prop) : Outcome α → Outcome α → Prop
  | .ok a m₁, .ok b m₂ => a = b ∧ LowEq A m₁ m₂
  | .fault m₁, .fault m₂ | .diverge m₁, .diverge m₂ => LowEq A m₁ m₂
  | _, _ => False

section LowEq

variable {env : Env} {A : Nat → Prop} {m₁ m₂ : Machine}

theorem LowEq.push (h : LowEq A m₁ m₂) {e₁ e₂ : Event} (he : e₁.view = e₂.view) :
    LowEq A (m₁.push e₁) (m₂.push e₂) :=
  ⟨h.ustack, h.gen, by rw [Machine.push_log, Machine.push_log, viewLog_cons, viewLog_cons, h.log,
    h.gen, he], h.mem⟩

theorem LowEq.word (hb : env.Blind) (h : LowEq A m₁ m₂) :
    env.host.word m₁.log = env.host.word m₂.log := by
  rw [← hb.word, h.log, hb.word]

theorem LowEq.bytes (hb : env.Blind) (h : LowEq A m₁ m₂) :
    env.host.bytes m₁.log = env.host.bytes m₂.log := by
  rw [← hb.bytes, h.log, hb.bytes]

theorem LowEq.malloc (hb : env.Blind) (h : LowEq A m₁ m₂) :
    env.malloc m₁.log = env.malloc m₂.log := by
  rw [← hb.malloc, h.log, hb.malloc]

theorem LowEq.mono {A' : Nat → Prop} (h : LowEq A m₁ m₂) (hA : ∀ a, A' a → A a) : LowEq A' m₁ m₂ :=
  ⟨h.ustack, h.gen, h.log, fun a ha => h.mem a (hA a ha)⟩

/-- A write of the same bytes in both runs: the memories agree on what they agreed on, and on
the bytes written. -/
theorem LowEq.write (h : LowEq A m₁ m₂) (dst n : Nat) (data : Nat → UInt8) :
    LowEq (fun a => A a ∨ dst ≤ a ∧ a < dst + n)
      { m₁.push (.write dst n) with mem := m₁.mem.copy dst n data }
      { m₂.push (.write dst n) with mem := m₂.mem.copy dst n data } := by
  refine ⟨h.ustack, h.gen, (h.push rfl).log, fun a ha => ?_⟩
  simp only [Mem.copy]
  split_ifs with hin
  · rfl
  · exact h.mem a (ha.resolve_right hin)

/-- Bytes the host copies in land alike in both runs. -/
theorem LowEq.copy (h : LowEq A m₁ m₂) (dst n : Nat) (data : Nat → UInt8) :
    LowEq A { m₁.push (.write dst n) with mem := m₁.mem.copy dst n data }
      { m₂.push (.write dst n) with mem := m₂.mem.copy dst n data } :=
  (h.write dst n data).mono fun _ => .inl

/-- A copy of `n` bytes at `src` out of memories that agree on them shows the host the same. -/
theorem LowEq.mask (h : LowEq A m₁ m₂) {src n : Nat} (hA : ∀ i < n, A (src + i)) :
    maskBytes n (m₁.mem.slice src) = maskBytes n (m₂.mem.slice src) := by
  funext i
  simp only [maskBytes, Mem.slice]
  split_ifs with hi
  · exact h.mem _ (hA i hi)
  · rfl

theorem Outcome.Alike.mono {A' : Nat → Prop} {o₁ o₂ : Outcome α} (h : o₁.Alike A o₂)
    (hA : ∀ a, A' a → A a) : o₁.Alike A' o₂ := by
  cases o₁ <;> cases o₂ <;> simp only [Outcome.Alike] at h ⊢
  case ok.ok => exact ⟨h.1, h.2.mono hA⟩
  all_goals exact h.mono hA

end LowEq

/-! ## Memory the wrappers read -/

theorem Mem.load_congr {mem₁ mem₂ : Mem} {p n : Nat} (h : ∀ i < n, mem₁ (p + i) = mem₂ (p + i)) :
    mem₁.load p n = mem₂.load p n := by
  induction n generalizing p with
  | zero => rfl
  | succ n ih =>
    simp only [Mem.load]
    rw [show mem₁ p = mem₂ p from h 0 n.succ_pos,
      ih fun i hi => by simpa [Nat.add_assoc, Nat.add_comm 1] using h (i + 1) (by omega)]

/-- `strlen` reads the string up to its NUL: memories that agree there measure it alike. -/
theorem strlenUpTo_congr {mem₁ mem₂ : Mem} {p k : Nat}
    (h : ∀ i < k, i ≤ strlenUpTo mem₁ p k → mem₁ (p + i) = mem₂ (p + i)) :
    strlenUpTo mem₁ p k = strlenUpTo mem₂ p k := by
  induction k generalizing p with
  | zero => rfl
  | succ k ih =>
    have h₀ : mem₁ p = mem₂ p := h 0 k.succ_pos (Nat.zero_le _)
    simp only [strlenUpTo, ← h₀]
    split_ifs with hz
    · rfl
    · rw [ih fun i hi hle => by
        simpa [Nat.add_assoc, Nat.add_comm 1] using
          h (i + 1) (by omega) (by simp only [strlenUpTo, if_neg hz]; omega)]

theorem strlen_congr {mem₁ mem₂ : Mem} {p : Nat}
    (h : ∀ a, p ≤ a → a ≤ p + strlen mem₁ p → mem₁ a = mem₂ a) : strlen mem₁ p = strlen mem₂ p :=
  strlenUpTo_congr fun i _ hi => h (p + i) (Nat.le_add_right p i) (by unfold strlen; omega)

/-- The bytes of the string at `p` that a wrapper reads and copies out: `strlen` reads up to the
NUL, and the copy takes the `int` length `strlen(p) + 1`, which wraps for a string of `2 ^ 31`
bytes or more. -/
def strIn (mem : Mem) (p a : Nat) : Prop :=
  p ≠ 0 ∧ p ≤ a ∧ (a ≤ p + strlen mem p ∨ a < p + toU64 (toI32 (strlen mem p + 1)))

/-! ## Two runs -/

/-- From machines `LowEq A`, the first satisfying `P`, two runs of `c` end alike. -/
def Secret (env : Env) (P : Machine → Prop) (A : Nat → Prop) (c : OcallM α) : Prop :=
  ∀ m₁ m₂, P m₁ → LowEq A m₁ m₂ → (c env m₁).Alike A (c env m₂)

section Secret

variable {env : Env} {P : Machine → Prop} {A : Nat → Prop}

/-- Every run satisfies the trivial postcondition. -/
theorem Triple.true (c : OcallM α) : Triple env P c fun _ _ => True := fun m _ => by
  unfold wp
  split <;> trivial

theorem Secret.ret {a : α} : Secret env P A (Pure.pure a) := fun _ _ _ h => ⟨rfl, h⟩

/-- Sequencing, with what run 1 establishes of the first part (`t`) passed to the rest. -/
theorem Secret.bind_with {x : OcallM β} {f : β → OcallM α} {Q : β → Machine → Prop}
    (hx : Secret env P A x) (t : Triple env P x Q) (hf : ∀ b, Secret env (Q b) A (f b)) :
    Secret env P A (x >>= f) := fun m₁ m₂ hp h => by
  have hq := t m₁ hp
  have hx' := hx m₁ m₂ hp h
  unfold wp at hq
  show Outcome.Alike A (OcallM.bind x f env m₁) (OcallM.bind x f env m₂)
  unfold OcallM.bind
  revert hq hx'
  cases x env m₁ <;> cases x env m₂ <;> simp only [Outcome.Alike, false_imp_iff, imp_true_iff]
  case ok.ok a m₁' b m₂' => exact fun hq ⟨hab, h'⟩ => hab ▸ hf a m₁' m₂' hq h'
  all_goals exact fun _ h' => h'

theorem Secret.bind {x : OcallM β} {f : β → OcallM α} (hx : Secret env P A x)
    (hf : ∀ b, Secret env (fun _ => True) A (f b)) : Secret env P A (x >>= f) :=
  hx.bind_with (Triple.true x) hf

theorem Secret.ite {b : Prop} [Decidable b] {x y : OcallM α} (hx : b → Secret env P A x)
    (hy : ¬b → Secret env P A y) : Secret env P A (if b then x else y) := by
  by_cases h : b
  · rw [if_pos h]; exact hx h
  · rw [if_neg h]; exact hy h

theorem Secret.pure_bind {a : β} {f : β → OcallM α} (h : Secret env P A (f a)) :
    Secret env P A (Pure.pure a >>= f) := h

/-- `if (b) { ...; return v; }` before the rest `k`. -/
theorem Secret.unless {b : Prop} [Decidable b] {x : OcallM α} {k : PUnit → OcallM α}
    (hx : Secret env P A x) (hk : ¬b → Secret env P A (k ())) :
    Secret env P A (if b then x else Pure.pure () >>= k) :=
  .ite (fun _ => hx) fun h => .pure_bind (hk h)

/-- A conditional whose two branches go on to the same join point `k`. -/
theorem Secret.ite_bind {b : Prop} [Decidable b] {x y : OcallM β} {k : β → OcallM α}
    (hx : b → Secret env P A x) (hy : ¬b → Secret env P A y)
    (hk : ∀ a, Secret env (fun _ => True) A (k a)) :
    Secret env P A (if b then x >>= k else y >>= k) :=
  .ite (fun h => (hx h).bind hk) fun h => (hy h).bind hk

/-- A conditional followed by the rest `k`. -/
theorem Secret.bind_ite {b : Prop} [Decidable b] {x y : OcallM β} {k : β → OcallM α}
    (hx : b → Secret env P A (x >>= k)) (hy : ¬b → Secret env P A (y >>= k)) :
    Secret env P A ((if b then x else y) >>= k) := by
  by_cases h : b
  · rw [if_pos h]; exact hx h
  · rw [if_neg h]; exact hy h

/-- `Secret.ite_bind`, with what run 1 establishes of each branch passed to the rest. -/
theorem Secret.ite_bind_with {b : Prop} [Decidable b] {x y : OcallM β} {k : β → OcallM α}
    {Q : β → Machine → Prop} (hx : b → Secret env P A x) (tx : b → Triple env P x Q)
    (hy : ¬b → Secret env P A y) (ty : ¬b → Triple env P y Q)
    (hk : ∀ a, Secret env (Q a) A (k a)) : Secret env P A (if b then x >>= k else y >>= k) :=
  .ite (fun h => (hx h).bind_with (tx h) hk) fun h => (hy h).bind_with (ty h) hk

theorem OcallM.bind_assoc (x : OcallM γ) (f : γ → OcallM β) (g : β → OcallM α) :
    x >>= f >>= g = x >>= fun a => f a >>= g := by
  funext env m
  show OcallM.bind (OcallM.bind x f) g env m = OcallM.bind x (fun a => OcallM.bind (f a) g) env m
  unfold OcallM.bind
  cases x env m <;> rfl

theorem Secret.read {f : Env → OcallM α} (h : Secret env P A (f env)) :
    Secret env P A (OcallM.read >>= f) := h

theorem Secret.map {x : OcallM β} {f : β → α} (h : Secret env P A x) :
    Secret env P A (f <$> x) :=
  h.bind (f := fun b => Pure.pure (f b)) fun _ => .ret

/-- A fact about the values so far, moved from the precondition into the context. -/
theorem Secret.assume {R : Prop} {c : OcallM α} (h : R → Secret env P A c) :
    Secret env (fun m => P m ∧ R) A c :=
  fun m₁ m₂ hp => h hp.2 m₁ m₂ hp.1

/-- Consequence: strengthen the precondition. -/
theorem Secret.pre {P' : Machine → Prop} {c : OcallM α} (hP : ∀ m, P m → P' m)
    (h : Secret env P' A c) : Secret env P A c :=
  fun m₁ m₂ hp => h m₁ m₂ (hP m₁ hp)

/-! ### Enclave memory -/

/-- A write of the same bytes in both runs, after which the rest may read them. -/
theorem writeMem_bind_secret {dst n : Nat} {data : Nat → UInt8} {k : Unit → OcallM α}
    (hk : Secret env (fun _ => True) (fun a => A a ∨ dst ≤ a ∧ a < dst + n) (k ())) :
    Secret env P A (writeMem dst n data >>= k) := fun m₁ m₂ _ h => by
  show Outcome.Alike A (OcallM.bind _ k env m₁) (OcallM.bind _ k env m₂)
  unfold OcallM.bind writeMem
  split_ifs
  · exact h
  · exact (hk _ _ trivial (h.write dst n data)).mono fun _ => .inl

theorem writeMem_secret {dst n : Nat} {data : Nat → UInt8} :
    Secret env P A (writeMem dst n data) := fun m₁ m₂ _ h => by
  unfold writeMem
  split_ifs
  exacts [h, ⟨rfl, h.copy dst n data⟩]

theorem readMem_secret {src n : Nat} (hA : src ≠ 0 → ∀ i < n, A (src + i)) :
    Secret env P A (readMem src n) := fun m₁ m₂ _ h => by
  unfold readMem
  split_ifs with h0
  exacts [h, ⟨Mem.load_congr fun i hi => h.mem _ (hA h0 i hi), h⟩]

/-- `strlen(p)` before the wrapper writes anything reads the string as the caller left it. -/
theorem cStrlen_secret {m₀ : Machine} {p : Nat} (hA : ∀ a, strIn m₀.mem p a → A a) :
    Secret env (Grown (fun _ => False) m₀) A (cStrlen p) := fun m₁ m₂ hp h => by
  unfold cStrlen
  split_ifs with h0
  exacts [h, ⟨strlen_congr fun a h₁ h₂ => h.mem a (hA a ⟨h0, h₁, .inl (hp.mem_eq ▸ h₂)⟩), h⟩]

theorem malloc_secret (hb : env.Blind) {size : Nat} : Secret env P A (malloc size) :=
  fun _ _ _ h => by
    simp only [malloc, h.malloc hb]
    exact ⟨rfl, h.push rfl⟩

theorem free_secret {p : Nat} : Secret env P A (free p) := fun _ _ _ h => ⟨rfl, h.push rfl⟩

/-! ### Host memory -/

theorem storeField_secret {ms : HostPtr} {f : Field} {v : Val} :
    Secret env P A (storeField ms f v) := fun _ _ _ h => by
  unfold storeField
  split_ifs
  exacts [h, ⟨rfl, h.push rfl⟩]

theorem copyToField_secret {ms : HostPtr} {f : Field} {src n : Nat} (hA : ∀ i < n, A (src + i)) :
    Secret env P A (copyToField ms f src n) := fun _ _ _ h => by
  unfold copyToField
  split_ifs
  exacts [h, ⟨rfl, h.push (by simp only [Event.view, Val.view, h.mask hA])⟩]

theorem copyToHost_secret {dst : HostPtr} {src n : Nat} (hA : ∀ i < n, A (src + i)) :
    Secret env P A (copyToHost dst src n) := fun _ _ _ h => by
  unfold copyToHost
  split_ifs
  exacts [h, ⟨rfl, h.push (by simp only [Event.view, h.mask hA])⟩]

/-- A query the host answers alike in both runs. -/
theorem query_secret (hb : env.Blind) {e : Event} : Secret env P A (query e) :=
  fun _ _ _ h => ⟨(h.push rfl).word hb, h.push rfl⟩

theorem queryBytes_secret (hb : env.Blind) {e : Event} : Secret env P A (queryBytes e) :=
  fun _ _ _ h => ⟨(h.push rfl).bytes hb, h.push rfl⟩

theorem loadField_secret (hb : env.Blind) {ms : HostPtr} {f : Field} :
    Secret env P A (loadField ms f) := fun m₁ m₂ hp h => by
  unfold loadField
  split_ifs
  exacts [h, query_secret hb m₁ m₂ hp h]

theorem loadFieldBytes_secret (hb : env.Blind) {ms : HostPtr} {f : Field} :
    Secret env P A (loadFieldBytes ms f) := fun m₁ m₂ hp h => by
  unfold loadFieldBytes
  split_ifs
  exacts [h, queryBytes_secret hb m₁ m₂ hp h]

theorem loadU32_secret (hb : env.Blind) {ms : HostPtr} {f : Field} :
    Secret env P A (loadU32 ms f) := (loadField_secret hb).map

theorem loadU64_secret (hb : env.Blind) {ms : HostPtr} {f : Field} :
    Secret env P A (loadU64 ms f) := (loadField_secret hb).map

theorem loadI32_secret (hb : env.Blind) {ms : HostPtr} {f : Field} :
    Secret env P A (loadI32 ms f) := by
  unfold loadI32
  exact ((loadField_secret hb).bind fun _ => .ret).map

/-! ### The untrusted stack and the boundary copies -/

theorem sgxAllocOnUstackAligned_secret {size alignment : Nat} :
    Secret env P A (sgxAllocOnUstackAligned size alignment) := fun m₁ m₂ _ h => by
  obtain ⟨mem₁, u, g, l₁⟩ := m₁
  obtain ⟨mem₂, u₂, g₂, l₂⟩ := m₂
  obtain ⟨rfl, rfl, hl, hm⟩ := h
  unfold sgxAllocOnUstackAligned
  split_ifs
  · refine ⟨rfl, LowEq.push ?_ rfl⟩
    exact ⟨rfl, rfl, hl, hm⟩
  · exact ⟨rfl, rfl, rfl, hl, hm⟩

theorem allocMs_secret {code : OcallCode} : Secret env P A (allocMs code) :=
  .read sgxAllocOnUstackAligned_secret

theorem sgxResetUstack_secret : Secret env P A sgxResetUstack := fun _ _ _ h =>
  ⟨rfl, ⟨rfl, by simp [h.gen], (h.push rfl).log, h.mem⟩⟩

/-- `sgx_reset_ustack(); return v;` -/
theorem Secret.resetReturn {v : α} : Secret env P A (sgxResetUstack >>= fun _ => Pure.pure v) :=
  sgxResetUstack_secret.bind fun _ => .ret

theorem storeFields_secret {ms : HostPtr} {fields : List (Field × Int)} :
    Secret env P A (storeFields ms fields) := by
  induction fields generalizing P with
  | nil => exact .ret
  | cons fv rest ih => exact storeField_secret.bind fun _ => ih

/-- `sgx_copy_to_ustack(ptr, size)` copies `ptr[0, size)` out only when the region lies inside
the enclave. -/
theorem sgxCopyToUstack_secret {ptr size : Nat}
    (hA : sgxIsCompletelyWithinEnclave env.enclave ptr size = true → ∀ i < size, A (ptr + i)) :
    Secret env P A (sgxCopyToUstack ptr size) := by
  unfold sgxCopyToUstack
  refine .read (.ite (fun _ => .ret) fun hw => .pure_bind ?_)
  exact sgxAllocOnUstackAligned_secret.bind fun _ =>
    .ite_bind (fun _ => copyToHost_secret (hA (by simpa using hw))) (fun _ => .ret) fun _ => .ret

theorem sgxCopyToEnclave_secret (hb : env.Blind) {ptr maxsize : Nat} {uptr : HostPtr}
    {usize : Nat} : Secret env P A (sgxCopyToEnclave ptr maxsize uptr usize) := by
  unfold sgxCopyToEnclave
  exact .read (.ite (fun _ => (queryBytes_secret hb).bind fun _ => writeMem_secret.bind
    fun _ => .ret) fun _ => .ret)

/-- A copy into the enclave that, when it succeeds, lets the rest read the bytes it wrote. -/
theorem sgxCopyToEnclave_bind_secret (hb : env.Blind) {ptr maxsize : Nat} {uptr : HostPtr}
    {usize : Nat} {k : Nat → OcallM α} (h₀ : Secret env (fun _ => True) A (k 0))
    (hk : Secret env (fun _ => True) (fun a => A a ∨ ptr ≤ a ∧ a < ptr + usize) (k usize)) :
    Secret env P A (sgxCopyToEnclave ptr maxsize uptr usize >>= k) := by
  unfold sgxCopyToEnclave
  rw [OcallM.bind_assoc]
  refine .read (.bind_ite (fun _ => ?_) fun _ => .pure_bind (h₀.pre fun _ _ => trivial))
  simp only [OcallM.bind_assoc]
  exact (queryBytes_secret hb).bind fun _ => writeMem_bind_secret (.pure_bind hk)

theorem sgxCopyPtrToEnclave_secret {ptr uptr size : Nat} :
    Secret env P A (sgxCopyPtrToEnclave ptr uptr size) := by
  unfold sgxCopyPtrToEnclave
  exact .read (.ite (fun _ => writeMem_secret.bind fun _ => .ret) fun _ => .ret)

/-! ### Leaving the enclave -/

theorem sgxOcall_secret (hb : env.Blind) {code : OcallCode} {ms : HostPtr} :
    Secret env P A (sgxOcall code ms) := ((query_secret hb).bind fun _ => .ret).map

theorem rpcEnqueue_secret (hb : env.Blind) {req : HostPtr} : Secret env P A (rpcEnqueue req) :=
  (query_secret hb).bind fun _ => .ret

theorem spinlockCmpxchg_secret (hb : env.Blind) {req : HostPtr} {expected desired : Int} :
    Secret env P A (spinlockCmpxchg req expected desired) :=
  .read (((query_secret hb).bind fun _ => .ret).map.bind fun _ => .ret)

theorem spinlockLockTimeout_secret (hb : env.Blind) {req : HostPtr} (n : Nat) :
    Secret env P A (spinlockLockTimeout req n) := by
  induction n generalizing P with
  | zero => exact .ret
  | succ n ih => exact (spinlockCmpxchg_secret hb).bind fun _ => .ite (fun _ => .ret) fun _ => ih

theorem futexWaitLoop_secret (hb : env.Blind) {req ms : HostPtr} (n : Nat) (c : Int) :
    Secret env P A (futexWaitLoop req ms n c) := by
  induction n generalizing P c with
  | zero => exact fun _ _ _ h => h
  | succ n ih =>
    unfold futexWaitLoop
    refine (Secret.ite (fun _ => .ret) fun _ => (spinlockCmpxchg_secret hb).map).bind fun _ => ?_
    refine (Secret.ite (fun _ => storeField_secret.bind fun _ => (sgxOcall_secret hb).bind
      fun _ => .ret) fun _ => .ret).bind fun _ => .ite (fun _ => .ret) fun _ => ?_
    exact Secret.ret.bind fun _ => (spinlockCmpxchg_secret hb).bind fun _ =>
      .ite (fun _ => .ret) fun _ => Secret.ret.bind fun _ => ih _

theorem exitlessWait_secret (hb : env.Blind) {req : HostPtr} :
    Secret env P A (exitlessWait req) := by
  unfold exitlessWait
  refine .read ((spinlockLockTimeout_secret hb _).bind fun _ => .ite (fun _ => ?_)
    fun _ => Secret.ret.bind fun _ => loadI32_secret hb)
  refine (spinlockCmpxchg_secret hb).bind fun _ => .ite (fun _ => ?_)
    fun _ => Secret.ret.bind fun _ => loadI32_secret hb
  refine sgxAllocOnUstackAligned_secret.bind fun _ => storeField_secret.bind fun _ =>
    storeField_secret.bind fun _ => storeField_secret.bind fun _ =>
    (futexWaitLoop_secret hb _ _).bind fun o => ?_
  cases o
  · exact Secret.ret.bind fun _ => loadI32_secret hb
  · exact .ret

theorem sgxExitlessOcall_secret (hb : env.Blind) {code : OcallCode} {ms : HostPtr} :
    Secret env P A (sgxExitlessOcall code ms) := by
  unfold sgxExitlessOcall
  refine .read (.ite (fun _ => (sgxOcall_secret hb).bind fun _ => .ret) fun _ => ?_)
  refine Secret.ret.bind fun _ => sgxAllocOnUstackAligned_secret.bind fun _ =>
    storeField_secret.bind fun _ => storeField_secret.bind fun _ =>
    storeField_secret.bind fun _ => storeField_secret.bind fun _ =>
    (rpcEnqueue_secret hb).bind fun _ => ?_
  exact .ite (fun _ => (sgxOcall_secret hb).bind fun _ => .ret) fun _ =>
    Secret.ret.bind fun _ => exitlessWait_secret hb

theorem ocallMmapUntrusted_secret (hb : env.Blind) {fd : Int} {offset size prot mem : Nat} :
    Secret env P A (ocallMmapUntrusted fd offset size prot mem) := by
  unfold ocallMmapUntrusted
  refine .read (allocMs_secret.bind fun _ => .ite (fun _ => .resetReturn)
    fun _ => Secret.ret.bind fun _ => ?_)
  refine storeField_secret.bind fun _ => storeField_secret.bind fun _ =>
    storeField_secret.bind fun _ => storeField_secret.bind fun _ =>
    (sgxExitlessOcall_secret hb).bind fun _ => ?_
  exact .ite (fun _ => (loadU64_secret hb).bind fun _ => sgxCopyPtrToEnclave_secret.bind
    fun _ => .ite (fun _ => .resetReturn) fun _ => Secret.ret.bind fun _ => .resetReturn)
    fun _ => Secret.ret.bind fun _ => .resetReturn

theorem ocallMunmapUntrusted_secret (hb : env.Blind) {mem size : Nat} :
    Secret env P A (ocallMunmapUntrusted mem size) := by
  unfold ocallMunmapUntrusted
  refine .read (.ite (fun _ => .resetReturn) fun _ => Secret.ret.bind fun _ => ?_)
  exact allocMs_secret.bind fun _ => .ite (fun _ => .resetReturn) fun _ => Secret.ret.bind
    fun _ => storeField_secret.bind fun _ => storeField_secret.bind fun _ =>
    (sgxExitlessOcall_secret hb).bind fun _ => .resetReturn

/-- `sgx_reset_ustack()` and, for a heap buffer, `ocall_munmap_untrusted` at the end of a
wrapper. -/
theorem Secret.release (hb : env.Blind) {b : Prop} [Decidable b] {obuf size : Nat} {retval : Int} :
    Secret env P A (sgxResetUstack >>= fun _ =>
      if b then ocallMunmapUntrusted obuf size >>= fun _ => Pure.pure retval
      else Pure.pure () >>= fun _ => Pure.pure retval) :=
  sgxResetUstack_secret.bind fun _ =>
    .ite (fun _ => (ocallMunmapUntrusted_secret hb).bind fun _ => .ret) fun _ => .ret

theorem exitLoop_secret (hb : env.Blind) {ms : HostPtr} (n : Nat) :
    Secret env P A (exitLoop ms n) := by
  induction n generalizing P with
  | zero => exact fun _ _ _ h => h
  | succ n ih => exact (sgxOcall_secret hb).bind fun _ => ih

theorem ocallExit_secret (hb : env.Blind) {exitcode isExitgroup : Int} :
    Secret env P A (ocallExit exitcode isExitgroup) := by
  unfold ocallExit
  exact .read (sgxAllocOnUstackAligned_secret.bind fun _ => storeField_secret.bind fun _ =>
    storeField_secret.bind fun _ => exitLoop_secret hb _)

end Secret

/-! ## The wrappers -/

section Wrappers

variable {env : Env} {P : Machine → Prop} {A : Nat → Prop} {m₀ : Machine}

/-! ### Values read before the first write

Until a wrapper writes enclave memory, run 1 reads it as the caller left it (`Grown` with no
region written). -/

theorem readMem_initial {src n : Nat} :
    Triple env (Grown (fun _ => False) m₀) (readMem src n)
      fun v m => Grown (fun _ => False) m₀ m ∧ v = m₀.mem.load src n :=
  (readMem_value src n).post fun _ _ h => ⟨h.1, by rw [h.2, h.1.mem_eq]⟩

theorem cStrlen_initial {p : Nat} :
    Triple env (Grown (fun _ => False) m₀) (cStrlen p)
      fun n m => Grown (fun _ => False) m₀ m ∧ n = strlen m₀.mem p := fun m hm => by
  rw [wp_cStrlen]
  split_ifs
  exact ⟨hm, by rw [hm.mem_eq]⟩

theorem cPathLen_initial {p : Nat} :
    Triple env (Grown (fun _ => False) m₀) (cPathLen p)
      fun len m => Grown (fun _ => False) m₀ m ∧ (p ≠ 0 → len = toI32 (strlen m₀.mem p + 1)) :=
  .ite (fun h => .pure fun _ hm => ⟨hm, fun h' => absurd h h'⟩) fun _ =>
    cStrlen_initial.bind fun _ => .assume fun hn => .pure fun _ hm => ⟨hm, fun _ => by rw [hn]⟩

theorem cPathLen_secret {p : Nat} (hA : ∀ a, strIn m₀.mem p a → A a) :
    Secret env (Grown (fun _ => False) m₀) A (cPathLen p) :=
  .ite (fun _ => .ret) fun _ => (cStrlen_secret hA).bind fun _ => .ret

/-- The copy of a string at the length `cPathLen` measured copies out only the string. -/
theorem pathCopy_in {mem : Mem} {p : Nat} {len : Int}
    (hlen : p ≠ 0 → len = toI32 (strlen mem p + 1)) (hA : ∀ a, strIn mem p a → A a) :
    sgxIsCompletelyWithinEnclave env.enclave p (toU64 len) = true → ∀ i < toU64 len, A (p + i) :=
  fun hw i hi => by
    have hp : p ≠ 0 := by
      rintro rfl
      simp [env.enclave.not_within_null] at hw
    rw [hlen hp] at hi
    exact hA _ ⟨hp, Nat.le_add_right p i, .inr (by omega)⟩

/-! ### The three shapes and the file OCALLs -/

theorem scalarOcall_secret (hb : env.Blind) {code : OcallCode} {fields : List (Field × Int)} :
    Secret env P A (scalarOcall code fields) := by
  unfold scalarOcall
  exact allocMs_secret.bind fun ms => .unless .resetReturn fun _ =>
    storeFields_secret.bind fun _ => (sgxExitlessOcall_secret hb).bind fun _ => .resetReturn

theorem outputOcall_secret (hb : env.Blind) {code : OcallCode} {fields : List (Field × Int)}
    {copyOut : HostPtr → OcallM Unit} (hc : ∀ ms, Secret env (fun _ => True) A (copyOut ms)) :
    Secret env P A (outputOcall code fields copyOut) := by
  unfold outputOcall
  exact allocMs_secret.bind fun ms => .unless .resetReturn fun _ =>
    storeFields_secret.bind fun _ => (sgxExitlessOcall_secret hb).bind fun _ =>
    .ite_bind (fun _ => hc ms) (fun _ => .ret) fun _ => .resetReturn

theorem copyWordsOut_secret (hb : env.Blind) {ms : HostPtr} {f : Nat → Field} {dst n : Nat} :
    Secret env P A (copyWordsOut ms f dst n) := by
  unfold copyWordsOut
  generalize List.range n = is
  induction is generalizing P with
  | nil => exact .ret
  | cons i is ih => exact ((loadU32_secret hb).bind fun _ => writeMem_secret).bind fun _ => ih

/-- A wrapper with one path string shows the host the string and nothing else of enclave
memory. -/
theorem pathOcall_secret (hb : env.Blind) {code : OcallCode} {fields : List (Field × Int)}
    {pathname : Nat} (hA : ∀ a, strIn m₀.mem pathname a → A a) :
    Secret env (Grown (fun _ => False) m₀) A (pathOcall code fields pathname) := by
  unfold pathOcall
  exact (cPathLen_secret hA).bind_with cPathLen_initial fun _ => .assume fun hlen =>
    allocMs_secret.bind fun ms => .unless .resetReturn fun _ => storeFields_secret.bind fun _ =>
    (sgxCopyToUstack_secret (pathCopy_in hlen hA)).bind fun _ => storeField_secret.bind fun _ =>
    .unless .resetReturn fun _ => (sgxExitlessOcall_secret hb).bind fun _ => .resetReturn

theorem readBody_secret (hb : env.Blind) {fd : Int} {buf count obuf : Nat} :
    Secret env P A (readBody fd buf count obuf) := by
  unfold readBody
  refine allocMs_secret.bind fun ms => .unless .ret fun _ =>
    storeField_secret.bind fun _ => storeField_secret.bind fun _ =>
    .ite_bind (fun _ => .ret) (fun _ => sgxAllocOnUstackAligned_secret) fun _ =>
    storeField_secret.bind fun _ => .unless .ret fun _ => (sgxExitlessOcall_secret hb).bind
    fun _ => .ite (fun _ => ?_) fun _ => .ret
  exact (loadU64_secret hb).bind fun _ => (sgxCopyToEnclave_secret hb).bind fun _ =>
    .unless .ret fun _ => .ret

/-- `ocall_read` shows the host nothing of enclave memory. -/
theorem ocallRead_secret (hb : env.Blind) {fd : Int} {buf count : Nat} :
    Secret env P A (ocallRead fd buf count) := by
  unfold ocallRead
  refine .read (writeMem_bind_secret ?_)
  lift_lets
  intro rest
  have hrest : Secret env (fun _ => True)
      (fun a => A a ∨ env.localSlot ≤ a ∧ a < env.localSlot + 8) (rest ()) :=
    (readMem_secret fun _ _ hi => .inr ⟨Nat.le_add_right _ _, by omega⟩).bind fun _ =>
      (readBody_secret hb).bind fun _ => .release hb
  exact .ite (fun _ => (ocallMmapUntrusted_secret hb).bind fun _ =>
    .ite (fun _ => .ret) fun _ => .pure_bind hrest) fun _ => .pure_bind hrest

theorem writeBody_secret (hb : env.Blind) {fd : Int} {buf count obuf : Nat}
    (hA : ∀ i < count, A (buf + i)) : Secret env P A (writeBody fd buf count obuf) := by
  unfold writeBody
  exact allocMs_secret.bind fun ms => .unless .ret fun _ =>
    storeField_secret.bind fun _ => storeField_secret.bind fun _ =>
    .ite_bind (fun _ => .ret) (fun _ => sgxCopyToUstack_secret fun _ => hA) fun _ =>
    storeField_secret.bind fun _ => .unless .ret fun _ => sgxExitlessOcall_secret hb

/-- `ocall_write` shows the host `buf[0, count)` and nothing else of enclave memory. -/
theorem ocallWrite_secret (hb : env.Blind) {fd : Int} {buf count : Nat}
    (hA : ∀ i < count, A (buf + i)) : Secret env P A (ocallWrite fd buf count) := by
  unfold ocallWrite
  refine .read (writeMem_bind_secret ?_)
  lift_lets
  intro rest copyIn
  let A' a := A a ∨ env.localSlot ≤ a ∧ a < env.localSlot + 8
  have hbuf : ∀ i < count, A' (buf + i) := fun i hi => .inl (hA i hi)
  have hslot : ∀ i < 8, A' (env.localSlot + i) := fun i hi => .inr ⟨Nat.le_add_right _ _, by omega⟩
  have hrest : Secret env (fun _ => True) A' (rest ()) :=
    (readMem_secret fun _ => hslot).bind fun _ => (writeBody_secret hb hbuf).bind
      fun _ => .release hb
  have hcopy : Secret env (fun _ => True) A' (copyIn ()) :=
    (readMem_secret fun _ => hslot).bind fun _ => (copyToHost_secret hbuf).bind fun _ => hrest
  exact .ite (fun _ => writeMem_secret.bind fun _ => hrest)
    fun _ => .ite (fun _ => .ite (fun _ => (ocallMmapUntrusted_secret hb).bind fun _ =>
      .ite (fun _ => .ret) fun _ => .pure_bind hcopy) fun _ => .pure_bind hrest) fun _ => .ret

theorem ocallGetdents_secret (hb : env.Blind) {fd : Int} {dirp size : Nat} :
    Secret env P A (ocallGetdents fd dirp size) := by
  unfold ocallGetdents
  refine allocMs_secret.bind fun ms => .unless .resetReturn fun _ =>
    storeField_secret.bind fun _ => storeField_secret.bind fun _ =>
    sgxAllocOnUstackAligned_secret.bind fun _ => storeField_secret.bind
    fun _ => .unless .resetReturn fun _ => ?_
  exact (sgxExitlessOcall_secret hb).bind fun _ => .ite (fun _ =>
    (loadU64_secret hb).bind fun _ => (sgxCopyToEnclave_secret hb).bind
    fun _ => .unless .resetReturn fun _ => .resetReturn) fun _ => .pure_bind .resetReturn

theorem ocallRename_secret (hb : env.Blind) {oldpath newpath : Nat}
    (hA : ∀ a, strIn m₀.mem oldpath a ∨ strIn m₀.mem newpath a → A a) :
    Secret env (Grown (fun _ => False) m₀) A (ocallRename oldpath newpath) := by
  unfold ocallRename
  exact (cPathLen_secret fun a h => hA a (.inl h)).bind_with cPathLen_initial fun _ =>
    .assume fun hold => (cPathLen_secret fun a h => hA a (.inr h)).bind_with cPathLen_initial
    fun _ => .assume fun hnew => allocMs_secret.bind fun ms => .unless .resetReturn fun _ =>
    (sgxCopyToUstack_secret (pathCopy_in hold fun a h => hA a (.inl h))).bind fun _ =>
    storeField_secret.bind fun _ =>
    (sgxCopyToUstack_secret (pathCopy_in hnew fun a h => hA a (.inr h))).bind fun _ =>
    storeField_secret.bind fun _ => .unless .resetReturn fun _ =>
    (sgxExitlessOcall_secret hb).bind fun _ => .resetReturn

/-! ### The socket OCALLs -/

/-- The enclave memory `ocall_listen` and `ocall_accept` read and copy out, with `mem` the enclave
memory at the call: the length word `*addrlen`, and the buffer `addr` at that length. -/
def addrIn (mem : Mem) (addr addrlen a : Nat) : Prop :=
  addrlen ≠ 0 ∧ (addrlen ≤ a ∧ a < addrlen + 4 ∨ addr ≤ a ∧ a < addr + lenAt mem addrlen 4)

theorem copySockoptOut_secret (hb : env.Blind) {ms : HostPtr} {sockopt : Nat} :
    Secret env P A (copySockoptOut ms sockopt) := by
  unfold copySockoptOut
  exact .read (.ite (fun _ => (loadFieldBytes_secret hb).bind fun _ => writeMem_secret)
    fun _ => .ret)

/-- `len = addrlen ? *addrlen : 0`, and the copy of `addr[0, len)` it sizes. -/
theorem addrLen_secret {addr addrlen : Nat} {k : Nat → OcallM α}
    (hA : ∀ a, addrIn m₀.mem addr addrlen a → A a)
    (hk : ∀ len, (addr ≠ 0 ∧ len ≠ 0 → sgxIsCompletelyWithinEnclave env.enclave addr len = true →
      ∀ i < len, A (addr + i)) → Secret env (fun _ => True) A (k len)) :
    Secret env (Grown (fun _ => False) m₀) A
      (if addrlen ≠ 0 then readMem addrlen 4 >>= k else Pure.pure 0 >>= k) := by
  refine .ite_bind_with (fun h => readMem_secret fun _ i hi => hA _ ⟨h, .inl ⟨by omega, by omega⟩⟩)
    (fun h => readLen_value h) (fun _ => .ret) (fun h => noLen_value h) fun len =>
    .assume fun hlen => .pre (fun _ _ => trivial) (hk len fun hne _ i hi => ?_)
  have hp : addrlen ≠ 0 := fun h0 => hne.2 (by rw [hlen, lenAt, if_neg (not_not.2 h0)])
  exact hA _ ⟨hp, .inr ⟨Nat.le_add_right _ _, by rw [← hlen]; omega⟩⟩

/-- `ocall_listen` and `ocall_accept` show the host `*addrlen` and `addr[0, *addrlen)` and nothing
else of enclave memory. -/
theorem addrOcall_secret (hb : env.Blind) {code : OcallCode} {fields : List (Field × Int)}
    {addr addrlen sockopt : Nat} (hA : ∀ a, addrIn m₀.mem addr addrlen a → A a) :
    Secret env (Grown (fun _ => False) m₀) A (addrOcall code fields addr addrlen sockopt) := by
  unfold addrOcall
  refine addrLen_secret hA fun len hlen => ?_
  refine allocMs_secret.bind fun ms => .unless .resetReturn fun _ =>
    storeFields_secret.bind fun _ => storeField_secret.bind fun _ =>
    .ite_bind (fun h => sgxCopyToUstack_secret (hlen h)) (fun _ => .ret) fun _ =>
    storeField_secret.bind fun _ => .unless .resetReturn fun _ =>
    (sgxExitlessOcall_secret hb).bind fun retval => ?_
  lift_lets
  intro done sockoptOut
  have hsockopt : Secret env (fun _ => True) A (sockoptOut ()) :=
    (copySockoptOut_secret hb).bind fun _ => .resetReturn
  exact .ite (fun _ => .ite (fun _ => (loadU64_secret hb).bind fun _ =>
    (loadU32_secret hb).bind fun _ => (sgxCopyToEnclave_secret hb).bind fun _ =>
    .unless .resetReturn fun _ => writeMem_secret.bind fun _ => hsockopt)
    fun _ => .pure_bind hsockopt) fun _ => .pure_bind .resetReturn

/-- `ocall_connect` shows the host `addr[0, addrlen)`, `*bind_addrlen` and
`bind_addr[0, *bind_addrlen)` and nothing else of enclave memory. -/
theorem ocallConnect_secret (hb : env.Blind) {domain type protocol : Int}
    {addr addrlen bindAddr bindAddrlen sockopt : Nat}
    (hA : ∀ a, addr ≤ a ∧ a < addr + addrlen ∨ addrIn m₀.mem bindAddr bindAddrlen a → A a) :
    Secret env (Grown (fun _ => False) m₀) A
      (ocallConnect domain type protocol addr addrlen bindAddr bindAddrlen sockopt) := by
  unfold ocallConnect
  refine addrLen_secret (fun a h => hA a (.inr h)) fun bindLen hlen => ?_
  refine allocMs_secret.bind fun ms => .unless .resetReturn fun _ => storeFields_secret.bind
    fun _ => .ite_bind (fun _ => sgxCopyToUstack_secret fun _ i hi =>
      hA _ (.inl ⟨by omega, by omega⟩)) (fun _ => .ret) fun _ => storeField_secret.bind fun _ =>
    .ite_bind (fun h => sgxCopyToUstack_secret fun hw => ?_) (fun _ => .ret) fun _ =>
    storeField_secret.bind fun _ => .unless .resetReturn fun _ =>
    (sgxExitlessOcall_secret hb).bind fun retval => ?_
  · by_cases h0 : bindLen = 0
    · exact fun i hi => absurd hi (by omega)
    · exact hlen ⟨h, h0⟩ hw
  lift_lets
  intro done sockoptOut
  have hsockopt : Secret env (fun _ => True) A (sockoptOut ()) :=
    (copySockoptOut_secret hb).bind fun _ => .resetReturn
  exact .ite (fun _ => .ite (fun _ => (loadU64_secret hb).bind fun _ =>
    (loadU32_secret hb).bind fun _ => (sgxCopyToEnclave_secret hb).bind fun _ =>
    .unless .resetReturn fun _ => writeMem_secret.bind fun _ => hsockopt)
    fun _ => .pure_bind hsockopt) fun _ => .pure_bind .resetReturn

theorem recvBody_secret (hb : env.Blind) {sockfd : Int}
    {buf count addr addrlenptr control controllenptr addrlen controllen obuf : Nat} :
    Secret env P A (recvBody sockfd buf count addr addrlenptr control controllenptr addrlen
      controllen obuf) := by
  unfold recvBody
  refine allocMs_secret.bind fun ms => .unless .ret fun _ => storeFields_secret.bind fun _ =>
    .ite_bind (fun _ => sgxAllocOnUstackAligned_secret) (fun _ => .ret) fun _ =>
    storeField_secret.bind fun _ => storeField_secret.bind fun _ =>
    .ite_bind (fun _ => sgxAllocOnUstackAligned_secret) (fun _ => .ret) fun _ =>
    storeField_secret.bind fun _ =>
    .ite_bind (fun _ => .ret) (fun _ => sgxAllocOnUstackAligned_secret) fun _ =>
    storeField_secret.bind fun _ => .unless .ret fun _ =>
    (sgxExitlessOcall_secret hb).bind fun retval => ?_
  lift_lets
  intro done bufIn controlOut
  have hbuf : Secret env (fun _ => True) A (bufIn ()) :=
    .ite (fun _ => (loadU64_secret hb).bind fun _ => (sgxCopyToEnclave_secret hb).bind
      fun _ => .unless .ret fun _ => .ret) fun _ => .ret
  have hcontrol : Secret env (fun _ => True) A (controlOut ()) :=
    .ite (fun _ => (loadU64_secret hb).bind fun _ => (loadU64_secret hb).bind fun _ =>
      (sgxCopyToEnclave_secret hb).bind fun _ => .unless .ret fun _ =>
      writeMem_secret.bind fun _ => hbuf) fun _ => .pure_bind hbuf
  exact .ite (fun _ => .ite (fun _ => (loadU64_secret hb).bind fun _ =>
    (loadU32_secret hb).bind fun _ => (sgxCopyToEnclave_secret hb).bind fun _ =>
    .unless .ret fun _ => writeMem_secret.bind fun _ => hcontrol)
    fun _ => .pure_bind hcontrol) fun _ => .ret

/-- `ocall_recv` shows the host `*addrlenptr` and `*controllenptr` and nothing else of enclave
memory: it copies none of its buffers out. -/
theorem ocallRecv_secret (hb : env.Blind) {sockfd : Int}
    {buf count addr addrlenptr control controllenptr : Nat}
    (hA : ∀ a, addrlenptr ≤ a ∧ a < addrlenptr + 4 ∨ controllenptr ≤ a ∧ a < controllenptr + 8 →
      A a) :
    Secret env P A (ocallRecv sockfd buf count addr addrlenptr control controllenptr) := by
  unfold ocallRecv
  refine .read (writeMem_bind_secret ?_)
  refine .ite_bind (fun _ => readMem_secret fun _ i hi => .inl (hA _ (.inl ⟨by omega, by omega⟩)))
    (fun _ => .ret) fun addrlen => .ite_bind (fun _ => readMem_secret fun _ i hi =>
      .inl (hA _ (.inr ⟨by omega, by omega⟩))) (fun _ => .ret) fun controllen => ?_
  beta_reduce
  lift_lets
  intro rest
  have hrest : Secret env (fun _ => True)
      (fun a => A a ∨ env.localSlot ≤ a ∧ a < env.localSlot + 8) (rest ()) :=
    (readMem_secret fun _ _ hi => .inr ⟨Nat.le_add_right _ _, by omega⟩).bind fun _ =>
      (recvBody_secret hb).bind fun _ => .release hb
  exact .ite (fun _ => (ocallMmapUntrusted_secret hb).bind fun _ =>
    .ite (fun _ => .ret) fun _ => .pure_bind hrest) fun _ => .pure_bind hrest

theorem sendBody_secret (hb : env.Blind) {sockfd : Int}
    {buf count addr addrlen control controllen obuf : Nat}
    (hA : ∀ a, buf ≤ a ∧ a < buf + count ∨ addr ≤ a ∧ a < addr + addrlen ∨
      control ≤ a ∧ a < control + controllen → A a) :
    Secret env P A (sendBody sockfd buf count addr addrlen control controllen obuf) := by
  unfold sendBody
  exact allocMs_secret.bind fun ms => .unless .ret fun _ => storeFields_secret.bind fun _ =>
    .ite_bind (fun _ => sgxCopyToUstack_secret fun _ i hi =>
      hA _ (.inr (.inl ⟨by omega, by omega⟩))) (fun _ => .ret) fun _ =>
    storeField_secret.bind fun _ => storeField_secret.bind fun _ =>
    .ite_bind (fun _ => sgxCopyToUstack_secret fun _ i hi =>
      hA _ (.inr (.inr ⟨by omega, by omega⟩))) (fun _ => .ret) fun _ =>
    storeField_secret.bind fun _ =>
    .ite_bind (fun _ => .ret) (fun _ => sgxCopyToUstack_secret fun _ i hi =>
      hA _ (.inl ⟨by omega, by omega⟩)) fun _ =>
    storeField_secret.bind fun _ => .unless .ret fun _ => sgxExitlessOcall_secret hb

/-- `ocall_send` shows the host `buf[0, count)`, `addr[0, addrlen)` and `control[0, controllen)`
and nothing else of enclave memory. -/
theorem ocallSend_secret (hb : env.Blind) {sockfd : Int}
    {buf count addr addrlen control controllen : Nat}
    (hA : ∀ a, buf ≤ a ∧ a < buf + count ∨ addr ≤ a ∧ a < addr + addrlen ∨
      control ≤ a ∧ a < control + controllen → A a) :
    Secret env P A (ocallSend sockfd buf count addr addrlen control controllen) := by
  unfold ocallSend
  refine .read (writeMem_bind_secret ?_)
  lift_lets
  intro rest copyIn
  let A' a := A a ∨ env.localSlot ≤ a ∧ a < env.localSlot + 8
  have hslot : ∀ i < 8, A' (env.localSlot + i) := fun i hi => .inr ⟨Nat.le_add_right _ _, by omega⟩
  have hrest : Secret env (fun _ => True) A' (rest ()) :=
    (readMem_secret fun _ => hslot).bind fun _ =>
      (sendBody_secret hb fun a h => .inl (hA a h)).bind fun _ => .release hb
  have hcopy : Secret env (fun _ => True) A' (copyIn ()) :=
    (readMem_secret fun _ => hslot).bind fun _ => (copyToHost_secret fun i hi =>
      .inl (hA _ (.inl ⟨by omega, by omega⟩))).bind fun _ => hrest
  exact .ite (fun _ => writeMem_secret.bind fun _ => hrest)
    fun _ => .ite (fun _ => .ite (fun _ => (ocallMmapUntrusted_secret hb).bind fun _ =>
      .ite (fun _ => .ret) fun _ => .pure_bind hcopy) fun _ => .pure_bind hrest) fun _ => .ret

theorem ocallSetsockopt_secret (hb : env.Blind) {sockfd level optname : Int} {optval optlen : Nat}
    (hA : ∀ i < optlen, A (optval + i)) :
    Secret env P A (ocallSetsockopt sockfd level optname optval optlen) := by
  unfold ocallSetsockopt
  refine allocMs_secret.bind fun ms => .unless .resetReturn fun _ =>
    storeFields_secret.bind fun _ => storeField_secret.bind fun _ => ?_
  lift_lets
  intro dispatch
  have hdispatch : Secret env (fun _ => True) A (dispatch ()) :=
    (sgxExitlessOcall_secret hb).bind fun _ => .resetReturn
  exact .ite (fun _ => storeField_secret.bind fun _ => (sgxCopyToUstack_secret fun _ => hA).bind
    fun _ => storeField_secret.bind fun _ => .unless .resetReturn fun _ => hdispatch)
    fun _ => .pure_bind hdispatch

/-! ### Processes, time, polling and the rest -/

/-- The array `args[0, nargs)` and the strings it points to, as the caller's memory holds them. -/
def argsIn (mem : Mem) (args : Nat) (is : List Nat) (a : Nat) : Prop :=
  ∃ i ∈ is, args + sizeofPtr * i ≤ a ∧ a < args + sizeofPtr * i + sizeofPtr ∨
    strIn mem (mem.load (args + sizeofPtr * i) sizeofPtr) a

theorem copyArgs_secret {ms : HostPtr} {args : Nat} {is : List Nat}
    (hA : ∀ a, argsIn m₀.mem args is a → A a) :
    Secret env (Grown (fun _ => False) m₀) A (copyArgs ms args is) := by
  induction is with
  | nil => exact .ret
  | cons i is ih =>
    unfold copyArgs
    refine (readMem_secret fun _ j hj => hA _ ⟨i, .head _, .inl ⟨by omega, by omega⟩⟩).bind_with
      readMem_initial fun a => .assume fun ha => ?_
    have hstr : ∀ x, strIn m₀.mem a x → A x := fun x hx => hA x ⟨i, .head _, .inr (ha ▸ hx)⟩
    exact (cPathLen_secret hstr).bind_with cPathLen_initial fun _ => .assume fun hlen =>
      .ite_bind_with (fun _ => sgxCopyToUstack_secret (pathCopy_in hlen hstr))
        (fun _ => sgxCopyToUstack_grown _ _) (fun _ => .ret) (fun _ => .ret) fun _ =>
      storeField_secret.bind_with (storeField_grown _ _ _) fun _ => .unless .ret fun _ =>
      ih fun x ⟨j, hj, hx⟩ => hA x ⟨j, .tail _ hj, hx⟩

/-- `ocall_create_process` shows the host the string `uri`, the array `args[0, nargs)` and the
strings it points to, and nothing else of enclave memory. -/
theorem ocallCreateProcess_secret (hb : env.Blind) {uri : Nat} {nargs : Int}
    {args procfds pid : Nat}
    (hA : ∀ a, strIn m₀.mem uri a ∨ argsIn m₀.mem args (List.range nargs.toNat) a → A a) :
    Secret env (Grown (fun _ => False) m₀) A (ocallCreateProcess uri nargs args procfds pid) := by
  unfold ocallCreateProcess
  refine .read ((cPathLen_secret fun a h => hA a (.inl h)).bind_with cPathLen_initial fun _ =>
    .assume fun hlen => sgxAllocOnUstackAligned_secret.bind_with
      (Grown.triple (sgxAllocOnUstackAligned_calm _ _)) fun ms => .unless .resetReturn fun _ => ?_)
  refine .ite_bind_with
    (fun _ => sgxCopyToUstack_secret (pathCopy_in hlen fun a h => hA a (.inl h)))
    (fun _ => sgxCopyToUstack_grown _ _) (fun _ => .ret) (fun _ => .ret) fun _ =>
    storeField_secret.bind_with (storeField_grown _ _ _) fun _ => .unless .resetReturn fun _ =>
    storeField_secret.bind_with (storeField_grown _ _ _) fun _ =>
    (copyArgs_secret fun a h => hA a (.inr h)).bind fun _ =>
    .unless .resetReturn fun _ => (sgxExitlessOcall_secret hb).bind fun _ => ?_
  exact .ite (fun _ => .ite (fun _ => (loadU32_secret hb).bind fun _ => writeMem_secret.bind
    fun _ => (copyWordsOut_secret hb).bind fun _ => .resetReturn) fun _ => .pure_bind
    ((copyWordsOut_secret hb).bind fun _ => .resetReturn)) fun _ => .pure_bind .resetReturn

theorem ocallFutex_secret (hb : env.Blind) {futex : Nat} {op val timeoutUs : Int} :
    Secret env P A (ocallFutex futex op val timeoutUs) := by
  unfold ocallFutex
  exact .read (.unless .resetReturn fun _ => allocMs_secret.bind fun ms =>
    .unless .resetReturn fun _ => storeField_secret.bind fun _ =>
    storeFields_secret.bind fun _ => (sgxExitlessOcall_secret hb).bind fun _ => .resetReturn)

theorem gettimeLoop_secret (hb : env.Blind) {ms : HostPtr} (n : Nat) :
    Secret env P A (gettimeLoop ms n) := by
  induction n generalizing P with
  | zero => exact fun _ _ _ h => h
  | succ n ih => exact (sgxExitlessOcall_secret hb).bind fun _ => .ite (fun _ => ih) fun _ => .ret

theorem ocallGettime_secret (hb : env.Blind) {microsec : Nat} :
    Secret env P A (ocallGettime microsec) := by
  unfold ocallGettime
  exact .read (allocMs_secret.bind fun ms => .unless .resetReturn fun _ =>
    (gettimeLoop_secret hb _).bind fun _ => .ite (fun _ => (loadU64_secret hb).bind
      fun _ => writeMem_secret.bind fun _ => .resetReturn) fun _ => .pure_bind .resetReturn)

/-- `ocall_sleep` shows the host `*microsec` and nothing else of enclave memory. -/
theorem ocallSleep_secret (hb : env.Blind) {microsec : Nat} (hA : ∀ i < 8, A (microsec + i)) :
    Secret env P A (ocallSleep microsec) := by
  unfold ocallSleep
  refine allocMs_secret.bind fun ms => .unless .resetReturn fun _ =>
    .ite_bind (fun _ => readMem_secret fun _ => hA) (fun _ => .ret) fun _ =>
    storeField_secret.bind fun _ => (sgxOcall_secret hb).bind fun _ => ?_
  exact .ite (fun _ => .ite (fun _ => writeMem_secret.bind fun _ => .resetReturn)
    fun _ => .ite (fun _ => (loadU64_secret hb).bind fun _ =>
      writeMem_secret.bind fun _ => .resetReturn) fun _ => .pure_bind .resetReturn)
    fun _ => .pure_bind .resetReturn

/-- `ocall_poll` shows the host `fds[0, nfds_bytes)` and nothing else of enclave memory. -/
theorem ocallPoll_secret (hb : env.Blind) {fds : Nat} {nfds timeoutUs : Int}
    (hA : ∀ i < pollBytes nfds, A (fds + i)) : Secret env P A (ocallPoll fds nfds timeoutUs) := by
  unfold ocallPoll
  exact allocMs_secret.bind fun ms => .unless .resetReturn fun _ =>
    storeFields_secret.bind fun _ => (sgxCopyToUstack_secret fun _ => hA).bind fun _ =>
    storeField_secret.bind fun _ => .unless .resetReturn fun _ =>
    (sgxExitlessOcall_secret hb).bind fun _ => .ite (fun _ =>
      (loadU64_secret hb).bind fun _ => (sgxCopyToEnclave_secret hb).bind
      fun _ => .unless .resetReturn fun _ => .resetReturn) fun _ => .pure_bind .resetReturn

/-- `ocall_load_debug` shows the host the string `command` and nothing else of enclave memory. -/
theorem ocallLoadDebug_secret (hb : env.Blind) {command : Nat}
    (hA : ∀ a, strIn m₀.mem command a → A a) :
    Secret env (Grown (fun _ => False) m₀) A (ocallLoadDebug command) := by
  unfold ocallLoadDebug
  exact (cStrlen_secret hA).bind_with cStrlen_initial fun _ => .assume fun hn =>
    (sgxCopyToUstack_secret (pathCopy_in (fun _ => by rw [hn]) hA)).bind fun ms =>
    .unless .resetReturn fun _ => (sgxExitlessOcall_secret hb).bind fun _ => .resetReturn

/-! ### `ocall_get_attestation` -/

theorem copyBlobIn_secret (hb : env.Blind) {attestation : Nat} {f fLen : AttField} {nul : Bool}
    (hA : ∀ a, attestation ≤ a → a < attestation + env.layout.attestationSize → A a) :
    Secret env P A (copyBlobIn attestation f fLen nul) := by
  have hfield : ∀ g, attestation + env.layout.attOffset g ≠ 0 →
      ∀ i < sizeofPtr, A (attestation + env.layout.attOffset g + i) := fun g _ i hi =>
    hA _ (by omega) (by have := env.layout.attField_in g; unfold sizeofPtr at hi; omega)
  unfold copyBlobIn
  exact .read ((readMem_secret (hfield f)).bind fun _ => .unless .ret fun _ =>
    (readMem_secret (hfield fLen)).bind fun _ => (malloc_secret hb).bind fun _ =>
    (readMem_secret (hfield f)).bind fun _ => (sgxCopyToEnclave_secret hb).bind fun _ =>
    (readMem_secret (hfield f)).bind fun _ => (ocallMunmapUntrusted_secret hb).bind fun _ =>
    .ite_bind (fun _ => writeMem_secret) (fun _ => .ret) fun _ =>
    writeMem_secret.bind fun _ => .ret)

theorem freeBlob_secret {attestation : Nat} {f : AttField}
    (hA : ∀ a, attestation ≤ a → a < attestation + env.layout.attestationSize → A a) :
    Secret env P A (freeBlob attestation f) := by
  unfold freeBlob
  exact .read ((readMem_secret fun _ i hi =>
    hA _ (by omega) (by have := env.layout.attField_in f; unfold sizeofPtr at hi; omega)).bind
    fun _ => .ite (fun _ => free_secret) fun _ => .ret)

/-- `ocall_get_attestation` shows the host `*spid`, the string `subkey`, `*report` and `*nonce`
and nothing else of enclave memory; the blobs it then reads are the host's, copied into
`*attestation`. -/
theorem ocallGetAttestation_secret (hb : env.Blind) {spid subkey : Nat} {linkable : Bool}
    {report nonce attestation : Nat}
    (hA : ∀ a, spid ≤ a ∧ a < spid + env.layout.spidSize ∨ strIn m₀.mem subkey a ∨
      report ≤ a ∧ a < report + env.layout.reportSize ∨
        nonce ≤ a ∧ a < nonce + env.layout.nonceSize → A a) :
    Secret env (Grown (fun _ => False) m₀) A
      (ocallGetAttestation spid subkey linkable report nonce attestation) := by
  unfold ocallGetAttestation
  refine .read (allocMs_secret.bind_with (Grown.triple (allocMs_calm _)) fun ms =>
    .unless .resetReturn fun _ => ?_)
  refine (copyToField_secret fun i _ => hA _ (.inl ⟨by omega, by omega⟩)).bind_with
    (copyToField_grown _ _ _ _) fun _ => ?_
  refine (cStrlen_secret fun a h => hA a (.inr (.inl h))).bind_with cStrlen_initial
    fun n => .assume fun hn => ?_
  refine (sgxCopyToUstack_secret fun hw i hi => ?_).bind fun _ => storeField_secret.bind fun _ =>
    (copyToField_secret fun i _ => hA _ (.inr (.inr (.inl ⟨by omega, by omega⟩)))).bind fun _ =>
    (copyToField_secret fun i _ => hA _ (.inr (.inr (.inr ⟨by omega, by omega⟩)))).bind fun _ =>
    storeField_secret.bind fun _ => (sgxExitlessOcall_secret hb).bind fun _ =>
    .unless .resetReturn fun _ => sgxCopyToEnclave_bind_secret hb
      (.ite (fun _ => .resetReturn) fun h => absurd rfl h) (.unless .resetReturn fun _ => ?_)
  · have hp : subkey ≠ 0 := by
      rintro rfl
      simp [env.enclave.not_within_null] at hw
    have := Nat.mod_le (n + 1) addrSpace
    exact hA _ (.inr (.inl ⟨hp, Nat.le_add_right _ _, .inl (by omega)⟩))
  have hatt : ∀ a, attestation ≤ a → a < attestation + env.layout.attestationSize →
      A a ∨ attestation ≤ a ∧ a < attestation + env.layout.attestationSize :=
    fun _ h₁ h₂ => .inr ⟨h₁, h₂⟩
  refine sgxResetUstack_secret.bind fun _ => (copyBlobIn_secret hb hatt).bind fun _ =>
    (copyBlobIn_secret hb hatt).bind fun _ => (copyBlobIn_secret hb hatt).bind fun _ =>
    (copyBlobIn_secret hb hatt).bind fun _ => ?_
  exact .ite (fun _ => (freeBlob_secret hatt).bind fun _ => (freeBlob_secret hatt).bind fun _ =>
    (freeBlob_secret hatt).bind fun _ => (freeBlob_secret hatt).bind fun _ => .ret)
    fun _ => .pure_bind .ret

end Wrappers

/-! ## Every wrapper -/

/-- The enclave memory a call reads to marshal its arguments, with `mem` the enclave memory at the
call: the strings it copies out, the buffers it copies out at the lengths it is given, and the
length words and pointers it reads. -/
def Call.inputs (env : Env) (mem : Mem) : Call → Nat → Prop
  | .open pathname _ _ | .mkdir pathname _ | .delete pathname | .loadDebug pathname =>
    strIn mem pathname
  | .write _ buf count => fun a => buf ≤ a ∧ a < buf + count
  | .createProcess uri nargs args _ _ => fun a =>
    strIn mem uri a ∨ argsIn mem args (List.range nargs.toNat) a
  | .listen _ _ _ addr addrlen _ | .accept _ addr addrlen _ => addrIn mem addr addrlen
  | .connect _ _ _ addr addrlen bindAddr bindAddrlen _ => fun a =>
    addr ≤ a ∧ a < addr + addrlen ∨ addrIn mem bindAddr bindAddrlen a
  | .recv _ _ _ _ addrlenptr _ controllenptr => fun a =>
    addrlenptr ≤ a ∧ a < addrlenptr + 4 ∨ controllenptr ≤ a ∧ a < controllenptr + 8
  | .send _ buf count addr addrlen control controllen => fun a =>
    buf ≤ a ∧ a < buf + count ∨ addr ≤ a ∧ a < addr + addrlen ∨
      control ≤ a ∧ a < control + controllen
  | .setsockopt _ _ _ optval optlen => fun a => optval ≤ a ∧ a < optval + optlen
  | .sleep microsec => fun a => microsec ≤ a ∧ a < microsec + 8
  | .poll fds nfds _ => fun a => fds ≤ a ∧ a < fds + pollBytes nfds
  | .rename oldpath newpath => fun a => strIn mem oldpath a ∨ strIn mem newpath a
  | .getAttestation spid subkey _ report nonce _ => fun a =>
    spid ≤ a ∧ a < spid + env.layout.spidSize ∨ strIn mem subkey a ∨
      report ≤ a ∧ a < report + env.layout.reportSize ∨
        nonce ≤ a ∧ a < nonce + env.layout.nonceSize
  | _ => fun _ => False

theorem Call.run_secret {env : Env} (hb : env.Blind) (c : Call) {A : Nat → Prop} {m₀ : Machine}
    (hA : ∀ a, c.inputs env m₀.mem a → A a) : Secret env (Grown (fun _ => False) m₀) A c.run := by
  cases c with
  | exit => exact (ocallExit_secret hb).map
  | mmapUntrusted => exact ocallMmapUntrusted_secret hb
  | munmapUntrusted => exact ocallMunmapUntrusted_secret hb
  | cpuid => exact outputOcall_secret hb fun _ => copyWordsOut_secret hb
  | «open» => exact pathOcall_secret hb hA
  | close => exact scalarOcall_secret hb
  | read => exact ocallRead_secret hb
  | write => exact ocallWrite_secret hb fun i hi => hA _ ⟨by omega, by omega⟩
  | fstat =>
    exact outputOcall_secret hb fun _ =>
      .read ((loadFieldBytes_secret hb).bind fun _ => writeMem_secret)
  | fionread | fsetnonblock | fchmod | fsync | ftruncate | lseek => exact scalarOcall_secret hb
  | mkdir => exact pathOcall_secret hb hA
  | getdents => exact ocallGetdents_secret hb
  | resumeThread | cloneThread => exact sgxExitlessOcall_secret hb
  | createProcess => exact ocallCreateProcess_secret hb hA
  | futex => exact ocallFutex_secret hb
  | socketpair => exact outputOcall_secret hb fun _ => copyWordsOut_secret hb
  | listen | accept => exact addrOcall_secret hb hA
  | connect => exact ocallConnect_secret hb hA
  | recv => exact ocallRecv_secret hb hA
  | send => exact ocallSend_secret hb hA
  | setsockopt => exact ocallSetsockopt_secret hb fun i hi => hA _ ⟨by omega, by omega⟩
  | shutdown => exact scalarOcall_secret hb
  | gettime => exact ocallGettime_secret hb
  | sleep => exact ocallSleep_secret hb fun i hi => hA _ ⟨by omega, by omega⟩
  | poll => exact ocallPoll_secret hb fun i hi => hA _ ⟨by omega, by omega⟩
  | rename => exact ocallRename_secret hb hA
  | delete => exact pathOcall_secret hb hA
  | loadDebug => exact ocallLoadDebug_secret hb hA
  | getAttestation => exact ocallGetAttestation_secret hb hA
  | eventfd => exact scalarOcall_secret hb

/-- Whatever the host answers, every wrapper shows it nothing of enclave memory but the call's
inputs: two runs of a call from machines the host cannot tell apart, whose enclave memories agree
on the inputs as the first holds them (and on any more addresses `A`), return the same value,
fault alike or outrun their fuel alike, in machines the host cannot tell apart whose memories
still agree on `A`. -/
theorem ocall_reveals_only_inputs (c : Call) (env : Env) (hb : env.Blind) (A : Nat → Prop)
    (m₁ m₂ : Machine) (hA : ∀ a, c.inputs env m₁.mem a → A a) (h : LowEq A m₁ m₂) :
    (c.run env m₁).Alike A (c.run env m₂) :=
  c.run_secret hb hA m₁ m₂ .start h

/-- `promptHost` answers by the kinds of events alone, so it sees no byte beyond a copy. -/
theorem promptHost_blind (rpcQueue roomy : Bool) : (sampleEnv promptHost rpcQueue roomy).Blind where
  word l := by
    rcases l with _ | ⟨⟨g, ev⟩, l⟩
    · rfl
    · cases ev <;> rfl
  bytes _ := rfl
  malloc _ := rfl

/-- Enclave memory that is zero but for the byte `0x5A` right after the four bytes at `2 ^ 32`. -/
def markedMem : Mem := fun a => if a = 2 ^ 32 + 4 then 0x5A else 0

/-- The zero memory and `markedMem` agree on the four bytes at `2 ^ 32`. -/
theorem markedMem_lowEq (env : Env) :
    LowEq (fun a => 2 ^ 32 ≤ a ∧ a < 2 ^ 32 + 4) (sampleMachine env 0)
      (sampleMachine env markedMem) :=
  ⟨rfl, rfl, rfl, fun a ha =>
    show (0 : UInt8) = if a = 2 ^ 32 + 4 then 0x5A else 0 from (if_neg (by omega)).symm⟩

/-- The byte right after the buffer of `ocall_write` stays hidden: the runs with it `0` and
`0x5A` end alike. -/
theorem write_hides_next_byte :
    (sampleEnv promptHost false true).Blind ∧
      (∀ a, (Call.write 0 (2 ^ 32) 4).inputs (sampleEnv promptHost false true) 0 a →
        2 ^ 32 ≤ a ∧ a < 2 ^ 32 + 4) ∧
      LowEq (fun a => 2 ^ 32 ≤ a ∧ a < 2 ^ 32 + 4)
        (sampleMachine (sampleEnv promptHost false true) 0)
        (sampleMachine (sampleEnv promptHost false true) markedMem) ∧
      ((Call.write 0 (2 ^ 32) 4).run (sampleEnv promptHost false true)
        (sampleMachine (sampleEnv promptHost false true) 0)).Alike
        (fun a => 2 ^ 32 ≤ a ∧ a < 2 ^ 32 + 4)
        ((Call.write 0 (2 ^ 32) 4).run (sampleEnv promptHost false true)
          (sampleMachine (sampleEnv promptHost false true) markedMem)) :=
  have hb := promptHost_blind false true
  have hA : ∀ a, (Call.write 0 (2 ^ 32) 4).inputs (sampleEnv promptHost false true) 0 a →
      2 ^ 32 ≤ a ∧ a < 2 ^ 32 + 4 := fun _ h => h
  have h := markedMem_lowEq (sampleEnv promptHost false true)
  ⟨hb, hA, h, ocall_reveals_only_inputs _ _ hb _ _ _ hA h⟩

/-! ## A thread's run of OCALLs -/

/-- Each call of `cs`, run one after another from `m`, finds its inputs inside `A`, as the memory
holds them when the call starts. -/
def InputsIn (env : Env) (A : Nat → Prop) : List Call → Machine → Prop
  | [], _ => True
  | c :: cs, m => (∀ a, c.inputs env m.mem a → A a) ∧
    wp c.run env m (fun _ m' => InputsIn env A cs m') (fun _ => True) (fun _ => True)

theorem runCalls_secret {env : Env} (hb : env.Blind) (A : Nat → Prop) :
    ∀ cs, Secret env (InputsIn env A cs) A (runCalls cs)
  | [] => .ret
  | c :: cs => Secret.bind_with (fun m₁ m₂ hp h => c.run_secret hb hp.1 m₁ m₂ .start h)
      (fun _ hm => hm.2) fun _ => (runCalls_secret hb A cs).bind fun _ => .ret

/-- A thread's OCALLs one after another show the host nothing of enclave memory but the inputs of
each call, as the memory holds them when that call starts: two runs of the calls from machines the
host cannot tell apart, whose memories agree on `A`, end alike when every call of the first run
finds its inputs inside `A`. -/
theorem ocalls_reveal_only_inputs (cs : List Call) (env : Env) (hb : env.Blind) (A : Nat → Prop)
    (m₁ m₂ : Machine) (hA : InputsIn env A cs m₁) (h : LowEq A m₁ m₂) :
    (runCalls cs env m₁).Alike A (runCalls cs env m₂) :=
  runCalls_secret hb A cs m₁ m₂ hA h

/-- `ocall_read` into `buf[0, 4)`, then `ocall_write` of it: the byte right after the buffer stays
hidden over the whole run. -/
theorem read_write_hide_next_byte :
    (sampleEnv promptHost false true).Blind ∧
      InputsIn (sampleEnv promptHost false true) (fun a => 2 ^ 32 ≤ a ∧ a < 2 ^ 32 + 4)
        [.read 0 (2 ^ 32) 4, .write 0 (2 ^ 32) 4]
        (sampleMachine (sampleEnv promptHost false true) 0) ∧
      LowEq (fun a => 2 ^ 32 ≤ a ∧ a < 2 ^ 32 + 4)
        (sampleMachine (sampleEnv promptHost false true) 0)
        (sampleMachine (sampleEnv promptHost false true) markedMem) ∧
      (runCalls [.read 0 (2 ^ 32) 4, .write 0 (2 ^ 32) 4] (sampleEnv promptHost false true)
        (sampleMachine (sampleEnv promptHost false true) 0)).Alike
        (fun a => 2 ^ 32 ≤ a ∧ a < 2 ^ 32 + 4)
        (runCalls [.read 0 (2 ^ 32) 4, .write 0 (2 ^ 32) 4] (sampleEnv promptHost false true)
          (sampleMachine (sampleEnv promptHost false true) markedMem)) :=
  have hb := promptHost_blind false true
  have hA : InputsIn (sampleEnv promptHost false true) (fun a => 2 ^ 32 ≤ a ∧ a < 2 ^ 32 + 4)
      [.read 0 (2 ^ 32) 4, .write 0 (2 ^ 32) 4]
      (sampleMachine (sampleEnv promptHost false true) 0) :=
    ⟨fun _ h => h.elim, wp_post (Triple.true (P := fun _ => True) _ _ trivial) fun _ m _ =>
      ⟨fun _ h => h, wp_post (Triple.true (P := fun _ => True) _ m trivial) fun _ _ _ => trivial⟩⟩
  have h := markedMem_lowEq (sampleEnv promptHost false true)
  ⟨hb, hA, h, ocalls_reveal_only_inputs _ _ hb _ _ _ hA h⟩

end EnclaveOcalls
