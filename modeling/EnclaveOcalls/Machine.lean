import EnclaveOcalls.Basic

/-!
# The enclave thread and the untrusted host

An OCALL wrapper of `enclave_ocalls.c` runs on one enclave thread. It reads and writes enclave
memory, bump-allocates on the thread's untrusted stack, writes argument structs into host
memory and reads back what the host left there, and hands requests to the host, directly
(`sgx_ocall`, an enclave exit) or through the RPC queue (`rpc_enqueue`).

The model is a state monad `OcallM` over `Machine` (what the enclave thread owns) and an
environment `Env` (what is fixed for the run). The host is an adversary: every value the
enclave reads from host memory, every OCALL result and every answer of the RPC queue is
`Env.host` applied to the log of everything the enclave has done so far, so the host may
answer any query with any value, and may change its answer between two reads of the same word.

Every event carries the untrusted-stack generation it happened in (the number of
`sgx_reset_ustack` calls before it), and every host pointer carries, as ghost provenance, the
generation of the untrusted-stack allocation it came from. A use of a pointer of an older
generation is a use after reset.
-/

namespace EnclaveOcalls

/-! ## OCALLs and their argument structs -/

/-- The OCALL codes of `ocall_types.h`, each naming its argument struct `ms_ocall_*_t`. -/
inductive OcallCode where
  | exit | mmapUntrusted | munmapUntrusted | cpuid | «open» | close | read | write | fstat
  | fionread | fsetnonblock | fchmod | fsync | ftruncate | lseek | mkdir | getdents
  | resumeThread | cloneThread | createProcess | futex | socketpair | listen | accept
  | connect | recv | send | setsockopt | shutdown | gettime | sleep | poll | rename | delete
  | loadDebug | getAttestation | eventfd
  deriving DecidableEq, Repr

/-- The fields of the argument structs and of `rpc_request_t` that the enclave writes or
reads. Array fields carry their index. -/
inductive Field where
  | msFd | msOffset | msSize | msProt | msMem | msLeaf | msSubleaf | msValues (i : Nat)
  | msFlags | msMode | msPathname | msCount | msBuf | msStat | msNonblocking | msLength
  | msWhence | msDirp | msUri | msNargs | msArgs (i : Nat) | msPid | msProcFds (i : Nat)
  | msFutex | msOp | msVal | msTimeoutUs | msDomain | msType | msProtocol | msSockfds (i : Nat)
  | msAddrlen | msAddr | msSockopt | msSockfd | msBindAddrlen | msBindAddr | msControllen
  | msControl | msLevel | msOptname | msOptlen | msOptval | msHow | msMicrosec | msNfds
  | msFds | msOldpath | msNewpath | msSpid | msSubkey | msReport | msNonce | msLinkable
  | msAttestation | msExitcode | msIsExitgroup | msInitval
  | ocallIndex | buffer | lock | result
  deriving BEq

/-- A pointer into host memory as the enclave holds it. `gen` is ghost provenance: `some g` for
an untrusted-stack allocation made in generation `g`, `none` for any other host memory (the
untrusted heap, a caller's host buffer). NULL is address `0`. -/
structure HostPtr where
  addr : Nat
  gen : Option Nat
  deriving DecidableEq, Repr, Inhabited

/-- The NULL host pointer. -/
def HostPtr.null : HostPtr := ⟨0, none⟩

/-- `&p->f` for a field at byte offset `off`: same allocation, same provenance. -/
def HostPtr.offset (p : HostPtr) (off : Nat) : HostPtr := ⟨p.addr + off, p.gen⟩

@[simp] theorem HostPtr.null_addr : HostPtr.null.addr = 0 := rfl
@[simp] theorem HostPtr.null_gen : HostPtr.null.gen = none := rfl
@[simp] theorem HostPtr.offset_gen (p : HostPtr) (off : Nat) : (p.offset off).gen = p.gen := rfl

/-- A value the enclave stores into a host struct field. -/
inductive Val where
  | int (v : Int)
  | ptr (p : HostPtr)
  | code (c : OcallCode)
  | bytes (n : Nat) (data : Nat → UInt8)

/-- What the enclave thread does, in the order it does it. The `load*`, `ocall`, `enqueue`
and `cas` events are queries: the host answers each. -/
inductive Event where
  /-- An untrusted-stack allocation of `size` bytes at `p`. -/
  | alloc (p : HostPtr) (size : Nat)
  /-- `sgx_reset_ustack()`. -/
  | reset
  /-- `ms->f = v` for a host struct at `ms`. -/
  | store (ms : HostPtr) (f : Field) (v : Val)
  /-- A read of `ms->f`. -/
  | load (ms : HostPtr) (f : Field)
  /-- A copy of `n` enclave bytes into host memory at `dst`. -/
  | storeBytes (dst : HostPtr) (n : Nat) (data : Nat → UInt8)
  /-- A read of `n` bytes of host memory at `src`. -/
  | loadBytes (src : HostPtr) (n : Nat)
  /-- `sgx_ocall(code, ms)`: an enclave exit. -/
  | ocall (code : OcallCode) (ms : HostPtr)
  /-- `rpc_enqueue(g_rpc_queue, req)`. -/
  | enqueue (req : HostPtr)
  /-- `spinlock_cmpxchg(lock, &expected, desired)` on a lock word in host memory. -/
  | cas (lock : HostPtr) (expected desired : Int)
  /-- A write of `n` bytes of enclave-side memory at `dst` (an output object, a buffer of the
  enclave heap, a local). -/
  | write (dst n : Nat)
  /-- `malloc(size)` of the enclave heap returned `p`. -/
  | malloc (size p : Nat)
  /-- `free(p)`. -/
  | free (p : Nat)

/-- An event with the untrusted-stack generation it happened in. -/
structure Entry where
  gen : Nat
  ev : Event

/-- The untrusted side: the host OS, the untrusted runtime and the RPC worker threads. It
answers the newest query of the log, as any function of the whole log. -/
structure Host where
  /-- A word: an OCALL result, a field the enclave reads, the RPC queue's answer, the old value
  of a lock word. -/
  word : List Entry → Nat
  /-- The bytes of host memory the enclave copies in. -/
  bytes : List Entry → Nat → UInt8

/-- The fields of `sgx_attestation_t` that `ocall_get_attestation` copies in and rewrites. -/
inductive AttField where
  | quote | quoteLen | iasReport | iasReportLen | iasSig | iasSigLen | iasCerts | iasCertsLen
  deriving DecidableEq, Repr

/-- The struct layouts of the headers `enclave_ocalls.c` includes (`ocall_types.h`,
`rpcqueue.h`, the SGX types); they are not part of the repository's files, so the model takes
them as parameters, with the well-formedness the C compiler guarantees. -/
structure Layout where
  /-- `sizeof(ms_ocall_*_t)` -/
  msSize : OcallCode → Nat
  /-- `alignof(ms_ocall_*_t)` -/
  msAlign : OcallCode → Nat
  /-- `sizeof(rpc_request_t)` -/
  reqSize : Nat
  /-- `alignof(rpc_request_t)` -/
  reqAlign : Nat
  /-- `offsetof(rpc_request_t, lock)` -/
  lockOffset : Nat
  /-- `sizeof(struct stat)` -/
  statSize : Nat
  /-- `sizeof(struct sockopt)` -/
  sockoptSize : Nat
  /-- `sizeof(sgx_spid_t)`, `sizeof(sgx_report_t)`, `sizeof(sgx_quote_nonce_t)` -/
  spidSize : Nat
  reportSize : Nat
  nonceSize : Nat
  /-- `sizeof(sgx_attestation_t)` -/
  attestationSize : Nat
  /-- `offsetof(ms_ocall_get_attestation_t, ms_attestation)` -/
  attestationOffset : Nat
  /-- the offset of each 8-byte field of `sgx_attestation_t` -/
  attOffset : AttField → Nat
  msAlign_pos : ∀ c, 0 < msAlign c
  reqAlign_pos : 0 < reqAlign
  lock_in_req : lockOffset + sizeofInt ≤ reqSize
  attestation_in_ms : attestationOffset + attestationSize ≤ msSize .getAttestation
  attField_in : ∀ f, attOffset f + 8 ≤ attestationSize

/-- What is fixed for a run of a wrapper. -/
structure Env where
  enclave : Enclave
  layout : Layout
  host : Host
  /-- `g_rpc_queue != NULL`: set once at enclave initialization. -/
  rpcQueue : Bool
  /-- `RPC_SPINLOCK_TIMEOUT` -/
  spinTimeout : Nat
  /-- the granularity of `ALLOC_ALIGNUP` -/
  allocAlign : Nat
  /-- the thread's saved untrusted-stack top, and the end of its untrusted stack -/
  ustackTop : Nat
  ustackBottom : Nat
  /-- the enclave heap: `malloc(size)` given the log -/
  malloc : List Entry → Nat → Nat
  /-- the enclave-stack address of a wrapper's local `obuf`, whose address it passes to
  `ocall_mmap_untrusted` -/
  localSlot : Nat
  /-- how many iterations a loop the host keeps going may run in the model -/
  fuel : Nat
  bottom_pos : 0 < ustackBottom
  bottom_le_top : ustackBottom ≤ ustackTop
  ustack_outside : sgxIsCompletelyOutsideEnclave enclave ustackBottom (ustackTop - ustackBottom)
  malloc_inside : ∀ l n, malloc l n = 0 ∨ sgxIsCompletelyWithinEnclave enclave (malloc l n) n

/-- What the enclave thread owns: enclave memory, the untrusted-stack pointer
(`GET_ENCLAVE_TLS(ustack)`), the ghost generation counter and the log. The log is newest
first. -/
structure Machine where
  mem : Mem
  ustack : Nat
  gen : Nat
  log : List Entry

/-- Record an event. -/
def Machine.push (m : Machine) (e : Event) : Machine :=
  { m with log := ⟨m.gen, e⟩ :: m.log }

@[simp] theorem Machine.push_mem (m : Machine) (e : Event) : (m.push e).mem = m.mem := rfl
@[simp] theorem Machine.push_ustack (m : Machine) (e : Event) : (m.push e).ustack = m.ustack :=
  rfl
@[simp] theorem Machine.push_gen (m : Machine) (e : Event) : (m.push e).gen = m.gen := rfl
@[simp] theorem Machine.push_log (m : Machine) (e : Event) :
    (m.push e).log = ⟨m.gen, e⟩ :: m.log := rfl

/-! ## What the host finds when it serves an OCALL

The host serves an OCALL by reading its argument struct. These read off a log what the enclave
had stored there by then. They see the exits of `sgx_ocall`: in a run without the RPC queue,
every dispatch. -/

/-- The `int` a value holds, if it is one. -/
def Val.asInt : Val → Option Int
  | .int v => some v
  | _ => none

/-- The pointer a value holds, if it is one. -/
def Val.asPtr : Val → Option HostPtr
  | .ptr p => some p
  | _ => none

/-- The newest value the log `l` stores into `ms->f`. -/
def storedVal (ms : HostPtr) (f : Field) : List Entry → Option Val
  | [] => none
  | ⟨_, .store ms' f' v⟩ :: l => if ms' = ms ∧ f' == f then some v else storedVal ms f l
  | _ :: l => storedVal ms f l

/-- The size of the newest untrusted-stack allocation at `p` in the log `l`. -/
def allocSize (p : HostPtr) : List Entry → Option Nat
  | [] => none
  | ⟨_, .alloc p' n⟩ :: l => if p' = p then some n else allocSize p l
  | _ :: l => allocSize p l

/-- The enclave exits for `code` in the log `l`, newest first: each one's argument struct and the
log before it. -/
def exits (code : OcallCode) : List Entry → List (HostPtr × List Entry)
  | [] => []
  | ⟨_, .ocall c ms⟩ :: l => if c = code then (ms, l) :: exits code l else exits code l
  | _ :: l => exits code l

/-- At each exit for `code` in `l`, newest first: the length the struct announces in `ms->len`,
and the size of the untrusted-stack allocation `ms->buf` points to. -/
def bufferLengths (code : OcallCode) (buf len : Field) (l : List Entry) :
    List (Option Int × Option Nat) :=
  (exits code l).map fun (ms, l) =>
    ((storedVal ms len l).bind Val.asInt,
      ((storedVal ms buf l).bind Val.asPtr).bind (allocSize · l))

/-! ## The monad -/

/-- How a run ends: it returns, it dereferences NULL (undefined behaviour: the model stops), or
a loop the host keeps going outruns the fuel. -/
inductive Outcome (α : Type) where
  | ok (a : α) (m : Machine)
  | fault (m : Machine)
  | diverge (m : Machine)

/-- The machine a run ends in. -/
def Outcome.machine : Outcome α → Machine
  | .ok _ m | .fault m | .diverge m => m

/-- A computation of the enclave thread. -/
def OcallM (α : Type) : Type := Env → Machine → Outcome α

namespace OcallM

/-- `return a`. -/
protected def pure (a : α) : OcallM α := fun _ m => .ok a m

/-- Sequencing. -/
protected def bind (x : OcallM α) (f : α → OcallM β) : OcallM β := fun env m =>
  match x env m with
  | .ok a m' => f a env m'
  | .fault m' => .fault m'
  | .diverge m' => .diverge m'

instance : Monad OcallM where
  pure := OcallM.pure
  bind := OcallM.bind

/-- The environment. -/
def read : OcallM Env := fun env m => .ok env m

/-- A NULL dereference. -/
def fault : OcallM α := fun _ m => .fault m

/-- The fuel of a loop ran out. -/
def diverge : OcallM α := fun _ m => .diverge m

/-- Change the machine. -/
def modify (f : Machine → Machine) : OcallM Unit := fun _ m => .ok () (f m)

/-- Record an event that asks the host nothing. -/
def emit (e : Event) : OcallM Unit := modify (·.push e)

/-- Record a query and return the host's word for it. -/
def query (e : Event) : OcallM Nat := fun env m => .ok (env.host.word (m.push e).log) (m.push e)

/-- Record a query and return the host's bytes for it. -/
def queryBytes (e : Event) : OcallM (Nat → UInt8) := fun env m =>
  .ok (env.host.bytes (m.push e).log) (m.push e)

/-! ### Weakest preconditions -/

/-- `wp c env m Q F D`: run from `m`, `c` returns `a` in a machine satisfying `Q a`, faults in
one satisfying `F`, or outruns its fuel in one satisfying `D`. -/
def wp (c : OcallM α) (env : Env) (m : Machine) (Q : α → Machine → Prop)
    (F D : Machine → Prop) : Prop :=
  match c env m with
  | .ok a m' => Q a m'
  | .fault m' => F m'
  | .diverge m' => D m'

/-- A postcondition of one run is decided by running it. -/
instance (c : OcallM α) (env : Env) (m : Machine) (Q : α → Machine → Prop) (F D : Machine → Prop)
    [∀ a m, Decidable (Q a m)] [DecidablePred F] [DecidablePred D] :
    Decidable (wp c env m Q F D) :=
  match h : c env m with
  | .ok a m' => decidable_of_iff (Q a m') (by simp [wp, h])
  | .fault m' => decidable_of_iff (F m') (by simp [wp, h])
  | .diverge m' => decidable_of_iff (D m') (by simp [wp, h])

variable {env : Env} {m : Machine} {F D : Machine → Prop}

/-! The `wp_*` lemmas are stated as `↔` and are not `rfl`-lemmas: `simp` rewrites with them
propositionally, so the kernel never re-evaluates a computation to check a rewrite. -/

@[simp] theorem wp_pure {Q : α → Machine → Prop} (a : α) :
    wp (pure a) env m Q F D ↔ Q a m := Iff.rfl

@[simp] theorem wp_bind {Q : α → Machine → Prop} (x : OcallM β) (f : β → OcallM α) :
    wp (x >>= f) env m Q F D ↔ wp x env m (fun b m' => wp (f b) env m' Q F D) F D := by
  simp only [wp, bind, OcallM.bind]
  cases x env m <;> rfl

@[simp] theorem wp_map {Q : α → Machine → Prop} (x : OcallM β) (f : β → α) :
    wp (f <$> x) env m Q F D ↔ wp x env m (fun b m' => Q (f b) m') F D := by
  simp only [wp, Functor.map, OcallM.bind]
  cases x env m <;> rfl

@[simp] theorem wp_ite {Q : α → Machine → Prop} (b : Prop) [Decidable b] (x y : OcallM α) :
    wp (if b then x else y) env m Q F D ↔
      if b then wp x env m Q F D else wp y env m Q F D := by
  split <;> rfl

@[simp] theorem wp_read {Q : Env → Machine → Prop} : wp read env m Q F D ↔ Q env m := Iff.rfl
@[simp] theorem wp_fault {Q : α → Machine → Prop} : wp (fault : OcallM α) env m Q F D ↔ F m :=
  Iff.rfl
@[simp] theorem wp_diverge {Q : α → Machine → Prop} :
    wp (diverge : OcallM α) env m Q F D ↔ D m := Iff.rfl
@[simp] theorem wp_modify {Q : Unit → Machine → Prop} (f : Machine → Machine) :
    wp (modify f) env m Q F D ↔ Q () (f m) := Iff.rfl
@[simp] theorem wp_emit {Q : Unit → Machine → Prop} (e : Event) :
    wp (emit e) env m Q F D ↔ Q () (m.push e) := Iff.rfl
@[simp] theorem wp_query {Q : Nat → Machine → Prop} (e : Event) :
    wp (query e) env m Q F D ↔ Q (env.host.word (m.push e).log) (m.push e) := Iff.rfl
@[simp] theorem wp_queryBytes {Q : (Nat → UInt8) → Machine → Prop} (e : Event) :
    wp (queryBytes e) env m Q F D ↔ Q (env.host.bytes (m.push e).log) (m.push e) := Iff.rfl

/-- Consequence: weaken all three postconditions. -/
theorem wp_mono {c : OcallM α} {Q Q' : α → Machine → Prop} {F' D' : Machine → Prop}
    (h : wp c env m Q F D) (hq : ∀ a m', Q a m' → Q' a m') (hf : ∀ m', F m' → F' m')
    (hd : ∀ m', D m' → D' m') : wp c env m Q' F' D' := by
  unfold wp at *
  revert h
  cases c env m with
  | ok a m' => exact hq a m'
  | fault m' => exact hf m'
  | diverge m' => exact hd m'

/-- Consequence: weaken the postcondition of a return. -/
theorem wp_post {c : OcallM α} {Q Q' : α → Machine → Prop} (h : wp c env m Q F D)
    (hq : ∀ a m', Q a m' → Q' a m') : wp c env m Q' F D :=
  wp_mono h hq (fun _ => id) (fun _ => id)

/-- A conditional, one branch under each outcome of its test. -/
theorem wp_ite_of {b : Prop} [Decidable b] {x y : OcallM α} {Q : α → Machine → Prop}
    (hx : b → wp x env m Q F D) (hy : ¬b → wp y env m Q F D) :
    wp (if b then x else y) env m Q F D := by
  by_cases h : b
  · rw [if_pos h]; exact hx h
  · rw [if_neg h]; exact hy h

/-- A run satisfies each of a family of postconditions at once. -/
theorem wp_forall {ι : Sort _} [Nonempty ι] {c : OcallM α} {Q : ι → α → Machine → Prop}
    (h : ∀ i, wp c env m (Q i) F D) : wp c env m (fun a m' => ∀ i, Q i a m') F D := by
  unfold wp at *
  revert h
  cases c env m with
  | ok a m' => exact id
  | fault m' => exact fun h => h (Classical.arbitrary ι)
  | diverge m' => exact fun h => h (Classical.arbitrary ι)

/-- Sequencing through an intermediate assertion `J`. -/
theorem wp_bind_of {x : OcallM β} {f : β → OcallM α} {Q : α → Machine → Prop}
    (J : β → Machine → Prop) (hx : wp x env m J F D)
    (hf : ∀ b m', J b m' → wp (f b) env m' Q F D) : wp (x >>= f) env m Q F D :=
  (wp_bind x f).2 (wp_post hx hf)

end OcallM

/-! ## A concrete environment

The runs that exhibit a defect of `enclave_ocalls.c` are runs in this environment, with a host
chosen for each. -/

/-- An enclave at `[2 ^ 32, 2 ^ 34)`. -/
def sampleEnclave : Enclave := ⟨2 ^ 32, 2 ^ 34, by decide, by decide, by decide⟩

/-- Every argument struct and the request descriptor take 64 bytes aligned to 8, with the lock
word first; `sgx_attestation_t` is eight 8-byte words at the start of its argument struct. -/
def sampleLayout : Layout where
  msSize _ := 64
  msAlign _ := 8
  reqSize := 64
  reqAlign := 8
  lockOffset := 0
  statSize := 8
  sockoptSize := 8
  spidSize := 16
  reportSize := 16
  nonceSize := 16
  attestationSize := 64
  attestationOffset := 0
  attOffset
    | .quote => 0 | .quoteLen => 8 | .iasReport => 16 | .iasReportLen => 24
    | .iasSig => 32 | .iasSigLen => 40 | .iasCerts => 48 | .iasCertsLen => 56
  msAlign_pos _ := Nat.succ_pos 7
  reqAlign_pos := by decide
  lock_in_req := by decide
  attestation_in_ms := by decide
  attField_in f := by cases f <;> decide

/-- A thread whose untrusted stack ends at `2 ^ 21`, below the enclave: 1 MiB of it if `roomy`,
and otherwise room for one 64-byte struct. The enclave heap is exhausted: `malloc` returns
NULL. -/
def sampleEnv (host : Host) (rpcQueue roomy : Bool) : Env where
  enclave := sampleEnclave
  layout := sampleLayout
  host := host
  rpcQueue := rpcQueue
  spinTimeout := 1
  allocAlign := 4096
  ustackTop := 2 ^ 21
  ustackBottom := if roomy then 2 ^ 20 else 2 ^ 21 - 64
  malloc _ _ := 0
  localSlot := 2 ^ 32 + 4096
  fuel := 4
  bottom_pos := by split <;> decide
  bottom_le_top := by split <;> decide
  ustack_outside := by split <;> decide
  malloc_inside _ _ := .inl rfl

/-- A thread at the start of its run: its untrusted stack at its top and an empty log. -/
def sampleMachine (env : Env) (mem : Mem) : Machine := ⟨mem, env.ustackTop, 0, []⟩

end EnclaveOcalls
