import EnclaveOcalls.Exitless

/-!
# The wait phase of `sgx_exitless_ocall` as an automaton

Once `rpc_enqueue` has taken the request, the enclave thread touches host memory only at the
points where it CASes `req->lock`, calls `FUTEX_WAIT`, or reads `req->result`; in between, it
decides from the value it saw. `WaitPc` names those points and `WaitPc.next` is the decision.
`sgxExitlessOcall_follows` proves that the code makes exactly these decisions: the host queries of
any run of `sgxExitlessOcall`, with the host's answers, form a path of the automaton from
`WaitPc.start RPC_SPINLOCK_TIMEOUT` that ends in the value returned. The concurrent model of
`EnclaveOcalls.Lock` runs the same automaton against an honest RPC worker and the host futex.
-/

namespace EnclaveOcalls

open OcallM

/-- A point of the wait phase at which the enclave thread accesses host memory. -/
inductive WaitPc
  /-- an attempt of `spinlock_lock_timeout`, with `k` attempts after it -/
  | spin (k : Nat)
  /-- the CAS from UNLOCKED to LOCKED_NO_WAITERS after the spin timed out -/
  | timedOut
  /-- the CAS from `c` to LOCKED_WITH_WAITERS at the head of the futex loop -/
  | promote (c : Int)
  /-- the `FUTEX_WAIT` OCALL -/
  | futex
  /-- the CAS from UNLOCKED to LOCKED_WITH_WAITERS that closes the futex loop -/
  | recheck
  /-- `return req->result` -/
  | result
  deriving DecidableEq, Repr

namespace WaitPc

/-- Where the wait phase starts for the spin bound `n`: with `n = 0` it has timed out at once. -/
def start : Nat → WaitPc
  | 0 => .timedOut
  | k + 1 => .spin k

/-- The head of the futex loop with `c` the lock value last seen: the shortcut to the futex wait
when `c` is LOCKED_WITH_WAITERS. -/
def head (c : Int) : WaitPc := if c = spinlockLockedWithWaiters then .futex else .promote c

/-- The compare-and-swap a point makes on `req->lock`: expected and desired value. -/
def cas : WaitPc → Option (Int × Int)
  | .spin _ | .timedOut => some (spinlockUnlocked, spinlockLockedNoWaiters)
  | .promote c => some (c, spinlockLockedWithWaiters)
  | .recheck => some (spinlockUnlocked, spinlockLockedWithWaiters)
  | .futex | .result => none

/-- What the enclave thread does with the value `x` its access at `pc` returned: the CAS's old
value, the futex result, or the result word. `inr v` is `return v`. -/
def next : WaitPc → Int → WaitPc ⊕ Int
  | .spin k, x => .inl (if x = spinlockUnlocked then .result else start k)
  | .timedOut, x => .inl (if x = spinlockUnlocked then .result else head x)
  | .promote c, x => .inl (if x = c then .futex else .recheck)
  | .futex, r => if r < 0 ∧ r ≠ -EAGAIN then .inr (-EPERM) else .inl .recheck
  | .recheck, x => .inl (if x = spinlockUnlocked then .result else head x)
  | .result, v => .inr v

/-- The host query at `pc`, for the request `req` and the futex arguments `fms`. -/
def access (req fms : HostPtr) (lockOffset : Nat) : WaitPc → Event
  | .spin _ | .timedOut =>
    .cas (req.offset lockOffset) spinlockUnlocked spinlockLockedNoWaiters
  | .promote c => .cas (req.offset lockOffset) c spinlockLockedWithWaiters
  | .futex => .ocall .futex fms
  | .recheck => .cas (req.offset lockOffset) spinlockUnlocked spinlockLockedWithWaiters
  | .result => .load req .result

/-- `Steps acc pc tr o`: from `pc`, making the queries `acc` names and reading the host's answers
(the words of `tr`, oldest first), the wait phase reaches `o`: the point `inl pc'`, or the return
`inr v`. -/
inductive Steps (acc : WaitPc → Event) : WaitPc → List (Event × Nat) → WaitPc ⊕ Int → Prop
  | refl (pc : WaitPc) : Steps acc pc [] (.inl pc)
  | cont {pc pc' : WaitPc} {w : Nat} {tr o} (h : pc.next (toI32 w) = .inl pc')
      (rest : Steps acc pc' tr o) : Steps acc pc ((acc pc, w) :: tr) o
  | ret {pc : WaitPc} {w : Nat} {v : Int} (h : pc.next (toI32 w) = .inr v) :
      Steps acc pc [(acc pc, w)] (.inr v)

theorem Steps.trans {acc : WaitPc → Event} {pc pc' : WaitPc} {tr tr' o}
    (h : Steps acc pc tr (.inl pc')) (h' : Steps acc pc' tr' o) :
    Steps acc pc (tr ++ tr') o := by
  generalize hx : (Sum.inl pc' : WaitPc ⊕ Int) = x at h
  induction h with
  | refl => cases hx; exact h'
  | cont hn _ ih => exact .cont hn (ih hx)
  | ret => cases hx

theorem Steps.single {acc : WaitPc → Event} {pc pc' : WaitPc} {w : Nat}
    (h : pc.next (toI32 w) = .inl pc') : Steps acc pc [(acc pc, w)] (.inl pc') :=
  .cont h (.refl _)

end WaitPc

/-! ## What the enclave learns from the host -/

/-- A query answered by a host word. -/
def Event.isWordQuery : Event → Bool
  | .load _ _ | .ocall _ _ | .enqueue _ | .cas _ _ _ => true
  | _ => false

/-- The word queries of a log with the host's answers to them, newest first. -/
def Host.answers (h : Host) : List Entry → List (Event × Nat)
  | [] => []
  | e :: l => if e.ev.isWordQuery then (e.ev, h.word (e :: l)) :: h.answers l else h.answers l

@[simp] theorem Host.answers_cons (h : Host) (e : Entry) (l : List Entry) :
    h.answers (e :: l) =
      if e.ev.isWordQuery then (e.ev, h.word (e :: l)) :: h.answers l else h.answers l :=
  rfl

theorem WaitPc.access_isWordQuery (req fms : HostPtr) (off : Nat) (pc : WaitPc) :
    (pc.access req fms off).isWordQuery = true := by
  cases pc <;> rfl

/-- From the log `l₀` to the log `l`, the host's answers to the queries `acc` names form a path of
the automaton from `pc₀` to `o`. -/
def Host.Follows (h : Host) (acc : WaitPc → Event) (pc₀ : WaitPc) (l₀ l : List Entry)
    (o : WaitPc ⊕ Int) : Prop :=
  ∃ tr, pc₀.Steps acc tr o ∧ h.answers l = tr.reverse ++ h.answers l₀

namespace Host.Follows

variable {h : Host} {req fms : HostPtr} {off : Nat} {pc₀ pc : WaitPc} {l₀ l : List Entry}

theorem refl (h : Host) (acc : WaitPc → Event) (pc : WaitPc) (l : List Entry) :
    h.Follows acc pc l l (.inl pc) :=
  ⟨[], .refl _, rfl⟩

/-- The access at `pc`, answered, moves the path on to `pc'`. -/
theorem step {pc' : WaitPc} {g : Nat}
    (hf : h.Follows (WaitPc.access req fms off) pc₀ l₀ l (.inl pc))
    (hn : pc.next (toI32 (h.word (⟨g, pc.access req fms off⟩ :: l))) = .inl pc') :
    h.Follows (WaitPc.access req fms off) pc₀ l₀ (⟨g, pc.access req fms off⟩ :: l) (.inl pc') := by
  obtain ⟨tr, hs, ha⟩ := hf
  exact ⟨tr ++ [_], hs.trans (.single hn), by simp [WaitPc.access_isWordQuery, ha]⟩

/-- The access at `pc`, answered, ends the path with `return v`. -/
theorem ret {v : Int} {g : Nat}
    (hf : h.Follows (WaitPc.access req fms off) pc₀ l₀ l (.inl pc))
    (hn : pc.next (toI32 (h.word (⟨g, pc.access req fms off⟩ :: l))) = .inr v) :
    h.Follows (WaitPc.access req fms off) pc₀ l₀ (⟨g, pc.access req fms off⟩ :: l) (.inr v) := by
  obtain ⟨tr, hs, ha⟩ := hf
  exact ⟨tr ++ [_], hs.trans (.ret hn), by simp [WaitPc.access_isWordQuery, ha]⟩

/-- An event that asks the host nothing leaves the path where it is. -/
theorem skip {acc : WaitPc → Event} {o : WaitPc ⊕ Int} {e : Event} {g : Nat}
    (he : e.isWordQuery = false) (hf : h.Follows acc pc₀ l₀ l o) :
    h.Follows acc pc₀ l₀ (⟨g, e⟩ :: l) o := by
  obtain ⟨tr, hs, ha⟩ := hf
  exact ⟨tr, hs, by simp [he, ha]⟩

end Host.Follows

/-! ## The code follows the automaton -/

section Follows

variable {env : Env} (req fms : HostPtr) {pc₀ : WaitPc} {l₀ : List Entry}

/-- `spinlock_lock_timeout` runs the spin points of the automaton: it times out exactly where the
path reaches `timedOut`, and takes the lock exactly where it reaches `result`. -/
theorem spinlockLockTimeout_follows (k : Nat) (m : Machine)
    (hf : env.host.Follows (WaitPc.access req fms env.layout.lockOffset) pc₀ l₀ m.log
      (.inl (WaitPc.start k))) :
    wp (spinlockLockTimeout req k) env m
      (fun b m' => env.host.Follows (WaitPc.access req fms env.layout.lockOffset) pc₀ l₀ m'.log
        (.inl (if b then .timedOut else .result)))
      (fun _ => True) (fun _ => True) := by
  induction k generalizing m with
  | zero => exact hf
  | succ k ih =>
    simp only [spinlockLockTimeout, wp_bind, wp_spinlockCmpxchg, wp_ite, wp_pure, ite_true,
      Bool.false_eq_true, ite_false, Machine.push_log]
    split_ifs with h
    · exact hf.step (by simp [WaitPc.start, WaitPc.next, WaitPc.access, h])
    · exact ih _ (hf.step (by simp [WaitPc.start, WaitPc.next, WaitPc.access, h]))

/-- The head of the futex loop: the thread goes on to the futex wait exactly where the path
does, and to the recheck where the path does. -/
theorem futexPromote_follows (c : Int) (m : Machine)
    (hf : env.host.Follows (WaitPc.access req fms env.layout.lockOffset) pc₀ l₀ m.log
      (.inl (WaitPc.head c))) :
    wp (if c = spinlockLockedWithWaiters then pure true
        else Prod.fst <$> spinlockCmpxchg req c spinlockLockedWithWaiters) env m
      (fun wait m' => env.host.Follows (WaitPc.access req fms env.layout.lockOffset) pc₀ l₀ m'.log
        (.inl (if wait then .futex else .recheck)))
      (fun _ => True) (fun _ => True) := by
  by_cases hw : c = spinlockLockedWithWaiters
  · simpa [WaitPc.head, hw] using hf
  · simp only [WaitPc.head, hw, if_false] at hf
    simp only [hw, wp_ite, if_false, wp_map, wp_spinlockCmpxchg, Machine.push_log, if_true,
      Bool.false_eq_true]
    split_ifs with h <;> exact hf.step (by simp [WaitPc.next, WaitPc.access, h])

/-- The futex wait: the loop returns `-EPERM` exactly where the path does, and goes on to the
recheck where the path does; a thread that does not wait is at the recheck already. -/
theorem futexWait_follows (wait : Bool) (m : Machine)
    (hf : env.host.Follows (WaitPc.access req fms env.layout.lockOffset) pc₀ l₀ m.log
      (.inl (if wait then .futex else .recheck))) :
    wp (if wait then do
        storeField fms .msVal (.int spinlockLockedWithWaiters)
        let ret ← sgxOcall .futex fms
        pure (decide (ret < 0 ∧ ret ≠ -EAGAIN))
      else pure false) env m
      (fun stop m' => env.host.Follows (WaitPc.access req fms env.layout.lockOffset) pc₀ l₀ m'.log
        (if stop then .inr (-EPERM) else .inl .recheck))
      (fun _ => True) (fun _ => True) := by
  cases wait
  · exact hf
  · simp only [wp_ite, if_true, wp_bind, wp_storeField, wp_sgxOcall, wp_pure, Machine.push_log,
      Machine.push_gen]
    rw [if_pos rfl] at hf
    split_ifs with h hr
    · exact (hf.skip (by rfl)).ret (by simp_all [WaitPc.next, WaitPc.access])
    · exact (hf.skip (by rfl)).step (by simp only [WaitPc.next]; exact if_neg (by simpa using hr))

/-- The futex loop runs the loop of the automaton from its head: it returns `some r` exactly
where the path returns `r`, and leaves with the lock exactly where the path reaches `result`. -/
theorem futexWaitLoop_follows (n : Nat) (c : Int) (m : Machine)
    (hf : env.host.Follows (WaitPc.access req fms env.layout.lockOffset) pc₀ l₀ m.log
      (.inl (WaitPc.head c))) :
    wp (futexWaitLoop req fms n c) env m
      (fun o m' => env.host.Follows (WaitPc.access req fms env.layout.lockOffset) pc₀ l₀ m'.log
        (match o with | some r => .inr r | none => .inl .result))
      (fun _ => True) (fun _ => True) := by
  induction n generalizing c m with
  | zero => trivial
  | succ n ih =>
    unfold futexWaitLoop
    refine wp_bind_of _ (futexPromote_follows req fms c m hf) fun wait m₁ h₁ => ?_
    refine wp_bind_of _ (futexWait_follows req fms wait m₁ h₁) fun stop m₂ h₂ => ?_
    cases stop
    · -- the recheck: the loop ends with the lock, or goes round from the head
      simp only [Bool.false_eq_true, if_false, wp_ite, wp_bind, wp_pure, wp_spinlockCmpxchg,
        Machine.push_log, if_true] at h₂ ⊢
      split_ifs with h
      · exact h₂.step (by simp [WaitPc.next, WaitPc.access, h])
      · exact ih _ _ (h₂.step (by simp only [WaitPc.next]; exact congrArg _ (if_neg h)))
    · exact h₂

/-- `return req->result`, with the path at `result`, ends the path with what it returns. -/
theorem loadResult_follows (m : Machine)
    (hf : env.host.Follows (WaitPc.access req fms env.layout.lockOffset) pc₀ l₀ m.log
      (.inl .result)) :
    wp (loadI32 req .result) env m
      (fun v m' => env.host.Follows (WaitPc.access req fms env.layout.lockOffset) pc₀ l₀ m'.log
        (.inr v))
      (fun _ => True) (fun _ => True) := by
  simp only [wp_loadI32, Machine.push_log]
  split_ifs
  exact hf.ret (by simp [WaitPc.next, WaitPc.access])

/-- The wait phase follows the automaton from `WaitPc.start RPC_SPINLOCK_TIMEOUT` to the value it
returns. The futex arguments are allocated only on the futex path, so the path before them is
one for every `fms`. -/
theorem exitlessWait_follows (m : Machine)
    (hf : ∀ fms, env.host.Follows (WaitPc.access req fms env.layout.lockOffset) pc₀ l₀ m.log
      (.inl (WaitPc.start env.spinTimeout))) :
    wp (exitlessWait req) env m
      (fun v m' => ∃ fms, env.host.Follows (WaitPc.access req fms env.layout.lockOffset) pc₀ l₀
        m'.log (.inr v))
      (fun _ => True) (fun _ => True) := by
  unfold exitlessWait
  rw [wp_bind, wp_read]
  refine wp_bind_of (fun (timedout : Bool) m' => ∀ fms, env.host.Follows
      (WaitPc.access req fms env.layout.lockOffset) pc₀ l₀ m'.log
      (.inl (if timedout then .timedOut else .result)))
    (wp_forall fun fms => spinlockLockTimeout_follows req fms _ _ (hf fms))
    fun timedout m₁ h₁ => ?_
  cases timedout
  · simp only [Bool.false_eq_true, if_false] at h₁ ⊢
    exact wp_post (loadResult_follows req default m₁ (h₁ default)) fun _ _ h => ⟨_, h⟩
  · simp only [if_true] at h₁ ⊢
    simp only [wp_bind, wp_spinlockCmpxchg, wp_ite, wp_pure, Bool.not_true, Bool.not_false,
      Bool.false_eq_true, if_false, if_true, Machine.push_log]
    split_ifs with hx
    · -- the CAS after the timeout took the lock
      exact wp_post (loadResult_follows req default _
          ((h₁ default).step (by simp [WaitPc.next, WaitPc.access, hx]))) fun _ _ h => ⟨_, h⟩
    · -- the futex loop, from the head with the value the CAS saw
      rw [wp_sgxAllocOnUstackAligned]
      split_ifs with ha
      swap
      · -- a failed allocation: the store through NULL faults
        simp only [wp_storeField, HostPtr.null_addr, if_true]
      simp only [wp_storeField, env.alloc_ne_zero ha.2, if_false]
      refine wp_post (@futexWaitLoop_follows _ req _ pc₀ l₀ _ _ _ ?_) fun o m' h => ?_
      · -- the CAS moved the path to the loop head; the allocation and the stores ask nothing
        refine .skip (by rfl) (.skip (by rfl) (.skip (by rfl) (.skip (by rfl) ((h₁ _).step ?_))))
        simp [WaitPc.next, WaitPc.access, hx]
      cases o
      · exact wp_post (loadResult_follows req _ m' h) fun _ _ h => ⟨_, h⟩
      · exact ⟨_, h⟩

/-- `sgx_exitless_ocall` with an RPC queue follows the automaton: either `rpc_enqueue` refused the
request and the call returns what the direct OCALL returned, or, from the log that ends with the
accepted `rpc_enqueue` on, the host's answers to the thread's queries form a path of the wait
automaton from `WaitPc.start RPC_SPINLOCK_TIMEOUT` that returns exactly the value the call
returns. -/
theorem sgxExitlessOcall_follows (code : OcallCode) (ms : HostPtr) (m : Machine)
    (hq : env.rpcQueue = true) :
    wp (sgxExitlessOcall code ms) env m
      (fun v m' => ∃ req g l,
        (env.host.word (⟨g, .enqueue req⟩ :: l) = 0 ∧
          m'.log = ⟨g, .ocall code ms⟩ :: ⟨g, .enqueue req⟩ :: l ∧
          v = toI32 (env.host.word m'.log)) ∨
        (env.host.word (⟨g, .enqueue req⟩ :: l) ≠ 0 ∧
          ∃ fms, env.host.Follows (WaitPc.access req fms env.layout.lockOffset)
            (WaitPc.start env.spinTimeout) (⟨g, .enqueue req⟩ :: l) m'.log (.inr v)))
      (fun _ => True) (fun _ => True) := by
  simp only [sgxExitlessOcall, hq, Bool.not_true, Bool.false_eq_true, if_false, wp_bind, wp_read,
    wp_pure, wp_sgxAllocOnUstackAligned]
  split_ifs with ha
  · -- the request is allocated, above the untrusted stack's end and so not NULL
    have hne := env.alloc_ne_zero ha.2
    simp only [spinlockInit, spinlockLock, wp_storeField, hne, if_false, wp_rpcEnqueue, wp_ite,
      wp_bind, wp_pure, wp_sgxOcall, apply_ite HostPtr.addr, HostPtr.null_addr]
    split_ifs with hw h0
    · exact ⟨_, _, _, .inl ⟨hw, rfl, trivial⟩⟩
    · exact absurd rfl h0
    · exact wp_post (exitlessWait_follows _ _ fun _ => .refl _ _ _ _)
        fun _ _ ⟨fms, h⟩ => ⟨_, _, _, .inr ⟨hw, fms, h⟩⟩
  · simp only [wp_storeField, HostPtr.null_addr, if_true]

end Follows

end EnclaveOcalls
