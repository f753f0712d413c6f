import EnclaveOcalls.WaitPhase

/-!
# The request lock, the RPC worker and the host futex

`sgx_exitless_ocall` hands its request to an untrusted RPC worker and then waits on the
request's lock, a three-state lock after Mutex 2 of *Futexes Are Tricky*. This module is the
system that the enclave thread forms with the worker and the host futex. Each atomic step of
either party is one transition, and the two interleave arbitrarily.

* The enclave thread builds and locks the request, enqueues it (or, when the queue is full,
  makes the OCALL directly), and then runs the wait automaton of `EnclaveOcalls.WaitPhase`:
  its compare-and-swaps are `WaitPc.cas` and its decisions are `WaitPc.next`, and
  `sgxExitlessOcall_follows` proves that the code makes exactly these decisions.
* The worker (spec §4.3) dequeues the request, serves it, stores `req->result`, stores
  UNLOCKED into the lock, and issues a futex wake if the word it replaced was
  LOCKED_WITH_WAITERS.
* `FUTEX_WAIT` sleeps only if the word is LOCKED_WITH_WAITERS at that instant and returns
  `-EAGAIN` otherwise. A wake ends the sleep with `0`. A spurious return, from the call or from
  the sleep, can carry any value.

This file proves the following.
* Reading `req->result` only happens after the worker's release, and it returns what the
  worker stored for `(code, ms)`. Every return except the futex-error `-EPERM` equals what the
  host serves for the direct OCALL (`exitless_result_after_release`).
* No wake-up is lost. While the thread sleeps, either the worker has not released the lock and
  the word is LOCKED_WITH_WAITERS, or the worker's wake is pending. After the release the thread
  never falls asleep again (`exitless_no_lost_wakeup`).
* The thread can return before the release: a `FUTEX_WAIT` that fails with anything but
  `-EAGAIN` makes `sgx_exitless_ocall` return `-EPERM` while the worker still owns the request
  (`exitless_returns_before_release`). This is the only early return
  (`exitless_early_return_only_on_futex_error`).
-/

namespace EnclaveOcalls

namespace Lock

/-- Where the RPC worker is with the request. -/
inductive Worker
  | idle
  /-- dequeued the request `(req->ocall_index, req->buffer)` and is serving it -/
  | serving (job : OcallCode × HostPtr)
  /-- stored `req->result` -/
  | stored
  /-- released the lock over LOCKED_WITH_WAITERS; its futex wake is still to come -/
  | waking
  | finished
  deriving DecidableEq

/-- The `return` by which `sgx_exitless_ocall` ended. -/
inductive Exit
  /-- `return sgx_ocall(code, ms)` after the queue refused the request -/
  | direct
  /-- `return req->result` -/
  | result
  /-- `return -EPERM` after a failed `FUTEX_WAIT` -/
  | futexError
  deriving DecidableEq

/-- Where the enclave thread is in `sgx_exitless_ocall`. -/
inductive Enc
  | start
  /-- the request is built and locked, not yet enqueued -/
  | built
  /-- the queue refused the request -/
  | direct
  | wait (pc : WaitPc)
  /-- asleep in `FUTEX_WAIT` on the request's lock -/
  | asleep
  | done (v : Int) (exit : Exit)
  deriving DecidableEq

/-- The system's state: the two threads and the shared host memory. -/
structure Sys where
  enc : Enc
  worker : Worker
  /-- `req->lock` -/
  lock : Int
  /-- `req->result` -/
  result : Int
  /-- `(req->ocall_index, req->buffer)` once stored -/
  req : Option (OcallCode × HostPtr)
  /-- the request is in the queue -/
  queued : Bool
  /-- `rpc_enqueue` accepted the request -/
  accepted : Bool

/-- What a run is about: the OCALL, the spin bound and what the host's OCALL returns. -/
structure Params where
  code : OcallCode
  ms : HostPtr
  spinTimeout : Nat
  serve : OcallCode → HostPtr → Int

/-- The worker has stored UNLOCKED into the lock. -/
def Sys.Released (s : Sys) : Prop := s.worker = .waking ∨ s.worker = .finished

/-- The enclave thread after its access at `pc` saw `x`. -/
def afterAccess (pc : WaitPc) (x : Int) : Enc :=
  match pc.next x with
  | .inl pc' => .wait pc'
  | .inr v => .done v (if pc = .result then .result else .futexError)

/-- The transitions. The enclave thread's follow the code of `sgx_exitless_ocall`, the
worker's the spec. -/
inductive Step (p : Params) : Sys → Sys → Prop
  /-- Lines 37–45: allocate the request, store the code and the arguments, initialise and take
  the lock. The request is not shared yet, so this is one step. -/
  | build (s : Sys) (h : s.enc = .start) :
      Step p s
        { s with enc := .built, lock := spinlockLockedNoWaiters, req := some (p.code, p.ms) }
  | enqueue (s : Sys) (h : s.enc = .built) :
      Step p s
        { s with enc := .wait (WaitPc.start p.spinTimeout), queued := true, accepted := true }
  | refuse (s : Sys) (h : s.enc = .built) : Step p s { s with enc := .direct }
  | direct (s : Sys) (h : s.enc = .direct) :
      Step p s { s with enc := .done (p.serve p.code p.ms) .direct }
  /-- `spinlock_cmpxchg(&req->lock, &e, d)`: atomic, it returns the old value. -/
  | cas (s : Sys) {pc : WaitPc} {e d : Int} (h : s.enc = .wait pc) (hc : pc.cas = some (e, d)) :
      Step p s { s with enc := afterAccess pc s.lock, lock := if s.lock = e then d else s.lock }
  | read (s : Sys) (h : s.enc = .wait .result) :
      Step p s { s with enc := afterAccess .result s.result }
  | futexAgain (s : Sys) (h : s.enc = .wait .futex) (hl : s.lock ≠ spinlockLockedWithWaiters) :
      Step p s { s with enc := afterAccess .futex (-EAGAIN) }
  | futexSleep (s : Sys) (h : s.enc = .wait .futex) (hl : s.lock = spinlockLockedWithWaiters) :
      Step p s { s with enc := .asleep }
  | futexSpurious (s : Sys) (r : Int) (h : s.enc = .wait .futex ∨ s.enc = .asleep) :
      Step p s { s with enc := afterAccess .futex r }
  | dequeue (s : Sys) {job : OcallCode × HostPtr} (hw : s.worker = .idle)
      (hq : s.queued = true) (hr : s.req = some job) :
      Step p s { s with worker := .serving job, queued := false }
  | store (s : Sys) {job : OcallCode × HostPtr} (hw : s.worker = .serving job) :
      Step p s { s with worker := .stored, result := p.serve job.1 job.2 }
  | release (s : Sys) (hw : s.worker = .stored) :
      Step p s
        { s with lock := spinlockUnlocked
                 worker := if s.lock = spinlockLockedWithWaiters then .waking else .finished }
  | wake (s : Sys) (hw : s.worker = .waking) :
      Step p s
        { s with worker := .finished
                 enc := if s.enc = .asleep then afterAccess .futex 0 else s.enc }

/-- Before `sgx_exitless_ocall`: the request does not exist, the lock and result words hold
whatever was on the untrusted stack. -/
structure Init (s : Sys) : Prop where
  enc : s.enc = .start
  worker : s.worker = .idle
  req : s.req = none
  queued : s.queued = false
  accepted : s.accepted = false

/-- The states some interleaving reaches. -/
inductive Reachable (p : Params) : Sys → Prop
  | init {s : Sys} (h : Init s) : Reachable p s
  | step {s s' : Sys} (h : Reachable p s) (hs : Step p s s') : Reachable p s'

/-! ## What one access of the enclave thread can lead to -/

section AfterAccess

variable {pc pc' : WaitPc} {x v : Int} {e : Exit}

theorem afterAccess_eq_done :
    afterAccess pc x = .done v e ↔
      pc.next x = .inr v ∧ e = if pc = .result then .result else .futexError := by
  cases h : pc.next x <;> simp [afterAccess, h, eq_comm]

@[simp] theorem afterAccess_ne_asleep : afterAccess pc x ≠ .asleep := by
  unfold afterAccess; split <;> simp

@[simp] theorem afterAccess_ne_start : afterAccess pc x ≠ .start := by
  unfold afterAccess; split <;> simp

@[simp] theorem afterAccess_ne_built : afterAccess pc x ≠ .built := by
  unfold afterAccess; split <;> simp

@[simp] theorem afterAccess_ne_direct : afterAccess pc x ≠ .direct := by
  unfold afterAccess; split <;> simp

@[simp] theorem afterAccess_ne_done_direct : afterAccess pc x ≠ .done v .direct := by
  rw [Ne, afterAccess_eq_done]
  split <;> simp

end AfterAccess

@[simp] theorem WaitPc.start_ne_result (k : Nat) : WaitPc.start k ≠ .result := by
  cases k <;> simp [WaitPc.start]

@[simp] theorem WaitPc.start_ne_promote (k : Nat) (c : Int) : WaitPc.start k ≠ .promote c := by
  cases k <;> simp [WaitPc.start]

/-! ## What a compare-and-swap point can lead to -/

section Cas

variable {pc : WaitPc} {e d x : Int}

theorem cas_desired (hc : pc.cas = some (e, d)) :
    d = spinlockLockedNoWaiters ∨ d = spinlockLockedWithWaiters := by
  cases pc <;> simp only [WaitPc.cas, Option.some.injEq, Prod.mk.injEq, reduceCtorEq] at hc <;>
    simp [← hc.2]

/-- A compare-and-swap point never returns: it moves on to another point. -/
theorem cas_continues (hc : pc.cas = some (e, d)) (x : Int) :
    ∃ pc', afterAccess pc x = .wait pc' := by
  cases pc <;> simp [WaitPc.cas, afterAccess, WaitPc.next] at hc ⊢

/-- The thread reaches `return req->result` only from a CAS that saw UNLOCKED. -/
theorem cas_result (hc : pc.cas = some (e, d)) (h : afterAccess pc x = .wait .result) :
    x = spinlockUnlocked := by
  cases pc <;> simp [WaitPc.cas, afterAccess, WaitPc.next, WaitPc.head] at hc h <;>
    (try split_ifs at h) <;> simp_all

/-- A CAS that expects UNLOCKED and sees it goes on to `return req->result`. -/
theorem cas_result_of_unlocked (hc : pc.cas = some (spinlockUnlocked, d))
    (hp : ∀ c, pc = .promote c → c ≠ spinlockUnlocked) :
    afterAccess pc spinlockUnlocked = .wait .result := by
  cases pc <;> simp_all [WaitPc.cas, afterAccess, WaitPc.next]

/-- The loop head promotes only a lock value other than UNLOCKED. -/
theorem cas_promote {c : Int} (hc : pc.cas = some (e, d))
    (h : afterAccess pc x = .wait (.promote c)) : c ≠ spinlockUnlocked := by
  cases pc <;> simp [WaitPc.cas, afterAccess, WaitPc.next, WaitPc.head] at hc h <;>
    (try split_ifs at h) <;> simp_all [spinlockUnlocked, spinlockLockedWithWaiters]

end Cas

/-! ## The invariant -/

/-- What holds of the system at each point of the enclave thread. -/
def Enc.Ok (p : Params) (s : Sys) : Enc → Prop
  | .start | .built => s.worker = .idle ∧ s.queued = false ∧ s.accepted = false
  | .direct => s.accepted = false
  | .wait pc => (pc = .result → s.Released) ∧ ∀ c, pc = .promote c → c ≠ spinlockUnlocked
  | .asleep => (¬ s.Released ∧ s.lock = spinlockLockedWithWaiters) ∨ s.worker = .waking
  | .done v .result => s.Released ∧ v = p.serve p.code p.ms
  | .done v .direct => v = p.serve p.code p.ms ∧ s.accepted = false
  | .done v .futexError => v = -EPERM

/-- What holds in every reachable state. -/
structure Inv (p : Params) (s : Sys) : Prop where
  enc : s.enc.Ok p s
  req : s.enc ≠ .start → s.req = some (p.code, p.ms)
  job : ∀ j, s.worker = .serving j → j = (p.code, p.ms)
  result : s.worker = .stored ∨ s.Released → s.result = p.serve p.code p.ms
  /-- Until the worker releases it, the enclave thread holds the lock. -/
  locked : s.enc ≠ .start → ¬ s.Released →
    s.lock = spinlockLockedNoWaiters ∨ s.lock = spinlockLockedWithWaiters
  /-- After the release, only the enclave thread's own successful CAS locks the lock again,
  and it then goes on to read the result. -/
  after_release : s.Released → s.lock ≠ spinlockUnlocked →
    s.enc = .wait .result ∨ ∃ v, s.enc = .done v .result

/-- Once released, the lock stays UNLOCKED until the thread's own CAS at a point from which it
goes on to read the result. -/
theorem unlocked_of_released {s : Sys}
    (ha : s.Released → s.lock ≠ spinlockUnlocked →
      s.enc = .wait .result ∨ ∃ v, s.enc = .done v .result)
    (h1 : s.enc ≠ .wait .result) (h2 : ∀ v, s.enc ≠ .done v .result) (hrel : s.Released) :
    s.lock = spinlockUnlocked :=
  by_contra fun h => (ha hrel h).elim h1 fun ⟨v, hv⟩ => h2 v hv

section Preserve

variable {p : Params} {s : Sys}

theorem Inv.init (h : Init s) : Inv p s := by
  obtain ⟨he, hw, hr, hq, ha⟩ := h
  constructor <;> simp [Enc.Ok, he, hw, hq, ha, Sys.Released]

theorem Inv.ok_of (hi : Inv p s) {e : Enc} (h : s.enc = e) : e.Ok p s := h ▸ hi.enc

/-- Whatever `FUTEX_WAIT` returns, the thread's next point is `Ok`. -/
theorem afterAccess_futex_ok (r : Int) : (afterAccess .futex r).Ok p s := by
  by_cases hr : r < 0 ∧ r ≠ -EAGAIN <;> simp [Enc.Ok, afterAccess, WaitPc.next, hr]

/-- A worker step that keeps the lock word, the acceptance of the request and whether the lock
is released keeps `Enc.Ok` at every point past the start, the sleeping thread's too unless it
was the pending wake that justified it. -/
theorem Enc.Ok.frame {s' : Sys} {e : Enc} (h : e.Ok p s) (hs : e ≠ .start) (hb : e ≠ .built)
    (hw : e = .asleep → s.worker ≠ .waking) (hrel : s'.Released ↔ s.Released)
    (hlock : s'.lock = s.lock) (hacc : s'.accepted = s.accepted) : e.Ok p s' := by
  cases e with
  | start => exact absurd rfl hs
  | built => exact absurd rfl hb
  | direct => exact hacc.trans h
  | wait pc => exact ⟨fun h' => hrel.2 (h.1 h'), h.2⟩
  | asleep =>
    obtain ⟨hr, hl⟩ := h.resolve_right (hw rfl)
    exact .inl ⟨mt hrel.1 hr, hlock.trans hl⟩
  | done v x =>
    cases x with
    | direct => exact ⟨h.1, hacc.trans h.2⟩
    | result => exact ⟨hrel.2 h.1, h.2⟩
    | futexError => exact h

/-! ### The enclave thread's steps -/

theorem Inv.build (hi : Inv p s) (h : s.enc = .start) :
    Inv p { s with enc := .built, lock := spinlockLockedNoWaiters,
                   req := some (p.code, p.ms) } := by
  obtain ⟨hw, hq, hacc⟩ := hi.ok_of h
  refine ⟨⟨hw, hq, hacc⟩, fun _ => rfl, ?_, ?_, fun _ _ => .inl rfl, ?_⟩ <;>
    simp [hw, Sys.Released]

theorem Inv.enqueue (hi : Inv p s) (h : s.enc = .built) :
    Inv p { s with enc := .wait (WaitPc.start p.spinTimeout), queued := true,
                   accepted := true } := by
  have hs : s.enc ≠ .start := by simp [h]
  refine ⟨by simp [Enc.Ok], fun _ => hi.req hs, hi.job, hi.result, fun _ => hi.locked hs, ?_⟩
  simp [(hi.ok_of h).1, Sys.Released]

/-- A step of the thread that changes only its point, from a point that is neither the start nor
reads the result, keeps the invariant if the new point is `Ok` given that a released lock is
UNLOCKED. -/
theorem Inv.move (hi : Inv p s)
    (hm : s.enc = .built ∨ s.enc = .direct ∨ s.enc = .wait .futex ∨ s.enc = .asleep) {e : Enc}
    (he : (s.Released → s.lock = spinlockUnlocked) → e.Ok p { s with enc := e }) :
    Inv p { s with enc := e } := by
  obtain ⟨hs, hr, hd⟩ : s.enc ≠ .start ∧ s.enc ≠ .wait .result ∧ ∀ v, s.enc ≠ .done v .result := by
    rcases hm with h | h | h | h <;> simp [h]
  have hun := unlocked_of_released hi.after_release hr hd
  exact ⟨he hun, fun _ => hi.req hs, hi.job, hi.result, fun _ => hi.locked hs,
    fun hrel hlk => absurd (hun hrel) hlk⟩

theorem Inv.cas (hi : Inv p s) {pc : WaitPc} {e d : Int} (h : s.enc = .wait pc)
    (hc : pc.cas = some (e, d)) :
    Inv p { s with enc := afterAccess pc s.lock, lock := if s.lock = e then d else s.lock } := by
  have hs : s.enc ≠ .start := by simp [h]
  have hpc : pc ≠ .result := by rintro rfl; simp [WaitPc.cas] at hc
  -- after the release, the thread at a CAS point sees UNLOCKED
  have hun := unlocked_of_released hi.after_release (by simp [h, hpc]) (by simp [h])
  have hlk := hi.locked hs
  obtain ⟨pc', hpc'⟩ := cas_continues hc s.lock
  refine ⟨?_, fun _ => hi.req hs, hi.job, hi.result, fun _ hrel => ?_, fun hrel hnew => ?_⟩
  · show Enc.Ok p _ (afterAccess pc s.lock)
    rw [hpc']
    refine ⟨fun h' => by_contra fun hrel => ?_, fun c h' => cas_promote hc (h' ▸ hpc')⟩
    subst h'
    rcases hlk hrel with hl | hl <;> rw [cas_result hc hpc'] at hl <;> exact absurd hl (by decide)
  · show (if s.lock = _ then _ else s.lock) = _ ∨ _
    split_ifs
    · exact cas_desired hc
    · exact hlk hrel
  · left
    show afterAccess pc s.lock = _
    by_cases he : s.lock = e
    · rw [hun hrel] at he ⊢
      subst he
      exact cas_result_of_unlocked hc (hi.ok_of h).2
    · exact absurd (by simpa [he] using hun hrel) hnew

theorem Inv.read (hi : Inv p s) (h : s.enc = .wait .result) :
    Inv p { s with enc := afterAccess .result s.result } :=
  have hrel := (hi.ok_of h).1 rfl
  ⟨⟨hrel, hi.result (.inr hrel)⟩, fun _ => hi.req (by simp [h]), hi.job, hi.result,
    fun _ h' => absurd hrel h', fun _ _ => .inr ⟨_, rfl⟩⟩

/-! ### The worker's steps -/

theorem Inv.dequeue (hi : Inv p s) {job : OcallCode × HostPtr} (hw : s.worker = .idle)
    (hq : s.queued = true) (hr : s.req = some job) :
    Inv p { s with worker := .serving job, queued := false } := by
  have hs : s.enc ≠ .start := fun h => by simpa [hq] using (hi.ok_of h).2.1
  have hb : s.enc ≠ .built := fun h => by simpa [hq] using (hi.ok_of h).2.1
  have hrel : ¬ s.Released := by simp [Sys.Released, hw]
  refine ⟨hi.enc.frame hs hb (fun _ => by simp [hw]) (by simp [Sys.Released, hw]) rfl rfl, hi.req,
    fun j hj => ?_, fun h' => by simp [Sys.Released] at h', fun _ _ => hi.locked hs hrel,
    fun h' => by simp [Sys.Released] at h'⟩
  cases hj
  simpa [hi.req hs] using hr.symm

theorem Inv.store (hi : Inv p s) {job : OcallCode × HostPtr} (hw : s.worker = .serving job) :
    Inv p { s with worker := .stored, result := p.serve job.1 job.2 } := by
  have hs : s.enc ≠ .start := fun h => by simpa [hw] using (hi.ok_of h).1
  have hb : s.enc ≠ .built := fun h => by simpa [hw] using (hi.ok_of h).1
  refine ⟨hi.enc.frame hs hb (fun _ => by simp [hw]) (by simp [Sys.Released, hw]) rfl rfl, hi.req,
    fun j h' => by simp at h', fun _ => ?_, fun hne _ => hi.locked hne (by simp [Sys.Released, hw]),
    fun h' => by simp [Sys.Released] at h'⟩
  simpa using congrArg (fun j => p.serve j.1 j.2) (hi.job _ hw)

theorem Inv.release (hi : Inv p s) (hw : s.worker = .stored) :
    Inv p { s with
      lock := spinlockUnlocked
      worker := if s.lock = spinlockLockedWithWaiters then .waking else .finished } := by
  have hrel : Sys.Released
      { s with lock := spinlockUnlocked
               worker := if s.lock = spinlockLockedWithWaiters then .waking else .finished } := by
    by_cases h' : s.lock = spinlockLockedWithWaiters <;> simp [Sys.Released, h']
  refine ⟨?_, hi.req, fun j h' => by split_ifs at h', fun _ => hi.result (.inl hw),
    fun _ h' => absurd hrel h', fun _ h' => absurd rfl h'⟩
  have he := hi.enc
  cases henc : s.enc with
  | asleep =>
    simp only [henc, Enc.Ok, Sys.Released, hw, reduceCtorEq, or_self, not_false_eq_true,
      true_and, false_or, or_false] at he
    simp [Enc.Ok, he]
  | done v ex => cases ex <;> simp_all [Enc.Ok, Sys.Released]
  | _ => simp_all [Enc.Ok, Sys.Released]

theorem Inv.wake (hi : Inv p s) (hw : s.worker = .waking) :
    Inv p { s with worker := .finished
                   enc := if s.enc = .asleep then afterAccess .futex 0 else s.enc } := by
  have hrel : s.Released := .inl hw
  by_cases hs : s.enc = .asleep
  · have hun := unlocked_of_released hi.after_release (by simp [hs]) (by simp [hs]) hrel
    refine ⟨?_, fun _ => hi.req (by simp [hs]), fun j h' => by simp at h',
      fun _ => hi.result (.inr hrel), fun _ h' => absurd (.inr rfl) h',
      fun _ h' => absurd (by simpa [hs] using hun) h'⟩
    simp only [hs, if_true]
    exact afterAccess_futex_ok 0
  · have hstart : s.enc ≠ .start := fun h => by simpa [hw] using (hi.ok_of h).1
    have hb : s.enc ≠ .built := fun h => by simpa [hw] using (hi.ok_of h).1
    refine ⟨?_, fun h' => hi.req (by simpa [hs] using h'), fun j h' => by simp at h',
      fun _ => hi.result (.inr hrel), fun _ h' => absurd (.inr rfl) h', fun _ h' => ?_⟩
    · simp only [hs, if_false]
      exact hi.enc.frame hstart hb (absurd · hs) (by simp [Sys.Released, hw]) rfl rfl
    · simpa [hs] using hi.after_release hrel (by simpa [hs] using h')

theorem Inv.step {s' : Sys} (hi : Inv p s) (hs : Step p s s') : Inv p s' := by
  cases hs with
  | build h => exact hi.build h
  | enqueue h => exact hi.enqueue h
  | refuse h => exact hi.move (.inl h) fun _ => (hi.ok_of h).2.2
  | direct h => exact hi.move (.inr (.inl h)) fun _ => ⟨rfl, hi.ok_of h⟩
  | cas h hc => exact hi.cas h hc
  | read h => exact hi.read h
  | futexAgain h _ => exact hi.move (.inr (.inr (.inl h))) fun _ => afterAccess_futex_ok _
  | futexSleep h hl =>
    exact hi.move (.inr (.inr (.inl h))) fun hun =>
      .inl ⟨fun hrel => absurd (hun hrel ▸ hl) (by decide), hl⟩
  | futexSpurious r h => exact hi.move (.inr (.inr h)) fun _ => afterAccess_futex_ok r
  | dequeue hw hq hr => exact hi.dequeue hw hq hr
  | store hw => exact hi.store hw
  | release hw => exact hi.release hw
  | wake hw => exact hi.wake hw

end Preserve

theorem Inv.reachable {p : Params} {s : Sys} (h : Reachable p s) : Inv p s := by
  induction h with
  | init h => exact .init h
  | step _ hs ih => exact ih.step hs

/-! ## Some interleavings -/

/-- With the lock word LOCKED_NO_WAITERS, every attempt of the spin fails and the thread times
out. -/
theorem reach_timedOut {p : Params} (k : Nat) {s : Sys} (h : Reachable p s)
    (he : s.enc = .wait (WaitPc.start k)) (hl : s.lock = spinlockLockedNoWaiters) :
    Reachable p { s with enc := .wait .timedOut } := by
  induction k generalizing s with
  | zero => cases s; simp_all [WaitPc.start]
  | succ k ih =>
    have hx : afterAccess (WaitPc.start (k + 1)) s.lock = .wait (WaitPc.start k) := by
      simp [WaitPc.start, afterAccess, WaitPc.next, hl, spinlockLockedNoWaiters, spinlockUnlocked]
    have h' := h.step (Step.cas s he rfl)
    rw [hx, if_neg (by simp [hl, spinlockLockedNoWaiters, spinlockUnlocked])] at h'
    have := ih h' rfl hl
    exact this

/-- With the worker not yet started, the thread times out, promotes the lock and falls asleep
in `FUTEX_WAIT`. -/
theorem reach_asleep (p : Params) :
    Reachable p
      ⟨.asleep, .idle, spinlockLockedWithWaiters, 0, some (p.code, p.ms), true, true⟩ := by
  have h0 : Reachable p ⟨.start, .idle, 0, 0, none, false, false⟩ := .init ⟨rfl, rfl, rfl, rfl, rfl⟩
  have h1 := reach_timedOut p.spinTimeout ((h0.step (.build _ rfl)).step (.enqueue _ rfl)) rfl rfl
  exact ((h1.step (.cas _ rfl rfl)).step (.cas _ rfl rfl)).step (.futexSleep _ rfl rfl)

/-- With a spin bound of at least one, the worker can finish first; the thread's first spin
attempt then takes the lock and it reads the result. -/
theorem reach_result (p : Params) (k : Nat) (hk : p.spinTimeout = k + 1) :
    Reachable p ⟨.done (p.serve p.code p.ms) .result, .finished, spinlockLockedNoWaiters,
      p.serve p.code p.ms, some (p.code, p.ms), false, true⟩ := by
  have h0 : Reachable p ⟨.start, .idle, 0, 0, none, false, false⟩ := .init ⟨rfl, rfl, rfl, rfl, rfl⟩
  have h1 := (h0.step (.build _ rfl)).step (.enqueue _ rfl)
  rw [hk] at h1
  have h2 := (((h1.step (.dequeue _ rfl rfl rfl)).step (.store _ rfl)).step (.release _ rfl)).step
    (.cas _ rfl rfl)
  exact h2.step (.read _ rfl)

/-! ## The lock protocol -/

/-- `return req->result` happens only after the worker has released the lock, and returns the
result the worker stored for `(code, ms)`. Every return other than the futex-error `-EPERM`
returns what the host serves for `(code, ms)`, which is what the direct OCALL returns. -/
theorem exitless_result_after_release (p : Params) {s : Sys} (h : Reachable p s) :
    (∀ v, s.enc = .done v .result → s.Released ∧ v = p.serve p.code p.ms) ∧
    (∀ v x, s.enc = .done v x → x ≠ .futexError → v = p.serve p.code p.ms) := by
  have he := (Inv.reachable h).enc
  refine ⟨fun v hv => by simpa [hv, Enc.Ok] using he, fun v x hv hx => ?_⟩
  cases x <;> simp_all [Enc.Ok]

/-- The worker finishes first and the thread's first spin attempt takes the lock. -/
theorem exitless_reads_result_when_worker_first :
    ∃ s, Reachable ⟨.close, .null, 1, fun _ _ => 0⟩ s ∧ s.enc = .done 0 .result ∧ s.Released :=
  have h := reach_result ⟨.close, .null, 1, fun _ _ => 0⟩ 0 rfl
  ⟨_, h, rfl, ((exitless_result_after_release _ h).1 0 rfl).1⟩

/-- No wake-up is lost. While the enclave thread sleeps in `FUTEX_WAIT`, either the worker has
not released the lock and the word is LOCKED_WITH_WAITERS, so its release will wake the thread,
or the worker's wake is pending; the worker never finishes while the thread sleeps. After the
release, no step puts the thread to sleep. -/
theorem exitless_no_lost_wakeup (p : Params) {s : Sys} (h : Reachable p s) :
    (s.enc = .asleep →
      (¬ s.Released ∧ s.lock = spinlockLockedWithWaiters) ∨ s.worker = .waking) ∧
    (s.enc = .asleep → s.worker ≠ .finished) ∧
    ∀ s', Step p s s' → s.Released → s'.enc = .asleep → s.enc = .asleep := by
  have hi := Inv.reachable h
  have hsl : s.enc = .asleep →
      (¬ s.Released ∧ s.lock = spinlockLockedWithWaiters) ∨ s.worker = .waking :=
    fun hs => by simpa [hs, Enc.Ok] using hi.enc
  refine ⟨hsl, fun hs hw => ?_, fun s' hs hrel hs' => ?_⟩
  · rcases hsl hs with ⟨hr, -⟩ | hw' <;> simp_all [Sys.Released]
  · cases hs with
    | futexSleep h hl =>
      have := unlocked_of_released hi.after_release (by simp [h]) (by simp [h]) hrel
      simp [this, spinlockUnlocked, spinlockLockedWithWaiters] at hl
    | wake hw => by_cases h' : s.enc = .asleep <;> simp_all
    | _ => simp_all

/-- The thread asleep before the worker started: the worker's release owes it a wake. -/
theorem exitless_sleeps_with_wake_owed :
    ∃ s, Reachable ⟨.close, .null, 0, fun _ _ => 0⟩ s ∧ s.enc = .asleep ∧
      ((¬ s.Released ∧ s.lock = spinlockLockedWithWaiters) ∨ s.worker = .waking) :=
  have h := reach_asleep ⟨.close, .null, 0, fun _ _ => 0⟩
  ⟨_, h, rfl, (exitless_no_lost_wakeup _ h).1 rfl⟩

/-! ## The early return -/

/-- `sgx_exitless_ocall` can return while the worker still owns the request: a `FUTEX_WAIT`
that returns `-EINTR` makes it return `-EPERM` with the request accepted and the lock not
released, whatever the OCALL and the spin bound. -/
theorem futex_error_before_release (p : Params) :
    ∃ s, Reachable p s ∧ s.accepted = true ∧ s.enc = .done (-EPERM) .futexError ∧
      ¬ s.Released :=
  ⟨_, (reach_asleep p).step (.futexSpurious _ (-EINTR) (.inr rfl)), rfl, rfl,
    by simp [Sys.Released]⟩

/-- `ocall_close` with a spin bound of zero: the thread sleeps before the worker starts, the
`FUTEX_WAIT` returns `-EINTR`, and `sgx_exitless_ocall` returns `-EPERM` before the release. -/
theorem exitless_returns_before_release :
    ∃ s, Reachable ⟨.close, .null, 0, fun _ _ => 0⟩ s ∧ s.accepted = true ∧
      s.enc = .done (-EPERM) .futexError ∧ ¬ s.Released :=
  futex_error_before_release _

/-- Once `rpc_enqueue` has accepted the request, `sgx_exitless_ocall` returns before the worker's
release only through the futex-error branch, and then returns `-EPERM`. -/
theorem exitless_early_return_only_on_futex_error (p : Params) {s : Sys} (h : Reachable p s)
    (ha : s.accepted = true) (v : Int) (x : Exit) (hv : s.enc = .done v x)
    (hr : ¬ s.Released) : x = .futexError ∧ v = -EPERM := by
  have he := (Inv.reachable h).enc
  rw [hv] at he
  cases x <;> simp_all [Enc.Ok]

/-- A `FUTEX_WAIT` that returns `-EINTR` before the worker starts. -/
theorem exitless_early_return_on_eintr :
    ∃ s, Reachable ⟨.close, .null, 0, fun _ _ => 0⟩ s ∧ s.accepted = true ∧
      s.enc = .done (-EPERM) .futexError ∧ ¬ s.Released ∧
      (Exit.futexError = .futexError ∧ (-EPERM : Int) = -EPERM) :=
  have h := (reach_asleep ⟨.close, .null, 0, fun _ _ => 0⟩).step
    (.futexSpurious _ (-EINTR) (.inr rfl))
  ⟨_, h, rfl, rfl, by simp [Sys.Released],
    exitless_early_return_only_on_futex_error _ h rfl _ _ rfl (by simp [Sys.Released])⟩

/-! ## Termination

The worker never waits for the enclave thread, and once the worker has released the lock the
thread has at most three accesses left, whatever the interleaving. -/

/-- `s` reaches `s'` in `n` steps. -/
inductive StepsN (p : Params) : Nat → Sys → Sys → Prop
  | refl (s : Sys) : StepsN p 0 s s
  | step {n : Nat} {s s' s'' : Sys} (h : Step p s s') (rest : StepsN p n s' s'') :
      StepsN p (n + 1) s s''

/-- The request is accepted exactly when it is in the queue or the worker has taken it. -/
theorem Reachable.accepted_iff {p : Params} {s : Sys} (h : Reachable p s) :
    s.accepted = true ↔ s.queued = true ∨ s.worker ≠ .idle := by
  induction h with
  | init h => simp [h.accepted, h.queued, h.worker]
  | step _ hs ih =>
    cases hs <;> simp_all
    split_ifs <;> simp

theorem Sys.Released.worker_ne_idle {s : Sys} (h : s.Released) : s.worker ≠ .idle := by
  rcases h with h | h <;> simp [h]

/-- The worker's release releases the lock. -/
theorem released_after_release (s : Sys) :
    Sys.Released { s with
      lock := spinlockUnlocked
      worker := if s.lock = spinlockLockedWithWaiters then .waking else .finished } := by
  unfold Sys.Released
  split_ifs <;> simp

theorem Sys.Released.step {p : Params} {s s' : Sys} (hrel : s.Released) (hs : Step p s s') :
    s'.Released := by
  cases hs with
  | dequeue hw => exact absurd hw hrel.worker_ne_idle
  | store hw => rcases hrel with h | h <;> simp [h] at hw
  | release hw => rcases hrel with h | h <;> simp [h] at hw
  | wake => exact .inr rfl
  | _ => exact hrel

/-- The worker never waits for the enclave thread: once `rpc_enqueue` has accepted the request,
the worker's own steps release the lock within three steps, the thread where it is. -/
theorem worker_releases {p : Params} {s : Sys} (h : Reachable p s) (ha : s.accepted = true) :
    ∃ n s', n ≤ 3 ∧ StepsN p n s s' ∧ s'.enc = s.enc ∧ s'.Released := by
  have hi := Inv.reachable h
  have hs : s.enc ≠ .start := fun he => by simpa [ha] using (hi.ok_of he).2.2
  cases hw : s.worker with
  | idle =>
    have hq : s.queued = true := (h.accepted_iff.1 ha).resolve_right (by simp [hw])
    exact ⟨3, _, le_rfl, .step (.dequeue s hw hq (hi.req hs)) (.step (.store _ rfl)
      (.step (.release _ rfl) (.refl _))), rfl, released_after_release _⟩
  | serving job =>
    exact ⟨2, _, by omega, .step (.store s hw) (.step (.release _ rfl) (.refl _)), rfl,
      released_after_release _⟩
  | stored => exact ⟨1, _, by omega, .step (.release s hw) (.refl _), rfl, released_after_release _⟩
  | waking => exact ⟨0, s, by omega, .refl s, rfl, .inl hw⟩
  | finished => exact ⟨0, s, by omega, .refl s, rfl, .inr hw⟩

/-- The accesses the enclave thread has left once the lock is released and UNLOCKED: a CAS point
sees UNLOCKED and goes on to `return req->result`, the loop head by way of the recheck, and
`FUTEX_WAIT` returns to the recheck or ends the call. -/
def Enc.rank : Enc → Nat
  | .wait .result => 1
  | .wait .futex | .wait (.promote _) | .asleep => 3
  | .wait _ => 2
  | _ => 0

/-- `Enc.rank`, and the worker's pending wake. -/
def Sys.rank (s : Sys) : Nat := s.enc.rank + if s.worker = .waking then 1 else 0

theorem Sys.rank_le (s : Sys) : s.rank ≤ 4 := by
  have : s.enc.rank ≤ 3 := by
    rcases s.enc with _ | _ | _ | pc | _ | _
    all_goals try cases pc
    all_goals simp [Enc.rank]
  unfold Sys.rank
  split_ifs <;> omega

theorem afterAccess_futex_rank (r : Int) : (afterAccess .futex r).rank ≤ 2 := by
  by_cases hr : r < 0 ∧ r ≠ -EAGAIN <;> simp [afterAccess, WaitPc.next, hr, Enc.rank]

/-- After the release, every step lowers the rank. -/
theorem Sys.rank_lt {p : Params} {s s' : Sys} (h : Reachable p s) (hrel : s.Released)
    (hs : Step p s s') : s'.rank < s.rank := by
  have hi := Inv.reachable h
  have hidle := hrel.worker_ne_idle
  have hacc := h.accepted_iff.2 (.inr hidle)
  cases hs with
  | build he => exact absurd (hi.ok_of he).1 hidle
  | enqueue he => exact absurd (hi.ok_of he).1 hidle
  | refuse he => exact absurd (hi.ok_of he).1 hidle
  | direct he =>
    have ha : s.accepted = false := hi.ok_of he
    simp [ha] at hacc
  | @cas pc e d he hc =>
    have hpc : pc ≠ .result := by rintro rfl; simp [WaitPc.cas] at hc
    have hun := unlocked_of_released hi.after_release (by simp [he, hpc]) (by simp [he]) hrel
    have hlt : (afterAccess pc s.lock).rank < (Enc.wait pc).rank := by
      rw [hun]
      cases pc with
      | promote c =>
        simp [afterAccess, WaitPc.next, Enc.rank, Ne.symm ((hi.ok_of he).2 c rfl)]
      | futex | result => simp [WaitPc.cas] at hc
      | _ => simp [afterAccess, WaitPc.next, Enc.rank]
    simp only [Sys.rank, he]
    omega
  | read he => simp [Sys.rank, he, afterAccess, WaitPc.next, Enc.rank]
  | futexAgain he =>
    have := afterAccess_futex_rank (-EAGAIN)
    simp only [Sys.rank, he, Enc.rank] at this ⊢
    omega
  | futexSleep he hl =>
    have := unlocked_of_released hi.after_release (by simp [he]) (by simp [he]) hrel
    simp [this, spinlockUnlocked, spinlockLockedWithWaiters] at hl
  | futexSpurious r he =>
    have := afterAccess_futex_rank r
    rcases he with he | he <;> simp only [Sys.rank, he, Enc.rank] at this ⊢ <;> omega
  | dequeue hw => exact absurd hw hidle
  | store hw => rcases hrel with h' | h' <;> simp [h'] at hw
  | release hw => rcases hrel with h' | h' <;> simp [h'] at hw
  | wake hw =>
    by_cases ha : s.enc = .asleep <;> simp [Sys.rank, hw, ha, Enc.rank, afterAccess, WaitPc.next]

/-- After the release, a run of `n` steps lowers the rank by `n`. -/
theorem steps_rank {p : Params} {n : Nat} {s s' : Sys} (hs : StepsN p n s s') :
    Reachable p s → s.Released → n + s'.rank ≤ s.rank := by
  induction hs with
  | refl => simp
  | step hs _ ih =>
    intro h hrel
    have h₁ := Sys.rank_lt h hrel hs
    have h₂ := ih (h.step hs) (hrel.step hs)
    omega

/-- Until the enclave thread has returned, some step is possible. -/
theorem Step.exists_of_not_done (p : Params) {s : Sys} (hs : ∀ v x, s.enc ≠ .done v x) :
    ∃ s', Step p s s' := by
  cases he : s.enc with
  | start => exact ⟨_, .build s he⟩
  | built => exact ⟨_, .enqueue s he⟩
  | direct => exact ⟨_, .direct s he⟩
  | wait pc =>
    cases pc with
    | result => exact ⟨_, .read s he⟩
    | futex => exact ⟨_, .futexSpurious s 0 (.inl he)⟩
    | _ => exact ⟨_, .cas s he rfl⟩
  | asleep => exact ⟨_, .futexSpurious s 0 (.inr he)⟩
  | done v x => exact absurd he (hs v x)

end Lock

end EnclaveOcalls
