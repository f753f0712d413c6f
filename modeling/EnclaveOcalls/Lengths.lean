import EnclaveOcalls.Lifetime

/-!
# The lengths the wrappers report

`ocall_read`, `ocall_getdents` and `ocall_recv` return the number of bytes the host says it
produced, after copying that many bytes from the host into the caller's buffer with
`sgx_copy_to_enclave`. The copy refuses a length above the buffer's capacity, and each wrapper
turns a refused copy into `-EPERM`. The result depends on both facts together with a third one:
`sgx_exitless_ocall` returns a C `int`, so a positive result converts to `size_t` unchanged.

Main result:
* `ocall_lengths_within_capacity`: for every argument, every host behaviour and every state of
  the RPC queue, on the untrusted-stack path and on the heap path, a non-negative result of
  `ocall_read` and `ocall_recv` is at most `count`, and one of `ocall_getdents` at most `size`.

The proofs use a program logic for return values alone, the instance of `Spec` with no
precondition. `Returns c P` says that every value `c` returns satisfies `P`; every computation
returns values satisfying `True`, so only the steps whose results the bound needs carry a lemma.
-/

namespace EnclaveOcalls

open OcallM

section Returns

variable {env : Env}

/-- Every value `c` returns, from every machine, satisfies `P`. -/
def Returns (env : Env) (c : OcallM α) (P : α → Prop) : Prop :=
  Spec env (fun _ => True) c (fun a _ => P a) (fun _ => True) (fun _ => True)

/-- Every computation returns values satisfying `True`. -/
theorem Returns.triv (c : OcallM α) : Returns env c fun _ => True := fun m _ => by
  unfold wp
  split <;> trivial

theorem Returns.pure {a : α} {P : α → Prop} (h : P a) : Returns env (Pure.pure a) P :=
  Spec.pure fun _ _ => h

theorem Returns.bind {x : OcallM β} {f : β → OcallM α} {P : β → Prop} {R : α → Prop}
    (hx : Returns env x P) (hf : ∀ b, P b → Returns env (f b) R) : Returns env (x >>= f) R :=
  Spec.bind hx fun b _ hb => hf b hb _ trivial

/-- A step whose result the rest does not need. -/
theorem Returns.seq {x : OcallM β} {f : β → OcallM α} {R : α → Prop}
    (hf : ∀ b, Returns env (f b) R) : Returns env (x >>= f) R :=
  (Returns.triv x).bind fun b _ => hf b

theorem Returns.ite {b : Prop} [Decidable b] {x y : OcallM α} {P : α → Prop}
    (hx : b → Returns env x P) (hy : ¬b → Returns env y P) :
    Returns env (if b then x else y) P :=
  Spec.ite hx hy

theorem Returns.map {x : OcallM β} {f : β → α} {P : β → Prop} {R : α → Prop}
    (h : Returns env x P) (hf : ∀ b, P b → R (f b)) : Returns env (f <$> x) R :=
  Spec.map (Spec.post h fun b _ hb => hf b hb)

theorem Returns.read {f : Env → OcallM α} {P : α → Prop} (h : Returns env (f env) P) :
    Returns env (OcallM.read >>= f) P :=
  Spec.read h

theorem futexWaitLoop_returns (req ms : HostPtr) (n : Nat) (c : Int) :
    Returns env (futexWaitLoop req ms n c) fun o => ∀ r, o = some r → r = -EPERM := by
  induction n generalizing c with
  | zero => exact fun _ _ => trivial
  | succ n ih =>
    unfold futexWaitLoop
    exact .seq fun _ => .seq fun _ => .ite (fun _ => .pure (by simp)) fun _ =>
      .seq fun _ => .seq fun _ => .ite (fun _ => .pure (by simp)) fun _ => .seq fun _ => ih _

/-! ### `sgx_exitless_ocall` returns a C `int` -/

theorem loadI32_isInt (ms : HostPtr) (f : Field) : Returns env (loadI32 ms f) IsInt := by
  unfold loadI32
  exact (Returns.triv _).map fun b _ => toI32_isInt b

theorem sgxOcall_isInt (code : OcallCode) (ms : HostPtr) :
    Returns env (sgxOcall code ms) IsInt := by
  unfold sgxOcall
  exact (Returns.triv _).map fun b _ => toI32_isInt b

theorem exitlessWait_isInt (req : HostPtr) : Returns env (exitlessWait req) IsInt := by
  unfold exitlessWait
  refine .read (.seq fun _ => ?_)
  lift_lets
  intro result
  have hresult : ∀ y, Returns env (result y) IsInt := fun _ => loadI32_isInt _ _
  refine .ite (fun _ => .seq fun _ => .ite (fun _ => ?_) fun _ => .seq hresult)
    fun _ => .seq hresult
  refine .seq fun _ => .seq fun _ => .seq fun _ => .seq fun _ =>
    (futexWaitLoop_returns _ _ _ _).bind fun o ho => ?_
  rcases o with _ | r
  · exact .seq hresult
  · exact .pure (ho r rfl ▸ by decide)

theorem sgxExitlessOcall_isInt (code : OcallCode) (ms : HostPtr) :
    Returns env (sgxExitlessOcall code ms) IsInt := by
  unfold sgxExitlessOcall
  exact .read (.ite (fun _ => (sgxOcall_isInt code ms).bind fun _ h => .pure h) fun _ =>
    .seq fun _ => .seq fun _ => .seq fun _ => .seq fun _ => .seq fun _ => .seq fun _ =>
    .seq fun _ => .ite (fun _ => (sgxOcall_isInt code ms).bind fun _ h => .pure h) fun _ =>
      .seq fun _ => exitlessWait_isInt _)

/-! ### The reported lengths -/

/-- A conditional whose two branches go on to the same join point `k`, whose result alone
matters. -/
theorem Returns.ite_seq {b : Prop} [Decidable b] {x y : OcallM β} {k : β → OcallM α}
    {R : α → Prop} (hk : ∀ a, Returns env (k a) R) :
    Returns env (if b then x >>= k else y >>= k) R :=
  .ite (fun _ => .seq hk) fun _ => .seq hk

/-- `sgx_copy_to_enclave` returns `0` or the length it was asked to copy, and the latter only
when it fits the destination. -/
theorem sgxCopyToEnclave_returns (ptr maxsize : Nat) (uptr : HostPtr) (usize : Nat) :
    Returns env (sgxCopyToEnclave ptr maxsize uptr usize)
      fun c => c = 0 ∨ c = usize ∧ usize ≤ maxsize := by
  unfold sgxCopyToEnclave
  exact .read (.ite (fun h => .seq fun _ => .seq fun _ => .pure (.inr ⟨rfl, h.1⟩))
    fun _ => .pure (.inl rfl))

/-- A positive C `int` whose `size_t` conversion a copy of at most `count` bytes accepted is at
most `count`. -/
theorem le_of_copied {r : Int} {count c : Nat} (hr : IsInt r) (hpos : r > 0)
    (hc : c = 0 ∨ c = toU64 r ∧ toU64 r ≤ count) (h0 : ¬c = 0) : r ≤ count := by
  have := toU64_of_isInt hr hpos.le
  omega

/-- A negative return satisfies every bound on non-negative returns. -/
theorem Returns.neg {v : Int} (h : v < 0) {Q : Int → Prop} :
    Returns env (Pure.pure v) fun r => 0 ≤ r → Q r :=
  .pure fun h0 => absurd h0 (by omega)

theorem readBody_le_count (fd : Int) (buf count obuf : Nat) :
    Returns env (readBody fd buf count obuf) fun r => 0 ≤ r → r ≤ count := by
  unfold readBody
  refine .seq fun _ => .ite (fun _ => .neg (by decide)) fun _ => .seq fun _ => ?_
  refine .seq fun _ => .seq fun _ => .ite_seq fun _ => .seq fun _ =>
    .ite (fun _ => .neg (by decide)) fun _ => .seq fun _ => ?_
  refine (sgxExitlessOcall_isInt _ _).bind fun r hr => .ite (fun hpos => ?_) fun hpos => ?_
  · exact .seq fun _ => (sgxCopyToEnclave_returns _ _ _ _).bind fun c hc =>
      .ite (fun _ => .neg (by decide)) fun h0 => .seq fun _ =>
        .pure fun _ => le_of_copied hr hpos hc h0
  · exact .seq fun _ => .pure fun h => by omega

theorem nonneg_not_isErr {r : Int} (h : isErr r = true) : ¬ 0 ≤ r := by
  simpa [isErr] using h

theorem ocallRead_le_count (fd : Int) (buf count : Nat) :
    Returns env (ocallRead fd buf count) fun r => 0 ≤ r → r ≤ count := by
  unfold ocallRead
  refine .read (.seq fun _ => ?_)
  lift_lets
  intro rest
  have hrest : ∀ y, Returns env (rest y) fun r => 0 ≤ r → r ≤ count := fun _ =>
    .seq fun _ => (readBody_le_count _ _ _ _).bind fun _ hr => .seq fun _ =>
      .ite (fun _ => .seq fun _ => .seq fun _ => .pure hr) fun _ => .seq fun _ => .pure hr
  exact .ite (fun _ => .seq fun _ => .ite (fun h => .pure (absurd · (nonneg_not_isErr h)))
    fun _ => .seq hrest) fun _ => .seq hrest

theorem ocallGetdents_le_size (fd : Int) (dirp size : Nat) :
    Returns env (ocallGetdents fd dirp size) fun r => 0 ≤ r → r ≤ size := by
  unfold ocallGetdents
  refine .seq fun _ => .ite (fun _ => .seq fun _ => .neg (by decide)) fun _ => .seq fun _ =>
    .seq fun _ => .seq fun _ => .seq fun _ => .seq fun _ =>
    .ite (fun _ => .seq fun _ => .neg (by decide)) fun _ => .seq fun _ => ?_
  refine (sgxExitlessOcall_isInt _ _).bind fun r hr => .ite (fun hpos => ?_) fun hpos => ?_
  · exact .seq fun _ => (sgxCopyToEnclave_returns _ _ _ _).bind fun c hc =>
      .ite (fun _ => .seq fun _ => .neg (by decide)) fun h0 => .seq fun _ => .seq fun _ =>
        .pure fun _ => le_of_copied hr hpos hc h0
  · exact .seq fun _ => .seq fun _ => .pure fun h => by omega

theorem recvBody_le_count (sockfd : Int)
    (buf count addr addrlenptr control controllenptr addrlen controllen obuf : Nat) :
    Returns env
      (recvBody sockfd buf count addr addrlenptr control controllenptr addrlen controllen obuf)
      fun r => 0 ≤ r → r ≤ count := by
  unfold recvBody
  refine .seq fun _ => .ite (fun _ => .neg (by decide)) fun _ => .seq fun _ => .seq fun _ =>
    .ite_seq fun _ => .seq fun _ => .seq fun _ => .ite_seq fun _ => .seq fun _ =>
    .ite_seq fun _ => .seq fun _ => .ite (fun _ => .neg (by decide)) fun _ => .seq fun _ =>
    (sgxExitlessOcall_isInt _ _).bind fun r hr => ?_
  lift_lets
  intro done bufIn controlOut
  have hbuf : Returns env (bufIn ()) fun r' => 0 ≤ r' → r' ≤ count :=
    .ite (fun hpos => .seq fun _ => (sgxCopyToEnclave_returns _ _ _ _).bind fun c hc =>
      .ite (fun _ => .neg (by decide)) fun h0 => .seq fun _ =>
        .pure fun _ => le_of_copied hr hpos hc h0) fun hpos => .seq fun _ => .pure fun h => by omega
  have hcontrol : Returns env (controlOut ()) fun r' => 0 ≤ r' → r' ≤ count :=
    .ite (fun _ => .seq fun _ => .seq fun _ => .seq fun _ => .ite (fun _ => .neg (by decide))
      fun _ => .seq fun _ => .seq fun _ => hbuf) fun _ => .seq fun _ => hbuf
  exact .ite (fun _ => .ite (fun _ => .seq fun _ => .seq fun _ => .seq fun _ =>
    .ite (fun _ => .neg (by decide)) fun _ => .seq fun _ => .seq fun _ => hcontrol)
    fun _ => .seq fun _ => hcontrol) fun hneg => .seq fun _ => .pure fun h => by omega

theorem ocallRecv_le_count (sockfd : Int) (buf count addr addrlenptr control controllenptr : Nat) :
    Returns env (ocallRecv sockfd buf count addr addrlenptr control controllenptr)
      fun r => 0 ≤ r → r ≤ count := by
  unfold ocallRecv
  refine .read (.seq fun _ => .ite_seq fun _ => .ite_seq fun _ => ?_)
  beta_reduce
  lift_lets
  intro rest
  have hrest : ∀ y, Returns env (rest y) fun r => 0 ≤ r → r ≤ count := fun _ =>
    .seq fun _ => (recvBody_le_count _ _ _ _ _ _ _ _ _ _).bind fun _ hr => .seq fun _ =>
      .ite (fun _ => .seq fun _ => .seq fun _ => .pure hr) fun _ => .seq fun _ => .pure hr
  exact .ite (fun _ => .seq fun _ => .ite (fun h => .pure (absurd · (nonneg_not_isErr h)))
    fun _ => .seq hrest) fun _ => .seq hrest

end Returns

/-- `ocall_read`, `ocall_getdents` and `ocall_recv` never report more bytes than the caller's
buffer holds, whatever the host returns or leaves in the argument struct. -/
theorem ocall_lengths_within_capacity (env : Env) :
    (∀ fd buf count, Returns env (ocallRead fd buf count) fun r => 0 ≤ r → r ≤ count) ∧
    (∀ fd dirp size, Returns env (ocallGetdents fd dirp size) fun r => 0 ≤ r → r ≤ size) ∧
    (∀ sockfd buf count addr addrlenptr control controllenptr,
      Returns env (ocallRecv sockfd buf count addr addrlenptr control controllenptr)
        fun r => 0 ≤ r → r ≤ count) :=
  ⟨ocallRead_le_count, ocallGetdents_le_size, ocallRecv_le_count⟩

end EnclaveOcalls
