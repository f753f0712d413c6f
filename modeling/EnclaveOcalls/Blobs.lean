import EnclaveOcalls.Secrecy

/-!
# What `ocall_get_attestation` leaves in `*attestation`

`ocall_get_attestation` copies the host's `sgx_attestation_t` into `*attestation`. The four blob
fields of that struct are then host pointers; for each one that is not NULL the wrapper copies
the blob into a buffer it `malloc`s and points the field at the copy. The code states what the
four blocks are for: "At this point, no field should point to outside the enclave".

This file proves the following.
* A blob block that did not fail leaves every other field of `*attestation` as it found it, and
  its own field NULL or pointing to a region inside the enclave of the length in its length field
  (`copyBlobIn_inside`).
* A call that returns a non-negative result leaves all four blob fields so
  (`ocallGetAttestation_blobs_inside`), whatever the host answers. Two facts the code relies on
  are hypotheses: no block `malloc` returns overlaps `*attestation`, and the eight fields of
  `sgx_attestation_t` do not overlap.
* A call that returns a non-negative result changed enclave memory only in `*attestation` and in
  the blocks it `malloc`ed, each within the size it asked for (`ocallGetAttestation_writes_within`),
  whatever the host answers and with no hypothesis: a block whose copy succeeded holds its string's
  NUL, and the pointer stored into its field.

On a failed call no such result holds: the run in `EnclaveOcalls.Attestation` writes the NUL of
a NULL `ias_report` onto another field before the frees of the error path.
-/

namespace EnclaveOcalls

open OcallM

/-- The blob fields of `sgx_attestation_t`, each with its length field, in the order
`ocall_get_attestation` copies them in. -/
def blobFields : List (AttField × AttField) :=
  [(.quote, .quoteLen), (.iasReport, .iasReportLen), (.iasSig, .iasSigLen),
    (.iasCerts, .iasCertsLen)]

/-- The 8-byte field `g` of `*attestation` in `mem`. -/
def attField (env : Env) (attestation : Nat) (mem : Mem) (g : AttField) : Nat :=
  mem.load (attestation + env.layout.attOffset g) 8

/-- The blob field `f` of `*attestation` is NULL, or points to a region inside the enclave of the
length its length field `fLen` holds. -/
def BlobInside (env : Env) (attestation : Nat) (mem : Mem) (f fLen : AttField) : Prop :=
  attField env attestation mem f ≠ 0 →
    sgxIsCompletelyWithinEnclave env.enclave (attField env attestation mem f)
      (attField env attestation mem fLen) = true

/-- Every blob field of `blobs` is NULL or points inside the enclave. -/
def BlobsInside (env : Env) (attestation : Nat) (blobs : List (AttField × AttField))
    (mem : Mem) : Prop :=
  ∀ b ∈ blobs, BlobInside env attestation mem b.1 b.2

/-- No block the enclave heap hands out overlaps `*attestation`: `malloc` never returns memory of
a live object. -/
def Env.HeapApart (env : Env) (attestation : Nat) : Prop :=
  ∀ l n, env.malloc l n ≠ 0 → Apart (env.malloc l n) n attestation env.layout.attestationSize

/-- The eight fields of `sgx_attestation_t` do not overlap. -/
def Layout.FieldsApart (layout : Layout) : Prop :=
  ∀ f g, f ≠ g → Apart (layout.attOffset f) 8 (layout.attOffset g) 8

section Blobs

variable {env : Env} {attestation : Nat}

/-- `mem` holds every field of `*attestation` but `f` as `mem₀` does. -/
def KeepsFieldsBut (env : Env) (attestation : Nat) (f : AttField) (mem₀ mem : Mem) : Prop :=
  ∀ g, g ≠ f → attField env attestation mem g = attField env attestation mem₀ g

theorem Apart.mono {p n q k a s : Nat} (h : Apart p n a s) (hq : p ≤ q) (hk : q + k ≤ p + n) :
    Apart q k a s := by
  unfold Apart at *
  omega

/-- A write apart from `*attestation` keeps all its fields. -/
theorem attField_of_apart {mem mem' : Mem} {q k : Nat}
    (hq : Apart q k attestation env.layout.attestationSize)
    (h : ∀ a, a < q ∨ q + k ≤ a → mem' a = mem a) (g : AttField) :
    attField env attestation mem' g = attField env attestation mem g := by
  have := env.layout.attField_in g
  refine Mem.load_congr fun i hi => h _ ?_
  unfold Apart at hq
  omega

/-- A write to the field `f` keeps the other fields. -/
theorem attField_of_field (hlay : env.layout.FieldsApart) {mem mem' : Mem} {f g : AttField}
    (hg : g ≠ f)
    (h : ∀ a, a < attestation + env.layout.attOffset f ∨
      attestation + env.layout.attOffset f + 8 ≤ a → mem' a = mem a) :
    attField env attestation mem' g = attField env attestation mem g := by
  have := hlay g f hg
  refine Mem.load_congr fun i hi => h _ ?_
  unfold Apart at this
  omega

theorem BlobInside.keep {mem₀ mem : Mem} {f g gLen : AttField}
    (h : BlobInside env attestation mem₀ g gLen) (hk : KeepsFieldsBut env attestation f mem₀ mem)
    (hg : g ≠ f) (hgLen : gLen ≠ f) : BlobInside env attestation mem g gLen := by
  unfold BlobInside
  rw [hk g hg, hk gLen hgLen]
  exact h

/-- `sgx_copy_to_enclave` returns nonzero only after checking that `[ptr, ptr + usize)` lies
inside the enclave, and then returns `usize`. -/
theorem sgxCopyToEnclave_within (ptr maxsize : Nat) (uptr : HostPtr) (usize : Nat) :
    Returns env (sgxCopyToEnclave ptr maxsize uptr usize)
      fun c => c ≠ 0 → c = usize ∧ sgxIsCompletelyWithinEnclave env.enclave ptr usize = true := by
  unfold sgxCopyToEnclave
  exact .read (.ite (fun h => .seq fun _ => .seq fun _ => .pure fun _ => ⟨rfl, h.2.1⟩)
    fun _ => .pure fun h => absurd rfl h)

theorem malloc_grown {W : Nat → Prop} {m₀ : Machine} (n : Nat) :
    Triple env (Grown W m₀) (malloc n) fun p m => Grown W m₀ m ∧ ∃ l, p = env.malloc l n :=
  fun m hm => ⟨hm.push _, m.log, rfl⟩

theorem attField_copy_self {mem : Mem} (f : AttField) (v : Nat) :
    attField env attestation (mem.copy (attestation + env.layout.attOffset f) 8 (leBytes v)) f =
      v % addrSpace :=
  Mem.load_copy_leBytes _ _ _ _

variable (hheap : env.HeapApart attestation) (hlay : env.layout.FieldsApart)
include hheap hlay

/-- The writes of a blob block whose copy of `len` bytes into the `malloc`ed block `p` succeeded:
the copy, for a string the NUL at `d = p + len`, and the new pointer in the field `f`. -/
theorem blobWrites_inside {f fLen : AttField} (hf : f ≠ fLen) (nul : Bool) {mem₀ : Mem}
    (mem : Mem) {len p d : Nat} {l : List Entry}
    (hp : p = env.malloc l (if nul then (len + 1) % addrSpace else len))
    (hlen : len = attField env attestation mem₀ fLen) (hlen0 : len ≠ 0)
    (hin : sgxIsCompletelyWithinEnclave env.enclave p len = true)
    (hcopy : ∀ a, ¬(p ≤ a ∧ a < p + len) → mem a = mem₀ a)
    (hd : d = (p + len) % addrSpace) (hd0 : nul = true → d ≠ 0) :
    let mem' := (if nul then mem.copy d 1 (leBytes 0) else mem).copy
      (attestation + env.layout.attOffset f) 8 (leBytes p)
    KeepsFieldsBut env attestation f mem₀ mem' ∧ BlobInside env attestation mem' f fLen := by
  intro mem'
  have := env.enclave.base_pos
  have := env.enclave.top_le
  rw [Enclave.within_iff] at hin
  -- a string's NUL at `p + len` does not wrap, and its block has `len + 1` bytes
  have hnul : nul = true → d = p + len ∧ (len + 1) % addrSpace = len + 1 := fun hn => by
    have := hd0 hn
    unfold addrSpace at *
    omega
  have hblock : Apart p (if nul then len + 1 else len) attestation env.layout.attestationSize := by
    have h := hheap l _ (by rw [← hp]; omega)
    rw [← hp] at h
    cases nul
    · exact h
    · rwa [if_pos rfl, (hnul rfl).2] at h
  have hcopy' : Apart p len attestation env.layout.attestationSize :=
    hblock.mono le_rfl (by split <;> omega)
  have hmid : ∀ g, attField env attestation (if nul then mem.copy d 1 (leBytes 0) else mem) g =
      attField env attestation mem₀ g := fun g => by
    rw [← attField_of_apart hcopy' (fun a ha => hcopy a (by omega)) g]
    cases nul
    · rfl
    · obtain ⟨rfl, -⟩ := hnul rfl
      exact attField_of_apart (hblock.mono (by omega) (by rw [if_pos rfl]; omega))
        (fun a ha => Mem.copy_outside ha) g
  have hkeep : KeepsFieldsBut env attestation f mem₀ mem' := fun g hg =>
    (attField_of_field hlay hg fun a ha => Mem.copy_outside ha).trans (hmid g)
  refine ⟨hkeep, fun _ => ?_⟩
  rw [attField_copy_self, hkeep fLen hf.symm, ← hlen,
    Nat.mod_eq_of_lt (show p < addrSpace by omega), Enclave.within_iff]
  exact hin

/-- One blob block that did not fail: the other fields of `*attestation` are as before, and the
field `f` is NULL or points inside the enclave for the length in `fLen`. -/
theorem copyBlobIn_inside {f fLen : AttField} (hf : f ≠ fLen) (nul : Bool) (m₀ : Machine) :
    wp (copyBlobIn attestation f fLen nul) env m₀
      (fun failed m => failed = false →
        KeepsFieldsBut env attestation f m₀.mem m.mem ∧ BlobInside env attestation m.mem f fLen)
      (fun _ => True) (fun _ => True) := by
  refine (?_ : Triple env (Grown (fun _ => False) m₀) _ _) m₀ .start
  unfold copyBlobIn
  refine .read (readMem_initial.bind fun blob => .assume fun hblob =>
    .ite (fun hb => .pure fun m hm _ => ?_) fun _ => .pure_bind ?_)
  · rw [hm.mem_eq]
    exact ⟨fun _ _ => rfl, fun h => absurd (hblob.symm.trans hb) h⟩
  refine readMem_initial.bind fun len => .assume fun hlen => (malloc_grown _).bind fun p =>
    .assume fun ⟨l, hp⟩ => (readMem_triple _ _).bind fun _ =>
    (Triple.pre (fun _ h => Grown.widen h) ((sgxCopyToEnclave_grown
      (W := fun a => p ≤ a ∧ a < p + len) _ _ fun _ h₁ h₂ => ⟨h₁, h₂⟩).returns
        (sgxCopyToEnclave_within _ _ _ _))).bind fun copied => .assume fun hc =>
    (readMem_triple _ _).bind fun _ => (ocallMunmapUntrusted_grown _ _).bind
    fun _ m hm => ?_
  have hcopy : ∀ a, ¬(p ≤ a ∧ a < p + len) → m.mem a = m₀.mem a := hm.2
  simp only [wp_bind, wp_ite, wp_writeMem, wp_pure]
  split_ifs with hn hd hfield <;> intro hfail <;> obtain ⟨rfl, hin⟩ := hc (by simpa using hfail)
  · subst hn
    exact blobWrites_inside hheap hlay hf true m.mem hp hlen (by simpa using hfail) hin hcopy rfl
      fun _ => hd
  · rw [Bool.not_eq_true] at hn
    subst hn
    exact blobWrites_inside hheap hlay hf false m.mem hp hlen (by simpa using hfail) hin hcopy rfl
      nofun

/-- A block that did not fail adds its field to those that point inside the enclave. -/
theorem copyBlobIn_adds_inside {f fLen : AttField} (hf : f ≠ fLen) (nul : Bool)
    (done : List (AttField × AttField)) (hdone : ∀ b ∈ done, b.1 ≠ f ∧ b.2 ≠ f) (ok : Prop) :
    Triple env (fun m => ok → BlobsInside env attestation done m.mem)
      (copyBlobIn attestation f fLen nul)
      fun failed m => ok ∧ failed = false →
        BlobsInside env attestation (done ++ [(f, fLen)]) m.mem :=
  fun m hm => wp_post (copyBlobIn_inside hheap hlay hf nul m) fun _ m' h ⟨hok, hfail⟩ b hb => by
    obtain ⟨hkeep, hin⟩ := h hfail
    rcases List.mem_append.1 hb with hb | hb
    · exact (hm hok b hb).keep hkeep (hdone b hb).1 (hdone b hb).2
    · rw [List.mem_singleton.1 hb]
      exact hin

end Blobs

/-- `ocall_get_attestation` returns a non-negative result only if none of its four blob blocks
failed: a failed one sets the result to `-EACCES`. -/
theorem blobs_ok_of_nonneg {q r s c : Bool} {retval : Int}
    (h : ¬(if q = true ∨ r = true ∨ s = true ∨ c = true then -EACCES else retval) < 0) :
    (((True ∧ q = false) ∧ r = false) ∧ s = false) ∧ c = false := by
  have hok : ¬(q = true ∨ r = true ∨ s = true ∨ c = true) := fun hc => h (by rw [if_pos hc]; decide)
  simp only [not_or, Bool.not_eq_true] at hok
  exact ⟨⟨⟨⟨trivial, hok.1⟩, hok.2.1⟩, hok.2.2.1⟩, hok.2.2.2⟩

/-- On every call that returns a non-negative result, whatever the host answers, each blob field
of `*attestation` is NULL or points to a region inside the enclave of the length in the field
beside it, provided no block of the enclave heap overlaps `*attestation` and the fields of
`sgx_attestation_t` do not overlap. -/
theorem ocallGetAttestation_blobs_inside (env : Env) (spid subkey : Nat) (linkable : Bool)
    (report nonce attestation : Nat) (hheap : env.HeapApart attestation)
    (hlay : env.layout.FieldsApart) (m : Machine) :
    wp (ocallGetAttestation spid subkey linkable report nonce attestation) env m
      (fun r m' => 0 ≤ r → BlobsInside env attestation blobFields m'.mem)
      (fun _ => True) (fun _ => True) := by
  refine (?_ : Triple env (fun _ => True) _ _) m trivial
  have neg {v : Int} (hv : v < 0) :
      Triple env (fun _ => True) (sgxResetUstack >>= fun _ => Pure.pure v)
        fun r m' => 0 ≤ r → BlobsInside env attestation blobFields m'.mem :=
    (Triple.true _).bind fun _ => .pure fun _ _ h => absurd h (not_le.2 hv)
  unfold ocallGetAttestation
  refine .read ((Triple.true _).bind fun ms => .unless (neg (by decide)) fun _ => ?_)
  refine (Triple.true _).bind fun _ => (Triple.true _).bind fun _ => (Triple.true _).bind fun _ =>
    (Triple.true _).bind fun _ => (Triple.true _).bind fun _ => (Triple.true _).bind fun _ =>
    (Triple.true _).bind fun _ => (Triple.true _).bind fun retval =>
    .ite (fun h => neg h) fun _ => .pure_bind ((Triple.true _).bind fun _ =>
    .unless (neg (by decide)) fun _ => (Triple.true _).bind fun _ => ?_)
  refine (Triple.pre (fun _ _ _ b hb => absurd hb (List.not_mem_nil b))
    (copyBlobIn_adds_inside hheap hlay (by decide) false [] (by decide) True)).bind fun q =>
    (copyBlobIn_adds_inside hheap hlay (by decide) true _ (by decide) _).bind fun r =>
    (copyBlobIn_adds_inside hheap hlay (by decide) false _ (by decide) _).bind fun s =>
    (copyBlobIn_adds_inside hheap hlay (by decide) true _ (by decide) _).bind fun c => ?_
  refine .ite (fun h => (Triple.true _).bind fun _ => (Triple.true _).bind fun _ =>
    (Triple.true _).bind fun _ => (Triple.true _).bind fun _ =>
    .pure fun _ _ h' => absurd h' (not_le.2 h)) fun h =>
    .pure_bind (.pure fun _ hm _ => hm (blobs_ok_of_nonneg h))

/-- `sampleEnv` with an enclave heap whose `malloc` hands out the block at `2 ^ 33` for any request
of up to 1 MiB. -/
def heapEnv (host : Host) : Env :=
  { sampleEnv host false true with
    malloc := fun _ n => if n ≤ 2 ^ 20 then 2 ^ 33 else 0
    malloc_inside := fun _ n => by
      by_cases h : n ≤ 2 ^ 20
      · simp only [h, if_true, sampleEnv, sampleEnclave, Enclave.within_iff]
        omega
      · exact .inl (if_neg h) }

theorem heapEnv_heapApart (host : Host) : (heapEnv host).HeapApart (2 ^ 32 + 8192) :=
  fun _ n h => by
    simp only [heapEnv] at h ⊢
    split_ifs at h ⊢
    · exact .inr (.inr (.inr (by norm_num [sampleEnv, sampleLayout])))
    · exact absurd rfl h

theorem sampleLayout_fieldsApart : sampleLayout.FieldsApart := fun f g h => by
  unfold Apart
  cases f <;> cases g <;> first | exact absurd rfl h | decide

/-- A host that answers every OCALL with `0` and returns an `sgx_attestation_t` whose only blob
is a 16-byte quote at `2 ^ 40`, outside the enclave. -/
def quoteHost : Host := ⟨fun _ => 0, fun _ i =>
  if i < 8 then leBytes (2 ^ 40) i else if i < 16 then leBytes 16 (i - 8) else 0⟩

section
attribute [local semireducible] toI32

/-- The quote is copied into the block `malloc` hands out at `2 ^ 33`, and the call returns `0`
with `attestation->quote` pointing there, inside the enclave. -/
theorem heapEnv_blobs_inside :
    (heapEnv quoteHost).HeapApart (2 ^ 32 + 8192) ∧ (heapEnv quoteHost).layout.FieldsApart ∧
      wp (ocallGetAttestation (2 ^ 32) (2 ^ 32) false (2 ^ 32) (2 ^ 32) (2 ^ 32 + 8192))
        (heapEnv quoteHost) (sampleMachine (heapEnv quoteHost) 0)
        (fun r m' => (0 ≤ r → BlobsInside (heapEnv quoteHost) (2 ^ 32 + 8192) blobFields m'.mem) ∧
          r = 0 ∧ attField (heapEnv quoteHost) (2 ^ 32 + 8192) m'.mem .quote = 2 ^ 33)
        (fun _ => True) (fun _ => True) :=
  ⟨heapEnv_heapApart _, sampleLayout_fieldsApart, wp_and (ocallGetAttestation_blobs_inside _ _ _ _ _
    _ _ (heapEnv_heapApart _) sampleLayout_fieldsApart _) (by decide)⟩

end

/-! ## What a successful call writes -/

/-- `a` lies in `*attestation`. -/
def InAttestation (env : Env) (attestation a : Nat) : Prop :=
  attestation ≤ a ∧ a < attestation + env.layout.attestationSize

/-- `a` lies in a block that `malloc` handed out in the entries `new`, within the size asked
for. -/
def InNewBlock (new : List Entry) (a : Nat) : Prop :=
  ∃ e ∈ new, ∃ n p, e.ev = .malloc n p ∧ p ≤ a ∧ a < p + n

/-- From `m₀` to `m`, enclave memory changed only in `*attestation` and in blocks that `malloc`
handed out meanwhile. -/
def AttWrites (env : Env) (attestation : Nat) (m₀ m : Machine) : Prop :=
  ∃ new, m.log = new ++ m₀.log ∧
    ∀ a, m.mem a ≠ m₀.mem a → InAttestation env attestation a ∨ InNewBlock new a

section Writes

variable {env : Env} {attestation : Nat}

theorem InNewBlock.mono {new new' : List Entry} {a : Nat} (h : InNewBlock new a)
    (hsub : ∀ e ∈ new, e ∈ new') : InNewBlock new' a :=
  let ⟨e, he, rest⟩ := h
  ⟨e, hsub e he, rest⟩

theorem AttWrites.trans {m₀ m₁ m₂ : Machine} (h₁ : AttWrites env attestation m₀ m₁)
    (h₂ : AttWrites env attestation m₁ m₂) : AttWrites env attestation m₀ m₂ := by
  obtain ⟨n₁, hl₁, hw₁⟩ := h₁
  obtain ⟨n₂, hl₂, hw₂⟩ := h₂
  refine ⟨n₂ ++ n₁, by rw [hl₂, hl₁, List.append_assoc], fun a ha => ?_⟩
  by_cases h : m₂.mem a = m₁.mem a
  · rw [h] at ha
    exact (hw₁ a ha).imp id fun hb => hb.mono fun _ => List.mem_append_right _
  · exact (hw₂ a h).imp id fun hb => hb.mono fun _ => List.mem_append_left _

theorem AttWrites.of_grown {m₀ m : Machine} (h : Grown (InAttestation env attestation) m₀ m) :
    AttWrites env attestation m₀ m :=
  let ⟨new, hnew⟩ := h.1
  ⟨new, hnew.symm, fun a ha => .inl (by_contra fun h' => ha (h.2 a h'))⟩

/-- A run that went through a `malloc` of `n` bytes at `p` and then changed memory only in
`*attestation` and in that block. -/
theorem AttWrites.of_malloc {m₀ m₁ m : Machine} {e : Entry} {n p : Nat}
    (he : e.ev = .malloc n p) (h₁ : m₀.log <:+ m₁.log) (h : e :: m₁.log <:+ m.log)
    (hw : ∀ a, m.mem a ≠ m₀.mem a → InAttestation env attestation a ∨ (p ≤ a ∧ a < p + n)) :
    AttWrites env attestation m₀ m := by
  obtain ⟨t₁, h₁⟩ := h₁
  obtain ⟨t, ht⟩ := h
  refine ⟨t ++ e :: t₁, by simp [← ht, ← h₁], fun a ha => (hw a ha).imp id fun hb => ?_⟩
  exact ⟨e, by simp, n, p, he, hb⟩

/-- The bytes a blob block writes after its copy of `len` bytes into the `malloc`ed block `p`
succeeded: its field of `*attestation`, and for a string the NUL at `p + len`, which lies in the
block of `len + 1` bytes. -/
theorem blobWrites_within (f : AttField) (nul : Bool) {mem₀ mem : Mem} {len p : Nat}
    (hin : sgxIsCompletelyWithinEnclave env.enclave p len = true)
    (hcopy : ∀ a, ¬(p ≤ a ∧ a < p + len) → mem a = mem₀ a)
    (hd0 : nul = true → (p + len) % addrSpace ≠ 0) (a : Nat)
    (ha : ((if nul then mem.copy ((p + len) % addrSpace) 1 (leBytes 0) else mem).copy
      (attestation + env.layout.attOffset f) 8 (leBytes p)) a ≠ mem₀ a) :
    InAttestation env attestation a ∨
      (p ≤ a ∧ a < p + if nul then (len + 1) % addrSpace else len) := by
  have := env.enclave.base_pos
  have := env.enclave.top_le
  have := env.layout.attField_in f
  rw [Enclave.within_iff] at hin
  by_cases hf : attestation + env.layout.attOffset f ≤ a ∧
      a < attestation + env.layout.attOffset f + 8
  · exact .inl ⟨by omega, by omega⟩
  rw [Mem.copy_outside (by omega)] at ha
  refine .inr ?_
  cases nul
  · rw [if_neg Bool.false_ne_true] at ha ⊢
    exact by_contra fun h => ha (hcopy a h)
  · -- the NUL at `p + len` does not wrap: it is not at NULL
    have hwrap : p + len < addrSpace := by
      have := hd0 rfl
      unfold addrSpace at *
      omega
    rw [if_pos rfl, Nat.mod_eq_of_lt hwrap] at ha
    rw [if_pos rfl, Nat.mod_eq_of_lt (show len + 1 < addrSpace by omega)]
    by_cases hd : a = p + len
    · omega
    rw [Mem.copy_outside (by omega)] at ha
    exact by_contra fun h => ha (hcopy a (by omega))

/-- A blob block that did not fail changed memory only in its field of `*attestation` and in the
block it `malloc`ed. -/
theorem copyBlobIn_writes (f fLen : AttField) (nul : Bool) (m₀ : Machine) :
    wp (copyBlobIn attestation f fLen nul) env m₀
      (fun failed m => failed = false → AttWrites env attestation m₀ m)
      (fun _ => True) (fun _ => True) := by
  refine (?_ : Triple env (Grown (fun _ => False) m₀) _ _) m₀ .start
  unfold copyBlobIn
  refine .read ((readMem_triple _ _).bind fun _ => .ite (fun _ => .pure fun _ hm _ =>
    .of_grown hm.widen) fun _ => .pure_bind ((readMem_triple _ _).bind fun len m hm => ?_))
  rw [wp_bind, wp_malloc]
  generalize env.malloc m.log _ = p
  refine (?_ : Triple env (Grown (fun _ => False) (m.push _)) _ _) _ .start
  refine (readMem_triple _ _).bind fun _ =>
    (Triple.pre (fun _ h => Grown.widen h) ((sgxCopyToEnclave_grown
      (W := fun a => p ≤ a ∧ a < p + len) _ _ fun _ h₁ h₂ => ⟨h₁, h₂⟩).returns
        (sgxCopyToEnclave_within _ _ _ _))).bind fun copied => .assume fun hc =>
    (readMem_triple _ _).bind fun _ => (ocallMunmapUntrusted_grown _ _).bind
    fun _ m' hm' => ?_
  have hcopy : ∀ a, ¬(p ≤ a ∧ a < p + len) → m'.mem a = m₀.mem a := fun a ha => by
    rw [hm'.2 a ha, Machine.push_mem, hm.mem_eq]
  simp only [wp_bind, wp_ite, wp_writeMem, wp_pure]
  split_ifs with hn hd hfield <;> intro hfail <;> obtain ⟨rfl, hin⟩ := hc (by simpa using hfail)
  · subst hn
    exact .of_malloc rfl hm.1 ((hm'.1.trans (List.suffix_cons _ _)).trans (List.suffix_cons _ _))
      fun a ha => blobWrites_within f true hin hcopy (fun _ => hd) a (by simpa using ha)
  · rw [Bool.not_eq_true] at hn
    subst hn
    exact .of_malloc rfl hm.1 (hm'.1.trans (List.suffix_cons _ _))
      fun a ha => blobWrites_within f false hin hcopy nofun a (by simpa using ha)

/-- A blob block that did not fail keeps the frame of the run so far. -/
theorem copyBlobIn_within {m₀ : Machine} (f fLen : AttField) (nul : Bool) (ok : Prop) :
    Triple env (fun m => ok → AttWrites env attestation m₀ m) (copyBlobIn attestation f fLen nul)
      fun failed m => ok ∧ failed = false → AttWrites env attestation m₀ m :=
  fun m hm => wp_post (copyBlobIn_writes f fLen nul m) fun _ _ h ⟨hok, hf⟩ => (hm hok).trans (h hf)

end Writes

/-- On every call that returns a non-negative result, whatever the host answers, enclave memory
changed only in `*attestation` and in the blocks the call `malloc`ed, each within the size it
asked for. -/
theorem ocallGetAttestation_writes_within (env : Env) (spid subkey : Nat) (linkable : Bool)
    (report nonce attestation : Nat) (m : Machine) :
    wp (ocallGetAttestation spid subkey linkable report nonce attestation) env m
      (fun r m' => 0 ≤ r → AttWrites env attestation m m') (fun _ => True) (fun _ => True) := by
  refine (?_ : Triple env (Grown (InAttestation env attestation) m) _ _) m .start
  have neg {v : Int} (hv : v < 0) :
      Triple env (Grown (InAttestation env attestation) m) (sgxResetUstack >>= fun _ => Pure.pure v)
        fun r m' => 0 ≤ r → AttWrites env attestation m m' :=
    (Grown.triple sgxResetUstack_calm).bind fun _ => .pure fun _ _ h => absurd h (not_le.2 hv)
  unfold ocallGetAttestation
  refine .read ((Grown.triple (allocMs_calm _)).bind fun _ => .unless (neg (by decide)) fun _ => ?_)
  refine (copyToField_grown _ _ _ _).bind fun _ => (cStrlen_triple _).bind fun _ =>
    (sgxCopyToUstack_grown _ _).bind fun _ => (storeField_grown _ _ _).bind fun _ =>
    (copyToField_grown _ _ _ _).bind fun _ => (copyToField_grown _ _ _ _).bind fun _ =>
    (storeField_grown _ _ _).bind fun _ => (sgxExitlessOcall_grown _ _).bind
    fun _ => .ite (fun h => neg h) fun _ => .pure_bind ((sgxCopyToEnclave_grown _ _
      fun _ h₁ h₂ => ⟨h₁, h₂⟩).bind fun _ => .unless (neg (by decide)) fun _ =>
    (Grown.triple sgxResetUstack_calm).bind fun _ => ?_)
  refine (Triple.pre (fun _ h _ => .of_grown h) (copyBlobIn_within _ _ false True)).bind fun q =>
    (copyBlobIn_within _ _ true _).bind fun r => (copyBlobIn_within _ _ false _).bind fun s =>
    (copyBlobIn_within _ _ true _).bind fun c => ?_
  refine .ite (fun h => (Triple.true _).bind fun _ => (Triple.true _).bind fun _ =>
    (Triple.true _).bind fun _ => (Triple.true _).bind fun _ =>
    .pure fun _ _ h' => absurd h' (not_le.2 h)) fun h =>
    .pure_bind (.pure fun _ hm _ => hm (blobs_ok_of_nonneg h))

end EnclaveOcalls
