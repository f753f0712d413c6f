import Mathlib

/-!
# The enclave boundary

Graphene's Linux-SGX PAL runs an application inside an SGX enclave and reaches the host OS
through OCALLs (`Pal/src/host/Linux-SGX/enclave_ocalls.c`). This module fixes the vocabulary
the model of that file is written in:

* the C integer conversions the file applies implicitly (`int`, `unsigned int`, `uint64_t`)
  and the error numbers it returns;
* the enclave's address range and the two boundary checks
  `sgx_is_completely_within_enclave` and `sgx_is_completely_outside_enclave`;
* enclave memory as bytes, with little-endian loads and stores and `strlen`;
* the size constants of the file: `MAX_UNTRUSTED_STACK_BUF` and `ALLOC_ALIGNUP`.

Pointers and lengths are `Nat`s below `2 ^ 64`; C `int` values are `Int`s.
-/

namespace EnclaveOcalls

/-! ## C integers -/

/-- Pointers, `size_t` and `uint64_t` values are below `2 ^ 64`. -/
def addrSpace : Nat := 2 ^ 64

/-- `(unsigned int) x`. -/
@[irreducible] def toU32 (x : Int) : Nat := (x % 2 ^ 32).toNat

/-- `(uint64_t) x`; also the conversion of an `int` to `size_t`, which sign-extends. -/
@[irreducible] def toU64 (x : Int) : Nat := (x % 2 ^ 64).toNat

/-- `(int) x`: two's complement truncation to 32 bits. It is irreducible, so that no
definitional unfolding evaluates a truncation of an unknown value. -/
@[irreducible] def toI32 (x : Int) : Int :=
  if x % 2 ^ 32 < 2 ^ 31 then x % 2 ^ 32 else x % 2 ^ 32 - 2 ^ 32

/-- `EPERM` of `asm/errno.h`. -/
def EPERM : Int := 1
/-- `EINTR` of `asm/errno.h`. -/
def EINTR : Int := 4
/-- `EAGAIN` of `asm/errno.h`. -/
def EAGAIN : Int := 11
/-- `EACCES` of `asm/errno.h`. -/
def EACCES : Int := 13
/-- `EINVAL` of `asm/errno.h`. -/
def EINVAL : Int := 22

/-- `PROT_READ | PROT_WRITE`. -/
def protReadWrite : Nat := 3

/-- `FUTEX_WAIT_PRIVATE` of `linux/futex.h`. -/
def futexWaitPrivate : Int := 128

/-- Modelled from the spec: `IS_ERR(x)`, a negative return value ("negative on error"). -/
def isErr (x : Int) : Bool := x < 0

theorem toI32_of_lt {x : Int} (h0 : 0 ≤ x) (h : x < 2 ^ 31) : toI32 x = x := by
  unfold toI32
  rw [Int.emod_eq_of_lt h0 (by omega)]
  exact if_pos h

@[simp] theorem toI32_zero : toI32 0 = 0 := toI32_of_lt le_rfl (by norm_num)

/-- A value of C's `int`. -/
def IsInt (r : Int) : Prop := -2 ^ 31 ≤ r ∧ r < 2 ^ 31

instance : DecidablePred IsInt := fun _ => inferInstanceAs (Decidable (_ ∧ _))

theorem toI32_isInt (x : Int) : IsInt (toI32 x) := by
  unfold toI32 IsInt
  split_ifs <;> omega

/-- A non-negative `int` converts to `size_t` unchanged. -/
theorem toU64_of_isInt {r : Int} (h : IsInt r) (h0 : 0 ≤ r) : (toU64 r : Int) = r := by
  unfold toU64
  rw [Int.emod_eq_of_lt h0 (by unfold IsInt at h; omega)]
  exact Int.toNat_of_nonneg h0

/-! ## The enclave's address range -/

/-- The enclave's address range `[base, top)`, fixed at enclave creation. The NULL page is
never inside it. -/
structure Enclave where
  base : Nat
  top : Nat
  base_pos : 0 < base
  base_le_top : base ≤ top
  top_le : top ≤ addrSpace

/-- Modelled from the spec: `sgx_is_completely_within_enclave(addr, size)`, the region
`[addr, addr + size)` lies entirely inside the enclave. -/
def sgxIsCompletelyWithinEnclave (e : Enclave) (addr size : Nat) : Bool :=
  e.base ≤ addr && addr + size ≤ e.top

/-- Modelled from the spec: `sgx_is_completely_outside_enclave(addr, size)`, the region
`[addr, addr + size)` lies in the address space and entirely outside the enclave. -/
def sgxIsCompletelyOutsideEnclave (e : Enclave) (addr size : Nat) : Bool :=
  addr + size ≤ addrSpace && (addr + size ≤ e.base || e.top ≤ addr)

/-- A region straddles the boundary: it is neither entirely inside nor entirely outside. -/
def Straddles (e : Enclave) (addr size : Nat) : Prop :=
  sgxIsCompletelyWithinEnclave e addr size = false ∧
    sgxIsCompletelyOutsideEnclave e addr size = false

namespace Enclave

variable (e : Enclave)

@[simp] theorem within_iff (a n : Nat) :
    sgxIsCompletelyWithinEnclave e a n = true ↔ e.base ≤ a ∧ a + n ≤ e.top := by
  simp [sgxIsCompletelyWithinEnclave]

@[simp] theorem outside_iff (a n : Nat) :
    sgxIsCompletelyOutsideEnclave e a n = true ↔
      a + n ≤ addrSpace ∧ (a + n ≤ e.base ∨ e.top ≤ a) := by
  simp [sgxIsCompletelyOutsideEnclave]

/-- NULL is outside every enclave, so a copy into a NULL buffer is refused. -/
theorem not_within_null (n : Nat) : sgxIsCompletelyWithinEnclave e 0 n = false := by
  have := e.base_pos
  simp [sgxIsCompletelyWithinEnclave]
  omega

end Enclave

/-! ## Enclave memory -/

/-- Enclave memory: the byte at every address, as the enclave reads it. -/
abbrev Mem := Nat → UInt8

/-- The bytes at `p`, indexed from `0`. -/
def Mem.slice (m : Mem) (p : Nat) : Nat → UInt8 := fun i => m (p + i)

/-- `memcpy(p, data, n)` into enclave memory. -/
def Mem.copy (m : Mem) (p n : Nat) (data : Nat → UInt8) : Mem :=
  fun a => if p ≤ a ∧ a < p + n then data (a - p) else m a

/-- The little-endian bytes of `v`. -/
def leBytes (v : Nat) : Nat → UInt8 := fun i => UInt8.ofNat (v / 256 ^ i)

/-- The little-endian value of the `n` bytes at `p`. -/
def Mem.load (m : Mem) (p : Nat) : Nat → Nat
  | 0 => 0
  | n + 1 => (m p).toNat + 256 * m.load (p + 1) n

/-- `strlen(p)` bounded by `k` bytes. -/
def strlenUpTo (m : Mem) (p : Nat) : Nat → Nat
  | 0 => 0
  | k + 1 => if m p = 0 then 0 else strlenUpTo m (p + 1) k + 1

/-- `strlen(p)`: the bytes before the first NUL at `p`, searched up to the end of the address
space. -/
def strlen (m : Mem) (p : Nat) : Nat := strlenUpTo m p (addrSpace - p)

@[simp] theorem Mem.copy_outside {m : Mem} {p n a : Nat} {data : Nat → UInt8}
    (h : a < p ∨ p + n ≤ a) : m.copy p n data a = m a := by
  simp only [Mem.copy]
  split_ifs with hin
  · omega
  · rfl

@[simp] theorem Mem.copy_inside {m : Mem} {p n a : Nat} {data : Nat → UInt8}
    (h1 : p ≤ a) (h2 : a < p + n) : m.copy p n data a = data (a - p) := by
  simp [Mem.copy, h1, h2]

@[simp] theorem leBytes_zero (i : Nat) : leBytes 0 i = 0 := by
  simp [leBytes]

/-- Zeroing bytes can only lower a little-endian value. -/
theorem Mem.load_copy_zero_le (m : Mem) (p k q n : Nat) :
    (m.copy p k (leBytes 0)).load q n ≤ m.load q n := by
  induction n generalizing q with
  | zero => exact le_rfl
  | succ n ih =>
    have hq : ((m.copy p k (leBytes 0)) q).toNat ≤ (m q).toNat := by
      simp only [Mem.copy]
      split_ifs <;> simp
    simp only [Mem.load]
    exact Nat.add_le_add hq (Nat.mul_le_mul_left 256 (ih (q + 1)))

/-- Reading back `j` bytes from index `k` of a region just written with the little-endian bytes
of `v`. -/
theorem Mem.load_copy_leBytes_from (m : Mem) (p n v : Nat) :
    ∀ j k, k + j ≤ n → (m.copy p n (leBytes v)).load (p + k) j = v / 256 ^ k % 256 ^ j := by
  intro j
  induction j with
  | zero => simp [Mem.load, Nat.mod_one]
  | succ j ih =>
    intro k hk
    have hbyte : (m.copy p n (leBytes v) (p + k)).toNat = v / 256 ^ k % 256 := by
      rw [Mem.copy_inside (by omega) (by omega), Nat.add_sub_cancel_left]; rfl
    rw [Mem.load, hbyte, Nat.add_assoc, ih (k + 1) (by omega), Nat.pow_succ,
      ← Nat.div_div_eq_div_mul, Nat.pow_succ', Nat.mod_mul]

/-- Reading back a word just written as the little-endian bytes of `v`. -/
theorem Mem.load_copy_leBytes (m : Mem) (p n v : Nat) :
    (m.copy p n (leBytes v)).load p n = v % 256 ^ n := by
  simpa using m.load_copy_leBytes_from p n v n 0 (by omega)

/-! ## Sizes -/

/-- Modelled from the spec: `THREAD_STACK_SIZE`, the 2 MiB of an untrusted thread stack. -/
def threadStackSize : Nat := 2 * 1024 * 1024

/-- `MAX_UNTRUSTED_STACK_BUF`: a buffer larger than this goes to the untrusted heap. -/
def maxUntrustedStackBuf : Nat := threadStackSize / 4

/-- `ALLOC_ALIGNUP(n)` for the allocation granularity `a`: `n` rounded up to a multiple of `a`,
computed in `size_t`. -/
def allocAlignup (a n : Nat) : Nat := (n + a - 1) / a * a % addrSpace

/-- `sizeof(int)`. -/
def sizeofInt : Nat := 4

/-- `sizeof(char*)`. -/
def sizeofPtr : Nat := 8

/-- `sizeof(struct pollfd)`: an `int` and two `short`s. -/
def sizeofPollfd : Nat := 8

example : maxUntrustedStackBuf = 512 * 1024 := rfl

end EnclaveOcalls
