import EasyFlash.Bytes

/-!
# The flash device

The module reaches the flash through the port's `flash_read`, `flash_erase` and `flash_write`,
which the spec treats as external. The device here is a byte array over the 32-bit address
space, a queue of answers to the next erase and write calls, and a log of the calls made.
A read always succeeds. An erase or a write takes the next answer off the queue, and once the
queue is empty every call succeeds: on success the range holds `0xFF` or the bytes written,
on failure whatever junk the answer carries. Ranges wrap at `2^32` (`inRange`).

Every finite pattern of failures is a queue. A run that ends consumes finitely many answers,
so the runs over all queues are all the runs that end, and a call made in any run is made in
one of them.
-/

namespace EasyFlash

/-- Modelled from the spec: `FlashErrCode` of `flash.h`, which the source does not include;
the constructors are the codes this file returns or tests. -/
inductive FlashErrCode where
  | noErr
  | eraseErr
  | writeErr
  | envNameErr
  | envNameExist
  | envFull
  deriving DecidableEq, Repr

/-- The device's answer to one erase or write call. -/
inductive Outcome where
  | ok
  | fail (junk : BitVec 32 → Byte)

/-- An erase or write call, as logged: its address and byte count. -/
inductive FlashOp where
  | erase (addr size : BitVec 32)
  | write (addr size : BitVec 32)
  deriving DecidableEq, Repr

/-- The flash contents, the answers queued for the next calls, and the calls made so far. -/
structure Flash where
  mem : BitVec 32 → Byte
  pending : List Outcome
  log : List FlashOp

/-- Address `a` is one of the `size` bytes from `addr`, counting on past `2^32`. -/
def inRange (addr size a : BitVec 32) : Prop := (a - addr).toNat < size.toNat

instance (addr size a : BitVec 32) : Decidable (inRange addr size a) :=
  inferInstanceAs (Decidable (_ < _))

/-- `mem` with the `size` bytes from `addr` taken from `g`. -/
def overlay (mem g : BitVec 32 → Byte) (addr size : BitVec 32) : BitVec 32 → Byte :=
  fun a => if inRange addr size a then g a else mem a

/-- `flash_read`: the `n` bytes from `addr`. -/
def flashRead (mem : BitVec 32 → Byte) (addr : BitVec 32) (n : Nat) : List Byte :=
  (List.range n).map fun i => mem (addr + BitVec.ofNat 32 i)

/-- A four-byte `flash_read` into a `uint32_t`. -/
def readWord (mem : BitVec 32 → Byte) (addr : BitVec 32) : BitVec 32 :=
  wordOf (flashRead mem addr 4)

/-- What a call leaves in its range: `fresh` when it succeeds, the junk when it fails. -/
def Outcome.apply : Outcome → (BitVec 32 → Byte) → BitVec 32 → Byte
  | .ok, fresh => fresh
  | .fail junk, _ => junk

/-- The code a call returns: `FLASH_NO_ERR`, or `err` when it fails. -/
def Outcome.code : Outcome → FlashErrCode → FlashErrCode
  | .ok, _ => .noErr
  | .fail _, err => err

/-- One erase or write call, logged as `op`, on the `size` bytes from `addr`: it takes the next
answer and leaves `fresh` there on success. -/
def Flash.call (f : Flash) (op : FlashOp) (addr size : BitVec 32) (fresh : BitVec 32 → Byte)
    (err : FlashErrCode) : Flash × FlashErrCode :=
  ({ mem := overlay f.mem ((f.pending.headD .ok).apply fresh) addr size,
     pending := f.pending.tail, log := f.log ++ [op] }, (f.pending.headD .ok).code err)

/-- `flash_erase(addr, size)`. -/
def flashErase (f : Flash) (addr size : BitVec 32) : Flash × FlashErrCode :=
  f.call (.erase addr size) addr size (fun _ => 0xFF) .eraseErr

/-- `flash_write(addr, data, size)` with `size` the length of `data`. -/
def flashWrite (f : Flash) (addr : BitVec 32) (data : List Byte) : Flash × FlashErrCode :=
  f.call (.write addr (BitVec.ofNat 32 data.length)) addr (BitVec.ofNat 32 data.length)
    (fun a => data.getD (a - addr).toNat 0) .writeErr

/-! ## Laws -/

@[simp] theorem flashRead_length (mem : BitVec 32 → Byte) (addr : BitVec 32) (n : Nat) :
    (flashRead mem addr n).length = n := by simp [flashRead]

theorem flashRead_congr {m m' : BitVec 32 → Byte} {addr : BitVec 32} {n : Nat}
    (h : ∀ i < n, m (addr + BitVec.ofNat 32 i) = m' (addr + BitVec.ofNat 32 i)) :
    flashRead m addr n = flashRead m' addr n :=
  List.map_congr_left fun i hi => h i (List.mem_range.mp hi)

theorem flashRead_drop_take {mem : BitVec 32 → Byte} {a : BitVec 32} {n k m : Nat}
    (h : k + m ≤ n) :
    ((flashRead mem a n).drop k).take m = flashRead mem (a + BitVec.ofNat 32 k) m := by
  apply List.ext_getElem (by simp; omega)
  intro i h1 h2
  simp only [flashRead, List.getElem_take, List.getElem_drop, List.getElem_map,
    List.getElem_range, BitVec.ofNat_add, BitVec.add_assoc]

theorem flashRead_take {mem : BitVec 32 → Byte} {a : BitVec 32} {n m : Nat} (h : m ≤ n) :
    (flashRead mem a n).take m = flashRead mem a m := by
  simpa using @flashRead_drop_take mem a n 0 m (by omega)

theorem not_inRange_of_le {addr size a : BitVec 32} (h : addr.toNat + size.toNat ≤ a.toNat) :
    ¬ inRange addr size a := by
  unfold inRange
  rw [BitVec.toNat_sub]
  omega

theorem overlay_out {mem g : BitVec 32 → Byte} {addr size a : BitVec 32}
    (h : ¬ inRange addr size a) : overlay mem g addr size a = mem a := if_neg h

theorem overlay_in {mem g : BitVec 32 → Byte} {addr size a : BitVec 32}
    (h : inRange addr size a) : overlay mem g addr size a = g a := if_pos h

@[simp] theorem Flash.call_log (f : Flash) (op : FlashOp) (addr size fresh err) :
    (f.call op addr size fresh err).1.log = f.log ++ [op] := rfl

@[simp] theorem Flash.call_pending (f : Flash) (op : FlashOp) (addr size fresh err) :
    (f.call op addr size fresh err).1.pending = f.pending.tail := rfl

theorem Flash.call_mem_out (f : Flash) (op : FlashOp) {addr size a : BitVec 32} (fresh err)
    (h : ¬ inRange addr size a) : (f.call op addr size fresh err).1.mem a = f.mem a :=
  overlay_out h

theorem flashErase_mem_out (f : Flash) {addr size a : BitVec 32} (h : ¬ inRange addr size a) :
    (flashErase f addr size).1.mem a = f.mem a :=
  overlay_out h

theorem flashWrite_mem_out (f : Flash) {addr a : BitVec 32} {data : List Byte}
    (h : ¬ inRange addr (BitVec.ofNat 32 data.length) a) :
    (flashWrite f addr data).1.mem a = f.mem a :=
  overlay_out h

theorem Flash.call_pending_ne_nil {f : Flash} {op : FlashOp} {addr size : BitVec 32} {fresh err}
    (h : (f.call op addr size fresh err).2 ≠ .noErr) : f.pending ≠ [] := by
  intro hp
  exact h (by simp [Flash.call, hp, Outcome.code])

theorem Flash.call_healthy {f : Flash} (hq : f.pending = []) (op : FlashOp) (addr size : BitVec 32)
    (fresh : BitVec 32 → Byte) (err : FlashErrCode) :
    (f.call op addr size fresh err).2 = .noErr ∧
      (f.call op addr size fresh err).1.pending = [] := by
  simp [Flash.call, hq, Outcome.code]

theorem Flash.call_mem_ok {f : Flash} {op : FlashOp} {addr size a : BitVec 32} {fresh err}
    (hok : (f.call op addr size fresh err).2 = .noErr) (hne : err ≠ .noErr)
    (h : inRange addr size a) : (f.call op addr size fresh err).1.mem a = fresh a := by
  show overlay f.mem _ addr size a = fresh a
  rw [overlay_in h]
  revert hok
  show (f.pending.headD .ok).code err = .noErr → _
  cases f.pending.headD .ok with
  | ok => intro; rfl
  | fail junk => intro hok; exact absurd hok hne

theorem flashWrite_mem_ok {f : Flash} {addr : BitVec 32} {data : List Byte}
    (hok : (flashWrite f addr data).2 = .noErr) (hlen : data.length < 2 ^ 32) {k : Nat}
    (hk : k < data.length) :
    (flashWrite f addr data).1.mem (addr + BitVec.ofNat 32 k) = data[k] := by
  have hkk : (addr + BitVec.ofNat 32 k - addr).toNat = k := by
    simp only [BitVec.toNat_sub, BitVec.toNat_add, BitVec.toNat_ofNat]; omega
  have hr : inRange addr (BitVec.ofNat 32 data.length) (addr + BitVec.ofNat 32 k) := by
    simp only [inRange, hkk, BitVec.toNat_ofNat]; omega
  rw [flashWrite, Flash.call_mem_ok hok (by decide) hr]
  simp only [hkk, List.getD_eq_getElem?_getD, List.getElem?_eq_getElem hk, Option.getD_some]

theorem flashRead_flashWrite {f : Flash} {addr : BitVec 32} {data : List Byte}
    (hok : (flashWrite f addr data).2 = .noErr) (hlen : data.length < 2 ^ 32) :
    flashRead (flashWrite f addr data).1.mem addr data.length = data := by
  apply List.ext_getElem (by simp)
  intro k hk _
  simp only [flashRead, List.getElem_map, List.getElem_range]
  exact flashWrite_mem_ok hok hlen (by simpa using hk)

theorem readWord_flashErase {f : Flash} {addr size : BitVec 32}
    (hok : (flashErase f addr size).2 = .noErr) (h4 : 4 ≤ size.toNat) :
    readWord (flashErase f addr size).1.mem addr = 0xFFFFFFFF := by
  have hff : flashRead (flashErase f addr size).1.mem addr 4 = List.replicate 4 0xFF := by
    refine List.eq_replicate_iff.mpr ⟨flashRead_length _ _ _, fun b hb => ?_⟩
    obtain ⟨i, hi, rfl⟩ := List.mem_map.mp hb
    refine Flash.call_mem_ok hok (by decide) ?_
    have := List.mem_range.mp hi
    simp only [inRange, add_sub_cancel_left, BitVec.toNat_ofNat]
    omega
  rw [readWord, hff]
  rfl

theorem readWord_below {m m' : BitVec 32 → Byte} {addr size a : BitVec 32}
    (hm : ∀ b, ¬ inRange addr size b → m' b = m b) (ha : a.toNat + 4 ≤ addr.toNat)
    (hs : addr.toNat + size.toNat ≤ 2 ^ 32 + a.toNat) : readWord m' a = readWord m a := by
  refine congrArg wordOf (flashRead_congr fun i hi => hm _ ?_)
  simp only [inRange, BitVec.toNat_sub, BitVec.toNat_add, BitVec.toNat_ofNat]
  omega

theorem readWord_flashErase_below {f : Flash} {addr size a : BitVec 32}
    (ha : a.toNat + 4 ≤ addr.toNat) (hs : addr.toNat + size.toNat ≤ 2 ^ 32 + a.toNat) :
    readWord (flashErase f addr size).1.mem a = readWord f.mem a :=
  readWord_below (fun _ => flashErase_mem_out _) ha hs

end EasyFlash
