import Mathlib.Data.BitVec

/-!
# Bytes, words and C strings

The RAM cache and the flash hold bytes (`BitVec 8`). A word goes to the flash as its four
bytes, least significant first (`wordBytes`), and comes back through `wordOf`. The module
reads every word through the encoding it was written with, so `wordOf_wordBytes` is all the
proofs need of the byte order.

A string argument is a `CStr`: its bytes before the NUL. Inside a buffer a string is found by
scanning to its NUL (`cstr`), and `strstr` is the libc search. Every access to a buffer is
checked against its length; `none` is an access outside it, which C leaves undefined.
-/

namespace EasyFlash

/-- A byte of the cache or of the flash. -/
abbrev Byte := BitVec 8

/-- The string terminator. -/
def nul : Byte := 0

/-- `'='`, which separates a record's key from its value. -/
def eqSign : Byte := 0x3D

/-- A C string argument: its bytes up to, not including, the NUL. -/
structure CStr where
  bytes : List Byte
  nul_not_mem : nul ∉ bytes

/-! ## Words -/

/-- The four bytes of a word, least significant first. -/
def wordBytes (w : BitVec 32) : List Byte :=
  [BitVec.ofNat 8 w.toNat, BitVec.ofNat 8 (w.toNat / 2 ^ 8), BitVec.ofNat 8 (w.toNat / 2 ^ 16),
    BitVec.ofNat 8 (w.toNat / 2 ^ 24)]

/-- The word whose least significant byte comes first in `bs`. -/
def wordOf (bs : List Byte) : BitVec 32 :=
  BitVec.ofNat 32 ((bs.getD 0 0).toNat + 2 ^ 8 * (bs.getD 1 0).toNat +
    2 ^ 16 * (bs.getD 2 0).toNat + 2 ^ 24 * (bs.getD 3 0).toNat)

@[simp] theorem wordBytes_length (w : BitVec 32) : (wordBytes w).length = 4 := rfl

@[simp] theorem wordOf_wordBytes (w : BitVec 32) : wordOf (wordBytes w) = w := by
  apply BitVec.eq_of_toNat_eq
  have := w.isLt
  simp [wordOf, wordBytes]
  omega

/-! ## C strings -/

/-- The C string at the front of a buffer: the bytes before its first NUL, or `none` when the
buffer ends first (the scan reads past its end). -/
def cstr : List Byte → Option (List Byte)
  | [] => none
  | b :: bs => if b = nul then some [] else (cstr bs).map (b :: ·)

theorem cstr_append_nul {s : List Byte} (h : nul ∉ s) (rest : List Byte) :
    cstr (s ++ nul :: rest) = some s := by
  induction s with
  | nil => simp [cstr]
  | cons b s ih =>
    simp only [List.mem_cons, not_or] at h
    simp [cstr, Ne.symm h.1, ih h.2]

theorem cstr_eq_some {bs s : List Byte} (h : cstr bs = some s) :
    nul ∉ s ∧ bs = s ++ nul :: bs.drop (s.length + 1) := by
  induction bs generalizing s with
  | nil => cases h
  | cons b bs ih =>
    simp only [cstr] at h
    split at h
    · rename_i hb
      cases h
      subst hb
      exact ⟨List.not_mem_nil _, rfl⟩
    · rename_i hb
      obtain ⟨s', hs', rfl⟩ := Option.map_eq_some'.mp h
      obtain ⟨h1, h2⟩ := ih hs'
      refine ⟨fun hm => (List.mem_cons.mp hm).elim (fun e => hb e.symm) h1, ?_⟩
      simp only [List.length_cons, List.drop_succ_cons, List.cons_append]
      exact congrArg _ h2

/-- `strstr(hay, needle)`: the offset of the first occurrence of `needle` in `hay`. -/
def strstr (hay needle : List Byte) : Option Nat :=
  if needle <+: hay then some 0 else
    match hay with
    | [] => none
    | _ :: t => (strstr t needle).map (· + 1)

/-! ## Buffers -/

/-- `buf` with byte `i` set to `b`; `none` past its end. -/
def setByte (buf : List Byte) (i : Nat) (b : Byte) : Option (List Byte) :=
  if i < buf.length then some (buf.set i b) else none

/-- The `n` bytes of `buf` from offset `o`; `none` past its end. -/
def readBytes (buf : List Byte) (o n : Nat) : Option (List Byte) :=
  if o + n ≤ buf.length then some ((buf.drop o).take n) else none

/-- `buf` with `src` copied in from offset `o`, as a `memcpy` from another buffer;
`none` past its end. -/
def writeBytes (buf : List Byte) (o : Nat) (src : List Byte) : Option (List Byte) :=
  if o + src.length ≤ buf.length then some (buf.take o ++ src ++ buf.drop (o + src.length))
  else none

/-- `memcpy(buf + dst, buf + src, n)` inside one buffer, one byte at a time from the front. -/
def memcpyFwd (buf : List Byte) (dst src : Nat) : Nat → Option (List Byte)
  | 0 => some buf
  | n + 1 => do
    let b ← buf[src]?
    let buf ← setByte buf dst b
    memcpyFwd buf (dst + 1) (src + 1) n

/-- Bytes stored one at a time from index `i` of a heap buffer, the index a 16-bit counter as
in `write_env`. -/
def storeFrom (buf : List Byte) (i : BitVec 16) : List Byte → Option (List Byte)
  | [] => some buf
  | b :: bs => do
    let buf ← setByte buf i.toNat b
    storeFrom buf (i + 1) bs

/-! ## Buffer laws -/

theorem take_set_succ {l : List Byte} {i : Nat} (b : Byte) (h : i < l.length) :
    (l.set i b).take (i + 1) = l.take i ++ [b] := by
  have hl : (l.take i).length = i := by simp; omega
  rw [List.take_succ, List.getElem?_set_self h, List.set_eq_take_append_cons_drop, if_pos h,
    List.take_append_of_le_length (by omega), List.take_take, Nat.min_self]
  rfl

theorem setByte_eq {buf : List Byte} {i : Nat} (b : Byte) (h : i < buf.length) :
    setByte buf i b = some (buf.set i b) := if_pos h

@[simp] theorem writeBytes_eq {buf src : List Byte} {o : Nat} (h : o + src.length ≤ buf.length) :
    writeBytes buf o src = some (buf.take o ++ src ++ buf.drop (o + src.length)) := if_pos h

theorem writeBytes_eq_none {buf src : List Byte} {o : Nat} (h : buf.length < o + src.length) :
    writeBytes buf o src = none := if_neg (by omega)

@[simp] theorem readBytes_eq {buf : List Byte} {o n : Nat} (h : o + n ≤ buf.length) :
    readBytes buf o n = some ((buf.drop o).take n) := if_pos h

theorem readBytes_eq_none {buf : List Byte} {o n : Nat} (h : buf.length < o + n) :
    readBytes buf o n = none := if_neg (by omega)

theorem readBytes_length {buf out : List Byte} {o n : Nat} (h : readBytes buf o n = some out) :
    out.length = n := by
  unfold readBytes at h
  split at h
  · cases h; simp; omega
  · cases h

theorem writeBytes_length {buf src out : List Byte} {o : Nat}
    (h : writeBytes buf o src = some out) : out.length = buf.length := by
  unfold writeBytes at h
  split at h
  · cases h; simp; omega
  · cases h

theorem memcpyFwd_eq {buf : List Byte} {dst src n : Nat} (h : dst ≤ src)
    (hn : src + n ≤ buf.length) :
    memcpyFwd buf dst src n =
      some (buf.take dst ++ (buf.drop src).take n ++ buf.drop (dst + n)) := by
  induction n generalizing buf dst src with
  | zero => simp [memcpyFwd]
  | succ n ih =>
    have hs : src < buf.length := by omega
    have hd : dst < buf.length := by omega
    simp only [memcpyFwd, List.getElem?_eq_getElem hs, Option.bind_eq_bind, Option.some_bind,
      setByte, hd, if_true]
    rw [ih (by omega) (by simp; omega), List.drop_set_of_lt _ _ (by omega),
      List.drop_set_of_lt _ _ (by omega), take_set_succ _ hd, List.drop_eq_getElem_cons hs]
    simp only [List.take_succ_cons, List.cons_append, List.append_assoc, List.nil_append,
      Nat.add_right_comm, Nat.add_assoc]

theorem memcpyFwd_eq_none {buf : List Byte} {dst src n : Nat} (h : dst ≤ src) (hn0 : 0 < n)
    (hn : buf.length < src + n) : memcpyFwd buf dst src n = none := by
  induction n generalizing buf dst src with
  | zero => omega
  | succ n ih =>
    simp only [memcpyFwd, Option.bind_eq_bind]
    by_cases hs : src < buf.length
    · simp only [List.getElem?_eq_getElem hs, Option.some_bind, setByte,
        show dst < buf.length by omega, if_true]
      exact ih (by omega) (by omega) (by simp; omega)
    · simp [List.getElem?_eq_none (by omega : buf.length ≤ src)]

theorem storeFrom_eq {buf bs : List Byte} {i : BitVec 16} (hb : buf.length < 2 ^ 16)
    (h : i.toNat + bs.length ≤ buf.length) :
    storeFrom buf i bs = some (buf.take i.toNat ++ bs ++ buf.drop (i.toNat + bs.length)) := by
  induction bs generalizing buf i with
  | nil => simp [storeFrom]
  | cons b bs ih =>
    simp only [List.length_cons] at h
    have hi : (i + 1).toNat = i.toNat + 1 := by bv_omega
    simp only [storeFrom, setByte_eq b (show i.toNat < buf.length by omega), Option.bind_eq_bind,
      Option.some_bind]
    rw [ih (by simpa using hb) (by simp; omega), hi, take_set_succ _ (by omega),
      List.drop_set_of_lt _ _ (by omega), show i.toNat + 1 + bs.length = i.toNat + (bs.length + 1)
      by omega]
    simp

theorem storeFrom_eq_none {buf bs : List Byte} {i : BitVec 16} (hb : buf.length < 2 ^ 16)
    (hi : i.toNat ≤ buf.length) (h : buf.length < i.toNat + bs.length) :
    storeFrom buf i bs = none := by
  induction bs generalizing buf i with
  | nil => simp at h; omega
  | cons b bs ih =>
    simp only [List.length_cons] at h
    by_cases hlt : i.toNat < buf.length
    · have hi' : (i + 1).toNat = i.toNat + 1 := by bv_omega
      simp only [storeFrom, setByte_eq b hlt, Option.bind_eq_bind, Option.some_bind]
      exact ih (by simpa using hb) (by simp; omega) (by simp; omega)
    · simp [storeFrom, setByte, hlt]

end EasyFlash
