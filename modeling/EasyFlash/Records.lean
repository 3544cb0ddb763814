import EasyFlash.Update

/-!
# Records: lookup, delete, append

`find_env` walks the strings of the detail part and stops at the first one in which the key
occurs followed by `=` (`findEnv_found`), so the record it returns may have a key that only
ends with the key looked up, or hold the key and `=` in its value. `flash_del_env` moves the
`get_env_detail_size() - ENV_PARAM_PART_BYTE_SIZE - o` bytes after the record at `o` forward
(`flashDelEnv_found`). `write_env` computes the record's length in a `uint16_t`, which wraps to
0 for the lengths 65533 to 65535 (`writeEnv_length_wraps`), and tests the record and the detail
size against the store's total size only (`writeEnv_noErr`).
-/

namespace EasyFlash

/-! ## Lookup -/

theorem strstr_some {hay needle : List Byte} {i : Nat} (h : strstr hay needle = some i) :
    needle <+: hay.drop i ∧ i ≤ hay.length := by
  induction hay generalizing i with
  | nil =>
    unfold strstr at h
    split at h
    · cases h; exact ⟨‹_›, le_refl _⟩
    · cases h
  | cons b t ih =>
    unfold strstr at h
    split at h
    · cases h; exact ⟨‹_›, Nat.zero_le _⟩
    · obtain ⟨j, hj, rfl⟩ := Option.map_eq_some'.mp h
      obtain ⟨h1, h2⟩ := ih hj
      exact ⟨h1, by simp; omega⟩

theorem key_eq_infix {detail key str : List Byte} {o i : Nat}
    (hstr : cstr (detail.drop o) = some str) (hi : key <+: str.drop i) (hil : i ≤ str.length)
    (heq : detail[o + i + key.length]? = some eqSign) : key ++ [eqSign] <:+: str := by
  obtain ⟨-, hd⟩ := cstr_eq_some hstr
  obtain ⟨t, ht⟩ := hi
  have hlen : i + key.length ≤ str.length := by
    have := congrArg List.length ht; simp at this; omega
  have hb : (detail.drop o)[i + key.length]? = some eqSign := by
    rw [List.getElem?_drop, ← Nat.add_assoc]; exact heq
  rw [hd] at hb
  rcases Nat.lt_or_eq_of_le hlen with hlt | heq'
  · rw [List.getElem?_append_left hlt, ← List.getElem?_drop, ← ht,
      List.getElem?_append_right (le_refl _), Nat.sub_self] at hb
    cases t with
    | nil => simp at hb
    | cons c u =>
      obtain rfl : c = eqSign := by simpa using hb
      exact ⟨str.take i, u, by
        rw [List.append_assoc, List.append_assoc, List.singleton_append, ht,
          List.take_append_drop]⟩
  · rw [List.getElem?_append_right (by omega), heq', Nat.sub_self] at hb
    simp [nul, eqSign] at hb

theorem findEnvFrom_found {detail key : List Byte} {envEnd : Nat} :
    ∀ {fuel env o : Nat}, findEnvFrom detail key envEnd fuel env = some (some o) →
      env ≤ o ∧ o < envEnd ∧ ∃ str, cstr (detail.drop o) = some str ∧ key ++ [eqSign] <:+: str
  | 0, _, _, h => by cases h
  | fuel + 1, env, o, h => by
    unfold findEnvFrom at h
    split at h
    · rename_i hlt
      obtain ⟨str, hstr, h⟩ := Option.bind_eq_some.mp h
      split at h
      · rename_i i hi
        split at h
        · cases h
          obtain ⟨h1, h2⟩ := strstr_some hi
          exact ⟨le_refl _, hlt, str, hstr, key_eq_infix hstr h1 h2 ‹_›⟩
        · obtain ⟨h1, h2, h3⟩ := findEnvFrom_found h
          exact ⟨by omega, h2, h3⟩
      · obtain ⟨h1, h2, h3⟩ := findEnvFrom_found h
        exact ⟨by omega, h2, h3⟩
    · cases h

section Lookup

variable {cfg : Config} {s : Env} {key : CStr}

theorem findEnv_found {o : Nat} (h : findEnv cfg s key = some (some o)) :
    s.curUsingDataAddr ≠ 0 ∧ o < (detailSize cfg s).toNat ∧
      ∃ str, cstr (s.cache.detail.drop o) = some str ∧ key.bytes ++ [eqSign] <:+: str := by
  simp only [findEnv, Option.bind_eq_bind, Option.bind_eq_some] at h
  obtain ⟨c, hc, h⟩ := h
  obtain ⟨-, h0⟩ := getCurUsingDataAddr_some hc
  split at h
  · cases h
  rw [getEnvDetailSize_eq h0, Option.some_bind] at h
  split at h
  · cases h
  obtain ⟨-, h1, h2⟩ := findEnvFrom_found h
  exact ⟨h0, h1, h2⟩

end Lookup

/-- `crcConfig` with the default `xk=1`. -/
def suffixConfig : Config := { crcConfig with defaultEnvSet := [(keyXK, valueOne)] }

/-- With the default `xk=1`, `find_env("k")` returns `xk=1` and `flash_get_env("k")` returns `1`. -/
theorem findEnv_key_suffix :
    ((flashEnvInit suffixConfig erasedFlash fun _ => 0).bind fun s =>
      (findEnv suffixConfig s keyK).bind fun o =>
        (flashGetEnv suffixConfig s keyK).map fun v => (o, v)) = some (some 0, some [0x31]) := by
  decide

/-- With the default `xk=1`, `flash_set_env("k", "2")` deletes `xk=1`: `flash_get_env("xk")` returns
`NULL`. -/
theorem flashSetEnv_deletes_other_key :
    ((flashEnvInit suffixConfig erasedFlash fun _ => 0).bind fun s =>
      (flashSetEnv suffixConfig s keyK valueTwo).bind fun p =>
        (flashGetEnv suffixConfig p.1 keyXK).map fun v => (p.2, v)) = some (.noErr, none) := by
  decide

/-! ## Delete -/

/-- Rounding up to a multiple of four as `write_env` and `flash_del_env` write it. -/
def align4 (n : Nat) : Nat := if n % 4 ≠ 0 then (n / 4 + 1) * 4 else n

theorem le_align4 (n : Nat) : n ≤ align4 n ∧ align4 n ≤ n + 3 := by
  unfold align4; split <;> omega

theorem align4_toNat {w : Nat} {x : BitVec w} (hw : 4 < 2 ^ w) (h : x.toNat + 3 < 2 ^ w) :
    (if x % 4 ≠ 0 then (x / 4 + 1) * 4 else x).toNat = align4 x.toNat := by
  have e4 : (4 : BitVec w).toNat = 4 := by
    show (BitVec.ofNat w 4).toNat = 4; rw [BitVec.toNat_ofNat, Nat.mod_eq_of_lt hw]
  have e1 : (1 : BitVec w).toNat = 1 := by
    show (BitVec.ofNat w 1).toNat = 1; rw [BitVec.toNat_ofNat, Nat.mod_eq_of_lt (by omega)]
  have e0 : (0 : BitVec w).toNat = 0 := by
    show (BitVec.ofNat w 0).toNat = 0; rw [BitVec.toNat_ofNat, Nat.zero_mod]
  have hm : x % 4 = 0 ↔ x.toNat % 4 = 0 := by
    rw [BitVec.toNat_eq, BitVec.toNat_umod, e4, e0]
  unfold align4
  by_cases hx : x.toNat % 4 = 0
  · rw [if_neg (not_not.mpr (hm.mpr hx)), if_neg (not_not.mpr hx)]
  · rw [if_pos (mt hm.mp hx), if_pos hx]
    simp only [BitVec.toNat_mul, BitVec.toNat_add, BitVec.toNat_udiv, e4, e1]
    rw [Nat.mod_eq_of_lt (show x.toNat / 4 + 1 < 2 ^ w by omega),
      Nat.mod_eq_of_lt (show (x.toNat / 4 + 1) * 4 < 2 ^ w by omega)]

section Delete

variable {cfg : Config} {s : Env} {key : CStr}

/-- `flash_del_env` moves the `D - ENV_PARAM_PART_BYTE_SIZE - o` bytes from `o + L` to `o`. -/
theorem flashDelEnv_eq_memcpy {o : Nat} {str : List Byte} (hk : key.bytes ≠ [])
    (hq : strstr key.bytes [eqSign] = none) (hf : findEnv cfg s key = some (some o))
    (hstr : cstr (s.cache.detail.drop o) = some str) (hlen : str.length + 4 < 2 ^ 32)
    (hR : cfg.envParamPartByteSize + o ≤ (detailSize cfg s).toNat) :
    flashDelEnv cfg s key = (memcpyFwd s.cache.detail o (o + align4 (str.length + 1))
        ((detailSize cfg s).toNat - cfg.envParamPartByteSize - o)).map fun detail =>
      ({ s with cache := { s.cache with
        endAddr := s.cache.endAddr - BitVec.ofNat 32 (align4 (str.length + 1)), detail } },
        .noErr) := by
  obtain ⟨h0, -, -⟩ := findEnv_found hf
  have hn : (BitVec.ofNat 32 str.length + 1).toNat = str.length + 1 := by
    have e1 : (1 : BitVec 32).toNat = 1 := rfl
    simp only [BitVec.toNat_add, BitVec.toNat_ofNat, e1]; omega
  have hA : align4 (str.length + 1) < 2 ^ 32 := by unfold align4; split <;> omega
  have hL : (if (BitVec.ofNat 32 str.length + 1) % 4 ≠ 0 then
      ((BitVec.ofNat 32 str.length + 1) / 4 + 1) * 4 else BitVec.ofNat 32 str.length + 1) =
        BitVec.ofNat 32 (align4 (str.length + 1)) := by
    apply BitVec.eq_of_toNat_eq
    rw [align4_toNat (by decide) (by omega), hn, BitVec.toNat_ofNat, Nat.mod_eq_of_lt hA]
  have hRn : (detailSize cfg s - BitVec.ofNat 32 (cfg.envParamPartByteSize + o)).toNat =
      (detailSize cfg s).toNat - cfg.envParamPartByteSize - o := by
    have := cfg.envParamPartByteSize_le
    simp only [BitVec.toNat_sub, BitVec.toNat_ofNat]; omega
  simp only [flashDelEnv, hk, if_false, hq, Option.isSome_none, Bool.false_eq_true,
    Option.bind_eq_bind, hf, Option.some_bind, hstr, getEnvDetailSize_eq h0, hL, hRn,
    BitVec.toNat_ofNat, Nat.mod_eq_of_lt hA]
  cases memcpyFwd s.cache.detail o (o + align4 (str.length + 1))
    ((detailSize cfg s).toNat - cfg.envParamPartByteSize - o) <;> rfl

theorem flashDelEnv_found {o : Nat} {str : List Byte} (hk : key.bytes ≠ [])
    (hq : strstr key.bytes [eqSign] = none) (hf : findEnv cfg s key = some (some o))
    (hstr : cstr (s.cache.detail.drop o) = some str) (hlen : str.length + 4 < 2 ^ 32)
    (hR : cfg.envParamPartByteSize + o ≤ (detailSize cfg s).toNat)
    (hin : o + align4 (str.length + 1) +
      ((detailSize cfg s).toNat - cfg.envParamPartByteSize - o) ≤ s.cache.detail.length) :
    flashDelEnv cfg s key = some ({ s with cache := { s.cache with
      endAddr := s.cache.endAddr - BitVec.ofNat 32 (align4 (str.length + 1))
      detail := s.cache.detail.take o ++ (s.cache.detail.drop (o + align4 (str.length + 1))).take
          ((detailSize cfg s).toNat - cfg.envParamPartByteSize - o) ++
        s.cache.detail.drop (o + ((detailSize cfg s).toNat - cfg.envParamPartByteSize - o)) } },
      .noErr) := by
  rw [flashDelEnv_eq_memcpy hk hq hf hstr hlen hR, memcpyFwd_eq (Nat.le_add_right _ _) hin]
  rfl

end Delete

/-- A store with CRC checking whose detail part holds `k=1` and `xk=2` (12 bytes) at slot
`0x104`. -/
def twoRecordEnv : Env where
  cache :=
    { endAddr := 0x118
      dataCrc := 0
      detail := [0x6B, 0x3D, 0x31, 0, 0x78, 0x6B, 0x3D, 0x32, 0, 0, 0, 0] ++ List.replicate 12 0 }
  curUsingDataAddr := 0x104
  flash := erasedFlash

/-- Deleting `k=1` from `twoRecordEnv` moves `12 - 8 - 0 = 4` bytes, not 8: `flash_get_env("xk")`
returns `2xk=2`. -/
theorem flashDelEnv_short_move :
    (flashDelEnv crcConfig twoRecordEnv keyK).bind (fun p =>
      (flashGetEnv crcConfig p.1 keyXK).map fun v =>
        (p.2, p.1.cache.endAddr, p.1.cache.detail.take 8, v)) =
      some (.noErr, 0x114, [0x78, 0x6B, 0x3D, 0x32, 0x78, 0x6B, 0x3D, 0x32],
        some [0x32, 0x78, 0x6B, 0x3D, 0x32]) := by
  decide

/-! ## Append -/

theorem formatEnvStr_zero (key value : List Byte) : formatEnvStr 0 key value = none := by
  cases key <;> simp [formatEnvStr, storeFrom, setByte]

theorem envStrLength_eq_zero {key value : CStr}
    (h : 65533 ≤ key.bytes.length + value.bytes.length + 2)
    (h' : key.bytes.length + value.bytes.length + 2 ≤ 65535) : envStrLength key value = 0 := by
  have e4 : (4 : BitVec 16).toNat = 4 := rfl
  have e1 : (1 : BitVec 16).toNat = 1 := rfl
  have hn : (BitVec.ofNat 16 (key.bytes.length + value.bytes.length + 2)).toNat =
      key.bytes.length + value.bytes.length + 2 := by
    rw [BitVec.toNat_ofNat]; omega
  have e0 : (0 : BitVec 16).toNat = 0 := rfl
  unfold envStrLength
  rw [if_pos]
  · apply BitVec.eq_of_toNat_eq
    simp only [BitVec.toNat_mul, BitVec.toNat_add, BitVec.toNat_udiv, hn, e4, e1, e0]
    omega
  · intro h4
    have := congrArg BitVec.toNat h4
    simp only [BitVec.toNat_umod, hn, e4, e0] at this
    omega

theorem formatEnvStr_eq {len : Nat} {key value : List Byte} (hl : len < 2 ^ 16)
    (h : key.length + value.length + 1 ≤ len) :
    formatEnvStr len key value =
      some (key ++ eqSign :: value ++ List.replicate (len - key.length - value.length - 1) 0) := by
  have h1 : (BitVec.ofNat 16 key.length + 1).toNat = key.length + 1 := by
    have e1 : (1 : BitVec 16).toNat = 1 := rfl
    simp only [BitVec.toNat_add, BitVec.toNat_ofNat, e1]; omega
  have h0 : (0 : BitVec 16).toNat = 0 := rfl
  have hk : (key ++ [eqSign]).length = key.length + 1 := List.length_append _ _
  simp only [formatEnvStr, Option.bind_eq_bind]
  rw [storeFrom_eq (by rwa [List.length_replicate]) (by rw [h0, List.length_replicate]; omega)]
  simp only [h0, List.take_zero, List.nil_append, Nat.zero_add, List.drop_replicate,
    Option.some_bind]
  rw [setByte_eq _ (by rw [List.length_append, List.length_replicate]; omega)]
  have hset : (key ++ List.replicate (len - key.length) 0).set key.length eqSign =
      (key ++ [eqSign]) ++ List.replicate (len - key.length - 1) 0 := by
    rw [List.set_append_right _ _ (le_refl _), Nat.sub_self,
      show len - key.length = (len - key.length - 1) + 1 by omega, List.replicate_succ,
      List.set_cons_zero, List.append_assoc, List.singleton_append, Nat.add_sub_cancel]
  have hlen : ((key ++ [eqSign]) ++ List.replicate (len - key.length - 1) 0).length = len := by
    rw [List.length_append, hk, List.length_replicate]; omega
  rw [hset, Option.some_bind, storeFrom_eq (by omega) (by omega), h1,
    List.take_append_of_le_length (by omega), ← hk, List.take_length, List.drop_append,
    List.drop_replicate]
  simp only [List.append_assoc, List.singleton_append, List.cons_append, List.nil_append,
    Nat.sub_right_comm _ 1 value.length]

/-- The record `write_env` appends: `key=value`, its NUL, and zeros up to a multiple of four. -/
def envRecord (key value : List Byte) : List Byte :=
  key ++ eqSign :: value ++
    List.replicate (align4 (key.length + value.length + 2) - key.length - value.length - 1) 0

@[simp] theorem envRecord_length (key value : List Byte) :
    (envRecord key value).length = align4 (key.length + value.length + 2) := by
  have := (le_align4 (key.length + value.length + 2)).1
  simp [envRecord]; omega

theorem envStrLength_toNat {key value : CStr}
    (h : key.bytes.length + value.bytes.length + 2 ≤ 65532) :
    (envStrLength key value).toNat = align4 (key.bytes.length + value.bytes.length + 2) := by
  have hn : (BitVec.ofNat 16 (key.bytes.length + value.bytes.length + 2)).toNat =
      key.bytes.length + value.bytes.length + 2 := by
    rw [BitVec.toNat_ofNat]; omega
  simp only [envStrLength]
  rw [align4_toNat (by decide) (by rw [hn]; omega), hn]

theorem envStrLength_setWidth {key value : CStr}
    (h : key.bytes.length + value.bytes.length + 2 ≤ 65532) :
    (envStrLength key value).setWidth 32 =
      BitVec.ofNat 32 (align4 (key.bytes.length + value.bytes.length + 2)) := by
  apply BitVec.eq_of_toNat_eq
  rw [BitVec.toNat_setWidth, envStrLength_toNat h, BitVec.toNat_ofNat]

theorem formatEnvStr_envStrLength {key value : CStr}
    (h : key.bytes.length + value.bytes.length + 2 ≤ 65532) :
    formatEnvStr (envStrLength key value).toNat key.bytes value.bytes =
      some (envRecord key.bytes value.bytes) := by
  have := le_align4 (key.bytes.length + value.bytes.length + 2)
  rw [envStrLength_toNat h, formatEnvStr_eq (by omega) (by omega)]
  rfl

section Append

variable {cfg : Config} {s : Env} {key value : CStr}

/-- Below the wrap and with room, `write_env` appends the padded record at the detail size. -/
theorem writeEnv_appends (h0 : s.curUsingDataAddr ≠ 0) (hT : cfg.envTotalSize ≠ 0)
    (hn : key.bytes.length + value.bytes.length + 2 ≤ 65532)
    (hcap : BitVec.ofNat 32 (align4 (key.bytes.length + value.bytes.length + 2)) +
      detailSize cfg s < cfg.envTotalSize)
    (hfit : (detailSize cfg s).toNat + align4 (key.bytes.length + value.bytes.length + 2) ≤
      s.cache.detail.length) :
    writeEnv cfg s key value = some ({ s with cache := { s.cache with
      endAddr := s.cache.endAddr +
        BitVec.ofNat 32 (align4 (key.bytes.length + value.bytes.length + 2))
      detail := s.cache.detail.take (detailSize cfg s).toNat ++ envRecord key.bytes value.bytes ++
        s.cache.detail.drop
          ((detailSize cfg s).toNat + align4 (key.bytes.length + value.bytes.length + 2)) } },
      .noErr) := by
  simp only [writeEnv, getEnvDetailSize_eq h0, flashGetEnvTotalSize, hT, if_false,
    envStrLength_setWidth hn, Option.bind_eq_bind, Option.some_bind, BitVec.not_le.mpr hcap,
    formatEnvStr_envStrLength hn,
    writeBytes_eq (show _ + (envRecord key.bytes value.bytes).length ≤ _ by simpa using hfit),
    envRecord_length]
  rfl

end Append

theorem writeEnv_appends_crcEnv :
    (writeEnv crcConfig crcEnv keyXK valueTwo).map (fun p => (p.1.cache.endAddr, p.2)) =
      some (crcEnv.cache.endAddr + 8, .noErr) := by
  rw [writeEnv_appends (by decide) (by decide) (by decide) (by decide) (by decide)]
  rfl

section Wrap

variable {cfg : Config} {s : Env} {key value : CStr}

/-- With the length wrapped to 0, the copy of the key runs past a zero-byte buffer. -/
theorem writeEnv_length_wraps (hw : envStrLength key value = 0)
    (h0 : s.curUsingDataAddr ≠ 0) (hT : cfg.envTotalSize ≠ 0)
    (hD : detailSize cfg s < cfg.envTotalSize) : writeEnv cfg s key value = none := by
  have hc : ¬ cfg.envTotalSize ≤ (0 : BitVec 16).setWidth 32 + detailSize cfg s := by
    bv_omega
  simp only [writeEnv, hw, getEnvDetailSize_eq h0, flashGetEnvTotalSize, hT, if_false,
    Option.bind_eq_bind, Option.some_bind, hc]
  exact congrArg (Option.bind · _) (formatEnvStr_zero _ _)

end Wrap

/-- A value of 65531 bytes `b`: with the key `k`, `strlen(key) + strlen(value) + 2` is 65534. -/
def value65531 : CStr :=
  ⟨List.replicate 65531 0x62, fun h => absurd (List.mem_replicate.mp h).2 (by decide)⟩

theorem writeEnv_value65531 : writeEnv crcConfig crcEnv keyK value65531 = none := by
  have hv : value65531.bytes.length = 65531 := List.length_replicate _ _
  exact writeEnv_length_wraps (envStrLength_eq_zero (by rw [hv]; decide) (by rw [hv]; decide))
    (by decide) (by decide) (by decide)

section Capacity

variable {cfg : Config} {s s' : Env} {key value : CStr}

/-- The only capacity test of `write_env`; it leaves out the system section and the parameter part.
-/
theorem writeEnv_noErr (h : writeEnv cfg s key value = some (s', .noErr)) :
    s'.cache.endAddr = s.cache.endAddr + (envStrLength key value).setWidth 32 ∧
      (envStrLength key value).setWidth 32 + detailSize cfg s < cfg.envTotalSize := by
  simp only [writeEnv, Option.bind_eq_bind, Option.bind_eq_some] at h
  obtain ⟨D, hD, T, hT, h⟩ := h
  obtain ⟨rfl, -⟩ := getEnvDetailSize_some hD
  obtain rfl := flashGetEnvTotalSize_some hT
  split at h
  · cases h
  · obtain ⟨str, -, h⟩ := Option.bind_eq_some.mp h
    obtain ⟨detail, -, h⟩ := Option.bind_eq_some.mp h
    cases h
    exact ⟨rfl, BitVec.not_le.mp ‹_›⟩

end Capacity

/-- `crcConfig` in 16-byte erase units: the slot is `0x110`. -/
def wideConfig : Config := { crcConfig with flashEraseMinSize := 16 }

/-- `flash_set_env("xk", "bbb")` passes the test `8 + 4 < 32`: the used size is 36 of 32 bytes. -/
theorem flashSetEnv_used_exceeds_total :
    ((flashEnvInit wideConfig erasedFlash fun _ => 0).bind fun s =>
      (flashSetEnv wideConfig s keyXK (valueB 3)).bind fun p =>
        (flashGetEnvUsedSize wideConfig p.1).map fun u => (p.2, u)) = some (.noErr, 36) := by
  decide

end EasyFlash
