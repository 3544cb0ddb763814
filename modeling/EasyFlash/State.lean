import EasyFlash.Device

/-!
# The module's state and the layout calculator

`flash_env_init` fixes the configuration once (`Config`). The rest of the module's state is
the RAM cache `env_cache` and `cur_using_data_addr`, with the device beside them (`Env`).

The cache is `env_total_size` bytes. Its first words are the parameter part: word 0 the end
address of the detail part, word 1 (with CRC checking) the CRC32 of the section. The rest is
the detail part, `Cache.detail`. No access in the file crosses between the two, so the words
are kept as words, and an access past the end of `detail` is one past the end of the cache.

`uint32_t` and the 32-bit target's `size_t` are `BitVec 32`. `FLASH_ASSERT` stops the
program: a getter that asserts returns `none` when its check fails.
-/

namespace EasyFlash

/-- The configuration `flash_env_init` stores, and the build's CRC option. -/
structure Config where
  envStartAddr : BitVec 32
  envTotalSize : BitVec 32
  flashEraseMinSize : BitVec 32
  /-- `default_env_set`; its length is `default_env_set_size`. -/
  defaultEnvSet : List (CStr × CStr)
  /-- `FLASH_ENV_USING_CRC_CHECK`. -/
  usingCrcCheck : Bool
  /-- The port's `calc_crc32(crc, buf, size)`. -/
  calcCrc32 : BitVec 32 → List Byte → BitVec 32

namespace Config

variable (cfg : Config)

/-- `ENV_PARAM_PART_WORD_SIZE`. -/
def envParamPartWordSize : Nat := if cfg.usingCrcCheck then 2 else 1

/-- `ENV_PARAM_PART_BYTE_SIZE`. -/
def envParamPartByteSize : Nat := cfg.envParamPartWordSize * 4

/-- The asserts of `flash_env_init` on its arguments. -/
def Accepted : Prop :=
  cfg.envStartAddr ≠ 0 ∧ cfg.envTotalSize ≠ 0 ∧ cfg.flashEraseMinSize ≠ 0 ∧
    cfg.defaultEnvSet.length < cfg.envTotalSize.toNat ∧ cfg.envTotalSize.toNat % 4 = 0

instance : Decidable cfg.Accepted := inferInstanceAs (Decidable (_ ∧ _))

/-- The bytes of the cache after the parameter part. -/
def detailCapacity : Nat := cfg.envTotalSize.toNat - cfg.envParamPartByteSize

theorem envParamPartByteSize_le : cfg.envParamPartByteSize ≤ 8 := by
  unfold envParamPartByteSize envParamPartWordSize; split <;> omega

theorem four_le_envParamPartByteSize : 4 ≤ cfg.envParamPartByteSize := by
  unfold envParamPartByteSize envParamPartWordSize; split <;> omega

theorem sectionSize_toNat {D : BitVec 32}
    (hn : cfg.envParamPartByteSize + D.toNat ≤ cfg.envTotalSize.toNat) :
    (BitVec.ofNat 32 cfg.envParamPartByteSize + D).toNat = cfg.envParamPartByteSize + D.toNat := by
  have := cfg.envTotalSize.isLt
  have hP : (BitVec.ofNat 32 cfg.envParamPartByteSize).toNat = cfg.envParamPartByteSize := by
    rw [BitVec.toNat_ofNat, Nat.mod_eq_of_lt (by omega)]
  rw [BitVec.toNat_add_of_lt (by omega), hP]

end Config

/-- `env_cache`. -/
structure Cache where
  /-- Word `ENV_PARAM_PART_INDEX_END_ADDR`. -/
  endAddr : BitVec 32
  /-- Word `ENV_PARAM_PART_INDEX_DATA_CRC`, there with CRC checking. -/
  dataCrc : BitVec 32
  detail : List Byte

/-- The module's variables after `flash_env_init`, and the device. -/
structure Env where
  cache : Cache
  curUsingDataAddr : BitVec 32
  flash : Flash

section Layout

variable (cfg : Config)

/-- `get_env_start_addr`. -/
def getEnvStartAddr : Option (BitVec 32) :=
  if cfg.envStartAddr = 0 then none else some cfg.envStartAddr

/-- `get_cur_using_data_addr`. -/
def getCurUsingDataAddr (s : Env) : Option (BitVec 32) :=
  if s.curUsingDataAddr = 0 then none else some s.curUsingDataAddr

/-- `set_cur_using_data_addr`. -/
def setCurUsingDataAddr (s : Env) (usingDataAddr : BitVec 32) : Env :=
  { s with curUsingDataAddr := usingDataAddr }

/-- `get_env_detail_addr`. -/
def getEnvDetailAddr (s : Env) : Option (BitVec 32) :=
  if s.curUsingDataAddr = 0 then none
  else some (s.curUsingDataAddr + BitVec.ofNat 32 cfg.envParamPartByteSize)

/-- `get_env_detail_end_addr`. -/
def getEnvDetailEndAddr (s : Env) : BitVec 32 := s.cache.endAddr

/-- `set_env_detail_end_addr`. -/
def setEnvDetailEndAddr (s : Env) (endAddr : BitVec 32) : Env :=
  { s with cache := { s.cache with endAddr } }

/-- `get_env_detail_size`. -/
def getEnvDetailSize (s : Env) : Option (BitVec 32) :=
  (getEnvDetailAddr cfg s).map (getEnvDetailEndAddr s - ·)

/-- `flash_get_env_total_size`. -/
def flashGetEnvTotalSize : Option (BitVec 32) :=
  if cfg.envTotalSize = 0 then none else some cfg.envTotalSize

/-- `flash_get_env_used_size`. -/
def flashGetEnvUsedSize (s : Env) : Option (BitVec 32) :=
  (getEnvStartAddr cfg).map (getEnvDetailEndAddr s - ·)

/-- Reading `env_cache[ENV_PARAM_PART_INDEX_DATA_CRC]`: the cache has a second word only when
`env_total_size` is at least 8. -/
def getDataCrc (s : Env) : Option (BitVec 32) :=
  if 8 ≤ cfg.envTotalSize.toNat then some s.cache.dataCrc else none

/-- Writing `env_cache[ENV_PARAM_PART_INDEX_DATA_CRC]`. -/
def setDataCrc (s : Env) (crc : BitVec 32) : Option Env :=
  if 8 ≤ cfg.envTotalSize.toNat then some { s with cache := { s.cache with dataCrc := crc } }
  else none

/-- The detail size `get_env_detail_size` computes once `cur_using_data_addr` is set. -/
def detailSize (s : Env) : BitVec 32 :=
  s.cache.endAddr - (s.curUsingDataAddr + BitVec.ofNat 32 cfg.envParamPartByteSize)

end Layout

/-! ## Getter and setter laws -/

section Laws

variable {cfg : Config} {s : Env}

theorem getEnvStartAddr_some {c : BitVec 32} (h : getEnvStartAddr cfg = some c) :
    c = cfg.envStartAddr ∧ cfg.envStartAddr ≠ 0 := by
  unfold getEnvStartAddr at h
  split at h
  · cases h
  · cases h; exact ⟨rfl, ‹_›⟩

theorem flashGetEnvTotalSize_some {c : BitVec 32} (h : flashGetEnvTotalSize cfg = some c) :
    c = cfg.envTotalSize := by
  unfold flashGetEnvTotalSize at h; split at h <;> cases h; rfl

theorem getCurUsingDataAddr_some {c : BitVec 32} (h : getCurUsingDataAddr s = some c) :
    c = s.curUsingDataAddr ∧ s.curUsingDataAddr ≠ 0 := by
  unfold getCurUsingDataAddr at h
  split at h
  · cases h
  · cases h; exact ⟨rfl, ‹_›⟩

theorem getCurUsingDataAddr_eq (h : s.curUsingDataAddr ≠ 0) :
    getCurUsingDataAddr s = some s.curUsingDataAddr := if_neg h

theorem getEnvDetailAddr_eq (h : s.curUsingDataAddr ≠ 0) :
    getEnvDetailAddr cfg s = some (s.curUsingDataAddr + BitVec.ofNat 32 cfg.envParamPartByteSize) :=
  if_neg h

theorem getEnvDetailSize_eq (h : s.curUsingDataAddr ≠ 0) :
    getEnvDetailSize cfg s = some (detailSize cfg s) := by
  simp [getEnvDetailSize, getEnvDetailAddr_eq h, detailSize, getEnvDetailEndAddr]

theorem getEnvDetailSize_some {d : BitVec 32} (h : getEnvDetailSize cfg s = some d) :
    d = detailSize cfg s ∧ s.curUsingDataAddr ≠ 0 := by
  by_cases h0 : s.curUsingDataAddr = 0
  · simp [getEnvDetailSize, getEnvDetailAddr, h0] at h
  · rw [getEnvDetailSize_eq h0] at h
    exact ⟨(Option.some.inj h).symm, h0⟩

theorem endAddr_sub_curUsingDataAddr (s : Env) :
    s.cache.endAddr - s.curUsingDataAddr =
      BitVec.ofNat 32 cfg.envParamPartByteSize + detailSize cfg s := by
  rw [detailSize, sub_add_eq_sub_sub, add_sub_cancel]

theorem endAddr_toNat (h : s.curUsingDataAddr.toNat + cfg.envParamPartByteSize +
      (detailSize cfg s).toNat < 2 ^ 32) :
    s.cache.endAddr.toNat =
      s.curUsingDataAddr.toNat + cfg.envParamPartByteSize + (detailSize cfg s).toNat := by
  have hP : (BitVec.ofNat 32 cfg.envParamPartByteSize).toNat = cfg.envParamPartByteSize :=
    Nat.mod_eq_of_lt (by omega)
  have hPD : (BitVec.ofNat 32 cfg.envParamPartByteSize + detailSize cfg s).toNat =
      cfg.envParamPartByteSize + (detailSize cfg s).toNat := by
    rw [BitVec.toNat_add_of_lt (by omega), hP]
  rw [← sub_add_cancel s.cache.endAddr s.curUsingDataAddr, @endAddr_sub_curUsingDataAddr cfg,
    BitVec.toNat_add_of_lt (by omega), hPD]
  omega

@[simp] theorem setCurUsingDataAddr_cache (a : BitVec 32) :
    (setCurUsingDataAddr s a).cache = s.cache := rfl

@[simp] theorem setCurUsingDataAddr_flash (a : BitVec 32) :
    (setCurUsingDataAddr s a).flash = s.flash := rfl

@[simp] theorem setCurUsingDataAddr_curUsingDataAddr (a : BitVec 32) :
    (setCurUsingDataAddr s a).curUsingDataAddr = a := rfl

@[simp] theorem setEnvDetailEndAddr_cache (a : BitVec 32) :
    (setEnvDetailEndAddr s a).cache = { s.cache with endAddr := a } := rfl

@[simp] theorem setEnvDetailEndAddr_flash (a : BitVec 32) :
    (setEnvDetailEndAddr s a).flash = s.flash := rfl

@[simp] theorem setEnvDetailEndAddr_curUsingDataAddr (a : BitVec 32) :
    (setEnvDetailEndAddr s a).curUsingDataAddr = s.curUsingDataAddr := rfl

@[simp] theorem getEnvDetailEndAddr_eq : getEnvDetailEndAddr s = s.cache.endAddr := rfl

end Laws

end EasyFlash
