import EasyFlash.Cache

/-!
# Saving: the wear-leveling loop

`flash_save_env` writes the parameter part and the `get_env_detail_size()` detail bytes to the
slot at `cur_using_data_addr`. When the erase or the write there fails it moves the slot, and
the end address with it, by `(size / flash_erase_min_size + 1) * flash_erase_min_size`, and
tries again while `cur_using_data_addr + size < env_start_addr + env_total_size`. After the
loop it records a moved slot in the system section, or the sentinel `0xFFFFFFFF` when no slot
was left (`save_cur_using_data_addr`).
-/

namespace EasyFlash

section Save

variable (cfg : Config)

/-- The parameter part's words as bytes. -/
def paramPartBytes (c : Cache) : List Byte :=
  wordBytes c.endAddr ++ if cfg.usingCrcCheck then wordBytes c.dataCrc else []

/-- The first `n` bytes of the `env_total_size`-byte cache, which `flash_write` reads. -/
def cacheBytes (s : Env) (n : Nat) : Option (List Byte) :=
  readBytes ((paramPartBytes cfg s.cache ++ s.cache.detail).take cfg.envTotalSize.toNat) 0 n

/-- `calc_env_crc`: the CRC32 of the end address word, continued over the detail bytes. -/
def calcEnvCrc (s : Env) : Option (BitVec 32) := do
  let detailSize ← getEnvDetailSize cfg s
  let detail ← readBytes s.cache.detail 0 detailSize.toNat
  pure (cfg.calcCrc32 (cfg.calcCrc32 0 (wordBytes (getEnvDetailEndAddr s))) detail)

/-- `env_crc_is_ok`. -/
def envCrcIsOk (s : Env) : Option Bool := do
  let crc ← calcEnvCrc cfg s
  let stored ← getDataCrc cfg s
  pure (crc = stored)

/-- `save_cur_using_data_addr`: erase the system section's word, then write `curDataAddr`. -/
def saveCurUsingDataAddr (s : Env) (curDataAddr : BitVec 32) : Option (Env × FlashErrCode) := do
  let startAddr ← getEnvStartAddr cfg
  let (flash, result) := flashErase s.flash startAddr 4
  if result = .noErr then
    let (flash, result) := flashWrite flash startAddr (wordBytes curDataAddr)
    pure ({ s with flash }, result)
  else pure ({ s with flash }, result)

/-- `move_offset_addr`. -/
def moveOffsetAddr (detailSize : BitVec 32) : BitVec 32 :=
  (detailSize / cfg.flashEraseMinSize + 1) * cfg.flashEraseMinSize

/-- Moving the slot and the end address on after a failed erase or write. -/
def moveToNext (s : Env) (detailSize : BitVec 32) : Option Env := do
  let cur ← getCurUsingDataAddr s
  let s := setCurUsingDataAddr s (cur + moveOffsetAddr cfg detailSize)
  pure (setEnvDetailEndAddr s (getEnvDetailEndAddr s + moveOffsetAddr cfg detailSize))

/-- The loop's first statement under `FLASH_ENV_USING_CRC_CHECK`:
`env_cache[ENV_PARAM_PART_INDEX_DATA_CRC] = calc_env_crc()`. -/
def cacheEnvCrc (s : Env) : Option Env :=
  if cfg.usingCrcCheck then do setDataCrc cfg s (← calcEnvCrc cfg s) else pure s

/-- The body of the loop of `flash_save_env` at the current slot: cache the CRC, erase the
section's bytes, and write them from the cache when the erase succeeded. The device answers an
erase with `FLASH_NO_ERR` or `FLASH_ERASE_ERR` and a write with `FLASH_NO_ERR` or
`FLASH_WRITE_ERR`. -/
def saveAttempt (detailSize : BitVec 32) (s : Env) : Option (Env × FlashErrCode) := do
  let s ← cacheEnvCrc cfg s
  let cur ← getCurUsingDataAddr s
  let size := BitVec.ofNat 32 cfg.envParamPartByteSize + detailSize
  let (flash, result) := flashErase s.flash cur size
  if result = .eraseErr then pure ({ s with flash }, result)
  else do
    let data ← cacheBytes cfg { s with flash } size.toNat
    let (flash, result) := flashWrite flash cur data
    pure ({ s with flash }, result)

/-- The loop of `flash_save_env`, carrying `result`: a failed attempt moves the slot on and
continues, a successful one breaks out. The fuel counts attempts: a failed attempt takes an
answer off the device's queue, and with the queue empty an attempt succeeds, so the fuel
`flashSaveEnv` gives is never used up. -/
def saveLoop (detailSize : BitVec 32) : Nat → FlashErrCode → Env → Option (Env × FlashErrCode)
  | 0, _, _ => none
  | fuel + 1, result, s => do
    let cur ← getCurUsingDataAddr s
    if cur + detailSize < (← getEnvStartAddr cfg) + (← flashGetEnvTotalSize cfg) then do
      let (s, result) ← saveAttempt cfg detailSize s
      if result = .noErr then pure (s, result)
      else saveLoop detailSize fuel result (← moveToNext cfg s detailSize)
    else pure (s, result)

/-- `flash_save_env`. -/
def flashSaveEnv (s : Env) : Option (Env × FlashErrCode) := do
  let curDataAddrBak ← getCurUsingDataAddr s
  let envDetailSize ← getEnvDetailSize cfg s
  let (s, result) ← saveLoop cfg envDetailSize (s.flash.pending.length + 1) .noErr s
  let cur ← getCurUsingDataAddr s
  let startAddr ← getEnvStartAddr cfg
  let totalSize ← flashGetEnvTotalSize cfg
  if cur + envDetailSize < startAddr + totalSize then
    if cur ≠ curDataAddrBak then do
      let (s, _) ← saveCurUsingDataAddr cfg s cur
      pure (s, result)
    else pure (s, result)
  else do
    let (s, _) ← saveCurUsingDataAddr cfg s 0xFFFFFFFF
    pure (s, .envFull)

end Save

end EasyFlash
