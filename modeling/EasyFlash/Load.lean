import EasyFlash.Save

/-!
# Loading, defaults and initialisation

`flash_load_env` reads the system section's word. A sentinel or a word past the store starts
the first slot and installs the defaults (`flash_env_set_default`: an empty detail part, a
`create_env` for each default, a save). Otherwise the word is the slot; an end address past
the store installs the defaults, and any other is taken with the detail bytes it bounds, then,
with CRC checking, the stored CRC, which must match the bytes read.
-/

namespace EasyFlash

section Load

variable (cfg : Config)

/-- The `create_env` calls of `flash_env_set_default`, whose results it ignores. -/
def createEnvs (s : Env) : List (CStr × CStr) → Option Env
  | [] => some s
  | (key, value) :: rest => do
    let (s, _) ← createEnv cfg s key value
    createEnvs s rest

/-- `flash_env_set_default`. -/
def flashEnvSetDefault (s : Env) : Option (Env × FlashErrCode) :=
  if cfg.defaultEnvSet.length = 0 then none
  else do
    let s := setEnvDetailEndAddr s (← getEnvDetailAddr cfg s)
    let s ← createEnvs cfg s cfg.defaultEnvSet
    let (s, _) ← flashSaveEnv cfg s
    pure (s, .noErr)

/-- `flash_read` of `n` bytes from `addr` into the detail part of the cache. -/
def readToDetail (s : Env) (addr : BitVec 32) (n : Nat) : Option Env :=
  if n ≤ s.cache.detail.length then
    some { s with cache := { s.cache with
      detail := flashRead s.flash.mem addr n ++ s.cache.detail.drop n } }
  else none

/-- `flash_load_env`. -/
def flashLoadEnv (s : Env) : Option Env := do
  let usingDataAddr := readWord s.flash.mem (← getEnvStartAddr cfg)
  if usingDataAddr = 0xFFFFFFFF ∨ cfg.envStartAddr + cfg.envTotalSize < usingDataAddr then do
    let s := setCurUsingDataAddr s ((← getEnvStartAddr cfg) + cfg.flashEraseMinSize)
    let (s, _) ← saveCurUsingDataAddr cfg s (← getCurUsingDataAddr s)
    let (s, _) ← flashEnvSetDefault cfg s
    pure s
  else do
    let s := setCurUsingDataAddr s usingDataAddr
    let envEndAddr := readWord s.flash.mem ((← getCurUsingDataAddr s) + 0 * 4)
    if cfg.envStartAddr + cfg.envTotalSize < envEndAddr then do
      let (s, _) ← flashEnvSetDefault cfg s
      pure s
    else do
      let s := setEnvDetailEndAddr s envEndAddr
      let s ← readToDetail s (← getEnvDetailAddr cfg s) (← getEnvDetailSize cfg s).toNat
      if cfg.usingCrcCheck then do
        let s ← setDataCrc cfg s (readWord s.flash.mem ((← getCurUsingDataAddr s) + 1 * 4))
        if ← envCrcIsOk cfg s then pure s
        else do
          let (s, _) ← flashEnvSetDefault cfg s
          pure s
      else pure s

/-- The cache `flash_malloc` returns: `env_total_size` bytes holding `heap`. -/
def allocCache (heap : Nat → Byte) : Cache where
  endAddr := wordOf ((List.range 4).map heap)
  dataCrc := wordOf ((List.range 4).map fun i => heap (4 + i))
  detail := (List.range cfg.detailCapacity).map fun i => heap (cfg.envParamPartByteSize + i)

/-- `flash_env_init` on the device `flash`, the new cache holding `heap`. -/
def flashEnvInit (flash : Flash) (heap : Nat → Byte) : Option Env :=
  if cfg.Accepted then
    flashLoadEnv cfg { cache := allocCache cfg heap, curUsingDataAddr := 0, flash }
  else none

end Load

/-! ## Small stores -/

/-- An erased device that answers every call with success. -/
def erasedFlash : Flash := { mem := fun _ => 0xFF, pending := [], log := [] }

/-- The key `k`. -/
def keyK : CStr := ⟨[0x6B], by decide⟩

/-- The key `xk`, which ends with `k`. -/
def keyXK : CStr := ⟨[0x78, 0x6B], by decide⟩

/-- The value `1`. -/
def valueOne : CStr := ⟨[0x31], by decide⟩

/-- The value `2`. -/
def valueTwo : CStr := ⟨[0x32], by decide⟩

/-- A value of `n` bytes `b`. -/
def valueB (n : Nat) : CStr :=
  ⟨List.replicate n 0x62, fun h => absurd (List.mem_replicate.mp h).2 (by decide)⟩

/-- Thirty-two bytes at `0x100` in 4-byte erase units, with CRC checking, the default `k=1`; the
CRC is a stand-in, a sum of the bytes. -/
def crcConfig : Config where
  envStartAddr := 0x100
  envTotalSize := 32
  flashEraseMinSize := 4
  defaultEnvSet := [(keyK, valueOne)]
  usingCrcCheck := true
  calcCrc32 := fun crc bs => bs.foldl (fun c b => c + b.setWidth 32) crc

/-- The state `flash_env_init` leaves on the erased device with `crcConfig`: the slot `0x104`,
the record `k=1`. -/
def crcEnv : Env :=
  (flashEnvInit crcConfig erasedFlash fun _ => 0).getD
    ⟨allocCache crcConfig fun _ => 0, 0, erasedFlash⟩

/-- `crcConfig` with the default `k=bbbbb`, a record of eight bytes, as long as the parameter
part. -/
def crc8Config : Config := { crcConfig with defaultEnvSet := [(keyK, valueB 5)] }

/-- The state `flash_env_init` leaves on the erased device with `crc8Config`: the slot `0x104`,
the end address `0x114`, the record `k=bbbbb` in the cache and on the flash. -/
def crc8Env : Env :=
  (flashEnvInit crc8Config erasedFlash fun _ => 0).getD
    ⟨allocCache crc8Config fun _ => 0, 0, erasedFlash⟩

end EasyFlash
