import EasyFlash.State

/-!
# The record store in the RAM cache

`find_env`, `write_env`, `create_env`, `flash_del_env`, `flash_set_env` and `flash_get_env`
work on the cache alone; only `flash_save_env` writes the flash. A record is `key=value`
and a NUL, zero-padded to a multiple of four bytes. Offsets here are into the detail part:
the C pointer `(char *) env_cache + ENV_PARAM_PART_BYTE_SIZE + o` is offset `o`.
-/

namespace EasyFlash

section Store

variable (cfg : Config)

/-- `env_str_length` of `write_env`: `strlen(key) + strlen(value) + 2` rounded up to a
multiple of four, in a `uint16_t`. -/
def envStrLength (key value : CStr) : BitVec 16 :=
  let n : BitVec 16 := BitVec.ofNat 16 (key.bytes.length + value.bytes.length + 2)
  if n % 4 ≠ 0 then (n / 4 + 1) * 4 else n

/-- The heap buffer `env_str` of `write_env` after its copy loops: `len` zero bytes holding
`key`, `'='` and `value` from the front. The loops count in `uint16_t`; the buffer has at most
65532 bytes, so the first write past it comes before a counter wraps, and the loops run over
the strings' bytes. -/
def formatEnvStr (len : Nat) (key value : List Byte) : Option (List Byte) := do
  let envStr ← storeFrom (List.replicate len 0) 0 key
  let envStr ← setByte envStr key.length eqSign
  storeFrom envStr (BitVec.ofNat 16 key.length + 1) value

/-- `write_env`: append `key=value` at the end of the detail part. -/
def writeEnv (s : Env) (key value : CStr) : Option (Env × FlashErrCode) := do
  let envStrLength := envStrLength key value
  let detailSize ← getEnvDetailSize cfg s
  let totalSize ← flashGetEnvTotalSize cfg
  if totalSize ≤ envStrLength.setWidth 32 + detailSize then pure (s, .envFull) else do
    let envStr ← formatEnvStr envStrLength.toNat key.bytes value.bytes
    let detail ← writeBytes s.cache.detail detailSize.toNat envStr
    let s := { s with cache := { s.cache with detail } }
    pure (setEnvDetailEndAddr s (getEnvDetailEndAddr s + envStrLength.setWidth 32), .noErr)

/-- The loop of `find_env` from detail offset `env` while `env < envEnd`: it takes the string
at `env` and stops there when the first occurrence of `key` in it is followed by `'='`, and
otherwise moves past the string's NUL. Each step moves at least one byte, so `envEnd - env`
steps of fuel reach the end. -/
def findEnvFrom (detail key : List Byte) (envEnd : Nat) : Nat → Nat → Option (Option Nat)
  | 0, _ => some none
  | fuel + 1, env =>
    if env < envEnd then do
      let str ← cstr (detail.drop env)
      match strstr str key with
      | some i =>
        if detail[env + i + key.length]? = some eqSign then some (some env)
        else findEnvFrom detail key envEnd fuel (env + str.length + 1)
      | none => findEnvFrom detail key envEnd fuel (env + str.length + 1)
    else some none

/-- `find_env`: the detail offset of the record found for `key`, `none` for `NULL`. -/
def findEnv (s : Env) (key : CStr) : Option (Option Nat) := do
  let _ ← getCurUsingDataAddr s
  if key.bytes = [] then pure none else do
    let detailSize ← getEnvDetailSize cfg s
    if detailSize = 0 then pure none
    else findEnvFrom s.cache.detail key.bytes detailSize.toNat detailSize.toNat 0

/-- `create_env`. -/
def createEnv (s : Env) (key value : CStr) : Option (Env × FlashErrCode) :=
  if key.bytes = [] then some (s, .envNameErr)
  else if (strstr key.bytes [eqSign]).isSome then some (s, .envNameErr)
  else do
    match ← findEnv cfg s key with
    | some _ => pure (s, .envNameExist)
    | none => writeEnv cfg s key value

/-- `flash_del_env`: remove the record found for `key` by moving the bytes after it forward. -/
def flashDelEnv (s : Env) (key : CStr) : Option (Env × FlashErrCode) :=
  if key.bytes = [] then some (s, .envNameErr)
  else if (strstr key.bytes [eqSign]).isSome then some (s, .envNameErr)
  else do
    match ← findEnv cfg s key with
    | none => pure (s, .envNameErr)
    | some delEnvStr => do
      let str ← cstr (s.cache.detail.drop delEnvStr)
      let len : BitVec 32 := BitVec.ofNat 32 str.length + 1
      let delEnvLength := if len % 4 ≠ 0 then (len / 4 + 1) * 4 else len
      let detailSize ← getEnvDetailSize cfg s
      let remainEnvLength :=
        detailSize - BitVec.ofNat 32 (cfg.envParamPartByteSize + delEnvStr)
      let detail ← memcpyFwd s.cache.detail delEnvStr (delEnvStr + delEnvLength.toNat)
        remainEnvLength.toNat
      let s := { s with cache := { s.cache with detail } }
      pure (setEnvDetailEndAddr s (getEnvDetailEndAddr s - delEnvLength), .noErr)

/-- `flash_set_env`: delete on an empty value, otherwise delete any record found and create. -/
def flashSetEnv (s : Env) (key value : CStr) : Option (Env × FlashErrCode) :=
  if value.bytes = [] then flashDelEnv cfg s key
  else do
    let (s, result) ← do
      match ← findEnv cfg s key with
      | some _ => flashDelEnv cfg s key
      | none => pure (s, FlashErrCode.noErr)
    if result = .noErr then createEnv cfg s key value else pure (s, result)

/-- `flash_get_env`: the string the returned pointer points at, `none` for `NULL`. -/
def flashGetEnv (s : Env) (key : CStr) : Option (Option (List Byte)) := do
  match ← findEnv cfg s key with
  | none => pure none
  | some envCacheAddr => do
    let str ← cstr (s.cache.detail.drop envCacheAddr)
    pure ((strstr str [eqSign]).map fun i => str.drop (i + 1))

end Store

end EasyFlash
