import EasyFlash.PowerCycle
import EasyFlash.Passes

/-!
# Start-up after a damaged or lost save

`flash_load_env` takes a section only when the system section names a slot in the store, the
slot's end word is in the store and, with CRC checking, the CRC word matches; otherwise it
installs the defaults with `flash_env_set_default`.

- On a device whose system section names no slot, start-up writes the first slot and puts the
  defaults in the cache and on the flash (`flashEnvInit_unset`).
- A section whose CRC word does not match is never taken: start-up installs the defaults
  (`flashEnvInit_crc_mismatch`).
- The save erases the live section in place before it writes it. A power cut right after that
  erase leaves an erased end word, and the next start-up installs the defaults: the records
  the flash held are lost (`flashEnvInit_after_erase`).
-/

namespace EasyFlash

/-! ## Start-up that installs the defaults -/

section Defaults

variable {cfg : Config} {f : Flash} {s : Env} {heap : Nat → Byte}

/-- Start-up on a device whose system section names no slot installs the defaults at the first slot.
-/
theorem flashEnvInit_unset (hlt : cfg.envStartAddr.toNat + cfg.envTotalSize.toNat < 2 ^ 32)
    (hu : usingDataAddr cfg f = 0xFFFFFFFF ∨
      cfg.envStartAddr + cfg.envTotalSize < usingDataAddr cfg f)
    (hc : Creates cfg [] cfg.defaultEnvSet) (h : flashEnvInit cfg f heap = some s)
    (hp : Placed cfg s) : Sys cfg s ⟨cfg.defaultEnvSet, cfg.defaultEnvSet⟩ := by
  have hacc := flashEnvInit_accepted h
  rw [flashEnvInit, if_pos hacc] at h
  obtain ⟨u, hcache, -, r, hset⟩ := flashLoadEnv_unset hacc.1 h hu
  have hcap : u.cache.detail.length = cfg.detailCapacity := by simp [hcache, allocCache]
  obtain ⟨h1, h2⟩ := flashEnvSetDefault_sys hlt hcap hc hset hp
  exact ⟨h1, h2⟩

/-- `crcConfig` on an erased device: start-up installs `k=1` in the cache and on the flash. -/
theorem flashEnvInit_unset_erasedFlash :
    ∃ s, flashEnvInit crcConfig erasedFlash (fun _ => 0) = some s ∧
      Sys crcConfig s ⟨crcConfig.defaultEnvSet, crcConfig.defaultEnvSet⟩ :=
  have h := Option.eq_some_of_isSome
    (by decide : (flashEnvInit crcConfig erasedFlash fun _ => 0).isSome)
  ⟨_, h, flashEnvInit_unset (by decide) (.inl (by decide)) (by decide) h (by decide)⟩

theorem flashLoadEnv_crc_mismatch {t : Env} {p e : BitVec 32} (hs : cfg.envStartAddr ≠ 0)
    (hp : readWord t.flash.mem cfg.envStartAddr = p) (hp0 : p ≠ 0) (hpF : p ≠ 0xFFFFFFFF)
    (hpB : ¬ cfg.envStartAddr + cfg.envTotalSize < p) (he : readWord t.flash.mem p = e)
    (heB : ¬ cfg.envStartAddr + cfg.envTotalSize < e)
    (hD : (e - (p + BitVec.ofNat 32 cfg.envParamPartByteSize)).toNat ≤ t.cache.detail.length)
    (hc : cfg.usingCrcCheck) (h8 : 8 ≤ cfg.envTotalSize.toNat)
    (hbad : cfg.calcCrc32 (cfg.calcCrc32 0 (wordBytes e))
      (flashRead t.flash.mem (p + BitVec.ofNat 32 cfg.envParamPartByteSize)
        (e - (p + BitVec.ofNat 32 cfg.envParamPartByteSize)).toNat) ≠
      readWord t.flash.mem (p + 4)) :
    flashLoadEnv cfg t = (flashEnvSetDefault cfg (loaded cfg t p e)).map Prod.fst := by
  have hg : getEnvStartAddr cfg = some cfg.envStartAddr := if_neg hs
  have hcur : getCurUsingDataAddr (setCurUsingDataAddr t p) = some p := if_neg hp0
  have hd : getEnvDetailAddr cfg (setEnvDetailEndAddr (setCurUsingDataAddr t p) e) =
      some (p + BitVec.ofNat 32 cfg.envParamPartByteSize) := if_neg hp0
  have hok := @envCrcIsOk_loaded cfg t p e hp0 hc h8
  rw [decide_eq_false hbad] at hok
  rw [flashLoadEnv, hg, Option.bind_eq_bind, Option.some_bind]
  dsimp only
  rw [hp, if_neg (not_or.mpr ⟨hpF, hpB⟩), Option.bind_eq_bind, hcur, Option.some_bind, zero_mul,
    add_zero, setCurUsingDataAddr_flash, he, if_neg heB]
  simp only [Option.bind_eq_bind, hd, Option.some_bind, getEnvDetailSize, Option.map_some',
    readToDetail, getEnvDetailEndAddr_eq, setEnvDetailEndAddr_cache, setCurUsingDataAddr_cache,
    setEnvDetailEndAddr_flash, setCurUsingDataAddr_flash, setEnvDetailEndAddr_curUsingDataAddr,
    setCurUsingDataAddr_curUsingDataAddr, hD, if_true, hc, getCurUsingDataAddr, hp0, if_false,
    setDataCrc, h8, one_mul]
  simp only [loaded, hc, if_true] at hok ⊢
  rw [hok]
  exact Option.map_eq_bind.symm

/-- With CRC checking, start-up installs the defaults over a section whose CRC word does not match.
-/
theorem flashEnvInit_crc_mismatch (hlt : cfg.envStartAddr.toNat + cfg.envTotalSize.toNat < 2 ^ 32)
    (hc : cfg.usingCrcCheck) (h8 : 8 ≤ cfg.envTotalSize.toNat) (hp0 : usingDataAddr cfg f ≠ 0)
    (hpF : usingDataAddr cfg f ≠ 0xFFFFFFFF)
    (hpB : ¬ cfg.envStartAddr + cfg.envTotalSize < usingDataAddr cfg f)
    (heB : ¬ cfg.envStartAddr + cfg.envTotalSize < envEndAddr cfg f)
    (hD : (imageDetail cfg f).length ≤ cfg.detailCapacity)
    (hbad : cfg.calcCrc32 (cfg.calcCrc32 0 (wordBytes (envEndAddr cfg f))) (imageDetail cfg f) ≠
      readWord f.mem (usingDataAddr cfg f + 4))
    (hcr : Creates cfg [] cfg.defaultEnvSet) (h : flashEnvInit cfg f heap = some s)
    (hp : Placed cfg s) : Sys cfg s ⟨cfg.defaultEnvSet, cfg.defaultEnvSet⟩ := by
  have hacc := flashEnvInit_accepted h
  rw [imageDetail, flashRead_length] at hD
  have hcap : (loaded cfg ⟨allocCache cfg heap, 0, f⟩ (usingDataAddr cfg f)
      (envEndAddr cfg f)).cache.detail.length = cfg.detailCapacity := by
    simp only [loaded, List.length_append, flashRead_length, List.length_drop, allocCache,
      List.length_map, List.length_range]
    omega
  rw [flashEnvInit, if_pos hacc, @flashLoadEnv_crc_mismatch cfg ⟨allocCache cfg heap, 0, f⟩
    (usingDataAddr cfg f) (envEndAddr cfg f) hacc.1 rfl hp0 hpF hpB rfl heB
    (by simpa [allocCache] using hD) hc h8 hbad] at h
  obtain ⟨⟨t, r⟩, hset, rfl⟩ := Option.map_eq_some'.mp h
  obtain ⟨h1, h2⟩ := flashEnvSetDefault_sys hlt hcap hcr hset hp
  exact ⟨h1, h2⟩

/-- A device image for `crcConfig`: the slot word at `0x100` points at `0x104`, whose end word
is `0x110` and whose detail part from `0x10C` holds `k=2`, under a CRC word `0` that does not
match. -/
def badCrcImage : Flash where
  mem a := if a.toNat < 0x100 then 0xFF else
    ([0x04, 0x01, 0, 0, 0x10, 0x01, 0, 0, 0, 0, 0, 0, 0x6B, 0x3D, 0x32, 0] : List Byte).getD
      (a.toNat - 0x100) 0xFF
  pending := []
  log := []

theorem flashEnvInit_crc_mismatch_badCrcImage :
    ∃ s, flashEnvInit crcConfig badCrcImage (fun _ => 0) = some s ∧
      Sys crcConfig s ⟨crcConfig.defaultEnvSet, crcConfig.defaultEnvSet⟩ :=
  have h := Option.eq_some_of_isSome
    (by decide : (flashEnvInit crcConfig badCrcImage fun _ => 0).isSome)
  ⟨_, h, flashEnvInit_crc_mismatch (by decide) rfl (by decide) (by decide) (by decide) (by decide)
    (by decide) (by decide) (by decide) (by decide) h (by decide)⟩

end Defaults

/-! ## A power cut during a save -/

section PowerCut

variable {cfg : Config} {s t : Env}

theorem flashLoadEnv_end_past {p : BitVec 32} (hs : cfg.envStartAddr ≠ 0)
    (hp : readWord t.flash.mem cfg.envStartAddr = p) (hp0 : p ≠ 0) (hpF : p ≠ 0xFFFFFFFF)
    (hpB : ¬ cfg.envStartAddr + cfg.envTotalSize < p)
    (he : cfg.envStartAddr + cfg.envTotalSize < readWord t.flash.mem p) :
    flashLoadEnv cfg t = (flashEnvSetDefault cfg (setCurUsingDataAddr t p)).map Prod.fst := by
  have hg : getEnvStartAddr cfg = some cfg.envStartAddr := if_neg hs
  have hcur : getCurUsingDataAddr (setCurUsingDataAddr t p) = some p := if_neg hp0
  rw [flashLoadEnv, hg, Option.bind_eq_bind, Option.some_bind]
  dsimp only
  rw [hp, if_neg (not_or.mpr ⟨hpF, hpB⟩), Option.bind_eq_bind, hcur, Option.some_bind, zero_mul,
    add_zero, setCurUsingDataAddr_flash, if_pos he]
  exact Option.map_eq_bind.symm

/-! ### The device calls of a save -/

theorem saveAttempt_log {D : BitVec 32} {r : FlashErrCode} (h : saveAttempt cfg D s = some (t, r)) :
    (flashErase s.flash s.curUsingDataAddr (BitVec.ofNat 32 cfg.envParamPartByteSize + D)).1.log <+:
      t.flash.log := by
  simp only [saveAttempt, Option.bind_eq_bind, Option.bind_eq_some] at h
  obtain ⟨s1, h1, cur, hcur, h⟩ := h
  rw [(cacheEnvCrc_eq h1).1] at h hcur
  obtain ⟨rfl, -⟩ := getCurUsingDataAddr_some hcur
  split at h
  · cases h; exact List.prefix_refl _
  · obtain ⟨data, -, h⟩ := Option.bind_eq_some.mp h
    cases h
    exact List.prefix_append _ _

theorem saveAttempt_log_le {D : BitVec 32} {r : FlashErrCode}
    (h : saveAttempt cfg D s = some (t, r)) : s.flash.log <+: t.flash.log :=
  (List.prefix_append _ _).trans (saveAttempt_log h)

theorem Passes.log {D : BitVec 32} {n : Nat} (h : Passes cfg D n s t) :
    s.flash.log <+: t.flash.log := by
  induction h with
  | refl => exact List.prefix_refl _
  | step hp _ ih =>
    obtain ⟨-, -, -, -, s1, h1, -, h2⟩ := hp
    exact ((saveAttempt_log_le h1).trans (moveToNext_flash h2 ▸ List.prefix_refl _)).trans ih

theorem saveLoop_log {D : BitVec 32} {fuel : Nat} {res r : FlashErrCode}
    (h : saveLoop cfg D fuel res s = some (t, r)) : s.flash.log <+: t.flash.log := by
  obtain ⟨n, u, -, hp, hlast⟩ := saveLoop_run h
  rcases hlast with ⟨rfl, -⟩ | ⟨-, hA⟩
  · exact hp.log
  · exact hp.log.trans (saveAttempt_log_le hA)

/-- A save begins with the erase of its section at the slot. -/
theorem flashSaveEnv_log {r : FlashErrCode}
    (htest : s.curUsingDataAddr + detailSize cfg s < cfg.envStartAddr + cfg.envTotalSize)
    (h : flashSaveEnv cfg s = some (t, r)) :
    (flashErase s.flash s.curUsingDataAddr
      (BitVec.ofNat 32 cfg.envParamPartByteSize + detailSize cfg s)).1.log <+: t.flash.log := by
  obtain ⟨h0, hs, ht, sL, rL, hL, htail, -⟩ := flashSaveEnv_loop h
  refine List.IsPrefix.trans ?_ htail
  rw [saveLoop, getCurUsingDataAddr_eq h0, show getEnvStartAddr cfg = _ from if_neg hs,
    show flashGetEnvTotalSize cfg = _ from if_neg ht] at hL
  simp only [Option.bind_eq_bind, Option.some_bind, if_pos htest] at hL
  obtain ⟨⟨s1, r1⟩, h1, hL⟩ := Option.bind_eq_some.mp hL
  refine (saveAttempt_log h1).trans ?_
  split at hL
  · obtain ⟨rfl, -⟩ := Prod.mk.inj (Option.some.inj hL)
    exact List.prefix_refl _
  · obtain ⟨s2, h2, hL⟩ := Option.bind_eq_some.mp hL
    exact moveToNext_flash h2 ▸ saveLoop_log hL

/-- The save's first call erases the live section in place: a power cut right after it loses every
record, and the next start-up installs the defaults. -/
theorem flashEnvInit_after_erase (hacc : cfg.Accepted) (hs : Placed cfg s)
    (h0 : s.curUsingDataAddr ≠ 0)
    (hT : cfg.envStartAddr.toNat + cfg.envTotalSize.toNat < 2 ^ 32 - 1)
    (herase : (flashErase s.flash s.curUsingDataAddr
      (BitVec.ofNat 32 cfg.envParamPartByteSize + detailSize cfg s)).2 = .noErr)
    (heap : Nat → Byte) :
    let f := (flashErase s.flash s.curUsingDataAddr
      (BitVec.ofNat 32 cfg.envParamPartByteSize + detailSize cfg s)).1
    (∀ t r, flashSaveEnv cfg s = some (t, r) → f.log <+: t.flash.log) ∧
      flashEnvInit cfg f heap =
        (flashEnvSetDefault cfg ⟨allocCache cfg heap, s.curUsingDataAddr, f⟩).map Prod.fst := by
  intro f
  have hP := cfg.four_le_envParamPartByteSize
  obtain ⟨hsys, h4, hfit⟩ := hs
  have hsize := cfg.sectionSize_toNat (D := detailSize cfg s) (by omega)
  have hST := BitVec.toNat_add_of_lt
    (show cfg.envStartAddr.toNat + cfg.envTotalSize.toNat < 2 ^ 32 by omega)
  have hF : (0xFFFFFFFF : BitVec 32).toNat = 2 ^ 32 - 1 := rfl
  have htest : s.curUsingDataAddr + detailSize cfg s < cfg.envStartAddr + cfg.envTotalSize := by
    rw [BitVec.lt_def, BitVec.toNat_add_of_lt (by omega), hST]; omega
  refine ⟨fun t r hsave => flashSaveEnv_log htest hsave, ?_⟩
  rw [flashEnvInit, if_pos hacc]
  refine flashLoadEnv_end_past hacc.1 ((readWord_flashErase_below h4 (by omega)).trans hsys) h0
    ?_ ?_ ?_
  · intro h; rw [h, hF] at hfit; omega
  · rw [BitVec.lt_def, hST]; omega
  · rw [readWord_flashErase herase (by omega), BitVec.lt_def, hST, hF]; omega

end PowerCut

theorem flashEnvInit_after_erase_crc8TwoEnv :
    let f := (flashErase crc8TwoEnv.flash crc8TwoEnv.curUsingDataAddr
      (BitVec.ofNat 32 crc8Config.envParamPartByteSize + detailSize crc8Config crc8TwoEnv)).1
    (∀ t r, flashSaveEnv crc8Config crc8TwoEnv = some (t, r) → f.log <+: t.flash.log) ∧
      flashEnvInit crc8Config f (fun _ => 0) =
        (flashEnvSetDefault crc8Config
          ⟨allocCache crc8Config fun _ => 0, crc8TwoEnv.curUsingDataAddr, f⟩).map Prod.fst :=
  flashEnvInit_after_erase (by decide) (by decide) (by decide) (by decide) (by decide) _

end EasyFlash
