import EasyFlash.Load

/-!
# The relocation loop

One spec lemma for each piece of `flash_save_env`'s loop: caching the CRC (`cacheEnvCrc_eq`),
one attempt at a slot (`saveAttempt_spec`), moving on (`detailSize_moveToNext`), and the loop
(`saveLoop_spec`). The end address moves with the slot, so the detail size the loop computed
on entry stays the detail size of the cache, and the detail bytes are never touched. When the
loop stops at a slot that still passes its test, it stopped after a successful attempt there
(`Written`): the CRC word matches the cached section, and the flash holds the section.
-/

namespace EasyFlash

section Loop

variable {cfg : Config} {s s' : Env} {D : BitVec 32} {r : FlashErrCode}

theorem moveToNext_eq (h : s.curUsingDataAddr ≠ 0) :
    moveToNext cfg s D = some (setEnvDetailEndAddr
      (setCurUsingDataAddr s (s.curUsingDataAddr + moveOffsetAddr cfg D))
      (s.cache.endAddr + moveOffsetAddr cfg D)) := by
  simp [moveToNext, getCurUsingDataAddr_eq h]

theorem detailSize_moveToNext (h : moveToNext cfg s D = some s') :
    detailSize cfg s' = detailSize cfg s ∧ s'.cache.detail = s.cache.detail := by
  simp only [moveToNext, getCurUsingDataAddr, Option.bind_eq_bind] at h
  split at h
  · cases h
  · cases h
    refine ⟨?_, rfl⟩
    simp only [detailSize, setEnvDetailEndAddr_cache, setEnvDetailEndAddr_curUsingDataAddr,
      setCurUsingDataAddr_curUsingDataAddr, setCurUsingDataAddr_cache, getEnvDetailEndAddr_eq]
    rw [add_right_comm, add_sub_add_right_eq_sub]

@[simp] theorem calcEnvCrc_flash (f : Flash) :
    calcEnvCrc cfg { s with flash := f } = calcEnvCrc cfg s := rfl

@[simp] theorem calcEnvCrc_dataCrc (c : BitVec 32) :
    calcEnvCrc cfg { s with cache := { s.cache with dataCrc := c } } = calcEnvCrc cfg s := rfl

theorem cacheEnvCrc_eq (h : cacheEnvCrc cfg s = some s') :
    s' = { s with cache := { s.cache with dataCrc := s'.cache.dataCrc } } ∧
      (cfg.usingCrcCheck → calcEnvCrc cfg s = some s'.cache.dataCrc) := by
  unfold cacheEnvCrc at h
  split at h
  · obtain ⟨c, hc, h⟩ := Option.bind_eq_some.mp h
    simp only [setDataCrc] at h
    split at h
    · cases h; exact ⟨rfl, fun _ => hc⟩
    · cases h
  · cases h; exact ⟨rfl, fun hc => absurd hc ‹_›⟩

/-- What a successful attempt leaves: the CRC word matches the cached section, and the flash
holds the section's bytes from the slot on. -/
def Written (cfg : Config) (D : BitVec 32) (s : Env) : Prop :=
  (cfg.usingCrcCheck → calcEnvCrc cfg s = some s.cache.dataCrc) ∧
    ∃ data, cacheBytes cfg s (BitVec.ofNat 32 cfg.envParamPartByteSize + D).toNat = some data ∧
      flashRead s.flash.mem s.curUsingDataAddr data.length = data

theorem saveAttempt_spec (h : saveAttempt cfg D s = some (s', r)) :
    s'.curUsingDataAddr = s.curUsingDataAddr ∧ s'.cache.endAddr = s.cache.endAddr ∧
      s'.cache.detail = s.cache.detail ∧ (r = .noErr → Written cfg D s') := by
  simp only [saveAttempt, Option.bind_eq_bind, Option.bind_eq_some] at h
  obtain ⟨s1, h1, cur, hcur, h⟩ := h
  obtain ⟨e1, c4⟩ := cacheEnvCrc_eq h1
  obtain ⟨rfl, -⟩ := getCurUsingDataAddr_some hcur
  rw [e1] at h
  split at h
  · rename_i he
    cases h
    exact ⟨rfl, rfl, rfl, fun hr => by rw [he] at hr; cases hr⟩
  · obtain ⟨data, hdata, h⟩ := Option.bind_eq_some.mp h
    cases h
    refine ⟨rfl, rfl, rfl, fun hok => ⟨fun hc => by simpa using c4 hc, data, hdata, ?_⟩⟩
    have hl : data.length < 2 ^ 32 := by
      rw [readBytes_length hdata]; omega
    exact flashRead_flashWrite hok hl

theorem saveLoop_spec {fuel : Nat} {res : FlashErrCode}
    (h : saveLoop cfg D fuel res s = some (s', r)) :
    detailSize cfg s' = detailSize cfg s ∧ s'.cache.detail = s.cache.detail ∧
      (s'.curUsingDataAddr + D < cfg.envStartAddr + cfg.envTotalSize →
        r = .noErr ∧ Written cfg D s') := by
  induction fuel generalizing s res with
  | zero => cases h
  | succ fuel ih =>
    simp only [saveLoop, Option.bind_eq_bind, Option.bind_eq_some] at h
    obtain ⟨cur, hcur, start, hstart, total, htotal, h⟩ := h
    obtain ⟨rfl, -⟩ := getCurUsingDataAddr_some hcur
    obtain ⟨rfl, -⟩ := getEnvStartAddr_some hstart
    obtain rfl := flashGetEnvTotalSize_some htotal
    split at h
    · obtain ⟨⟨s1, r1⟩, h1, h⟩ := Option.bind_eq_some.mp h
      obtain ⟨c1, c2, c3, c4⟩ := saveAttempt_spec h1
      have e1 : detailSize cfg s1 = detailSize cfg s := by simp [detailSize, c1, c2]
      split at h
      · cases h
        exact ⟨e1, c3, fun _ => ⟨‹_›, c4 ‹_›⟩⟩
      · obtain ⟨s2, h2, h⟩ := Option.bind_eq_some.mp h
        obtain ⟨d2, c5⟩ := detailSize_moveToNext h2
        obtain ⟨i1, i2, i3⟩ := ih h
        exact ⟨i1.trans (d2.trans e1), i2.trans (c5.trans c3), i3⟩
    · cases h
      exact ⟨rfl, rfl, fun h' => absurd h' ‹_›⟩

end Loop

/-! ## Fuel -/

section Fuel

variable {cfg : Config} {s s' : Env} {D : BitVec 32} {r : FlashErrCode}

theorem moveToNext_flash (h : moveToNext cfg s D = some s') : s'.flash = s.flash := by
  simp only [moveToNext, Option.bind_eq_bind, Option.bind_eq_some] at h
  obtain ⟨cur, -, h⟩ := h
  cases h; rfl

theorem saveAttempt_pending (h : saveAttempt cfg D s = some (s', r)) (hr : r ≠ .noErr) :
    s'.flash.pending.length < s.flash.pending.length := by
  simp only [saveAttempt, Option.bind_eq_bind, Option.bind_eq_some] at h
  obtain ⟨s1, h1, cur, -, h⟩ := h
  obtain ⟨e1, -⟩ := cacheEnvCrc_eq h1
  rw [e1] at h
  split at h
  · rename_i he
    cases h
    have := List.length_pos.mpr
      (Flash.call_pending_ne_nil (he ▸ (by decide : FlashErrCode.eraseErr ≠ .noErr)))
    simp only [flashErase, Flash.call_pending, List.length_tail] at this ⊢
    omega
  · obtain ⟨data, -, h⟩ := Option.bind_eq_some.mp h
    cases h
    have := List.length_pos.mpr (Flash.call_pending_ne_nil hr)
    simp only [flashWrite, flashErase, Flash.call_pending, List.length_tail] at this ⊢
    omega

/-- Each failed attempt takes an answer off the queue, so one unit of fuel more than the queue holds
suffices. -/
theorem saveLoop_fuel_succ {fuel : Nat} {res : FlashErrCode}
    (hf : s.flash.pending.length < fuel) :
    saveLoop cfg D (fuel + 1) res s = saveLoop cfg D fuel res s := by
  induction fuel generalizing s res with
  | zero => exact absurd hf (Nat.not_lt_zero _)
  | succ n ih =>
    rw [saveLoop, saveLoop]
    refine Option.bind_congr fun cur _ => Option.bind_congr fun st _ =>
      Option.bind_congr fun tot _ => ?_
    split
    · refine Option.bind_congr fun ⟨s1, r1⟩ h1 => ?_
      dsimp only
      split
      · rfl
      · refine Option.bind_congr fun s2 h2 => ih ?_
        have := saveAttempt_pending h1 ‹_›
        rw [moveToNext_flash h2]
        omega
    · rfl

/-- The fuel `flash_save_env` gives its loop is enough: any more gives the same result. -/
theorem saveLoop_fuel_enough {res : FlashErrCode} (k : Nat) :
    saveLoop cfg D (s.flash.pending.length + 1 + k) res s =
      saveLoop cfg D (s.flash.pending.length + 1) res s := by
  induction k with
  | zero => rfl
  | succ k ih => rw [← Nat.add_assoc, saveLoop_fuel_succ (by omega), ih]

end Fuel

/-! ## The stride -/

section Stride

variable {cfg : Config} {D : BitVec 32}

theorem moveOffsetAddr_toNat (hm : cfg.flashEraseMinSize ≠ 0)
    (hlt : (D.toNat / cfg.flashEraseMinSize.toNat + 1) * cfg.flashEraseMinSize.toNat < 2 ^ 32) :
    (moveOffsetAddr cfg D).toNat =
      (D.toNat / cfg.flashEraseMinSize.toNat + 1) * cfg.flashEraseMinSize.toNat := by
  have hm' : 0 < cfg.flashEraseMinSize.toNat := by bv_omega
  have h1 : D.toNat / cfg.flashEraseMinSize.toNat + 1 < 2 ^ 32 :=
    lt_of_le_of_lt (Nat.le_mul_of_pos_right _ hm') hlt
  have e1 : (1 : BitVec 32).toNat = 1 := rfl
  simp only [moveOffsetAddr, BitVec.toNat_mul, BitVec.toNat_add, BitVec.toNat_udiv, e1]
  rw [Nat.mod_eq_of_lt h1, Nat.mod_eq_of_lt hlt]

/-- The next slot clears the failed range exactly when the last erase unit has room for the
parameter part. -/
theorem moveOffsetAddr_clears_iff (hm : cfg.flashEraseMinSize ≠ 0)
    (hlt : (D.toNat / cfg.flashEraseMinSize.toNat + 1) * cfg.flashEraseMinSize.toNat < 2 ^ 32) :
    cfg.envParamPartByteSize + D.toNat ≤ (moveOffsetAddr cfg D).toNat ↔
      cfg.envParamPartByteSize + D.toNat % cfg.flashEraseMinSize.toNat ≤
        cfg.flashEraseMinSize.toNat := by
  have := Nat.div_add_mod D.toNat cfg.flashEraseMinSize.toNat
  rw [moveOffsetAddr_toNat hm hlt, Nat.add_mul, one_mul, Nat.mul_comm]
  omega

end Stride

/-- A 4-byte detail part with CRC checking moves by 8 bytes, short of its 12-byte section. -/
theorem moveOffsetAddr_clears_crcConfig :
    ¬ crcConfig.envParamPartByteSize + (4 : BitVec 32).toNat ≤ (moveOffsetAddr crcConfig 4).toNat :=
  fun h => absurd ((moveOffsetAddr_clears_iff (by decide) (by decide)).mp h) (by decide)

/-- From `crcEnv` a failed erase moves the 12-byte section by 8 bytes: the retry erases inside the
failed range. -/
theorem flashSaveEnv_retry_overlaps :
    ((flashSaveEnv crcConfig { crcEnv with flash := { crcEnv.flash with
        pending := [.fail fun _ => 0xFF], log := [] } }).map fun p => p.1.flash.log.take 2) =
      some [.erase 0x104 12, .erase 0x10C 12] := by
  decide

end EasyFlash
