import EasyFlash.Relocation
import EasyFlash.Update

/-!
# Save, then load

What a `flash_save_env` that returns `FLASH_NO_ERR` leaves on the flash
(`flashSaveEnv_noErr`), and what `flash_load_env` takes from the flash on its accepting path
(`flashLoadEnv_accept`). Together they give the round trip (`save_then_load_restores`): the
load makes no flash call and restores the slot, the end address, the detail bytes and the CRC
that the save wrote, provided the system section holds the slot and the section lies in the
store. Neither is implied by `FLASH_NO_ERR`: the save only logs a failed write of the system
section, and its loop's test does not count the parameter part.
-/

namespace EasyFlash

/-! ## The section's bytes -/

section Bytes

variable {cfg : Config}

@[simp] theorem paramPartBytes_length (c : Cache) :
    (paramPartBytes cfg c).length = cfg.envParamPartByteSize := by
  unfold paramPartBytes Config.envParamPartByteSize Config.envParamPartWordSize
  split <;> simp_all

theorem envParamPartByteSize_crc (h : cfg.usingCrcCheck) : cfg.envParamPartByteSize = 8 := by
  simp [Config.envParamPartByteSize, Config.envParamPartWordSize, h]

theorem cacheBytes_some {s : Env} {n : Nat} {data : List Byte}
    (h : cacheBytes cfg s n = some data) :
    n ≤ cfg.envTotalSize.toNat ∧ n ≤ cfg.envParamPartByteSize + s.cache.detail.length ∧
      data = (paramPartBytes cfg s.cache ++ s.cache.detail).take n := by
  unfold cacheBytes readBytes at h
  split at h
  · rename_i hn
    cases h
    simp only [List.length_take, List.length_append, paramPartBytes_length] at hn
    refine ⟨by omega, by omega, ?_⟩
    simp [List.take_take, Nat.min_eq_left (show n ≤ cfg.envTotalSize.toNat by omega)]
  · cases h

theorem take_four_paramPartBytes {c : Cache} {rest : List Byte} {n : Nat} (h : 4 ≤ n) :
    ((paramPartBytes cfg c ++ rest).take n).take 4 = wordBytes c.endAddr := by
  rw [List.take_take, Nat.min_eq_left h, paramPartBytes, List.append_assoc,
    List.take_append_of_le_length (by simp)]
  simp

theorem crcWord_paramPartBytes {c : Cache} {rest : List Byte} {n : Nat} (hc : cfg.usingCrcCheck)
    (h : 8 ≤ n) :
    (((paramPartBytes cfg c ++ rest).take n).drop 4).take 4 = wordBytes c.dataCrc := by
  rw [List.drop_take, List.take_take, Nat.min_eq_left (by omega), paramPartBytes, if_pos hc]
  simp [List.take_append_of_le_length]

theorem detail_paramPartBytes {c : Cache} {rest : List Byte} {n d : Nat}
    (h : cfg.envParamPartByteSize + d ≤ n) :
    (((paramPartBytes cfg c ++ rest).take n).drop cfg.envParamPartByteSize).take d =
      rest.take d := by
  rw [List.drop_take, List.take_take, Nat.min_eq_left (by omega),
    ← paramPartBytes_length c, List.drop_left]

theorem calcEnvCrc_eq {s : Env} (h0 : s.curUsingDataAddr ≠ 0)
    (hD : (detailSize cfg s).toNat ≤ s.cache.detail.length) :
    calcEnvCrc cfg s = some (cfg.calcCrc32 (cfg.calcCrc32 0 (wordBytes s.cache.endAddr))
      (s.cache.detail.take (detailSize cfg s).toNat)) := by
  have hr : readBytes s.cache.detail 0 (detailSize cfg s).toNat = _ := readBytes_eq (by omega)
  simp [calcEnvCrc, getEnvDetailSize_eq h0, hr]

theorem Written.frame {D : BitVec 32} {u v : Env} (hw : Written cfg D u)
    (hc : v.cache = u.cache) (hcur : v.curUsingDataAddr = u.curUsingDataAddr)
    (hm : ∀ i < (BitVec.ofNat 32 cfg.envParamPartByteSize + D).toNat,
      v.flash.mem (u.curUsingDataAddr + BitVec.ofNat 32 i) =
        u.flash.mem (u.curUsingDataAddr + BitVec.ofNat 32 i)) :
    Written cfg D v := by
  obtain ⟨vc, vcur, vf⟩ := v
  obtain ⟨uc, ucur, uf⟩ := u
  obtain rfl : vc = uc := hc
  obtain rfl : vcur = ucur := hcur
  obtain ⟨h1, data, h2, h3⟩ := hw
  refine ⟨h1, data, h2, (flashRead_congr fun i hi => hm i ?_).trans h3⟩
  rwa [← readBytes_length h2]

end Bytes

/-! ## The accepting path of the load -/

section Load

variable {cfg : Config}

/-- The state `flash_load_env` takes from the section at `p` with end address `e`: the detail
bytes the end address bounds, and with CRC checking the stored CRC word. -/
def loaded (cfg : Config) (t : Env) (p e : BitVec 32) : Env :=
  { t with
    curUsingDataAddr := p
    cache :=
      { endAddr := e
        dataCrc := if cfg.usingCrcCheck then readWord t.flash.mem (p + 4) else t.cache.dataCrc
        detail := flashRead t.flash.mem (p + BitVec.ofNat 32 cfg.envParamPartByteSize)
            (e - (p + BitVec.ofNat 32 cfg.envParamPartByteSize)).toNat ++
          t.cache.detail.drop (e - (p + BitVec.ofNat 32 cfg.envParamPartByteSize)).toNat } }

theorem flashLoadEnv_accept {t : Env} {p e : BitVec 32} (hs : cfg.envStartAddr ≠ 0)
    (hp : readWord t.flash.mem cfg.envStartAddr = p) (hp0 : p ≠ 0) (hpF : p ≠ 0xFFFFFFFF)
    (hpB : ¬ cfg.envStartAddr + cfg.envTotalSize < p) (he : readWord t.flash.mem p = e)
    (heB : ¬ cfg.envStartAddr + cfg.envTotalSize < e)
    (hD : (e - (p + BitVec.ofNat 32 cfg.envParamPartByteSize)).toNat ≤ t.cache.detail.length)
    (hcrc : cfg.usingCrcCheck →
      8 ≤ cfg.envTotalSize.toNat ∧ envCrcIsOk cfg (loaded cfg t p e) = some true) :
    flashLoadEnv cfg t = some (loaded cfg t p e) := by
  have hg : getEnvStartAddr cfg = some cfg.envStartAddr := if_neg hs
  have hcur : getCurUsingDataAddr (setCurUsingDataAddr t p) = some p := if_neg hp0
  have hd : getEnvDetailAddr cfg (setEnvDetailEndAddr (setCurUsingDataAddr t p) e) =
      some (p + BitVec.ofNat 32 cfg.envParamPartByteSize) := if_neg hp0
  rw [flashLoadEnv, hg, Option.bind_eq_bind, Option.some_bind]
  simp only [hp, hpF, hpB, or_self, if_false, setCurUsingDataAddr_flash, Option.bind_eq_bind, hcur,
    Option.some_bind, zero_mul, add_zero, he, heB, getEnvDetailSize, hd, Option.map_some',
    readToDetail, getEnvDetailEndAddr_eq, setEnvDetailEndAddr_cache, setCurUsingDataAddr_cache,
    setEnvDetailEndAddr_flash, setEnvDetailEndAddr_curUsingDataAddr,
    setCurUsingDataAddr_curUsingDataAddr, hD, if_true]
  by_cases hc : cfg.usingCrcCheck
  · obtain ⟨h8, hok⟩ := hcrc hc
    simp only [hc, if_true, getCurUsingDataAddr, hp0, if_false, Option.some_bind, setDataCrc, h8,
      one_mul]
    simp only [loaded, hc, if_true] at hok ⊢
    rw [hok]
    rfl
  · simp [hc, loaded]

/-- An end word below the slot's detail part makes the detail size wrap past the cache. -/
theorem flashLoadEnv_overread {t : Env} {p e : BitVec 32} (hs : cfg.envStartAddr ≠ 0)
    (hp : readWord t.flash.mem cfg.envStartAddr = p) (hp0 : p ≠ 0) (hpF : p ≠ 0xFFFFFFFF)
    (hpB : ¬ cfg.envStartAddr + cfg.envTotalSize < p) (he : readWord t.flash.mem p = e)
    (heB : ¬ cfg.envStartAddr + cfg.envTotalSize < e)
    (hD : t.cache.detail.length < (e - (p + BitVec.ofNat 32 cfg.envParamPartByteSize)).toNat) :
    flashLoadEnv cfg t = none := by
  have hg : getEnvStartAddr cfg = some cfg.envStartAddr := if_neg hs
  have hcur : getCurUsingDataAddr (setCurUsingDataAddr t p) = some p := if_neg hp0
  have hd : getEnvDetailAddr cfg (setEnvDetailEndAddr (setCurUsingDataAddr t p) e) =
      some (p + BitVec.ofNat 32 cfg.envParamPartByteSize) := if_neg hp0
  rw [flashLoadEnv, hg, Option.bind_eq_bind, Option.some_bind]
  simp only [hp, hpF, hpB, or_self, if_false, setCurUsingDataAddr_flash, Option.bind_eq_bind, hcur,
    Option.some_bind, zero_mul, add_zero, he, heB, getEnvDetailSize, hd, Option.map_some',
    readToDetail, getEnvDetailEndAddr_eq, setEnvDetailEndAddr_cache, setCurUsingDataAddr_cache,
    Nat.not_le.mpr hD, Option.none_bind]

end Load

/-- A device whose system section names the slot `0x104` and whose end-address word there is
`0x104` as well, below the slot's detail part. -/
def dirtyFlash : Flash where
  mem := fun a => if a.toNat < 0x108 then (wordBytes 0x104).getD (a.toNat % 4) 0xFF else 0xFF
  pending := []
  log := []

/-- Sixteen bytes at `0x100` in 4-byte erase units, with CRC checking, the default `k=1`. -/
def smallConfig : Config := { crcConfig with envTotalSize := 16 }

/-- On `dirtyFlash` start-up reads `2^32 - 8` detail bytes into an 8-byte detail part. -/
theorem flashEnvInit_end_below_slot :
    readWord dirtyFlash.mem 0x100 = 0x104 ∧ readWord dirtyFlash.mem 0x104 = 0x104 ∧
      flashEnvInit smallConfig dirtyFlash (fun _ => 0) = none := by
  refine ⟨by decide, by decide, ?_⟩
  rw [flashEnvInit, if_pos (by decide)]
  exact flashLoadEnv_overread (p := 0x104) (e := 0x104) (by decide) (by decide) (by decide)
    (by decide) (by decide)
    (by decide) (by decide) (by decide)

/-! ## What a successful save leaves -/

section Save

variable {cfg : Config} {s s' : Env} {r : FlashErrCode}

theorem saveCurUsingDataAddr_spec {c : BitVec 32}
    (h : saveCurUsingDataAddr cfg s c = some (s', r)) :
    s'.cache = s.cache ∧ s'.curUsingDataAddr = s.curUsingDataAddr ∧
      ∀ a, ¬ inRange cfg.envStartAddr 4 a → s'.flash.mem a = s.flash.mem a := by
  simp only [saveCurUsingDataAddr, Option.bind_eq_bind, Option.bind_eq_some] at h
  obtain ⟨start, hstart, h⟩ := h
  obtain ⟨rfl, -⟩ := getEnvStartAddr_some hstart
  split at h
  · cases h
    refine ⟨rfl, rfl, fun a ha => ?_⟩
    rw [flashWrite_mem_out _ (by simpa using ha), flashErase_mem_out _ ha]
  · cases h
    exact ⟨rfl, rfl, fun a ha => flashErase_mem_out _ ha⟩

theorem saveCurUsingDataAddr_log {c : BitVec 32}
    (h : saveCurUsingDataAddr cfg s c = some (s', r)) : s.flash.log <+: s'.flash.log := by
  simp only [saveCurUsingDataAddr, Option.bind_eq_bind, Option.bind_eq_some] at h
  obtain ⟨start, -, h⟩ := h
  split at h
  · cases h; exact (List.prefix_append _ _).trans (List.prefix_append _ _)
  · cases h; exact List.prefix_append _ _

theorem flashSaveEnv_noErr (h : flashSaveEnv cfg s = some (s', .noErr)) :
    ∃ sL, Written cfg (detailSize cfg s) sL ∧ sL.curUsingDataAddr ≠ 0 ∧ cfg.envStartAddr ≠ 0 ∧
      sL.curUsingDataAddr + detailSize cfg s < cfg.envStartAddr + cfg.envTotalSize ∧
      detailSize cfg sL = detailSize cfg s ∧ sL.cache.detail = s.cache.detail ∧
      s'.cache = sL.cache ∧ s'.curUsingDataAddr = sL.curUsingDataAddr ∧
      ∀ a, ¬ inRange cfg.envStartAddr 4 a → s'.flash.mem a = sL.flash.mem a := by
  rw [flashSaveEnv] at h
  obtain ⟨bak, -, h⟩ := Option.bind_eq_some.mp h
  obtain ⟨D, hD, h⟩ := Option.bind_eq_some.mp h
  obtain ⟨⟨sL, rL⟩, hL, h⟩ := Option.bind_eq_some.mp h
  obtain ⟨cur, hcur, h⟩ := Option.bind_eq_some.mp h
  obtain ⟨start, hstart, h⟩ := Option.bind_eq_some.mp h
  obtain ⟨total, htotal, h⟩ := Option.bind_eq_some.mp h
  obtain ⟨rfl, -⟩ := getEnvDetailSize_some hD
  obtain ⟨rfl, hcur0⟩ := getCurUsingDataAddr_some hcur
  obtain ⟨rfl, hs0⟩ := getEnvStartAddr_some hstart
  obtain rfl := flashGetEnvTotalSize_some htotal
  obtain ⟨d1, d2, d3⟩ := saveLoop_spec hL
  split at h
  · rename_i hg
    obtain ⟨-, hw⟩ := d3 hg
    split at h
    · obtain ⟨⟨s2, r2⟩, h2, h⟩ := Option.bind_eq_some.mp h
      cases h
      obtain ⟨e1, e2, e3⟩ := saveCurUsingDataAddr_spec h2
      exact ⟨sL, hw, hcur0, hs0, hg, d1, d2, e1, e2, e3⟩
    · cases h
      exact ⟨_, hw, hcur0, hs0, hg, d1, d2, rfl, rfl, fun _ _ => rfl⟩
  · obtain ⟨⟨s2, r2⟩, -, h⟩ := Option.bind_eq_some.mp h
    cases h

end Save

/-- Twenty bytes at `0x100` in 4-byte erase units, with CRC checking, the default `k=1`. -/
def edgeConfig : Config := { crcConfig with envTotalSize := 20 }

/-- With `edgeConfig` (end `0x114`) a failed first erase moves the section to `0x10C`, whose erase
and write reach `0x118`. -/
theorem flashEnvInit_writes_past_store :
    ((flashEnvInit edgeConfig { erasedFlash with pending := [.ok, .ok, .fail fun _ => 0xFF] }
      fun _ => 0).map fun s => s.flash.log) =
      some [.erase 0x100 4, .write 0x100 4, .erase 0x104 12, .erase 0x10C 12, .write 0x10C 12,
        .erase 0x100 4, .write 0x100 4] := by
  decide

/-! ## The round trip -/

section RoundTrip

variable {cfg : Config} {u : Env}

theorem Written.reads (hw : Written cfg (detailSize cfg u) u)
    (hPD : cfg.envParamPartByteSize + (detailSize cfg u).toNat < 2 ^ 32) :
    cfg.envParamPartByteSize + (detailSize cfg u).toNat ≤ cfg.envTotalSize.toNat ∧
      (detailSize cfg u).toNat ≤ u.cache.detail.length ∧
      readWord u.flash.mem u.curUsingDataAddr = u.cache.endAddr ∧
      flashRead u.flash.mem (u.curUsingDataAddr + BitVec.ofNat 32 cfg.envParamPartByteSize)
        (detailSize cfg u).toNat = u.cache.detail.take (detailSize cfg u).toNat ∧
      (cfg.usingCrcCheck → readWord u.flash.mem (u.curUsingDataAddr + 4) = u.cache.dataCrc) := by
  obtain ⟨-, data, hdata, hread⟩ := hw
  obtain ⟨hn, hnd, rfl⟩ := cacheBytes_some hdata
  have hP := cfg.four_le_envParamPartByteSize
  have hPle := cfg.envParamPartByteSize_le
  have hn' : (BitVec.ofNat 32 cfg.envParamPartByteSize + detailSize cfg u).toNat =
      cfg.envParamPartByteSize + (detailSize cfg u).toNat := by
    simp only [BitVec.toNat_add, BitVec.toNat_ofNat]; omega
  rw [hn'] at hn hnd hread
  rw [List.length_take, List.length_append, paramPartBytes_length,
    Nat.min_eq_left (by omega)] at hread
  refine ⟨hn, by omega, ?_, ?_, fun hc => ?_⟩
  · rw [readWord, ← flashRead_take (show 4 ≤ cfg.envParamPartByteSize + (detailSize cfg u).toNat
      by omega), hread, take_four_paramPartBytes (by omega), wordOf_wordBytes]
  · rw [← flashRead_drop_take (le_refl _), hread, detail_paramPartBytes (le_refl _)]
  · have h8 := envParamPartByteSize_crc hc
    rw [readWord, show u.curUsingDataAddr + 4 = u.curUsingDataAddr + BitVec.ofNat 32 4 from rfl,
      ← flashRead_drop_take (show 4 + 4 ≤ cfg.envParamPartByteSize + (detailSize cfg u).toNat
        by omega), hread, crcWord_paramPartBytes hc (by omega), wordOf_wordBytes]

theorem flashLoadEnv_written (hw : Written cfg (detailSize cfg u) u) (hs : cfg.envStartAddr ≠ 0)
    (hu0 : u.curUsingDataAddr ≠ 0)
    (hstore : cfg.envStartAddr.toNat + cfg.envTotalSize.toNat < 2 ^ 32)
    (hfit : u.curUsingDataAddr.toNat + cfg.envParamPartByteSize + (detailSize cfg u).toNat ≤
      cfg.envStartAddr.toNat + cfg.envTotalSize.toNat)
    (hsys : readWord u.flash.mem cfg.envStartAddr = u.curUsingDataAddr) (c : Cache)
    (hc : c.detail.length = u.cache.detail.length) :
    let t := loaded cfg { u with cache := c } u.curUsingDataAddr u.cache.endAddr
    flashLoadEnv cfg { u with cache := c } = some t ∧
      t.cache.detail.take (detailSize cfg u).toNat = u.cache.detail.take (detailSize cfg u).toNat ∧
      (cfg.usingCrcCheck → t.cache.dataCrc = u.cache.dataCrc ∧ envCrcIsOk cfg t = some true) := by
  have hendN : u.cache.endAddr.toNat =
      u.curUsingDataAddr.toNat + cfg.envParamPartByteSize + (detailSize cfg u).toNat := by
    have := @endAddr_sub_curUsingDataAddr cfg u
    bv_omega
  have hP := cfg.four_le_envParamPartByteSize
  obtain ⟨hn, hnd, hend, hdet, hdc⟩ := hw.reads (by omega)
  have hcrc := hw.1
  have hLd : (loaded cfg { u with cache := c } u.curUsingDataAddr u.cache.endAddr).cache.detail.take
      (detailSize cfg u).toNat = u.cache.detail.take (detailSize cfg u).toNat := by
    show (flashRead u.flash.mem _ (detailSize cfg u).toNat ++ _).take _ = _
    rw [List.take_left' (flashRead_length _ _ _), hdet]
  have hcrcOk (hc : cfg.usingCrcCheck) :
      (loaded cfg { u with cache := c } u.curUsingDataAddr u.cache.endAddr).cache.dataCrc =
        u.cache.dataCrc ∧
      envCrcIsOk cfg (loaded cfg { u with cache := c } u.curUsingDataAddr u.cache.endAddr) =
        some true := by
    set L := loaded cfg { u with cache := c } u.curUsingDataAddr u.cache.endAddr
    have h8 : 8 ≤ cfg.envTotalSize.toNat := by rw [envParamPartByteSize_crc hc] at hn; omega
    have hcalc : calcEnvCrc cfg L = calcEnvCrc cfg u := by
      rw [calcEnvCrc_eq (s := L) hu0 (by simp [L, loaded, detailSize]),
        calcEnvCrc_eq hu0 (by omega)]
      exact congrArg _ (congrArg _ hLd)
    have hLc : L.cache.dataCrc = u.cache.dataCrc := by simp only [L, loaded, hc, if_true, hdc hc]
    exact ⟨hLc, by simp [envCrcIsOk, getDataCrc, h8, hcalc, hcrc hc, hLc]⟩
  refine ⟨flashLoadEnv_accept hs hsys hu0 ?_ ?_ hend ?_
    (show (detailSize cfg u).toNat ≤ c.detail.length by omega) fun hc => ⟨?_, (hcrcOk hc).2⟩,
    hLd, hcrcOk⟩
  · intro h; rw [h] at hfit; simp at hfit; omega
  · simp only [BitVec.lt_def, BitVec.toNat_add]; omega
  · simp only [BitVec.lt_def, BitVec.toNat_add]; omega
  · rw [envParamPartByteSize_crc hc] at hn; omega

/-- After a save that returns `FLASH_NO_ERR` at a placed slot, a load makes no flash call and
restores what the save wrote. -/
theorem save_then_load_restores {s s' : Env} (hsave : flashSaveEnv cfg s = some (s', .noErr))
    (hstore : cfg.envStartAddr.toNat + cfg.envTotalSize.toNat ≤ 2 ^ 32)
    (hfit : cfg.envStartAddr.toNat + 4 ≤ s'.curUsingDataAddr.toNat ∧
      s'.curUsingDataAddr.toNat + cfg.envParamPartByteSize + (detailSize cfg s').toNat ≤
        cfg.envStartAddr.toNat + cfg.envTotalSize.toNat)
    (hsys : readWord s'.flash.mem cfg.envStartAddr = s'.curUsingDataAddr)
    (c : Cache) (hc : c.detail.length = s'.cache.detail.length) :
    ∃ t, flashLoadEnv cfg { s' with cache := c } = some t ∧ t.flash = s'.flash ∧
      t.curUsingDataAddr = s'.curUsingDataAddr ∧ t.cache.endAddr = s'.cache.endAddr ∧
      t.cache.detail.take (detailSize cfg s').toNat =
        s'.cache.detail.take (detailSize cfg s').toNat ∧
      (cfg.usingCrcCheck → t.cache.dataCrc = s'.cache.dataCrc ∧ envCrcIsOk cfg t = some true) := by
  obtain ⟨sL, hw, hcur0, hs0, hg, hDs, -, hcache, hcurE, hmem⟩ := flashSaveEnv_noErr hsave
  have hD : detailSize cfg s' = detailSize cfg s := by
    rw [← hDs]; simp only [detailSize, hcache, hcurE]
  have hlt : cfg.envStartAddr.toNat + cfg.envTotalSize.toNat < 2 ^ 32 := by
    have := BitVec.lt_def.mp hg
    simp only [BitVec.toNat_add] at this
    omega
  have hw' : Written cfg (detailSize cfg s') s' := by
    rw [hD]
    refine hw.frame hcache hcurE fun i hi => hmem _ (not_inRange_of_le ?_)
    have h4 : (4 : BitVec 32).toNat = 4 := rfl
    rw [← hD] at hi
    simp only [BitVec.toNat_add, BitVec.toNat_ofNat] at hi
    rw [← hcurE, h4, BitVec.toNat_add, BitVec.toNat_ofNat]
    omega
  obtain ⟨h1, h2, h3⟩ := flashLoadEnv_written hw' hs0 (hcurE ▸ hcur0) hlt hfit.2 hsys c hc
  exact ⟨_, h1, rfl, rfl, rfl, h2, h3⟩

end RoundTrip

/-- `crcEnv` after one more `flash_save_env`. -/
def crcSaved : Env := ((flashSaveEnv crcConfig crcEnv).map Prod.fst).getD crcEnv

theorem save_then_load_restores_crcSaved :
    ∃ t, flashLoadEnv crcConfig { crcSaved with cache := allocCache crcConfig fun _ => 0 } =
        some t ∧ t.flash = crcSaved.flash ∧ t.curUsingDataAddr = crcSaved.curUsingDataAddr ∧
      t.cache.endAddr = crcSaved.cache.endAddr ∧
      t.cache.detail.take (detailSize crcConfig crcSaved).toNat =
        crcSaved.cache.detail.take (detailSize crcConfig crcSaved).toNat ∧
      (crcConfig.usingCrcCheck → t.cache.dataCrc = crcSaved.cache.dataCrc ∧
        envCrcIsOk crcConfig t = some true) :=
  @save_then_load_restores crcConfig crcEnv crcSaved rfl (by decide) (by decide) (by decide) _
    (by decide)

/-- A save whose first erase fails returns `FLASH_NO_ERR` though the new slot never reached the
system section: the next load installs the defaults. -/
theorem save_then_load_lost_pointer :
    ((flashSaveEnv crcConfig { crcEnv with flash := { crcEnv.flash with
        pending := [.fail fun _ => 0xFF, .ok, .ok, .ok, .fail fun _ => 0xFF] } }).bind fun p =>
      (flashLoadEnv crcConfig p.1).map fun t => (p.2, p.1.curUsingDataAddr, t.curUsingDataAddr)) =
      some (.noErr, 0x10C, 0x104) := by
  decide

end EasyFlash
