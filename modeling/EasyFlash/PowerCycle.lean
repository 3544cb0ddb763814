import EasyFlash.Defaults

/-!
# The store over power cycles

The module keeps its records in two places: the RAM cache, which the calls change, and the
flash, which only `flash_save_env` writes and which `flash_env_init` reads back after a power
cycle. This file follows both through any run of sets, deletes, saves, resets to the defaults
and power cycles (`Op`).

- The calls change only the cache (`Call.run_cacheOnly`): whatever they return, a power cycle
  after them brings back the records of the last save (`runCalls_then_reboot`).
- `Holds cfg f rs` says the flash `f` holds the records `rs` where `flash_load_env` looks for
  them. `flash_env_init` then takes its accepting path and the new cache holds `rs`
  (`Holds.init`).
- A save leaves the cache's records on the flash (`flashSaveEnv_holds`), provided that
  afterwards the system section names the slot it wrote and the section lies after the system
  section, inside the store (`Placed`). The code checks neither: the write of the system
  section is not checked, and the loop's test does not count the parameter part. A store must
  also end below `2^32`: one that ends there is never saved (`flashSaveEnv_top`).
- Together: the module refines a pair of record lists, the cache's and the last save's, over
  every run whose operations return `FLASH_NO_ERR` under their side conditions
  (`runs_refine`).
-/

namespace EasyFlash

/-! ## The calls change only the cache -/

/-- `t` is `s` with at most the cache changed: the same slot and the same flash. -/
def CacheOnly (s t : Env) : Prop := t.curUsingDataAddr = s.curUsingDataAddr ∧ t.flash = s.flash

theorem CacheOnly.refl (s : Env) : CacheOnly s s := ⟨rfl, rfl⟩

theorem CacheOnly.trans {s t u : Env} (h₁ : CacheOnly s t) (h₂ : CacheOnly t u) :
    CacheOnly s u :=
  ⟨h₂.1.trans h₁.1, h₂.2.trans h₁.2⟩

section Calls

variable {cfg : Config} {s s' : Env} {key value : CStr} {r : FlashErrCode}

theorem writeEnv_cacheOnly (h : writeEnv cfg s key value = some (s', r)) : CacheOnly s s' := by
  simp only [writeEnv, Option.bind_eq_bind, Option.bind_eq_some] at h
  obtain ⟨d, -, t, -, h⟩ := h
  split at h
  · cases h; exact .refl s
  · simp only [Option.bind_eq_bind, Option.bind_eq_some, pure, Option.some.injEq] at h
    obtain ⟨e, -, det, -, -, rfl⟩ := h
    exact ⟨rfl, rfl⟩

theorem createEnv_cacheOnly (h : createEnv cfg s key value = some (s', r)) : CacheOnly s s' := by
  unfold createEnv at h
  split at h
  · cases h; exact .refl s
  split at h
  · cases h; exact .refl s
  obtain ⟨f, -, h⟩ := Option.bind_eq_some.mp h
  cases f with
  | some o => cases h; exact .refl s
  | none => exact writeEnv_cacheOnly h

theorem flashDelEnv_cacheOnly (h : flashDelEnv cfg s key = some (s', r)) : CacheOnly s s' := by
  unfold flashDelEnv at h
  split at h
  · cases h; exact .refl s
  split at h
  · cases h; exact .refl s
  obtain ⟨f, -, h⟩ := Option.bind_eq_some.mp h
  cases f with
  | none => cases h; exact .refl s
  | some o =>
    simp only [Option.bind_eq_bind, Option.bind_eq_some, pure, Option.some.injEq] at h
    obtain ⟨-, -, -, -, -, -, rfl, -⟩ := h
    exact ⟨rfl, rfl⟩

theorem flashSetEnv_cacheOnly (h : flashSetEnv cfg s key value = some (s', r)) :
    CacheOnly s s' := by
  unfold flashSetEnv at h
  split at h
  · exact flashDelEnv_cacheOnly h
  simp only [Option.bind_eq_bind, Option.bind_eq_some] at h
  obtain ⟨f, -, h⟩ := h
  cases f with
  | none =>
    simp only [pure, Option.some_bind, if_pos] at h
    exact createEnv_cacheOnly h
  | some o =>
    simp only [Option.bind_eq_some] at h
    obtain ⟨⟨s1, r1⟩, h1, h⟩ := h
    split at h
    · exact (flashDelEnv_cacheOnly h1).trans (createEnv_cacheOnly h)
    · cases h; exact flashDelEnv_cacheOnly h1

theorem Call.run_cacheOnly {c : Call} (h : c.run cfg s = some (s', r)) : CacheOnly s s' := by
  cases c with
  | set key value => exact flashSetEnv_cacheOnly h
  | del key => exact flashDelEnv_cacheOnly h

theorem runCalls_cacheOnly : ∀ {cs : List Call} {s s' : Env} {results : List FlashErrCode},
    runCalls cfg s cs = some (s', results) → CacheOnly s s'
  | [], s, _, _, h => by cases h; exact .refl s
  | _ :: _, _, _, _, h => by
    obtain ⟨⟨s1, r1⟩, h1, h⟩ := Option.bind_eq_some.mp h
    obtain ⟨⟨s2, rs2⟩, h2, h⟩ := Option.bind_eq_some.mp h
    obtain ⟨rfl, -⟩ := Prod.mk.inj (Option.some.inj h)
    exact (Call.run_cacheOnly h1).trans (runCalls_cacheOnly h2)

theorem createEnvs_cacheOnly : ∀ {kvs : List (CStr × CStr)} {s s' : Env},
    createEnvs cfg s kvs = some s' → CacheOnly s s'
  | [], s, _, h => by cases h; exact .refl s
  | _ :: _, _, _, h => by
    obtain ⟨⟨s1, r1⟩, h1, h⟩ := Option.bind_eq_some.mp h
    exact (createEnv_cacheOnly h1).trans (createEnvs_cacheOnly h)

end Calls

/-! ## The records on the flash -/

/-- `using_data_addr` of `flash_load_env`: the slot word of the system section. -/
def usingDataAddr (cfg : Config) (f : Flash) : BitVec 32 := readWord f.mem cfg.envStartAddr

/-- `env_end_addr` of `flash_load_env`: the end-address word at the slot. -/
def envEndAddr (cfg : Config) (f : Flash) : BitVec 32 := readWord f.mem (usingDataAddr cfg f)

/-- The detail bytes `flash_load_env` reads: from the slot's detail part to the end address. -/
def imageDetail (cfg : Config) (f : Flash) : List Byte :=
  flashRead f.mem (usingDataAddr cfg f + BitVec.ofNat 32 cfg.envParamPartByteSize)
    (envEndAddr cfg f - (usingDataAddr cfg f + BitVec.ofNat 32 cfg.envParamPartByteSize)).toNat

/-- The flash holds the records `rs`: the system section names a slot in the store, whose end
address is in the store and whose detail bytes are `rs` as `write_env` lays them out, within the
cache's detail part; with CRC checking the slot's CRC word is their CRC. -/
@[mk_iff]
structure Holds (cfg : Config) (f : Flash) (rs : List (CStr × CStr)) : Prop where
  slot : usingDataAddr cfg f ≠ 0
  not_erased : usingDataAddr cfg f ≠ 0xFFFFFFFF
  slot_le : ¬ cfg.envStartAddr + cfg.envTotalSize < usingDataAddr cfg f
  end_le : ¬ cfg.envStartAddr + cfg.envTotalSize < envEndAddr cfg f
  run : imageDetail cfg f = encodeRecords rs
  fits : (encodeRecords rs).length ≤ cfg.detailCapacity
  keys : ∀ r ∈ rs, r.1.bytes ≠ [] ∧ eqSign ∉ r.1.bytes
  crc : cfg.usingCrcCheck → 8 ≤ cfg.envTotalSize.toNat ∧
    readWord f.mem (usingDataAddr cfg f + 4) =
      cfg.calcCrc32 (cfg.calcCrc32 0 (wordBytes (envEndAddr cfg f))) (encodeRecords rs)

instance (cfg : Config) (f : Flash) (rs : List (CStr × CStr)) : Decidable (Holds cfg f rs) :=
  decidable_of_iff _ (holds_iff cfg f rs).symm

/-- The system section names the slot of `s`, and the section there lies after the system
section, inside the store. -/
def Placed (cfg : Config) (s : Env) : Prop :=
  usingDataAddr cfg s.flash = s.curUsingDataAddr ∧
    cfg.envStartAddr.toNat + 4 ≤ s.curUsingDataAddr.toNat ∧
    s.curUsingDataAddr.toNat + cfg.envParamPartByteSize + (detailSize cfg s).toNat ≤
      cfg.envStartAddr.toNat + cfg.envTotalSize.toNat

instance (cfg : Config) (s : Env) : Decidable (Placed cfg s) :=
  inferInstanceAs (Decidable (_ ∧ _ ∧ _))

section Image

variable {cfg : Config} {f : Flash} {s s' : Env} {rs : List (CStr × CStr)}

theorem envCrcIsOk_loaded {t : Env} {p e : BitVec 32} (hp0 : p ≠ 0) (hc : cfg.usingCrcCheck)
    (h8 : 8 ≤ cfg.envTotalSize.toNat) :
    envCrcIsOk cfg (loaded cfg t p e) = some (decide (cfg.calcCrc32 (cfg.calcCrc32 0 (wordBytes e))
      (flashRead t.flash.mem (p + BitVec.ofNat 32 cfg.envParamPartByteSize)
        (e - (p + BitVec.ofNat 32 cfg.envParamPartByteSize)).toNat) =
      readWord t.flash.mem (p + 4))) := by
  have hd : (loaded cfg t p e).cache.detail.take (detailSize cfg (loaded cfg t p e)).toNat =
      flashRead t.flash.mem (p + BitVec.ofNat 32 cfg.envParamPartByteSize)
        (e - (p + BitVec.ofNat 32 cfg.envParamPartByteSize)).toNat :=
    List.take_left' (flashRead_length _ _ _)
  have hD : (detailSize cfg (loaded cfg t p e)).toNat ≤
      (loaded cfg t p e).cache.detail.length := by
    simp only [loaded, List.length_append, flashRead_length, detailSize]; omega
  rw [envCrcIsOk, calcEnvCrc_eq hp0 hD, hd, getDataCrc, if_pos h8]
  simp only [Option.bind_eq_bind, Option.some_bind, loaded, hc, if_true]
  rfl

theorem flashEnvInit_accepted {heap : Nat → Byte} (h : flashEnvInit cfg f heap = some s) :
    cfg.Accepted := by
  by_contra hn
  rw [flashEnvInit, if_neg hn] at h
  cases h

theorem Holds.init (hacc : cfg.Accepted) (h : Holds cfg f rs) (heap : Nat → Byte) :
    ∃ s, flashEnvInit cfg f heap = some s ∧ s.flash = f ∧
      s.curUsingDataAddr = usingDataAddr cfg f ∧ Stores cfg s rs := by
  have hlen := congrArg List.length h.run
  rw [imageDetail, flashRead_length] at hlen
  refine ⟨loaded cfg ⟨allocCache cfg heap, 0, f⟩ (usingDataAddr cfg f) (envEndAddr cfg f), ?_,
    rfl, rfl, stores_loaded h.slot h.run h.fits h.keys⟩
  rw [flashEnvInit, if_pos hacc]
  refine flashLoadEnv_accept hacc.1 rfl h.slot h.not_erased h.slot_le rfl h.end_le ?_ fun hc =>
    ⟨(h.crc hc).1, ?_⟩
  · simp only [allocCache, List.length_map, List.length_range, hlen]
    exact h.fits
  · rw [envCrcIsOk_loaded h.slot hc (h.crc hc).1, (h.crc hc).2, ← h.run]
    exact congrArg some (decide_eq_true rfl)

theorem Written.holds (hw : Written cfg (detailSize cfg s) s) (hI : Stores cfg s rs)
    (hlt : cfg.envStartAddr.toNat + cfg.envTotalSize.toNat < 2 ^ 32)
    (hsys : usingDataAddr cfg s.flash = s.curUsingDataAddr)
    (hfit : s.curUsingDataAddr.toNat + cfg.envParamPartByteSize + (detailSize cfg s).toNat ≤
      cfg.envStartAddr.toNat + cfg.envTotalSize.toNat) :
    Holds cfg s.flash rs := by
  have hP := cfg.four_le_envParamPartByteSize
  obtain ⟨hn, hnd, hend, hdet, hdc⟩ := hw.reads (by omega)
  have he : envEndAddr cfg s.flash = s.cache.endAddr := by rw [envEndAddr, hsys, hend]
  have hendN := @endAddr_toNat cfg s (by omega)
  have hST := BitVec.toNat_add_of_lt hlt
  have hrun : s.cache.detail.take (detailSize cfg s).toNat = encodeRecords rs := by
    rw [hI.size]; exact (List.prefix_iff_eq_take.mp hI.run).symm
  refine ⟨hsys ▸ hI.slot, ?_, ?_, ?_, ?_, ?_, hI.keys, fun hc => ⟨?_, ?_⟩⟩
  · rw [hsys]; intro h
    have : (0xFFFFFFFF : BitVec 32).toNat = 2 ^ 32 - 1 := rfl
    rw [h] at hfit; omega
  · rw [hsys, BitVec.lt_def, hST]; omega
  · rw [he, BitVec.lt_def, hST]; omega
  · rw [imageDetail, hsys, he, ← hrun, ← hdet]; rfl
  · rw [← hI.capacity]; exact hI.run.length_le
  · rw [envParamPartByteSize_crc hc] at hn; omega
  · have hcrc := (hw.1 hc).symm.trans (calcEnvCrc_eq hI.slot hnd)
    rw [hsys, he, hdc hc, Option.some.inj hcrc, hrun]

/-- What `flash_save_env` does after its loop. -/
theorem flashSaveEnv_loop {r : FlashErrCode} (h : flashSaveEnv cfg s = some (s', r)) :
    s.curUsingDataAddr ≠ 0 ∧ cfg.envStartAddr ≠ 0 ∧ cfg.envTotalSize ≠ 0 ∧
      ∃ sL rL, saveLoop cfg (detailSize cfg s) (s.flash.pending.length + 1) .noErr s =
          some (sL, rL) ∧ sL.flash.log <+: s'.flash.log ∧ s'.cache = sL.cache ∧
        s'.curUsingDataAddr = sL.curUsingDataAddr ∧
        (∀ a, ¬ inRange cfg.envStartAddr 4 a → s'.flash.mem a = sL.flash.mem a) ∧
        (sL.curUsingDataAddr + detailSize cfg s < cfg.envStartAddr + cfg.envTotalSize →
          r = rL) ∧
        (¬ sL.curUsingDataAddr + detailSize cfg s < cfg.envStartAddr + cfg.envTotalSize →
          r = .envFull) := by
  rw [flashSaveEnv] at h
  obtain ⟨bak, hbak, h⟩ := Option.bind_eq_some.mp h
  obtain ⟨D, hD, h⟩ := Option.bind_eq_some.mp h
  obtain ⟨⟨sL, rL⟩, hL, h⟩ := Option.bind_eq_some.mp h
  obtain ⟨cur, hcur, h⟩ := Option.bind_eq_some.mp h
  obtain ⟨start, hstart, h⟩ := Option.bind_eq_some.mp h
  obtain ⟨total, htotal, h⟩ := Option.bind_eq_some.mp h
  obtain ⟨rfl, -⟩ := getEnvDetailSize_some hD
  obtain ⟨rfl, hb0⟩ := getCurUsingDataAddr_some hbak
  obtain ⟨rfl, -⟩ := getCurUsingDataAddr_some hcur
  obtain ⟨rfl, hs0⟩ := getEnvStartAddr_some hstart
  obtain rfl := flashGetEnvTotalSize_some htotal
  refine ⟨hb0, hs0, fun h0 => by simp [flashGetEnvTotalSize, h0] at htotal, sL, rL, hL, ?_⟩
  split at h
  · rename_i hg
    split at h
    · obtain ⟨⟨s2, r2⟩, h2, h⟩ := Option.bind_eq_some.mp h
      obtain ⟨rfl, rfl⟩ := Prod.mk.inj (Option.some.inj h)
      obtain ⟨e1, e2, e3⟩ := saveCurUsingDataAddr_spec h2
      exact ⟨saveCurUsingDataAddr_log h2, e1, e2, e3, fun _ => rfl, fun hn => absurd hg hn⟩
    · obtain ⟨rfl, rfl⟩ := Prod.mk.inj (Option.some.inj h)
      exact ⟨List.prefix_refl _, rfl, rfl, fun _ _ => rfl, fun _ => rfl, fun hn => absurd hg hn⟩
  · rename_i hg
    obtain ⟨⟨s2, r2⟩, h2, h⟩ := Option.bind_eq_some.mp h
    obtain ⟨rfl, rfl⟩ := Prod.mk.inj (Option.some.inj h)
    obtain ⟨e1, e2, e3⟩ := saveCurUsingDataAddr_spec h2
    exact ⟨saveCurUsingDataAddr_log h2, e1, e2, e3, fun hp => absurd hp hg, fun _ => rfl⟩

theorem flashSaveEnv_placed {r : FlashErrCode}
    (hlt : cfg.envStartAddr.toNat + cfg.envTotalSize.toNat < 2 ^ 32)
    (h : flashSaveEnv cfg s = some (s', r)) (hp : Placed cfg s') : r = .noErr := by
  obtain ⟨-, -, -, sL, rL, hL, -, e1, e2, -, hr, -⟩ := flashSaveEnv_loop h
  obtain ⟨hDs, -, hnoErr⟩ := saveLoop_spec hL
  have hfit := hp.2.2
  rw [show detailSize cfg s' = detailSize cfg s by rw [← hDs]; simp only [detailSize, e1, e2],
    e2] at hfit
  have hP := cfg.four_le_envParamPartByteSize
  have hg : sL.curUsingDataAddr + detailSize cfg s < cfg.envStartAddr + cfg.envTotalSize := by
    rw [BitVec.lt_def, BitVec.toNat_add_of_lt (by omega), BitVec.toNat_add_of_lt hlt]
    omega
  exact (hr hg).trans (hnoErr hg).1

theorem flashSaveEnv_holds {r : FlashErrCode} (hI : Stores cfg s rs)
    (h : flashSaveEnv cfg s = some (s', r))
    (hlt : cfg.envStartAddr.toNat + cfg.envTotalSize.toNat < 2 ^ 32) (hp : Placed cfg s') :
    Stores cfg s' rs ∧ Holds cfg s'.flash rs := by
  obtain rfl := flashSaveEnv_placed hlt h hp
  obtain ⟨sL, hw, hcur0, -, -, hDs, hdet, hcache, hcurE, hmem⟩ := flashSaveEnv_noErr h
  have hD : detailSize cfg s' = detailSize cfg s := by
    rw [← hDs]; simp only [detailSize, hcache, hcurE]
  have hI' : Stores cfg s' rs :=
    ⟨hcurE ▸ hcur0, by rw [hcache, hdet]; exact hI.capacity, by rw [hcache, hdet]; exact hI.run,
      by rw [hD]; exact hI.size, hI.keys⟩
  have hw' : Written cfg (detailSize cfg s') s' := by
    rw [hD]
    refine hw.frame hcache hcurE fun i hi => hmem _ (not_inRange_of_le ?_)
    have h4 : (4 : BitVec 32).toNat = 4 := rfl
    have := hp.2.1; have := hp.2.2
    rw [← hD] at hi
    simp only [BitVec.toNat_add, BitVec.toNat_ofNat] at hi
    rw [← hcurE, h4, BitVec.toNat_add, BitVec.toNat_ofNat]
    omega
  exact ⟨hI', hw'.holds hI' hlt hp.1 hp.2.2⟩

theorem flashEnvSetDefault_sys {t : Env} {r : FlashErrCode}
    (hlt : cfg.envStartAddr.toNat + cfg.envTotalSize.toNat < 2 ^ 32)
    (hcap : s.cache.detail.length = cfg.detailCapacity)
    (hc : Creates cfg [] cfg.defaultEnvSet) (h : flashEnvSetDefault cfg s = some (t, r))
    (hp : Placed cfg t) : Stores cfg t cfg.defaultEnvSet ∧ Holds cfg t.flash cfg.defaultEnvSet :=
  have ⟨_, _, _, hI, hsave⟩ := flashEnvSetDefault_spec hcap hc h
  flashSaveEnv_holds hI hsave hlt hp

end Image

/-! ## A store that ends at `2^32` -/

section Top

variable {cfg : Config} {s s' : Env}

theorem saveCurUsingDataAddr_healthy (hq : s.flash.pending = []) (hs : cfg.envStartAddr ≠ 0)
    (c : BitVec 32) :
    ∃ t, saveCurUsingDataAddr cfg s c = some (t, .noErr) ∧ t.flash.pending = [] ∧
      usingDataAddr cfg t.flash = c := by
  have he : (flashErase s.flash cfg.envStartAddr 4).1.pending = [] :=
    (Flash.call_healthy hq _ _ _ _ _).2
  have hw : (flashWrite (flashErase s.flash cfg.envStartAddr 4).1 cfg.envStartAddr
      (wordBytes c)).2 = .noErr ∧ (flashWrite (flashErase s.flash cfg.envStartAddr 4).1
      cfg.envStartAddr (wordBytes c)).1.pending = [] :=
    Flash.call_healthy he _ _ _ _ _
  have hst : getEnvStartAddr cfg = some cfg.envStartAddr := if_neg hs
  refine ⟨{ s with flash := (flashWrite (flashErase s.flash cfg.envStartAddr 4).1 cfg.envStartAddr
    (wordBytes c)).1 }, ?_, hw.2, ?_⟩
  · simp [saveCurUsingDataAddr, hst, flashErase, flashWrite, Flash.call, hq, Outcome.code]
  · rw [usingDataAddr, readWord, ← wordBytes_length c, flashRead_flashWrite hw.1 (by simp),
      wordOf_wordBytes]

/-- A store ending at `2^32` is never saved: the save only writes the sentinel to the system section
and returns `FLASH_ENV_FULL`. -/
theorem flashSaveEnv_top {r : FlashErrCode}
    (hT : cfg.envStartAddr.toNat + cfg.envTotalSize.toNat = 2 ^ 32)
    (h : flashSaveEnv cfg s = some (s', r)) :
    r = .envFull ∧ s'.cache = s.cache ∧ s'.curUsingDataAddr = s.curUsingDataAddr ∧
      (∀ a, ¬ inRange cfg.envStartAddr 4 a → s'.flash.mem a = s.flash.mem a) ∧
      (∃ r', saveCurUsingDataAddr cfg s 0xFFFFFFFF = some (s', r')) ∧
      (s.flash.pending = [] → usingDataAddr cfg s'.flash = 0xFFFFFFFF) := by
  have hnlt (x : BitVec 32) : ¬ x < cfg.envStartAddr + cfg.envTotalSize := by
    rw [BitVec.lt_def, BitVec.toNat_add, hT, Nat.mod_self]; omega
  obtain ⟨hb0, hs0, ht0, -⟩ := flashSaveEnv_loop h
  have hg := getCurUsingDataAddr_eq hb0
  have hst : getEnvStartAddr cfg = some cfg.envStartAddr := if_neg hs0
  have htot : flashGetEnvTotalSize cfg = some cfg.envTotalSize := if_neg ht0
  -- the loop's test fails at once, so the loop returns the state it was given
  have hL : saveLoop cfg (detailSize cfg s) (s.flash.pending.length + 1) .noErr s =
      some (s, .noErr) := by
    simp only [saveLoop, hg, hst, htot, Option.bind_eq_bind, Option.some_bind, hnlt, if_false]
    rfl
  rw [flashSaveEnv, hg, Option.bind_eq_bind, Option.some_bind, getEnvDetailSize_eq hb0,
    Option.bind_eq_bind, Option.some_bind, hL] at h
  simp only [Option.bind_eq_bind, Option.some_bind, hg, hst, htot, hnlt, if_false] at h
  obtain ⟨⟨s2, r2⟩, h2, h⟩ := Option.bind_eq_some.mp h
  cases h
  obtain ⟨e1, e2, e3⟩ := saveCurUsingDataAddr_spec h2
  refine ⟨rfl, e1, e2, e3, ⟨r2, h2⟩, fun hq => ?_⟩
  obtain ⟨t, ht, -, hu⟩ := saveCurUsingDataAddr_healthy hq hs0 0xFFFFFFFF
  rw [ht] at h2
  cases h2
  exact hu

end Top

/-- `crcConfig` moved to `0xFFFFFFE0`: the store ends at `2^32`. -/
def topEndConfig : Config := { crcConfig with envStartAddr := 0xFFFFFFE0 }

/-- The state `flash_env_init` leaves on the erased device with `topEndConfig`. -/
def topEndEnv : Env := (flashEnvInit topEndConfig erasedFlash fun _ => 0).getD crcEnv

theorem flashSaveEnv_top_topEndEnv :
    ∃ s' r, flashSaveEnv topEndConfig topEndEnv = some (s', r) ∧
      r = .envFull ∧ s'.cache = topEndEnv.cache ∧
      s'.curUsingDataAddr = topEndEnv.curUsingDataAddr ∧
      (∀ a, ¬ inRange topEndConfig.envStartAddr 4 a → s'.flash.mem a = topEndEnv.flash.mem a) ∧
      (∃ r', saveCurUsingDataAddr topEndConfig topEndEnv 0xFFFFFFFF = some (s', r')) ∧
      (topEndEnv.flash.pending = [] → usingDataAddr topEndConfig s'.flash = 0xFFFFFFFF) :=
  have h := Option.eq_some_of_isSome (by decide : (flashSaveEnv topEndConfig topEndEnv).isSome)
  ⟨_, _, h, flashSaveEnv_top (by decide) h⟩

/-! ## Runs of operations -/

/-- The records the module holds: in the cache, and on the flash from the last save. -/
structure Records where
  cached : List (CStr × CStr)
  persisted : List (CStr × CStr)

/-- The cache holds `m.cached` and the flash `m.persisted`. -/
structure Sys (cfg : Config) (s : Env) (m : Records) : Prop where
  stores : Stores cfg s m.cached
  holds : Holds cfg s.flash m.persisted

/-- What a client does with the module: a set or a delete, a save, `flash_env_set_default`, or
a power cycle, after which `flash_env_init` runs on the flash as it is, with a new cache holding
`heap`. -/
inductive Op where
  | call (c : Call)
  | save
  | setDefault
  | reboot (heap : Nat → Byte)

namespace Op

/-- The operation on the module. -/
def run (cfg : Config) (s : Env) : Op → Option (Env × FlashErrCode)
  | call c => c.run cfg s
  | save => flashSaveEnv cfg s
  | setDefault => flashEnvSetDefault cfg s
  | reboot heap => (flashEnvInit cfg s.flash heap).map fun t => (t, .noErr)

/-- The operation on the records: a call changes the cache's, a save copies them to the flash,
`flash_env_set_default` puts the defaults in both, a power cycle reads the flash's back. -/
def apply (cfg : Config) (m : Records) : Op → Records
  | call c => { m with cached := c.apply m.cached }
  | save => { m with persisted := m.cached }
  | setDefault => ⟨cfg.defaultEnvSet, cfg.defaultEnvSet⟩
  | reboot _ => { m with cached := m.persisted }

/-- The side conditions of an operation: a call's on the records in the cache, and those of the
creates of `flash_env_set_default`. -/
def Ok (cfg : Config) (m : Records) : Op → Prop
  | call c => c.Ok cfg m.cached
  | setDefault => Creates cfg [] cfg.defaultEnvSet
  | _ => True

instance (cfg : Config) (m : Records) : (op : Op) → Decidable (op.Ok cfg m)
  | call c => inferInstanceAs (Decidable (c.Ok cfg m.cached))
  | save => isTrue trivial
  | setDefault => inferInstanceAs (Decidable (Creates cfg [] cfg.defaultEnvSet))
  | reboot _ => isTrue trivial

/-- The operation saves: `flash_save_env`, and `flash_env_set_default`, which calls it. -/
def Saves : Op → Prop
  | save | setDefault => True
  | _ => False

end Op

/-- `ops` run from `s` to `t`, each returning `FLASH_NO_ERR`, and each that saves leaving its
section placed. -/
inductive Runs (cfg : Config) : Env → List Op → Env → Prop
  | nil (s : Env) : Runs cfg s [] s
  | cons {s t u : Env} {op : Op} {ops : List Op} :
      op.run cfg s = some (t, .noErr) → (op.Saves → Placed cfg t) → Runs cfg t ops u →
      Runs cfg s (op :: ops) u

/-- The side conditions of each operation on the records the operations before it leave. -/
def OpsOk (cfg : Config) : Records → List Op → Prop
  | _, [] => True
  | m, op :: ops => op.Ok cfg m ∧ OpsOk cfg (Op.apply cfg m op) ops

instance OpsOk.decidable (cfg : Config) :
    (m : Records) → (ops : List Op) → Decidable (OpsOk cfg m ops)
  | _, [] => isTrue trivial
  | m, op :: ops =>
    have := OpsOk.decidable cfg (Op.apply cfg m op) ops
    inferInstanceAs (Decidable (_ ∧ _))

section Run

variable {cfg : Config} {s t : Env} {m : Records}

theorem Holds.reboot {rs : List (CStr × CStr)} {heap : Nat → Byte} (h : Holds cfg s.flash rs)
    (hr : (Op.reboot heap).run cfg s = some (t, .noErr)) : Sys cfg t ⟨rs, rs⟩ := by
  obtain ⟨t', ht', he⟩ := Option.map_eq_some'.mp hr
  obtain rfl : t' = t := congrArg Prod.fst he
  obtain ⟨u, hu, hf, -, hI⟩ := h.init (flashEnvInit_accepted ht') heap
  obtain rfl : u = t' := Option.some.inj (hu.symm.trans ht')
  exact ⟨hI, hf ▸ h⟩

theorem Sys.step (hlt : cfg.envStartAddr.toNat + cfg.envTotalSize.toNat < 2 ^ 32) {op : Op}
    (hS : Sys cfg s m) (hok : op.Ok cfg m) (h : op.run cfg s = some (t, .noErr))
    (hp : op.Saves → Placed cfg t) : Sys cfg t (Op.apply cfg m op) := by
  cases op with
  | call c => exact ⟨Call.run_stores hS.stores hok h, (Call.run_cacheOnly h).2 ▸ hS.holds⟩
  | save =>
    obtain ⟨h1, h2⟩ := flashSaveEnv_holds hS.stores h hlt (hp trivial)
    exact ⟨h1, h2⟩
  | setDefault =>
    obtain ⟨h1, h2⟩ := flashEnvSetDefault_sys hlt hS.stores.capacity hok h (hp trivial)
    exact ⟨h1, h2⟩
  | reboot heap => exact hS.holds.reboot h

theorem Runs.sys (hlt : cfg.envStartAddr.toNat + cfg.envTotalSize.toNat < 2 ^ 32)
    {ops : List Op} (hr : Runs cfg s ops t) :
    ∀ {m}, Sys cfg s m → OpsOk cfg m ops → Sys cfg t (ops.foldl (Op.apply cfg) m) := by
  induction hr with
  | nil => exact fun hS _ => hS
  | cons h hp _ ih => exact fun hS hok => ih (hS.step hlt hok.1 h hp) hok.2

/-- Over every run of operations returning `FLASH_NO_ERR` under their side conditions, the cache and
the flash hold what the operations make of their record lists. -/
theorem runs_refine (hlt : cfg.envStartAddr.toNat + cfg.envTotalSize.toNat < 2 ^ 32)
    {rs : List (CStr × CStr)} {heap : Nat → Byte} {ops : List Op}
    (hf : Holds cfg s.flash rs) (hr : Runs cfg s (.reboot heap :: ops) t)
    (hok : OpsOk cfg ⟨rs, rs⟩ ops) : Sys cfg t (ops.foldl (Op.apply cfg) ⟨rs, rs⟩) := by
  cases hr with
  | cons h _ hr => exact hr.sys hlt (hf.reboot h) hok

end Run

theorem Runs.cons_of {cfg : Config} {s u : Env} {op : Op} {ops : List Op}
    (h : (op.run cfg s).map Prod.snd = some .noErr)
    (hp : op.Saves → Placed cfg (((op.run cfg s).map Prod.fst).getD s))
    (hr : Runs cfg (((op.run cfg s).map Prod.fst).getD s) ops u) : Runs cfg s (op :: ops) u := by
  obtain ⟨⟨t, r⟩, ht, rfl⟩ := Option.map_eq_some'.mp h
  rw [ht] at hp hr
  exact .cons ht hp hr

/-- On `crc8Image`: power on, set `xk` to `2`, save, power cycle, reset to the defaults. -/
theorem runs_refine_crc8Image :
    ∃ t, Runs crc8Config ⟨allocCache crc8Config fun _ => 0, 0, crc8Image⟩
        [.reboot fun _ => 0, .call (.set keyXK valueTwo), .save, .reboot fun _ => 0, .setDefault]
        t ∧
      Sys crc8Config t ([Op.call (.set keyXK valueTwo), .save, .reboot fun _ => 0,
        .setDefault].foldl (Op.apply crc8Config) ⟨[(keyK, valueB 5)], [(keyK, valueB 5)]⟩) :=
  have hr := Runs.cons_of (by decide) False.elim <|
    Runs.cons_of (by decide) False.elim <|
    Runs.cons_of (by decide) (fun _ => by decide) <|
    Runs.cons_of (by decide) False.elim <|
    Runs.cons_of (by decide) (fun _ => by decide) (.nil _)
  ⟨_, hr, runs_refine (by decide) (by decide) hr (by decide)⟩

/-! ## Unsaved calls -/

section Unsaved

variable {cfg : Config} {s : Env}

/-- Sets and deletes change only the cache, whatever they return: a power cycle brings back the
flash's records. -/
theorem runCalls_then_reboot {rs : List (CStr × CStr)} {cs : List Call} {s' : Env}
    {results : List FlashErrCode} (hacc : cfg.Accepted) (hf : Holds cfg s.flash rs)
    (hr : runCalls cfg s cs = some (s', results)) (heap : Nat → Byte) :
    ∃ t, flashEnvInit cfg s'.flash heap = some t ∧ Sys cfg t ⟨rs, rs⟩ := by
  rw [(runCalls_cacheOnly hr).2]
  obtain ⟨t, ht, htf, -, hI⟩ := hf.init hacc heap
  exact ⟨t, ht, hI, htf ▸ hf⟩

end Unsaved

/-- A state on `crc8Image` whose cache holds `k=bbbbb` and `xk=bbbbb`, as start-up and
`flash_set_env("xk", "bbbbb")` leave it, while the flash still holds `k=bbbbb` alone. -/
def crc8TwoEnv : Env where
  cache :=
    { endAddr := 0x120
      dataCrc := 0x2A7
      detail := encodeRecords [(keyK, valueB 5), (keyXK, valueB 5)] ++ List.replicate 4 0 }
  curUsingDataAddr := 0x104
  flash := crc8Image

/-- Two deletes of `xk` on `crc8TwoEnv`, the second failing with `FLASH_ENV_NAME_ERR`, then a power
cycle. -/
theorem runCalls_then_reboot_crc8TwoEnv :
    ∃ s' results, runCalls crc8Config crc8TwoEnv [.del keyXK, .del keyXK] =
        some (s', results) ∧
      ∃ t, flashEnvInit crc8Config s'.flash (fun _ => 0) = some t ∧
        Sys crc8Config t ⟨[(keyK, valueB 5)], [(keyK, valueB 5)]⟩ :=
  have hr := Option.eq_some_of_isSome
    (by decide : (runCalls crc8Config crc8TwoEnv [.del keyXK, .del keyXK]).isSome)
  ⟨_, _, hr, runCalls_then_reboot (by decide) (by decide) hr _⟩

end EasyFlash
