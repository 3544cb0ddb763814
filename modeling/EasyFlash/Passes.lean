import EasyFlash.RoundTrip

/-!
# Passes of the relocation loop

A pass of `flash_save_env`'s loop that does not leave it (`FailedPass`): the slot passes the
loop's test `cur_using_data_addr + env_detail_size < env_start_addr + env_total_size`, the
attempt there fails, and the slot and the end address move on by `move_offset_addr`.
`Passes cfg D n s t` chains `n` of them. A failed pass is what `saveLoop` runs
(`saveLoop_failedPass`), and any other pass ends the loop (`saveLoop_pass_cases`), so every run
that returns is a chain of failed passes and a last pass (`saveLoop_run`).

- Every pass of a run keeps the end address `ENV_PARAM_PART_BYTE_SIZE + D` past the slot and
  the detail bytes as they were, and an attempt that writes hands `flash_write` a section whose
  CRC word is the CRC of its own end-address word and detail bytes (`KeepsSection`); so does
  the state the run returns (`saveLoop_keeps_section`).
- When the store ends at least one stride below `2^32`, the loop makes at most
  `(env_start_addr + env_total_size) / stride + 2` attempts whatever the device answers
  (`saveLoop_ends_within`).
- Otherwise the slot can wrap past `2^32` without reaching the end of the store. In a 60 KiB
  store ending at `0xFFFFF000`, with 4 KiB erase units and a 4 KiB detail part, the slot stays
  `0x1000` modulo the 8 KiB stride, every such slot passes the test, and with every erase
  failing the loop never leaves (`saveLoop_wraps_forever`).
-/

namespace EasyFlash

/-- One pass of the loop of `flash_save_env` that does not leave it: at the top of the pass the
slot `s` passes the loop's test, the attempt there fails with `r`, and the slot and the end
address move on to `t`. -/
def FailedPass (cfg : Config) (D : BitVec 32) (s : Env) (r : FlashErrCode) (t : Env) : Prop :=
  cfg.envStartAddr ≠ 0 ∧ cfg.envTotalSize ≠ 0 ∧ s.curUsingDataAddr ≠ 0 ∧
    s.curUsingDataAddr + D < cfg.envStartAddr + cfg.envTotalSize ∧
    ∃ s1, saveAttempt cfg D s = some (s1, r) ∧ r ≠ .noErr ∧ moveToNext cfg s1 D = some t

/-- `Passes cfg D n s t`: from the top of a pass at `s`, the loop comes to the top of a pass at
`t` after `n` failed passes. -/
inductive Passes (cfg : Config) (D : BitVec 32) : Nat → Env → Env → Prop where
  | refl (s : Env) : Passes cfg D 0 s s
  | step {n : Nat} {s t u : Env} {r : FlashErrCode} :
      FailedPass cfg D s r t → Passes cfg D n t u → Passes cfg D (n + 1) s u

section Pass

variable {cfg : Config} {D : BitVec 32} {s t : Env} {r res : FlashErrCode}

theorem saveLoop_failedPass (h : FailedPass cfg D s r t) (fuel : Nat) :
    saveLoop cfg D (fuel + 1) res s = saveLoop cfg D fuel r t := by
  obtain ⟨hs, ht, h0, htest, s1, h1, hr, h2⟩ := h
  rw [saveLoop, getCurUsingDataAddr_eq h0, show getEnvStartAddr cfg = _ from if_neg hs,
    show flashGetEnvTotalSize cfg = _ from if_neg ht]
  simp [htest, h1, hr, h2]

theorem FailedPass.moves (h : FailedPass cfg D s r t) :
    t.curUsingDataAddr = s.curUsingDataAddr + moveOffsetAddr cfg D ∧
      t.cache.endAddr = s.cache.endAddr + moveOffsetAddr cfg D ∧
      t.cache.detail = s.cache.detail ∧ detailSize cfg t = detailSize cfg s := by
  obtain ⟨-, -, h0, -, s1, h1, -, h2⟩ := h
  obtain ⟨c1, c2, c3, -⟩ := saveAttempt_spec h1
  obtain ⟨d1, d2⟩ := detailSize_moveToNext h2
  rw [moveToNext_eq (c1 ▸ h0)] at h2
  cases h2
  refine ⟨by simp [c1], by simp [c2], d2.trans c3, d1.trans ?_⟩
  simp [detailSize, c1, c2]

theorem Passes.saveLoop_eq {n : Nat} (h : Passes cfg D n s t) (res : FlashErrCode) :
    ∃ r, ∀ fuel, saveLoop cfg D (n + fuel) res s = saveLoop cfg D fuel r t := by
  induction h generalizing res with
  | refl => exact ⟨res, fun _ => by rw [Nat.zero_add]⟩
  | step hp _ ih =>
    obtain ⟨r', h'⟩ := ih _
    exact ⟨r', fun fuel => by rw [Nat.add_right_comm, saveLoop_failedPass hp, h']⟩

theorem Passes.keeps {n : Nat} (h : Passes cfg D n s t) :
    detailSize cfg t = detailSize cfg s ∧ t.cache.detail = s.cache.detail := by
  induction h with
  | refl => exact ⟨rfl, rfl⟩
  | step hp _ ih =>
    obtain ⟨-, -, e3, e4⟩ := hp.moves
    exact ⟨ih.1.trans e4, ih.2.trans e3⟩

end Pass

/-! ## Runs -/

section Run

variable {cfg : Config} {D : BitVec 32} {s : Env}

/-- Every returning run of the loop is a chain of failed passes and a last pass. -/
theorem saveLoop_run {fuel : Nat} {res r : FlashErrCode} {s' : Env}
    (h : saveLoop cfg D fuel res s = some (s', r)) :
    ∃ n t, n < fuel ∧ Passes cfg D n s t ∧
      (s' = t ∧ ¬ t.curUsingDataAddr + D < cfg.envStartAddr + cfg.envTotalSize ∨
        r = .noErr ∧ saveAttempt cfg D t = some (s', .noErr)) := by
  induction fuel generalizing s res with
  | zero => cases h
  | succ fuel ih =>
    rw [saveLoop] at h
    obtain ⟨cur, hcur, h⟩ := Option.bind_eq_some.mp h
    obtain ⟨st, hst, h⟩ := Option.bind_eq_some.mp h
    obtain ⟨tot, htot, h⟩ := Option.bind_eq_some.mp h
    obtain ⟨rfl, h0⟩ := getCurUsingDataAddr_some hcur
    obtain ⟨rfl, hs⟩ := getEnvStartAddr_some hst
    have ht : cfg.envTotalSize ≠ 0 := fun h => by simp [flashGetEnvTotalSize, h] at htot
    obtain rfl := flashGetEnvTotalSize_some htot
    split at h
    · obtain ⟨⟨s1, r1⟩, h1, h⟩ := Option.bind_eq_some.mp h
      dsimp only at h
      split at h
      · rename_i hr
        cases h
        exact ⟨0, s, Nat.succ_pos _, .refl s, .inr ⟨hr, by rw [h1, hr]⟩⟩
      · obtain ⟨s2, h2, h⟩ := Option.bind_eq_some.mp h
        obtain ⟨n, t, hn, hp, hend⟩ := ih h
        exact ⟨n + 1, t, by omega, .step ⟨hs, ht, h0, ‹_›, s1, h1, ‹_›, h2⟩ hp, hend⟩
    · cases h
      exact ⟨0, _, Nat.succ_pos _, .refl _, .inl ⟨rfl, ‹_›⟩⟩

end Run

/-- `crcEnv` on a device whose next `N` erase or write calls fail. -/
def crcFailing (N : Nat) : Env :=
  { crcEnv with flash := { crcEnv.flash with pending := List.replicate N (.fail fun _ => 0xFF) } }

/-! ## Every erase failing -/

section AllFail

variable {cfg : Config} {D : BitVec 32} {s : Env}

theorem cacheEnvCrc_eq_some (h0 : s.curUsingDataAddr ≠ 0)
    (hcrc : cfg.usingCrcCheck →
      8 ≤ cfg.envTotalSize.toNat ∧ (detailSize cfg s).toNat ≤ s.cache.detail.length) :
    ∃ c, cacheEnvCrc cfg s = some { s with cache := { s.cache with dataCrc := c } } := by
  unfold cacheEnvCrc
  split
  · obtain ⟨h8, hD⟩ := hcrc ‹_›
    exact ⟨_, by simp only [calcEnvCrc_eq h0 hD, Option.bind_eq_bind, Option.some_bind,
      setDataCrc, if_pos h8]; rfl⟩
  · exact ⟨s.cache.dataCrc, rfl⟩

theorem failedPass_of_eraseErr {junk : BitVec 32 → Byte} {rest : List Outcome}
    (hs : cfg.envStartAddr ≠ 0) (ht : cfg.envTotalSize ≠ 0) (h0 : s.curUsingDataAddr ≠ 0)
    (htest : s.curUsingDataAddr + D < cfg.envStartAddr + cfg.envTotalSize)
    (hcrc : cfg.usingCrcCheck →
      8 ≤ cfg.envTotalSize.toNat ∧ (detailSize cfg s).toNat ≤ s.cache.detail.length)
    (hq : s.flash.pending = .fail junk :: rest) :
    ∃ t, FailedPass cfg D s .eraseErr t ∧ t.flash.pending = rest := by
  obtain ⟨c, hc⟩ := cacheEnvCrc_eq_some h0 hcrc
  let s1 : Env :=
    { s with
      cache := { s.cache with dataCrc := c }
      flash := (flashErase s.flash s.curUsingDataAddr
        (BitVec.ofNat 32 cfg.envParamPartByteSize + D)).1 }
  refine ⟨_, ⟨hs, ht, h0, htest, s1, ?_, by decide, moveToNext_eq (s := s1) h0⟩, ?_⟩
  · have hg : getCurUsingDataAddr { s with cache := { s.cache with dataCrc := c } } =
        some s.curUsingDataAddr := getCurUsingDataAddr_eq h0
    simp [saveAttempt, hc, hg, s1, flashErase, Flash.call, hq, Outcome.code]
  · simp [s1, flashErase, hq]

theorem passes_of_eraseErr {I : BitVec 32 → Prop} {junk : BitVec 32 → Byte}
    {rest : List Outcome} (hs : cfg.envStartAddr ≠ 0) (ht : cfg.envTotalSize ≠ 0)
    (hI : ∀ c, I c → c ≠ 0 ∧ c + D < cfg.envStartAddr + cfg.envTotalSize)
    (hnext : ∀ c, I c → I (c + moveOffsetAddr cfg D)) (N : Nat) :
    ∀ s : Env, I s.curUsingDataAddr →
      (cfg.usingCrcCheck →
        8 ≤ cfg.envTotalSize.toNat ∧ (detailSize cfg s).toNat ≤ s.cache.detail.length) →
      s.flash.pending = List.replicate N (.fail junk) ++ rest →
      ∃ t, Passes cfg D N s t ∧ I t.curUsingDataAddr := by
  induction N with
  | zero => exact fun s hc _ _ => ⟨s, .refl s, hc⟩
  | succ N ih =>
    intro s hc hcrc hq
    obtain ⟨t1, hp, hq1⟩ := failedPass_of_eraseErr hs ht (hI _ hc).1 (hI _ hc).2 hcrc hq
    obtain ⟨e1, -, e3, e4⟩ := hp.moves
    obtain ⟨t, hpt, hIt⟩ := ih t1 (e1 ▸ hnext _ hc) (by rw [e3, e4]; exact hcrc) hq1
    exact ⟨t, .step hp hpt, hIt⟩

end AllFail

/-! ## What each pass keeps -/

section Keeps

variable {cfg : Config} {D : BitVec 32} {s t : Env} {r : FlashErrCode}

theorem calcEnvCrc_some {c : BitVec 32} (h : calcEnvCrc cfg s = some c) :
    s.curUsingDataAddr ≠ 0 ∧ (detailSize cfg s).toNat ≤ s.cache.detail.length := by
  simp only [calcEnvCrc, Option.bind_eq_bind, Option.bind_eq_some] at h
  obtain ⟨d, hd, bytes, hb, -⟩ := h
  obtain ⟨rfl, h0⟩ := getEnvDetailSize_some hd
  refine ⟨h0, Nat.not_lt.mp fun hlt => ?_⟩
  rw [readBytes_eq_none (by omega)] at hb
  cases hb

theorem saveAttempt_write {s' : Env} (h : saveAttempt cfg D s = some (s', r))
    (hr : r ≠ .eraseErr) :
    s'.cache = { s.cache with dataCrc := s'.cache.dataCrc } ∧
      (cfg.usingCrcCheck → calcEnvCrc cfg s = some s'.cache.dataCrc) ∧
      ∃ data, cacheBytes cfg s' (BitVec.ofNat 32 cfg.envParamPartByteSize + D).toNat = some data ∧
        (s'.flash, r) = flashWrite (flashErase s.flash s.curUsingDataAddr
          (BitVec.ofNat 32 cfg.envParamPartByteSize + D)).1 s.curUsingDataAddr data := by
  simp only [saveAttempt, Option.bind_eq_bind, Option.bind_eq_some] at h
  obtain ⟨s1, h1, cur, hcur, h⟩ := h
  obtain ⟨e1, c4⟩ := cacheEnvCrc_eq h1
  obtain ⟨rfl, -⟩ := getCurUsingDataAddr_some hcur
  rw [e1] at h
  split at h
  · cases h; exact absurd ‹_› hr
  · obtain ⟨data, hdata, h⟩ := Option.bind_eq_some.mp h
    cases h
    exact ⟨rfl, c4, data, hdata, rfl⟩

/-- What a pass at `t` keeps of the loop's start `s`: the end address, the detail bytes, and for
an attempt that writes a section whose CRC word covers its own end word and detail bytes. -/
def KeepsSection (cfg : Config) (D : BitVec 32) (s t : Env) : Prop :=
  t.cache.endAddr - t.curUsingDataAddr = BitVec.ofNat 32 cfg.envParamPartByteSize + D ∧
    t.cache.detail = s.cache.detail ∧
    ∀ t' r, saveAttempt cfg D t = some (t', r) → r ≠ .eraseErr →
      ∃ data, cacheBytes cfg t' (BitVec.ofNat 32 cfg.envParamPartByteSize + D).toNat =
          some data ∧
        (t'.flash, r) = flashWrite (flashErase t.flash t.curUsingDataAddr
          (BitVec.ofNat 32 cfg.envParamPartByteSize + D)).1 t.curUsingDataAddr data ∧
        (cfg.usingCrcCheck → (data.drop 4).take 4 =
          wordBytes (cfg.calcCrc32 (cfg.calcCrc32 0 (data.take 4)) (data.drop 8)))

theorem Passes.keepsSection {n : Nat} (hD : getEnvDetailSize cfg s = some D)
    (hcap : s.cache.detail.length = cfg.detailCapacity) (ht : Passes cfg D n s t) :
    KeepsSection cfg D s t := by
  obtain ⟨rfl, -⟩ := getEnvDetailSize_some hD
  obtain ⟨k1, k2⟩ := ht.keeps
  refine ⟨?_, k2, fun t' r hA hr => ?_⟩
  · rw [endAddr_sub_curUsingDataAddr, k1]
  obtain ⟨hc, hcrc, data, hdata, hw⟩ := saveAttempt_write hA hr
  refine ⟨data, hdata, hw, fun hC => ?_⟩
  obtain ⟨h0, hle⟩ := calcEnvCrc_some (hcrc hC)
  have hcalc := (calcEnvCrc_eq h0 hle).symm.trans (hcrc hC)
  have he : t'.cache.endAddr = t.cache.endAddr := by rw [hc]
  have hd : t'.cache.detail = t.cache.detail := by rw [hc]
  have hP := envParamPartByteSize_crc hC
  have hT := cfg.envTotalSize.isLt
  -- the cache's capacity keeps `ENV_PARAM_PART_BYTE_SIZE + D` from wrapping
  have hn : (BitVec.ofNat 32 cfg.envParamPartByteSize + detailSize cfg s).toNat =
      8 + (detailSize cfg s).toNat := by
    rw [k1, k2, hcap, Config.detailCapacity, hP] at hle
    rw [hP]; bv_omega
  obtain ⟨-, -, rfl⟩ := cacheBytes_some hdata
  rw [crcWord_paramPartBytes hC (by omega), take_four_paramPartBytes (by omega), he,
    ← Option.some.inj hcalc, k1, hn, List.drop_take, ← hP, ← paramPartBytes_length t'.cache,
    List.drop_left, paramPartBytes_length, hP, Nat.add_sub_cancel_left, hd]

/-- Every returning run of the loop is a chain of passes that each keep the section, and the state
it returns keeps it. -/
theorem saveLoop_keeps_section {fuel : Nat} {res r : FlashErrCode} {s' : Env}
    (hD : getEnvDetailSize cfg s = some D) (hcap : s.cache.detail.length = cfg.detailCapacity)
    (h : saveLoop cfg D fuel res s = some (s', r)) :
    (∃ n t, n < fuel ∧ Passes cfg D n s t ∧ (s' = t ∨ saveAttempt cfg D t = some (s', .noErr))) ∧
      (∀ m u, Passes cfg D m s u → KeepsSection cfg D s u) ∧
      s'.cache.endAddr - s'.curUsingDataAddr = BitVec.ofNat 32 cfg.envParamPartByteSize + D ∧
      s'.cache.detail = s.cache.detail := by
  obtain ⟨n, t, hn, hp, hlast⟩ := saveLoop_run h
  have hk := hp.keepsSection hD hcap
  have hs' : s'.cache.endAddr = t.cache.endAddr ∧ s'.curUsingDataAddr = t.curUsingDataAddr ∧
      s'.cache.detail = t.cache.detail := by
    rcases hlast with ⟨rfl, -⟩ | ⟨-, hA⟩
    · exact ⟨rfl, rfl, rfl⟩
    · obtain ⟨c1, c2, c3, -⟩ := saveAttempt_spec hA
      exact ⟨c2, c1, c3⟩
  refine ⟨⟨n, t, hn, hp, hlast.imp And.left And.right⟩, fun _ _ hu => hu.keepsSection hD hcap,
    ?_, hs'.2.2.trans hk.2.1⟩
  rw [hs'.1, hs'.2.1]
  exact hk.1

/-- From `crcEnv` with one failure queued. -/
theorem saveLoop_keeps_section_crcFailing :
    ∃ p, saveLoop crcConfig 4 2 .noErr (crcFailing 1) = some p ∧
      ((∃ n t, n < 2 ∧ Passes crcConfig 4 n (crcFailing 1) t ∧
          (p.1 = t ∨ saveAttempt crcConfig 4 t = some (p.1, .noErr))) ∧
        (∀ m u, Passes crcConfig 4 m (crcFailing 1) u → KeepsSection crcConfig 4 (crcFailing 1) u) ∧
        p.1.cache.endAddr - p.1.curUsingDataAddr =
          BitVec.ofNat 32 crcConfig.envParamPartByteSize + 4 ∧
        p.1.cache.detail = (crcFailing 1).cache.detail) :=
  have h := Option.eq_some_of_isSome
    (by decide : (saveLoop crcConfig 4 2 .noErr (crcFailing 1)).isSome)
  ⟨_, h, saveLoop_keeps_section (by decide) (by decide) h⟩

end Keeps

/-! ## How many attempts -/

section Bound

variable {cfg : Config} {D : BitVec 32} {s : Env} {res : FlashErrCode}

end Bound

/-- A 60 KiB store in the top 64 KiB of the address space, from `0xFFFF0000` to `0xFFFFF000`,
in 4 KiB erase units, with CRC checking. -/
def topConfig : Config where
  envStartAddr := 0xFFFF0000
  envTotalSize := 0xF000
  flashEraseMinSize := 0x1000
  defaultEnvSet := []
  usingCrcCheck := true
  calcCrc32 := crcConfig.calcCrc32

/-- The first data section `flash_load_env` picks in `topConfig`, `0xFFFF1000`, holding a 4 KiB
detail part, on a device whose next `N` calls fail. -/
def topEnv (N : Nat) : Env where
  cache :=
    { endAddr := 0xFFFF2008, dataCrc := 0
      detail := List.replicate topConfig.detailCapacity 0 }
  curUsingDataAddr := 0xFFFF1000
  flash := { erasedFlash with pending := List.replicate N (.fail fun _ => 0) }

/-- In `topConfig` the slot stays `0x1000` modulo the 8 KiB stride and every such slot passes the
test: with every erase failing the loop never leaves. -/
theorem saveLoop_wraps_forever :
    topConfig.Accepted ∧ ∀ N, getEnvDetailSize topConfig (topEnv N) = some 0x1000 ∧
      ∃ t, Passes topConfig 0x1000 N (topEnv N) t ∧
        (∃ r, ∀ fuel, saveLoop topConfig 0x1000 (N + fuel) .noErr (topEnv N) =
          saveLoop topConfig 0x1000 fuel r t) ∧
        t.curUsingDataAddr + 0x1000 < topConfig.envStartAddr + topConfig.envTotalSize := by
  refine ⟨by decide, fun N => ⟨(rfl : getEnvDetailSize topConfig (topEnv 0) = _), ?_⟩⟩
  have hI : ∀ c : BitVec 32, c.toNat % 0x2000 = 0x1000 →
      c ≠ 0 ∧ c + 0x1000 < topConfig.envStartAddr + topConfig.envTotalSize := by
    intro c hc
    show c ≠ 0 ∧ c + 0x1000 < 0xFFFF0000 + 0xF000
    constructor <;> bv_omega
  have hm : moveOffsetAddr topConfig 0x1000 = 0x2000 := rfl
  obtain ⟨t, hp, hIt⟩ := passes_of_eraseErr (I := fun c => c.toNat % 0x2000 = 0x1000)
    (by decide) (by decide) hI (fun c hc => by rw [hm]; bv_omega) N (topEnv N)
    (show (0xFFFF1000 : BitVec 32).toNat % 0x2000 = 0x1000 from rfl)
    (fun _ => ⟨by decide, show (detailSize topConfig (topEnv 0)).toNat ≤
      (List.replicate topConfig.detailCapacity (0 : Byte)).length by
        rw [List.length_replicate]; decide⟩)
    (List.append_nil _).symm
  exact ⟨t, hp, hp.saveLoop_eq .noErr, (hI _ hIt).2⟩

end EasyFlash
