import EasyFlash.Healthy

/-!
# Bad blocks

The loop of `flash_save_env` is the module's wear leveling: an erase or a write that fails moves
the section one stride, `(size / flash_erase_min_size + 1) * flash_erase_min_size`, further into
the store, and the save tries again there. Here the device answers the next `N` attempts with
failures (`Fails`), each one an erase that fails or an erase that succeeds and a write that
fails, as on `N` bad blocks in a row, and every call after them succeeds.

- A pass whose write fails moves on as one whose erase fails does (`failedPass_of_writeErr`).
- The loop makes `N` failed passes, each one stride on (`passes_of_fails_within`).
- When the section `N` strides on still ends inside the store, the save writes it there, records
  the new slot in the system section (`flashSaveEnv_of_passes`) and returns `FLASH_NO_ERR`: the
  flash then holds the cache's records at the new slot, where the next start-up reads them
  (`flashSaveEnv_relocates`).
-/

namespace EasyFlash

/-- The device's answers to the next `n` attempts of the save loop, each one failing, with
nothing queued after them: an erase that fails, or an erase that succeeds and a write that
fails. -/
inductive Fails : Nat → List Outcome → Prop where
  | nil : Fails 0 []
  | erase {n : Nat} {q : List Outcome} (junk : BitVec 32 → Byte) :
      Fails n q → Fails (n + 1) (.fail junk :: q)
  | write {n : Nat} {q : List Outcome} (junk : BitVec 32 → Byte) :
      Fails n q → Fails (n + 1) (.ok :: .fail junk :: q)

theorem Fails.eq_nil {q : List Outcome} (h : Fails 0 q) : q = [] := by
  cases h; rfl

theorem Fails.le_length {n : Nat} {q : List Outcome} (h : Fails n q) : n ≤ q.length := by
  induction h with
  | nil => exact le_rfl
  | erase _ _ ih => simpa using ih
  | write _ _ ih => simp only [List.length_cons]; omega

section Relocate

variable {cfg : Config} {D : BitVec 32} {s : Env}

theorem failedPass_of_writeErr {junk : BitVec 32 → Byte} {rest : List Outcome}
    (hs : cfg.envStartAddr ≠ 0) (ht : cfg.envTotalSize ≠ 0) (h0 : s.curUsingDataAddr ≠ 0)
    (htest : s.curUsingDataAddr + D < cfg.envStartAddr + cfg.envTotalSize)
    (hn : cfg.envParamPartByteSize + D.toNat ≤ cfg.envTotalSize.toNat)
    (hd : D.toNat ≤ s.cache.detail.length)
    (hcrc : cfg.usingCrcCheck →
      8 ≤ cfg.envTotalSize.toNat ∧ (detailSize cfg s).toNat ≤ s.cache.detail.length)
    (hq : s.flash.pending = .ok :: .fail junk :: rest) :
    ∃ t, FailedPass cfg D s .writeErr t ∧ t.flash.pending = rest := by
  obtain ⟨c, hc⟩ := cacheEnvCrc_eq_some h0 hcrc
  have hg : getCurUsingDataAddr { s with cache := { s.cache with dataCrc := c } } =
      some s.curUsingDataAddr := getCurUsingDataAddr_eq h0
  have hsz := cfg.sectionSize_toNat hn
  obtain ⟨data, hb⟩ : ∃ data, readBytes ((paramPartBytes cfg { s.cache with dataCrc := c } ++
      s.cache.detail).take cfg.envTotalSize.toNat) 0 (cfg.envParamPartByteSize + D.toNat) =
        some data := ⟨_, readBytes_eq (by
      simp only [List.length_take, List.length_append, paramPartBytes_length]; omega)⟩
  let s1 : Env :=
    { s with
      cache := { s.cache with dataCrc := c }
      flash := (flashWrite (flashErase s.flash s.curUsingDataAddr
        (BitVec.ofNat 32 cfg.envParamPartByteSize + D)).1 s.curUsingDataAddr data).1 }
  refine ⟨_, ⟨hs, ht, h0, htest, s1, ?_, by decide, moveToNext_eq (s := s1) h0⟩, ?_⟩
  · simp only [saveAttempt, hc, hg, Option.bind_eq_bind, Option.some_bind, flashErase, Flash.call,
      hq, List.headD_cons, Outcome.code, if_neg (show FlashErrCode.noErr ≠ .eraseErr by decide),
      cacheBytes, hsz, hb, s1, flashWrite, List.tail_cons]
    rfl
  · simp [s1, flashErase, flashWrite, Flash.call, hq]

theorem Fails.failedPass {n : Nat} {q : List Outcome} (hF : Fails (n + 1) q)
    (hq : s.flash.pending = q) (hs : cfg.envStartAddr ≠ 0) (ht : cfg.envTotalSize ≠ 0)
    (h0 : s.curUsingDataAddr ≠ 0)
    (htest : s.curUsingDataAddr + D < cfg.envStartAddr + cfg.envTotalSize)
    (hn : cfg.envParamPartByteSize + D.toNat ≤ cfg.envTotalSize.toNat)
    (hd : D.toNat ≤ s.cache.detail.length)
    (hcrc : cfg.usingCrcCheck →
      8 ≤ cfg.envTotalSize.toNat ∧ (detailSize cfg s).toNat ≤ s.cache.detail.length) :
    ∃ r t, FailedPass cfg D s r t ∧ Fails n t.flash.pending := by
  cases hF with
  | erase junk hF =>
    obtain ⟨t, hp, hqt⟩ := failedPass_of_eraseErr hs ht h0 htest hcrc hq
    exact ⟨_, t, hp, hqt ▸ hF⟩
  | write junk hF =>
    obtain ⟨t, hp, hqt⟩ := failedPass_of_writeErr hs ht h0 htest hn hd hcrc hq
    exact ⟨_, t, hp, hqt ▸ hF⟩

theorem passes_of_fails_within (hs : cfg.envStartAddr ≠ 0) (ht : cfg.envTotalSize ≠ 0)
    (hlt : cfg.envStartAddr.toNat + cfg.envTotalSize.toNat < 2 ^ 32)
    (hn : cfg.envParamPartByteSize + D.toNat ≤ cfg.envTotalSize.toNat) :
    ∀ (N : Nat) (s : Env), Fails N s.flash.pending → s.curUsingDataAddr ≠ 0 →
      s.curUsingDataAddr.toNat + N * (moveOffsetAddr cfg D).toNat + D.toNat <
        cfg.envStartAddr.toNat + cfg.envTotalSize.toNat →
      D.toNat ≤ s.cache.detail.length →
      (cfg.usingCrcCheck →
        8 ≤ cfg.envTotalSize.toNat ∧ (detailSize cfg s).toNat ≤ s.cache.detail.length) →
      ∃ t, Passes cfg D N s t ∧
        t.curUsingDataAddr.toNat = s.curUsingDataAddr.toNat + N * (moveOffsetAddr cfg D).toNat ∧
        t.flash.pending = []
  | 0, s, hF, _, _, _, _ => ⟨s, .refl s, by simp, hF.eq_nil⟩
  | N + 1, s, hF, h0, hfit, hd, hcrc => by
    rw [Nat.succ_mul] at hfit
    have htest : s.curUsingDataAddr + D < cfg.envStartAddr + cfg.envTotalSize := by
      rw [BitVec.lt_def, BitVec.toNat_add_of_lt (by omega), BitVec.toNat_add_of_lt hlt]; omega
    obtain ⟨r, t1, hp, hF1⟩ := hF.failedPass rfl hs ht h0 htest hn hd hcrc
    obtain ⟨e1, -, e3, e4⟩ := hp.moves
    have hc1 : t1.curUsingDataAddr.toNat =
        s.curUsingDataAddr.toNat + (moveOffsetAddr cfg D).toNat := by
      rw [e1, BitVec.toNat_add_of_lt (by omega)]
    have h00 : (0 : BitVec 32).toNat = 0 := rfl
    have h10 : t1.curUsingDataAddr ≠ 0 := fun h => h0 (BitVec.toNat_eq.mpr (by
      have := congrArg BitVec.toNat h
      rw [hc1, h00] at this
      rw [h00]; omega))
    obtain ⟨t, hpt, hct, hqt⟩ := passes_of_fails_within hs ht hlt hn N t1 hF1 h10 (by omega)
      (by rw [e3]; exact hd) (by rw [e3, e4]; exact hcrc)
    exact ⟨t, .step hp hpt, by rw [hct, hc1, Nat.succ_mul]; omega, hqt⟩

theorem flashSaveEnv_of_passes {N : Nat} {tN t' : Env} (hs : cfg.envStartAddr ≠ 0)
    (ht : cfg.envTotalSize ≠ 0) (h0 : s.curUsingDataAddr ≠ 0)
    (hp : Passes cfg (detailSize cfg s) N s tN) (hN : N ≤ s.flash.pending.length)
    (h0N : tN.curUsingDataAddr ≠ 0)
    (htestN : tN.curUsingDataAddr + detailSize cfg s < cfg.envStartAddr + cfg.envTotalSize)
    (hA : saveAttempt cfg (detailSize cfg s) tN = some (t', .noErr))
    (hq : t'.flash.pending = []) (hne : tN.curUsingDataAddr ≠ s.curUsingDataAddr) :
    ∃ u, flashSaveEnv cfg s = some (u, .noErr) ∧ u.cache = t'.cache ∧
      u.curUsingDataAddr = tN.curUsingDataAddr ∧ u.flash.pending = [] ∧
      usingDataAddr cfg u.flash = tN.curUsingDataAddr := by
  have hc' := (saveAttempt_spec hA).1
  obtain ⟨r, hr⟩ := hp.saveLoop_eq .noErr
  have hL : saveLoop cfg (detailSize cfg s) (s.flash.pending.length + 1) .noErr s =
      some (t', .noErr) := by
    rw [show s.flash.pending.length + 1 = N + (s.flash.pending.length - N + 1) by omega, hr]
    exact saveLoop_one hs ht h0N htestN hA _ r
  obtain ⟨u, hsave, hqu, hnamed⟩ := saveCurUsingDataAddr_healthy hq hs t'.curUsingDataAddr
  obtain ⟨e1, e2, -⟩ := saveCurUsingDataAddr_spec hsave
  refine ⟨u, ?_, e1, e2.trans hc', hqu, hnamed.trans hc'⟩
  have hne' : t'.curUsingDataAddr ≠ s.curUsingDataAddr := hc' ▸ hne
  rw [flashSaveEnv, getCurUsingDataAddr_eq h0, Option.bind_eq_bind, Option.some_bind,
    getEnvDetailSize_eq h0, Option.bind_eq_bind, Option.some_bind, hL]
  simp only [Option.bind_eq_bind, Option.some_bind, getCurUsingDataAddr_eq (hc' ▸ h0N),
    show getEnvStartAddr cfg = _ from if_neg hs, show flashGetEnvTotalSize cfg = _ from if_neg ht,
    if_pos (hc' ▸ htestN), ne_eq, hne', not_false_eq_true, if_true, hsave]
  rfl

/-- A save past `N ≥ 1` bad blocks in a row moves the section `N` strides on, names the new slot in
the system section and leaves the records on the flash. -/
theorem flashSaveEnv_relocates {N : Nat} {rs : List (CStr × CStr)}
    (hlt : cfg.envStartAddr.toNat + cfg.envTotalSize.toNat < 2 ^ 32) (hs : cfg.envStartAddr ≠ 0)
    (hI : Stores cfg s rs) (hm : 0 < (moveOffsetAddr cfg (detailSize cfg s)).toNat) (hN : 0 < N)
    (hq : Fails N s.flash.pending)
    (h4 : cfg.envStartAddr.toNat + 4 ≤ s.curUsingDataAddr.toNat)
    (hfit : s.curUsingDataAddr.toNat + N * (moveOffsetAddr cfg (detailSize cfg s)).toNat +
      cfg.envParamPartByteSize + (detailSize cfg s).toNat ≤
        cfg.envStartAddr.toNat + cfg.envTotalSize.toNat) :
    ∃ t, flashSaveEnv cfg s = some (t, .noErr) ∧
      t.curUsingDataAddr.toNat =
        s.curUsingDataAddr.toNat + N * (moveOffsetAddr cfg (detailSize cfg s)).toNat ∧
      t.flash.pending = [] ∧ Placed cfg t ∧ Sys cfg t ⟨rs, rs⟩ := by
  have hP := cfg.four_le_envParamPartByteSize
  have hd : (detailSize cfg s).toNat ≤ s.cache.detail.length := hI.size ▸ hI.run.length_le
  have ht : cfg.envTotalSize ≠ 0 := fun h => by
    have : cfg.envTotalSize.toNat = 0 := by rw [h]; rfl
    omega
  have h00 : (0 : BitVec 32).toNat = 0 := rfl
  obtain ⟨tN, hp, hcN, hqN⟩ := @passes_of_fails_within cfg (detailSize cfg s) hs ht hlt
    (by omega) N s hq hI.slot (by omega) hd
    (fun hc => ⟨by rw [envParamPartByteSize_crc hc] at hfit; omega, hd⟩)
  obtain ⟨hDN, hdetN⟩ := hp.keeps
  have h0N : tN.curUsingDataAddr ≠ 0 := fun h => by rw [h, h00] at hcN; omega
  have htestN : tN.curUsingDataAddr + detailSize cfg s < cfg.envStartAddr + cfg.envTotalSize := by
    rw [BitVec.lt_def, BitVec.toNat_add_of_lt (by omega), BitVec.toNat_add_of_lt hlt]; omega
  obtain ⟨t', hA, hq'⟩ := @saveAttempt_healthy_some cfg tN hqN h0N (by rw [hDN]; omega)
    (by rw [hDN, hdetN]; exact hd)
  rw [hDN] at hA
  obtain ⟨-, he', -, -⟩ := saveAttempt_spec hA
  have hNm := Nat.le_mul_of_pos_left (moveOffsetAddr cfg (detailSize cfg s)).toNat hN
  have hne : tN.curUsingDataAddr ≠ s.curUsingDataAddr := fun h => by rw [h] at hcN; omega
  obtain ⟨u, h, e1, e2, hqu, hnamed⟩ :=
    flashSaveEnv_of_passes hs ht hI.slot hp hq.le_length h0N htestN hA hq' hne
  have hDu : detailSize cfg u = detailSize cfg s := by
    rw [← hDN]; simp only [detailSize, e1, e2, he']
  have hpu : Placed cfg u :=
    ⟨hnamed.trans e2.symm, by rw [e2, hcN]; omega, by rw [hDu, e2, hcN]; omega⟩
  obtain ⟨h1, h2⟩ := flashSaveEnv_holds hI h hlt hpu
  exact ⟨u, h, by rw [e2, hcN], hqu, hpu, h1, h2⟩

end Relocate

/-- `crcEnv` on a device whose first erase fails, and whose next write fails after the erase
before it succeeds. -/
def crcBadBlocks : Env :=
  { crcEnv with flash := { crcEnv.flash with
      pending := [.fail fun _ => 0xFF, .ok, .fail fun _ => 0] } }

/-- On `crcBadBlocks` the section moves two strides, past a failed erase and a failed write. -/
theorem flashSaveEnv_relocates_crcBadBlocks :
    ∃ t, flashSaveEnv crcConfig crcBadBlocks = some (t, .noErr) ∧
      t.curUsingDataAddr.toNat = crcBadBlocks.curUsingDataAddr.toNat +
        2 * (moveOffsetAddr crcConfig (detailSize crcConfig crcBadBlocks)).toNat ∧
      t.flash.pending = [] ∧ Placed crcConfig t ∧
      Sys crcConfig t ⟨[(keyK, valueOne)], [(keyK, valueOne)]⟩ :=
  flashSaveEnv_relocates (by decide) (by decide) (by decide) (by decide) (by decide)
    (.erase _ (.write _ .nil)) (by decide) (by decide)

end EasyFlash
