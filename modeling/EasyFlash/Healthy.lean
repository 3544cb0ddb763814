import EasyFlash.Recovery

/-!
# A device that never fails

With no failure queued on the device (`f.pending = []`) every erase and write succeeds. The loop
of `flash_save_env` then makes one attempt at most, at the slot it starts from, and the attempt
succeeds: the section never moves. The module moves its section only after a failed erase or
write, so on such a device each save erases and rewrites the same flash in place.

- A save from a state whose section is placed returns `FLASH_NO_ERR` at the same slot and leaves
  the cache's records on the flash (`flashSaveEnv_healthy`). Unlike a save on any device, this
  one is known to return, and the placement afterwards follows from the placement before.
- Over whole runs the slot stays where the first start-up found it. The module refines the two
  record lists with no side condition on the states the saves leave, only that each section a
  save writes fits at that slot (`healthy_runs_refine`).
- A save whose slot fails the loop's test returns `FLASH_ENV_FULL` and writes the sentinel
  `0xFFFFFFFF` to the system section. The next start-up then drops every record the flash held,
  moves the section back to the first slot and installs the defaults
  (`flashSaveEnv_full_reboot`). `write_env` accepts a record while the detail size stays below
  `env_total_size`, but the loop's test also counts the slot's offset in the store, so a set
  that returns `FLASH_NO_ERR` can make the next save full (`wideFullEnv`).
-/

namespace EasyFlash

/-! ## One save -/

section Save

variable {cfg : Config} {s t : Env} {D : BitVec 32} {r : FlashErrCode}

theorem saveAttempt_healthy (hq : s.flash.pending = []) (h : saveAttempt cfg D s = some (t, r)) :
    r = .noErr ∧ t.flash.pending = [] := by
  simp only [saveAttempt, Option.bind_eq_bind, Option.bind_eq_some] at h
  obtain ⟨s1, h1, cur, -, h⟩ := h
  rw [(cacheEnvCrc_eq h1).1] at h
  have he := Flash.call_healthy hq (.erase cur (BitVec.ofNat 32 cfg.envParamPartByteSize + D)) cur
    (BitVec.ofNat 32 cfg.envParamPartByteSize + D) (fun _ => 0xFF) .eraseErr
  split at h
  · exact absurd (he.1.symm.trans ‹_›) (by decide)
  · obtain ⟨data, -, h⟩ := Option.bind_eq_some.mp h
    cases h
    exact Flash.call_healthy he.2 _ _ _ _ _

theorem saveAttempt_healthy_some (hq : s.flash.pending = []) (h0 : s.curUsingDataAddr ≠ 0)
    (hn : cfg.envParamPartByteSize + (detailSize cfg s).toNat ≤ cfg.envTotalSize.toNat)
    (hd : (detailSize cfg s).toNat ≤ s.cache.detail.length) :
    ∃ t, saveAttempt cfg (detailSize cfg s) s = some (t, .noErr) ∧ t.flash.pending = [] := by
  obtain ⟨c, hc⟩ := cacheEnvCrc_eq_some h0 fun hc =>
    ⟨by rw [envParamPartByteSize_crc hc] at hn; omega, hd⟩
  have hg : getCurUsingDataAddr { s with cache := { s.cache with dataCrc := c } } =
      some s.curUsingDataAddr := getCurUsingDataAddr_eq h0
  have hsz := cfg.sectionSize_toNat hn
  have hb : readBytes ((paramPartBytes cfg { s.cache with dataCrc := c } ++ s.cache.detail).take
      cfg.envTotalSize.toNat) 0 (cfg.envParamPartByteSize + (detailSize cfg s).toNat) =
      some _ := readBytes_eq (by
        simp only [List.length_take, List.length_append, paramPartBytes_length]; omega)
  have : (saveAttempt cfg (detailSize cfg s) s).isSome := by
    simp only [saveAttempt, hc, hg, Option.bind_eq_bind, Option.some_bind, flashErase, Flash.call,
      hq, List.headD_nil, Outcome.code, if_neg (show FlashErrCode.noErr ≠ .eraseErr by decide),
      cacheBytes, hsz, hb]
    rfl
  obtain ⟨⟨t, r⟩, ht⟩ := Option.isSome_iff_exists.mp this
  obtain ⟨rfl, hqt⟩ := saveAttempt_healthy hq ht
  exact ⟨t, ht, hqt⟩

theorem saveAttempt_mem_out (h : saveAttempt cfg D s = some (t, r)) {a : BitVec 32}
    (ha : ¬ inRange s.curUsingDataAddr (BitVec.ofNat 32 cfg.envParamPartByteSize + D) a) :
    t.flash.mem a = s.flash.mem a := by
  simp only [saveAttempt, Option.bind_eq_bind, Option.bind_eq_some] at h
  obtain ⟨s1, h1, cur, hcur, h⟩ := h
  have e1 := (cacheEnvCrc_eq h1).1
  rw [e1] at h hcur
  obtain ⟨rfl, -⟩ := getCurUsingDataAddr_some hcur
  split at h
  · cases h; exact flashErase_mem_out _ ha
  · obtain ⟨data, hdata, h⟩ := Option.bind_eq_some.mp h
    cases h
    have hl : BitVec.ofNat 32 data.length = BitVec.ofNat 32 cfg.envParamPartByteSize + D := by
      rw [readBytes_length hdata, BitVec.ofNat_toNat, BitVec.setWidth_eq]
    exact (flashWrite_mem_out _ (hl ▸ ha)).trans (flashErase_mem_out _ ha)

theorem saveLoop_one (hs : cfg.envStartAddr ≠ 0) (ht : cfg.envTotalSize ≠ 0)
    (h0 : s.curUsingDataAddr ≠ 0)
    (htest : s.curUsingDataAddr + D < cfg.envStartAddr + cfg.envTotalSize)
    (hA : saveAttempt cfg D s = some (t, .noErr)) (fuel : Nat) (res : FlashErrCode) :
    saveLoop cfg D (fuel + 1) res s = some (t, .noErr) := by
  simp only [saveLoop, getCurUsingDataAddr_eq h0, show getEnvStartAddr cfg = _ from if_neg hs,
    show flashGetEnvTotalSize cfg = _ from if_neg ht, Option.bind_eq_bind, Option.some_bind,
    if_pos htest, hA]
  rfl

theorem flashSaveEnv_of_attempt (hq : s.flash.pending = []) (hs : cfg.envStartAddr ≠ 0)
    (ht : cfg.envTotalSize ≠ 0) (h0 : s.curUsingDataAddr ≠ 0)
    (htest : s.curUsingDataAddr + detailSize cfg s < cfg.envStartAddr + cfg.envTotalSize)
    (hA : saveAttempt cfg (detailSize cfg s) s = some (t, .noErr)) :
    flashSaveEnv cfg s = some (t, .noErr) := by
  have hcur := (saveAttempt_spec hA).1
  have hst : getEnvStartAddr cfg = some cfg.envStartAddr := if_neg hs
  have htot : flashGetEnvTotalSize cfg = some cfg.envTotalSize := if_neg ht
  have hL := saveLoop_one hs ht h0 htest hA 0 .noErr
  rw [flashSaveEnv, getCurUsingDataAddr_eq h0, Option.bind_eq_bind, Option.some_bind,
    getEnvDetailSize_eq h0, Option.bind_eq_bind, Option.some_bind, hq, List.length_nil, hL]
  simp only [Option.bind_eq_bind, Option.some_bind, getCurUsingDataAddr_eq (hcur ▸ h0), hst, htot,
    hcur, if_pos htest, ne_eq, not_true_eq_false, if_false]
  rfl

theorem flashSaveEnv_healthy_placed
    (hlt : cfg.envStartAddr.toNat + cfg.envTotalSize.toNat < 2 ^ 32) (hs : cfg.envStartAddr ≠ 0)
    (hq : s.flash.pending = []) (h0 : s.curUsingDataAddr ≠ 0)
    (hd : (detailSize cfg s).toNat ≤ s.cache.detail.length) (hp : Placed cfg s) :
    ∃ t, flashSaveEnv cfg s = some (t, .noErr) ∧ t.curUsingDataAddr = s.curUsingDataAddr ∧
      t.flash.pending = [] ∧ Placed cfg t := by
  obtain ⟨hsys, h4, hfit⟩ := hp
  have hP := cfg.four_le_envParamPartByteSize
  obtain ⟨t, hA, hqt⟩ := saveAttempt_healthy_some hq h0 (by omega) hd
  obtain ⟨hcur, hend, -, -⟩ := saveAttempt_spec hA
  have hD : detailSize cfg t = detailSize cfg s := by simp only [detailSize, hcur, hend]
  have hsz := cfg.sectionSize_toNat (D := detailSize cfg s) (by omega)
  have htest : s.curUsingDataAddr + detailSize cfg s < cfg.envStartAddr + cfg.envTotalSize := by
    rw [BitVec.lt_def, BitVec.toNat_add_of_lt (by omega), BitVec.toNat_add_of_lt hlt]; omega
  have ht : cfg.envTotalSize ≠ 0 := fun h => by
    have : cfg.envTotalSize.toNat = 0 := by rw [h]; rfl
    omega
  refine ⟨t, flashSaveEnv_of_attempt hq hs ht h0 htest hA, hcur, hqt, ?_, hcur ▸ h4,
    by rw [hcur, hD]; exact hfit⟩
  rw [usingDataAddr, readWord_below (fun _ => saveAttempt_mem_out hA) h4 (by omega),
    ← usingDataAddr, hsys, hcur]

end Save

/-- `ops` run from `s` to `t`, each returning `FLASH_NO_ERR`. -/
inductive Steps (cfg : Config) : Env → List Op → Env → Prop
  | nil (s : Env) : Steps cfg s [] s
  | cons {s t u : Env} {op : Op} {ops : List Op} :
      op.run cfg s = some (t, .noErr) → Steps cfg t ops u → Steps cfg s (op :: ops) u

/-- The section of the records `rs` fits at the slot `p`, inside the store. -/
def FitsAt (cfg : Config) (p : BitVec 32) (rs : List (CStr × CStr)) : Prop :=
  p.toNat + cfg.envParamPartByteSize + (encodeRecords rs).length ≤
    cfg.envStartAddr.toNat + cfg.envTotalSize.toNat

instance (cfg : Config) (p : BitVec 32) (rs : List (CStr × CStr)) : Decidable (FitsAt cfg p rs) :=
  inferInstanceAs (Decidable (_ ≤ _))

/-- The section an operation saves fits at `p`: the cache's records for a save, the defaults for
`flash_env_set_default`. -/
def Op.Fits (cfg : Config) (p : BitVec 32) (m : Records) : Op → Prop
  | .save => FitsAt cfg p m.cached
  | .setDefault => FitsAt cfg p cfg.defaultEnvSet
  | _ => True

instance (cfg : Config) (p : BitVec 32) (m : Records) : (op : Op) → Decidable (op.Fits cfg p m)
  | .call _ => isTrue trivial
  | .save => inferInstanceAs (Decidable (FitsAt cfg p m.cached))
  | .setDefault => inferInstanceAs (Decidable (FitsAt cfg p cfg.defaultEnvSet))
  | .reboot _ => isTrue trivial

/-- The section each saving operation of `ops` writes, on the records the operations before it
leave, fits at `p`. -/
def OpsFit (cfg : Config) (p : BitVec 32) : Records → List Op → Prop
  | _, [] => True
  | m, op :: ops => op.Fits cfg p m ∧ OpsFit cfg p (Op.apply cfg m op) ops

instance OpsFit.decidable (cfg : Config) (p : BitVec 32) :
    (m : Records) → (ops : List Op) → Decidable (OpsFit cfg p m ops)
  | _, [] => isTrue trivial
  | m, op :: ops =>
    have := OpsFit.decidable cfg p (Op.apply cfg m op) ops
    inferInstanceAs (Decidable (_ ∧ _))

/-- The module at the slot `p` on a device with no failure queued: the cache and the flash hold
`m`, the slot and the system section are `p`, and `p` lies after the system section. -/
structure AtSlot (cfg : Config) (p : BitVec 32) (s : Env) (m : Records) : Prop where
  sys : Sys cfg s m
  slot : s.curUsingDataAddr = p
  named : usingDataAddr cfg s.flash = p
  healthy : s.flash.pending = []
  after : cfg.envStartAddr.toNat + 4 ≤ p.toNat

section Run

variable {cfg : Config} {p : BitVec 32} {s t : Env} {m : Records}

theorem FitsAt.placed {rs : List (CStr × CStr)} (hfit : FitsAt cfg p rs) (hI : Stores cfg s rs)
    (hslot : s.curUsingDataAddr = p) (hnamed : usingDataAddr cfg s.flash = p)
    (hafter : cfg.envStartAddr.toNat + 4 ≤ p.toNat) : Placed cfg s := by
  refine ⟨hnamed.trans hslot.symm, hslot ▸ hafter, ?_⟩
  rw [hI.size, hslot]
  exact hfit

theorem Holds.atSlot {rs : List (CStr × CStr)} {heap : Nat → Byte} (hf : Holds cfg s.flash rs)
    (hq : s.flash.pending = [])
    (h4 : cfg.envStartAddr.toNat + 4 ≤ (usingDataAddr cfg s.flash).toNat)
    (h : (Op.reboot heap).run cfg s = some (t, .noErr)) :
    AtSlot cfg (usingDataAddr cfg s.flash) t ⟨rs, rs⟩ := by
  obtain ⟨u, hu, he⟩ := Option.map_eq_some'.mp h
  obtain rfl : u = t := congrArg Prod.fst he
  obtain ⟨v, hv, hvf, hvc, -⟩ := hf.init (flashEnvInit_accepted hu) heap
  obtain rfl := Option.some.inj (hu.symm.trans hv)
  exact ⟨hf.reboot h, hvc, by rw [hvf], hvf ▸ hq, h4⟩

theorem flashSaveEnv_healthy_result {rs : List (CStr × CStr)} {r : FlashErrCode}
    (hlt : cfg.envStartAddr.toNat + cfg.envTotalSize.toNat < 2 ^ 32) (hs : cfg.envStartAddr ≠ 0)
    (hI : Stores cfg s rs) (hp : Placed cfg s) (hq : s.flash.pending = [])
    (h : flashSaveEnv cfg s = some (t, r)) :
    r = .noErr ∧ t.curUsingDataAddr = s.curUsingDataAddr ∧ t.flash.pending = [] ∧ Placed cfg t := by
  obtain ⟨t', h', hcur, hqt, hpt⟩ :=
    flashSaveEnv_healthy_placed hlt hs hq hI.slot (hI.size ▸ hI.run.length_le) hp
  obtain ⟨rfl, rfl⟩ := Prod.mk.inj (Option.some.inj (h.symm.trans h'))
  exact ⟨rfl, hcur, hqt, hpt⟩

theorem AtSlot.step (hlt : cfg.envStartAddr.toNat + cfg.envTotalSize.toNat < 2 ^ 32)
    (hs : cfg.envStartAddr ≠ 0) {op : Op} (hA : AtSlot cfg p s m) (hok : op.Ok cfg m)
    (hfit : op.Fits cfg p m) (h : op.run cfg s = some (t, .noErr)) :
    AtSlot cfg p t (Op.apply cfg m op) := by
  cases op with
  | call c =>
    obtain ⟨e1, e2⟩ := Call.run_cacheOnly h
    exact ⟨hA.sys.step hlt hok h False.elim, e1.trans hA.slot, e2 ▸ hA.named, e2 ▸ hA.healthy,
      hA.after⟩
  | save =>
    have hI := hA.sys.stores
    obtain ⟨-, e1, hq, hpt⟩ := flashSaveEnv_healthy_result hlt hs hI
      (hfit.placed hI hA.slot hA.named hA.after) hA.healthy h
    exact ⟨hA.sys.step hlt hok h fun _ => hpt, e1.trans hA.slot, hpt.1.trans (e1.trans hA.slot),
      hq, hA.after⟩
  | setDefault =>
    obtain ⟨-, h0, s₁, r₁, h1, h2⟩ := flashEnvSetDefault_inv h
    obtain ⟨c1, c2⟩ := createEnvs_cacheOnly h1
    have hI1 : Stores cfg s₁ cfg.defaultEnvSet := by
      simpa using createEnvs_creates (stores_nil h0 hA.sys.stores.capacity) hok h1
    obtain ⟨-, e1, hq, hpt⟩ := flashSaveEnv_healthy_result hlt hs hI1
      (hfit.placed hI1 (c1.trans hA.slot) (c2 ▸ hA.named) hA.after) (c2 ▸ hA.healthy) h2
    exact ⟨hA.sys.step hlt hok h fun _ => hpt, e1.trans (c1.trans hA.slot),
      hpt.1.trans (e1.trans (c1.trans hA.slot)), hq, hA.after⟩
  | reboot heap =>
    have := hA.sys.holds.atSlot hA.healthy (hA.named ▸ hA.after) h
    rwa [hA.named] at this

theorem Steps.atSlot (hlt : cfg.envStartAddr.toNat + cfg.envTotalSize.toNat < 2 ^ 32)
    (hs : cfg.envStartAddr ≠ 0) {ops : List Op} (hr : Steps cfg s ops t) :
    ∀ {m}, AtSlot cfg p s m → OpsOk cfg m ops → OpsFit cfg p m ops →
      AtSlot cfg p t (ops.foldl (Op.apply cfg) m) := by
  induction hr with
  | nil => exact fun hA _ _ => hA
  | cons h _ ih => exact fun hA hok hfit => ih (hA.step hlt hs hok.1 hfit.1 h) hok.2 hfit.2

/-- On a device that never fails the section never moves, and every run refines the two record lists
when each save fits at the slot. -/
theorem healthy_runs_refine (hlt : cfg.envStartAddr.toNat + cfg.envTotalSize.toNat < 2 ^ 32)
    (hs : cfg.envStartAddr ≠ 0) {rs : List (CStr × CStr)} {heap : Nat → Byte} {ops : List Op}
    (hf : Holds cfg s.flash rs) (hq : s.flash.pending = [])
    (h4 : cfg.envStartAddr.toNat + 4 ≤ (usingDataAddr cfg s.flash).toNat)
    (hr : Steps cfg s (.reboot heap :: ops) t) (hok : OpsOk cfg ⟨rs, rs⟩ ops)
    (hfit : OpsFit cfg (usingDataAddr cfg s.flash) ⟨rs, rs⟩ ops) :
    t.curUsingDataAddr = usingDataAddr cfg s.flash ∧
      usingDataAddr cfg t.flash = usingDataAddr cfg s.flash ∧ t.flash.pending = [] ∧
      Sys cfg t (ops.foldl (Op.apply cfg) ⟨rs, rs⟩) := by
  cases hr with
  | cons h hr =>
    obtain ⟨hS, e1, e2, hq', -⟩ := hr.atSlot hlt hs (hf.atSlot hq h4 h) hok hfit
    exact ⟨e1, e2, hq', hS⟩

end Run

theorem Steps.cons_of {cfg : Config} {s u : Env} {op : Op} {ops : List Op}
    (h : (op.run cfg s).map Prod.snd = some .noErr)
    (hr : Steps cfg (((op.run cfg s).map Prod.fst).getD s) ops u) : Steps cfg s (op :: ops) u := by
  obtain ⟨⟨t, r⟩, ht, rfl⟩ := Option.map_eq_some'.mp h
  rw [ht] at hr
  exact .cons ht hr

/-- On `crc8Image`: power on, set `xk` to `2`, save, power cycle, reset to the defaults. -/
theorem healthy_runs_refine_crc8Image :
    ∃ t, Steps crc8Config ⟨allocCache crc8Config fun _ => 0, 0, crc8Image⟩
        [.reboot fun _ => 0, .call (.set keyXK valueTwo), .save, .reboot fun _ => 0, .setDefault]
        t ∧
      t.curUsingDataAddr = usingDataAddr crc8Config crc8Image ∧
      usingDataAddr crc8Config t.flash = usingDataAddr crc8Config crc8Image ∧
      t.flash.pending = [] ∧
      Sys crc8Config t ([Op.call (.set keyXK valueTwo), .save, .reboot fun _ => 0,
        .setDefault].foldl (Op.apply crc8Config) ⟨[(keyK, valueB 5)], [(keyK, valueB 5)]⟩) :=
  have hr := Steps.cons_of (by decide) <| Steps.cons_of (by decide) <| Steps.cons_of (by decide) <|
    Steps.cons_of (by decide) <| Steps.cons_of (by decide) (.nil _)
  ⟨_, hr, healthy_runs_refine (s := ⟨allocCache crc8Config fun _ => 0, 0, crc8Image⟩) (by decide)
    (by decide) (by decide) rfl (by decide) hr (by decide) (by decide)⟩

/-! ## A full store -/

section Full

variable {cfg : Config} {s t : Env}

theorem flashSaveEnv_healthy_full (hq : s.flash.pending = []) (hs : cfg.envStartAddr ≠ 0)
    (ht : cfg.envTotalSize ≠ 0) (h0 : s.curUsingDataAddr ≠ 0)
    (hfull : ¬ s.curUsingDataAddr + detailSize cfg s < cfg.envStartAddr + cfg.envTotalSize) :
    ∃ t, flashSaveEnv cfg s = some (t, .envFull) ∧ t.flash.pending = [] ∧
      usingDataAddr cfg t.flash = 0xFFFFFFFF := by
  obtain ⟨t, h, hqt, hu⟩ := saveCurUsingDataAddr_healthy hq hs 0xFFFFFFFF
  have hst : getEnvStartAddr cfg = some cfg.envStartAddr := if_neg hs
  have htot : flashGetEnvTotalSize cfg = some cfg.envTotalSize := if_neg ht
  have hL : saveLoop cfg (detailSize cfg s) 1 .noErr s = some (s, .noErr) := by
    simp only [saveLoop, getCurUsingDataAddr_eq h0, hst, htot, Option.bind_eq_bind,
      Option.some_bind, if_neg hfull]
    rfl
  refine ⟨t, ?_, hqt, hu⟩
  rw [flashSaveEnv, getCurUsingDataAddr_eq h0, Option.bind_eq_bind, Option.some_bind,
    getEnvDetailSize_eq h0, Option.bind_eq_bind, Option.some_bind, hq, List.length_nil, hL]
  simp only [Option.bind_eq_bind, Option.some_bind, getCurUsingDataAddr_eq h0, hst, htot,
    if_neg hfull, h]
  rfl

theorem flashEnvSetDefault_healthy
    (hlt : cfg.envStartAddr.toNat + cfg.envTotalSize.toNat < 2 ^ 32) (hs : cfg.envStartAddr ≠ 0)
    (hne : cfg.defaultEnvSet.length ≠ 0) (hc : Creates cfg [] cfg.defaultEnvSet)
    (hq : s.flash.pending = []) (h0 : s.curUsingDataAddr ≠ 0)
    (hcap : s.cache.detail.length = cfg.detailCapacity)
    (hnamed : usingDataAddr cfg s.flash = s.curUsingDataAddr)
    (h4 : cfg.envStartAddr.toNat + 4 ≤ s.curUsingDataAddr.toNat)
    (hfit : FitsAt cfg s.curUsingDataAddr cfg.defaultEnvSet) :
    ∃ t, flashEnvSetDefault cfg s = some (t, .noErr) ∧
      t.curUsingDataAddr = s.curUsingDataAddr ∧ t.flash.pending = [] ∧
      Sys cfg t ⟨cfg.defaultEnvSet, cfg.defaultEnvSet⟩ := by
  obtain ⟨s₁, h1, hI⟩ := createEnvs_some (stores_nil h0 hcap) hc
  rw [List.nil_append] at hI
  obtain ⟨c1, c2⟩ := createEnvs_cacheOnly h1
  obtain ⟨t, h2, hcur, hqt, hpt⟩ := flashSaveEnv_healthy_placed hlt hs (c2 ▸ hq) hI.slot
    (hI.size ▸ hI.run.length_le) (hfit.placed hI c1 (c2 ▸ hnamed) h4)
  obtain ⟨hI', hf'⟩ := flashSaveEnv_holds hI h2 hlt hpt
  refine ⟨t, ?_, hcur.trans c1, hqt, hI', hf'⟩
  rw [flashEnvSetDefault, if_neg hne, getEnvDetailAddr_eq h0]
  simp only [Option.bind_eq_bind, Option.some_bind, h1, h2]
  rfl

theorem flashEnvInit_unset_healthy {f : Flash}
    (hlt : cfg.envStartAddr.toNat + cfg.envTotalSize.toNat < 2 ^ 32) (hacc : cfg.Accepted)
    (hne : cfg.defaultEnvSet.length ≠ 0) (hc : Creates cfg [] cfg.defaultEnvSet)
    (h4 : cfg.envStartAddr.toNat + 4 ≤ (cfg.envStartAddr + cfg.flashEraseMinSize).toNat)
    (hfit : FitsAt cfg (cfg.envStartAddr + cfg.flashEraseMinSize) cfg.defaultEnvSet)
    (hq : f.pending = [])
    (hu : usingDataAddr cfg f = 0xFFFFFFFF ∨
      cfg.envStartAddr + cfg.envTotalSize < usingDataAddr cfg f) (heap : Nat → Byte) :
    ∃ t, flashEnvInit cfg f heap = some t ∧
      t.curUsingDataAddr = cfg.envStartAddr + cfg.flashEraseMinSize ∧ t.flash.pending = [] ∧
      Sys cfg t ⟨cfg.defaultEnvSet, cfg.defaultEnvSet⟩ := by
  have h0 : cfg.envStartAddr + cfg.flashEraseMinSize ≠ 0 := fun h => by
    have : (cfg.envStartAddr + cfg.flashEraseMinSize).toNat = 0 := by rw [h]; rfl
    omega
  let s₀ : Env := setCurUsingDataAddr ⟨allocCache cfg heap, 0, f⟩
    (cfg.envStartAddr + cfg.flashEraseMinSize)
  obtain ⟨u, hsave, hqu, hnamed⟩ := saveCurUsingDataAddr_healthy (s := s₀) hq hacc.1
    (cfg.envStartAddr + cfg.flashEraseMinSize)
  obtain ⟨e1, e2, -⟩ := saveCurUsingDataAddr_spec hsave
  obtain ⟨t, hset, hcur, hqt, hS⟩ := flashEnvSetDefault_healthy hlt hacc.1 hne hc hqu (e2 ▸ h0)
    (by simp [e1, s₀, allocCache]) (hnamed.trans e2.symm) (e2 ▸ h4) (e2 ▸ hfit)
  refine ⟨t, ?_, hcur.trans e2, hqt, hS⟩
  have hu' : readWord f.mem cfg.envStartAddr = 0xFFFFFFFF ∨
      cfg.envStartAddr + cfg.envTotalSize < readWord f.mem cfg.envStartAddr := hu
  have hg : getCurUsingDataAddr s₀ = some (cfg.envStartAddr + cfg.flashEraseMinSize) := if_neg h0
  rw [flashEnvInit, if_pos hacc, flashLoadEnv, show getEnvStartAddr cfg = _ from if_neg hacc.1,
    Option.bind_eq_bind, Option.some_bind]
  dsimp only
  rw [if_pos hu']
  simp only [Option.bind_eq_bind, Option.some_bind, hg, hsave, hset]
  rfl

/-- On a device that never fails, a save that fails the loop's test writes the sentinel, and the
next start-up drops every record for the defaults. -/
theorem flashSaveEnv_full_reboot
    (hlt : cfg.envStartAddr.toNat + cfg.envTotalSize.toNat < 2 ^ 32) (hacc : cfg.Accepted)
    (hne : cfg.defaultEnvSet.length ≠ 0) (hc : Creates cfg [] cfg.defaultEnvSet)
    (h4 : cfg.envStartAddr.toNat + 4 ≤ (cfg.envStartAddr + cfg.flashEraseMinSize).toNat)
    (hfit : FitsAt cfg (cfg.envStartAddr + cfg.flashEraseMinSize) cfg.defaultEnvSet)
    (hq : s.flash.pending = []) (h0 : s.curUsingDataAddr ≠ 0)
    (hfull : ¬ s.curUsingDataAddr + detailSize cfg s < cfg.envStartAddr + cfg.envTotalSize)
    (heap : Nat → Byte) :
    ∃ t, flashSaveEnv cfg s = some (t, .envFull) ∧
      ∃ u, flashEnvInit cfg t.flash heap = some u ∧
        u.curUsingDataAddr = cfg.envStartAddr + cfg.flashEraseMinSize ∧
        Sys cfg u ⟨cfg.defaultEnvSet, cfg.defaultEnvSet⟩ := by
  obtain ⟨t, h, hqt, hu⟩ := flashSaveEnv_healthy_full hq hacc.1 hacc.2.1 h0 hfull
  obtain ⟨u, hi, hcur, -, hS⟩ :=
    flashEnvInit_unset_healthy hlt hacc hne hc h4 hfit hqt (.inl hu) heap
  exact ⟨t, h, u, hi, hcur, hS⟩

end Full

/-- `wideConfig` after start-up and `flash_set_env("xk", "bbbbbbb")`, which returns
`FLASH_NO_ERR`: `0x110 + 16` fails the loop's test at the end `0x120`. -/
def wideFullEnv : Env :=
  ((flashEnvInit wideConfig erasedFlash fun _ => 0).bind fun s =>
    (flashSetEnv wideConfig s keyXK (valueB 7)).map Prod.fst).getD crcEnv

theorem flashSaveEnv_full_reboot_wideFullEnv :
    ∃ t, flashSaveEnv wideConfig wideFullEnv = some (t, .envFull) ∧
      ∃ u, flashEnvInit wideConfig t.flash (fun _ => 0) = some u ∧
        u.curUsingDataAddr = wideConfig.envStartAddr + wideConfig.flashEraseMinSize ∧
        Sys wideConfig u ⟨wideConfig.defaultEnvSet, wideConfig.defaultEnvSet⟩ :=
  flashSaveEnv_full_reboot (by decide) (by decide) (by decide) (by decide) (by decide) (by decide)
    rfl (by decide) (by decide) _

end EasyFlash
