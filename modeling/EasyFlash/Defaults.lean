import EasyFlash.Calls

/-!
# The defaults

`flash_env_set_default` empties the detail part, makes a `create_env` call for each default,
ignoring its result, and saves. Each create appends its record when its key is one `create_env`
accepts, no stored record passes `find_env`'s test for it, and the record fits (`Creates`); then
the cache holds every default, in order (`flashEnvSetDefault_spec`). `flash_load_env` takes this
path at start-up when the system section names no slot in the store, after it has written the
first slot there (`flashLoadEnv_unset`).
-/

namespace EasyFlash

section Create

variable {cfg : Config} {s s' : Env} {key value : CStr} {rs : List (CStr × CStr)}
  {r : FlashErrCode}

theorem writeEnv_noErr_of_room (hn : key.bytes.length + value.bytes.length + 2 ≤ 65532)
    (hroom : (detailSize cfg s).toNat + align4 (key.bytes.length + value.bytes.length + 2) <
      cfg.envTotalSize.toNat)
    (h : writeEnv cfg s key value = some (s', r)) : r = .noErr := by
  simp only [writeEnv, Option.bind_eq_bind, Option.bind_eq_some] at h
  obtain ⟨d, hd, T, hT, h⟩ := h
  obtain ⟨rfl, -⟩ := getEnvDetailSize_some hd
  obtain rfl := flashGetEnvTotalSize_some hT
  split at h
  · rename_i hle
    rw [envStrLength_setWidth hn, BitVec.le_def, BitVec.toNat_add, BitVec.toNat_ofNat] at hle
    have := (le_align4 (key.bytes.length + value.bytes.length + 2)).2
    have := cfg.envTotalSize.isLt
    omega
  · simp only [Option.bind_eq_bind, Option.bind_eq_some, pure, Option.some.injEq,
      Prod.mk.injEq] at h
    obtain ⟨-, -, -, -, -, rfl⟩ := h
    rfl

theorem writeEnv_isSome (h0 : s.curUsingDataAddr ≠ 0) (ht : cfg.envTotalSize ≠ 0)
    (hn : key.bytes.length + value.bytes.length + 2 ≤ 65532)
    (hfit : (detailSize cfg s).toNat + align4 (key.bytes.length + value.bytes.length + 2) ≤
      s.cache.detail.length) :
    (writeEnv cfg s key value).isSome := by
  simp only [writeEnv, getEnvDetailSize_eq h0, flashGetEnvTotalSize, ht, if_false,
    Option.bind_eq_bind, Option.some_bind, formatEnvStr_envStrLength hn,
    writeBytes_eq (show _ + (envRecord key.bytes value.bytes).length ≤ _ by simpa using hfit)]
  split <;> rfl

theorem findEnv_eq_none (hI : Stores cfg s rs) (hk : key.bytes ≠ [])
    (hf : ∀ r ∈ rs, keyMatches (r.1.bytes ++ eqSign :: r.2.bytes) key.bytes = false) :
    findEnv cfg s key = some none := by
  have hnone : (findRecord key.bytes rs).map Prod.snd = none := by
    rw [findRecord_map_snd, List.find?_eq_none]
    exact fun r hr => by rw [hf r hr]; decide
  rw [findEnv_records hI.slot hk hI.run hI.size, Option.map_eq_none'.mp hnone]; rfl

theorem createEnv_eq_writeEnv (hk : key.bytes ≠ []) (hq : eqSign ∉ key.bytes)
    (hfind : findEnv cfg s key = some none) :
    createEnv cfg s key value = writeEnv cfg s key value := by
  rw [createEnv, if_neg hk,
    if_neg (Option.not_isSome_iff_eq_none.mpr (strstr_singleton_eq_none.mpr hq)), hfind]
  rfl

theorem createEnv_appends (hI : Stores cfg s rs) (hk : key.bytes ≠ []) (hq : eqSign ∉ key.bytes)
    (hf : ∀ r ∈ rs, keyMatches (r.1.bytes ++ eqSign :: r.2.bytes) key.bytes = false)
    (hn : key.bytes.length + value.bytes.length + 2 ≤ 65532)
    (hfit : (encodeRecords rs).length + align4 (key.bytes.length + value.bytes.length + 2) ≤
      cfg.detailCapacity)
    (h : createEnv cfg s key value = some (s', r)) : r = .noErr := by
  rw [createEnv_eq_writeEnv hk hq (findEnv_eq_none hI hk hf)] at h
  refine writeEnv_noErr_of_room hn ?_ h
  have hP := cfg.four_le_envParamPartByteSize
  have := (le_align4 (key.bytes.length + value.bytes.length + 2)).1
  rw [hI.size]
  unfold Config.detailCapacity at hfit
  omega

/-- The side conditions under which each `create_env` of a run appends its record to the records
before it: its key is one `create_env` accepts and no stored record passes `find_env`'s test for
it, and its record is below the wrap of its length and fits the cache. -/
def Creates (cfg : Config) : List (CStr × CStr) → List (CStr × CStr) → Prop
  | _, [] => True
  | rs, (k, v) :: kvs =>
    (k.bytes ≠ [] ∧ eqSign ∉ k.bytes ∧
      (∀ r ∈ rs, keyMatches (r.1.bytes ++ eqSign :: r.2.bytes) k.bytes = false) ∧
      k.bytes.length + v.bytes.length + 2 ≤ 65532 ∧
      (encodeRecords rs).length + align4 (k.bytes.length + v.bytes.length + 2) ≤
        cfg.detailCapacity) ∧
    Creates cfg (rs ++ [(k, v)]) kvs

instance Creates.decidable (cfg : Config) :
    (rs kvs : List (CStr × CStr)) → Decidable (Creates cfg rs kvs)
  | _, [] => isTrue trivial
  | rs, (k, v) :: kvs =>
    have := Creates.decidable cfg (rs ++ [(k, v)]) kvs
    inferInstanceAs (Decidable (_ ∧ _))

theorem createEnvs_some :
    ∀ {kvs : List (CStr × CStr)} {s : Env} {rs : List (CStr × CStr)}, Stores cfg s rs →
      Creates cfg rs kvs → ∃ s', createEnvs cfg s kvs = some s' ∧ Stores cfg s' (rs ++ kvs)
  | [], s, rs, hI, _ => ⟨s, rfl, by simpa using hI⟩
  | (k, v) :: kvs, s, rs, hI, ⟨⟨hk, hq, hf, hn, hfit⟩, hc⟩ => by
    have hP := cfg.four_le_envParamPartByteSize
    have hal := le_align4 (k.bytes.length + v.bytes.length + 2)
    have ht : cfg.envTotalSize ≠ 0 := fun h => by
      have : cfg.envTotalSize.toNat = 0 := by rw [h]; rfl
      unfold Config.detailCapacity at hfit
      omega
    have hw := writeEnv_isSome hI.slot ht hn
      (by rw [hI.size, hI.capacity]; exact hfit)
    rw [← createEnv_eq_writeEnv hk hq (findEnv_eq_none hI hk hf)] at hw
    obtain ⟨⟨s1, r1⟩, h1⟩ := Option.isSome_iff_exists.mp hw
    have hI1 := createEnv_stores hI hn h1
    rw [if_pos (createEnv_appends hI hk hq hf hn hfit h1)] at hI1
    obtain ⟨s', h', hI'⟩ := createEnvs_some hI1 hc
    exact ⟨s', by rw [createEnvs, h1]; exact h', by simpa using hI'⟩

theorem createEnvs_creates {kvs : List (CStr × CStr)} (hI : Stores cfg s rs)
    (hc : Creates cfg rs kvs) (h : createEnvs cfg s kvs = some s') : Stores cfg s' (rs ++ kvs) :=
  have ⟨_, h', hI'⟩ := createEnvs_some hI hc
  Option.some.inj (h'.symm.trans h) ▸ hI'

theorem stores_nil (h0 : s.curUsingDataAddr ≠ 0)
    (hcap : s.cache.detail.length = cfg.detailCapacity) :
    Stores cfg (setEnvDetailEndAddr s
      (s.curUsingDataAddr + BitVec.ofNat 32 cfg.envParamPartByteSize)) [] :=
  ⟨h0, hcap, List.nil_prefix, by simp [detailSize, encodeRecords], fun _ h => nomatch h⟩

/-- `flash_env_set_default` returns `FLASH_NO_ERR` whatever its save returns. -/
theorem flashEnvSetDefault_inv (h : flashEnvSetDefault cfg s = some (s', r)) :
    r = .noErr ∧ s.curUsingDataAddr ≠ 0 ∧ ∃ s₁ r₁,
      createEnvs cfg (setEnvDetailEndAddr s
        (s.curUsingDataAddr + BitVec.ofNat 32 cfg.envParamPartByteSize)) cfg.defaultEnvSet =
        some s₁ ∧ flashSaveEnv cfg s₁ = some (s', r₁) := by
  unfold flashEnvSetDefault at h
  split at h
  · cases h
  by_cases h0 : s.curUsingDataAddr = 0
  · simp [getEnvDetailAddr, h0] at h
  rw [getEnvDetailAddr_eq h0, Option.bind_eq_bind, Option.some_bind] at h
  obtain ⟨s₁, h1, h⟩ := Option.bind_eq_some.mp h
  obtain ⟨⟨s₂, r₂⟩, h2, h⟩ := Option.bind_eq_some.mp h
  cases h
  exact ⟨rfl, h0, s₁, r₂, h1, h2⟩

theorem flashEnvSetDefault_spec (hcap : s.cache.detail.length = cfg.detailCapacity)
    (hc : Creates cfg [] cfg.defaultEnvSet) (h : flashEnvSetDefault cfg s = some (s', r)) :
    r = .noErr ∧
      ∃ s₁ r₁, Stores cfg s₁ cfg.defaultEnvSet ∧ flashSaveEnv cfg s₁ = some (s', r₁) := by
  obtain ⟨rfl, h0, s₁, r₁, h1, h2⟩ := flashEnvSetDefault_inv h
  exact ⟨rfl, s₁, r₁, by simpa using createEnvs_creates (stores_nil h0 hcap) hc h1, h2⟩

end Create

section Blank

variable {cfg : Config} {t t' : Env}

theorem flashLoadEnv_unset (hs : cfg.envStartAddr ≠ 0) (h : flashLoadEnv cfg t = some t')
    (hu : readWord t.flash.mem cfg.envStartAddr = 0xFFFFFFFF ∨
      cfg.envStartAddr + cfg.envTotalSize < readWord t.flash.mem cfg.envStartAddr) :
    ∃ u, u.cache = t.cache ∧ u.curUsingDataAddr = cfg.envStartAddr + cfg.flashEraseMinSize ∧
      ∃ r, flashEnvSetDefault cfg u = some (t', r) := by
  have hg : getEnvStartAddr cfg = some cfg.envStartAddr := if_neg hs
  rw [flashLoadEnv, hg, Option.bind_eq_bind, Option.some_bind, if_pos hu] at h
  simp only [Option.bind_eq_bind, Option.some_bind] at h
  obtain ⟨c, hc, h⟩ := Option.bind_eq_some.mp h
  obtain ⟨rfl, -⟩ := getCurUsingDataAddr_some hc
  obtain ⟨⟨u, r0⟩, hu0, h⟩ := Option.bind_eq_some.mp h
  obtain ⟨e1, e2, -⟩ := saveCurUsingDataAddr_spec hu0
  obtain ⟨⟨v, r⟩, hv, h⟩ := Option.bind_eq_some.mp h
  cases h
  exact ⟨u, e1, e2, r, hv⟩

end Blank

end EasyFlash
