import EasyFlash.Store
import EasyFlash.RoundTrip

/-!
# The store from start-up through runs of calls

`flash_env_init` on a device whose section holds a run of records builds a state that holds
those records (`flashEnvInit_stores`). From there a client calls `flash_set_env` and
`flash_del_env` one after another (`runCalls`). On the list of records the same calls remove the
key's first record and, for a set with a value, append the new one (`Call.apply`). When every
call returns `FLASH_NO_ERR` and meets its side conditions on the records before it (`Call.Ok`),
the detail part holds exactly the records the list has after the whole run (`runCalls_stores`).
The side conditions are the ones under which `find_env` finds the key's own record (`Exact`),
under which the move of `flash_del_env` covers the records after the one it removes and stays in
the cache (`Movable`), and the wrap of `write_env`'s length.
-/

namespace EasyFlash

/-! ## Start-up -/

section Init

variable {cfg : Config}

theorem stores_loaded {flash : Flash} {heap : Nat → Byte} {p e : BitVec 32}
    {rs : List (CStr × CStr)} (hp0 : p ≠ 0)
    (hrec : flashRead flash.mem (p + BitVec.ofNat 32 cfg.envParamPartByteSize)
      (e - (p + BitVec.ofNat 32 cfg.envParamPartByteSize)).toNat = encodeRecords rs)
    (hD : (encodeRecords rs).length ≤ cfg.detailCapacity)
    (hkeys : ∀ r ∈ rs, r.1.bytes ≠ [] ∧ eqSign ∉ r.1.bytes) :
    Stores cfg (loaded cfg ⟨allocCache cfg heap, 0, flash⟩ p e) rs := by
  have hlen := congrArg List.length hrec
  rw [flashRead_length] at hlen
  refine ⟨hp0, ?_, ?_, hlen, hkeys⟩
  · simp only [loaded, List.length_append, flashRead_length, List.length_drop, allocCache,
      List.length_map, List.length_range]
    omega
  · simp only [loaded, hrec]
    exact List.prefix_append _ _

/-- Start-up on a section holding a run of records that passes `flash_load_env`'s checks takes its
slot and holds the records. -/
theorem flashEnvInit_stores {flash : Flash} {heap : Nat → Byte} {p e : BitVec 32}
    {rs : List (CStr × CStr)} (hacc : cfg.Accepted)
    (hp : readWord flash.mem cfg.envStartAddr = p) (hp0 : p ≠ 0) (hpF : p ≠ 0xFFFFFFFF)
    (hpB : ¬ cfg.envStartAddr + cfg.envTotalSize < p) (he : readWord flash.mem p = e)
    (heB : ¬ cfg.envStartAddr + cfg.envTotalSize < e)
    (hrec : flashRead flash.mem (p + BitVec.ofNat 32 cfg.envParamPartByteSize)
      (e - (p + BitVec.ofNat 32 cfg.envParamPartByteSize)).toNat = encodeRecords rs)
    (hD : (encodeRecords rs).length ≤ cfg.detailCapacity)
    (hkeys : ∀ r ∈ rs, r.1.bytes ≠ [] ∧ eqSign ∉ r.1.bytes)
    (hcrc : cfg.usingCrcCheck → 8 ≤ cfg.envTotalSize.toNat ∧
      envCrcIsOk cfg (loaded cfg ⟨allocCache cfg heap, 0, flash⟩ p e) = some true) :
    ∃ s, flashEnvInit cfg flash heap = some s ∧ s.curUsingDataAddr = p ∧ Stores cfg s rs := by
  have hlen := congrArg List.length hrec
  rw [flashRead_length] at hlen
  refine ⟨loaded cfg ⟨allocCache cfg heap, 0, flash⟩ p e, ?_, rfl,
    stores_loaded hp0 hrec hD hkeys⟩
  rw [flashEnvInit, if_pos hacc]
  refine flashLoadEnv_accept hacc.1 hp hp0 hpF hpB he heB ?_ hcrc
  simpa [allocCache, hlen] using hD

end Init

/-- The device `crc8Env`'s start-up leaves: the slot word names `0x104`, whose end word `0x114` and
CRC word `0x2A7` frame the detail part `k=bbbbb`. -/
def crc8Image : Flash where
  mem a := if a.toNat < 0x100 then 0xFF else
    ([0x04, 0x01, 0, 0, 0x14, 0x01, 0, 0, 0xA7, 0x02, 0, 0, 0x6B, 0x3D, 0x62, 0x62, 0x62, 0x62,
      0x62, 0] : List Byte).getD (a.toNat - 0x100) 0xFF
  pending := []
  log := []

theorem flashEnvInit_stores_crc8Image :
    ∃ s, flashEnvInit crc8Config crc8Image (fun _ => 0) = some s ∧ s.curUsingDataAddr = 0x104 ∧
      Stores crc8Config s [(keyK, valueB 5)] :=
  @flashEnvInit_stores crc8Config crc8Image (fun _ => 0) 0x104 0x114 [(keyK, valueB 5)]
    (by decide) (by decide) (by decide) (by decide) (by decide) (by decide) (by decide)
    (by decide) (by decide) (by decide) (by decide)

/-! ## Calls -/

/-- A call of the store's interface. -/
inductive Call where
  | set (key value : CStr)
  | del (key : CStr)

namespace Call

/-- The call on the module: `flash_set_env` or `flash_del_env`. -/
def run (cfg : Config) (s : Env) : Call → Option (Env × FlashErrCode)
  | set key value => flashSetEnv cfg s key value
  | del key => flashDelEnv cfg s key

/-- The call on the list of records: a set with a value removes the key's first record and
appends the new one; a set with an empty value and a delete remove it. -/
def apply (rs : List (CStr × CStr)) : Call → List (CStr × CStr)
  | set key value =>
    if value.bytes = [] then rs.eraseP (fun r => r.1.bytes = key.bytes)
    else rs.eraseP (fun r => r.1.bytes = key.bytes) ++ [(key, value)]
  | del key => rs.eraseP fun r => r.1.bytes = key.bytes

end Call

/-- `key` is looked up exactly in `rs`: no stored key strictly ends with it, and no stored value
holds it followed by `=`. -/
def Exact (key : List Byte) (rs : List (CStr × CStr)) : Prop :=
  ∀ r ∈ rs, (key <:+ r.1.bytes → key = r.1.bytes) ∧ ¬ key ++ [eqSign] <:+: r.2.bytes

/-- A delete of `key` can move: a record with the key is at least as long as the parameter
part, and the move stays in the cache. -/
def Movable (cfg : Config) (key : List Byte) (rs : List (CStr × CStr)) : Prop :=
  ∀ r ∈ rs, r.1.bytes = key →
    cfg.envParamPartByteSize ≤ (envRecord r.1.bytes r.2.bytes).length ∧
      (encodeRecords rs).length + (envRecord r.1.bytes r.2.bytes).length ≤
        cfg.detailCapacity + cfg.envParamPartByteSize

instance (key : List Byte) (rs : List (CStr × CStr)) : Decidable (Exact key rs) :=
  inferInstanceAs (Decidable (∀ r ∈ rs, _))

instance (cfg : Config) (key : List Byte) (rs : List (CStr × CStr)) :
    Decidable (Movable cfg key rs) :=
  inferInstanceAs (Decidable (∀ r ∈ rs, _))

section Step

variable {cfg : Config} {s s' : Env} {key value : CStr} {rs : List (CStr × CStr)}

theorem keyMatches_eq_of_exact (hI : Stores cfg s rs) (hq : eqSign ∉ key.bytes)
    (hx : Exact key.bytes rs) {r : CStr × CStr} (hr : r ∈ rs) :
    keyMatches (r.1.bytes ++ eqSign :: r.2.bytes) key.bytes = decide (r.1.bytes = key.bytes) :=
  keyMatches_eq_decide (hI.keys r hr).2 hq (hx r hr).1 (hx r hr).2

theorem eraseP_of_findEnv_none (hI : Stores cfg s rs) (hk : key.bytes ≠ [])
    (hq : eqSign ∉ key.bytes) (hx : Exact key.bytes rs) (hf : findEnv cfg s key = some none) :
    (rs.eraseP fun r => r.1.bytes = key.bytes) = rs := by
  rw [findEnv_records hI.slot hk hI.run hI.size] at hf
  have hn := congrArg (Option.map Prod.snd) (Option.map_eq_none'.mp (Option.some.inj hf))
  rw [findRecord_map_snd, Option.map_none'] at hn
  apply List.eraseP_of_forall_not
  intro r hr
  have := List.find?_eq_none.mp hn r hr
  rwa [keyMatches_eq_of_exact hI hq hx hr] at this

theorem flashDelEnv_apply (hI : Stores cfg s rs) (hx : Exact key.bytes rs)
    (hmv : Movable cfg key.bytes rs) (h : flashDelEnv cfg s key = some (s', .noErr)) :
    Stores cfg s' (rs.eraseP fun r => r.1.bytes = key.bytes) := by
  obtain ⟨hk, hq, o, hf⟩ := flashDelEnv_noErr_found h
  rw [findEnv_records hI.slot hk hI.run hI.size] at hf
  obtain ⟨⟨o', k, v⟩, hr, -⟩ := Option.map_eq_some'.mp (Option.some.inj hf)
  obtain ⟨pre, post, rfl, hpre, hm, -⟩ := findRecord_split hr
  have hmem : (k, v) ∈ pre ++ (k, v) :: post := List.mem_append_right _ (List.mem_cons_self _ _)
  have hkey : k.bytes = key.bytes := by
    rw [keyMatches_eq_of_exact hI hq hx hmem] at hm
    exact of_decide_eq_true hm
  obtain ⟨hP, hroom⟩ := hmv _ hmem hkey
  obtain ⟨s'', hdel, hI'⟩ := flashDelEnv_stores hI hk hq hpre hm hP hroom
  rw [hdel] at h
  cases h
  rwa [List.eraseP_append_right _ fun r hr => by
      rw [← keyMatches_eq_of_exact hI hq hx (List.mem_append_left _ hr), hpre r hr]; decide,
    List.eraseP_cons_of_pos (by simpa using hkey)]

theorem flashSetEnv_apply (hI : Stores cfg s rs) (hx : Exact key.bytes rs)
    (hmv : Movable cfg key.bytes rs) (hn : key.bytes.length + value.bytes.length + 2 ≤ 65532)
    (h : flashSetEnv cfg s key value = some (s', .noErr)) :
    Stores cfg s' ((Call.set key value).apply rs) := by
  simp only [Call.apply]
  by_cases hv : value.bytes = []
  · rw [if_pos hv]
    rw [flashSetEnv, if_pos hv] at h
    exact flashDelEnv_apply hI hx hmv h
  rw [if_neg hv]
  rcases flashSetEnv_noErr hv h with ⟨hf, h⟩ | ⟨s1, h1, h⟩
  · obtain ⟨hk, hq, -, -⟩ := createEnv_noErr h
    rw [eraseP_of_findEnv_none hI hk hq hx hf]
    simpa using createEnv_stores hI hn h
  · simpa using createEnv_stores (flashDelEnv_apply hI hx hmv h1) hn h

end Step

namespace Call

/-- The side conditions of a call on the records before it: its key is looked up exactly, a
record it deletes can move, and a record it writes is below the wrap. -/
def Ok (cfg : Config) (rs : List (CStr × CStr)) : Call → Prop
  | set key value => Exact key.bytes rs ∧ Movable cfg key.bytes rs ∧
      key.bytes.length + value.bytes.length + 2 ≤ 65532
  | del key => Exact key.bytes rs ∧ Movable cfg key.bytes rs

instance (cfg : Config) (rs : List (CStr × CStr)) : (c : Call) → Decidable (c.Ok cfg rs)
  | set _ _ => inferInstanceAs (Decidable (_ ∧ _ ∧ _))
  | del _ => inferInstanceAs (Decidable (_ ∧ _))

theorem run_stores {cfg : Config} {s s' : Env} {rs : List (CStr × CStr)} {c : Call}
    (hI : Stores cfg s rs) (hc : c.Ok cfg rs) (h : c.run cfg s = some (s', .noErr)) :
    Stores cfg s' (c.apply rs) := by
  cases c with
  | set key value => exact flashSetEnv_apply hI hc.1 hc.2.1 hc.2.2 h
  | del key => exact flashDelEnv_apply hI hc.1 hc.2 h

end Call

/-- Calls made one after another, with their results. -/
def runCalls (cfg : Config) (s : Env) : List Call → Option (Env × List FlashErrCode)
  | [] => some (s, [])
  | c :: cs => do
    let (s, r) ← c.run cfg s
    let (s, results) ← runCalls cfg s cs
    pure (s, r :: results)

/-- The side conditions of each call on the records the calls before it leave. -/
def CallsOk (cfg : Config) : List (CStr × CStr) → List Call → Prop
  | _, [] => True
  | rs, c :: cs => c.Ok cfg rs ∧ CallsOk cfg (c.apply rs) cs

instance CallsOk.decidable (cfg : Config) :
    (rs : List (CStr × CStr)) → (cs : List Call) → Decidable (CallsOk cfg rs cs)
  | _, [] => isTrue trivial
  | rs, c :: cs =>
    have := CallsOk.decidable cfg (c.apply rs) cs
    inferInstanceAs (Decidable (_ ∧ _))

/-- Over a run of calls returning `FLASH_NO_ERR` under their side conditions, the detail part holds
the records the calls make on the list. -/
theorem runCalls_stores {cfg : Config} :
    ∀ {cs : List Call} {s s' : Env} {rs : List (CStr × CStr)} {results : List FlashErrCode},
      Stores cfg s rs → CallsOk cfg rs cs → runCalls cfg s cs = some (s', results) →
      (∀ r ∈ results, r = .noErr) → Stores cfg s' (cs.foldl Call.apply rs)
  | [], s, s', rs, results, hI, _, h, _ => by
    cases h
    exact hI
  | c :: cs, s, s', rs, results, hI, hok, h, hr => by
    simp only [runCalls, Option.bind_eq_bind, Option.bind_eq_some] at h
    obtain ⟨⟨s1, r1⟩, h1, ⟨s2, results'⟩, h2, h⟩ := h
    cases h
    have hr1 : r1 = .noErr := hr r1 (List.mem_cons_self _ _)
    subst hr1
    show Stores cfg s2 (cs.foldl Call.apply (c.apply rs))
    exact runCalls_stores (Call.run_stores hI hok.1 h1) hok.2 h2
      fun r h => hr r (List.mem_cons_of_mem _ h)

/-- A set that replaces a record, then one that appends. -/
theorem runCalls_stores_crc8Env :
    Stores crc8Config (((runCalls crc8Config crc8Env
      [.set keyK valueTwo, .set keyXK valueOne]).map Prod.fst).getD crc8Env)
      ([Call.set keyK valueTwo, .set keyXK valueOne].foldl Call.apply [(keyK, valueB 5)]) :=
  @runCalls_stores crc8Config [.set keyK valueTwo, .set keyXK valueOne] crc8Env _
    [(keyK, valueB 5)] [.noErr, .noErr] (by decide) (by decide) rfl (by decide)

end EasyFlash
