import EasyFlash.Records

/-!
# `find_env` and `flash_get_env` over a run of records

`write_env` appends each record as `key=value`, its NUL and zeros up to a multiple of four
(`envRecord`). A detail part built only that way is `encodeRecords rs` for the list `rs` of
pairs written. This module reads `find_env`'s byte walk back as a lookup in that list: a
record's string is one step of the walk and each zero of its padding is an empty string,
passed by one more step (`findEnvFrom_record`); so the walk returns the offset of the first
record whose string passes `find_env`'s test (`findEnv_records`), and `flash_get_env` returns
that record's value (`flashGetEnv_records`).

The test is the code's, not key equality: the first occurrence of the key in the string
must be followed by `=`. Every record passes it for its own key, so no stored key is missed
(`findEnv_finds_stored_key`). Without `=` in either key, it passes otherwise only for a key the
record's key strictly ends with or one its value holds followed by `=` (`keyMatches_record`):
that is how `find_env` can stop at the wrong record.
-/

namespace EasyFlash

/-! ## Runs of records -/

/-- The detail bytes of a list of records, each `key=value`, its NUL and its padding. -/
def encodeRecords : List (CStr × CStr) → List Byte
  | [] => []
  | (k, v) :: rs => envRecord k.bytes v.bytes ++ encodeRecords rs

/-- The test `find_env` makes on one string: the first occurrence of the key is followed by
`=`. -/
def keyMatches (str key : List Byte) : Bool :=
  match strstr str key with
  | some i => str[i + key.length]? = some eqSign
  | none => false

/-- The first record whose string passes `find_env`'s test, with its offset in the run. -/
def findRecord (key : List Byte) : List (CStr × CStr) → Option (Nat × CStr × CStr)
  | [] => none
  | (k, v) :: rs =>
    if keyMatches (k.bytes ++ eqSign :: v.bytes) key then some (0, k, v)
    else (findRecord key rs).map fun r => (r.1 + (envRecord k.bytes v.bytes).length, r.2)

@[simp] theorem encodeRecords_append (rs ts : List (CStr × CStr)) :
    encodeRecords (rs ++ ts) = encodeRecords rs ++ encodeRecords ts := by
  induction rs with
  | nil => rfl
  | cons r rs ih => simp [encodeRecords, ih]

theorem envRecord_eq (key value : List Byte) :
    envRecord key value = (key ++ eqSign :: value) ++ nul ::
      List.replicate (align4 (key.length + value.length + 2) - key.length - value.length - 2) 0 := by
  have := (le_align4 (key.length + value.length + 2)).1
  rw [envRecord, show align4 (key.length + value.length + 2) - key.length - value.length - 1 =
    (align4 (key.length + value.length + 2) - key.length - value.length - 2) + 1 by omega,
    List.replicate_succ]
  rfl

theorem cstr_envRecord {key value : CStr} (rest : List Byte) :
    cstr (envRecord key.bytes value.bytes ++ rest) = some (key.bytes ++ eqSign :: value.bytes) := by
  rw [envRecord_eq, List.append_assoc, List.cons_append]
  apply cstr_append_nul
  simp only [List.mem_append, List.mem_cons, not_or]
  exact ⟨key.nul_not_mem, by decide, value.nul_not_mem⟩

/-! ## The walk -/

theorem strstr_nil {key : List Byte} (hk : key ≠ []) : strstr [] key = none := by
  unfold strstr
  rw [if_neg (by rwa [List.prefix_nil])]

theorem findEnvFrom_zeros {d key : List Byte} {E : Nat} (hk : key ≠ []) :
    ∀ (j p fuel : Nat), d.drop p = List.replicate j 0 ++ d.drop (p + j) → p + j ≤ E →
      findEnvFrom d key E (fuel + j) p = findEnvFrom d key E fuel (p + j)
  | 0, p, fuel, _, _ => rfl
  | j + 1, p, fuel, hd, hE => by
    rw [show fuel + (j + 1) = (fuel + j) + 1 by omega, findEnvFrom.eq_2, if_pos (by omega), hd]
    simp only [List.replicate_succ, List.cons_append, cstr, nul, if_true, Option.bind_eq_bind,
      Option.some_bind, strstr_nil hk, List.length_nil, Nat.add_zero]
    have hd' : d.drop (p + 1) = List.replicate j 0 ++ d.drop (p + 1 + j) := by
      rw [← List.drop_drop, hd, List.replicate_succ, List.cons_append, List.drop_one, List.tail_cons,
        Nat.add_assoc, Nat.add_comm 1 j]
    rw [findEnvFrom_zeros hk j (p + 1) fuel hd' (by omega), Nat.add_assoc, Nat.add_comm 1 j]

theorem findEnvFrom_fuel_add {d key : List Byte} {E : Nat} (m : Nat) :
    ∀ {fuel env : Nat}, E - env ≤ fuel →
      findEnvFrom d key E (fuel + m) env = findEnvFrom d key E fuel env
  | 0, env, h => by
    cases m with
    | zero => rfl
    | succ m => rw [Nat.zero_add, findEnvFrom.eq_2, if_neg (by omega)]; rfl
  | fuel + 1, env, h => by
    rw [show fuel + 1 + m = (fuel + m) + 1 by omega, findEnvFrom.eq_2, findEnvFrom.eq_2]
    split
    · refine Option.bind_congr fun str _ => ?_
      split
      · split
        · rfl
        · exact findEnvFrom_fuel_add m (by omega)
      · exact findEnvFrom_fuel_add m (by omega)
    · rfl

theorem findEnvFrom_string {d key str rest : List Byte} {E p fuel : Nat}
    (hd : d.drop p = str ++ nul :: rest) (hn : nul ∉ str) (hp : p < E) :
    findEnvFrom d key E (fuel + 1) p =
      if keyMatches str key then some (some p)
      else findEnvFrom d key E fuel (p + str.length + 1) := by
  rw [findEnvFrom.eq_2, if_pos hp, hd, cstr_append_nul hn, Option.bind_eq_bind, Option.some_bind]
  cases hi : strstr str key with
  | none => simp [keyMatches, hi]
  | some i =>
    have hle := (strstr_some hi).1.length_le
    have hil := (strstr_some hi).2
    simp only [List.length_drop] at hle
    have hb : d[p + i + key.length]? = (str ++ nul :: rest)[i + key.length]? := by
      rw [← hd, List.getElem?_drop, Nat.add_assoc]
    simp only [keyMatches, hi, hb]
    rcases Nat.lt_or_eq_of_le (show i + key.length ≤ str.length by omega) with hlt | heq
    · rw [List.getElem?_append_left hlt]
      by_cases hm : str[i + key.length]? = some eqSign <;> simp [hm]
    · rw [List.getElem?_append_right (by omega), heq, Nat.sub_self,
        List.getElem?_eq_none (le_refl _)]
      simp [nul, eqSign]

theorem findEnvFrom_record {d key : List Byte} {E p fuel : Nat} {k v : CStr} (hk : key ≠ [])
    (hd : d.drop p = envRecord k.bytes v.bytes ++ d.drop (p + (envRecord k.bytes v.bytes).length))
    (hf : E - (p + (envRecord k.bytes v.bytes).length) ≤ fuel)
    (hE : p + (envRecord k.bytes v.bytes).length ≤ E) :
    findEnvFrom d key E (fuel + (envRecord k.bytes v.bytes).length) p =
      if keyMatches (k.bytes ++ eqSign :: v.bytes) key then some (some p)
      else findEnvFrom d key E fuel (p + (envRecord k.bytes v.bytes).length) := by
  have hn : nul ∉ k.bytes ++ eqSign :: v.bytes := by
    simp only [List.mem_append, List.mem_cons, not_or]
    exact ⟨k.nul_not_mem, by decide, v.nul_not_mem⟩
  have hrec := envRecord_eq k.bytes v.bytes
  generalize k.bytes ++ eqSign :: v.bytes = str at hrec hn ⊢
  generalize align4 _ - _ - _ - 2 = z at hrec
  generalize envRecord k.bytes v.bytes = r at *
  subst hrec
  simp only [List.length_append, List.length_cons, List.length_replicate, List.append_assoc,
    List.cons_append] at hd hf hE ⊢
  have hz : d.drop (p + str.length + 1) = List.replicate z 0 ++
      d.drop (p + str.length + 1 + z) := by
    have := congrArg (List.drop (str.length + 1)) hd
    rw [List.drop_drop, List.append_cons, List.drop_left' (by simp)] at this
    rw [Nat.add_assoc p, this]
    congr 2
    omega
  rw [show fuel + (str.length + (z + 1)) = (fuel + str.length + z) + 1 by omega,
    findEnvFrom_string hd hn (by omega)]
  split
  · rfl
  · rw [findEnvFrom_zeros hk z _ _ hz (by omega), findEnvFrom_fuel_add _ (by omega)]
    congr 1
    omega

theorem findEnvFrom_records {d key : List Byte} (hk : key ≠ []) :
    ∀ (rs : List (CStr × CStr)) (p : Nat),
      d.drop p = encodeRecords rs ++ d.drop (p + (encodeRecords rs).length) →
      findEnvFrom d key (p + (encodeRecords rs).length) (encodeRecords rs).length p =
        some ((findRecord key rs).map fun r => p + r.1)
  | [], _, _ => rfl
  | (k, v) :: rs, p, hd => by
    simp only [encodeRecords, findRecord, List.length_append] at hd ⊢
    set L := (envRecord k.bytes v.bytes).length
    have hd2 : d.drop (p + L) = encodeRecords rs ++ d.drop (p + L + (encodeRecords rs).length) := by
      rw [← List.drop_drop, hd, List.append_assoc, List.drop_left, Nat.add_assoc]
    rw [show p + (L + (encodeRecords rs).length) = p + L + (encodeRecords rs).length by omega,
      Nat.add_comm L, findEnvFrom_record hk (by rw [hd2, ← List.append_assoc, hd, Nat.add_assoc]) (by omega) (by omega),
      findEnvFrom_records hk rs (p + L) hd2]
    split
    · rfl
    · simp only [Option.map_map]
      congr 2
      funext x
      simp only [Function.comp]
      omega

/-! ## The list model -/

theorem findRecord_split {key : List Byte} :
    ∀ {rs : List (CStr × CStr)} {o : Nat} {k v : CStr}, findRecord key rs = some (o, k, v) →
      ∃ pre post, rs = pre ++ (k, v) :: post ∧
        (∀ r ∈ pre, keyMatches (r.1.bytes ++ eqSign :: r.2.bytes) key = false) ∧
        keyMatches (k.bytes ++ eqSign :: v.bytes) key = true ∧ (encodeRecords pre).length = o
  | [], _, _, _, h => by cases h
  | (k', v') :: rs, o, k, v, h => by
    simp only [findRecord] at h
    split at h
    · cases h
      exact ⟨[], rs, rfl, fun _ h => absurd h (List.not_mem_nil _), ‹_›, rfl⟩
    · rename_i hm'
      obtain ⟨⟨o', k'', v''⟩, hr, he⟩ := Option.map_eq_some'.mp h
      cases he
      obtain ⟨pre, post, rfl, hpre, hm, hl⟩ := findRecord_split hr
      refine ⟨(k', v') :: pre, post, rfl, ?_, hm, ?_⟩
      · intro r hr
        rcases List.mem_cons.mp hr with rfl | hr
        · simpa using hm'
        · exact hpre r hr
      · simp only [encodeRecords, List.length_append, hl]
        omega

theorem keyMatches_self (k v : List Byte) : keyMatches (k ++ eqSign :: v) k = true := by
  rw [keyMatches, strstr.eq_def, if_pos (List.prefix_append _ _)]
  simp [List.getElem_append_right]

theorem eq_of_prefix_sep {x : Byte} :
    ∀ {a b c : List Byte}, x ∉ a → x ∉ b → a ++ [x] <+: b ++ x :: c → a = b
  | [], [], _, _, _, _ => rfl
  | [], y :: b, c, _, hb, h => absurd ((List.cons_prefix_cons.mp h).1 ▸ List.mem_cons_self _ _) hb
  | y :: a, [], c, ha, _, h => absurd ((List.cons_prefix_cons.mp h).1 ▸ List.mem_cons_self _ _) ha
  | y :: a, z :: b, c, ha, hb, h => by
    obtain ⟨rfl, h'⟩ := List.cons_prefix_cons.mp h
    rw [eq_of_prefix_sep (fun hm => ha (List.mem_cons_of_mem _ hm))
      (fun hm => hb (List.mem_cons_of_mem _ hm)) h']

theorem keyMatches_prefix {str key : List Byte} (h : keyMatches str key = true) :
    ∃ i, key ++ [eqSign] <+: str.drop i := by
  unfold keyMatches at h
  split at h
  · rename_i i hi
    have hb : (str.drop i)[key.length]? = some eqSign := by
      rw [List.getElem?_drop]; simpa using h
    have ht : (str.drop i).take (key.length + 1) = key ++ [eqSign] := by
      rw [List.take_succ, hb, ← List.prefix_iff_eq_take.mp (strstr_some hi).1]
      rfl
    exact ⟨i, ht ▸ List.take_prefix _ _⟩
  · cases h

/-- `find_env`'s test passes for the record's key, a key it strictly ends with, or a key followed by
`=` in the value. -/
theorem keyMatches_record {k v key : List Byte} (hk : eqSign ∉ k) (hq : eqSign ∉ key)
    (h : keyMatches (k ++ eqSign :: v) key = true) :
    key = k ∨ (key <:+ k ∧ key ≠ k) ∨ key ++ [eqSign] <:+: v := by
  obtain ⟨i, hi⟩ := keyMatches_prefix h
  by_cases hik : i ≤ k.length
  · rw [List.drop_append_of_le_length hik] at hi
    have he := eq_of_prefix_sep hq (fun hm => hk (List.mem_of_mem_drop hm)) hi
    by_cases hkk : key = k
    · exact .inl hkk
    · exact .inr (.inl ⟨he ▸ List.drop_suffix _ _, hkk⟩)
  · rw [List.drop_append_eq_append_drop, List.drop_eq_nil_of_le (by omega), List.nil_append,
      show i - k.length = (i - k.length - 1) + 1 by omega, List.drop_succ_cons] at hi
    exact .inr (.inr (hi.isInfix.trans (List.drop_suffix _ _).isInfix))

theorem keyMatches_eq_decide {k v key : List Byte} (hk : eqSign ∉ k) (hq : eqSign ∉ key)
    (hsuf : key <:+ k → key = k) (hval : ¬ key ++ [eqSign] <:+: v) :
    keyMatches (k ++ eqSign :: v) key = decide (k = key) := by
  by_cases he : k = key
  · rw [he, keyMatches_self, decide_eq_true rfl]
  · rw [decide_eq_false he]
    by_contra hm
    rcases keyMatches_record hk hq (Bool.not_eq_false _ ▸ hm) with h | ⟨h, h'⟩ | h
    · exact he h.symm
    · exact h' (hsuf h)
    · exact hval h

theorem findRecord_map_snd (key : List Byte) : ∀ rs : List (CStr × CStr),
    (findRecord key rs).map Prod.snd =
      rs.find? fun r => keyMatches (r.1.bytes ++ eqSign :: r.2.bytes) key
  | [] => rfl
  | (k, v) :: rs => by
    simp only [findRecord, List.find?_cons]
    split <;> simp_all [Option.map_map, Function.comp_def, findRecord_map_snd key rs]

theorem findRecord_isSome_of_mem {k v : CStr} :
    ∀ {rs : List (CStr × CStr)}, (k, v) ∈ rs → (findRecord k.bytes rs).isSome
  | [], h => absurd h (List.not_mem_nil _)
  | (k', v') :: rs, h => by
    simp only [findRecord]
    split
    · rfl
    · rcases List.mem_cons.mp h with h | h
      · cases h
        simp_all [keyMatches_self]
      · simpa using findRecord_isSome_of_mem h

theorem strstr_eqSign {k v : List Byte} (h : eqSign ∉ k) :
    strstr (k ++ eqSign :: v) [eqSign] = some k.length := by
  induction k with
  | nil => simp [strstr]
  | cons b k ih =>
    simp only [List.mem_cons, not_or] at h
    rw [List.cons_append, strstr.eq_def, if_neg fun hp => h.1 (List.cons_prefix_cons.mp hp).1]
    simp [ih h.2]

/-! ## `find_env` and `flash_get_env` -/

section Lookup

variable {cfg : Config} {s : Env} {key : CStr}

theorem findEnv_records {rs : List (CStr × CStr)} (h0 : s.curUsingDataAddr ≠ 0)
    (hk : key.bytes ≠ []) (hpre : encodeRecords rs <+: s.cache.detail)
    (hD : (detailSize cfg s).toNat = (encodeRecords rs).length) :
    findEnv cfg s key = some ((findRecord key.bytes rs).map Prod.fst) := by
  have hw := findEnvFrom_records hk rs 0 (by simpa using (List.prefix_iff_eq_append.mp hpre).symm)
  simp only [Nat.zero_add, Option.map_id'] at hw
  simp only [findEnv, getCurUsingDataAddr_eq h0, getEnvDetailSize_eq h0, hk, if_false,
    Option.bind_eq_bind, Option.some_bind, hD]
  split
  · rw [← hw, ← hD, ‹detailSize cfg s = 0›]
    rfl
  · exact hw

theorem flashGetEnv_records {rs : List (CStr × CStr)} (h0 : s.curUsingDataAddr ≠ 0)
    (hk : key.bytes ≠ []) (hpre : encodeRecords rs <+: s.cache.detail)
    (hD : (detailSize cfg s).toNat = (encodeRecords rs).length)
    (heq : ∀ r ∈ rs, eqSign ∉ r.1.bytes) :
    flashGetEnv cfg s key = some ((rs.find? fun r =>
      keyMatches (r.1.bytes ++ eqSign :: r.2.bytes) key.bytes).map fun r => r.2.bytes) := by
  rw [← findRecord_map_snd, Option.map_map]
  simp only [flashGetEnv, findEnv_records h0 hk hpre hD, Option.bind_eq_bind, Option.some_bind]
  rcases hf : findRecord key.bytes rs with _ | ⟨o, k, v⟩
  · rfl
  · obtain ⟨pre, post, rfl, -, -, hl⟩ := findRecord_split hf
    obtain ⟨t, ht⟩ := hpre
    dsimp only [Option.map_some']
    rw [← ht, encodeRecords_append, encodeRecords, List.append_assoc, List.drop_left' hl,
      List.append_assoc, cstr_envRecord, Option.some_bind,
      strstr_eqSign (heq _ (List.mem_append_right _ (List.mem_cons_self _ _))),
      Option.map_some', List.append_cons, List.drop_left' (by simp)]
    rfl

/-- `find_env` finds every stored key of a run of records. -/
theorem findEnv_finds_stored_key {rs : List (CStr × CStr)} {k v : CStr}
    (h0 : s.curUsingDataAddr ≠ 0) (hk : k.bytes ≠ []) (hpre : encodeRecords rs <+: s.cache.detail)
    (hD : (detailSize cfg s).toNat = (encodeRecords rs).length) (hm : (k, v) ∈ rs) :
    ∃ o, findEnv cfg s k = some (some o) := by
  obtain ⟨r, hr⟩ := Option.isSome_iff_exists.mp (findRecord_isSome_of_mem hm)
  exact ⟨r.1, by rw [findEnv_records h0 hk hpre hD, hr]; rfl⟩

end Lookup

theorem findEnv_finds_stored_key_twoRecordEnv :
    ∃ o, findEnv crcConfig twoRecordEnv keyK = some (some o) :=
  @findEnv_finds_stored_key crcConfig twoRecordEnv [(keyK, valueOne), (keyXK, valueTwo)] keyK
    valueOne (by decide) (by decide) (by decide) (by decide) (List.mem_cons_self _ _)

end EasyFlash
