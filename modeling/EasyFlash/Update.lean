import EasyFlash.Load

/-!
# Failed updates

What each cache operation can return. `write_env` fails only on a full cache and then changes
nothing; `create_env` and `flash_del_env` return their errors before touching the cache.
`flash_set_env` is not atomic: on an existing key with a non-empty value it deletes the record
first, and when the new one then fails to fit, the deletion stays (`flashSetEnv_error`).
-/

namespace EasyFlash

section Errors

variable {cfg : Config} {s s' : Env} {key value : CStr} {r : FlashErrCode}

theorem writeEnv_cases (h : writeEnv cfg s key value = some (s', r)) :
    (r = .envFull ∧ s' = s) ∨ r = .noErr := by
  simp only [writeEnv, Option.bind_eq_bind, Option.bind_eq_some] at h
  obtain ⟨d, -, t, -, h⟩ := h
  split at h
  · cases h; exact .inl ⟨rfl, rfl⟩
  · simp only [Option.bind_eq_bind, Option.bind_eq_some, pure, Option.some.injEq] at h
    obtain ⟨e, -, det, -, -, rfl⟩ := h
    exact .inr rfl

theorem createEnv_error (h : createEnv cfg s key value = some (s', r)) (hr : r ≠ .noErr) :
    s' = s := by
  unfold createEnv at h
  split at h
  · cases h; rfl
  split at h
  · cases h; rfl
  simp only [Option.bind_eq_bind, Option.bind_eq_some] at h
  obtain ⟨f, -, h⟩ := h
  cases f with
  | some o => cases h; rfl
  | none => exact ((writeEnv_cases h).resolve_right hr).2

theorem flashDelEnv_error (h : flashDelEnv cfg s key = some (s', r)) (hr : r ≠ .noErr) :
    s' = s := by
  unfold flashDelEnv at h
  split at h
  · cases h; rfl
  split at h
  · cases h; rfl
  simp only [Option.bind_eq_bind, Option.bind_eq_some] at h
  obtain ⟨f, -, h⟩ := h
  cases f with
  | none => cases h; rfl
  | some o =>
    simp only [Option.bind_eq_bind, Option.bind_eq_some, pure, Option.some.injEq] at h
    obtain ⟨-, -, -, -, -, -, -, rfl⟩ := h
    exact absurd rfl hr

theorem flashSetEnv_error (h : flashSetEnv cfg s key value = some (s', r)) (hr : r ≠ .noErr) :
    s' = s ∨ value.bytes ≠ [] ∧ (∃ o, findEnv cfg s key = some (some o)) ∧
      flashDelEnv cfg s key = some (s', .noErr) := by
  unfold flashSetEnv at h
  split at h
  · exact .inl (flashDelEnv_error h hr)
  rename_i hv
  simp only [Option.bind_eq_bind, Option.bind_eq_some] at h
  obtain ⟨f, hf, h⟩ := h
  cases f with
  | none =>
    simp only [pure, Option.some_bind, if_pos] at h
    exact .inl (createEnv_error h hr)
  | some o =>
    simp only [Option.bind_eq_some] at h
    obtain ⟨⟨s1, r1⟩, h1, h⟩ := h
    split at h
    · rename_i hr1
      cases hr1
      obtain rfl : s' = s1 := createEnv_error h hr
      exact .inr ⟨hv, ⟨o, hf⟩, h1⟩
    · cases h
      exact .inl (flashDelEnv_error h1 hr)

theorem failed_update_keeps_state :
    (createEnv cfg s key value = some (s', r) → r ≠ .noErr → s' = s) ∧
    (flashDelEnv cfg s key = some (s', r) → r ≠ .noErr → s' = s) ∧
    (flashSetEnv cfg s key value = some (s', r) → r ≠ .noErr →
      s' = s ∨ value.bytes ≠ [] ∧ (∃ o, findEnv cfg s key = some (some o)) ∧
        flashDelEnv cfg s key = some (s', .noErr)) :=
  ⟨createEnv_error, flashDelEnv_error, flashSetEnv_error⟩

end Errors

/-! ## An overwrite that does not fit -/

/-- Overwriting the default `k=bbbbb` with 29 bytes returns `FLASH_ENV_FULL` after the delete: the
end address drops from `0x114` to `0x10C`. -/
theorem flashSetEnv_full_after_delete :
    ((flashEnvInit crc8Config erasedFlash fun _ => 0).bind fun s =>
      (flashSetEnv crc8Config s keyK (valueB 29)).map fun p =>
        (p.2, s.cache.endAddr, p.1.cache.endAddr)) = some (.envFull, 0x114, 0x10C) := by
  decide

end EasyFlash
