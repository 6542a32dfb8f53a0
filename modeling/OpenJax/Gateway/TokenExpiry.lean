import OpenJax.Gateway.AuthService
import OpenJax.Shared.Rfc3339

set_option autoImplicit false

namespace OpenJax.Gateway

open Shared AuthStore

structure LiveAccess (store : AuthStore) (row : AccessTokenRow) : Prop where
  member : row ∈ store.accessTokens
  unique : (store.accessTokens.map AccessTokenRow.tokenHash).Nodup
  unrevoked : row.revokedAt = none
  session : (store.getSession row.sessionId).isSome = true

structure LiveRefresh (store : AuthStore) (row : RefreshTokenRow) : Prop where
  member : row ∈ store.refreshTokens
  unique : (store.refreshTokens.map RefreshTokenRow.tokenHash).Nodup
  unrevoked : row.revokedAt = none
  session : (store.getSession row.sessionId).any isActive = true

section Tokens

variable {store : AuthStore} {format : Rfc3339Format}

theorem validate_live {row : AccessTokenRow} (live : LiveAccess store row) (now : Int) :
    (store.validateAccessToken format now row.tokenHash).isSome = true ↔
      nowRfc3339 format now < row.expiresAt := by
  have keyed (other : AccessTokenRow) (holds : (other.tokenHash == row.tokenHash &&
      other.revokedAt.isNone && decide (nowRfc3339 format now < other.expiresAt)) = true) :
      other.tokenHash = row.tokenHash := by
    simp only [Bool.and_eq_true, beq_iff_eq] at holds
    exact holds.1.1
  have found := find_unique live.unique live.member keyed
  rw [validateAccessToken, found]
  by_cases before : nowRfc3339 format now < row.expiresAt
  · simpa [live.unrevoked, before] using live.session
  · simp [before]

theorem rotate_live {row : RefreshTokenRow} (live : LiveRefresh store row)
    (nextRefreshHash nextAccessHash : String) (accessTtl refreshTtl : Int) (draws : Draws)
    (commits : Bool) :
    (store.rotateTransaction format row.tokenHash nextRefreshHash nextAccessHash accessTtl
      refreshTtl draws commits).1 ≠ .missing ↔ nowRfc3339 format draws.stamp < row.expiresAt := by
  have keyed (other : RefreshTokenRow) (holds : (other.tokenHash == row.tokenHash) = true) :
      other.tokenHash = row.tokenHash := beq_iff_eq.mp holds
  have found := find_unique live.unique live.member keyed
  rw [beq_self_eq_true, if_pos rfl] at found
  have refused : ¬ row.revokedAt.isSome = true := by simp [live.unrevoked]
  simp only [rotateTransaction, found, if_neg refused]
  by_cases before : nowRfc3339 format draws.stamp < row.expiresAt
  · rw [if_neg (not_le.mpr before), if_pos live.session]
    split
    · split <;> simp [before]
    · simp [before]
  · rw [if_pos (not_lt.mp before)]
    simp [before]

end Tokens

/-- A token is taken up to the end of its lifetime exactly where the fractions of the two texts
tell the times apart. -/
theorem tokens_expire_on_time (draws : Draws) (ttl now : Int) {expiry text : String}
    (expires : Rfc3339.format (draws.now + ttl * 1000000000) = some expiry)
    (reads : Rfc3339.format now = some text) :
    (∀ store row, LiveAccess store row → row.expiresAt = expiresAt Rfc3339.format draws ttl →
      (((store.validateAccessToken Rfc3339.format now row.tokenHash).isSome = true ↔
        now < draws.now + ttl * 1000000000) ↔
          Rfc3339.Telling now (draws.now + ttl * 1000000000))) ∧
    ∀ store row nextRefreshHash nextAccessHash accessTtl refreshTtl rotation commits,
      LiveRefresh store row → row.expiresAt = expiresAt Rfc3339.format draws ttl →
        rotation.stamp = now →
      (((store.rotateTransaction Rfc3339.format row.tokenHash nextRefreshHash nextAccessHash
          accessTtl refreshTtl rotation commits).1 ≠ .missing ↔
        now < draws.now + ttl * 1000000000) ↔
          Rfc3339.Telling now (draws.now + ttl * 1000000000)) := by
  have order := Rfc3339.format_lt_iff reads expires
  have stored : expiresAt Rfc3339.format draws ttl = expiry := by
    rw [expiresAt, expires]
    rfl
  have current : nowRfc3339 Rfc3339.format now = text := by
    rw [nowRfc3339, reads]
    rfl
  refine ⟨fun store row live written => ?_, ?_⟩
  · rw [validate_live live, written, stored, current, order]
  · intro store row nextRefreshHash nextAccessHash accessTtl refreshTtl rotation commits live
      written stamp
    rw [rotate_live live, stamp, written, stored, current, order]

def newYearDraws : Draws := ⟨1735689600500000000, 1735689600500000000, "7d1e", "5ac2", "90b4"⟩

def newYearAccess : AccessTokenRow :=
  ⟨"access", "authsess_7d1e", "2025-01-01T00:15:00.5Z", "2025-01-01T00:00:00.5Z", none⟩

def newYearStore : AuthStore :=
  { sessions := [⟨"authsess_7d1e", "dev_5ac2", "owner", none, none, none, "active",
      "2025-01-01T00:00:00.5Z", "2025-01-01T00:00:00.5Z", none⟩]
    refreshTokens := []
    accessTokens := [newYearAccess] }

theorem newYear_live : LiveAccess newYearStore newYearAccess :=
  ⟨List.mem_singleton_self _, List.nodup_singleton _, rfl, rfl⟩

theorem newYear_expires :
    Rfc3339.format (newYearDraws.now + 900 * 1000000000) = some "2025-01-01T00:15:00.5Z" := by
  decide +kernel

theorem newYear_written : newYearAccess.expiresAt = expiresAt Rfc3339.format newYearDraws 900 := by
  rw [expiresAt, newYear_expires]
  rfl

theorem newYear_token_taken :
    (newYearStore.validateAccessToken Rfc3339.format 1735690499000000000 "access").isSome = true ↔
      (1735690499000000000 : Int) < newYearDraws.now + 900 * 1000000000 := by
  have read : Rfc3339.format 1735690499000000000 = some "2025-01-01T00:14:59Z" := by
    decide +kernel
  refine ((tokens_expire_on_time newYearDraws 900 _ newYear_expires read).1 newYearStore
    newYearAccess newYear_live newYear_written).mpr ?_
  intro same
  exact absurd same (by decide)

/-- Ten nanoseconds after its end the token is still taken. -/
theorem expired_token_taken :
    ¬ ∀ (draws : Draws) (ttl now : Int) (expiry text : String) (store : AuthStore)
      (row : AccessTokenRow), Rfc3339.format (draws.now + ttl * 1000000000) = some expiry →
        Rfc3339.format now = some text → LiveAccess store row →
          row.expiresAt = expiresAt Rfc3339.format draws ttl →
            ((store.validateAccessToken Rfc3339.format now row.tokenHash).isSome = true ↔
              now < draws.now + ttl * 1000000000) := by
  intro always
  have read : Rfc3339.format 1735690500500000010 = some "2025-01-01T00:15:00.50000001Z" := by
    decide +kernel
  have taken : nowRfc3339 Rfc3339.format 1735690500500000010 < newYearAccess.expiresAt := by
    rw [nowRfc3339, read]
    decide +kernel
  have before := (always newYearDraws 900 1735690500500000010 _ _ newYearStore newYearAccess
    newYear_expires read newYear_live newYear_written).mp ((validate_live newYear_live _).mpr taken)
  exact absurd before (by decide)

end OpenJax.Gateway
