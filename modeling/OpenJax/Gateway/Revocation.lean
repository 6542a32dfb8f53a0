import OpenJax.Gateway.AuthService

set_option autoImplicit false

namespace OpenJax.Gateway

open Shared AuthStore

def AuthStore.statuses (store : AuthStore) : List (String × Bool) :=
  store.sessions.map fun session => (session.sessionId, isActive session)

/-- The tables agree with the history: a token is of the session it was issued for, access tokens
that are not revoked are of active sessions, and rotated refresh tokens are revoked. -/
structure AuthSound (world : AuthWorld) : Prop where
  sessions : (world.store.statuses.map Prod.fst).Nodup
  hashes : (world.store.refreshTokens.map RefreshTokenRow.tokenHash).Nodup
  access : ∀ row ∈ world.store.accessTokens, (row.tokenHash, row.sessionId) ∈ world.accessIssued
  refresh : ∀ row ∈ world.store.refreshTokens,
    (row.tokenHash, row.sessionId) ∈ world.refreshIssued
  accessOnce : (world.accessIssued.map Prod.fst).Nodup
  refreshOnce : (world.refreshIssued.map Prod.fst).Nodup
  active : ∀ row ∈ world.store.accessTokens, row.revokedAt = none →
    (row.sessionId, true) ∈ world.store.statuses
  covered : ∀ sessionId ∈ world.covered, (sessionId, false) ∈ world.store.statuses
  rotated : ∀ hash ∈ world.rotated, hash ∈ world.refreshIssued.map Prod.fst
  spent : ∀ hash ∈ world.rotated, ∀ row ∈ world.store.refreshTokens, row.tokenHash = hash →
    row.revokedAt.isSome = true
  once : world.rotated.Nodup

theorem authSound_empty : AuthSound .empty := by
  constructor <;> simp [AuthWorld.empty, AuthStore.empty, AuthStore.statuses]

section Statements

variable {world : AuthWorld} {store : AuthStore}

theorem AuthSound.fewer (sound : AuthSound world) (sessions : store.sessions = world.store.sessions)
    (refresh : store.refreshTokens.Sublist world.store.refreshTokens)
    (access : store.accessTokens.Sublist world.store.accessTokens) :
    AuthSound { world with store := store } where
  sessions := by
    rw [AuthStore.statuses, sessions]
    exact sound.sessions
  hashes := sound.hashes.sublist (refresh.map _)
  access row member := sound.access row (access.subset member)
  refresh row member := sound.refresh row (refresh.subset member)
  accessOnce := sound.accessOnce
  refreshOnce := sound.refreshOnce
  active row member := by
    rw [AuthStore.statuses, sessions]
    exact sound.active row (access.subset member)
  covered := by
    rw [AuthStore.statuses, sessions]
    exact sound.covered
  rotated := sound.rotated
  spent hash member row among := sound.spent hash member row (refresh.subset among)
  once := sound.once

theorem AuthSound.cleanup (sound : AuthSound world) (format : Rfc3339Format) (now : Int)
    (deletesAccess deletesRefresh : Bool) :
    AuthSound { world with
      store := world.store.cleanupExpired format now deletesAccess deletesRefresh } := by
  unfold cleanupExpired
  dsimp only
  split
  · split
    · exact sound.fewer rfl List.filter_sublist List.filter_sublist
    · exact sound.fewer rfl (List.Sublist.refl _) List.filter_sublist
  · exact sound

theorem AuthSound.revokeRefresh (sound : AuthSound world) (now tokenId : String) :
    AuthSound { world with store := world.store.revokeRefresh now tokenId } where
  sessions := sound.sessions
  hashes := by
    have same : (world.store.revokeRefresh now tokenId).refreshTokens.map RefreshTokenRow.tokenHash =
        world.store.refreshTokens.map RefreshTokenRow.tokenHash := by
      apply map_updateWhere
      exact fun _ => rfl
    exact same ▸ sound.hashes
  access := sound.access
  refresh row member := by
    obtain ⟨old, among, rfl⟩ := mem_updateWhere.mp member
    have issued := sound.refresh old among
    split <;> exact issued
  accessOnce := sound.accessOnce
  refreshOnce := sound.refreshOnce
  active := sound.active
  covered := sound.covered
  rotated := sound.rotated
  spent hash member row among same := by
    obtain ⟨old, before, rfl⟩ := mem_updateWhere.mp among
    split
    · rfl
    · rename_i other
      rw [if_neg other] at same
      exact sound.spent hash member old before same
  once := sound.once

theorem AuthSound.touch (sound : AuthSound world) (now sessionId : String) :
    AuthSound { world with store := world.store.touchSession now sessionId } := by
  have same : (world.store.touchSession now sessionId).statuses = world.store.statuses := by
    apply map_updateWhere
    exact fun _ => rfl
  constructor
  case sessions => exact same ▸ sound.sessions
  case active => exact same ▸ sound.active
  case covered => exact same ▸ sound.covered
  case hashes => exact sound.hashes
  case access => exact sound.access
  case refresh => exact sound.refresh
  case accessOnce => exact sound.accessOnce
  case refreshOnce => exact sound.refreshOnce
  case rotated => exact sound.rotated
  case spent => exact sound.spent
  case once => exact sound.once

theorem AuthSound.insertAccess (sound : AuthSound world) {row : AccessTokenRow}
    (inserted : world.store.insertAccess row = some store)
    (issued : (row.tokenHash, row.sessionId) ∈ world.accessIssued)
    (active : (row.sessionId, true) ∈ world.store.statuses) :
    AuthSound { world with store := store } := by
  obtain ⟨rows, added, rfl⟩ := Option.map_eq_some_iff.mp inserted
  obtain ⟨-, rfl⟩ := insertRow_some added
  refine { sound with access := fun other member => ?_, active := fun other member => ?_ }
  · rcases List.mem_append.mp member with before | new
    · exact sound.access other before
    · obtain rfl := List.mem_singleton.mp new
      exact issued
  · rcases List.mem_append.mp member with before | new
    · exact sound.active other before
    · obtain rfl := List.mem_singleton.mp new
      exact fun _ => active

theorem AuthSound.insertRefresh (sound : AuthSound world) {row : RefreshTokenRow}
    (inserted : world.store.insertRefresh row = some store)
    (issued : (row.tokenHash, row.sessionId) ∈ world.refreshIssued)
    (unspent : row.tokenHash ∉ world.rotated) :
    AuthSound { world with store := store } := by
  unfold AuthStore.insertRefresh at inserted
  split at inserted
  · cases inserted
  · obtain ⟨rows, added, rfl⟩ := Option.map_eq_some_iff.mp inserted
    have hashes := nodup_insertRow sound.hashes added
    obtain ⟨-, rfl⟩ := insertRow_some added
    refine { sound with
      hashes := hashes
      refresh := fun other member => ?_
      spent := fun hash member other among same => ?_ }
    · rcases List.mem_append.mp member with before | new
      · exact sound.refresh other before
      · obtain rfl := List.mem_singleton.mp new
        exact issued
    · rcases List.mem_append.mp among with before | new
      · exact sound.spent hash member other before same
      · obtain rfl := List.mem_singleton.mp new
        exact absurd (same ▸ member) unspent

variable {status : AuthSessionStatus}

theorem statuses_revokeSession (ended : status ≠ .active) (now sessionId : String)
    (store : AuthStore) :
    (store.revokeSession status now sessionId).statuses =
      store.statuses.map fun entry =>
        if entry.1 == sessionId then (entry.1, false) else entry := by
  have inactive : (status.asStr == AuthSessionStatus.active.asStr) = false := by
    cases status with
    | active => exact absurd rfl ended
    | revoked => decide
    | loggedOut => decide
  simp only [AuthStore.statuses, AuthStore.revokeSession, updateWhere, List.map_map]
  apply List.map_congr_left
  intro session _
  simp only [Function.comp_apply]
  split <;> simp_all [isActive]

theorem AuthSound.revokeSession (sound : AuthSound world) (ended : status ≠ .active)
    (now sessionId : String) :
    AuthSound { world with store := world.store.revokeSession status now sessionId } := by
  have statuses := statuses_revokeSession ended now sessionId world.store
  constructor
  case sessions =>
    have same : (world.store.revokeSession status now sessionId).statuses.map Prod.fst =
        world.store.statuses.map Prod.fst := by
      rw [statuses, List.map_map]
      apply List.map_congr_left
      intro entry _
      simp only [Function.comp_apply]
      split <;> rfl
    exact same ▸ sound.sessions
  case hashes =>
    have same : (world.store.revokeSession status now sessionId).refreshTokens.map
        RefreshTokenRow.tokenHash = world.store.refreshTokens.map RefreshTokenRow.tokenHash := by
      apply map_updateWhere
      exact fun _ => rfl
    exact same ▸ sound.hashes
  case access =>
    intro row member
    obtain ⟨old, among, rfl⟩ := mem_updateWhere.mp member
    have issued := sound.access old among
    split <;> exact issued
  case refresh =>
    intro row member
    obtain ⟨old, among, rfl⟩ := mem_updateWhere.mp member
    have issued := sound.refresh old among
    split <;> exact issued
  case accessOnce => exact sound.accessOnce
  case refreshOnce => exact sound.refreshOnce
  case active =>
    intro row member unrevoked
    obtain ⟨old, among, rfl⟩ := mem_updateWhere.mp member
    by_cases own : (old.sessionId == sessionId) = true
    · rw [if_pos own] at unrevoked
      cases unrevoked
    · rw [if_neg own] at unrevoked ⊢
      dsimp only
      rw [statuses]
      refine List.mem_map.mpr ⟨_, sound.active old among unrevoked, ?_⟩
      rw [if_neg own]
  case covered =>
    intro other member
    dsimp only
    rw [statuses]
    refine List.mem_map.mpr ⟨_, sound.covered other member, ?_⟩
    split <;> rfl
  case rotated => exact sound.rotated
  case spent =>
    intro hash member row among same
    obtain ⟨old, before, rfl⟩ := mem_updateWhere.mp among
    split
    · rfl
    · rename_i other
      rw [if_neg other] at same
      exact sound.spent hash member old before same
  case once => exact sound.once

theorem statuses_revokeAll (ended : status ≠ .active) (now : String) (sessionIds : List String)
    (store : AuthStore) :
    (sessionIds.foldl (AuthStore.revokeSession status now) store).statuses =
      store.statuses.map fun entry => if entry.1 ∈ sessionIds then (entry.1, false) else entry := by
  induction sessionIds generalizing store with
  | nil => simp
  | cons sessionId rest ih =>
    rw [List.foldl_cons, ih, statuses_revokeSession ended, List.map_map]
    apply List.map_congr_left
    rintro ⟨other, active⟩ _
    by_cases own : other = sessionId <;> by_cases later : other ∈ rest <;> simp [own, later]

theorem AuthSound.revokeAll (sound : AuthSound world) (ended : status ≠ .active) (now : String)
    (sessionIds : List String) :
    AuthSound { world with
      store := sessionIds.foldl (AuthStore.revokeSession status now) world.store } := by
  induction sessionIds generalizing world with
  | nil => exact sound
  | cons sessionId rest ih => exact ih (sound.revokeSession ended now sessionId)

theorem revokeSessions_covers (ended : status ≠ .active) (format : Rfc3339Format) (now : Int)
    (sessionId deviceId : Option String) (revokeAll : Bool) (store : AuthStore) :
    ∀ session ∈ store.sessions,
      selects sessionId deviceId revokeAll session = true → (session.sessionId, false) ∈
        (store.revokeSessions format now sessionId deviceId revokeAll status).2.statuses := by
  intro session member selected
  simp only [revokeSessions, statuses_revokeAll ended]
  refine List.mem_map.mpr ⟨_, List.mem_map_of_mem member, ?_⟩
  dsimp only
  cases active : isActive session with
  | true =>
    rw [if_pos]
    exact List.mem_map_of_mem (List.mem_filter.mpr ⟨member, by simp [active, selected]⟩)
  | false => split <;> rfl

theorem AuthSound.covering (sound : AuthSound world) {sessionIds : List String}
    (ended : ∀ sessionId ∈ sessionIds, (sessionId, false) ∈ world.store.statuses) :
    AuthSound { world with covered := world.covered ++ sessionIds } :=
  { sound with
    covered := fun sessionId member =>
      (List.mem_append.mp member).elim (sound.covered sessionId) (ended sessionId) }

theorem AuthSound.revoked (sound : AuthSound world) (service : AuthService)
    (sessionId deviceId : Option String) (revokeAll : Bool) (ended : status ≠ .active) (now : Int) :
    AuthSound (service.revoked sessionId deviceId revokeAll status now world) := by
  have after := sound.revokeAll ended (nowRfc3339 service.format now)
    ((world.store.sessions.filter fun session =>
      isActive session && selects sessionId deviceId revokeAll session).map SessionRecord.sessionId)
  apply after.covering
  intro covered member
  obtain ⟨session, among, rfl⟩ := List.mem_map.mp member
  obtain ⟨among, selected⟩ := List.mem_filter.mp among
  exact revokeSessions_covers ended service.format now sessionId deviceId revokeAll world.store
    session among selected

theorem AuthSound.insertSession (sound : AuthSound world) {session : SessionRecord}
    {sessions : List SessionRecord} (active : isActive session = true)
    (inserted : insertRow SessionRecord.sessionId session world.store.sessions = some sessions) :
    AuthSound { world with store := { world.store with sessions := sessions } } := by
  obtain ⟨absent, rfl⟩ := insertRow_some inserted
  have grown : AuthStore.statuses { world.store with sessions := world.store.sessions ++ [session] } =
      world.store.statuses ++ [(session.sessionId, true)] := by
    simp [AuthStore.statuses, active]
  have ids : world.store.statuses.map Prod.fst = world.store.sessions.map SessionRecord.sessionId :=
    by simp [AuthStore.statuses, Function.comp_def]
  refine { sound with sessions := ?_, active := ?_, covered := ?_ }
  · dsimp only
    rw [grown, List.map_append, List.map_singleton, ← List.concat_eq_append]
    exact sound.sessions.concat (ids ▸ absent)
  · intro row member unrevoked
    dsimp only
    rw [grown]
    exact List.mem_append_left _ (sound.active row member unrevoked)
  · intro sessionId member
    dsimp only
    rw [grown]
    exact List.mem_append_left _ (sound.covered sessionId member)

theorem AuthSound.issued (sound : AuthSound world) (service : AuthService) {issue : IssueRun}
    (access : service.hashToken issue.accessToken ∉ world.accessIssued.map Prod.fst)
    (refresh : service.hashToken issue.refreshToken ∉ world.refreshIssued.map Prod.fst)
    (sessionId : String) : AuthSound (service.issued issue sessionId world) :=
  { sound with
    access := fun row member => List.mem_append_left _ (sound.access row member)
    refresh := fun row member => List.mem_append_left _ (sound.refresh row member)
    accessOnce := by
      have grown := sound.accessOnce.concat access
      simpa [AuthService.issued] using grown
    refreshOnce := by
      have grown := sound.refreshOnce.concat refresh
      simpa [AuthService.issued] using grown
    rotated := fun hash member => by
      have before := sound.rotated hash member
      simp only [AuthService.issued, List.map_append]
      exact List.mem_append_left _ before }

theorem active_of_getSession {sessionId : String}
    (active : (store.getSession sessionId).any isActive = true) :
    (sessionId, true) ∈ store.statuses := by
  cases found : store.getSession sessionId with
  | none => simp [found] at active
  | some session =>
    have among := List.mem_of_find?_eq_some found
    have same : session.sessionId = sessionId := by
      simpa using List.find?_some found
    have isActive : isActive session = true := by
      simpa [found] using active
    exact List.mem_map.mpr ⟨session, among, by rw [same, isActive]⟩

theorem active_of_insertSession {session : SessionRecord} {sessions : List SessionRecord}
    (active : isActive session = true)
    (inserted : insertRow SessionRecord.sessionId session store.sessions = some sessions) :
    (session.sessionId, true) ∈ AuthStore.statuses { store with sessions := sessions } := by
  obtain ⟨-, rfl⟩ := insertRow_some inserted
  refine List.mem_map.mpr ⟨session, ?_, by rw [active]⟩
  exact List.mem_append_right _ (List.mem_singleton_self _)

theorem statuses_unique (sound : AuthSound world) {sessionId : String}
    (active : (sessionId, true) ∈ world.store.statuses)
    (ended : (sessionId, false) ∈ world.store.statuses) : False := by
  have same := row_unique sound.sessions active ended rfl
  cases same

theorem insertRefresh_statuses {row : RefreshTokenRow} {next : AuthStore}
    (inserted : store.insertRefresh row = some next) : next.statuses = store.statuses := by
  unfold AuthStore.insertRefresh at inserted
  split at inserted
  · cases inserted
  · obtain ⟨rows, -, rfl⟩ := Option.map_eq_some_iff.mp inserted
    rfl

section Requests

variable {service : AuthService} {world : AuthWorld} {issue : IssueRun} {sessionId : String}

theorem AuthSound.login (sound : AuthSound world) (input : NewSessionInput)
    (access : service.hashToken issue.accessToken ∉ world.accessIssued.map Prod.fst)
    (refresh : service.hashToken issue.refreshToken ∉ world.refreshIssued.map Prod.fst)
    {store : AuthStore}
    (created : createTransaction service.format (service.params input issue) issue.draws
      world.store = some (sessionId, store)) :
    AuthSound (service.issued issue sessionId { world with store := store }) := by
  obtain ⟨sessions, inserted, created⟩ := Option.bind_eq_some_iff.mp created
  obtain ⟨withAccess, addsAccess, created⟩ := Option.bind_eq_some_iff.mp created
  obtain ⟨withRefresh, addsRefresh, created⟩ := Option.bind_eq_some_iff.mp created
  cases Option.some.inj created
  have unspent : service.hashToken issue.refreshToken ∉ world.rotated :=
    fun member => refresh (sound.rotated _ member)
  have withSession := (sound.issued service access refresh
    s!"authsess_{issue.draws.sessionUuid}").insertSession rfl inserted
  have withAccess := withSession.insertAccess addsAccess
    (List.mem_append_right _ (List.mem_singleton_self _)) (active_of_insertSession rfl inserted)
  exact withAccess.insertRefresh addsRefresh
    (List.mem_append_right _ (List.mem_singleton_self _)) unspent

variable {store next : AuthStore} {hash nextRefreshHash nextAccessHash : String}

theorem rotateTransaction_rotated {format : Rfc3339Format} {accessTtl refreshTtl : Int}
    {draws : Draws} {commits : Bool}
    (ended : rotateTransaction format hash nextRefreshHash nextAccessHash accessTtl refreshTtl draws
      commits store = (.rotated sessionId, next)) :
    ∃ old ∈ store.refreshTokens, old.tokenHash = hash ∧ old.revokedAt = none ∧
      old.sessionId = sessionId ∧ (sessionId, true) ∈ store.statuses ∧
      rotateToken format old nextRefreshHash nextAccessHash accessTtl refreshTtl draws store =
        some next := by
  unfold rotateTransaction at ended
  dsimp only at ended
  cases found : store.refreshTokens.find? fun row => row.tokenHash == hash with
  | none => simp [found] at ended
  | some old =>
    have among := List.mem_of_find?_eq_some found
    have same : old.tokenHash = hash := by
      simpa using List.find?_some found
    simp only [found] at ended
    split at ended
    · cases ended
    · rename_i unrevoked
      split at ended
      · cases ended
      · split at ended
        · rename_i active
          split at ended
          · rename_i rotated wrote
            split at ended
            · obtain ⟨named, rfl⟩ := Prod.mk.inj ended
              obtain rfl := RotationEnd.rotated.inj named
              exact ⟨old, among, same, by simpa using unrevoked, rfl, active_of_getSession active,
                wrote⟩
            · cases ended
          · cases ended
        · cases ended

theorem rotateTransaction_kept {format : Rfc3339Format} {accessTtl refreshTtl : Int} {draws : Draws}
    {commits : Bool} {outcome : RotationEnd}
    (ended : rotateTransaction format hash nextRefreshHash nextAccessHash accessTtl refreshTtl draws
      commits store = (outcome, next)) (unrotated : ∀ sessionId, outcome ≠ .rotated sessionId) :
    next = store ∨ ∃ now tokenId, next = store.revokeRefresh now tokenId := by
  unfold rotateTransaction at ended
  dsimp only at ended
  split at ended
  · exact .inl (Prod.mk.inj ended).2.symm
  · split at ended
    · exact .inl (Prod.mk.inj ended).2.symm
    · split at ended
      · have same := (Prod.mk.inj ended).2
        split at same
        · exact .inr ⟨_, _, same.symm⟩
        · exact .inl same.symm
      · split at ended
        · split at ended
          · split at ended
            · exact absurd (Prod.mk.inj ended).1.symm (unrotated _)
            · exact .inl (Prod.mk.inj ended).2.symm
          · exact .inl (Prod.mk.inj ended).2.symm
        · exact .inl (Prod.mk.inj ended).2.symm

theorem AuthSound.spend (sound : AuthSound world) {old : RefreshTokenRow}
    (among : old ∈ world.store.refreshTokens) (unrevoked : old.revokedAt = none) (now : String) :
    AuthSound { world with
      store := world.store.revokeRefresh now old.tokenId
      rotated := world.rotated ++ [old.tokenHash] } := by
  have revoked := sound.revokeRefresh now old.tokenId
  have fresh : old.tokenHash ∉ world.rotated := by
    intro member
    have spent := sound.spent _ member old among rfl
    simp [unrevoked] at spent
  refine { revoked with rotated := ?_, spent := ?_, once := ?_ }
  · intro hash member
    rcases List.mem_append.mp member with before | new
    · exact sound.rotated hash before
    · obtain rfl := List.mem_singleton.mp new
      exact List.mem_map_of_mem (sound.refresh old among)
  · intro hash member row later same
    rcases List.mem_append.mp member with before | new
    · exact revoked.spent hash before row later same
    · obtain rfl := List.mem_singleton.mp new
      obtain ⟨other, earlier, rfl⟩ := mem_updateWhere.mp later
      split
      · rfl
      · rename_i different
        rw [if_neg different] at same
        obtain rfl := row_unique sound.hashes earlier among same
        simp at different
  · rw [← List.concat_eq_append]
    exact sound.once.concat fresh

theorem AuthSound.rotate (sound : AuthSound world) {hash : String} {commits : Bool}
    (access : service.hashToken issue.accessToken ∉ world.accessIssued.map Prod.fst)
    (refresh : service.hashToken issue.refreshToken ∉ world.refreshIssued.map Prod.fst)
    {store : AuthStore} (ended : world.store.rotateTransaction service.format hash
      (service.hashToken issue.refreshToken) (service.hashToken issue.accessToken)
      service.config.accessTtl service.config.refreshTtl issue.draws commits =
        (.rotated sessionId, store)) :
    AuthSound (service.issued issue sessionId
      { world with store := store, rotated := world.rotated ++ [hash] }) := by
  obtain ⟨old, among, rfl, unrevoked, rfl, active, wrote⟩ := rotateTransaction_rotated ended
  obtain ⟨withRefresh, addsRefresh, wrote⟩ := Option.bind_eq_some_iff.mp wrote
  obtain ⟨withAccess, addsAccess, wrote⟩ := Option.bind_eq_some_iff.mp wrote
  cases wrote
  have spent := sound.spend among unrevoked (nowRfc3339 service.format issue.draws.stamp)
  have unspent : service.hashToken issue.refreshToken ∉ world.rotated ++ [old.tokenHash] :=
    fun member => refresh (spent.rotated _ member)
  have issued := spent.issued service access refresh old.sessionId
  have withRefresh := issued.insertRefresh addsRefresh
    (List.mem_append_right _ (List.mem_singleton_self _)) unspent
  have withAccess := withRefresh.insertAccess addsAccess
    (List.mem_append_right _ (List.mem_singleton_self _))
    (insertRefresh_statuses addsRefresh ▸ active)
  exact withAccess.touch _ _

theorem loginTransaction_made {input : NewSessionInput}
    (ended : service.loginTransaction input issue store = (some sessionId, next)) :
    createTransaction service.format (service.params input issue) issue.draws
      (service.cleaned issue store) = some (sessionId, next) := by
  unfold AuthService.loginTransaction at ended
  dsimp only at ended
  split at ended
  · rename_i created
    split at ended
    · obtain ⟨made, rfl⟩ := Prod.mk.inj ended
      cases made
      exact created
    · cases ended
  · cases ended

theorem loginTransaction_kept {input : NewSessionInput}
    (ended : service.loginTransaction input issue store = (none, next)) :
    next = service.cleaned issue store := by
  unfold AuthService.loginTransaction at ended
  dsimp only at ended
  split at ended
  · split at ended
    · cases ended
    · exact (Prod.mk.inj ended).2.symm
  · exact (Prod.mk.inj ended).2.symm

end Requests

end Statements

theorem authSound_step (service : AuthService) :
    Preserves service.step service.Distinct AuthSound := by
  intro world input next sound distinct stepped
  cases input with
  | login input issue =>
    have cleaned := sound.cleanup service.format issue.cleanedAt issue.deletesAccess
      issue.deletesRefresh
    cases ended : service.loginTransaction input issue world.store with
    | mk sessionId store =>
      simp only [AuthService.step, ended] at stepped
      cases sessionId with
      | none =>
        obtain rfl := loginTransaction_kept ended
        exact Option.some.inj stepped ▸ cleaned
      | some sessionId =>
        have made := loginTransaction_made ended
        exact Option.some.inj stepped ▸ cleaned.login input distinct.1 distinct.2 made
  | refresh refreshToken issue =>
    have cleaned := sound.cleanup service.format issue.cleanedAt issue.deletesAccess
      issue.deletesRefresh
    cases ended : service.refreshTransaction refreshToken issue world.store with
    | mk outcome store =>
      have kept : (∀ sessionId, outcome ≠ .rotated sessionId) →
          AuthSound { world with store := store } := by
        intro unrotated
        rcases rotateTransaction_kept ended unrotated with rfl | ⟨now, tokenId, rfl⟩
        · exact cleaned
        · exact cleaned.revokeRefresh now tokenId
      simp only [AuthService.step, ended] at stepped
      cases outcome with
      | rotated sessionId =>
        exact Option.some.inj stepped ▸ cleaned.rotate distinct.1 distinct.2 ended
      | missing | reuseDetected | failed =>
        exact Option.some.inj stepped ▸ kept fun _ => RotationEnd.noConfusion
  | logoutBySession sessionId now commits =>
    cases stepped
    split
    · exact sound.revoked service _ _ _ (by decide) now
    · exact sound
  | revoke sessionId deviceId revokeAll now commits =>
    cases stepped
    split
    · exact sound.revoked service _ _ _ (by decide) now
    · exact sound
  | cleanupExpired now deletesAccess deletesRefresh =>
    cases stepped
    exact sound.cleanup _ _ _ _

/-- No token of a session that a logout or revocation covered is good for anything, and no refresh
token has been rotated twice. -/
structure RevocationHolds (service : AuthService) (world : AuthWorld) : Prop where
  access : ∀ sessionId ∈ world.covered, ∀ token now,
    (service.hashToken token, sessionId) ∈ world.accessIssued →
      service.validateAccessToken now token world.store = none
  refresh : ∀ sessionId ∈ world.covered, ∀ token issue outcome,
    (service.hashToken token, sessionId) ∈ world.refreshIssued →
      (service.refreshTransaction token issue world.store).1 ≠ .rotated outcome
  once : world.rotated.Nodup

theorem AuthSound.holds {world : AuthWorld} (sound : AuthSound world) (service : AuthService) :
    RevocationHolds service world where
  access sessionId covered token now issued := by
    unfold AuthService.validateAccessToken AuthStore.validateAccessToken
    cases found : world.store.accessTokens.find? fun row =>
        row.tokenHash == service.hashToken token && row.revokedAt.isNone &&
          decide (nowRfc3339 service.format now < row.expiresAt) with
    | none => rfl
    | some row =>
      have among := List.mem_of_find?_eq_some found
      have accepted := List.find?_some found
      simp only [Bool.and_eq_true, beq_iff_eq, Option.isNone_iff_eq_none] at accepted
      obtain ⟨⟨same, unrevoked⟩, -⟩ := accepted
      -- The row is of the session that the token was issued for.
      have own := row_unique sound.accessOnce (sound.access row among) issued same
      have active := sound.active row among unrevoked
      rw [(Prod.mk.inj own).2] at active
      exact (statuses_unique sound active (sound.covered sessionId covered)).elim
  refresh sessionId covered token issue outcome issued rotates := by
    have cleaned := sound.cleanup service.format issue.cleanedAt issue.deletesAccess
      issue.deletesRefresh
    have ended : service.refreshTransaction token issue world.store = (.rotated outcome, _) :=
      Prod.ext rotates rfl
    obtain ⟨row, among, same, -, rfl, active, -⟩ := rotateTransaction_rotated ended
    have own := row_unique cleaned.refreshOnce (cleaned.refresh row among) issued same
    rw [(Prod.mk.inj own).2] at active
    exact statuses_unique cleaned active (cleaned.covered sessionId covered)
  once := sound.once

theorem revocation_is_final (service : AuthService) {inputs : List AuthInput} {world : AuthWorld}
    (distinct : Meets service.step service.Distinct .empty inputs)
    (ran : run service.step .empty inputs = some world) : RevocationHolds service world :=
  (run_invariant (authSound_step service) authSound_empty distinct ran).holds service

def testAccessToken : String :=
  "atk_0000000000000000000000000000000000000000000000000000000000000000"

def testRefreshToken : String :=
  "rtk_0000000000000000000000000000000000000000000000000000000000000000"

-- The digests of the two tokens, and the three instants that the login writes.
def testService : AuthService :=
  { config := ⟨15, 30, "test-pepper"⟩
    hash := fun token _ =>
      if token = testAccessToken then
        "7ec435aa03d9be2d6433f7fb2d8b381ef81112893dbfd46dc0e942dbd237de9f"
      else "c1225d5bf93a789fd047a566135e69985fce81d195dd6101a44a70fd74f99bc8"
    format := fun instant =>
      if instant = 0 then some "1970-01-01T00:00:00Z"
      else if instant = 900000000000 then some "1970-01-01T00:15:00Z"
      else some "1970-01-31T00:00:00Z" }

def testLogin : IssueRun :=
  { accessRandom := "0000000000000000000000000000000000000000000000000000000000000000"
    refreshRandom := "0000000000000000000000000000000000000000000000000000000000000000"
    draws := ⟨0, 0, "0b9a", "51c2", "d3f0"⟩
    cleanedAt := 0
    deletesAccess := true
    deletesRefresh := true
    commits := true
    rereads := true }

def loginThenLogout : List AuthInput :=
  [.login ⟨none, none, none⟩ testLogin, .logoutBySession "authsess_0b9a" 0 true]

theorem logged_out_token_refused :
    ∃ world, run testService.step .empty loginThenLogout = some world ∧
      (testService.hashToken testAccessToken, "authsess_0b9a") ∈ world.accessIssued ∧
      "authsess_0b9a" ∈ world.covered ∧ RevocationHolds testService world := by
  have ends : (run testService.step .empty loginThenLogout).any fun world =>
      (testService.hashToken testAccessToken, "authsess_0b9a") ∈ world.accessIssued ∧
        "authsess_0b9a" ∈ world.covered := by
    decide +kernel
  cases ran : run testService.step .empty loginThenLogout with
  | none => simp [ran] at ends
  | some world =>
    simp only [ran, Option.any_some, decide_eq_true_eq] at ends
    have distinct : Meets testService.step testService.Distinct .empty loginThenLogout := by
      refine ⟨⟨List.not_mem_nil, List.not_mem_nil⟩, fun _ _ => ⟨trivial, fun _ _ => trivial⟩⟩
    exact ⟨world, rfl, ends.1, ends.2, revocation_is_final testService distinct ran⟩

end OpenJax.Gateway
