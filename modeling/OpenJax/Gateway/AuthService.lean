import OpenJax.Shared.Machine
import OpenJax.Shared.Rows
import Mathlib.Data.String.Basic

set_option autoImplicit false

/-! The store of logins: sessions, and the hashes of their access and refresh tokens, in three
tables. A transaction that fails at any of its statements is rolled back. -/

namespace OpenJax.Gateway

open Shared

/-- `Rfc3339` of the time crate, for instants in nanoseconds; years it cannot write give none. -/
abbrev Rfc3339Format := Int → Option String

def nowRfc3339 (format : Rfc3339Format) (now : Int) : String :=
  (format now).getD "1970-01-01T00:00:00Z"

inductive AuthScope where
  | owner
  deriving DecidableEq, Repr

def AuthScope.asStr : AuthScope → String
  | .owner => "owner"

inductive AuthSessionStatus where
  | active
  | revoked
  | loggedOut
  deriving DecidableEq, Repr

def AuthSessionStatus.asStr : AuthSessionStatus → String
  | .active => "active"
  | .revoked => "revoked"
  | .loggedOut => "logged_out"

structure SessionRecord where
  sessionId : String
  deviceId : String
  scope : String
  deviceName : Option String
  platform : Option String
  userAgent : Option String
  status : String
  createdAt : String
  lastSeenAt : String
  revokedAt : Option String
  deriving DecidableEq, Repr

structure RefreshTokenRow where
  tokenId : String
  sessionId : String
  tokenHash : String
  rotatedFrom : Option String
  expiresAt : String
  createdAt : String
  revokedAt : Option String
  deriving DecidableEq, Repr

structure AccessTokenRow where
  tokenHash : String
  sessionId : String
  expiresAt : String
  createdAt : String
  revokedAt : Option String
  deriving DecidableEq, Repr

structure AuthStore where
  sessions : List SessionRecord
  refreshTokens : List RefreshTokenRow
  accessTokens : List AccessTokenRow
  deriving DecidableEq, Repr

structure CreateSessionParams where
  scope : AuthScope
  deviceName : Option String
  platform : Option String
  userAgent : Option String
  accessHash : String
  -- In seconds.
  accessTtl : Int
  refreshHash : String
  refreshTtl : Int

/-- One operation reads the clock twice, and draws its identifiers at random. -/
structure Draws where
  now : Int
  stamp : Int
  sessionUuid : String
  deviceUuid : String
  tokenUuid : String

namespace AuthStore

def empty : AuthStore := ⟨[], [], []⟩

def isActive (session : SessionRecord) : Bool :=
  session.status == AuthSessionStatus.active.asStr

def getSession (store : AuthStore) (sessionId : String) : Option SessionRecord :=
  store.sessions.find? fun session => session.sessionId == sessionId

def expiresAt (format : Rfc3339Format) (draws : Draws) (ttl : Int) : String :=
  (format (draws.now + ttl * 1000000000)).getD (nowRfc3339 format draws.stamp)

def expiresIn (ttl : Int) : Nat := ttl.toNat

def insertAccess (row : AccessTokenRow) (store : AuthStore) : Option AuthStore :=
  (insertRow AccessTokenRow.tokenHash row store.accessTokens).map fun rows =>
    { store with accessTokens := rows }

def insertRefresh (row : RefreshTokenRow) (store : AuthStore) : Option AuthStore :=
  if row.tokenId ∈ store.refreshTokens.map RefreshTokenRow.tokenId then none
  else
    (insertRow RefreshTokenRow.tokenHash row store.refreshTokens).map fun rows =>
      { store with refreshTokens := rows }

/-- The transaction of `create_session_and_tokens`, with the id of the session. -/
def createTransaction (format : Rfc3339Format) (params : CreateSessionParams) (draws : Draws)
    (store : AuthStore) : Option (String × AuthStore) :=
  let sessionId := s!"authsess_{draws.sessionUuid}"
  let createdAt := nowRfc3339 format draws.stamp
  let session : SessionRecord :=
    { sessionId := sessionId
      deviceId := s!"dev_{draws.deviceUuid}"
      scope := params.scope.asStr
      deviceName := params.deviceName
      platform := params.platform
      userAgent := params.userAgent
      status := AuthSessionStatus.active.asStr
      createdAt := createdAt
      lastSeenAt := createdAt
      revokedAt := none }
  let access : AccessTokenRow :=
    { tokenHash := params.accessHash
      sessionId := sessionId
      expiresAt := expiresAt format draws params.accessTtl
      createdAt := createdAt
      revokedAt := none }
  let refresh : RefreshTokenRow :=
    { tokenId := s!"rtid_{draws.tokenUuid}"
      sessionId := sessionId
      tokenHash := params.refreshHash
      rotatedFrom := none
      expiresAt := expiresAt format draws params.refreshTtl
      createdAt := createdAt
      revokedAt := none }
  do
    let sessions ← insertRow SessionRecord.sessionId session store.sessions
    let withAccess ← insertAccess access { store with sessions := sessions }
    let created ← insertRefresh refresh withAccess
    pure (sessionId, created)

def validateAccessToken (format : Rfc3339Format) (now : Int) (tokenHash : String)
    (store : AuthStore) : Option SessionRecord :=
  (store.accessTokens.find? fun row =>
      row.tokenHash == tokenHash && row.revokedAt.isNone &&
        decide (nowRfc3339 format now < row.expiresAt)).bind
    fun row => store.getSession row.sessionId

inductive RotationEnd where
  | missing
  | reuseDetected
  | failed
  | rotated (sessionId : String)
  deriving DecidableEq, Repr

def revokeRefresh (now tokenId : String) (store : AuthStore) : AuthStore :=
  { store with
    refreshTokens := updateWhere (fun row => row.tokenId == tokenId)
      (fun row => { row with revokedAt := some now }) store.refreshTokens }

def touchSession (now sessionId : String) (store : AuthStore) : AuthStore :=
  { store with
    sessions := updateWhere (fun session => session.sessionId == sessionId)
      (fun session => { session with lastSeenAt := now }) store.sessions }

def rotateToken (format : Rfc3339Format) (old : RefreshTokenRow)
    (nextRefreshHash nextAccessHash : String) (accessTtl refreshTtl : Int) (draws : Draws)
    (store : AuthStore) : Option AuthStore :=
  let now := nowRfc3339 format draws.stamp
  let refresh : RefreshTokenRow :=
    { tokenId := s!"rtid_{draws.tokenUuid}"
      sessionId := old.sessionId
      tokenHash := nextRefreshHash
      rotatedFrom := some old.tokenId
      expiresAt := expiresAt format draws refreshTtl
      createdAt := now
      revokedAt := none }
  let access : AccessTokenRow :=
    { tokenHash := nextAccessHash
      sessionId := old.sessionId
      expiresAt := expiresAt format draws accessTtl
      createdAt := now
      revokedAt := none }
  do
    let withRefresh ← insertRefresh refresh (store.revokeRefresh now old.tokenId)
    let withAccess ← insertAccess access withRefresh
    pure (withAccess.touchSession now old.sessionId)

def rotateTransaction (format : Rfc3339Format) (refreshHash nextRefreshHash nextAccessHash : String)
    (accessTtl refreshTtl : Int) (draws : Draws) (commits : Bool) (store : AuthStore) :
    RotationEnd × AuthStore :=
  let now := nowRfc3339 format draws.stamp
  match store.refreshTokens.find? fun row => row.tokenHash == refreshHash with
  | none => (.missing, store)
  | some old =>
      if old.revokedAt.isSome then (.reuseDetected, store)
      else if old.expiresAt ≤ now then
        (.missing, if commits then store.revokeRefresh now old.tokenId else store)
      else if (store.getSession old.sessionId).any isActive then
        match rotateToken format old nextRefreshHash nextAccessHash accessTtl refreshTtl draws
            store with
        | some rotated => if commits then (.rotated old.sessionId, rotated) else (.failed, store)
        | none => (.failed, store)
      else (.missing, store)

def selects (sessionId deviceId : Option String) (revokeAll : Bool) (session : SessionRecord) :
    Bool :=
  if revokeAll then true
  else
    match sessionId, deviceId with
    | some sid, some did => session.sessionId == sid && session.deviceId == did
    | some sid, none => session.sessionId == sid
    | none, some did => session.deviceId == did
    | none, none => false

def revokeSession (status : AuthSessionStatus) (now : String) (store : AuthStore)
    (sessionId : String) : AuthStore :=
  { sessions := updateWhere (fun session => session.sessionId == sessionId)
      (fun session => { session with status := status.asStr, revokedAt := some now })
      store.sessions
    refreshTokens := updateWhere (fun row => row.sessionId == sessionId)
      (fun row => { row with revokedAt := some (row.revokedAt.getD now) }) store.refreshTokens
    accessTokens := updateWhere (fun row => row.sessionId == sessionId)
      (fun row => { row with revokedAt := some (row.revokedAt.getD now) }) store.accessTokens }

/-- The transaction of `revoke_sessions`, with the number of the sessions it revoked. -/
def revokeSessions (format : Rfc3339Format) (now : Int) (sessionId deviceId : Option String)
    (revokeAll : Bool) (status : AuthSessionStatus) (store : AuthStore) : Nat × AuthStore :=
  let sessionIds := (store.sessions.filter fun session =>
    isActive session && selects sessionId deviceId revokeAll session).map SessionRecord.sessionId
  (sessionIds.length, sessionIds.foldl (revokeSession status (nowRfc3339 format now)) store)

def cleanupExpired (format : Rfc3339Format) (now : Int) (deletesAccess deletesRefresh : Bool)
    (store : AuthStore) : AuthStore :=
  let now := nowRfc3339 format now
  if deletesAccess then
    let cleaned :=
      { store with
        accessTokens := deleteWhere (fun row => decide (row.expiresAt ≤ now)) store.accessTokens }
    if deletesRefresh then
      { cleaned with
        refreshTokens := deleteWhere
          (fun row => decide (row.expiresAt ≤ now) && row.revokedAt.isSome) store.refreshTokens }
    else cleaned
  else store

end AuthStore

structure AuthConfig where
  accessTtlMinutes : Int
  refreshTtlDays : Int
  tokenPepper : String

namespace AuthConfig

-- Both in seconds.
def accessTtl (config : AuthConfig) : Int := config.accessTtlMinutes * 60

def refreshTtl (config : AuthConfig) : Int := config.refreshTtlDays * 86400

end AuthConfig

/-- The service, with the hash function and the date format of the crates it uses. -/
structure AuthService where
  config : AuthConfig
  hash : String → String → String
  format : Rfc3339Format

structure NewSessionInput where
  deviceName : Option String
  platform : Option String
  userAgent : Option String

structure LoginResult where
  accessToken : String
  accessExpiresIn : Nat
  refreshToken : String
  session : SessionRecord

inductive RefreshError where
  | missing
  | reuseDetected
  deriving DecidableEq, Repr

structure IssueRun where
  accessRandom : String
  refreshRandom : String
  draws : Draws
  cleanedAt : Int
  deletesAccess : Bool
  deletesRefresh : Bool
  commits : Bool
  rereads : Bool

def generateToken (kind random : String) : String := s!"{kind}_{random}"

namespace IssueRun

def accessToken (issue : IssueRun) : String := generateToken "atk" issue.accessRandom

def refreshToken (issue : IssueRun) : String := generateToken "rtk" issue.refreshRandom

end IssueRun

namespace AuthService

variable (service : AuthService)

def hashToken (token : String) : String := service.hash token service.config.tokenPepper

def cleaned (issue : IssueRun) (store : AuthStore) : AuthStore :=
  store.cleanupExpired service.format issue.cleanedAt issue.deletesAccess issue.deletesRefresh

def params (input : NewSessionInput) (issue : IssueRun) : CreateSessionParams :=
  { scope := .owner
    deviceName := input.deviceName
    platform := input.platform
    userAgent := input.userAgent
    accessHash := service.hashToken issue.accessToken
    accessTtl := service.config.accessTtl
    refreshHash := service.hashToken issue.refreshToken
    refreshTtl := service.config.refreshTtl }

def loginTransaction (input : NewSessionInput) (issue : IssueRun) (store : AuthStore) :
    Option String × AuthStore :=
  let cleaned := service.cleaned issue store
  match cleaned.createTransaction service.format (service.params input issue) issue.draws with
  | some (sessionId, created) =>
      if issue.commits then (some sessionId, created) else (none, cleaned)
  | none => (none, cleaned)

def login (input : NewSessionInput) (issue : IssueRun) (store : AuthStore) :
    Option LoginResult × AuthStore :=
  let (sessionId, next) := service.loginTransaction input issue store
  let session := if issue.rereads then sessionId.bind next.getSession else none
  (session.map fun session =>
      { accessToken := issue.accessToken
        accessExpiresIn := AuthStore.expiresIn service.config.accessTtl
        refreshToken := issue.refreshToken
        session := session }, next)

def refreshTransaction (refreshToken : String) (issue : IssueRun) (store : AuthStore) :
    AuthStore.RotationEnd × AuthStore :=
  (service.cleaned issue store).rotateTransaction service.format (service.hashToken refreshToken)
    (service.hashToken issue.refreshToken) (service.hashToken issue.accessToken)
    service.config.accessTtl service.config.refreshTtl issue.draws issue.commits

def refresh (refreshToken : String) (issue : IssueRun) (store : AuthStore) :
    Except RefreshError LoginResult × AuthStore :=
  match service.refreshTransaction refreshToken issue store with
  | (.reuseDetected, next) => (.error .reuseDetected, next)
  | (.rotated sessionId, next) =>
      match if issue.rereads then next.getSession sessionId else none with
      | some session =>
          (.ok
            { accessToken := issue.accessToken
              accessExpiresIn := AuthStore.expiresIn service.config.accessTtl
              refreshToken := issue.refreshToken
              session := session }, next)
      | none => (.error .missing, next)
  | (_, next) => (.error .missing, next)

def validateAccessToken (now : Int) (accessToken : String) (store : AuthStore) :
    Option SessionRecord :=
  store.validateAccessToken service.format now (service.hashToken accessToken)

end AuthService

/-- A request to the service; a revocation whose transaction fails changes nothing. -/
inductive AuthInput where
  | login (input : NewSessionInput) (issue : IssueRun)
  | refresh (refreshToken : String) (issue : IssueRun)
  | logoutBySession (sessionId : String) (now : Int) (commits : Bool)
  | revoke (sessionId deviceId : Option String) (revokeAll : Bool) (now : Int) (commits : Bool)
  | cleanupExpired (now : Int) (deletesAccess deletesRefresh : Bool)

/-- An auth database and what has become of it: for each hash of a token the session it was issued
for, the refresh hashes that were rotated, and the sessions that a logout or revocation covered. -/
structure AuthWorld where
  store : AuthStore
  accessIssued : List (String × String)
  refreshIssued : List (String × String)
  rotated : List String
  covered : List String

def AuthWorld.empty : AuthWorld := ⟨.empty, [], [], [], []⟩

namespace AuthService

variable (service : AuthService)

def issued (issue : IssueRun) (sessionId : String) (world : AuthWorld) : AuthWorld :=
  { world with
    accessIssued := world.accessIssued ++ [(service.hashToken issue.accessToken, sessionId)]
    refreshIssued := world.refreshIssued ++ [(service.hashToken issue.refreshToken, sessionId)] }

def revoked (sessionId deviceId : Option String) (revokeAll : Bool) (status : AuthSessionStatus)
    (now : Int) (world : AuthWorld) : AuthWorld :=
  let selected := world.store.sessions.filter (AuthStore.selects sessionId deviceId revokeAll)
  { world with
    store := (world.store.revokeSessions service.format now sessionId deviceId revokeAll status).2
    covered := world.covered ++ selected.map SessionRecord.sessionId }

def step (world : AuthWorld) : AuthInput → Option AuthWorld
  | .login input issue =>
      match service.loginTransaction input issue world.store with
      | (some sessionId, store) => some (service.issued issue sessionId { world with store := store })
      | (none, store) => some { world with store := store }
  | .refresh refreshToken issue =>
      match service.refreshTransaction refreshToken issue world.store with
      | (.rotated sessionId, store) =>
          some (service.issued issue sessionId
            { world with
              store := store
              rotated := world.rotated ++ [service.hashToken refreshToken] })
      | (_, store) => some { world with store := store }
  | .logoutBySession sessionId now commits =>
      some (if commits then service.revoked (some sessionId) none false .loggedOut now world
        else world)
  | .revoke sessionId deviceId revokeAll now commits =>
      some (if commits then service.revoked sessionId deviceId revokeAll .revoked now world
        else world)
  | .cleanupExpired now deletesAccess deletesRefresh =>
      some { world with
        store := world.store.cleanupExpired service.format now deletesAccess deletesRefresh }

def Distinct (world : AuthWorld) : AuthInput → Prop
  | .login _ issue | .refresh _ issue =>
      service.hashToken issue.accessToken ∉ world.accessIssued.map Prod.fst ∧
        service.hashToken issue.refreshToken ∉ world.refreshIssued.map Prod.fst
  | _ => True

end AuthService

end OpenJax.Gateway
