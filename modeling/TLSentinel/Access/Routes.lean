/-
  TLSentinel.Access.Routes
  ────────────────────────
  **WHICH REQUEST REACHES WHICH HANDLER.**

  `RegisterRoutes` of `internal/routes/routes.go` as the tree it builds, with
  the middlewares `Authenticate`, `RequirePermission` and `RequireScanner` as
  guards.  `policy` says for each handler who is to call it; it is stated on
  its own, not read off the tree.

  The router is a parameter: which of several fitting routes it takes, and
  whether it takes one that fits, is not said here.  `HandledBy` is what it does;
  `Handled` is what some router may do, and so allows more than each of them.
  The middlewares that never refuse a request are left out, as is what a handler
  answers.

  Main results: `handled_iff_admitted`, `role_reach`.
-/
import TLSentinel.Access.Identity
import TLSentinel.Foundation.Routing

namespace TLSentinel.Access

open Foundation Foundation.Routing Users

variable {X : Externals}

/-! ## §1. Handlers, methods, guards. -/

/-- The handlers that `RegisterRoutes` registers, by package and name. -/
inductive Handler where
  | apiDocs
  | health | version | calendarServeUserCalendar | authLogin | authLoginTOTP | authConfig
  | oidcLogin | oidcCallback
  | scannersList | scannersGet | scannersCreate | scannersUpdate | scannersPatch | scannersDelete
  | scannersSetDefault | scannersRegenerateToken
  | certificatesList | certificatesActive | certificatesExpiring | certificatesLookup
  | certificatesCreate | certificatesGet | certificatesGetEndpoints
  | certificatesGetHistoricalEndpoints | certificatesGetReferences | certificatesDelete
  | certificatesListRootStores | certificatesListAnchors
  | endpointsList | endpointsCreate | endpointsBulkImport | endpointsGet | endpointsGetTLSProfile
  | endpointsHistory | endpointsUpdate | endpointsPatch | endpointsDelete | endpointsLinkCertificate
  | usersMe | usersUpdateMe | usersChangeMyPassword | usersRotateCalendarToken
  | usersGetMySubscriptions | usersSetMySubscriptions
  | apikeysList | apikeysCreate | apikeysDelete | apikeysListAll | apikeysDeleteAdmin
  | totpStatus | totpBeginSetup | totpConfirmSetup | totpDisable | totpRegenerateRecoveryCodes
  | totpAdminReset
  | usersList | usersCreate | usersGet | usersUpdate | usersDelete | usersSetEnabled
  | usersChangePassword
  | groupsList | groupsCreate | groupsGet | groupsGetEndpoints | groupsUpdate | groupsDelete
  | notificationtemplatesList | notificationtemplatesGet | notificationtemplatesUpdate
  | notificationtemplatesReset
  | settingsGetAlertThresholds | settingsSetAlertThresholds | mailGet | mailSave | mailTest
  | settingsGetScheduledJobs | settingsUpdateScheduledJob | settingsGetScanHistoryRetention
  | settingsSetScanHistoryRetention | settingsGetAuditLogRetention | settingsSetAuditLogRetention
  | settingsRunPurgeScanHistory | settingsRunPurgeAuditLogs | settingsRunPurgeExpiryAlerts
  | settingsRunPurgeUnreferencedCerts | settingsRunRefreshRootStores
  | reportsTLSPosture | auditList
  | tagsGetEndpointTags | tagsSetEndpointTags | tagsListCategories | tagsCreateCategory
  | tagsUpdateCategory | tagsDeleteCategory | tagsListTags | tagsCreateTag | tagsUpdateTag
  | tagsDeleteTag
  | discoveryListNetworks | discoveryGetNetwork | discoveryCreateNetwork | discoveryUpdateNetwork
  | discoveryDeleteNetwork | discoveryListInbox | discoveryGetInboxItem | discoveryPromoteInboxItem
  | discoveryDismissInboxItem | discoveryDeleteInboxItem
  | utilsResolve | searchSearch
  | probeConfig | probeHosts | probeResult | probeTLSProfile | probeSAMLEndpoints | probeSAMLResult
  | probeReportDiscovery
  | frontend
  deriving DecidableEq, Repr

/-- The methods of a request; `other` is any that no route is registered for alone. -/
inductive Method where
  | get | post | put | patch | delete | other
  deriving DecidableEq, Repr

/-- The middlewares that can refuse a request. -/
inductive Guard where
  /-- `auth.Authenticate`. -/
  | authenticate
  /-- `auth.RequirePermission`. -/
  | requirePermission (perm : Permission)
  /-- `probe.RequireScanner`. -/
  | requireScanner
  deriving DecidableEq, Repr

/-- `r.Group`, with what it uses. -/
def group (guards : List Guard) (routes : List (Route Method Guard Handler)) :
    Route Method Guard Handler := .scope [] guards routes

/-- `r.Route`, with what it uses. -/
def route (pattern : Pattern) (guards : List Guard)
    (routes : List (Route Method Guard Handler)) : Route Method Guard Handler :=
  .scope pattern guards routes

/-- `r.Get`. -/
def get (pattern : Pattern) (h : Handler) : Route Method Guard Handler :=
  .handle (some .get) pattern h

/-- `r.Post`. -/
def post (pattern : Pattern) (h : Handler) : Route Method Guard Handler :=
  .handle (some .post) pattern h

/-- `r.Put`. -/
def put (pattern : Pattern) (h : Handler) : Route Method Guard Handler :=
  .handle (some .put) pattern h

/-- `r.Patch`. -/
def patch (pattern : Pattern) (h : Handler) : Route Method Guard Handler :=
  .handle (some .patch) pattern h

/-- `r.Delete`. -/
def delete (pattern : Pattern) (h : Handler) : Route Method Guard Handler :=
  .handle (some .delete) pattern h

/-! ## §2. The tree. -/

/-- `/scanners`. -/
def scannersRoutes : Route Method Guard Handler :=
  route [.lit "scanners"] [] [
    group [.requirePermission .scannersView] [
      get [] .scannersList,
      get [.param "scannerID"] .scannersGet],
    group [.requirePermission .scannersEdit] [
      post [] .scannersCreate,
      route [.param "scannerID"] [] [
        put [] .scannersUpdate,
        patch [] .scannersPatch,
        delete [] .scannersDelete,
        post [.lit "default"] .scannersSetDefault,
        post [.lit "regenerate-token"] .scannersRegenerateToken]]]

/-- `/certificates`. -/
def certificatesRoutes : Route Method Guard Handler :=
  route [.lit "certificates"] [] [
    group [.requirePermission .certsView] [
      get [] .certificatesList,
      get [.lit "active"] .certificatesActive,
      get [.lit "expiring"] .certificatesExpiring,
      get [.lit "lookup"] .certificatesLookup],
    group [.requirePermission .certsEdit] [
      post [] .certificatesCreate],
    route [.param "fingerprint"] [] [
      group [.requirePermission .certsView] [
        get [] .certificatesGet,
        get [.lit "endpoints"] .certificatesGetEndpoints,
        get [.lit "endpoints", .lit "historical"] .certificatesGetHistoricalEndpoints,
        get [.lit "references"] .certificatesGetReferences],
      group [.requirePermission .certsEdit] [
        delete [] .certificatesDelete]]]

/-- `/root-stores`. -/
def rootStoresRoutes : Route Method Guard Handler :=
  route [.lit "root-stores"] [.requirePermission .certsView] [
    get [] .certificatesListRootStores,
    get [.param "id", .lit "anchors"] .certificatesListAnchors]

/-- `/endpoints`. -/
def endpointsRoutes : Route Method Guard Handler :=
  route [.lit "endpoints"] [] [
    group [.requirePermission .endpointsView] [
      get [] .endpointsList],
    group [.requirePermission .endpointsEdit] [
      post [] .endpointsCreate,
      post [.lit "bulk"] .endpointsBulkImport],
    route [.param "endpointID"] [] [
      group [.requirePermission .endpointsView] [
        get [] .endpointsGet,
        get [.lit "tls-profile"] .endpointsGetTLSProfile,
        get [.lit "history"] .endpointsHistory,
        get [.lit "tags"] .tagsGetEndpointTags],
      group [.requirePermission .endpointsEdit] [
        put [] .endpointsUpdate,
        patch [] .endpointsPatch,
        delete [] .endpointsDelete,
        post [.lit "certificate"] .endpointsLinkCertificate,
        put [.lit "tags"] .tagsSetEndpointTags]]]

/-- `/me`: any authenticated user, scoped to itself. -/
def meRoutes : Route Method Guard Handler :=
  route [.lit "me"] [.requirePermission .selfAccess] [
    get [] .usersMe,
    put [] .usersUpdateMe,
    patch [.lit "password"] .usersChangeMyPassword,
    post [.lit "calendar-token"] .usersRotateCalendarToken,
    get [.lit "tag-subscriptions"] .usersGetMySubscriptions,
    put [.lit "tag-subscriptions"] .usersSetMySubscriptions,
    get [.lit "api-keys"] .apikeysList,
    post [.lit "api-keys"] .apikeysCreate,
    delete [.lit "api-keys", .param "id"] .apikeysDelete,
    get [.lit "totp"] .totpStatus,
    post [.lit "totp", .lit "setup"] .totpBeginSetup,
    post [.lit "totp", .lit "verify"] .totpConfirmSetup,
    delete [.lit "totp"] .totpDisable,
    post [.lit "totp", .lit "recovery-codes"] .totpRegenerateRecoveryCodes]

/-- `/admin/api-keys`. -/
def adminAPIKeysRoutes : Route Method Guard Handler :=
  route [.lit "admin", .lit "api-keys"] [.requirePermission .apiKeysAdmin] [
    get [] .apikeysListAll,
    delete [.param "id"] .apikeysDeleteAdmin]

/-- `/users`. -/
def usersRoutes : Route Method Guard Handler :=
  route [.lit "users"] [] [
    group [.requirePermission .usersView] [
      get [] .usersList],
    group [.requirePermission .usersEdit] [
      post [] .usersCreate],
    route [.param "userID"] [] [
      group [.requirePermission .usersView] [
        get [] .usersGet],
      group [.requirePermission .usersEdit] [
        put [] .usersUpdate,
        delete [] .usersDelete,
        patch [.lit "enabled"] .usersSetEnabled],
      group [.requirePermission .usersCredentials] [
        patch [.lit "password"] .usersChangePassword,
        delete [.lit "totp"] .totpAdminReset]]]

/-- `/groups`. -/
def groupsRoutes : Route Method Guard Handler :=
  route [.lit "groups"] [] [
    group [.requirePermission .groupsView] [
      get [] .groupsList],
    group [.requirePermission .groupsEdit] [
      post [] .groupsCreate],
    route [.param "groupID"] [] [
      group [.requirePermission .groupsView] [
        get [] .groupsGet,
        get [.lit "endpoints"] .groupsGetEndpoints],
      group [.requirePermission .groupsEdit] [
        put [] .groupsUpdate,
        delete [] .groupsDelete]]]

/-- `/notification-templates`. -/
def notificationTemplatesRoutes : Route Method Guard Handler :=
  route [.lit "notification-templates"] [] [
    group [.requirePermission .settingsView] [
      get [] .notificationtemplatesList,
      get [.param "eventType", .param "channel"] .notificationtemplatesGet],
    group [.requirePermission .settingsEdit] [
      put [.param "eventType", .param "channel"] .notificationtemplatesUpdate,
      delete [.param "eventType", .param "channel"] .notificationtemplatesReset]]

/-- `/settings`. -/
def settingsRoutes : Route Method Guard Handler :=
  route [.lit "settings"] [] [
    group [.requirePermission .settingsView] [
      get [.lit "alert-thresholds"] .settingsGetAlertThresholds],
    group [.requirePermission .settingsEdit] [
      put [.lit "alert-thresholds"] .settingsSetAlertThresholds],
    route [.lit "mail"] [] [
      group [.requirePermission .settingsView] [
        get [] .mailGet],
      group [.requirePermission .settingsEdit] [
        put [] .mailSave,
        post [.lit "test"] .mailTest]]]

/-- `/maintenance`. -/
def maintenanceRoutes : Route Method Guard Handler :=
  route [.lit "maintenance"] [.requirePermission .maintenance] [
    get [.lit "scheduled-jobs"] .settingsGetScheduledJobs,
    put [.lit "scheduled-jobs", .param "name"] .settingsUpdateScheduledJob,
    get [.lit "scan-history-retention"] .settingsGetScanHistoryRetention,
    put [.lit "scan-history-retention"] .settingsSetScanHistoryRetention,
    get [.lit "audit-log-retention"] .settingsGetAuditLogRetention,
    put [.lit "audit-log-retention"] .settingsSetAuditLogRetention,
    post [.lit "run", .lit "purge-scan-history"] .settingsRunPurgeScanHistory,
    post [.lit "run", .lit "purge-audit-logs"] .settingsRunPurgeAuditLogs,
    post [.lit "run", .lit "purge-expiry-alerts"] .settingsRunPurgeExpiryAlerts,
    post [.lit "run", .lit "purge-unreferenced-certs"] .settingsRunPurgeUnreferencedCerts,
    post [.lit "run", .lit "refresh-root-stores"] .settingsRunRefreshRootStores]

/-- `/reports` and `/logs`. -/
def reportsRoutes : List (Route Method Guard Handler) := [
  route [.lit "reports"] [.requirePermission .endpointsView] [
    get [.lit "tls-posture"] .reportsTLSPosture],
  route [.lit "logs"] [.requirePermission .logsView] [
    get [.lit "audit"] .auditList]]

/-- `/tags`. -/
def tagsRoutes : Route Method Guard Handler :=
  route [.lit "tags"] [] [
    route [.lit "categories"] [] [
      group [.requirePermission .tagsView] [
        get [] .tagsListCategories],
      group [.requirePermission .tagsEdit] [
        post [] .tagsCreateCategory,
        put [.param "categoryID"] .tagsUpdateCategory,
        delete [.param "categoryID"] .tagsDeleteCategory]],
    group [.requirePermission .tagsView] [
      get [] .tagsListTags],
    group [.requirePermission .tagsEdit] [
      post [] .tagsCreateTag,
      put [.param "tagID"] .tagsUpdateTag,
      delete [.param "tagID"] .tagsDeleteTag]]

/-- `/discovery`. -/
def discoveryRoutes : Route Method Guard Handler :=
  route [.lit "discovery"] [] [
    route [.lit "networks"] [] [
      group [.requirePermission .discoveryView] [
        get [] .discoveryListNetworks,
        get [.param "networkID"] .discoveryGetNetwork],
      group [.requirePermission .discoveryEdit] [
        post [] .discoveryCreateNetwork,
        put [.param "networkID"] .discoveryUpdateNetwork,
        delete [.param "networkID"] .discoveryDeleteNetwork]],
    route [.lit "inbox"] [] [
      group [.requirePermission .discoveryView] [
        get [] .discoveryListInbox,
        get [.param "itemID"] .discoveryGetInboxItem],
      group [.requirePermission .discoveryEdit] [
        post [.param "itemID", .lit "promote"] .discoveryPromoteInboxItem,
        post [.param "itemID", .lit "dismiss"] .discoveryDismissInboxItem,
        delete [.param "itemID"] .discoveryDeleteInboxItem]]]

/-- `/utils` and `/search`. -/
def utilsRoutes : List (Route Method Guard Handler) := [
  route [.lit "utils"] [.requirePermission .endpointsView] [
    get [.lit "resolve"] .utilsResolve],
  route [.lit "search"] [.requirePermission .endpointsView] [
    get [] .searchSearch]]

/-- `/probe`. -/
def probeRoutes : Route Method Guard Handler :=
  route [.lit "probe"] [.requireScanner] [
    get [.lit "config"] .probeConfig,
    get [.lit "hosts"] .probeHosts,
    post [.lit "hosts", .param "hostID", .lit "result"] .probeResult,
    post [.lit "hosts", .param "hostID", .lit "tls-profile"] .probeTLSProfile,
    get [.lit "saml"] .probeSAMLEndpoints,
    post [.lit "saml", .param "endpointID", .lit "result"] .probeSAMLResult,
    post [.lit "discovery"] .probeReportDiscovery]

/-- The public routes; those of OIDC only when it is configured. -/
def publicRoutes (oidc : Bool) : List (Route Method Guard Handler) :=
  [get [.lit "health"] .health,
    get [.lit "version"] .version,
    get [.lit "calendar", .lit "u", .param "token", .rest] .calendarServeUserCalendar,
    post [.lit "auth", .lit "login"] .authLogin,
    post [.lit "auth", .lit "totp"] .authLoginTOTP,
    get [.lit "auth", .lit "config"] .authConfig] ++
  if oidc then
    [get [.lit "auth", .lit "oidc", .lit "login"] .oidcLogin,
      get [.lit "auth", .lit "oidc", .lit "callback"] .oidcCallback]
  else []

/-- The protected routes. -/
def protectedRoutes : Route Method Guard Handler :=
  group [.authenticate] ([scannersRoutes, certificatesRoutes, rootStoresRoutes, endpointsRoutes,
    meRoutes, adminAPIKeysRoutes, usersRoutes, groupsRoutes, notificationTemplatesRoutes,
    settingsRoutes, maintenanceRoutes] ++ reportsRoutes ++ [tagsRoutes, discoveryRoutes] ++
    utilsRoutes ++ [probeRoutes])

/-- `RegisterRoutes`. -/
def registerRoutes (oidc : Bool) : List (Route Method Guard Handler) := [
  get [.lit "api-docs", .rest] .apiDocs,
  route [.lit "api", .lit "v1"] [] (publicRoutes oidc ++ [protectedRoutes]),
  .handle none [.rest] .frontend]

/-! ## §3. What the guards check. -/

/-- One middleware, for a request with this Authorization header at this time; the context
holds the identity. -/
def check (P : Primitives) (s : Sys X) (authorization : List Char) (now : Nat) :
    Guard → Option Identity → Except HttpError (Option Identity)
  | .authenticate, _ =>
      match authenticate P s authorization now with
      | .ok identity => .ok (some identity)
      | .error e => .error e
  | .requirePermission perm, ctx =>
      match ctx with
      | some (.user u) => if has u.role perm then .ok ctx else .error ⟨403, "forbidden"⟩
      | _ => .error ⟨403, "forbidden"⟩
  | .requireScanner, ctx =>
      match ctx with
      | some (.scanner _) => .ok ctx
      | _ => .error ⟨403, "forbidden: scanner token required"⟩

/-- With the router `R`, a request with this header at this time is handled by `h`, with these
path parameters and this identity in its context. -/
def HandledBy (R : Router Method Guard Handler) (oidc : Bool) (P : Primitives) (s : Sys X)
    (m : Method) (path : List String) (authorization : List Char) (now : Nat) (h : Handler)
    (ps : Params) (ctx : Option Identity) : Prop :=
  R.Runs (check P s authorization now) m (registerRoutes oidc) none path [] (.handled h ps ctx)

/-- With some router, it may be. -/
def Handled (oidc : Bool) (P : Primitives) (s : Sys X) (m : Method) (path : List String)
    (authorization : List Char) (now : Nat) (h : Handler) (ps : Params)
    (ctx : Option Identity) : Prop :=
  Served (check P s authorization now) (registerRoutes oidc) m none path (.handled h ps ctx)

/-! ## §4. Who is to call what. -/

/-- The callers a handler is meant for. -/
inductive Policy where
  | anyone
  /-- Users whose role grants the permission. -/
  | holders (perm : Permission)
  | scanners
  deriving DecidableEq, Repr

/-- Who is to call a handler. -/
def policy : Handler → Policy
  | .apiDocs | .frontend | .health | .version | .calendarServeUserCalendar | .authLogin
  | .authLoginTOTP | .authConfig | .oidcLogin | .oidcCallback => .anyone
  | .scannersList | .scannersGet => .holders .scannersView
  | .scannersCreate | .scannersUpdate | .scannersPatch | .scannersDelete | .scannersSetDefault
  | .scannersRegenerateToken => .holders .scannersEdit
  | .certificatesList | .certificatesActive | .certificatesExpiring | .certificatesLookup
  | .certificatesGet | .certificatesGetEndpoints | .certificatesGetHistoricalEndpoints
  | .certificatesGetReferences | .certificatesListRootStores | .certificatesListAnchors =>
      .holders .certsView
  | .certificatesCreate | .certificatesDelete => .holders .certsEdit
  | .endpointsList | .endpointsGet | .endpointsGetTLSProfile | .endpointsHistory
  | .tagsGetEndpointTags | .reportsTLSPosture | .utilsResolve | .searchSearch =>
      .holders .endpointsView
  | .endpointsCreate | .endpointsBulkImport | .endpointsUpdate | .endpointsPatch
  | .endpointsDelete | .endpointsLinkCertificate | .tagsSetEndpointTags => .holders .endpointsEdit
  | .usersMe | .usersUpdateMe | .usersChangeMyPassword | .usersRotateCalendarToken
  | .usersGetMySubscriptions | .usersSetMySubscriptions | .apikeysList | .apikeysCreate
  | .apikeysDelete | .totpStatus | .totpBeginSetup | .totpConfirmSetup | .totpDisable
  | .totpRegenerateRecoveryCodes => .holders .selfAccess
  | .apikeysListAll | .apikeysDeleteAdmin => .holders .apiKeysAdmin
  | .usersList | .usersGet => .holders .usersView
  | .usersCreate | .usersUpdate | .usersDelete | .usersSetEnabled => .holders .usersEdit
  | .usersChangePassword | .totpAdminReset => .holders .usersCredentials
  | .groupsList | .groupsGet | .groupsGetEndpoints => .holders .groupsView
  | .groupsCreate | .groupsUpdate | .groupsDelete => .holders .groupsEdit
  | .notificationtemplatesList | .notificationtemplatesGet | .settingsGetAlertThresholds
  | .mailGet => .holders .settingsView
  | .notificationtemplatesUpdate | .notificationtemplatesReset | .settingsSetAlertThresholds
  | .mailSave | .mailTest => .holders .settingsEdit
  | .settingsGetScheduledJobs | .settingsUpdateScheduledJob | .settingsGetScanHistoryRetention
  | .settingsSetScanHistoryRetention | .settingsGetAuditLogRetention
  | .settingsSetAuditLogRetention | .settingsRunPurgeScanHistory | .settingsRunPurgeAuditLogs
  | .settingsRunPurgeExpiryAlerts | .settingsRunPurgeUnreferencedCerts
  | .settingsRunRefreshRootStores => .holders .maintenance
  | .auditList => .holders .logsView
  | .tagsListCategories | .tagsListTags => .holders .tagsView
  | .tagsCreateCategory | .tagsUpdateCategory | .tagsDeleteCategory | .tagsCreateTag
  | .tagsUpdateTag | .tagsDeleteTag => .holders .tagsEdit
  | .discoveryListNetworks | .discoveryGetNetwork | .discoveryListInbox
  | .discoveryGetInboxItem => .holders .discoveryView
  | .discoveryCreateNetwork | .discoveryUpdateNetwork | .discoveryDeleteNetwork
  | .discoveryPromoteInboxItem | .discoveryDismissInboxItem | .discoveryDeleteInboxItem =>
      .holders .discoveryEdit
  | .probeConfig | .probeHosts | .probeResult | .probeTLSProfile | .probeSAMLEndpoints
  | .probeSAMLResult | .probeReportDiscovery => .scanners

/-- The callers a policy admits: the identity that a request with this header has then. -/
def Policy.Admits (P : Primitives) (s : Sys X) (authorization : List Char) (now : Nat) :
    Policy → Option Identity → Prop
  | .anyone, ctx => ctx = none
  | .holders perm, ctx =>
      ∃ u, authenticate P s authorization now = .ok (.user u) ∧ has u.role perm = true
        ∧ ctx = some (.user u)
  | .scanners, ctx =>
      ∃ id, authenticate P s authorization now = .ok (.scanner id) ∧ ctx = some (.scanner id)

/-- The guards that enforce a policy. -/
def Policy.guards : Policy → List Guard
  | .anyone => []
  | .holders perm => [.authenticate, .requirePermission perm]
  | .scanners => [.authenticate, .requireScanner]

/-- **They do.** -/
theorem runGuards_policy {P : Primitives} {s : Sys X} {authorization : List Char} {now : Nat}
    (p : Policy) (ctx : Option Identity) :
    runGuards (check P s authorization now) p.guards none = .ok ctx ↔
      p.Admits P s authorization now ctx := by
  unfold Policy.guards Policy.Admits
  cases p with
  | anyone =>
      simp only [runGuards, Except.ok.injEq]
      exact eq_comm
  | holders perm =>
      cases hauth : authenticate P s authorization now with
      | error e => simp [runGuards, check, hauth]
      | ok identity =>
          cases identity with
          | scanner id => simp [runGuards, check, hauth]
          | user u =>
              by_cases hhas : has u.role perm = true
              · simp only [runGuards, check, hauth, hhas, if_true, Except.ok.injEq,
                  Identity.user.injEq, exists_eq_left', true_and]
                exact eq_comm
              · simp [runGuards, check, hauth, hhas]
  | scanners =>
      cases hauth : authenticate P s authorization now with
      | error e => simp [runGuards, check, hauth]
      | ok identity =>
          cases identity with
          | scanner id =>
              simp only [runGuards, check, hauth, Except.ok.injEq, Identity.scanner.injEq,
                exists_eq_left']
              exact eq_comm
          | user u => simp [runGuards, check, hauth]

/-- Every row of the table has the guards of its handler's policy. -/
theorem guards_of_row {oidc : Bool} {e : Entry Method Guard Handler}
    (he : e ∈ tableOf (registerRoutes oidc)) : e.guards = (policy e.handler).guards := by
  have hall : (tableOf (registerRoutes oidc)).all
      (fun e => decide (e.guards = (policy e.handler).guards)) = true := by
    cases oidc <;> decide
  exact of_decide_eq_true (List.all_eq_true.mp hall e he)

/-- The router takes a route of the handler for the request, with these path parameters. -/
def RoutedBy (R : Router Method Guard Handler) (oidc : Bool) (m : Method) (path : List String)
    (h : Handler) (ps : Params) : Prop :=
  ∃ e, R.Leads m (registerRoutes oidc) path e ps ∧ e.handler = h

/-- With every router, what runs is admitted by its policy. -/
theorem handled_policy {oidc : Bool} {P : Primitives} {s : Sys X} {m : Method}
    {path : List String} {authorization : List Char} {now : Nat} {h : Handler} {ps : Params}
    {ctx : Option Identity} (hh : Handled oidc P s m path authorization now h ps ctx) :
    (policy h).Admits P s authorization now ctx := by
  obtain ⟨e, he, rfl, _, _, hgs⟩ := served_iff.mp hh
  rwa [guards_of_row he, runGuards_policy] at hgs

/-- What the router does, it may do. -/
theorem HandledBy.handled {R : Router Method Guard Handler} {oidc : Bool} {P : Primitives}
    {s : Sys X} {m : Method} {path : List String} {authorization : List Char} {now : Nat}
    {h : Handler} {ps : Params} {ctx : Option Identity}
    (hh : HandledBy R oidc P s m path authorization now h ps ctx) :
    Handled oidc P s m path authorization now h ps ctx := hh.served

/-- A handler runs where the router takes a route of it, and its policy admits the caller. -/
theorem handledBy_policy {R : Router Method Guard Handler} {oidc : Bool} {P : Primitives}
    {s : Sys X} {m : Method} {path : List String} {authorization : List Char} {now : Nat}
    {h : Handler} {ps : Params} {ctx : Option Identity}
    (hh : HandledBy R oidc P s m path authorization now h ps ctx) :
    RoutedBy R oidc m path h ps ∧ (policy h).Admits P s authorization now ctx := by
  refine ⟨?_, handled_policy hh.handled⟩
  obtain ⟨e, qs, hleads, hhandler, hps, _⟩ := Router.runs_iff.mp hh
  exact ⟨e, hps ▸ hleads, hhandler⟩

/-- And nothing else keeps it from running. -/
theorem handledBy_of_policy {R : Router Method Guard Handler} {oidc : Bool} {P : Primitives}
    {s : Sys X} {m : Method} {path : List String} {authorization : List Char} {now : Nat}
    {h : Handler} {ps : Params} {ctx : Option Identity} (hr : RoutedBy R oidc m path h ps)
    (hadmits : (policy h).Admits P s authorization now ctx) :
    HandledBy R oidc P s m path authorization now h ps ctx := by
  obtain ⟨e, hleads, rfl⟩ := hr
  refine Router.runs_iff.mpr ⟨e, ps, hleads, rfl, rfl, ?_⟩
  rwa [guards_of_row hleads.mem.1, runGuards_policy]

/-- **COMPLETE MEDIATION.**  In every state, for every router and every request: a handler runs
exactly where the router takes a route of it and its policy admits the caller, and the identity
it runs with is the one the policy admitted. -/
theorem handled_iff_admitted (R : Router Method Guard Handler) (oidc : Bool) (P : Primitives)
    (s : Sys X) (m : Method) (path : List String) (authorization : List Char) (now : Nat)
    (h : Handler) (ps : Params) (ctx : Option Identity) :
    HandledBy R oidc P s m path authorization now h ps ctx ↔
      RoutedBy R oidc m path h ps ∧ (policy h).Admits P s authorization now ctx :=
  ⟨handledBy_policy, fun hs => handledBy_of_policy hs.1 hs.2⟩

/-- A request that is handled for a user authenticated as that user, whose role grants what the
handler asks for. -/
theorem user_of_handled {oidc : Bool} {P : Primitives} {s : Sys X} {m : Method}
    {path : List String} {authorization : List Char} {now : Nat} {h : Handler} {ps : Params}
    {u : Auth.Identity}
    (hh : Handled oidc P s m path authorization now h ps (some (.user u))) :
    authenticate P s authorization now = .ok (.user u) ∧
      ∃ perm, policy h = .holders perm ∧ has u.role perm = true := by
  have hadmits := handled_policy hh
  cases hp : policy h with
  | anyone => simp [hp, Policy.Admits] at hadmits
  | scanners => simp [hp, Policy.Admits] at hadmits
  | holders perm =>
      simp only [hp, Policy.Admits, Option.some.injEq, Identity.user.injEq] at hadmits
      obtain ⟨v, hauth, hhas, rfl⟩ := hadmits
      exact ⟨hauth, perm, rfl, hhas⟩

/-! ## §5. What a role can reach. -/

/-- The roles, from the weakest. -/
def rank : Role → Nat
  | .viewer => 0
  | .operator => 1
  | .admin => 2

/-- A stronger role has every permission of a weaker one. -/
theorem has_mono {r r' : Role} (h : rank r ≤ rank r') {perm : Permission}
    (hr : has r perm = true) : has r' perm = true := by
  cases r with
  | admin =>
      cases r' with
      | admin => exact hr
      | operator => exact absurd h (by decide)
      | viewer => exact absurd h (by decide)
  | operator =>
      cases r' with
      | admin => rfl
      | operator => exact hr
      | viewer => exact absurd h (by decide)
  | viewer =>
      cases r' with
      | admin => rfl
      | operator => cases perm <;> first | rfl | exact absurd hr (by decide)
      | viewer => exact hr

/-- The permissions that admins alone have. -/
def adminPermissions : List Permission :=
  [.certsEdit, .scannersEdit, .usersEdit, .usersCredentials, .apiKeysAdmin, .groupsEdit,
    .settingsEdit, .wildcard]

/-- Other roles have none of them. -/
theorem not_has_adminPermission {r : Role} (hr : r ≠ .admin) {perm : Permission}
    (hp : perm ∈ adminPermissions) : has r perm = false := by
  have hall : adminPermissions.all (fun p => !has .operator p && !has .viewer p) = true := by
    decide
  have hperm := List.all_eq_true.mp hall perm hp
  simp only [Bool.and_eq_true, Bool.not_eq_eq_eq_not, Bool.not_true] at hperm
  cases r with
  | admin => exact absurd rfl hr
  | operator => exact hperm.1
  | viewer => exact hperm.2

/-- What viewers reach with another method than GET asks for `self:access`. -/
theorem viewer_row {oidc : Bool} {e : Entry Method Guard Handler}
    (he : e ∈ tableOf (registerRoutes oidc)) {perm : Permission}
    (hp : policy e.handler = .holders perm) (hhas : has .viewer perm = true) :
    e.method = some .get ∨ perm = .selfAccess := by
  have hall : (tableOf (registerRoutes oidc)).all
      (fun e => decide (e.method = some .get) ||
        match policy e.handler with
        | .holders perm => !has .viewer perm || decide (perm = .selfAccess)
        | _ => true) = true := by
    cases oidc <;> decide
  have hrow := List.all_eq_true.mp hall e he
  simpa [hp, hhas] using hrow

/-- **WHAT A ROLE CAN REACH.**  When the router hands a request of a user to a handler, then
(1) it hands the same request to it, in any state, for any user of this role or a stronger one;
(2) a viewer's request reads, or is about the viewer's own account;
(3) only an admin's request reaches what needs an admin permission. -/
theorem role_reach {R : Router Method Guard Handler} {oidc : Bool} {P : Primitives} {s : Sys X}
    {m : Method} {path : List String} {authorization : List Char} {now : Nat} {h : Handler}
    {ps : Params} {u : Auth.Identity}
    (hh : HandledBy R oidc P s m path authorization now h ps (some (.user u))) :
    (∀ (s' : Sys X) authorization' now' u',
      authenticate P s' authorization' now' = .ok (.user u') → rank u.role ≤ rank u'.role →
      HandledBy R oidc P s' m path authorization' now' h ps (some (.user u')))
    ∧ (u.role = .viewer → m ≠ .get → policy h = .holders .selfAccess)
    ∧ (u.role ≠ .admin → ∀ perm ∈ adminPermissions, policy h ≠ .holders perm) := by
  obtain ⟨_, perm, hpolicy, hhas⟩ := user_of_handled hh.handled
  obtain ⟨⟨e, hleads, rfl⟩, _⟩ := handledBy_policy hh
  obtain ⟨he, hm⟩ := hleads.mem
  refine ⟨?_, ?_, ?_⟩
  · intro s' authorization' now' u' hauth hrank
    refine handledBy_of_policy ⟨e, hleads, rfl⟩ ?_
    rw [hpolicy]
    exact ⟨u', hauth, has_mono hrank hhas, rfl⟩
  · intro hviewer hget
    rw [hviewer] at hhas
    rcases viewer_row he hpolicy hhas with hmethod | hself
    · -- a row for GET takes no other method
      rcases hm with hm | hm
      · rw [hm] at hmethod
        exact absurd hmethod (by simp)
      · rw [hm, Option.some.injEq] at hmethod
        exact absurd hmethod hget
    · rw [hpolicy, hself]
  · intro hrole perm' hperm' heq
    rw [hpolicy, Policy.holders.injEq] at heq
    subst heq
    rw [not_has_adminPermission hrole hperm'] at hhas
    exact absurd hhas (by decide)

/-- A viewer's UpdateMe is about the viewer's own account, and an admin can make it as well. -/
theorem role_reach_bob :
    HandledBy .first true plainPrimitives smallSys .put ["api", "v1", "me"] (bearer ['b']) 5
        .usersUpdateMe [] (some (.user ⟨"u2", "bob", .viewer, none, none⟩))
      ∧ policy .usersUpdateMe = .holders .selfAccess
      ∧ HandledBy .first true plainPrimitives smallSys .put ["api", "v1", "me"] (bearer ['a']) 5
        .usersUpdateMe [] (some (.user ⟨"u1", "alice", .admin, none, none⟩)) := by
  have hleads : Router.first.Leads .put (registerRoutes true) ["api", "v1", "me"] _
      ([] ++ ([] ++ ([] ++ []))) := .scope rfl (.scope rfl (.scope rfl (.handle rfl)))
  have hh : HandledBy .first true plainPrimitives smallSys .put ["api", "v1", "me"]
      (bearer ['b']) 5 .usersUpdateMe [] (some (.user ⟨"u2", "bob", .viewer, none, none⟩)) :=
    handledBy_of_policy ⟨_, hleads, rfl⟩ ⟨_, bob_authenticates, rfl, rfl⟩
  exact ⟨hh, (role_reach hh).2.1 rfl (by decide), (role_reach hh).1 _ _ _ _ rfl (by decide)⟩

end TLSentinel.Access
