/-
  TLSentinel.Lists.Queries
  ────────────────────────
  **THE PAGINATED LISTS, AND WHEN THEIR PAGES ADD UP.**

  Five queries of `internal/db` are read page by page: ListEndpoints,
  ListCertificates, ListAllActiveCerts, ListUsers and ListDiscoveryInbox.  Each
  filters, sorts by the columns of one ORDER BY, and cuts LIMIT and OFFSET out of
  the answer; every page is a query of its own, and rows that tie may come in any
  order each time.

  A query here is the table of its rows, under the key of the table it lists, and the
  order of its rows.  How text compares is the database's: `Text`.

  Main results:
    * `pagination_complete_iff`   — when the pages list every matching row exactly once;
    * `usersByUsername_complete`  — usernames never tie.
-/
import TLSentinel.Foundation.Paging
import TLSentinel.Endpoints.TypeChange
import TLSentinel.Discovery.Report
import Mathlib.Data.String.Basic

namespace TLSentinel.Lists

open Foundation
open TLSentinel.Endpoints (EndpointHost)
open TLSentinel.Endpoints.TypeChange (EndpointTLSProfile ProfileTable)
open TLSentinel.Discovery (DiscoveryInboxItem Inbox)

/-! ## §1. Text. -/

/-- How the database compares text. -/
structure Text where
  /-- The collation of a text column. -/
  collation : OrderBy String
  /-- The collation is deterministic: only equal texts tie. -/
  antisymm : ∀ a b, collation.le a b = true → collation.le b a = true → a = b
  /-- `lower()`, which ILIKE applies to both sides. -/
  lower : String → String
  /-- What citext compares. -/
  fold : String → String

/-- `LIKE`: `%` is any text, `_` any character, and `\` takes the next one literally. -/
def like : List Char → List Char → Bool
  | [], s => s.isEmpty
  | '%' :: p, s => s.tails.any (fun t => like p t)
  | '_' :: p, s => match s with
      | [] => false
      | _ :: s => like p s
  | '\\' :: c :: p, s => match s with
      | [] => false
      | d :: s => decide (c = d) && like p s
  | c :: p, s => match s with
      | [] => false
      | d :: s => decide (c = d) && like p s

/-- `column ILIKE '%' || search || '%'`. -/
def contains (T : Text) (search column : String) : Bool :=
  like (T.lower ("%" ++ search ++ "%")).toList (T.lower column).toList

/-- The same of a column that may be NULL. -/
def containsOpt (T : Text) (search : String) : Option String → Bool
  | none => false
  | some column => contains T search column

/-! ## §2. Rows. -/

/-- The columns of `tlsentinel.endpoints` that the lists filter and sort by. -/
structure Endpoint where
  id : String
  name : String
  type : String
  enabled : Bool
  lastScannedAt : Option Int
  lastScanError : Option String
  createdAt : Int
  deriving DecidableEq, Repr

/-- A row of `selectEndpointWithScanner`. -/
structure EndpointWithScanner extends Endpoint where
  dnsName : Option String
  deriving DecidableEq, Repr

def EndpointWithScanner.key (r : EndpointWithScanner) : String := r.id

/-- The columns of `tlsentinel.certificates`. -/
structure Certificate where
  fingerprint : String
  commonName : String
  notAfter : Int
  createdAt : Int
  deriving DecidableEq, Repr

/-- A row of `tlsentinel.v_active_certificates`. -/
structure VActiveCertificate where
  endpointID : String
  endpointName : String
  endpointType : String
  certUse : String
  fingerprint : String
  commonName : String
  notAfter : Int
  daysRemaining : Int
  deriving DecidableEq, Repr

/-- The endpoint certificate that a row is of. -/
def VActiveCertificate.key (r : VActiveCertificate) : String × String × String :=
  (r.endpointID, r.fingerprint, r.certUse)

/-- The columns of `tlsentinel.users`. -/
structure User where
  id : String
  username : String
  firstName : Option String
  lastName : Option String
  role : String
  provider : String
  createdAt : Int
  deriving DecidableEq, Repr

/-- The tables. -/
structure DB (T : Text) (Addr : Type) where
  endpoints : Table Endpoint.id
  hosts : Table EndpointHost.endpointID
  tlsProfiles : ProfileTable
  /-- `tlsentinel.endpoint_tags`: endpoint and tag. -/
  endpointTags : List (String × String)
  certificates : Table Certificate.fingerprint
  endpointCerts : Scans.EndpointCertTable
  users : Table User.id
  /-- UNIQUE (username), a citext column. -/
  usernames : ∀ u ∈ users, ∀ v ∈ users, T.fold u.username = T.fold v.username → u = v
  inbox : Inbox Addr

variable {T : Text} {Addr : Type}

namespace DB

/-! ## §3. ListEndpoints. -/

/-- `validProtocolFilters`, as the columns that it names. -/
def validProtocolFilters (protocol : String) : Option (EndpointTLSProfile → Bool) :=
  match protocol with
  | "ssl30" => some (fun p => p.ssl30)
  | "tls10" => some (fun p => p.tls10)
  | "tls11" => some (fun p => p.tls11)
  | "tls12" => some (fun p => p.tls12)
  | "tls13" => some (fun p => p.tls13)
  | _ => none

/-- The JOIN with the TLS profiles, and the conditions on their columns. -/
def profileMatches (db : DB T Addr) (protocol cipher : String) (endpointID : String) : Bool :=
  if (validProtocolFilters protocol).isSome ∨ cipher ≠ "" then
    match db.tlsProfiles.find? endpointID with
    | none => false
    | some p =>
        p.scanError.isNone &&
          (match validProtocolFilters protocol with
            | some column => column p
            | none => true) &&
          (decide (cipher = "") || decide (cipher ∈ p.cipherSuites))
  else true

/-- The WHERE clauses of `ListEndpoints`. -/
def endpointMatches (db : DB T Addr) (hasError : Bool) (search status tagID endpointType protocol
    cipher : String) (r : EndpointWithScanner) : Bool :=
  (!hasError || r.lastScanError.isSome) &&
    (decide (search = "") || contains T search r.name || containsOpt T search r.dnsName) &&
    (match status with
      | "enabled" => r.enabled
      | "disabled" => !r.enabled
      | _ => true) &&
    (match endpointType with
      | "host" => decide (r.type = "host")
      | "saml" => decide (r.type = "saml")
      | "manual" => decide (r.type = "manual")
      | _ => true) &&
    (decide (tagID = "") || db.endpointTags.contains (r.id, tagID)) &&
    db.profileMatches protocol cipher r.id

/-- The row of an endpoint; the joins are LEFT JOINs. -/
def withScanner (db : DB T Addr) (h : Endpoint) : EndpointWithScanner :=
  { h with dnsName := (db.hosts.find? h.id).bind (fun eh => eh.dnsName) }

/-- `ListEndpoints`, all pages. -/
def listEndpoints (db : DB T Addr) (hasError : Bool) (search status tagID endpointType protocol
    cipher : String) : Table EndpointWithScanner.key :=
  db.endpoints.select
    (fun h => if db.endpointMatches hasError search status tagID endpointType protocol cipher
      (db.withScanner h) then some (db.withScanner h) else none)
    (by
      intro h r hr
      split at hr
      · injection hr with hr
        subst hr
        rfl
      · exact absurd hr (by simp))

/-- The ORDER BY of `ListEndpoints`. -/
def endpointOrder (T : Text) (sort : String) : OrderBy EndpointWithScanner :=
  match sort with
  | "name" => T.collation.on (fun r => r.name)
  | "dns_name" => T.collation.nullsLast.on (fun r => r.dnsName)
  | "last_scanned" => (OrderBy.desc (fun t : Int => t)).nullsLast.on (fun r => r.lastScannedAt)
  | _ => OrderBy.desc (fun r => r.createdAt)

/-! ## §4. ListCertificates. -/

/-- Microseconds of a day. -/
def day : Int := 86400 * 1000000

/-- The WHERE clauses of `ListCertificates`. -/
def certificateMatches (T : Text) (now : Int) (commonName : String) (expiringBefore : Option Int)
    (status : String) (c : Certificate) : Bool :=
  (decide (commonName = "") || contains T commonName c.commonName) &&
    (match expiringBefore with
      | none => true
      | some t => decide (c.notAfter < t)) &&
    (match status with
      | "expired" => decide (c.notAfter < now)
      | "critical" => decide (now ≤ c.notAfter) && decide (c.notAfter < now + 7 * day)
      | "warning" => decide (now + 7 * day ≤ c.notAfter) && decide (c.notAfter < now + 30 * day)
      | "ok" => decide (now + 30 * day ≤ c.notAfter)
      | _ => true)

/-- `ListCertificates`, all pages. -/
def listCertificates (db : DB T Addr) (now : Int) (commonName : String)
    (expiringBefore : Option Int) (status : String) : Table Certificate.fingerprint :=
  db.certificates.delete (fun c => !certificateMatches T now commonName expiringBefore status c)

/-- The ORDER BY of `ListCertificates`. -/
def certificateOrder (T : Text) (sort : String) : OrderBy Certificate :=
  match sort with
  | "expiry_asc" => OrderBy.asc (fun c => c.notAfter)
  | "expiry_desc" => OrderBy.desc (fun c => c.notAfter)
  | "common_name" => T.collation.on (fun c => c.commonName)
  | _ => OrderBy.desc (fun c => c.createdAt)

/-! ## §5. ListAllActiveCerts. -/

/-- The column `days_remaining`. -/
def daysRemaining (now notAfter : Int) : Int := (notAfter - now).fdiv day

/-- The row of the view that an endpoint certificate gives rise to. -/
def activeCertificate (db : DB T Addr) (now : Int) (ec : Scans.EndpointCert) :
    Option VActiveCertificate :=
  if ec.isCurrent then
    match db.endpoints.find? ec.endpointID, db.certificates.find? ec.fingerprint with
    | some e, some c =>
        if e.enabled then
          some ⟨e.id, e.name, e.type, ec.certUse, c.fingerprint, c.commonName, c.notAfter,
            daysRemaining now c.notAfter⟩
        else none
    | _, _ => none
  else none

theorem activeCertificate_key {db : DB T Addr} {now : Int} {ec : Scans.EndpointCert}
    {r : VActiveCertificate} (h : db.activeCertificate now ec = some r) : r.key = ec.key := by
  unfold activeCertificate at h
  split at h
  · split at h
    · next e c he hc =>
        split at h
        · -- both joins are along a key
          injection h with h
          subst h
          show (e.id, c.fingerprint, ec.certUse) = (ec.endpointID, ec.fingerprint, ec.certUse)
          rw [Table.key_of_find? he, Table.key_of_find? hc]
        · exact absurd h (by simp)
    · exact absurd h (by simp)
  · exact absurd h (by simp)

/-- `tlsentinel.v_active_certificates`. -/
def vActiveCertificates (db : DB T Addr) (now : Int) : Table VActiveCertificate.key :=
  db.endpointCerts.select (db.activeCertificate now) (fun _ _ h => activeCertificate_key h)

/-- The WHERE clauses of `ListAllActiveCerts`. -/
def activeMatches (db : DB T Addr) (search status tagID : String) (r : VActiveCertificate) : Bool :=
  (decide (search = "") || contains T search r.endpointName || contains T search r.commonName) &&
    (match status with
      | "expired" => decide (r.daysRemaining < 0)
      | "critical" => decide (0 ≤ r.daysRemaining) && decide (r.daysRemaining ≤ 7)
      | "warning" => decide (8 ≤ r.daysRemaining) && decide (r.daysRemaining ≤ 30)
      | "ok" => decide (30 < r.daysRemaining)
      | _ => true) &&
    (decide (tagID = "") || db.endpointTags.contains (r.endpointID, tagID))

/-- `ListAllActiveCerts`, all pages. -/
def listAllActiveCerts (db : DB T Addr) (now : Int) (search status tagID : String) :
    Table VActiveCertificate.key :=
  (db.vActiveCertificates now).delete (fun r => !db.activeMatches search status tagID r)

/-- The ORDER BY of `ListAllActiveCerts`. -/
def activeOrder (T : Text) (sort : String) : OrderBy VActiveCertificate :=
  match sort with
  | "days_desc" => OrderBy.desc (fun r => r.daysRemaining)
  | "endpoint_name" => T.collation.on (fun r => r.endpointName)
  | "common_name" => T.collation.on (fun r => r.commonName)
  | _ => OrderBy.asc (fun r => r.daysRemaining)

/-! ## §6. ListUsers and ListDiscoveryInbox. -/

/-- The WHERE clauses of `ListUsers`. -/
def userMatches (T : Text) (search role provider : String) (u : User) : Bool :=
  (decide (search = "") || contains T search u.username || containsOpt T search u.firstName ||
      containsOpt T search u.lastName) &&
    (decide (role = "") || decide (u.role = role)) &&
    (decide (provider = "") || decide (u.provider = provider))

/-- `ListUsers`, all pages. -/
def listUsers (db : DB T Addr) (search role provider : String) : Table User.id :=
  db.users.delete (fun u => !userMatches T search role provider u)

/-- The ORDER BY of `ListUsers`. -/
def userOrder (T : Text) (sort : String) : OrderBy User :=
  match sort with
  | "username" => T.collation.on (fun u => T.fold u.username)
  | "name" => (T.collation.nullsLast.on (fun u => u.lastName)).thenBy
      (T.collation.nullsLast.on (fun u => u.firstName))
  | _ => OrderBy.desc (fun u => u.createdAt)

/-- The WHERE clauses of `ListDiscoveryInbox`. -/
def inboxMatches (networkID status : String) (showDismissed : Bool)
    (r : DiscoveryInboxItem Addr) : Bool :=
  (decide (networkID = "") || decide (r.networkID = some networkID)) &&
    (if status ≠ "" then decide (r.status = status)
      else showDismissed || decide (r.status ≠ "dismissed"))

/-- `ListDiscoveryInbox`, all pages. -/
def listDiscoveryInbox (db : DB T Addr) (networkID status : String) (showDismissed : Bool) :
    Table (@DiscoveryInboxItem.target Addr) :=
  db.inbox.rows.delete (fun r => !inboxMatches networkID status showDismissed r)

/-- The ORDER BY of `inboxBaseQuery`. -/
def inboxOrder : OrderBy (DiscoveryInboxItem Addr) := OrderBy.desc (fun r => r.lastSeenAt)

end DB

/-! ## §7. Requests. -/

/-- A request for a list: its filters and its sort. -/
inductive Request where
  | endpoints (hasError : Bool) (search status sort tagID endpointType protocol cipher : String)
  | certificates (commonName : String) (expiringBefore : Option Int) (status sort : String)
  | activeCerts (search status sort tagID : String)
  | users (search role provider sort : String)
  | discoveryInbox (networkID status : String) (showDismissed : Bool)

namespace Request

/-- The rows of a list. -/
def Row (Addr : Type) : Request → Type
  | .endpoints .. => EndpointWithScanner
  | .certificates .. => Certificate
  | .activeCerts .. => VActiveCertificate
  | .users .. => User
  | .discoveryInbox .. => DiscoveryInboxItem Addr

/-- The rows that match the filters, in storage order. -/
def rows (db : DB T Addr) (now : Int) : (req : Request) → List (req.Row Addr)
  | .endpoints hasError search status _ tagID endpointType protocol cipher =>
      (db.listEndpoints hasError search status tagID endpointType protocol cipher).rows
  | .certificates commonName expiringBefore status _ =>
      (db.listCertificates now commonName expiringBefore status).rows
  | .activeCerts search status _ tagID => (db.listAllActiveCerts now search status tagID).rows
  | .users search role provider _ => (db.listUsers search role provider).rows
  | .discoveryInbox networkID status showDismissed =>
      (db.listDiscoveryInbox networkID status showDismissed).rows

/-- The ORDER BY of the list. -/
def order (T : Text) (Addr : Type) : (req : Request) → OrderBy (req.Row Addr)
  | .endpoints _ _ _ sort _ _ _ _ => DB.endpointOrder T sort
  | .certificates _ _ _ sort => DB.certificateOrder T sort
  | .activeCerts _ _ sort _ => DB.activeOrder T sort
  | .users _ _ _ sort => DB.userOrder T sort
  | .discoveryInbox _ _ _ => DB.inboxOrder

/-- A list has no row twice. -/
theorem rows_nodup (db : DB T Addr) (now : Int) (req : Request) : (req.rows db now).Nodup := by
  cases req with
  | endpoints => exact Table.rows_nodup _
  | certificates => exact Table.rows_nodup _
  | activeCerts => exact Table.rows_nodup _
  | users => exact Table.rows_nodup _
  | discoveryInbox => exact Table.rows_nodup _

/-- The pages of the list, each a query of its own, hold every matching row exactly once. -/
def PagesComplete (db : DB T Addr) (now : Int) (pageSize : Nat) (req : Request) : Prop :=
  Paging.Complete (req.order T Addr) (req.rows db now) pageSize

/-- The rows that tie with a row, and it, are on one page. -/
def TiesOnOnePage (db : DB T Addr) (now : Int) (pageSize : Nat) (req : Request) : Prop :=
  ∀ r ∈ req.rows db now, ¬ Paging.Straddles (req.order T Addr) (req.rows db now) pageSize r

end Request

/-- **When pagination is complete.** -/
theorem pagination_complete_iff (db : DB T Addr) (now : Int) {pageSize : Nat} (hn : 0 < pageSize)
    (req : Request) :
    req.PagesComplete db now pageSize ↔ req.TiesOnOnePage db now pageSize :=
  Paging.complete_iff (req.rows_nodup db now) hn

/-- **Usernames never tie**, so the list sorted by username is complete. -/
theorem usersByUsername_complete (db : DB T Addr) (now : Int) {pageSize : Nat}
    (hn : 0 < pageSize) (search role provider : String) :
    (Request.users search role provider "username").PagesComplete db now pageSize := by
  refine Paging.complete_of_not_straddles hn fun u hu => ?_
  refine Paging.not_straddles_of_antisymm (Request.rows_nodup db now _) ?_ hu
  -- users that tie have one username up to case
  intro a ha b hb hab hba
  have hmem : ∀ u : User, u ∈ (db.listUsers search role provider).rows → u ∈ db.users :=
    fun u hu => (Table.mem_delete.mp hu).1
  exact db.usernames a (hmem a ha) b (hmem b hb) (T.antisymm _ _ hab hba)

/-! ## §8. A sweep that finds two hosts. -/

/-- Text that compares by code points, and has no upper case. -/
def plainText : Text where
  collation := OrderBy.asc (fun s : String => s)
  antisymm _ _ hab hba := le_antisymm (of_decide_eq_true hab) (of_decide_eq_true hba)
  lower := fun s => s
  fold := fun s => s

/-- Only an inbox. -/
def inboxOnly (inbox : Inbox String) : DB plainText String where
  endpoints := Table.empty
  hosts := Table.empty
  tlsProfiles := Table.empty
  endpointTags := []
  certificates := Table.empty
  endpointCerts := Table.empty
  users := Table.empty
  usernames := Table.forall_mem_empty
  inbox := inbox

/-- No row at all. -/
def noRows : DB plainText String := inboxOnly Discovery.emptyInbox.inbox

/-- The inbox after reports of two hosts. -/
def twoHosts (now now' : Int) : Inbox String :=
  let inbox := (Discovery.reportDiscovery some Discovery.emptyInbox now "probe" "lan"
    [Discovery.found "10.0.0.1"]).1
  (Discovery.reportDiscovery some inbox now' "probe" "lan" [Discovery.found "10.0.0.2"]).1.inbox

/-- Two items seen at the same time, one a page: the second page may be the first again. -/
theorem page_repeats_item :
    ¬ ∀ (T : Text) (Addr : Type) (db : DB T Addr) (now : Int) (pageSize : Nat), 0 < pageSize →
      ∀ req : Request, req.PagesComplete db now pageSize := by
  intro h
  have hcomplete := h plainText String (inboxOnly (twoHosts 10 10)) 20 1 Nat.one_pos
    (.discoveryInbox "" "" false)
  -- the first item has one tie, on the other page
  have hstraddles : Paging.Straddles DB.inboxOrder
      ((inboxOnly (twoHosts 10 10)).listDiscoveryInbox "" "" false).rows 1
      (Discovery.newInboxItem 10 "probe" "lan" 0 ("10.0.0.1", 443)
        (Discovery.found "10.0.0.1")) := ⟨1, by decide, by decide⟩
  exact Paging.not_complete_of_straddles (Table.rows_nodup _) Nat.one_pos hstraddles hcomplete

/-- Items seen at different times are listed completely, even one a page. -/
theorem pagination_complete_twoHosts :
    0 < 1 ∧
      (Request.discoveryInbox "" "" false).PagesComplete (inboxOnly (twoHosts 10 11)) 20 1 := by
  refine ⟨Nat.one_pos, (pagination_complete_iff _ _ Nat.one_pos _).mpr fun r hr => ?_⟩
  refine Paging.not_straddles_of_antisymm (Request.rows_nodup _ _ _) ?_ hr
  show ∀ a ∈ ((inboxOnly (twoHosts 10 11)).listDiscoveryInbox "" "" false).rows,
    ∀ b ∈ ((inboxOnly (twoHosts 10 11)).listDiscoveryInbox "" "" false).rows,
      DB.inboxOrder.le a b = true → DB.inboxOrder.le b a = true → a = b
  decide

end TLSentinel.Lists
