/-
  TLSentinel.TLSProfile.Normalize
  ───────────────────────────────
  **CIPHER NAMES IN THEIR IANA FORM.**

  A scanner may name its suites as OpenSSL does; before they are stored, the names are
  looked up in a table.  The detectors of the score were written for the stored form, so
  that a wrong row would hide a weakness or invent one.  A row is sound when it does
  neither (`RowSound`); all rows are (`opensslToIANA_sound`), and every fact about lists
  of names comes from that.

  Main results:
    * `normalizeCipherName_cases` — a name stays as it is, or is a row of the table;
    * `normalizeCipherName_idem`  — a stored name is not changed again;
    * `mentions_normalize_rc4`, `mentions_normalize_null`, `mentions_normalize_of_row` —
                                    which words a name mentions before and after.
-/
import TLSentinel.Endpoints.TypeChange
import TLSentinel.TLSProfile.Score

namespace TLSentinel.TLSProfile

open Foundation
open TLSentinel.Endpoints.TypeChange (DB TLSProfileIngestRequest)

/-! ## §1. The table. -/

/-- The rows of `opensslToIANA`, section by section. -/
def opensslSections : List (List (String × String)) :=
  [
    -- NULL
    [("NULL-MD5", "TLS_RSA_WITH_NULL_MD5"),
      ("NULL-SHA", "TLS_RSA_WITH_NULL_SHA"),
      ("NULL-SHA256", "TLS_RSA_WITH_NULL_SHA256")],
    -- RC4
    [("RC4-MD5", "TLS_RSA_WITH_RC4_128_MD5"),
      ("RC4-SHA", "TLS_RSA_WITH_RC4_128_SHA"),
      ("ECDHE-RSA-RC4-SHA", "TLS_ECDHE_RSA_WITH_RC4_128_SHA"),
      ("ECDHE-ECDSA-RC4-SHA", "TLS_ECDHE_ECDSA_WITH_RC4_128_SHA"),
      ("ECDH-RSA-RC4-SHA", "TLS_ECDH_RSA_WITH_RC4_128_SHA"),
      ("ECDH-ECDSA-RC4-SHA", "TLS_ECDH_ECDSA_WITH_RC4_128_SHA"),
      ("ADH-RC4-MD5", "TLS_DH_anon_WITH_RC4_128_MD5"),
      ("AECDH-RC4-SHA", "TLS_ECDH_anon_WITH_RC4_128_SHA"),
      ("PSK-RC4-SHA", "TLS_PSK_WITH_RC4_128_SHA"),
      ("DHE-PSK-RC4-SHA", "TLS_DHE_PSK_WITH_RC4_128_SHA"),
      ("RSA-PSK-RC4-SHA", "TLS_RSA_PSK_WITH_RC4_128_SHA"),
      ("ECDHE-PSK-RC4-SHA", "TLS_ECDHE_PSK_WITH_RC4_128_SHA"),
      ("DHE-DSS-RC4-SHA", "TLS_DHE_DSS_WITH_RC4_128_SHA")],
    -- EXPORT RC4
    [("EXP-RC4-MD5", "TLS_RSA_EXPORT_WITH_RC4_40_MD5")],
    -- EXPORT RC2
    [("EXP-RC2-CBC-MD5", "TLS_RSA_EXPORT_WITH_RC2_CBC_40_MD5")],
    -- IDEA
    [("IDEA-CBC-SHA", "TLS_RSA_WITH_IDEA_CBC_SHA")],
    -- DES
    [("DES-CBC-SHA", "TLS_RSA_WITH_DES_CBC_SHA"),
      ("EDH-RSA-DES-CBC-SHA", "TLS_DHE_RSA_WITH_DES_CBC_SHA"),
      ("EDH-DSS-DES-CBC-SHA", "TLS_DHE_DSS_WITH_DES_CBC_SHA"),
      ("DH-RSA-DES-CBC-SHA", "TLS_DH_RSA_WITH_DES_CBC_SHA"),
      ("DH-DSS-DES-CBC-SHA", "TLS_DH_DSS_WITH_DES_CBC_SHA"),
      ("ADH-DES-CBC-SHA", "TLS_DH_anon_WITH_DES_CBC_SHA"),
      ("EXP-DES-CBC-SHA", "TLS_RSA_EXPORT_WITH_DES40_CBC_SHA"),
      ("EXP-DH-RSA-DES-CBC-SHA", "TLS_DH_RSA_EXPORT_WITH_DES40_CBC_SHA"),
      ("EXP-DH-DSS-DES-CBC-SHA", "TLS_DH_DSS_EXPORT_WITH_DES40_CBC_SHA"),
      ("EXP-EDH-RSA-DES-CBC-SHA", "TLS_DHE_RSA_EXPORT_WITH_DES40_CBC_SHA"),
      ("EXP-EDH-DSS-DES-CBC-SHA", "TLS_DHE_DSS_EXPORT_WITH_DES40_CBC_SHA"),
      ("EXP-ADH-DES-CBC-SHA", "TLS_DH_anon_EXPORT_WITH_DES40_CBC_SHA")],
    -- 3DES
    [("DES-CBC3-SHA", "TLS_RSA_WITH_3DES_EDE_CBC_SHA"),
      ("EDH-RSA-DES-CBC3-SHA", "TLS_DHE_RSA_WITH_3DES_EDE_CBC_SHA"),
      ("EDH-DSS-DES-CBC3-SHA", "TLS_DHE_DSS_WITH_3DES_EDE_CBC_SHA"),
      ("DH-RSA-DES-CBC3-SHA", "TLS_DH_RSA_WITH_3DES_EDE_CBC_SHA"),
      ("DH-DSS-DES-CBC3-SHA", "TLS_DH_DSS_WITH_3DES_EDE_CBC_SHA"),
      ("ADH-DES-CBC3-SHA", "TLS_DH_anon_WITH_3DES_EDE_CBC_SHA"),
      ("ECDHE-RSA-DES-CBC3-SHA", "TLS_ECDHE_RSA_WITH_3DES_EDE_CBC_SHA"),
      ("ECDHE-ECDSA-DES-CBC3-SHA", "TLS_ECDHE_ECDSA_WITH_3DES_EDE_CBC_SHA"),
      ("ECDH-RSA-DES-CBC3-SHA", "TLS_ECDH_RSA_WITH_3DES_EDE_CBC_SHA"),
      ("ECDH-ECDSA-DES-CBC3-SHA", "TLS_ECDH_ECDSA_WITH_3DES_EDE_CBC_SHA"),
      ("AECDH-DES-CBC3-SHA", "TLS_ECDH_anon_WITH_3DES_EDE_CBC_SHA"),
      ("PSK-3DES-EDE-CBC-SHA", "TLS_PSK_WITH_3DES_EDE_CBC_SHA"),
      ("DHE-PSK-3DES-EDE-CBC-SHA", "TLS_DHE_PSK_WITH_3DES_EDE_CBC_SHA"),
      ("RSA-PSK-3DES-EDE-CBC-SHA", "TLS_RSA_PSK_WITH_3DES_EDE_CBC_SHA"),
      ("ECDHE-PSK-3DES-EDE-CBC-SHA", "TLS_ECDHE_PSK_WITH_3DES_EDE_CBC_SHA"),
      ("SRP-3DES-EDE-CBC-SHA", "TLS_SRP_SHA_WITH_3DES_EDE_CBC_SHA"),
      ("SRP-RSA-3DES-EDE-CBC-SHA", "TLS_SRP_SHA_RSA_WITH_3DES_EDE_CBC_SHA"),
      ("SRP-DSS-3DES-EDE-CBC-SHA", "TLS_SRP_SHA_DSS_WITH_3DES_EDE_CBC_SHA")],
    -- AES-128-CBC
    [("AES128-SHA", "TLS_RSA_WITH_AES_128_CBC_SHA"),
      ("DHE-RSA-AES128-SHA", "TLS_DHE_RSA_WITH_AES_128_CBC_SHA"),
      ("DHE-DSS-AES128-SHA", "TLS_DHE_DSS_WITH_AES_128_CBC_SHA"),
      ("DH-RSA-AES128-SHA", "TLS_DH_RSA_WITH_AES_128_CBC_SHA"),
      ("DH-DSS-AES128-SHA", "TLS_DH_DSS_WITH_AES_128_CBC_SHA"),
      ("ADH-AES128-SHA", "TLS_DH_anon_WITH_AES_128_CBC_SHA"),
      ("ECDHE-RSA-AES128-SHA", "TLS_ECDHE_RSA_WITH_AES_128_CBC_SHA"),
      ("ECDHE-ECDSA-AES128-SHA", "TLS_ECDHE_ECDSA_WITH_AES_128_CBC_SHA"),
      ("ECDH-RSA-AES128-SHA", "TLS_ECDH_RSA_WITH_AES_128_CBC_SHA"),
      ("ECDH-ECDSA-AES128-SHA", "TLS_ECDH_ECDSA_WITH_AES_128_CBC_SHA"),
      ("AECDH-AES128-SHA", "TLS_ECDH_anon_WITH_AES_128_CBC_SHA"),
      ("PSK-AES128-CBC-SHA", "TLS_PSK_WITH_AES_128_CBC_SHA"),
      ("DHE-PSK-AES128-CBC-SHA", "TLS_DHE_PSK_WITH_AES_128_CBC_SHA"),
      ("RSA-PSK-AES128-CBC-SHA", "TLS_RSA_PSK_WITH_AES_128_CBC_SHA"),
      ("ECDHE-PSK-AES128-CBC-SHA", "TLS_ECDHE_PSK_WITH_AES_128_CBC_SHA"),
      ("SRP-AES-128-CBC-SHA", "TLS_SRP_SHA_WITH_AES_128_CBC_SHA"),
      ("SRP-RSA-AES-128-CBC-SHA", "TLS_SRP_SHA_RSA_WITH_AES_128_CBC_SHA"),
      ("SRP-DSS-AES-128-CBC-SHA", "TLS_SRP_SHA_DSS_WITH_AES_128_CBC_SHA")],
    -- AES-256-CBC
    [("AES256-SHA", "TLS_RSA_WITH_AES_256_CBC_SHA"),
      ("DHE-RSA-AES256-SHA", "TLS_DHE_RSA_WITH_AES_256_CBC_SHA"),
      ("DHE-DSS-AES256-SHA", "TLS_DHE_DSS_WITH_AES_256_CBC_SHA"),
      ("DH-RSA-AES256-SHA", "TLS_DH_RSA_WITH_AES_256_CBC_SHA"),
      ("DH-DSS-AES256-SHA", "TLS_DH_DSS_WITH_AES_256_CBC_SHA"),
      ("ADH-AES256-SHA", "TLS_DH_anon_WITH_AES_256_CBC_SHA"),
      ("ECDHE-RSA-AES256-SHA", "TLS_ECDHE_RSA_WITH_AES_256_CBC_SHA"),
      ("ECDHE-ECDSA-AES256-SHA", "TLS_ECDHE_ECDSA_WITH_AES_256_CBC_SHA"),
      ("ECDH-RSA-AES256-SHA", "TLS_ECDH_RSA_WITH_AES_256_CBC_SHA"),
      ("ECDH-ECDSA-AES256-SHA", "TLS_ECDH_ECDSA_WITH_AES_256_CBC_SHA"),
      ("AECDH-AES256-SHA", "TLS_ECDH_anon_WITH_AES_256_CBC_SHA"),
      ("PSK-AES256-CBC-SHA", "TLS_PSK_WITH_AES_256_CBC_SHA"),
      ("DHE-PSK-AES256-CBC-SHA", "TLS_DHE_PSK_WITH_AES_256_CBC_SHA"),
      ("RSA-PSK-AES256-CBC-SHA", "TLS_RSA_PSK_WITH_AES_256_CBC_SHA"),
      ("ECDHE-PSK-AES256-CBC-SHA", "TLS_ECDHE_PSK_WITH_AES_256_CBC_SHA"),
      ("SRP-AES-256-CBC-SHA", "TLS_SRP_SHA_WITH_AES_256_CBC_SHA"),
      ("SRP-RSA-AES-256-CBC-SHA", "TLS_SRP_SHA_RSA_WITH_AES_256_CBC_SHA"),
      ("SRP-DSS-AES-256-CBC-SHA", "TLS_SRP_SHA_DSS_WITH_AES_256_CBC_SHA")],
    -- AES-CBC SHA256
    [("AES128-SHA256", "TLS_RSA_WITH_AES_128_CBC_SHA256"),
      ("AES256-SHA256", "TLS_RSA_WITH_AES_256_CBC_SHA256"),
      ("DHE-RSA-AES128-SHA256", "TLS_DHE_RSA_WITH_AES_128_CBC_SHA256"),
      ("DHE-RSA-AES256-SHA256", "TLS_DHE_RSA_WITH_AES_256_CBC_SHA256"),
      ("DHE-DSS-AES128-SHA256", "TLS_DHE_DSS_WITH_AES_128_CBC_SHA256"),
      ("DHE-DSS-AES256-SHA256", "TLS_DHE_DSS_WITH_AES_256_CBC_SHA256"),
      ("DH-RSA-AES128-SHA256", "TLS_DH_RSA_WITH_AES_128_CBC_SHA256"),
      ("DH-RSA-AES256-SHA256", "TLS_DH_RSA_WITH_AES_256_CBC_SHA256"),
      ("DH-DSS-AES128-SHA256", "TLS_DH_DSS_WITH_AES_128_CBC_SHA256"),
      ("DH-DSS-AES256-SHA256", "TLS_DH_DSS_WITH_AES_256_CBC_SHA256"),
      ("ADH-AES128-SHA256", "TLS_DH_anon_WITH_AES_128_CBC_SHA256"),
      ("ADH-AES256-SHA256", "TLS_DH_anon_WITH_AES_256_CBC_SHA256"),
      ("ECDHE-RSA-AES128-SHA256", "TLS_ECDHE_RSA_WITH_AES_128_CBC_SHA256"),
      ("ECDHE-RSA-AES256-SHA384", "TLS_ECDHE_RSA_WITH_AES_256_CBC_SHA384"),
      ("ECDHE-ECDSA-AES128-SHA256", "TLS_ECDHE_ECDSA_WITH_AES_128_CBC_SHA256"),
      ("ECDHE-ECDSA-AES256-SHA384", "TLS_ECDHE_ECDSA_WITH_AES_256_CBC_SHA384"),
      ("ECDH-RSA-AES128-SHA256", "TLS_ECDH_RSA_WITH_AES_128_CBC_SHA256"),
      ("ECDH-RSA-AES256-SHA384", "TLS_ECDH_RSA_WITH_AES_256_CBC_SHA384"),
      ("ECDH-ECDSA-AES128-SHA256", "TLS_ECDH_ECDSA_WITH_AES_128_CBC_SHA256"),
      ("ECDH-ECDSA-AES256-SHA384", "TLS_ECDH_ECDSA_WITH_AES_256_CBC_SHA384"),
      ("ECDHE-PSK-AES128-CBC-SHA256", "TLS_ECDHE_PSK_WITH_AES_128_CBC_SHA256"),
      ("ECDHE-PSK-AES256-CBC-SHA384", "TLS_ECDHE_PSK_WITH_AES_256_CBC_SHA384")],
    -- AES-GCM
    [("AES128-GCM-SHA256", "TLS_RSA_WITH_AES_128_GCM_SHA256"),
      ("AES256-GCM-SHA384", "TLS_RSA_WITH_AES_256_GCM_SHA384"),
      ("DHE-RSA-AES128-GCM-SHA256", "TLS_DHE_RSA_WITH_AES_128_GCM_SHA256"),
      ("DHE-RSA-AES256-GCM-SHA384", "TLS_DHE_RSA_WITH_AES_256_GCM_SHA384"),
      ("DHE-DSS-AES128-GCM-SHA256", "TLS_DHE_DSS_WITH_AES_128_GCM_SHA256"),
      ("DHE-DSS-AES256-GCM-SHA384", "TLS_DHE_DSS_WITH_AES_256_GCM_SHA384"),
      ("DH-RSA-AES128-GCM-SHA256", "TLS_DH_RSA_WITH_AES_128_GCM_SHA256"),
      ("DH-RSA-AES256-GCM-SHA384", "TLS_DH_RSA_WITH_AES_256_GCM_SHA384"),
      ("DH-DSS-AES128-GCM-SHA256", "TLS_DH_DSS_WITH_AES_128_GCM_SHA256"),
      ("DH-DSS-AES256-GCM-SHA384", "TLS_DH_DSS_WITH_AES_256_GCM_SHA384"),
      ("ADH-AES128-GCM-SHA256", "TLS_DH_anon_WITH_AES_128_GCM_SHA256"),
      ("ADH-AES256-GCM-SHA384", "TLS_DH_anon_WITH_AES_256_GCM_SHA384"),
      ("ECDHE-RSA-AES128-GCM-SHA256", "TLS_ECDHE_RSA_WITH_AES_128_GCM_SHA256"),
      ("ECDHE-RSA-AES256-GCM-SHA384", "TLS_ECDHE_RSA_WITH_AES_256_GCM_SHA384"),
      ("ECDHE-ECDSA-AES128-GCM-SHA256", "TLS_ECDHE_ECDSA_WITH_AES_128_GCM_SHA256"),
      ("ECDHE-ECDSA-AES256-GCM-SHA384", "TLS_ECDHE_ECDSA_WITH_AES_256_GCM_SHA384"),
      ("ECDH-RSA-AES128-GCM-SHA256", "TLS_ECDH_RSA_WITH_AES_128_GCM_SHA256"),
      ("ECDH-RSA-AES256-GCM-SHA384", "TLS_ECDH_RSA_WITH_AES_256_GCM_SHA384"),
      ("ECDH-ECDSA-AES128-GCM-SHA256", "TLS_ECDH_ECDSA_WITH_AES_128_GCM_SHA256"),
      ("ECDH-ECDSA-AES256-GCM-SHA384", "TLS_ECDH_ECDSA_WITH_AES_256_GCM_SHA384")],
    -- AES-CCM
    [("AES128-CCM", "TLS_RSA_WITH_AES_128_CCM"),
      ("AES256-CCM", "TLS_RSA_WITH_AES_256_CCM"),
      ("DHE-RSA-AES128-CCM", "TLS_DHE_RSA_WITH_AES_128_CCM"),
      ("DHE-RSA-AES256-CCM", "TLS_DHE_RSA_WITH_AES_256_CCM"),
      ("AES128-CCM8", "TLS_RSA_WITH_AES_128_CCM_8"),
      ("AES256-CCM8", "TLS_RSA_WITH_AES_256_CCM_8"),
      ("DHE-RSA-AES128-CCM8", "TLS_DHE_RSA_WITH_AES_128_CCM_8"),
      ("DHE-RSA-AES256-CCM8", "TLS_DHE_RSA_WITH_AES_256_CCM_8"),
      ("PSK-AES128-CCM", "TLS_PSK_WITH_AES_128_CCM"),
      ("PSK-AES256-CCM", "TLS_PSK_WITH_AES_256_CCM"),
      ("DHE-PSK-AES128-CCM", "TLS_DHE_PSK_WITH_AES_128_CCM"),
      ("DHE-PSK-AES256-CCM", "TLS_DHE_PSK_WITH_AES_256_CCM"),
      ("PSK-AES128-CCM8", "TLS_PSK_WITH_AES_128_CCM_8"),
      ("PSK-AES256-CCM8", "TLS_PSK_WITH_AES_256_CCM_8"),
      ("DHE-PSK-AES128-CCM8", "TLS_PSK_DHE_WITH_AES_128_CCM_8"),
      ("DHE-PSK-AES256-CCM8", "TLS_PSK_DHE_WITH_AES_256_CCM_8"),
      ("ECDHE-ECDSA-AES128-CCM", "TLS_ECDHE_ECDSA_WITH_AES_128_CCM"),
      ("ECDHE-ECDSA-AES256-CCM", "TLS_ECDHE_ECDSA_WITH_AES_256_CCM"),
      ("ECDHE-ECDSA-AES128-CCM8", "TLS_ECDHE_ECDSA_WITH_AES_128_CCM_8"),
      ("ECDHE-ECDSA-AES256-CCM8", "TLS_ECDHE_ECDSA_WITH_AES_256_CCM_8")],
    -- ChaCha20-Poly1305
    [("ECDHE-RSA-CHACHA20-POLY1305", "TLS_ECDHE_RSA_WITH_CHACHA20_POLY1305_SHA256"),
      ("ECDHE-ECDSA-CHACHA20-POLY1305", "TLS_ECDHE_ECDSA_WITH_CHACHA20_POLY1305_SHA256"),
      ("DHE-RSA-CHACHA20-POLY1305", "TLS_DHE_RSA_WITH_CHACHA20_POLY1305_SHA256"),
      ("PSK-CHACHA20-POLY1305", "TLS_PSK_WITH_CHACHA20_POLY1305_SHA256"),
      ("ECDHE-PSK-CHACHA20-POLY1305", "TLS_ECDHE_PSK_WITH_CHACHA20_POLY1305_SHA256"),
      ("DHE-PSK-CHACHA20-POLY1305", "TLS_DHE_PSK_WITH_CHACHA20_POLY1305_SHA256"),
      ("RSA-PSK-CHACHA20-POLY1305", "TLS_RSA_PSK_WITH_CHACHA20_POLY1305_SHA256"),
      -- Draft/old ChaCha20 names used by some older OpenSSL builds.
      ("ECDHE-RSA-CHACHA20-POLY1305-OLD", "TLS_ECDHE_RSA_WITH_CHACHA20_POLY1305_SHA256_OLD"),
      ("ECDHE-ECDSA-CHACHA20-POLY1305-OLD", "TLS_ECDHE_ECDSA_WITH_CHACHA20_POLY1305_SHA256_OLD"),
      ("DHE-RSA-CHACHA20-POLY1305-OLD", "TLS_DHE_RSA_WITH_CHACHA20_POLY1305_SHA256_OLD")],
    -- Camellia
    [("CAMELLIA128-SHA", "TLS_RSA_WITH_CAMELLIA_128_CBC_SHA"),
      ("DHE-RSA-CAMELLIA128-SHA", "TLS_DHE_RSA_WITH_CAMELLIA_128_CBC_SHA"),
      ("DHE-DSS-CAMELLIA128-SHA", "TLS_DHE_DSS_WITH_CAMELLIA_128_CBC_SHA"),
      ("DH-RSA-CAMELLIA128-SHA", "TLS_DH_RSA_WITH_CAMELLIA_128_CBC_SHA"),
      ("DH-DSS-CAMELLIA128-SHA", "TLS_DH_DSS_WITH_CAMELLIA_128_CBC_SHA"),
      ("ADH-CAMELLIA128-SHA", "TLS_DH_anon_WITH_CAMELLIA_128_CBC_SHA"),
      ("CAMELLIA256-SHA", "TLS_RSA_WITH_CAMELLIA_256_CBC_SHA"),
      ("DHE-RSA-CAMELLIA256-SHA", "TLS_DHE_RSA_WITH_CAMELLIA_256_CBC_SHA"),
      ("DHE-DSS-CAMELLIA256-SHA", "TLS_DHE_DSS_WITH_CAMELLIA_256_CBC_SHA"),
      ("DH-RSA-CAMELLIA256-SHA", "TLS_DH_RSA_WITH_CAMELLIA_256_CBC_SHA"),
      ("DH-DSS-CAMELLIA256-SHA", "TLS_DH_DSS_WITH_CAMELLIA_256_CBC_SHA"),
      ("ADH-CAMELLIA256-SHA", "TLS_DH_anon_WITH_CAMELLIA_256_CBC_SHA"),
      ("CAMELLIA128-SHA256", "TLS_RSA_WITH_CAMELLIA_128_CBC_SHA256"),
      ("DHE-RSA-CAMELLIA128-SHA256", "TLS_DHE_RSA_WITH_CAMELLIA_128_CBC_SHA256"),
      ("DHE-DSS-CAMELLIA128-SHA256", "TLS_DHE_DSS_WITH_CAMELLIA_128_CBC_SHA256"),
      ("DH-RSA-CAMELLIA128-SHA256", "TLS_DH_RSA_WITH_CAMELLIA_128_CBC_SHA256"),
      ("DH-DSS-CAMELLIA128-SHA256", "TLS_DH_DSS_WITH_CAMELLIA_128_CBC_SHA256"),
      ("ADH-CAMELLIA128-SHA256", "TLS_DH_anon_WITH_CAMELLIA_128_CBC_SHA256"),
      ("ECDHE-ECDSA-CAMELLIA128-SHA256", "TLS_ECDHE_ECDSA_WITH_CAMELLIA_128_CBC_SHA256"),
      ("ECDHE-ECDSA-CAMELLIA256-SHA384", "TLS_ECDHE_ECDSA_WITH_CAMELLIA_256_CBC_SHA384"),
      ("ECDH-ECDSA-CAMELLIA128-SHA256", "TLS_ECDH_ECDSA_WITH_CAMELLIA_128_CBC_SHA256"),
      ("ECDH-ECDSA-CAMELLIA256-SHA384", "TLS_ECDH_ECDSA_WITH_CAMELLIA_256_CBC_SHA384"),
      ("ECDHE-RSA-CAMELLIA128-SHA256", "TLS_ECDHE_RSA_WITH_CAMELLIA_128_CBC_SHA256"),
      ("ECDHE-RSA-CAMELLIA256-SHA384", "TLS_ECDHE_RSA_WITH_CAMELLIA_256_CBC_SHA384"),
      ("ECDH-RSA-CAMELLIA128-SHA256", "TLS_ECDH_RSA_WITH_CAMELLIA_128_CBC_SHA256"),
      ("ECDH-RSA-CAMELLIA256-SHA384", "TLS_ECDH_RSA_WITH_CAMELLIA_256_CBC_SHA384")],
    -- SEED
    [("SEED-SHA", "TLS_RSA_WITH_SEED_CBC_SHA"),
      ("DHE-RSA-SEED-SHA", "TLS_DHE_RSA_WITH_SEED_CBC_SHA"),
      ("DHE-DSS-SEED-SHA", "TLS_DHE_DSS_WITH_SEED_CBC_SHA"),
      ("DH-RSA-SEED-SHA", "TLS_DH_RSA_WITH_SEED_CBC_SHA"),
      ("DH-DSS-SEED-SHA", "TLS_DH_DSS_WITH_SEED_CBC_SHA"),
      ("ADH-SEED-SHA", "TLS_DH_anon_WITH_SEED_CBC_SHA")],
    -- NULL ECDH/ECDHE
    [("ECDHE-RSA-NULL-SHA", "TLS_ECDHE_RSA_WITH_NULL_SHA"),
      ("ECDHE-ECDSA-NULL-SHA", "TLS_ECDHE_ECDSA_WITH_NULL_SHA"),
      ("ECDH-RSA-NULL-SHA", "TLS_ECDH_RSA_WITH_NULL_SHA"),
      ("ECDH-ECDSA-NULL-SHA", "TLS_ECDH_ECDSA_WITH_NULL_SHA"),
      ("AECDH-NULL-SHA", "TLS_ECDH_anon_WITH_NULL_SHA")],
    -- NULL PSK
    [("PSK-NULL-SHA", "TLS_PSK_WITH_NULL_SHA"),
      ("DHE-PSK-NULL-SHA", "TLS_DHE_PSK_WITH_NULL_SHA"),
      ("RSA-PSK-NULL-SHA", "TLS_RSA_PSK_WITH_NULL_SHA"),
      ("ECDHE-PSK-NULL-SHA", "TLS_ECDHE_PSK_WITH_NULL_SHA"),
      ("ECDHE-PSK-NULL-SHA256", "TLS_ECDHE_PSK_WITH_NULL_SHA256"),
      ("ECDHE-PSK-NULL-SHA384", "TLS_ECDHE_PSK_WITH_NULL_SHA384"),
      ("PSK-NULL-SHA256", "TLS_PSK_WITH_NULL_SHA256"),
      ("PSK-NULL-SHA384", "TLS_PSK_WITH_NULL_SHA384"),
      ("DHE-PSK-NULL-SHA256", "TLS_DHE_PSK_WITH_NULL_SHA256"),
      ("DHE-PSK-NULL-SHA384", "TLS_DHE_PSK_WITH_NULL_SHA384"),
      ("RSA-PSK-NULL-SHA256", "TLS_RSA_PSK_WITH_NULL_SHA256"),
      ("RSA-PSK-NULL-SHA384", "TLS_RSA_PSK_WITH_NULL_SHA384")],
    -- KRB5
    [("KRB5-DES-CBC-SHA", "TLS_KRB5_WITH_DES_CBC_SHA"),
      ("KRB5-DES-CBC3-SHA", "TLS_KRB5_WITH_3DES_EDE_CBC_SHA"),
      ("KRB5-RC4-SHA", "TLS_KRB5_WITH_RC4_128_SHA"),
      ("KRB5-IDEA-CBC-SHA", "TLS_KRB5_WITH_IDEA_CBC_SHA"),
      ("KRB5-DES-CBC-MD5", "TLS_KRB5_WITH_DES_CBC_MD5"),
      ("KRB5-DES-CBC3-MD5", "TLS_KRB5_WITH_3DES_EDE_CBC_MD5"),
      ("KRB5-RC4-MD5", "TLS_KRB5_WITH_RC4_128_MD5"),
      ("KRB5-IDEA-CBC-MD5", "TLS_KRB5_WITH_IDEA_CBC_MD5"),
      ("EXP-KRB5-DES-CBC-SHA", "TLS_KRB5_EXPORT_WITH_DES_CBC_40_SHA"),
      ("EXP-KRB5-RC2-CBC-SHA", "TLS_KRB5_EXPORT_WITH_RC2_CBC_40_SHA"),
      ("EXP-KRB5-RC4-SHA", "TLS_KRB5_EXPORT_WITH_RC4_40_SHA"),
      ("EXP-KRB5-DES-CBC-MD5", "TLS_KRB5_EXPORT_WITH_DES_CBC_40_MD5"),
      ("EXP-KRB5-RC2-CBC-MD5", "TLS_KRB5_EXPORT_WITH_RC2_CBC_40_MD5"),
      ("EXP-KRB5-RC4-MD5", "TLS_KRB5_EXPORT_WITH_RC4_40_MD5")],
    -- EXPORT 1024
    [("EXP1024-RC4-MD5", "TLS_RSA_EXPORT1024_WITH_RC4_56_MD5"),
      ("EXP1024-RC2-CBC-MD5", "TLS_RSA_EXPORT1024_WITH_RC2_CBC_56_MD5"),
      ("EXP1024-DES-CBC-SHA", "TLS_RSA_EXPORT1024_WITH_DES_CBC_SHA"),
      ("EXP1024-DHE-DSS-DES-CBC-SHA", "TLS_DHE_DSS_EXPORT1024_WITH_DES_CBC_SHA"),
      ("EXP1024-RC4-SHA", "TLS_RSA_EXPORT1024_WITH_RC4_56_SHA"),
      ("EXP1024-DHE-DSS-RC4-SHA", "TLS_DHE_DSS_EXPORT1024_WITH_RC4_56_SHA")],
    -- GOST
    [("GOST94-GOST89-GOST89", "TLS_GOSTR341094_WITH_28147_CNT_IMIT"),
      ("GOST2001-GOST89-GOST89", "TLS_GOSTR341001_WITH_28147_CNT_IMIT"),
      ("GOST-MD5", "TLS_GOSTR341094_RSA_WITH_28147_CNT_MD5"),
      ("GOST-GOST94", "TLS_RSA_WITH_28147_CNT_GOST94")]]

/-- `opensslToIANA`. -/
def opensslToIANA : List (String × String) := opensslSections.flatten

/-- `NormalizeCipherName`. -/
def normalizeCipherName (name : String) : String :=
  if 4 < name.length ∧ "TLS_".toList <+: name.toList then name
  else
    match opensslToIANA.lookup name with
    | some iana => iana
    | none => name

/-- `NormalizeCipherNames`. -/
def normalizeCipherNames (names : List String) : List String := names.map normalizeCipherName

/-- The request that is stored: its names in normal form. -/
def normalizeRequest (req : TLSProfileIngestRequest) : TLSProfileIngestRequest :=
  { req with
    cipherSuites := normalizeCipherNames req.cipherSuites
    selectedCipher := req.selectedCipher.map normalizeCipherName }

/-- `TLSProfile` of the probe handler, on a body that decodes; `none` is a violated foreign
key. -/
def recordTLSProfile (db : DB) (now : Int) (hostID : String) (req : TLSProfileIngestRequest) :
    Option DB :=
  db.upsertTLSProfile now hostID (normalizeRequest req)

/-! ## §2. The rows. -/

/-- What a row does, by the characters of its two names.  OpenSSL joins the parts of a
name by hyphens and writes EXP for EXPORT and DES-CBC3 for 3DES. -/
structure RowSound (key value : List Char) : Prop where
  ascii : (key ++ value).all (fun c => decide (c.toNat < 128)) = true
  canonical : 4 < value.length ∧ "TLS_".toList <+: value
  rc4 : "RC4".toList <:+: value.map Char.toUpper ↔ "RC4".toList <:+: key.map Char.toUpper
  null : "NULL".toList <:+: value.map Char.toUpper ↔ "NULL".toList <:+: key.map Char.toUpper
  exported : "EXP".toList <:+: key.map Char.toUpper → "EXPORT".toList <:+: value.map Char.toUpper
  tripleDES : "3DES".toList <:+: key.map Char.toUpper ∨ "DES-CBC3".toList <:+: key →
    "3DES".toList <:+: value.map Char.toUpper
  poly1305 : "POLY1305".toList <:+: key.map Char.toUpper →
    "POLY1305".toList <:+: value.map Char.toUpper
  hyphens : '_' ∉ key.map Char.toUpper

instance (key value : List Char) : Decidable (RowSound key value) :=
  -- the words are spelt out, so that they need not be unpacked for every row
  decidable_of_iff
    ((key ++ value).all (fun c => decide (c.toNat < 128)) = true ∧
      (4 < value.length ∧ ['T', 'L', 'S', '_'] <+: value) ∧
      (['R', 'C', '4'] <:+: value.map Char.toUpper ↔
        ['R', 'C', '4'] <:+: key.map Char.toUpper) ∧
      (['N', 'U', 'L', 'L'] <:+: value.map Char.toUpper ↔
        ['N', 'U', 'L', 'L'] <:+: key.map Char.toUpper) ∧
      (['E', 'X', 'P'] <:+: key.map Char.toUpper →
        ['E', 'X', 'P', 'O', 'R', 'T'] <:+: value.map Char.toUpper) ∧
      (['3', 'D', 'E', 'S'] <:+: key.map Char.toUpper ∨
          ['D', 'E', 'S', '-', 'C', 'B', 'C', '3'] <:+: key →
        ['3', 'D', 'E', 'S'] <:+: value.map Char.toUpper) ∧
      (['P', 'O', 'L', 'Y', '1', '3', '0', '5'] <:+: key.map Char.toUpper →
        ['P', 'O', 'L', 'Y', '1', '3', '0', '5'] <:+: value.map Char.toUpper) ∧
      '_' ∉ key.map Char.toUpper)
    ⟨fun ⟨ascii, canonical, rc4, null, exported, tripleDES, poly1305, hyphens⟩ =>
        { ascii, canonical, rc4, null, exported, tripleDES, poly1305, hyphens },
      fun h => ⟨h.ascii, h.canonical, h.rc4, h.null, h.exported, h.tripleDES, h.poly1305,
        h.hyphens⟩⟩

/-- A row from the characters of its names. -/
def ofChars (row : List Char × List Char) : String × String :=
  (String.ofList row.1, String.ofList row.2)

theorem row_of_chars (key value : List Char) {rows : List (String × String)}
    {chars : List (List Char × List Char)} (h : rows = chars.map ofChars) :
    (String.ofList key, String.ofList value) :: rows = ((key, value) :: chars).map ofChars := by
  rw [h]
  rfl

theorem section_of_chars {rows : List (String × String)} {sections : List (List (String × String))}
    {chars : List (List Char × List Char)} {charss : List (List (List Char × List Char))}
    (h : rows = chars.map ofChars) (hs : sections = charss.map (List.map ofChars)) :
    rows :: sections = (chars :: charss).map (List.map ofChars) := by
  rw [h, hs]
  rfl

/-- The characters of the names are read off the table, and checked a section at a time. -/
theorem opensslSections_sound : ∃ chars : List (List (List Char × List Char)),
    opensslSections = chars.map (List.map ofChars) ∧
      ∀ rows ∈ chars, ∀ row ∈ rows, RowSound row.1 row.2 := by
  unfold opensslSections
  apply Exists.intro
  apply And.intro
  · repeat
      apply section_of_chars
      · repeat apply row_of_chars
        apply List.map_nil.symm
    apply List.map_nil.symm
  · repeat
      rw [List.forall_mem_cons]
      apply And.intro
      · decide +kernel
    apply List.forall_mem_nil

/-- **Every row of the table is sound.** -/
theorem opensslToIANA_sound {key value : String} (h : (key, value) ∈ opensslToIANA) :
    RowSound key.toList value.toList := by
  obtain ⟨chars, hchars, hsound⟩ := opensslSections_sound
  rw [opensslToIANA, hchars, List.mem_flatten] at h
  obtain ⟨rows, hrows, hrow⟩ := h
  obtain ⟨rows', hrows', rfl⟩ := List.mem_map.mp hrows
  obtain ⟨row, hmem, hof⟩ := List.mem_map.mp hrow
  obtain ⟨rfl, rfl⟩ := Prod.mk.inj hof
  simpa only [String.toList_ofList] using hsound rows' hrows' row hmem

/-- The names of a row are ASCII. -/
theorem ascii_of_row {key value : String} (hrow : (key, value) ∈ opensslToIANA) :
    key.toList.all (fun c => decide (c.toNat < 128)) = true ∧
      value.toList.all (fun c => decide (c.toNat < 128)) = true := by
  have hascii := (opensslToIANA_sound hrow).ascii
  rwa [List.all_append, Bool.and_eq_true] at hascii

/-! ## §3. A name and its normal form. -/

theorem normalizeCipherName_of_prefix {name : String}
    (h : 4 < name.length ∧ "TLS_".toList <+: name.toList) : normalizeCipherName name = name :=
  if_pos h

/-- The IANA name of a row is in normal form. -/
theorem RowSound.normalized {key : List Char} {name : String} (h : RowSound key name.toList) :
    normalizeCipherName name = name :=
  normalizeCipherName_of_prefix ⟨String.length_toList ▸ h.canonical.1, h.canonical.2⟩

/-- **A name stays as it is, or is a row of the table.** -/
theorem normalizeCipherName_cases (name : String) :
    normalizeCipherName name = name ∨ (name, normalizeCipherName name) ∈ opensslToIANA := by
  unfold normalizeCipherName
  by_cases hprefix : 4 < name.length ∧ "TLS_".toList <+: name.toList
  · exact Or.inl (if_pos hprefix)
  · rw [if_neg hprefix]
    cases h : opensslToIANA.lookup name with
    | none => exact Or.inl rfl
    | some iana =>
        obtain ⟨before, after, hrows, -⟩ := List.lookup_eq_some_iff.mp h
        exact Or.inr (hrows ▸ List.mem_append_right _ List.mem_cons_self)

/-- A name that the table knows is looked up. -/
theorem normalizeCipherName_known {name : String}
    (h : (opensslToIANA.lookup name).isSome = true) :
    (name, normalizeCipherName name) ∈ opensslToIANA := by
  obtain ⟨iana, hiana⟩ := Option.isSome_iff_exists.mp h
  obtain ⟨before, after, hrows, -⟩ := List.lookup_eq_some_iff.mp hiana
  have hmem : (name, iana) ∈ opensslToIANA := hrows ▸ List.mem_append_right _ List.mem_cons_self
  have hprefix : ¬(4 < name.length ∧ "TLS_".toList <+: name.toList) := by
    intro hname
    have hbar : '_' ∈ name.toList := hname.2.subset (by decide)
    exact (opensslToIANA_sound hmem).hyphens (List.mem_map.mpr ⟨'_', hbar, by decide⟩)
  rw [normalizeCipherName, if_neg hprefix, hiana]
  exact hmem

/-- **A stored name is not changed again.** -/
theorem normalizeCipherName_idem (name : String) :
    normalizeCipherName (normalizeCipherName name) = normalizeCipherName name := by
  rcases normalizeCipherName_cases name with h | h
  · rw [h, h]
  · exact (opensslToIANA_sound h).normalized

theorem normalizeCipherNames_idem (names : List String) :
    normalizeCipherNames (normalizeCipherNames names) = normalizeCipherNames names := by
  unfold normalizeCipherNames
  rw [List.map_map]
  exact List.map_congr_left fun name _ => normalizeCipherName_idem name

theorem normalizeRequest_idem (req : TLSProfileIngestRequest) :
    normalizeRequest (normalizeRequest req) = normalizeRequest req := by
  have hselected : req.selectedCipher.map (normalizeCipherName ∘ normalizeCipherName) =
      req.selectedCipher.map normalizeCipherName :=
    Option.map_congr fun name _ => normalizeCipherName_idem name
  unfold normalizeRequest
  rw [normalizeCipherNames_idem, Option.map_map, hselected]

/-- **What the handler stores is in normal form.** -/
theorem recordTLSProfile_stores {db db' : DB} {now : Int} {hostID : String}
    {req : TLSProfileIngestRequest} (h : recordTLSProfile db now hostID req = some db') :
    ∃ p, db'.tlsProfiles.find? hostID = some p ∧
      normalizeRequest p.toTLSProfileIngestRequest = p.toTLSProfileIngestRequest := by
  unfold recordTLSProfile DB.upsertTLSProfile at h
  split at h
  · injection h with h
    subst h
    refine ⟨⟨normalizeRequest req, hostID, now⟩, ?_, normalizeRequest_idem req⟩
    rw [Table.find?_upsert]
    exact if_pos rfl
  · exact absurd h (by simp)

/-! ## §4. What a name mentions, before and after. -/

/-- `unicode.ToUpper` on ASCII. -/
def AsciiUpper (upper : Char → Char) : Prop := ∀ c, c.toNat < 128 → upper c = c.toUpper

section Detectors

variable {upper : Char → Char}

theorem mentions_eq (name part : String) :
    mentions upper name part = decide (part.toList <:+: name.toList.map upper) := by
  unfold mentions toUpper
  simp only [String.toList_ofList]

theorem ite_ne_zero {c : Prop} [Decidable c] {a b : Int} (ha : a ≠ 0) (hb : b ≠ 0) :
    (if c then a else b) ≠ 0 := by
  split <;> assumption

variable (hupper : AsciiUpper upper)

include hupper

theorem map_upper {chars : List Char}
    (h : chars.all (fun c => decide (c.toNat < 128)) = true) :
    chars.map upper = chars.map Char.toUpper :=
  List.map_congr_left fun c hc => hupper c (of_decide_eq_true (List.all_eq_true.mp h c hc))

theorem mentions_key_iff {key value : String} (hrow : (key, value) ∈ opensslToIANA)
    (part : String) :
    mentions upper key part = true ↔ part.toList <:+: key.toList.map Char.toUpper := by
  rw [mentions_eq, decide_eq_true_iff, map_upper hupper (ascii_of_row hrow).1]

theorem mentions_value_iff {key value : String} (hrow : (key, value) ∈ opensslToIANA)
    (part : String) :
    mentions upper value part = true ↔ part.toList <:+: value.toList.map Char.toUpper := by
  rw [mentions_eq, decide_eq_true_iff, map_upper hupper (ascii_of_row hrow).2]

/-- A word with an underscore is in no name that OpenSSL made. -/
theorem not_mentions_key {key value : String} (hrow : (key, value) ∈ opensslToIANA)
    {part : String} (hbar : '_' ∈ part.toList) : mentions upper key part = false := by
  rw [Bool.eq_false_iff, Ne, mentions_key_iff hupper hrow]
  exact fun h => (opensslToIANA_sound hrow).hyphens (h.subset hbar)

theorem isTLS13SuiteName_key {key value : String} (hrow : (key, value) ∈ opensslToIANA) :
    isTLS13SuiteName upper key = false := by
  unfold isTLS13SuiteName
  rw [Bool.and_eq_false_iff]
  left
  rw [Bool.eq_false_iff, Ne, List.isPrefixOf_iff_prefix, toUpper, String.toList_ofList,
    map_upper hupper (ascii_of_row hrow).1]
  intro h
  have hbar : '_' ∈ "TLS_".toList := by decide
  have hkey := h.subset hbar
  rw [String.toList_ofList] at hkey
  exact (opensslToIANA_sound hrow).hyphens hkey

/-- **RC4 is neither hidden nor invented.** -/
theorem mentions_normalize_rc4 (name : String) :
    mentions upper (normalizeCipherName name) "RC4" = mentions upper name "RC4" := by
  rcases normalizeCipherName_cases name with h | h
  · rw [h]
  · rw [Bool.eq_iff_iff, mentions_key_iff hupper h, mentions_value_iff hupper h]
    exact (opensslToIANA_sound h).rc4

/-- **Nor is a suite without encryption.** -/
theorem mentions_normalize_null (name : String) :
    mentions upper (normalizeCipherName name) "NULL" = mentions upper name "NULL" := by
  rcases normalizeCipherName_cases name with h | h
  · rw [h]
  · rw [Bool.eq_iff_iff, mentions_key_iff hupper h, mentions_value_iff hupper h]
    exact (opensslToIANA_sound h).null

/-- **A word of which every row keeps the mention is kept.** -/
theorem mentions_normalize_of_row {name part part' : String}
    (hrow : RowSound name.toList (normalizeCipherName name).toList →
      part.toList <:+: name.toList.map Char.toUpper →
        part'.toList <:+: (normalizeCipherName name).toList.map Char.toUpper)
    (hsame : mentions upper name part = true → mentions upper name part' = true)
    (h : mentions upper name part = true) :
    mentions upper (normalizeCipherName name) part' = true := by
  rcases normalizeCipherName_cases name with hname | hname
  · rw [hname]
    exact hsame h
  · rw [mentions_value_iff hupper hname]
    exact hrow (opensslToIANA_sound hname) ((mentions_key_iff hupper hname part).mp h)

theorem mentions_normalize_export {name : String} (h : mentions upper name "EXPORT" = true) :
    mentions upper (normalizeCipherName name) "EXPORT" = true := by
  refine mentions_normalize_of_row hupper (fun hrow hkey => hrow.exported ?_) id h
  exact List.IsInfix.trans (by decide) hkey

theorem mentions_normalize_3des {name : String} (h : mentions upper name "3DES" = true) :
    mentions upper (normalizeCipherName name) "3DES" = true :=
  mentions_normalize_of_row hupper (fun hrow hkey => hrow.tripleDES (Or.inl hkey)) id h

/-- The suites of the override map are NULL suites. -/
theorem mentions_null_of_override {name : String} {bits : Int}
    (h : cipherStrengthBits.lookup name = some bits) :
    mentions upper name "NULL" = true ∧ bits = 0 := by
  obtain ⟨before, after, hrows, -⟩ := List.lookup_eq_some_iff.mp h
  have hmem : (name, bits) ∈ cipherStrengthBits :=
    hrows ▸ List.mem_append_right _ List.mem_cons_self
  have hrow : ∀ row ∈ cipherStrengthBits,
      row.1.toList.all (fun c => decide (c.toNat < 128)) = true ∧
        "NULL".toList <:+: row.1.toList.map Char.toUpper ∧ row.2 = 0 := by
    decide +kernel
  obtain ⟨hascii, hnull, hbits⟩ := hrow _ hmem
  rw [mentions_eq, decide_eq_true_iff, map_upper hupper hascii]
  exact ⟨hnull, hbits⟩

/-- **No bits are left exactly to the NULL suites.** -/
theorem cipherEffectiveBits_eq_zero_iff (name : String) :
    cipherEffectiveBits upper name = 0 ↔ mentions upper name "NULL" = true := by
  unfold cipherEffectiveBits
  cases h : cipherStrengthBits.lookup name with
  | some bits =>
      obtain ⟨hnull, hbits⟩ := mentions_null_of_override hupper h
      simp [hnull, hbits]
  | none =>
      by_cases hnull : mentions upper name "NULL" = true
      · simp [hnull]
      · refine iff_of_false ?_ hnull
        rw [if_neg hnull]
        -- every rung of the ladder below has some bits
        repeat' first
          | apply ite_ne_zero
          | decide

/-- The names that the table changes say nothing of forward secrecy, which is written with
underscores. -/
theorem normalize_of_forwardSecrecy {name : String}
    (h : (mentions upper name "ECDHE_" || mentions upper name "DHE_" ||
      isTLS13SuiteName upper name) = true) : normalizeCipherName name = name := by
  rcases normalizeCipherName_cases name with hname | hname
  · exact hname
  · rw [not_mentions_key hupper hname (by decide), not_mentions_key hupper hname (by decide),
      isTLS13SuiteName_key hupper hname] at h
    cases h

/-- Of authenticated encryption they may mention POLY1305, and their rows keep it. -/
theorem aead_normalize {name : String}
    (h : (mentions upper name "_GCM_" || mentions upper name "_CCM" ||
      mentions upper name "POLY1305" || isTLS13SuiteName upper name) = true) :
    (mentions upper (normalizeCipherName name) "_GCM_" ||
      mentions upper (normalizeCipherName name) "_CCM" ||
      mentions upper (normalizeCipherName name) "POLY1305" ||
      isTLS13SuiteName upper (normalizeCipherName name)) = true := by
  rcases normalizeCipherName_cases name with hname | hname
  · rw [hname]
    exact h
  · rw [not_mentions_key hupper hname (by decide), not_mentions_key hupper hname (by decide),
      isTLS13SuiteName_key hupper hname] at h
    have hkey : mentions upper name "POLY1305" = true := by simpa using h
    have hvalue : mentions upper (normalizeCipherName name) "POLY1305" = true :=
      (mentions_value_iff hupper hname _).mpr
        ((opensslToIANA_sound hname).poly1305 ((mentions_key_iff hupper hname _).mp hkey))
    simp [hvalue]

end Detectors

/-! ## §5. Lists of names. -/

theorem any_normalize {p : String → Bool} {names : List String}
    (h : ∀ name ∈ names, p name = true → p (normalizeCipherName name) = true)
    (hany : names.any p = true) : (normalizeCipherNames names).any p = true := by
  obtain ⟨name, hname, hp⟩ := List.any_eq_true.mp hany
  exact List.any_eq_true.mpr ⟨_, List.mem_map_of_mem hname, h name hname hp⟩

section Lists

variable {upper : Char → Char} (hupper : AsciiUpper upper) (names : List String)

include hupper

theorem hasRC4_normalize : hasRC4 upper (normalizeCipherNames names) = hasRC4 upper names := by
  unfold hasRC4 normalizeCipherNames
  rw [List.any_map]
  simp only [Function.comp_def, mentions_normalize_rc4 hupper]

theorem onlyRC4_normalize :
    onlyRC4 upper (normalizeCipherNames names) = onlyRC4 upper names := by
  unfold onlyRC4 normalizeCipherNames
  rw [List.all_map, List.isEmpty_map]
  simp only [Function.comp_def, mentions_normalize_rc4 hupper]

/-- The names without any bits are the same. -/
theorem zeroBits_normalize :
    (normalizeCipherNames names).map (fun name => decide (cipherEffectiveBits upper name = 0)) =
      names.map fun name => decide (cipherEffectiveBits upper name = 0) := by
  unfold normalizeCipherNames
  rw [List.map_map]
  refine List.map_congr_left fun name _ => decide_eq_decide.mpr ?_
  rw [cipherEffectiveBits_eq_zero_iff hupper, cipherEffectiveBits_eq_zero_iff hupper,
    mentions_normalize_null hupper]

/-- **A weak suite in the spelling of OpenSSL is found after the table.** -/
theorem weak_normalize {name : String} (hname : name ∈ names)
    (hknown : (opensslToIANA.lookup name).isSome = true) :
    ("EXP".toList <+: name.toList →
        hasExportSuites upper (normalizeCipherNames names) = true) ∧
      ("DES-CBC3".toList <:+: name.toList →
        has3DES upper (normalizeCipherNames names) = true) := by
  have hrow := normalizeCipherName_known hknown
  have hsound := opensslToIANA_sound hrow
  have hstored : normalizeCipherName name ∈ normalizeCipherNames names :=
    List.mem_map_of_mem hname
  constructor
  · intro hexp
    refine List.any_eq_true.mpr ⟨_, hstored, (mentions_value_iff hupper hrow _).mpr ?_⟩
    exact hsound.exported ((hexp.map Char.toUpper).isInfix)
  · intro hdes
    refine List.any_eq_true.mpr ⟨_, hstored, (mentions_value_iff hupper hrow _).mpr ?_⟩
    exact hsound.tripleDES (Or.inr hdes)

/-- **Normalising hides no weakness and invents none.**  The names keep their number and
order and are not changed again; RC4 and NULL are found before as after; export suites,
3DES, forward secrecy and authenticated encryption are found after where they were found
before; and what OpenSSL calls EXP or DES-CBC3 is found. -/
theorem normalizeCipherNames_keeps_weaknesses :
    let stored := normalizeCipherNames names
    (stored.length = names.length ∧
      (∀ i : Nat, stored[i]? = names[i]?.map normalizeCipherName) ∧
      normalizeCipherNames stored = stored) ∧
    (hasRC4 upper stored = hasRC4 upper names ∧ onlyRC4 upper stored = onlyRC4 upper names ∧
      stored.map (fun name => decide (cipherEffectiveBits upper name = 0)) =
        names.map fun name => decide (cipherEffectiveBits upper name = 0)) ∧
    ((hasExportSuites upper names = true → hasExportSuites upper stored = true) ∧
      (has3DES upper names = true → has3DES upper stored = true) ∧
      (hasForwardSecrecy upper names = true → hasForwardSecrecy upper stored = true) ∧
      (hasAEAD upper names = true → hasAEAD upper stored = true)) ∧
    ∀ name ∈ names, (opensslToIANA.lookup name).isSome = true →
      ("EXP".toList <+: name.toList → hasExportSuites upper stored = true) ∧
      ("DES-CBC3".toList <:+: name.toList → has3DES upper stored = true) := by
  intro stored
  refine ⟨⟨List.length_map _, ?_, normalizeCipherNames_idem names⟩,
    ⟨hasRC4_normalize hupper names, onlyRC4_normalize hupper names,
      zeroBits_normalize hupper names⟩, ⟨?_, ?_, ?_, ?_⟩,
    fun name hname hknown => weak_normalize hupper names hname hknown⟩
  · intro i
    exact List.getElem?_map
  · exact any_normalize fun name _ => mentions_normalize_export hupper
  · exact any_normalize fun name _ => mentions_normalize_3des hupper
  · exact any_normalize fun name _ h => (normalize_of_forwardSecrecy hupper h).symm ▸ h
  · exact any_normalize fun name _ => aead_normalize hupper

end Lists

/-- An OpenSSL export suite, a 3DES suite and a suite in IANA form. -/
theorem normalizeCipherNames_keeps_weaknesses_mixed :
    hasExportSuites Char.toUpper (normalizeCipherNames
      ["EXP-RC4-MD5", "ECDHE-RSA-DES-CBC3-SHA", "TLS_AES_128_GCM_SHA256"]) = true := by
  have hknown : (opensslToIANA.lookup "EXP-RC4-MD5").isSome = true := by
    decide
  exact ((normalizeCipherNames_keeps_weaknesses (fun c _ => rfl)
    ["EXP-RC4-MD5", "ECDHE-RSA-DES-CBC3-SHA", "TLS_AES_128_GCM_SHA256"]).2.2.2 _
      List.mem_cons_self hknown).1 (by decide)

end TLSentinel.TLSProfile
