/-
  TLSentinel.TLSProfile.Ciphers
  ─────────────────────────────
  **WHAT IS KNOWN OF A CIPHER SUITE.**

  The table of `internal/tlsprofile/ciphers.go`: every suite that is classified, by its
  IANA name, with the reason and the severity of its finding.  Suites with one reason
  stand together here, in the order of the source; a suite that is not in the table is
  no known weak one.
-/
import Mathlib.Data.List.Basic
import Mathlib.Order.Defs.LinearOrder

namespace TLSentinel.TLSProfile

/-- `Severity`. -/
inductive Severity where
  /-- Modern, no known issues. -/
  | ok
  /-- Weak but not actively broken. -/
  | warning
  /-- Broken or prohibited. -/
  | critical
  deriving DecidableEq, Repr

/-- The string that the severity is. -/
def Severity.text : Severity → String
  | .ok => "ok"
  | .warning => "warning"
  | .critical => "critical"

/-- `Finding`. -/
structure Finding where
  name : String
  reason : String
  severity : Severity
  deriving DecidableEq, Repr

/-- The rows of `cipherClassifications`: severity, reason, and the suites they are of. -/
def classified : List (Severity × String × List String) :=
  [
    -- NULL (no encryption)
    (.critical, "NULL cipher — no encryption; traffic is plaintext.",
      ["TLS_RSA_WITH_NULL_MD5", "TLS_RSA_WITH_NULL_SHA", "TLS_RSA_WITH_NULL_SHA256",
        "TLS_ECDHE_RSA_WITH_NULL_SHA", "TLS_ECDHE_ECDSA_WITH_NULL_SHA",
        "TLS_ECDH_RSA_WITH_NULL_SHA", "TLS_ECDH_ECDSA_WITH_NULL_SHA"]),
    (.critical, "NULL cipher with anonymous key exchange — no encryption and no authentication.",
      ["TLS_ECDH_anon_WITH_NULL_SHA"]),
    (.critical, "NULL cipher — no encryption; traffic is plaintext.",
      ["TLS_PSK_WITH_NULL_SHA", "TLS_PSK_WITH_NULL_SHA256", "TLS_PSK_WITH_NULL_SHA384",
        "TLS_DHE_PSK_WITH_NULL_SHA", "TLS_DHE_PSK_WITH_NULL_SHA256",
        "TLS_DHE_PSK_WITH_NULL_SHA384", "TLS_RSA_PSK_WITH_NULL_SHA",
        "TLS_RSA_PSK_WITH_NULL_SHA256", "TLS_RSA_PSK_WITH_NULL_SHA384",
        "TLS_ECDHE_PSK_WITH_NULL_SHA", "TLS_ECDHE_PSK_WITH_NULL_SHA256",
        "TLS_ECDHE_PSK_WITH_NULL_SHA384"]),
    -- EXPORT (intentionally weakened)
    (.critical, "EXPORT-grade cipher with 40-bit key; trivially broken.",
      ["TLS_RSA_EXPORT_WITH_RC4_40_MD5", "TLS_RSA_EXPORT_WITH_RC2_CBC_40_MD5",
        "TLS_RSA_EXPORT_WITH_DES40_CBC_SHA", "TLS_DH_RSA_EXPORT_WITH_DES40_CBC_SHA",
        "TLS_DH_DSS_EXPORT_WITH_DES40_CBC_SHA", "TLS_DHE_RSA_EXPORT_WITH_DES40_CBC_SHA",
        "TLS_DHE_DSS_EXPORT_WITH_DES40_CBC_SHA"]),
    (.critical, "EXPORT-grade cipher with 40-bit key and anonymous key exchange; trivially broken.",
      ["TLS_DH_anon_EXPORT_WITH_DES40_CBC_SHA"]),
    (.critical, "EXPORT-grade cipher with 56-bit key; trivially broken.",
      ["TLS_RSA_EXPORT1024_WITH_RC4_56_MD5", "TLS_RSA_EXPORT1024_WITH_RC2_CBC_56_MD5",
        "TLS_RSA_EXPORT1024_WITH_DES_CBC_SHA", "TLS_DHE_DSS_EXPORT1024_WITH_DES_CBC_SHA",
        "TLS_RSA_EXPORT1024_WITH_RC4_56_SHA", "TLS_DHE_DSS_EXPORT1024_WITH_RC4_56_SHA"]),
    (.critical, "EXPORT-grade cipher with 40-bit key; trivially broken.",
      ["TLS_KRB5_EXPORT_WITH_DES_CBC_40_SHA", "TLS_KRB5_EXPORT_WITH_RC2_CBC_40_SHA",
        "TLS_KRB5_EXPORT_WITH_RC4_40_SHA", "TLS_KRB5_EXPORT_WITH_DES_CBC_40_MD5",
        "TLS_KRB5_EXPORT_WITH_RC2_CBC_40_MD5", "TLS_KRB5_EXPORT_WITH_RC4_40_MD5"]),
    -- RC4
    (.critical, "RC4 is cryptographically broken and prohibited in TLS (RFC 7465).",
      ["TLS_RSA_WITH_RC4_128_MD5", "TLS_RSA_WITH_RC4_128_SHA", "TLS_ECDHE_RSA_WITH_RC4_128_SHA",
        "TLS_ECDHE_ECDSA_WITH_RC4_128_SHA", "TLS_ECDH_RSA_WITH_RC4_128_SHA",
        "TLS_ECDH_ECDSA_WITH_RC4_128_SHA"]),
    (.critical, "RC4 is broken (RFC 7465); anonymous key exchange provides no authentication.",
      ["TLS_DH_anon_WITH_RC4_128_MD5", "TLS_ECDH_anon_WITH_RC4_128_SHA"]),
    (.critical, "RC4 is cryptographically broken and prohibited in TLS (RFC 7465).",
      ["TLS_PSK_WITH_RC4_128_SHA", "TLS_DHE_PSK_WITH_RC4_128_SHA", "TLS_RSA_PSK_WITH_RC4_128_SHA",
        "TLS_ECDHE_PSK_WITH_RC4_128_SHA", "TLS_DHE_DSS_WITH_RC4_128_SHA",
        "TLS_KRB5_WITH_RC4_128_SHA", "TLS_KRB5_WITH_RC4_128_MD5"]),
    -- DES (56-bit)
    (.critical, "DES has a 56-bit key; brute-forceable on commodity hardware.",
      ["TLS_RSA_WITH_DES_CBC_SHA", "TLS_DHE_RSA_WITH_DES_CBC_SHA", "TLS_DHE_DSS_WITH_DES_CBC_SHA",
        "TLS_DH_RSA_WITH_DES_CBC_SHA", "TLS_DH_DSS_WITH_DES_CBC_SHA"]),
    (.critical, "DES has a 56-bit key; anonymous key exchange provides no authentication.",
      ["TLS_DH_anon_WITH_DES_CBC_SHA"]),
    (.critical, "DES has a 56-bit key; brute-forceable on commodity hardware.",
      ["TLS_KRB5_WITH_DES_CBC_SHA", "TLS_KRB5_WITH_DES_CBC_MD5"]),
    -- 3DES
    (.critical, "3DES has a 64-bit block size; vulnerable to SWEET32. No forward secrecy.",
      ["TLS_RSA_WITH_3DES_EDE_CBC_SHA"]),
    (.critical, "3DES has a 64-bit block size; vulnerable to SWEET32.",
      ["TLS_DHE_RSA_WITH_3DES_EDE_CBC_SHA", "TLS_DHE_DSS_WITH_3DES_EDE_CBC_SHA"]),
    (.critical, "3DES has a 64-bit block size; vulnerable to SWEET32. No forward secrecy.",
      ["TLS_DH_RSA_WITH_3DES_EDE_CBC_SHA", "TLS_DH_DSS_WITH_3DES_EDE_CBC_SHA"]),
    (.critical, "3DES is vulnerable to SWEET32; anonymous key exchange provides no authentication.",
      ["TLS_DH_anon_WITH_3DES_EDE_CBC_SHA"]),
    (.critical, "3DES has a 64-bit block size; vulnerable to SWEET32.",
      ["TLS_ECDHE_RSA_WITH_3DES_EDE_CBC_SHA", "TLS_ECDHE_ECDSA_WITH_3DES_EDE_CBC_SHA"]),
    (.critical, "3DES is vulnerable to SWEET32. Static ECDH provides no forward secrecy.",
      ["TLS_ECDH_RSA_WITH_3DES_EDE_CBC_SHA", "TLS_ECDH_ECDSA_WITH_3DES_EDE_CBC_SHA"]),
    (.critical, "3DES is vulnerable to SWEET32; anonymous key exchange provides no authentication.",
      ["TLS_ECDH_anon_WITH_3DES_EDE_CBC_SHA"]),
    (.critical, "3DES has a 64-bit block size; vulnerable to SWEET32.",
      ["TLS_PSK_WITH_3DES_EDE_CBC_SHA", "TLS_DHE_PSK_WITH_3DES_EDE_CBC_SHA",
        "TLS_RSA_PSK_WITH_3DES_EDE_CBC_SHA", "TLS_ECDHE_PSK_WITH_3DES_EDE_CBC_SHA",
        "TLS_SRP_SHA_WITH_3DES_EDE_CBC_SHA", "TLS_SRP_SHA_RSA_WITH_3DES_EDE_CBC_SHA",
        "TLS_SRP_SHA_DSS_WITH_3DES_EDE_CBC_SHA", "TLS_KRB5_WITH_3DES_EDE_CBC_SHA",
        "TLS_KRB5_WITH_3DES_EDE_CBC_MD5"]),
    -- IDEA
    (.critical, "IDEA has a 64-bit block size; removed from TLS 1.2. No forward secrecy.",
      ["TLS_RSA_WITH_IDEA_CBC_SHA"]),
    (.critical, "IDEA has a 64-bit block size; removed from TLS 1.2.",
      ["TLS_KRB5_WITH_IDEA_CBC_SHA", "TLS_KRB5_WITH_IDEA_CBC_MD5"]),
    -- Anonymous key exchange (no authentication)
    (.critical, "Anonymous DH provides no server authentication; trivial MITM.",
      ["TLS_DH_anon_WITH_AES_128_CBC_SHA", "TLS_DH_anon_WITH_AES_256_CBC_SHA",
        "TLS_DH_anon_WITH_AES_128_CBC_SHA256", "TLS_DH_anon_WITH_AES_256_CBC_SHA256",
        "TLS_DH_anon_WITH_AES_128_GCM_SHA256", "TLS_DH_anon_WITH_AES_256_GCM_SHA384"]),
    (.critical, "Anonymous ECDH provides no server authentication; trivial MITM.",
      ["TLS_ECDH_anon_WITH_AES_128_CBC_SHA", "TLS_ECDH_anon_WITH_AES_256_CBC_SHA"]),
    (.critical, "Anonymous DH provides no server authentication; trivial MITM.",
      ["TLS_DH_anon_WITH_CAMELLIA_128_CBC_SHA", "TLS_DH_anon_WITH_CAMELLIA_256_CBC_SHA",
        "TLS_DH_anon_WITH_CAMELLIA_128_CBC_SHA256", "TLS_DH_anon_WITH_SEED_CBC_SHA"]),
    -- GOST
    (.critical, "GOST R 34.10-94 is obsolete; limited audit and interoperability.",
      ["TLS_GOSTR341094_WITH_28147_CNT_IMIT"]),
    (.warning, "Non-standard GOST cipher; limited audit and interoperability.",
      ["TLS_GOSTR341001_WITH_28147_CNT_IMIT"]),
    (.critical, "GOST R 34.10-94 is obsolete; uses MD5.",
      ["TLS_GOSTR341094_RSA_WITH_28147_CNT_MD5"]),
    (.critical, "Non-standard GOST cipher with static RSA; limited audit.",
      ["TLS_RSA_WITH_28147_CNT_GOST94"]),
    -- Draft/old ChaCha20-Poly1305
    (.warning, "Draft ChaCha20-Poly1305 identifier (pre-RFC 7905); upgrade to the standard suite.",
      ["TLS_ECDHE_RSA_WITH_CHACHA20_POLY1305_SHA256_OLD",
        "TLS_ECDHE_ECDSA_WITH_CHACHA20_POLY1305_SHA256_OLD",
        "TLS_DHE_RSA_WITH_CHACHA20_POLY1305_SHA256_OLD"]),
    -- Static RSA key exchange (no forward secrecy)
    (.warning, "Static RSA key exchange provides no forward secrecy.",
      ["TLS_RSA_WITH_AES_128_CBC_SHA", "TLS_RSA_WITH_AES_256_CBC_SHA",
        "TLS_RSA_WITH_AES_128_CBC_SHA256", "TLS_RSA_WITH_AES_256_CBC_SHA256",
        "TLS_RSA_WITH_AES_128_GCM_SHA256", "TLS_RSA_WITH_AES_256_GCM_SHA384",
        "TLS_RSA_WITH_AES_128_CCM", "TLS_RSA_WITH_AES_256_CCM"]),
    (.warning,
      "Static RSA key exchange provides no forward secrecy; CCM-8 has a truncated "
        ++ "authentication tag.",
      ["TLS_RSA_WITH_AES_128_CCM_8", "TLS_RSA_WITH_AES_256_CCM_8"]),
    (.warning, "Static RSA key exchange provides no forward secrecy.",
      ["TLS_RSA_WITH_CAMELLIA_128_CBC_SHA", "TLS_RSA_WITH_CAMELLIA_256_CBC_SHA",
        "TLS_RSA_WITH_CAMELLIA_128_CBC_SHA256"]),
    (.warning, "Static RSA key exchange provides no forward secrecy; SEED is a legacy cipher.",
      ["TLS_RSA_WITH_SEED_CBC_SHA"]),
    -- Static DH key exchange (no forward secrecy)
    (.warning, "Static DH key exchange provides no forward secrecy.",
      ["TLS_DH_RSA_WITH_AES_128_CBC_SHA", "TLS_DH_RSA_WITH_AES_256_CBC_SHA",
        "TLS_DH_DSS_WITH_AES_128_CBC_SHA", "TLS_DH_DSS_WITH_AES_256_CBC_SHA",
        "TLS_DH_RSA_WITH_AES_128_CBC_SHA256", "TLS_DH_RSA_WITH_AES_256_CBC_SHA256",
        "TLS_DH_DSS_WITH_AES_128_CBC_SHA256", "TLS_DH_DSS_WITH_AES_256_CBC_SHA256",
        "TLS_DH_RSA_WITH_AES_128_GCM_SHA256", "TLS_DH_RSA_WITH_AES_256_GCM_SHA384",
        "TLS_DH_DSS_WITH_AES_128_GCM_SHA256", "TLS_DH_DSS_WITH_AES_256_GCM_SHA384",
        "TLS_DH_RSA_WITH_CAMELLIA_128_CBC_SHA", "TLS_DH_RSA_WITH_CAMELLIA_256_CBC_SHA",
        "TLS_DH_DSS_WITH_CAMELLIA_128_CBC_SHA", "TLS_DH_DSS_WITH_CAMELLIA_256_CBC_SHA",
        "TLS_DH_RSA_WITH_CAMELLIA_128_CBC_SHA256", "TLS_DH_DSS_WITH_CAMELLIA_128_CBC_SHA256"]),
    (.warning, "Static DH key exchange provides no forward secrecy; SEED is a legacy cipher.",
      ["TLS_DH_RSA_WITH_SEED_CBC_SHA", "TLS_DH_DSS_WITH_SEED_CBC_SHA"]),
    -- Static ECDH key exchange (no forward secrecy)
    (.warning, "Static ECDH key exchange provides no forward secrecy.",
      ["TLS_ECDH_RSA_WITH_AES_128_CBC_SHA", "TLS_ECDH_RSA_WITH_AES_256_CBC_SHA",
        "TLS_ECDH_ECDSA_WITH_AES_128_CBC_SHA", "TLS_ECDH_ECDSA_WITH_AES_256_CBC_SHA",
        "TLS_ECDH_RSA_WITH_AES_128_CBC_SHA256", "TLS_ECDH_RSA_WITH_AES_256_CBC_SHA384",
        "TLS_ECDH_ECDSA_WITH_AES_128_CBC_SHA256", "TLS_ECDH_ECDSA_WITH_AES_256_CBC_SHA384",
        "TLS_ECDH_RSA_WITH_AES_128_GCM_SHA256", "TLS_ECDH_RSA_WITH_AES_256_GCM_SHA384",
        "TLS_ECDH_ECDSA_WITH_AES_128_GCM_SHA256", "TLS_ECDH_ECDSA_WITH_AES_256_GCM_SHA384",
        "TLS_ECDH_RSA_WITH_CAMELLIA_128_CBC_SHA256", "TLS_ECDH_RSA_WITH_CAMELLIA_256_CBC_SHA384",
        "TLS_ECDH_ECDSA_WITH_CAMELLIA_128_CBC_SHA256",
        "TLS_ECDH_ECDSA_WITH_CAMELLIA_256_CBC_SHA384"]),
    -- DHE + CBC (forward secrecy but no AEAD)
    (.warning, "CBC mode without authenticated encryption. Prefer DHE+AES-GCM.",
      ["TLS_DHE_RSA_WITH_AES_128_CBC_SHA", "TLS_DHE_RSA_WITH_AES_256_CBC_SHA",
        "TLS_DHE_RSA_WITH_AES_128_CBC_SHA256", "TLS_DHE_RSA_WITH_AES_256_CBC_SHA256"]),
    (.warning, "CBC mode without authenticated encryption; DSS is rarely used.",
      ["TLS_DHE_DSS_WITH_AES_128_CBC_SHA", "TLS_DHE_DSS_WITH_AES_256_CBC_SHA",
        "TLS_DHE_DSS_WITH_AES_128_CBC_SHA256", "TLS_DHE_DSS_WITH_AES_256_CBC_SHA256"]),
    (.warning, "CBC mode without authenticated encryption.",
      ["TLS_DHE_RSA_WITH_CAMELLIA_128_CBC_SHA", "TLS_DHE_RSA_WITH_CAMELLIA_256_CBC_SHA"]),
    (.warning, "CBC mode without authenticated encryption; DSS is rarely used.",
      ["TLS_DHE_DSS_WITH_CAMELLIA_128_CBC_SHA", "TLS_DHE_DSS_WITH_CAMELLIA_256_CBC_SHA"]),
    (.warning, "CBC mode without authenticated encryption.",
      ["TLS_DHE_RSA_WITH_CAMELLIA_128_CBC_SHA256"]),
    (.warning, "CBC mode without authenticated encryption; DSS is rarely used.",
      ["TLS_DHE_DSS_WITH_CAMELLIA_128_CBC_SHA256"]),
    (.warning, "SEED is a legacy cipher; CBC mode without authenticated encryption.",
      ["TLS_DHE_RSA_WITH_SEED_CBC_SHA"]),
    (.warning,
      "SEED is a legacy cipher; CBC mode without authenticated encryption; DSS is rarely "
        ++ "used.",
      ["TLS_DHE_DSS_WITH_SEED_CBC_SHA"]),
    -- ECDHE + CBC (forward secrecy but no AEAD)
    (.warning,
      "CBC mode without authenticated encryption. Prefer ECDHE+AES-GCM or "
        ++ "ChaCha20-Poly1305.",
      ["TLS_ECDHE_RSA_WITH_AES_128_CBC_SHA", "TLS_ECDHE_RSA_WITH_AES_256_CBC_SHA",
        "TLS_ECDHE_RSA_WITH_AES_128_CBC_SHA256", "TLS_ECDHE_RSA_WITH_AES_256_CBC_SHA384",
        "TLS_ECDHE_ECDSA_WITH_AES_128_CBC_SHA", "TLS_ECDHE_ECDSA_WITH_AES_256_CBC_SHA",
        "TLS_ECDHE_ECDSA_WITH_AES_128_CBC_SHA256", "TLS_ECDHE_ECDSA_WITH_AES_256_CBC_SHA384"]),
    (.warning, "CBC mode without authenticated encryption.",
      ["TLS_ECDHE_RSA_WITH_CAMELLIA_128_CBC_SHA256", "TLS_ECDHE_RSA_WITH_CAMELLIA_256_CBC_SHA384",
        "TLS_ECDHE_ECDSA_WITH_CAMELLIA_128_CBC_SHA256",
        "TLS_ECDHE_ECDSA_WITH_CAMELLIA_256_CBC_SHA384"]),
    -- PSK + CBC (no AEAD)
    (.warning, "CBC mode without authenticated encryption; PSK provides no forward secrecy.",
      ["TLS_PSK_WITH_AES_128_CBC_SHA", "TLS_PSK_WITH_AES_256_CBC_SHA"]),
    (.warning, "CBC mode without authenticated encryption.",
      ["TLS_DHE_PSK_WITH_AES_128_CBC_SHA", "TLS_DHE_PSK_WITH_AES_256_CBC_SHA"]),
    (.warning, "CBC mode without authenticated encryption; static RSA provides no forward secrecy.",
      ["TLS_RSA_PSK_WITH_AES_128_CBC_SHA", "TLS_RSA_PSK_WITH_AES_256_CBC_SHA"]),
    (.warning, "CBC mode without authenticated encryption.",
      ["TLS_ECDHE_PSK_WITH_AES_128_CBC_SHA", "TLS_ECDHE_PSK_WITH_AES_256_CBC_SHA",
        "TLS_ECDHE_PSK_WITH_AES_128_CBC_SHA256", "TLS_ECDHE_PSK_WITH_AES_256_CBC_SHA384"]),
    -- SRP + CBC
    (.warning, "CBC mode without authenticated encryption; SRP is rarely used.",
      ["TLS_SRP_SHA_WITH_AES_128_CBC_SHA", "TLS_SRP_SHA_WITH_AES_256_CBC_SHA",
        "TLS_SRP_SHA_RSA_WITH_AES_128_CBC_SHA", "TLS_SRP_SHA_RSA_WITH_AES_256_CBC_SHA"]),
    (.warning, "CBC mode without authenticated encryption; SRP+DSS is rarely used.",
      ["TLS_SRP_SHA_DSS_WITH_AES_128_CBC_SHA", "TLS_SRP_SHA_DSS_WITH_AES_256_CBC_SHA"]),
    -- DHE + CCM-8 (truncated tag)
    (.warning, "CCM-8 has a truncated 8-byte authentication tag; reduced integrity assurance.",
      ["TLS_DHE_RSA_WITH_AES_128_CCM_8", "TLS_DHE_RSA_WITH_AES_256_CCM_8"]),
    (.warning, "PSK provides no forward secrecy.",
      ["TLS_PSK_WITH_AES_128_CCM", "TLS_PSK_WITH_AES_256_CCM"]),
    (.warning, "PSK provides no forward secrecy; CCM-8 has a truncated authentication tag.",
      ["TLS_PSK_WITH_AES_128_CCM_8", "TLS_PSK_WITH_AES_256_CCM_8"]),
    (.warning, "CCM-8 has a truncated 8-byte authentication tag; reduced integrity assurance.",
      ["TLS_PSK_DHE_WITH_AES_128_CCM_8", "TLS_PSK_DHE_WITH_AES_256_CCM_8",
        "TLS_ECDHE_ECDSA_WITH_AES_128_CCM_8", "TLS_ECDHE_ECDSA_WITH_AES_256_CCM_8"]),
    -- DHE + DSS + GCM
    (.warning, "AEAD with forward secrecy, but DSS/DSA is rarely used and being phased out.",
      ["TLS_DHE_DSS_WITH_AES_128_GCM_SHA256", "TLS_DHE_DSS_WITH_AES_256_GCM_SHA384"]),
    -- DHE + AEAD
    (.ok, "Forward secrecy with AES-128-GCM (AEAD). Recommended when ECDHE is unavailable.",
      ["TLS_DHE_RSA_WITH_AES_128_GCM_SHA256"]),
    (.ok, "Forward secrecy with AES-256-GCM (AEAD). Recommended when ECDHE is unavailable.",
      ["TLS_DHE_RSA_WITH_AES_256_GCM_SHA384"]),
    (.ok, "Forward secrecy with AES-128-CCM (AEAD).",
      ["TLS_DHE_RSA_WITH_AES_128_CCM"]),
    (.ok, "Forward secrecy with AES-256-CCM (AEAD).",
      ["TLS_DHE_RSA_WITH_AES_256_CCM"]),
    (.ok, "Forward secrecy with ChaCha20-Poly1305 (AEAD).",
      ["TLS_DHE_RSA_WITH_CHACHA20_POLY1305_SHA256"]),
    (.ok, "Forward secrecy with AES-128-GCM (AEAD).",
      ["TLS_DHE_PSK_WITH_AES_128_GCM_SHA256"]),
    (.ok, "Forward secrecy with AES-256-GCM (AEAD).",
      ["TLS_DHE_PSK_WITH_AES_256_GCM_SHA384"]),
    (.ok, "Forward secrecy with AES-128-CCM (AEAD).",
      ["TLS_DHE_PSK_WITH_AES_128_CCM"]),
    (.ok, "Forward secrecy with AES-256-CCM (AEAD).",
      ["TLS_DHE_PSK_WITH_AES_256_CCM"]),
    (.ok, "Forward secrecy with ChaCha20-Poly1305 (AEAD).",
      ["TLS_DHE_PSK_WITH_CHACHA20_POLY1305_SHA256"]),
    -- ECDHE + AEAD (recommended)
    (.ok, "Forward secrecy with AES-128-GCM (AEAD). Recommended.",
      ["TLS_ECDHE_RSA_WITH_AES_128_GCM_SHA256"]),
    (.ok, "Forward secrecy with AES-256-GCM (AEAD). Recommended.",
      ["TLS_ECDHE_RSA_WITH_AES_256_GCM_SHA384"]),
    (.ok, "Forward secrecy with AES-128-GCM (AEAD). Recommended.",
      ["TLS_ECDHE_ECDSA_WITH_AES_128_GCM_SHA256"]),
    (.ok, "Forward secrecy with AES-256-GCM (AEAD). Recommended.",
      ["TLS_ECDHE_ECDSA_WITH_AES_256_GCM_SHA384"]),
    (.ok,
      "Forward secrecy with ChaCha20-Poly1305 (AEAD). Recommended; preferred on hardware "
        ++ "without AES acceleration.",
      ["TLS_ECDHE_RSA_WITH_CHACHA20_POLY1305_SHA256",
        "TLS_ECDHE_ECDSA_WITH_CHACHA20_POLY1305_SHA256"]),
    (.ok, "Forward secrecy with AES-128-CCM (AEAD).",
      ["TLS_ECDHE_ECDSA_WITH_AES_128_CCM"]),
    (.ok, "Forward secrecy with AES-256-CCM (AEAD).",
      ["TLS_ECDHE_ECDSA_WITH_AES_256_CCM"]),
    (.ok, "Forward secrecy with ChaCha20-Poly1305 (AEAD).",
      ["TLS_ECDHE_PSK_WITH_CHACHA20_POLY1305_SHA256"]),
    (.ok, "ChaCha20-Poly1305 (AEAD); note PSK alone provides no forward secrecy.",
      ["TLS_PSK_WITH_CHACHA20_POLY1305_SHA256"]),
    (.ok, "ChaCha20-Poly1305 (AEAD); note RSA-PSK provides no forward secrecy.",
      ["TLS_RSA_PSK_WITH_CHACHA20_POLY1305_SHA256"]),
    -- TLS 1.3 suites
    (.ok, "TLS 1.3 mandatory suite. AEAD with built-in forward secrecy.",
      ["TLS_AES_128_GCM_SHA256"]),
    (.ok, "TLS 1.3 suite. AEAD with built-in forward secrecy.",
      ["TLS_AES_256_GCM_SHA384"]),
    (.ok,
      "TLS 1.3 suite. AEAD with built-in forward secrecy; preferred on hardware without "
        ++ "AES acceleration.",
      ["TLS_CHACHA20_POLY1305_SHA256"])]

/-- `cipherClassifications`. -/
def cipherClassifications : List (String × Finding) :=
  classified.flatMap fun row => row.2.2.map fun name => (name, ⟨name, row.2.1, row.1⟩)

/-- `CipherSeverity`. -/
def cipherSeverity (name : String) : Severity :=
  match cipherClassifications.lookup name with
  | some f => f.severity
  | none => .ok

/-- What is said of a suite that is not classified. -/
def unknownReason : String :=
  "Not a known-weak cipher suite; verify against your organisation's policy."

/-- `CipherReason`. -/
def cipherReason (name : String) : String :=
  match cipherClassifications.lookup name with
  | some f => f.reason
  | none => unknownReason

/-- The finding of a suite says which suite it is of. -/
theorem name_of_lookup {name : String} {f : Finding}
    (h : cipherClassifications.lookup name = some f) : f.name = name := by
  obtain ⟨before, after, hrows, -⟩ := List.lookup_eq_some_iff.mp h
  have hmem : (name, f) ∈ cipherClassifications := by
    rw [hrows]
    exact List.mem_append_right _ List.mem_cons_self
  obtain ⟨row, -, hrow⟩ := List.mem_flatMap.mp hmem
  obtain ⟨listed, -, hpair⟩ := List.mem_map.mp hrow
  obtain ⟨hname, hf⟩ := Prod.mk.inj hpair
  rw [← hf, ← hname]

end TLSentinel.TLSProfile
