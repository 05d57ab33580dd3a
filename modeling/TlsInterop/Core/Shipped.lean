import TlsInterop.Core.Matrix

/-!
# The shipped capability documents

The three `wrappers/*/capabilities.json` files of the repository, entry for
entry, and the repository that holds them.

## Main definitions

* `opensslCapabilities`, `gnutlsCapabilities`, `nssCapabilities` — the documents.
* `shippedRepo`, `noCerts` — the repository with these three backends, and no certificates.

## Main results

* `shippedRepo_load` — which names load, and which document each one gives.
-/

namespace TlsInterop

open Py

/-- A JSON object whose values are strings. -/
def strTable (entries : Dict String String) : Json := .obj (entries.map fun e => (e.1, .str e.2))

/-! ### OpenSSL -/

/-- The TLS 1.3 cipher suites of OpenSSL. -/
def opensslTls13Ciphers : Dict String String :=
  [("aes-128-gcm", "TLS_AES_128_GCM_SHA256"), ("aes-128-ccm", "TLS_AES_128_CCM_SHA256"),
    ("aes-256-gcm", "TLS_AES_256_GCM_SHA384"),
    ("chacha20-poly1305", "TLS_CHACHA20_POLY1305_SHA256")]

/-- The TLS 1.2 cipher suites of OpenSSL. -/
def opensslTls12Ciphers : Dict String String :=
  [("ecdhe-rsa-aes-128-gcm-sha256", "ECDHE-RSA-AES128-GCM-SHA256"),
    ("ecdhe-rsa-aes-256-gcm-sha384", "ECDHE-RSA-AES256-GCM-SHA384"),
    ("ecdhe-rsa-chacha20-poly1305", "ECDHE-RSA-CHACHA20-POLY1305"),
    ("ecdhe-ecdsa-aes-128-gcm-sha256", "ECDHE-ECDSA-AES128-GCM-SHA256"),
    ("ecdhe-ecdsa-aes-256-gcm-sha384", "ECDHE-ECDSA-AES256-GCM-SHA384"),
    ("ecdhe-ecdsa-chacha20-poly1305", "ECDHE-ECDSA-CHACHA20-POLY1305"),
    ("dhe-rsa-aes-128-gcm-sha256", "DHE-RSA-AES128-GCM-SHA256"),
    ("dhe-rsa-aes-256-gcm-sha384", "DHE-RSA-AES256-GCM-SHA384"),
    ("rsa-aes-128-gcm-sha256", "AES128-GCM-SHA256"),
    ("rsa-aes-256-gcm-sha384", "AES256-GCM-SHA384"), ("rsa-aes-128-ccm", "AES128-CCM"),
    ("rsa-aes-128-ccm-8", "AES128-CCM8"), ("rsa-aes-128-cbc-sha256", "AES128-SHA256"),
    ("rsa-aes-256-ccm", "AES256-CCM"), ("rsa-aes-256-ccm-8", "AES256-CCM8"),
    ("rsa-aes-256-cbc-sha256", "AES256-SHA256"),
    ("rsa-aria-128-gcm-sha256", "ARIA128-GCM-SHA256"),
    ("rsa-aria-256-gcm-sha384", "ARIA256-GCM-SHA384"),
    ("rsa-camellia-128-cbc-sha256", "CAMELLIA128-SHA256"),
    ("rsa-camellia-256-cbc-sha256", "CAMELLIA256-SHA256"),
    ("dhe-dss-aes-128-gcm-sha256", "DHE-DSS-AES128-GCM-SHA256"),
    ("dhe-dss-aes-128-cbc-sha256", "DHE-DSS-AES128-SHA256"),
    ("dhe-dss-aes-256-gcm-sha384", "DHE-DSS-AES256-GCM-SHA384"),
    ("dhe-dss-aes-256-cbc-sha256", "DHE-DSS-AES256-SHA256"),
    ("dhe-dss-aria-128-gcm-sha256", "DHE-DSS-ARIA128-GCM-SHA256"),
    ("dhe-dss-aria-256-gcm-sha384", "DHE-DSS-ARIA256-GCM-SHA384"),
    ("dhe-dss-camellia-128-cbc-sha256", "DHE-DSS-CAMELLIA128-SHA256"),
    ("dhe-dss-camellia-256-cbc-sha256", "DHE-DSS-CAMELLIA256-SHA256"),
    ("dhe-psk-aes-128-ccm", "DHE-PSK-AES128-CCM"),
    ("dhe-psk-aes-128-ccm-8", "DHE-PSK-AES128-CCM8"),
    ("dhe-psk-aes-128-gcm-sha256", "DHE-PSK-AES128-GCM-SHA256"),
    ("dhe-psk-aes-256-ccm", "DHE-PSK-AES256-CCM"),
    ("dhe-psk-aes-256-ccm-8", "DHE-PSK-AES256-CCM8"),
    ("dhe-psk-aes-256-gcm-sha384", "DHE-PSK-AES256-GCM-SHA384"),
    ("dhe-psk-aria-128-gcm-sha256", "DHE-PSK-ARIA128-GCM-SHA256"),
    ("dhe-psk-aria-256-gcm-sha384", "DHE-PSK-ARIA256-GCM-SHA384"),
    ("dhe-psk-chacha20-poly1305", "DHE-PSK-CHACHA20-POLY1305"),
    ("dhe-rsa-aes-128-ccm", "DHE-RSA-AES128-CCM"),
    ("dhe-rsa-aes-128-ccm-8", "DHE-RSA-AES128-CCM8"),
    ("dhe-rsa-aes-128-cbc-sha256", "DHE-RSA-AES128-SHA256"),
    ("dhe-rsa-aes-256-ccm", "DHE-RSA-AES256-CCM"),
    ("dhe-rsa-aes-256-ccm-8", "DHE-RSA-AES256-CCM8"),
    ("dhe-rsa-aes-256-cbc-sha256", "DHE-RSA-AES256-SHA256"),
    ("dhe-rsa-aria-128-gcm-sha256", "DHE-RSA-ARIA128-GCM-SHA256"),
    ("dhe-rsa-aria-256-gcm-sha384", "DHE-RSA-ARIA256-GCM-SHA384"),
    ("dhe-rsa-camellia-128-cbc-sha256", "DHE-RSA-CAMELLIA128-SHA256"),
    ("dhe-rsa-camellia-256-cbc-sha256", "DHE-RSA-CAMELLIA256-SHA256"),
    ("dhe-rsa-chacha20-poly1305", "DHE-RSA-CHACHA20-POLY1305"),
    ("ecdhe-aria-128-gcm-sha256", "ECDHE-ARIA128-GCM-SHA256"),
    ("ecdhe-aria-256-gcm-sha384", "ECDHE-ARIA256-GCM-SHA384"),
    ("ecdhe-ecdsa-aes-128-ccm", "ECDHE-ECDSA-AES128-CCM"),
    ("ecdhe-ecdsa-aes-128-ccm-8", "ECDHE-ECDSA-AES128-CCM8"),
    ("ecdhe-ecdsa-aes-128-cbc-sha256", "ECDHE-ECDSA-AES128-SHA256"),
    ("ecdhe-ecdsa-aes-256-ccm", "ECDHE-ECDSA-AES256-CCM"),
    ("ecdhe-ecdsa-aes-256-ccm-8", "ECDHE-ECDSA-AES256-CCM8"),
    ("ecdhe-ecdsa-aes-256-cbc-sha384", "ECDHE-ECDSA-AES256-SHA384"),
    ("ecdhe-ecdsa-aria-128-gcm-sha256", "ECDHE-ECDSA-ARIA128-GCM-SHA256"),
    ("ecdhe-ecdsa-aria-256-gcm-sha384", "ECDHE-ECDSA-ARIA256-GCM-SHA384"),
    ("ecdhe-ecdsa-camellia-128-cbc-sha256", "ECDHE-ECDSA-CAMELLIA128-SHA256"),
    ("ecdhe-ecdsa-camellia-256-cbc-sha384", "ECDHE-ECDSA-CAMELLIA256-SHA384"),
    ("ecdhe-psk-chacha20-poly1305", "ECDHE-PSK-CHACHA20-POLY1305"),
    ("ecdhe-rsa-aes-128-cbc-sha256", "ECDHE-RSA-AES128-SHA256"),
    ("ecdhe-rsa-aes-256-cbc-sha384", "ECDHE-RSA-AES256-SHA384"),
    ("ecdhe-rsa-camellia-128-cbc-sha256", "ECDHE-RSA-CAMELLIA128-SHA256"),
    ("ecdhe-rsa-camellia-256-cbc-sha384", "ECDHE-RSA-CAMELLIA256-SHA384"),
    ("psk-aes-128-ccm", "PSK-AES128-CCM"), ("psk-aes-128-ccm-8", "PSK-AES128-CCM8"),
    ("psk-aes-128-gcm-sha256", "PSK-AES128-GCM-SHA256"), ("psk-aes-256-ccm", "PSK-AES256-CCM"),
    ("psk-aes-256-ccm-8", "PSK-AES256-CCM8"), ("psk-aes-256-gcm-sha384", "PSK-AES256-GCM-SHA384"),
    ("psk-aria-128-gcm-sha256", "PSK-ARIA128-GCM-SHA256"),
    ("psk-aria-256-gcm-sha384", "PSK-ARIA256-GCM-SHA384"),
    ("psk-chacha20-poly1305", "PSK-CHACHA20-POLY1305"),
    ("rsa-psk-aes-128-gcm-sha256", "RSA-PSK-AES128-GCM-SHA256"),
    ("rsa-psk-aes-256-gcm-sha384", "RSA-PSK-AES256-GCM-SHA384"),
    ("rsa-psk-aria-128-gcm-sha256", "RSA-PSK-ARIA128-GCM-SHA256"),
    ("rsa-psk-aria-256-gcm-sha384", "RSA-PSK-ARIA256-GCM-SHA384"),
    ("dh-anon-aes-128-gcm-sha256", "ADH-AES128-GCM-SHA256"),
    ("dh-anon-aes-128-cbc-sha256", "ADH-AES128-SHA256"),
    ("dh-anon-aes-256-gcm-sha384", "ADH-AES256-GCM-SHA384"),
    ("dh-anon-aes-256-cbc-sha256", "ADH-AES256-SHA256"),
    ("dh-anon-camellia-128-cbc-sha256", "ADH-CAMELLIA128-SHA256"),
    ("dh-anon-camellia-256-cbc-sha256", "ADH-CAMELLIA256-SHA256")]

/-- The groups of OpenSSL. -/
def opensslGroups : Dict String String :=
  [("x25519", "x25519"), ("x448", "x448"), ("secp-256r1", "secp256r1"),
    ("secp-384r1", "secp384r1"), ("secp-521r1", "secp521r1"),
    ("brainpool-256r1", "brainpoolP256r1tls13"), ("brainpool-384r1", "brainpoolP384r1tls13"),
    ("brainpool-512r1", "brainpoolP512r1tls13"), ("ffdhe-2048", "ffdhe2048"),
    ("ffdhe-3072", "ffdhe3072"), ("ffdhe-4096", "ffdhe4096"), ("ffdhe-6144", "ffdhe6144"),
    ("ffdhe-8192", "ffdhe8192"), ("mlkem512", "MLKEM512"), ("mlkem768", "MLKEM768"),
    ("mlkem1024", "MLKEM1024"), ("x25519-mlkem768", "X25519MLKEM768"),
    ("secp256r1-mlkem768", "SecP256r1MLKEM768"), ("secp384r1-mlkem1024", "SecP384r1MLKEM1024")]

/-- The signature schemes of OpenSSL. -/
def opensslSchemes : Dict String String :=
  [("rsa-pkcs1-sha1", "rsa_pkcs1_sha1"), ("rsa-pkcs1-sha224", "rsa_pkcs1_sha224"),
    ("rsa-pkcs1-sha256", "rsa_pkcs1_sha256"), ("rsa-pkcs1-sha384", "rsa_pkcs1_sha384"),
    ("rsa-pkcs1-sha512", "rsa_pkcs1_sha512"), ("ecdsa-sha1", "ecdsa_sha1"),
    ("ecdsa-sha224", "ecdsa_sha224"), ("ecdsa-secp256r1-sha256", "ecdsa_secp256r1_sha256"),
    ("ecdsa-secp384r1-sha384", "ecdsa_secp384r1_sha384"),
    ("ecdsa-secp521r1-sha512", "ecdsa_secp521r1_sha512"),
    ("ecdsa-brainpool256r1-sha256", "ecdsa_brainpoolP256r1tls13_sha256"),
    ("ecdsa-brainpool384r1-sha384", "ecdsa_brainpoolP384r1tls13_sha384"),
    ("ecdsa-brainpool512r1-sha512", "ecdsa_brainpoolP512r1tls13_sha512"),
    ("rsa-pss-rsae-sha256", "rsa_pss_rsae_sha256"),
    ("rsa-pss-rsae-sha384", "rsa_pss_rsae_sha384"),
    ("rsa-pss-rsae-sha512", "rsa_pss_rsae_sha512"), ("rsa-pss-pss-sha256", "rsa_pss_pss_sha256"),
    ("rsa-pss-pss-sha384", "rsa_pss_pss_sha384"), ("rsa-pss-pss-sha512", "rsa_pss_pss_sha512"),
    ("ed25519", "ed25519"), ("ed448", "ed448"), ("dsa-sha1", "dsa_sha1"),
    ("dsa-sha224", "dsa_sha224"), ("dsa-sha256", "dsa_sha256"), ("dsa-sha384", "dsa_sha384"),
    ("dsa-sha512", "dsa_sha512"), ("mldsa44", "mldsa44"), ("mldsa65", "mldsa65"),
    ("mldsa87", "mldsa87")]

/-- The runtime block of OpenSSL. -/
def opensslRuntime : Dict String Json :=
  [("grpc_addr", .str "127.0.0.1:15051"), ("tls_port", .num 25551),
    ("unsupported_tls_fields", .arr []), ("local_cli", .arr [.str "openssl"])]

/-- The test features of OpenSSL. -/
def opensslFeatures : Dict String Json :=
  [("psk", .obj [("supported", .bool true), ("default_enabled", .bool false),
      ("wired", .bool true), ("identity", .str "interop"),
      ("secret_hex_128", .str "0123456789abcdef0123456789abcdef"),
      ("secret_hex_256", .str "0123456789abcdef0123456789abcdef0123456789abcdef0123456789abcdef")]),
    ("anonymous", .obj [("supported", .bool true), ("default_enabled", .bool false),
      ("wired", .bool true)]),
    ("mtls", .obj [("supported", .bool true), ("wired", .bool true),
      ("description", .str "Mutual TLS client certificate authentication")]),
    ("resumption", .obj [("supported", .bool true), ("wired", .bool true),
      ("description", .str "TLS 1.3 Session Resumption using NewSessionTicket")]),
    ("0rtt", .obj [("supported", .bool true), ("wired", .bool true),
      ("description", .str "TLS 1.3 Zero-RTT Early Data")])]

/-- The ALPN block of OpenSSL. -/
def opensslAlpn : Dict String Json :=
  [("h2", .obj [("supported", .bool true), ("description", .str "HTTP/2 over TLS")]),
    ("http/1.1", .obj [("supported", .bool true), ("description", .str "HTTP/1.1 traditional")])]

/-- `wrappers/openssl/capabilities.json`. -/
def opensslCapabilities : Capabilities :=
  [("runtime", .obj opensslRuntime),
    ("tls_version", strTable [("1.2", "-tls1_2"), ("1.3", "-tls1_3")]),
    ("tls13", .obj [("cipher_suite", strTable opensslTls13Ciphers)]),
    ("tls12", .obj [("cipher_suite", strTable opensslTls12Ciphers)]),
    ("supported_groups", strTable opensslGroups), ("signature_schemes", strTable opensslSchemes),
    ("test_features", .obj opensslFeatures), ("alpn_protocols", .obj opensslAlpn)]

/-! ### GnuTLS -/

/-- The TLS 1.3 cipher suites of GnuTLS. -/
def gnutlsTls13Ciphers : Dict String String :=
  [("aes-128-gcm", "+AES-128-GCM"), ("aes-128-ccm", "+AES-128-CCM"),
    ("aes-128-ccm-8", "+AES-128-CCM-8"), ("aes-256-gcm", "+AES-256-GCM"),
    ("chacha20-poly1305", "+CHACHA20-POLY1305")]

/-- The TLS 1.2 cipher suites of GnuTLS. -/
def gnutlsTls12Ciphers : Dict String String :=
  [("ecdhe-rsa-aes-128-ccm", "+ECDHE-RSA:+AES-128-CCM"),
    ("ecdhe-rsa-aes-256-ccm", "+ECDHE-RSA:+AES-256-CCM"),
    ("ecdhe-rsa-aes-128-gcm-sha256", "+ECDHE-RSA:+AES-128-GCM"),
    ("ecdhe-rsa-aes-256-gcm-sha384", "+ECDHE-RSA:+AES-256-GCM"),
    ("ecdhe-rsa-chacha20-poly1305", "+ECDHE-RSA:+CHACHA20-POLY1305"),
    ("ecdhe-ecdsa-aes-128-ccm", "+ECDHE-ECDSA:+AES-128-CCM"),
    ("ecdhe-ecdsa-aes-128-ccm-8", "+ECDHE-ECDSA:+AES-128-CCM-8"),
    ("ecdhe-ecdsa-aes-256-ccm", "+ECDHE-ECDSA:+AES-256-CCM"),
    ("ecdhe-ecdsa-aes-256-ccm-8", "+ECDHE-ECDSA:+AES-256-CCM-8"),
    ("ecdhe-ecdsa-aes-128-gcm-sha256", "+ECDHE-ECDSA:+AES-128-GCM"),
    ("ecdhe-ecdsa-aes-256-gcm-sha384", "+ECDHE-ECDSA:+AES-256-GCM"),
    ("ecdhe-ecdsa-chacha20-poly1305", "+ECDHE-ECDSA:+CHACHA20-POLY1305"),
    ("dhe-rsa-aes-128-ccm", "+DHE-RSA:+AES-128-CCM"),
    ("dhe-rsa-aes-128-ccm-8", "+DHE-RSA:+AES-128-CCM-8"),
    ("dhe-rsa-aes-128-gcm-sha256", "+DHE-RSA:+AES-128-GCM"),
    ("dhe-rsa-aes-256-ccm", "+DHE-RSA:+AES-256-CCM"),
    ("dhe-rsa-aes-256-ccm-8", "+DHE-RSA:+AES-256-CCM-8"),
    ("dhe-rsa-aes-256-gcm-sha384", "+DHE-RSA:+AES-256-GCM"),
    ("dhe-rsa-chacha20-poly1305", "+DHE-RSA:+CHACHA20-POLY1305"),
    ("rsa-aes-128-ccm", "+RSA:+AES-128-CCM"), ("rsa-aes-128-gcm-sha256", "+RSA:+AES-128-GCM"),
    ("rsa-aes-256-ccm", "+RSA:+AES-256-CCM"), ("rsa-aes-256-gcm-sha384", "+RSA:+AES-256-GCM"),
    ("dh-anon-aes-128-cbc-sha256", "+ANON-DH:+AES-128-CBC"),
    ("dh-anon-aes-128-gcm-sha256", "+ANON-DH:+AES-128-GCM"),
    ("dh-anon-aes-256-cbc-sha256", "+ANON-DH:+AES-256-CBC"),
    ("dh-anon-aes-256-gcm-sha384", "+ANON-DH:+AES-256-GCM"),
    ("dh-anon-camellia-128-cbc-sha256", "+ANON-DH:+CAMELLIA-128-CBC"),
    ("dh-anon-camellia-128-gcm-sha256", "+ANON-DH:+CAMELLIA-128-GCM"),
    ("dh-anon-camellia-256-cbc-sha256", "+ANON-DH:+CAMELLIA-256-CBC"),
    ("dh-anon-camellia-256-gcm-sha384", "+ANON-DH:+CAMELLIA-256-GCM"),
    ("dhe-dss-aes-128-cbc-sha256", "+DHE-DSS:+AES-128-CBC"),
    ("dhe-dss-aes-128-gcm-sha256", "+DHE-DSS:+AES-128-GCM"),
    ("dhe-dss-aes-256-cbc-sha256", "+DHE-DSS:+AES-256-CBC"),
    ("dhe-dss-aes-256-gcm-sha384", "+DHE-DSS:+AES-256-GCM"),
    ("dhe-dss-camellia-128-cbc-sha256", "+DHE-DSS:+CAMELLIA-128-CBC"),
    ("dhe-dss-camellia-128-gcm-sha256", "+DHE-DSS:+CAMELLIA-128-GCM"),
    ("dhe-dss-camellia-256-cbc-sha256", "+DHE-DSS:+CAMELLIA-256-CBC"),
    ("dhe-dss-camellia-256-gcm-sha384", "+DHE-DSS:+CAMELLIA-256-GCM"),
    ("dhe-psk-aes-128-cbc-sha256", "+DHE-PSK:+AES-128-CBC"),
    ("dhe-psk-aes-128-ccm", "+DHE-PSK:+AES-128-CCM"),
    ("dhe-psk-aes-128-ccm-8", "+DHE-PSK:+AES-128-CCM-8"),
    ("dhe-psk-aes-128-gcm-sha256", "+DHE-PSK:+AES-128-GCM"),
    ("dhe-psk-aes-256-cbc-sha384", "+DHE-PSK:+AES-256-CBC"),
    ("dhe-psk-aes-256-ccm", "+DHE-PSK:+AES-256-CCM"),
    ("dhe-psk-aes-256-ccm-8", "+DHE-PSK:+AES-256-CCM-8"),
    ("dhe-psk-aes-256-gcm-sha384", "+DHE-PSK:+AES-256-GCM"),
    ("dhe-psk-camellia-128-cbc-sha256", "+DHE-PSK:+CAMELLIA-128-CBC"),
    ("dhe-psk-camellia-128-gcm-sha256", "+DHE-PSK:+CAMELLIA-128-GCM"),
    ("dhe-psk-camellia-256-cbc-sha384", "+DHE-PSK:+CAMELLIA-256-CBC"),
    ("dhe-psk-camellia-256-gcm-sha384", "+DHE-PSK:+CAMELLIA-256-GCM"),
    ("dhe-psk-chacha20-poly1305", "+DHE-PSK:+CHACHA20-POLY1305"),
    ("dhe-psk-null-sha256", "+DHE-PSK:+NULL"), ("dhe-psk-null-sha384", "+DHE-PSK:+NULL"),
    ("dhe-rsa-aes-128-cbc-sha256", "+DHE-RSA:+AES-128-CBC"),
    ("dhe-rsa-aes-256-cbc-sha256", "+DHE-RSA:+AES-256-CBC"),
    ("dhe-rsa-camellia-128-cbc-sha256", "+DHE-RSA:+CAMELLIA-128-CBC"),
    ("dhe-rsa-camellia-128-gcm-sha256", "+DHE-RSA:+CAMELLIA-128-GCM"),
    ("dhe-rsa-camellia-256-cbc-sha256", "+DHE-RSA:+CAMELLIA-256-CBC"),
    ("dhe-rsa-camellia-256-gcm-sha384", "+DHE-RSA:+CAMELLIA-256-GCM"),
    ("ecdhe-ecdsa-aes-128-cbc-sha256", "+ECDHE-ECDSA:+AES-128-CBC"),
    ("ecdhe-ecdsa-aes-256-cbc-sha384", "+ECDHE-ECDSA:+AES-256-CBC"),
    ("ecdhe-ecdsa-camellia-128-cbc-sha256", "+ECDHE-ECDSA:+CAMELLIA-128-CBC"),
    ("ecdhe-ecdsa-camellia-128-gcm-sha256", "+ECDHE-ECDSA:+CAMELLIA-128-GCM"),
    ("ecdhe-ecdsa-camellia-256-cbc-sha384", "+ECDHE-ECDSA:+CAMELLIA-256-CBC"),
    ("ecdhe-ecdsa-camellia-256-gcm-sha384", "+ECDHE-ECDSA:+CAMELLIA-256-GCM"),
    ("ecdhe-psk-aes-128-cbc-sha256", "+ECDHE-PSK:+AES-128-CBC"),
    ("ecdhe-psk-aes-256-cbc-sha384", "+ECDHE-PSK:+AES-256-CBC"),
    ("ecdhe-psk-camellia-128-cbc-sha256", "+ECDHE-PSK:+CAMELLIA-128-CBC"),
    ("ecdhe-psk-camellia-256-cbc-sha384", "+ECDHE-PSK:+CAMELLIA-256-CBC"),
    ("ecdhe-psk-chacha20-poly1305", "+ECDHE-PSK:+CHACHA20-POLY1305"),
    ("ecdhe-psk-null-sha256", "+ECDHE-PSK:+NULL"),
    ("ecdhe-rsa-aes-128-cbc-sha256", "+ECDHE-RSA:+AES-128-CBC"),
    ("ecdhe-rsa-aes-256-cbc-sha384", "+ECDHE-RSA:+AES-256-CBC"),
    ("ecdhe-rsa-camellia-128-cbc-sha256", "+ECDHE-RSA:+CAMELLIA-128-CBC"),
    ("ecdhe-rsa-camellia-128-gcm-sha256", "+ECDHE-RSA:+CAMELLIA-128-GCM"),
    ("ecdhe-rsa-camellia-256-cbc-sha384", "+ECDHE-RSA:+CAMELLIA-256-CBC"),
    ("ecdhe-rsa-camellia-256-gcm-sha384", "+ECDHE-RSA:+CAMELLIA-256-GCM"),
    ("gostr341112-256-28147-cnt-imit", "+GOST28147-TC26Z-CFB"),
    ("psk-aes-128-cbc-sha256", "+PSK:+AES-128-CBC"), ("psk-aes-128-ccm", "+PSK:+AES-128-CCM"),
    ("psk-aes-128-ccm-8", "+PSK:+AES-128-CCM-8"), ("psk-aes-128-gcm-sha256", "+PSK:+AES-128-GCM"),
    ("psk-aes-256-cbc-sha384", "+PSK:+AES-256-CBC"), ("psk-aes-256-ccm", "+PSK:+AES-256-CCM"),
    ("psk-aes-256-ccm-8", "+PSK:+AES-256-CCM-8"), ("psk-aes-256-gcm-sha384", "+PSK:+AES-256-GCM"),
    ("psk-camellia-128-cbc-sha256", "+PSK:+CAMELLIA-128-CBC"),
    ("psk-camellia-128-gcm-sha256", "+PSK:+CAMELLIA-128-GCM"),
    ("psk-camellia-256-cbc-sha384", "+PSK:+CAMELLIA-256-CBC"),
    ("psk-camellia-256-gcm-sha384", "+PSK:+CAMELLIA-256-GCM"),
    ("psk-chacha20-poly1305", "+PSK:+CHACHA20-POLY1305"), ("psk-null-sha256", "+PSK:+NULL"),
    ("psk-null-sha384", "+PSK:+NULL"), ("rsa-aes-128-cbc-sha256", "+RSA:+AES-128-CBC"),
    ("rsa-aes-128-ccm-8", "+RSA:+AES-128-CCM-8"), ("rsa-aes-256-cbc-sha256", "+RSA:+AES-256-CBC"),
    ("rsa-aes-256-ccm-8", "+RSA:+AES-256-CCM-8"),
    ("rsa-camellia-128-cbc-sha256", "+RSA:+CAMELLIA-128-CBC"),
    ("rsa-camellia-128-gcm-sha256", "+RSA:+CAMELLIA-128-GCM"),
    ("rsa-camellia-256-cbc-sha256", "+RSA:+CAMELLIA-256-CBC"),
    ("rsa-camellia-256-gcm-sha384", "+RSA:+CAMELLIA-256-GCM"), ("rsa-null-sha256", "+RSA:+NULL"),
    ("rsa-psk-aes-128-cbc-sha256", "+RSA-PSK:+AES-128-CBC"),
    ("rsa-psk-aes-128-gcm-sha256", "+RSA-PSK:+AES-128-GCM"),
    ("rsa-psk-aes-256-cbc-sha384", "+RSA-PSK:+AES-256-CBC"),
    ("rsa-psk-aes-256-gcm-sha384", "+RSA-PSK:+AES-256-GCM"),
    ("rsa-psk-camellia-128-cbc-sha256", "+RSA-PSK:+CAMELLIA-128-CBC"),
    ("rsa-psk-camellia-128-gcm-sha256", "+RSA-PSK:+CAMELLIA-128-GCM"),
    ("rsa-psk-camellia-256-cbc-sha384", "+RSA-PSK:+CAMELLIA-256-CBC"),
    ("rsa-psk-camellia-256-gcm-sha384", "+RSA-PSK:+CAMELLIA-256-GCM"),
    ("rsa-psk-chacha20-poly1305", "+RSA-PSK:+CHACHA20-POLY1305"),
    ("rsa-psk-null-sha256", "+RSA-PSK:+NULL"), ("rsa-psk-null-sha384", "+RSA-PSK:+NULL")]

/-- The groups of GnuTLS. -/
def gnutlsGroups : Dict String String :=
  [("x25519", "X25519"), ("x448", "X448"), ("secp-256r1", "SECP256R1"),
    ("secp-384r1", "SECP384R1"), ("secp-521r1", "SECP521R1"), ("brainpool-256r1", "GC256B"),
    ("brainpool-512r1", "GC512A"), ("ffdhe-2048", "FFDHE2048"), ("ffdhe-3072", "FFDHE3072"),
    ("ffdhe-4096", "FFDHE4096"), ("ffdhe-6144", "FFDHE6144"), ("ffdhe-8192", "FFDHE8192")]

/-- The signature schemes of GnuTLS. -/
def gnutlsSchemes : Dict String String :=
  [("rsa-pkcs1-sha1", "SIGN-RSA-SHA1"), ("rsa-pkcs1-sha224", "SIGN-RSA-SHA224"),
    ("rsa-pkcs1-sha256", "SIGN-RSA-SHA256"), ("rsa-pkcs1-sha384", "SIGN-RSA-SHA384"),
    ("rsa-pkcs1-sha512", "SIGN-RSA-SHA512"), ("ecdsa-sha1", "SIGN-ECDSA-SHA1"),
    ("ecdsa-sha224", "SIGN-ECDSA-SHA224"),
    ("ecdsa-secp256r1-sha256", "SIGN-ECDSA-SECP256R1-SHA256"),
    ("ecdsa-secp384r1-sha384", "SIGN-ECDSA-SECP384R1-SHA384"),
    ("ecdsa-secp521r1-sha512", "SIGN-ECDSA-SECP521R1-SHA512"),
    ("rsa-pss-rsae-sha256", "SIGN-RSA-PSS-RSAE-SHA256"),
    ("rsa-pss-rsae-sha384", "SIGN-RSA-PSS-RSAE-SHA384"),
    ("rsa-pss-rsae-sha512", "SIGN-RSA-PSS-RSAE-SHA512"),
    ("rsa-pss-pss-sha256", "SIGN-RSA-PSS-SHA256"), ("rsa-pss-pss-sha384", "SIGN-RSA-PSS-SHA384"),
    ("rsa-pss-pss-sha512", "SIGN-RSA-PSS-SHA512"), ("ed25519", "SIGN-EdDSA-Ed25519"),
    ("ed448", "SIGN-EdDSA-Ed448"), ("dsa-sha1", "SIGN-DSA-SHA1"),
    ("dsa-sha224", "SIGN-DSA-SHA224"), ("dsa-sha256", "SIGN-DSA-SHA256"),
    ("dsa-sha384", "SIGN-DSA-SHA384"), ("dsa-sha512", "SIGN-DSA-SHA512")]

/-- The runtime block of GnuTLS. -/
def gnutlsRuntime : Dict String Json :=
  [("grpc_addr", .str "127.0.0.1:15052"), ("tls_port", .num 25552),
    ("unsupported_tls_fields", .arr []),
    ("local_cli", .arr [.str "gnutls-cli", .str "gnutls-serv"])]

/-- The test features of GnuTLS. -/
def gnutlsFeatures : Dict String Json :=
  [("psk", .obj [("supported", .bool true), ("default_enabled", .bool false),
      ("wired", .bool true), ("identity", .str "interop"),
      ("secret_hex_128", .str "0123456789abcdef0123456789abcdef"),
      ("secret_hex_256", .str "0123456789abcdef0123456789abcdef0123456789abcdef0123456789abcdef")]),
    ("anonymous", .obj [("supported", .bool true), ("default_enabled", .bool false),
      ("wired", .bool true)]),
    ("mtls", .obj [("supported", .bool true), ("wired", .bool true),
      ("description", .str "Mutual TLS client certificate authentication")]),
    ("resumption", .obj [("supported", .bool true), ("wired", .bool true),
      ("description", .str "TLS 1.3 Session Resumption using NewSessionTicket")]),
    ("0rtt", .obj [("supported", .bool true), ("wired", .bool true),
      ("description", .str "TLS 1.3 Zero-RTT Early Data")])]

/-- The ALPN block of GnuTLS. -/
def gnutlsAlpn : Dict String Json :=
  [("h2", .obj [("supported", .bool true), ("description", .str "HTTP/2 over TLS")]),
    ("http/1.1", .obj [("supported", .bool true), ("description", .str "HTTP/1.1 traditional")])]

/-- The priority strings GnuTLS starts from, by role and version. -/
def gnutlsPriorityBase : Dict String String :=
  [("server:1.3", "NORMAL:-VERS-ALL:+VERS-TLS1.3"),
    ("server:1.2", "NORMAL:%COMPAT:-VERS-SSL3.0:-VERS-TLS1.0:-VERS-TLS1.1:-VERS-ALL:+VERS-TLS1.2"),
    ("client:1.3", "NORMAL:-VERS-ALL:+VERS-TLS1.3"),
    ("client:1.2", "NORMAL:-VERS-ALL:+VERS-TLS1.2")]

/-- `wrappers/gnutls/capabilities.json`. -/
def gnutlsCapabilities : Capabilities :=
  [("runtime", .obj gnutlsRuntime), ("gnutls_priority_base", strTable gnutlsPriorityBase),
    ("tls13", .obj [("cipher_suite", strTable gnutlsTls13Ciphers)]),
    ("tls12", .obj [("cipher_suite", strTable gnutlsTls12Ciphers)]),
    ("supported_groups", strTable gnutlsGroups), ("signature_schemes", strTable gnutlsSchemes),
    ("test_features", .obj gnutlsFeatures), ("alpn_protocols", .obj gnutlsAlpn)]

/-! ### NSS -/

/-- The TLS 1.3 cipher suites of NSS. -/
def nssTls13Ciphers : Dict String String :=
  [("aes-128-gcm", ":1301"), ("aes-256-gcm", ":1302"), ("chacha20-poly1305", ":1303")]

/-- The TLS 1.2 cipher suites of NSS. -/
def nssTls12Ciphers : Dict String String :=
  [("rsa-3des-ede-cbc-sha", ":000A"), ("rsa-aes-128-cbc-sha", ":002F"),
    ("rsa-aes-128-cbc-sha256", ":003C"), ("rsa-aes-256-cbc-sha", ":0035"),
    ("rsa-aes-256-cbc-sha256", ":003D"), ("rsa-camellia-128-cbc-sha", ":0041"),
    ("rsa-camellia-256-cbc-sha", ":0084"), ("rsa-des-cbc-sha", ":0009"),
    ("dh-anon-3des-ede-cbc-sha", ":001B"), ("dh-anon-aes-128-cbc-sha", ":0034"),
    ("dh-anon-aes-256-cbc-sha", ":003A"), ("dh-anon-camellia-128-cbc-sha", ":0046"),
    ("dh-anon-camellia-256-cbc-sha", ":0089"), ("dh-anon-des-cbc-sha", ":001A"),
    ("dh-anon-rc4-128-md5", ":0018"), ("dh-dss-3des-ede-cbc-sha", ":000D"),
    ("dh-dss-aes-128-cbc-sha", ":0030"), ("dh-dss-aes-256-cbc-sha", ":0036"),
    ("dh-dss-camellia-128-cbc-sha", ":0042"), ("dh-dss-camellia-256-cbc-sha", ":0085"),
    ("dh-dss-des-cbc-sha", ":000C"), ("dh-rsa-3des-ede-cbc-sha", ":0010"),
    ("dh-rsa-aes-128-cbc-sha", ":0031"), ("dh-rsa-aes-256-cbc-sha", ":0037"),
    ("dh-rsa-camellia-128-cbc-sha", ":0043"), ("dh-rsa-camellia-256-cbc-sha", ":0086"),
    ("dh-rsa-des-cbc-sha", ":000F"), ("dhe-dss-3des-ede-cbc-sha", ":0013"),
    ("dhe-dss-aes-128-cbc-sha", ":0032"), ("dhe-dss-aes-128-cbc-sha256", ":0040"),
    ("dhe-dss-aes-128-gcm-sha256", ":00A2"), ("dhe-dss-aes-256-cbc-sha", ":0038"),
    ("dhe-dss-aes-256-cbc-sha256", ":006A"), ("dhe-dss-aes-256-gcm-sha384", ":00A3"),
    ("dhe-dss-camellia-128-cbc-sha", ":0044"), ("dhe-dss-camellia-256-cbc-sha", ":0087"),
    ("dhe-dss-des-cbc-sha", ":0012"), ("dhe-dss-rc4-128-sha", ":0066"),
    ("dhe-rsa-3des-ede-cbc-sha", ":0016"), ("dhe-rsa-aes-128-cbc-sha", ":0033"),
    ("dhe-rsa-aes-128-cbc-sha256", ":0067"), ("dhe-rsa-aes-128-gcm-sha256", ":009E"),
    ("dhe-rsa-aes-256-cbc-sha", ":0039"), ("dhe-rsa-aes-256-cbc-sha256", ":006B"),
    ("dhe-rsa-aes-256-gcm-sha384", ":009F"), ("dhe-rsa-camellia-128-cbc-sha", ":0045"),
    ("dhe-rsa-camellia-256-cbc-sha", ":0088"), ("dhe-rsa-chacha20-poly1305", ":CCAA"),
    ("dhe-rsa-des-cbc-sha", ":0015"), ("ecdh-anon-3des-ede-cbc-sha", ":C017"),
    ("ecdh-anon-aes-128-cbc-sha", ":C018"), ("ecdh-anon-aes-256-cbc-sha", ":C019"),
    ("ecdh-anon-null-sha", ":C015"), ("ecdh-anon-rc4-128-sha", ":C016"),
    ("ecdh-ecdsa-3des-ede-cbc-sha", ":C003"), ("ecdh-ecdsa-aes-128-cbc-sha", ":C004"),
    ("ecdh-ecdsa-aes-128-gcm-sha256", ":C02D"), ("ecdh-ecdsa-aes-256-cbc-sha", ":C005"),
    ("ecdh-ecdsa-null-sha", ":C001"), ("ecdh-ecdsa-rc4-128-sha", ":C002"),
    ("ecdh-rsa-3des-ede-cbc-sha", ":C00D"), ("ecdh-rsa-aes-128-cbc-sha", ":C00E"),
    ("ecdh-rsa-aes-128-gcm-sha256", ":C031"), ("ecdh-rsa-aes-256-cbc-sha", ":C00F"),
    ("ecdh-rsa-null-sha", ":C00B"), ("ecdh-rsa-rc4-128-sha", ":C00C"),
    ("ecdhe-ecdsa-3des-ede-cbc-sha", ":C008"), ("ecdhe-ecdsa-aes-128-cbc-sha", ":C009"),
    ("ecdhe-ecdsa-aes-128-cbc-sha256", ":C023"), ("ecdhe-ecdsa-aes-128-gcm-sha256", ":C02B"),
    ("ecdhe-ecdsa-aes-256-cbc-sha", ":C00A"), ("ecdhe-ecdsa-aes-256-cbc-sha384", ":C024"),
    ("ecdhe-ecdsa-aes-256-gcm-sha384", ":C02C"), ("ecdhe-ecdsa-chacha20-poly1305", ":CCA9"),
    ("ecdhe-ecdsa-null-sha", ":C006"), ("ecdhe-ecdsa-rc4-128-sha", ":C007"),
    ("ecdhe-rsa-3des-ede-cbc-sha", ":C012"), ("ecdhe-rsa-aes-128-cbc-sha", ":C013"),
    ("ecdhe-rsa-aes-128-cbc-sha256", ":C027"), ("ecdhe-rsa-aes-128-gcm-sha256", ":C02F"),
    ("ecdhe-rsa-aes-256-cbc-sha", ":C014"), ("ecdhe-rsa-aes-256-cbc-sha384", ":C028"),
    ("ecdhe-rsa-aes-256-gcm-sha384", ":C030"), ("ecdhe-rsa-chacha20-poly1305", ":CCA8"),
    ("ecdhe-rsa-null-sha", ":C010"), ("ecdhe-rsa-rc4-128-sha", ":C011"),
    ("rsa-idea-cbc-sha", ":0007"), ("null-with-null-null", ":0000"), ("rsa-rc4-128-md5", ":0004"),
    ("rsa-rc4-128-sha", ":0005"), ("rsa-aes-128-gcm-sha256", ":009C"),
    ("rsa-aes-256-gcm-sha384", ":009D"), ("rsa-null-sha256", ":003B"),
    ("rsa-seed-cbc-sha", ":0096"), ("rsa-null-md5", ":0001"), ("rsa-null-sha", ":0002")]

/-- The groups of NSS. -/
def nssGroups : Dict String String :=
  [("x25519", "x25519"), ("secp-256r1", "P256"), ("secp-384r1", "P384"), ("secp-521r1", "P521"),
    ("ffdhe-2048", "FF2048"), ("ffdhe-3072", "FF3072"), ("ffdhe-4096", "FF4096"),
    ("ffdhe-6144", "FF6144"), ("ffdhe-8192", "FF8192"), ("xyber76800", "xyber76800"),
    ("x25519-mlkem768", "x25519mlkem768"), ("secp256r1-mlkem768", "secp256r1mlkem768"),
    ("secp384r1-mlkem1024", "secp384r1mlkem1024")]

/-- The signature schemes of NSS. -/
def nssSchemes : Dict String String :=
  [("rsa-pkcs1-sha1", "rsa_pkcs1_sha1"), ("rsa-pkcs1-sha256", "rsa_pkcs1_sha256"),
    ("rsa-pkcs1-sha384", "rsa_pkcs1_sha384"), ("rsa-pkcs1-sha512", "rsa_pkcs1_sha512"),
    ("ecdsa-sha1", "ecdsa_sha1"), ("ecdsa-secp256r1-sha256", "ecdsa_secp256r1_sha256"),
    ("ecdsa-secp384r1-sha384", "ecdsa_secp384r1_sha384"),
    ("ecdsa-secp521r1-sha512", "ecdsa_secp521r1_sha512"),
    ("rsa-pss-rsae-sha256", "rsa_pss_rsae_sha256"),
    ("rsa-pss-rsae-sha384", "rsa_pss_rsae_sha384"),
    ("rsa-pss-rsae-sha512", "rsa_pss_rsae_sha512"), ("rsa-pss-pss-sha256", "rsa_pss_pss_sha256"),
    ("rsa-pss-pss-sha384", "rsa_pss_pss_sha384"), ("rsa-pss-pss-sha512", "rsa_pss_pss_sha512"),
    ("dsa-sha1", "dsa_sha1"), ("dsa-sha256", "dsa_sha256"), ("dsa-sha384", "dsa_sha384"),
    ("dsa-sha512", "dsa_sha512"), ("mldsa44", "mldsa44"), ("mldsa65", "mldsa65"),
    ("mldsa87", "mldsa87")]

/-- The runtime block of NSS. -/
def nssRuntime : Dict String Json :=
  [("grpc_addr", .str "127.0.0.1:15053"), ("tls_port", .num 25553),
    ("unsupported_tls_fields", .arr [.str "certificate", .str "private_key",
      .str "alpn_protocols", .str "expect_hrr"]),
    ("local_cli", .arr [.str "tstclnt", .str "selfserv", .str "stdbuf", .str "certutil",
      .str "pk12util"])]

/-- The test features of NSS. -/
def nssFeatures : Dict String Json :=
  [("psk", .obj [("supported", .bool true), ("default_enabled", .bool false),
      ("wired", .bool true), ("identity", .str "interop"),
      ("secret_hex_128", .str "0123456789abcdef0123456789abcdef"),
      ("secret_hex_256", .str "0123456789abcdef0123456789abcdef0123456789abcdef0123456789abcdef")]),
    ("anonymous", .obj [("supported", .bool false), ("default_enabled", .bool false),
      ("wired", .bool true)]),
    ("mtls", .obj [("supported", .bool true), ("wired", .bool true),
      ("description", .str "Mutual TLS client certificate authentication")]),
    ("resumption", .obj [("supported", .bool true), ("wired", .bool true),
      ("description", .str "TLS 1.3 Session Resumption using internal NSS cache")]),
    ("0rtt", .obj [("supported", .bool true), ("wired", .bool true),
      ("description", .str "TLS 1.3 Zero-RTT Early Data")])]

/-- The ALPN block of NSS. -/
def nssAlpn : Dict String Json :=
  [("supported", .bool false),
    ("description", .str "tstclnt/selfserv do not expose ALPN via CLI (-A reads a file, not ALPN)"),
    ("h2", .obj [("supported", .bool false), ("description", .str "HTTP/2 over TLS")]),
    ("http/1.1", .obj [("supported", .bool false), ("description", .str "HTTP/1.1 traditional")])]

/-- `wrappers/nss/capabilities.json`. -/
def nssCapabilities : Capabilities :=
  [("runtime", .obj nssRuntime), ("tls13", .obj [("cipher_suite", strTable nssTls13Ciphers)]),
    ("tls12", .obj [("cipher_suite", strTable nssTls12Ciphers)]),
    ("supported_groups", strTable nssGroups), ("signature_schemes", strTable nssSchemes),
    ("test_features", .obj nssFeatures), ("alpn_protocols", .obj nssAlpn)]

/-! ### The repository -/

/-- The repository: the three wrapper directories, at a path and with the
certificates `gen_interop_certs.sh` has put there. -/
def shippedRepo (root : String) (certs : String → Option (List UInt8 × List UInt8)) : Repo where
  root := root
  wrappers :=
    [("gnutls", gnutlsCapabilities), ("nss", nssCapabilities), ("openssl", opensslCapabilities)]
  wrappers_named := by simp
  certs := certs

/-- A checkout where no certificate has been generated. -/
def noCerts : String → Option (List UInt8 × List UInt8) := fun _ => none

/-- Which names load, and which document each one gives. -/
theorem shippedRepo_load {root : String} {certs : String → Option (List UInt8 × List UInt8)}
    {name : String} {caps : Capabilities} :
    (shippedRepo root certs).loadBackendCapabilities name = .ok caps ↔
      lower (strip name) = "gnutls" ∧ caps = gnutlsCapabilities ∨
      lower (strip name) = "nss" ∧ caps = nssCapabilities ∨
      lower (strip name) = "openssl" ∧ caps = opensslCapabilities := by
  rw [Repo.loadBackendCapabilities_eq_ok_iff]
  generalize lower (strip name) = key
  simp only [shippedRepo, Dict.get?_cons, Dict.get?_nil]
  by_cases hg : key = "gnutls"
  · subst hg; simp [eq_comm]
  by_cases hn : key = "nss"
  · subst hn; simp [eq_comm]
  by_cases ho : key = "openssl"
  · subst ho; simp [eq_comm]
  simp [hg, hn, ho, Ne.symm hg, Ne.symm hn, Ne.symm ho]

/-- A backend that loads also loads under its normalised name. -/
theorem shippedRepo_load_normalized {root : String}
    {certs : String → Option (List UInt8 × List UInt8)} {name : String} {caps : Capabilities}
    (h : (shippedRepo root certs).loadBackendCapabilities name = .ok caps) :
    (shippedRepo root certs).loadBackendCapabilities (lower (strip name)) = .ok caps := by
  rcases shippedRepo_load.mp h with ⟨hname, rfl⟩ | ⟨hname, rfl⟩ | ⟨hname, rfl⟩ <;> rw [hname]
  · exact shippedRepo_load.mpr (.inl ⟨by decide, rfl⟩)
  · exact shippedRepo_load.mpr (.inr (.inl ⟨by decide, rfl⟩))
  · exact shippedRepo_load.mpr (.inr (.inr ⟨by decide, rfl⟩))

theorem discoverWrapperIds_shippedRepo {root : String}
    {certs : String → Option (List UInt8 × List UInt8)} :
    (shippedRepo root certs).discoverWrapperIds = ["gnutls", "nss", "openssl"] := by
  change sortedSet ["gnutls", "nss", "openssl"] = _
  decide

/-- The documents of the three wrappers, as every plan over the repository reads them. -/
def shippedCapsCache : Dict String Capabilities :=
  [("gnutls", gnutlsCapabilities), ("nss", nssCapabilities), ("openssl", opensslCapabilities)]

theorem capsCache_shippedRepo {root : String}
    {certs : String → Option (List UInt8 × List UInt8)} :
    capsCache (shippedRepo root certs) ["gnutls", "nss", "openssl"] = .ok shippedCapsCache := by
  have hload : ∀ name caps, (shippedRepo root certs).loadBackendCapabilities name = .ok caps →
      ((shippedRepo root certs).loadBackendCapabilities name).map (fun caps => (name, caps))
        = .ok (name, caps) := by
    intro name caps h
    rw [h]
    rfl
  refine mapM_eq_ok.mpr (.cons (hload _ _ ?_) (.cons (hload _ _ ?_) (.cons (hload _ _ ?_) .nil)))
  · exact shippedRepo_load.mpr (.inl ⟨by decide, rfl⟩)
  · exact shippedRepo_load.mpr (.inr (.inl ⟨by decide, rfl⟩))
  · exact shippedRepo_load.mpr (.inr (.inr ⟨by decide, rfl⟩))

end TlsInterop
